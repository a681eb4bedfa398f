import Mathlib.Data.List.Forall2
import Mathlib.Data.List.Flatten

/-! # Delimited texts

When a concatenation of texts can be taken apart in one way only. A text is read together with
whatever stands behind it, as long as that stops the text: it is empty or goes on with a character
that the text cannot contain at that place.

* `run_append_inj`: runs of characters that do not stop.
* `flatMap_append_inj`: items that delimit themselves, up to a terminator.
* `join_append_inj`: items with a separator between them, up to a closing character. -/

namespace Blessing.Lib.Delimited

variable {α γ : Type*} {stop : γ → Prop} {R : α → α → Prop} {f : α → List γ}

/-- A text ends or goes on with a character that stops. -/
def Stops (stop : γ → Prop) (x : List γ) : Prop := ∀ c ∈ x.head?, stop c

theorem stops_nil : Stops stop [] := by
  intro c hc
  cases hc

theorem stops_cons {c : γ} {x : List γ} : Stops stop (c :: x) ↔ stop c := by
  constructor
  · intro h
    exact h c rfl
  · rintro h c' hc'
    obtain rfl := Option.some.inj hc'
    exact h

/-- The text of `a` is told from the text of any `b`, up to `R`, and ends where that one does. -/
def Reads (stop : γ → Prop) (R : α → α → Prop) (f : α → List γ) (a : α) : Prop :=
  ∀ b x y, Stops stop x → Stops stop y → f a ++ x = f b ++ y → R a b ∧ x = y

/-- **Runs**: two texts of characters that do not stop end where the text stops. -/
theorem run_append_inj {u v x y : List γ} (hu : ∀ c ∈ u, ¬ stop c) (hv : ∀ c ∈ v, ¬ stop c)
    (hx : Stops stop x) (hy : Stops stop y) (h : u ++ x = v ++ y) : u = v ∧ x = y := by
  induction u generalizing v with
  | nil =>
    cases v with
    | nil => exact ⟨rfl, h⟩
    | cons c v =>
      rw [List.nil_append, List.cons_append] at h
      rw [h, stops_cons] at hx
      exact absurd hx (hv c List.mem_cons_self)
  | cons c u ih =>
    cases v with
    | nil =>
      rw [List.nil_append, List.cons_append] at h
      rw [← h, stops_cons] at hy
      exact absurd hy (hu c List.mem_cons_self)
    | cons d v =>
      rw [List.cons_append, List.cons_append] at h
      obtain ⟨hc, htail⟩ := List.cons.inj h
      obtain ⟨huv, hxy⟩ := ih (fun c hc => hu c (List.mem_cons_of_mem _ hc))
        (fun c hc => hv c (List.mem_cons_of_mem _ hc)) htail
      exact ⟨by rw [hc, huv], hxy⟩

/-- **Items up to a terminator**: each item delimits itself and does not look like the
terminator. -/
theorem flatMap_append_inj {t : γ} (hf : ∀ a b x y, f a ++ x = f b ++ y → a = b ∧ x = y)
    (ht : ∀ a x y, f a ++ x ≠ t :: y) {as bs : List α} {x y : List γ}
    (h : as.flatMap f ++ t :: x = bs.flatMap f ++ t :: y) : as = bs ∧ x = y := by
  induction as generalizing bs with
  | nil =>
    cases bs with
    | nil => exact ⟨rfl, (List.cons.inj h).2⟩
    | cons b bs =>
      rw [List.flatMap_cons, List.append_assoc] at h
      exact absurd h.symm (ht b _ _)
  | cons a as ih =>
    cases bs with
    | nil =>
      rw [List.flatMap_cons, List.append_assoc] at h
      exact absurd h (ht a _ _)
    | cons b bs =>
      rw [List.flatMap_cons, List.flatMap_cons, List.append_assoc, List.append_assoc] at h
      obtain ⟨hab, htail⟩ := hf a b _ _ h
      obtain ⟨hrest, hxy⟩ := ih htail
      exact ⟨by rw [hab, hrest], hxy⟩

/-- The texts with the separator between them. -/
def join (sep : γ) : List (List γ) → List γ
  | [] => []
  | x :: xs => x ++ xs.flatMap (sep :: ·)

theorem stops_tail {sep close : γ} (hsep : stop sep) (hclose : stop close) (xs : List (List γ))
    (x : List γ) : Stops stop (xs.flatMap (sep :: ·) ++ close :: x) := by
  cases xs with
  | nil => exact stops_cons.mpr hclose
  | cons u us =>
    rw [List.flatMap_cons, List.cons_append, List.cons_append]
    exact stops_cons.mpr hsep

theorem tail_append_inj {sep close : γ} (hne : sep ≠ close) (hsep : stop sep) (hclose : stop close)
    {as bs : List α} {x y : List γ} (has : ∀ a ∈ as, Reads stop R f a)
   
    (h : (as.map f).flatMap (sep :: ·) ++ close :: x = (bs.map f).flatMap (sep :: ·) ++ close :: y) :
    List.Forall₂ R as bs ∧ x = y := by
  induction as generalizing bs with
  | nil =>
    cases bs with
    | nil => exact ⟨.nil, (List.cons.inj h).2⟩
    | cons b bs => exact absurd (List.cons.inj h).1.symm hne
  | cons a as ih =>
    cases bs with
    | nil => exact absurd (List.cons.inj h).1 hne
    | cons b bs =>
      simp only [List.map_cons, List.flatMap_cons, List.cons_append, List.append_assoc] at h
      obtain ⟨hab, h⟩ := has a List.mem_cons_self b _ _ (stops_tail hsep hclose _ _)
        (stops_tail hsep hclose _ _) (List.cons.inj h).2
      obtain ⟨hrest, hxy⟩ := ih (fun a ha => has a (List.mem_cons_of_mem _ ha)) h
      exact ⟨.cons hab hrest, hxy⟩

/-- **Items with a separator between them**, up to a closing character that no item starts with. -/
theorem join_append_inj {sep close : γ} (hne : sep ≠ close) (hsep : stop sep) (hclose : stop close)
    (hstart : ∀ a x y, f a ++ x ≠ close :: y) {as bs : List α} {x y : List γ}
    (has : ∀ a ∈ as, Reads stop R f a)
    (h : join sep (as.map f) ++ close :: x = join sep (bs.map f) ++ close :: y) :
    List.Forall₂ R as bs ∧ x = y := by
  cases as with
  | nil =>
    cases bs with
    | nil => exact ⟨.nil, (List.cons.inj h).2⟩
    | cons b bs =>
      rw [List.map_cons, join, List.append_assoc] at h
      exact absurd h.symm (hstart b _ _)
  | cons a as =>
    cases bs with
    | nil =>
      rw [List.map_cons, join, List.append_assoc] at h
      exact absurd h (hstart a _ _)
    | cons b bs =>
      simp only [List.map_cons, join, List.append_assoc] at h
      obtain ⟨hab, h⟩ := has a List.mem_cons_self b _ _ (stops_tail hsep hclose _ _)
        (stops_tail hsep hclose _ _) h
      obtain ⟨hrest, hxy⟩ := tail_append_inj hne hsep hclose
        (fun a ha => has a (List.mem_cons_of_mem _ ha)) h
      exact ⟨.cons hab hrest, hxy⟩

end Blessing.Lib.Delimited
