import Blessing.Lib.Machine
import Mathlib.Data.List.Perm.Basic

/-! # Calls that overlap

A call looks at the state in one turn and acts in a later one, with what it saw. Between the two
turns other calls look and act. A call is `Idle` if it leaves every state alone with what it saw,
and `Current` if it acts as a call would that looks now.

* `serializable`: if every call is idle or current when it acts, the answers and the last state are
  those of the same calls one after the other, in some order. -/

namespace Blessing.Lib.Overlap

open Machine

/-- What calls see and what they do. -/
structure Service (S C R A : Type*) where
  look : C → S → R
  act : C → R → S → A × S

/-- A call on its way: what it saw, and its answer once it has acted. -/
structure Flight (C R A : Type*) where
  call : C
  looked : R
  answer : Option A

/-- The state and the calls that were started, in this order. -/
structure World (S C R A : Type*) where
  state : S
  flights : List (Flight C R A)

/-- What happens next: a call looks, or the call of this number acts. -/
inductive Turn (C : Type*) where
  | start (c : C)
  | finish (n : ℕ)

variable {S C R A : Type*}

/-- The calls that have acted, with their answers. -/
def finished (flights : List (Flight C R A)) : List (C × A) :=
  flights.filterMap fun f => f.answer.map fun a => (f.call, a)

/-- One turn. A call acts once. -/
def Service.turn (v : Service S C R A) (w : World S C R A) : Turn C → Unit × World S C R A
  | .start c => ((), { w with flights := w.flights ++ [⟨c, v.look c w.state, none⟩] })
  | .finish n =>
    match w.flights[n]? with
    | some ⟨c, r, none⟩ =>
      let (a, s) := v.act c r w.state
      ((), ⟨s, w.flights.set n ⟨c, r, some a⟩⟩)
    | _ => ((), w)

/-- A call that looks and acts at once. -/
def Service.once (v : Service S C R A) (s : S) (c : C) : A × S := v.act c (v.look c s) s

/-- With what it saw the call leaves every state alone. -/
def Service.Idle (v : Service S C R A) (c : C) (r : R) : Prop := ∃ a, ∀ s, v.act c r s = (a, s)

/-- With what it saw the call does what it would do with what it would see now. -/
def Service.Current (v : Service S C R A) (c : C) (r : R) (s : S) : Prop := v.act c r s = v.once s c

/-- A call that acts is idle or current. -/
def Service.Orderly (v : Service S C R A) (w : World S C R A) : Turn C → Prop
  | .start _ => True
  | .finish n => ∀ f, w.flights[n]? = some f → f.answer = none →
    v.Idle f.call f.looked ∨ v.Current f.call f.looked w.state

variable {v : Service S C R A}

theorem turn_finish {w : World S C R A} {n : ℕ} {c : C} {r : R}
    (hn : w.flights[n]? = some ⟨c, r, none⟩) :
    (v.turn w (.finish n)).2 =
      ⟨(v.act c r w.state).2, w.flights.set n ⟨c, r, some (v.act c r w.state).1⟩⟩ := by
  simp only [Service.turn, hn]

theorem turn_finish_of_ne {w : World S C R A} {n : ℕ}
    (hn : ∀ c r, w.flights[n]? ≠ some ⟨c, r, none⟩) : (v.turn w (.finish n)).2 = w := by
  cases hf : w.flights[n]? with
  | none => simp only [Service.turn, hf]
  | some f =>
    obtain ⟨c, r, answer⟩ := f
    cases answer with
    | some a => simp only [Service.turn, hf]
    | none => exact absurd hf (hn c r)

theorem getElem?_of_finish {w : World S C R A} {m n : ℕ} (h : n ≠ m) :
    (v.turn w (.finish n)).2.flights[m]? = w.flights[m]? := by
  by_cases hn : ∃ c r, w.flights[n]? = some ⟨c, r, none⟩
  · obtain ⟨c, r, hn⟩ := hn
    rw [turn_finish hn, List.getElem?_set_ne h]
  · rw [turn_finish_of_ne fun c r hf => hn ⟨c, r, hf⟩]

theorem mem_of_finish {w : World S C R A} {n : ℕ} {f : Flight C R A}
    (hf : f ∈ (v.turn w (.finish n)).2.flights) : ∃ f' ∈ w.flights, f'.call = f.call := by
  by_cases hn : ∃ c r, w.flights[n]? = some ⟨c, r, none⟩
  · obtain ⟨c, r, hn⟩ := hn
    rw [turn_finish hn] at hf
    rcases List.mem_or_eq_of_mem_set hf with hf | rfl
    · exact ⟨f, hf, rfl⟩
    · exact ⟨_, List.mem_of_getElem? hn, rfl⟩
  · rw [turn_finish_of_ne fun c r hf => hn ⟨c, r, hf⟩] at hf
    exact ⟨f, hf, rfl⟩

/-! ### One after the other -/

/-- The calls give these answers one after the other. -/
inductive Serial (v : Service S C R A) : S → List (C × A) → S → Prop
  | nil (s) : Serial v s [] s
  | cons {s c a s₁ trace s'} (h : v.once s c = (a, s₁)) (ht : Serial v s₁ trace s') :
      Serial v s ((c, a) :: trace) s'

theorem serial_append {s s' : S} {l m : List (C × A)} :
    Serial v s (l ++ m) s' ↔ ∃ s₁, Serial v s l s₁ ∧ Serial v s₁ m s' := by
  constructor
  · intro h
    induction l generalizing s with
    | nil => exact ⟨s, .nil s, h⟩
    | cons p l ih =>
      cases h with
      | cons h ht =>
        obtain ⟨s₁, hl, hm⟩ := ih ht
        exact ⟨s₁, .cons h hl, hm⟩
  · rintro ⟨s₁, hl, hm⟩
    induction hl with
    | nil _ => exact hm
    | cons h _ ih => exact .cons h (ih hm)

theorem Serial.run {s s' : S} {trace : List (C × A)} (h : Serial v s trace s') :
    run v.once s (trace.map Prod.fst) = (trace.map Prod.snd, s') := by
  induction h with
  | nil _ => rfl
  | cons h _ ih => simp only [List.map_cons, run_cons, h, ih]

theorem Serial.unique {s s' s'' : S} {trace : List (C × A)} (h : Serial v s trace s')
    (h' : Serial v s trace s'') : s' = s'' := by
  have hrun := h.run
  rw [h'.run] at hrun
  exact (congrArg Prod.snd hrun).symm

/-! ### An order of the calls -/

/-- What the call saw is there after the first calls of the trace. -/
def Saw (v : Service S C R A) (s₀ : S) (trace : List (C × A)) (f : Flight C R A) : Prop :=
  ∃ l m s₁, trace = l ++ m ∧ Serial v s₀ l s₁ ∧ f.looked = v.look f.call s₁

theorem Saw.snoc {s₀ : S} {trace : List (C × A)} {f : Flight C R A} (h : Saw v s₀ trace f)
    (p : C × A) : Saw v s₀ (trace ++ [p]) f := by
  obtain ⟨l, m, s₁, rfl, hl, hf⟩ := h
  exact ⟨l, m ++ [p], s₁, by simp, hl, hf⟩

/-- A call that changes nothing can be put anywhere. -/
theorem Saw.insert {s₀ s₁ : S} {l m : List (C × A)} {c : C} {a : A} {f : Flight C R A}
    (h : Saw v s₀ (l ++ m) f) (hl : Serial v s₀ l s₁) (hc : v.once s₁ c = (a, s₁)) :
    Saw v s₀ (l ++ (c, a) :: m) f := by
  obtain ⟨l', m', s₂, heq, hl', hf⟩ := h
  rcases List.append_eq_append_iff.mp heq with ⟨x, rfl, rfl⟩ | ⟨x, rfl, rfl⟩
  · obtain ⟨s₃, hs₃, hx⟩ := serial_append.mp hl'
    have hinsert : Serial v s₀ (l ++ (c, a) :: x) s₂ :=
      serial_append.mpr ⟨s₁, hl, .cons hc (hs₃.unique hl ▸ hx)⟩
    exact ⟨l ++ (c, a) :: x, m', s₂, by simp, hinsert, hf⟩
  · exact ⟨l', x ++ (c, a) :: m, s₂, by simp, hl', hf⟩

/-- The calls so far have an order. -/
def Ordered (v : Service S C R A) (s₀ : S) (w : World S C R A) : Prop :=
  ∃ trace, trace.Perm (finished w.flights) ∧ Serial v s₀ trace w.state ∧
    ∀ f ∈ w.flights, f.answer = none → Saw v s₀ trace f

theorem ordered_start {s₀ : S} {w : World S C R A} (h : Ordered v s₀ w) (c : C) :
    Ordered v s₀ (v.turn w (.start c)).2 := by
  obtain ⟨trace, hperm, hserial, hsaw⟩ := h
  refine ⟨trace, by simpa [Service.turn, finished] using hperm, hserial, fun f hf hnone => ?_⟩
  rcases List.mem_append.mp hf with hf | hf
  · exact hsaw f hf hnone
  · rw [List.mem_singleton.mp hf]
    exact ⟨trace, [], w.state, by simp, hserial, rfl⟩

theorem finished_set {u x : List (Flight C R A)} {c : C} {r : R} {a : A} :
    ((c, a) :: finished (u ++ ⟨c, r, none⟩ :: x)).Perm (finished (u ++ ⟨c, r, some a⟩ :: x)) := by
  simp only [finished, List.filterMap_append, List.filterMap_cons, Option.map_none, Option.map_some]
  exact List.perm_middle.symm

theorem ordered_finish {s₀ : S} {w : World S C R A} (h : Ordered v s₀ w) {n : ℕ}
    (hok : v.Orderly w (.finish n)) : Ordered v s₀ (v.turn w (.finish n)).2 := by
  cases hn : w.flights[n]? with
  | none => simpa only [Service.turn, hn] using h
  | some f =>
    obtain ⟨c, r, answer⟩ := f
    cases answer with
    | some a => simpa only [Service.turn, hn] using h
    | none =>
      obtain ⟨trace, hperm, hserial, hsaw⟩ := h
      obtain ⟨hlen, hget⟩ := List.getElem?_eq_some_iff.mp hn
      obtain ⟨u, x, hsplit, -, hset⟩ : ∃ u x, w.flights = u ++ w.flights[n] :: x ∧ u.length = n ∧
          w.flights.set n ⟨c, r, some (v.act c r w.state).1⟩ =
            u ++ ⟨c, r, some (v.act c r w.state).1⟩ :: x := List.exists_of_set hlen
      rw [hget] at hsplit
      have hothers (trace' : List (C × A)) (hkeep : ∀ f, Saw v s₀ trace f → Saw v s₀ trace' f) :
          ∀ f ∈ w.flights.set n ⟨c, r, some (v.act c r w.state).1⟩, f.answer = none →
          Saw v s₀ trace' f := by
        intro f hf hnone
        rw [hset] at hf
        have hmem : f ∈ w.flights := by
          rw [hsplit]
          rcases List.mem_append.mp hf with hf | hf
          · exact List.mem_append_left _ hf
          · rcases List.mem_cons.mp hf with rfl | hf
            · cases hnone
            · exact List.mem_append_right _ (List.mem_cons_of_mem _ hf)
        exact hkeep f (hsaw f hmem hnone)
      have hfinished : ((c, (v.act c r w.state).1) :: trace).Perm
          (finished (w.flights.set n ⟨c, r, some (v.act c r w.state).1⟩)) := by
        rw [hset]
        rw [hsplit] at hperm
        exact (hperm.cons _).trans finished_set
      rw [turn_finish hn]
      rcases hok _ hn rfl with ⟨a, hidle⟩ | hcurrent
      · -- the call is put where it looked
        obtain ⟨l, m, s₁, rfl, hl, hlooked⟩ := hsaw ⟨c, r, none⟩ (List.mem_of_getElem? hn) rfl
        have honce : v.once s₁ c = (a, s₁) := by
          rw [Service.once, ← hlooked, hidle]
        rw [hidle] at hothers hfinished ⊢
        refine ⟨l ++ (c, a) :: m, List.perm_middle.trans hfinished, ?_,
          hothers _ fun f hf => hf.insert hl honce⟩
        obtain ⟨s₂, hs₂, hm⟩ := serial_append.mp hserial
        exact serial_append.mpr ⟨s₁, hl, .cons honce (hs₂.unique hl ▸ hm)⟩
      · -- the call comes last
        refine ⟨trace ++ [(c, (v.act c r w.state).1)],
          (List.perm_append_singleton _ _).trans hfinished, ?_,
          hothers _ fun f hf => hf.snoc _⟩
        exact serial_append.mpr ⟨w.state, hserial, .cons hcurrent.symm (.nil _)⟩

/-- **Serial order**: if every call is idle or current when it acts, the calls have a serial
order. -/
theorem serializable (s₀ : S) (ts : List (Turn C)) (hok : Admitted v.turn v.Orderly ⟨s₀, []⟩ ts) :
    ∃ trace : List (C × A), trace.Perm (finished (run v.turn ⟨s₀, []⟩ ts).2.flights) ∧
      run v.once s₀ (trace.map Prod.fst) = (trace.map Prod.snd,
        (run v.turn ⟨s₀, []⟩ ts).2.state) := by
  have hstep : ∀ w t, Ordered v s₀ w → v.Orderly w t → Ordered v s₀ (v.turn w t).2 := by
    intro w t h hok
    cases t with
    | start c => exact ordered_start h c
    | finish n => exact ordered_finish h hok
  have hempty : Ordered v s₀ ⟨s₀, []⟩ := ⟨[], .refl _, .nil _, by simp⟩
  obtain ⟨trace, hperm, hserial, -⟩ := run_inv hstep hempty hok
  exact ⟨trace, hperm, hserial.run⟩

end Blessing.Lib.Overlap
