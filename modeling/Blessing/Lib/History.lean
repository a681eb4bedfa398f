import Blessing.Lib.Machine

/-! # Histories of machines

The history of a run: every step with the state it was taken in, its input and its answer.

* `history_inv`: what every admitted step keeps of the history so far and the state holds at the
  end.
* `history_spec`: under an invariant, what holds of every admitted step holds of every step of a
  history.
* `countP_le_one`: a step that lifts a rank no step lowers is taken once. -/

namespace Blessing.Lib.History

open Machine

variable {S I A : Type*}

/-- A step that was taken. -/
structure Taken (S I A : Type*) where
  before : S
  input : I
  answer : A

/-- The steps of a run. -/
def history (step : S → I → A × S) : S → List I → List (Taken S I A)
  | _, [] => []
  | s, i :: is => ⟨s, i, (step s i).1⟩ :: history step (step s i).2 is

/-- The state after a step. -/
def Taken.after (step : S → I → A × S) (e : Taken S I A) : S := (step e.before e.input).2

variable {step : S → I → A × S} {ok : S → I → Prop} {s : S} {is : List I}

theorem history_pairs :
    (history step s is).map (fun e => (e.input, e.answer)) = is.zip (run step s is).1 := by
  induction is generalizing s with
  | nil => rfl
  | cons i is ih => simp only [history, List.map_cons, run_cons, List.zip_cons_cons, ih]

/-- **Invariants of histories**: the invariant is about the steps so far and the state they lead
to. -/
theorem history_inv {Inv : List (Taken S I A) → S → Prop} {past : List (Taken S I A)}
    (hstep : ∀ h s i, Inv h s → ok s i → Inv (h ++ [⟨s, i, (step s i).1⟩]) (step s i).2)
    (h : Inv past s) (hok : Admitted step ok s is) :
    Inv (past ++ history step s is) (run step s is).2 := by
  induction is generalizing s past with
  | nil => simpa [history] using h
  | cons i is ih =>
    have hnext := ih (hstep past s i h hok.1) hok.2
    simpa [history] using hnext

/-- A step of a history comes after a run, whose history is what stands before the step. -/
theorem history_split {pre post : List (Taken S I A)} {e : Taken S I A}
    (h : history step s is = pre ++ e :: post) :
    ∃ before rest, is = before ++ e.input :: rest ∧ pre = history step s before ∧
      e.before = (run step s before).2 ∧ e.answer = (step e.before e.input).1 := by
  induction is generalizing s pre with
  | nil => simp [history] at h
  | cons i is ih =>
    cases pre with
    | nil =>
      obtain ⟨rfl, -⟩ := List.cons.inj h
      exact ⟨[], is, rfl, rfl, rfl, rfl⟩
    | cons p pre =>
      obtain ⟨rfl, htail⟩ := List.cons.inj h
      obtain ⟨before, rest, rfl, rfl, hb, ha⟩ := ih htail
      exact ⟨i :: before, rest, rfl, rfl, hb, ha⟩

/-- **Steps of histories**: the invariant holds before each of them, of the steps before it. -/
theorem history_spec {Inv : List (Taken S I A) → S → Prop}
    (hstep : ∀ h s i, Inv h s → ok s i → Inv (h ++ [⟨s, i, (step s i).1⟩]) (step s i).2)
    (h : Inv [] s) (hok : Admitted step ok s is) {pre post : List (Taken S I A)} {e : Taken S I A}
    (he : history step s is = pre ++ e :: post) :
    Inv pre e.before ∧ ok e.before e.input ∧ e.answer = (step e.before e.input).1 := by
  obtain ⟨before, rest, rfl, rfl, hb, ha⟩ := history_split he
  obtain ⟨hpre, hrest⟩ := admitted_append.mp hok
  have hinv := history_inv hstep h hpre
  rw [List.nil_append, ← hb] at hinv
  exact ⟨hinv, hb ▸ hrest.1, ha⟩

section

variable {Inv : S → Prop} {rank : S → ℕ} {n : ℕ} {p : Taken S I A → Bool}

theorem countP_eq_zero (hstep : ∀ s i, Inv s → ok s i → Inv (step s i).2)
    (hrank : ∀ s i, Inv s → ok s i → rank s ≤ rank (step s i).2)
    (hp : ∀ s i, Inv s → ok s i → p ⟨s, i, (step s i).1⟩ = true → rank s < n)
    (h : Inv s) (hok : Admitted step ok s is) (hn : n ≤ rank s) :
    (history step s is).countP p = 0 := by
  induction is generalizing s with
  | nil => rfl
  | cons i is ih =>
    have hno : ¬ p ⟨s, i, (step s i).1⟩ = true := by
      intro hpi
      have := hp s i h hok.1 hpi
      omega
    have hnext : n ≤ rank (step s i).2 := by
      have := hrank s i h hok.1
      omega
    rw [history, List.countP_cons_of_neg hno]
    exact ih (hstep s i h hok.1) hok.2 hnext

/-- **At most once**: no step lowers the rank, and a step of the kind lifts it to `n` from below. -/
theorem countP_le_one (hstep : ∀ s i, Inv s → ok s i → Inv (step s i).2)
    (hrank : ∀ s i, Inv s → ok s i → rank s ≤ rank (step s i).2)
    (hp : ∀ s i, Inv s → ok s i → p ⟨s, i, (step s i).1⟩ = true →
      rank s < n ∧ n ≤ rank (step s i).2)
    (h : Inv s) (hok : Admitted step ok s is) : (history step s is).countP p ≤ 1 := by
  induction is generalizing s with
  | nil => simp [history]
  | cons i is ih =>
    have hnext := hstep s i h hok.1
    by_cases hpi : p ⟨s, i, (step s i).1⟩ = true
    · have hzero := countP_eq_zero hstep hrank (fun s i h hi hs => (hp s i h hi hs).1) hnext hok.2
        (hp s i h hok.1 hpi).2
      rw [history, List.countP_cons_of_pos hpi]
      omega
    · rw [history, List.countP_cons_of_neg hpi]
      exact ih hnext hok.2

end

end Blessing.Lib.History
