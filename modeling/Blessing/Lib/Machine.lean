import Mathlib.Data.List.Basic
import Mathlib.Data.List.Forall2

/-! # Machines that answer

A machine takes an input in a state, gives an answer and goes to a next state. A run is a list of
inputs; every prefix of a run is a run, so a statement about the end of every run is one about every
state reached.

* `run_inv`: what every admitted step keeps holds at the end of every admitted run.
* `run_steps`: under an invariant, what holds of every admitted step holds of every step of a run.
* `run_sim`: two machines whose steps answer alike and keep a relation answer alike along a run. -/

namespace Blessing.Lib.Machine

variable {S T I A : Type*}

/-- The answers of a run and its last state. -/
def run (step : S → I → A × S) : S → List I → List A × S
  | s, [] => ([], s)
  | s, i :: is => ((step s i).1 :: (run step (step s i).2 is).1, (run step (step s i).2 is).2)

/-- Every step of the run is admitted in the state it is taken in. -/
def Admitted (step : S → I → A × S) (ok : S → I → Prop) : S → List I → Prop
  | _, [] => True
  | s, i :: is => ok s i ∧ Admitted step ok (step s i).2 is

/-- A run with decidable admission can be checked. -/
instance decidableAdmitted {step : S → I → A × S} {ok : S → I → Prop} [∀ s i, Decidable (ok s i)] :
    ∀ s is, Decidable (Admitted step ok s is)
  | _, [] => .isTrue trivial
  | s, i :: is =>
    have : Decidable (Admitted step ok (step s i).2 is) := decidableAdmitted (step s i).2 is
    inferInstanceAs (Decidable (ok s i ∧ Admitted step ok (step s i).2 is))

/-- `before → input` is a step of the run. -/
def StepOf (step : S → I → A × S) (s : S) (is : List I) (before : S) (i : I) : Prop :=
  ∃ pre post, is = pre ++ i :: post ∧ before = (run step s pre).2

variable {step : S → I → A × S} {ok : S → I → Prop} {Inv : S → Prop} {s : S} {is : List I}

@[simp] theorem run_nil : run step s [] = ([], s) := rfl

@[simp] theorem run_cons (i : I) : run step s (i :: is) =
    ((step s i).1 :: (run step (step s i).2 is).1, (run step (step s i).2 is).2) := rfl

theorem run_append (js : List I) : run step s (is ++ js) =
    ((run step s is).1 ++ (run step (run step s is).2 js).1,
      (run step (run step s is).2 js).2) := by
  induction is generalizing s with
  | nil => rfl
  | cons i is ih => simp [ih]

theorem admitted_append {js : List I} : Admitted step ok s (is ++ js) ↔
    Admitted step ok s is ∧ Admitted step ok (run step s is).2 js := by
  induction is generalizing s with
  | nil => simp [Admitted]
  | cons i is ih => simp [Admitted, ih, and_assoc]

theorem admitted_of_forall {good : I → Prop} (h : ∀ i ∈ is, good i) :
    Admitted step (fun _ i => good i) s is := by
  induction is generalizing s with
  | nil => trivial
  | cons i is ih => exact ⟨h i (by simp), ih fun j hj => h j (by simp [hj])⟩

theorem admitted_mono {ok' : S → I → Prop} (h : ∀ s i, ok s i → ok' s i)
    (hok : Admitted step ok s is) : Admitted step ok' s is := by
  induction is generalizing s with
  | nil => trivial
  | cons i is ih => exact ⟨h s i hok.1, ih hok.2⟩

theorem admitted_congr {ok' : S → I → Prop} (h : ∀ s i, ok s i ↔ ok' s i) :
    Admitted step ok s is ↔ Admitted step ok' s is :=
  ⟨admitted_mono fun s i => (h s i).mp, admitted_mono fun s i => (h s i).mpr⟩

theorem length_run : (run step s is).1.length = is.length := by
  induction is generalizing s with
  | nil => rfl
  | cons i is ih => simp [ih]

theorem run_snoc (i : I) : run step s (is ++ [i]) =
    ((run step s is).1 ++ [(step (run step s is).2 i).1], (step (run step s is).2 i).2) := by
  rw [run_append]
  rfl

theorem answer_run (pre post : List I) (i : I) :
    (run step s (pre ++ i :: post)).1[pre.length]? = some (step (run step s pre).2 i).1 := by
  rw [run_append, List.getElem?_append_right (Nat.le_of_eq length_run), length_run, Nat.sub_self]
  rfl

theorem run_inv (hstep : ∀ s i, Inv s → ok s i → Inv (step s i).2) (h : Inv s)
    (hok : Admitted step ok s is) : Inv (run step s is).2 := by
  induction is generalizing s with
  | nil => exact h
  | cons i is ih => exact ih (hstep s i h hok.1) hok.2

theorem run_steps (hstep : ∀ s i, Inv s → ok s i → Inv (step s i).2) (h : Inv s)
    (hok : Admitted step ok s is) {before : S} {i : I} (hs : StepOf step s is before i) :
    Inv before ∧ ok before i := by
  obtain ⟨pre, post, rfl, rfl⟩ := hs
  obtain ⟨hpre, hpost⟩ := admitted_append.mp hok
  exact ⟨run_inv hstep h hpre, hpost.1⟩

/-- **Simulation**: related states stay related, and the answers are related one by one. -/
theorem run_sim {B : Type*} {step' : T → I → B × T} {Rel : S → T → Prop} {Same : A → B → Prop}
    {good : I → Prop}
    (hstep : ∀ s t i, Rel s t → good i →
      Same (step s i).1 (step' t i).1 ∧ Rel (step s i).2 (step' t i).2)
    {t : T} (h : Rel s t) (hgood : ∀ i ∈ is, good i) :
    List.Forall₂ Same (run step s is).1 (run step' t is).1 ∧
      Rel (run step s is).2 (run step' t is).2 := by
  induction is generalizing s t with
  | nil => exact ⟨.nil, h⟩
  | cons i is ih =>
    obtain ⟨ha, hr⟩ := hstep s t i h (hgood i (by simp))
    obtain ⟨has, hrs⟩ := ih hr fun j hj => hgood j (by simp [hj])
    exact ⟨.cons ha has, hrs⟩

end Blessing.Lib.Machine
