import Mathlib.Data.List.Basic
import Blessing.Lib.Machine

/-! # Tasks of an event loop

The tasks of an event loop share a state. A task reads and writes it without being interrupted until
it awaits an answer; in between any other task may run, and the surroundings may change what is
theirs.

`Flow.Keeps G`: whatever is answered, every turn of a program, from one answer to the next,
satisfies `G`, which may look at the answers the task was given so far. `turn_of_step`: if the turns
of every call satisfy what is asked of the call, then so does every step of a loop. `Carries T`:
every write of a program carries `T` on, so whatever asks no more than `T` is satisfied by its
turns. -/

namespace Blessing.Lib.EventLoop

/-! ### Programs -/

/-- The program of a task: `S` is the shared state, `Q` are the questions it awaits answers `A`
to. -/
inductive Flow (S Q : Type) (A : Q → Type) (α : Type) where
  | ret (a : α)
  | get (k : S → Flow S Q A α)
  | set (s : S) (k : Flow S Q A α)
  | await (q : Q) (k : A q → Flow S Q A α)

/-- The answers a task was given, in order. -/
abbrev Log (Q : Type) (A : Q → Type) := List ((q : Q) × A q)

variable {S Q : Type} {A : Q → Type} {α β : Type}

namespace Flow

/-- One program after the other. -/
def bind : Flow S Q A α → (α → Flow S Q A β) → Flow S Q A β
  | .ret a, f => f a
  | .get k, f => .get fun s => bind (k s) f
  | .set s k, f => .set s (bind k f)
  | .await q k, f => .await q fun a => bind (k a) f

instance : Monad (Flow S Q A) where
  pure := .ret
  bind := bind

instance : MonadStateOf S (Flow S Q A) where
  get := .get .ret
  set s := .set s (.ret ⟨⟩)
  modifyGet f := .get fun s => .set (f s).2 (.ret (f s).1)

/-- Run a program up to where it waits. -/
def advance : Flow S Q A α → S → Flow S Q A α × S
  | .ret a, s => (.ret a, s)
  | .get k, s => (k s).advance s
  | .set s k, _ => k.advance s
  | .await q k, s => (.await q k, s)

end Flow

/-! ### Programs that raise -/

/-- A program that can raise. -/
abbrev Task (S Q : Type) (A : Q → Type) (ε : Type) := ExceptT ε (Flow S Q A)

section Tasks

variable {ε : Type}

/-- Await an answer. -/
def await (q : Q) : Task S Q A ε (A q) := ExceptT.lift (.await q .ret)

/-- `try`: the value or the exception. -/
def attempt (x : Task S Q A ε α) : Task S Q A ε (Except ε α) :=
  ExceptT.mk (x.run >>= fun r => .ret (.ok r))

/-- A value, or the exception that stands for it. -/
def raising (y : Except ε α) : Task S Q A ε α := ExceptT.mk (.ret y)

/-- The program of a task that drops its result. -/
def task (x : Task S Q A ε α) : Flow S Q A Unit := x.run >>= fun _ => .ret ()

end Tasks

/-! ### Turns

A turn of a task is what it does between two answers. -/

/-- Every turn satisfies `G` of the answers so far, the state at its beginning and the one at its
end, and the program ends with `P`. `s₀` is the state in which the current turn began. -/
def Flow.Keeps (G : Log Q A → S → S → Prop) :
    Flow S Q A α → Log Q A → S → S → (Log Q A → S → S → α → Prop) → Prop
  | .ret a, log, s₀, s, P => P log s₀ s a
  | .get k, log, s₀, s, P => (k s).Keeps G log s₀ s P
  | .set s' k, log, s₀, _, P => k.Keeps G log s₀ s' P
  | .await q k, log, s₀, s, P => G log s₀ s ∧ ∀ a s', (k a).Keeps G (log ++ [⟨q, a⟩]) s' s' P

theorem keeps_bind (G : Log Q A → S → S → Prop) (x : Flow S Q A α) (f : α → Flow S Q A β)
    (log : Log Q A) (s₀ s : S) (P : Log Q A → S → S → β → Prop) : (x >>= f).Keeps G log s₀ s P ↔
      x.Keeps G log s₀ s fun log' s₀' s' a => (f a).Keeps G log' s₀' s' P := by
  change (x.bind f).Keeps G log s₀ s P ↔ _
  induction x generalizing log s₀ s with
  | ret a => rfl
  | get k ih => exact ih s log s₀ s
  | set s' k ih => exact ih log s₀ s'
  | await q k ih =>
    exact and_congr_right fun _ => forall_congr' fun a => forall_congr' fun s' => ih a _ s' s'

theorem Flow.Keeps.mono {G G' : Log Q A → S → S → Prop} {x : Flow S Q A α} {log : Log Q A}
    {s₀ s : S} {P P' : Log Q A → S → S → α → Prop} (h : x.Keeps G log s₀ s P)
    (hG : ∀ log s₀ s, G log s₀ s → G' log s₀ s) (hP : ∀ log s₀ s a, P log s₀ s a → P' log s₀ s a) :
    x.Keeps G' log s₀ s P' := by
  induction x generalizing log s₀ s with
  | ret a => exact hP _ _ _ _ h
  | get k ih => exact ih s h
  | set s' k ih => exact ih h
  | await q k ih => exact ⟨hG _ _ _ h.1, fun a s' => ih a (h.2 a s')⟩

/-- What is left of a program when it waits, or nothing. -/
def Flow.Waits (G : Log Q A → S → S → Prop) (x : Flow S Q A α) (log : Log Q A)
    (P : Log Q A → S → S → α → Prop) : Prop :=
  ∀ q k, x = .await q k → ∀ a s', (k a).Keeps G (log ++ [⟨q, a⟩]) s' s' P

/-- The first turn satisfies `G`, and the program that is left keeps to it. -/
theorem keeps_advance {G : Log Q A → S → S → Prop} {x : Flow S Q A α} {log : Log Q A} {s₀ s : S}
    (h : x.Keeps G log s₀ s fun log s₀ s _ => G log s₀ s) : G log s₀ (x.advance s).2 ∧
      (x.advance s).1.Waits G log fun log s₀ s _ => G log s₀ s := by
  induction x generalizing s with
  | ret a => exact ⟨h, fun q k hk => by cases hk⟩
  | get k ih => exact ih s h
  | set s' k ih => exact ih h
  | await q k ih =>
    refine ⟨h.1, fun q' k' hk => ?_⟩
    cases hk
    exact h.2

section Rules

variable {ε : Type} {G : Log Q A → S → S → Prop} {x : Task S Q A ε α} {f : α → Task S Q A ε β}
  {log : Log Q A} {s₀ s : S}

/-- `Flow.Keeps` of a program that can raise. -/
def Runs (G : Log Q A → S → S → Prop) (x : Task S Q A ε α) (log : Log Q A) (s₀ s : S)
    (P : Log Q A → S → S → Except ε α → Prop) : Prop := x.run.Keeps G log s₀ s P

theorem Runs.mono {P P' : Log Q A → S → S → Except ε α → Prop} (h : Runs G x log s₀ s P)
    (hP : ∀ log s₀ s r, P log s₀ s r → P' log s₀ s r) : Runs G x log s₀ s P' :=
  Flow.Keeps.mono h (fun _ _ _ hG => hG) hP

theorem Runs.bind {P : Log Q A → S → S → Except ε β → Prop}
    (h : Runs G x log s₀ s fun log' s₀' s' r =>
      match r with
      | .ok a => Runs G (f a) log' s₀' s' P
      | .error e => P log' s₀' s' (.error e)) : Runs G (x >>= f) log s₀ s P := by
  refine (keeps_bind G x.run _ log s₀ s P).mpr (Runs.mono h fun log' s₀' s' r hr => ?_)
  cases r with
  | ok a => exact hr
  | error e => exact hr

theorem Runs.attempt {P : Log Q A → S → S → Except ε (Except ε α) → Prop}
    (h : Runs G x log s₀ s fun log' s₀' s' r => P log' s₀' s' (.ok r)) :
    Runs G (attempt x) log s₀ s P := (keeps_bind G x.run _ log s₀ s P).mpr h

theorem Runs.get_bind {f : S → Task S Q A ε β} {P : Log Q A → S → S → Except ε β → Prop}
    (h : Runs G (f s) log s₀ s P) : Runs G (get >>= f) log s₀ s P := .bind h

theorem Runs.modify_bind {g : S → S} {f : PUnit → Task S Q A ε β}
    {P : Log Q A → S → S → Except ε β → Prop} (h : Runs G (f ⟨⟩) log s₀ (g s) P) :
    Runs G (modify g >>= f) log s₀ s P := .bind h

theorem Runs.await_bind {q : Q} {f : A q → Task S Q A ε β} {P : Log Q A → S → S → Except ε β → Prop}
    (hG : G log s₀ s) (h : ∀ a s', Runs G (f a) (log ++ [⟨q, a⟩]) s' s' P) :
    Runs G (await q >>= f) log s₀ s P := .bind ⟨hG, h⟩

theorem Runs.ite {c : Prop} [Decidable c] {y : Task S Q A ε α}
    {P : Log Q A → S → S → Except ε α → Prop} (hx : c → Runs G x log s₀ s P)
    (hy : ¬ c → Runs G y log s₀ s P) :
    Runs G (if c then x else y) log s₀ s P := by
  split_ifs with hc
  · exact hx hc
  · exact hy hc

end Rules

/-! ### What every write carries on -/

section Carries

variable {ε : Type} {T : Log Q A → S → S → Prop} {x : Task S Q A ε α} {f : α → Task S Q A ε β}

/-- Every write of the program carries `T` on: the program can stand in every turn in which `T`
holds so far. -/
def Carries (T : Log Q A → S → S → Prop) (x : Task S Q A ε α) : Prop :=
  ∀ (G : Log Q A → S → S → Prop) (log : Log Q A) (s₀ s : S)
    (P : Log Q A → S → S → Except ε α → Prop),
    (∀ log s₀ s, T log s₀ s → G log s₀ s) → T log s₀ s →
    (∀ log s₀ s r, T log s₀ s → P log s₀ s r) → Runs G x log s₀ s P

theorem Carries.bind (hx : Carries T x) (hf : ∀ a, Carries T (f a)) : Carries T (x >>= f) := by
  refine fun G log s₀ s P hG hs hP => .bind (hx G log s₀ s _ hG hs fun log' s₀' s' r hs' => ?_)
  cases r with
  | ok a => exact hf a G log' s₀' s' P hG hs' hP
  | error e => exact hP log' s₀' s' (.error e) hs'

theorem Carries.pure (a : α) : Carries T (pure a : Task S Q A ε α) := fun _ log s₀ s _ _ hs hP =>
  hP log s₀ s (.ok a) hs

theorem Carries.throw (e : ε) : Carries T (throw e : Task S Q A ε α) := fun _ log s₀ s _ _ hs hP =>
  hP log s₀ s (.error e) hs

theorem Carries.get : Carries T (get : Task S Q A ε S) := fun _ log s₀ s _ _ hs hP =>
  hP log s₀ s (.ok s) hs

theorem Carries.modify {g : S → S} (hg : ∀ log s₀ s, T log s₀ s → T log s₀ (g s)) :
    Carries T (modify g : Task S Q A ε PUnit) := fun _ log s₀ s _ _ hs hP =>
  hP log s₀ (g s) (.ok ⟨⟩) (hg log s₀ s hs)

theorem Carries.await (hT : ∀ log s, T log s s) (q : Q) :
    Carries T (await q : Task S Q A ε (A q)) :=
  fun _ log s₀ s _ hG hs hP => ⟨hG log s₀ s hs, fun a s' => hP _ s' s' (.ok a) (hT _ s')⟩

theorem Carries.raising (y : Except ε α) : Carries T (raising y : Task S Q A ε α) :=
  fun _ log s₀ s _ _ hs hP => hP log s₀ s y hs

theorem Carries.attempt (hx : Carries T x) : Carries T (attempt x) := fun G log s₀ s _ hG hs hP =>
  .attempt (hx G log s₀ s _ hG hs fun log' s₀' s' r hs' => hP log' s₀' s' (.ok r) hs')

theorem Carries.ite {c : Prop} [Decidable c] {y : Task S Q A ε α} (hx : Carries T x)
    (hy : Carries T y) : Carries T (if c then x else y) := by
  split_ifs
  · exact hx
  · exact hy

/-- A turn that starts with `T` ends with it, so the program of a task satisfies whatever asks no
more. -/
theorem Carries.keeps (hx : Carries T x) (hT : ∀ log s, T log s s) {G : Log Q A → S → S → Prop}
    (hG : ∀ log s₀ s, T log s₀ s → G log s₀ s) (s : S) :
    (task x).Keeps G [] s s fun log s₀ s _ => G log s₀ s :=
  (keeps_bind G x.run _ [] s s _).mpr
    (hx G [] s s _ hG (hT [] s) fun log s₀ s _ hs => hG log s₀ s hs)

end Carries

/-! ### Loops -/

/-- A call of a task: in which state it began and what it was answered so far. -/
structure Request (C S Q : Type) (A : Q → Type) where
  call : C
  began : S
  log : Log Q A := []

/-- A task of a loop: a request and what is left of its program. -/
structure Thread (C S Q : Type) (A : Q → Type) extends Request C S Q A where
  program : Flow S Q A Unit

/-- The shared state and the tasks. -/
structure World (C S Q : Type) (A : Q → Type) where
  state : S
  threads : List (Thread C S Q A) := []

/-- What happens next: a call, an answer to the task `t`, or a change by the surroundings. An answer
is given as a function of the question. -/
inductive Act (C E Q : Type) (A : Q → Type) where
  | start (call : C)
  | resume (t : ℕ) (answer : (q : Q) → A q)
  | outside (e : E)

/-- The programs of the calls, and what the surroundings do. -/
structure Loop (C E S Q : Type) (A : Q → Type) where
  program : C → Flow S Q A Unit
  outside : E → S → S

variable {C E : Type}

/-- A call begins. -/
def Loop.begin (l : Loop C E S Q A) (call : C) (s : S) : Thread C S Q A × S :=
  ({ call, began := s, program := ((l.program call).advance s).1 }, ((l.program call).advance s).2)

/-- A task gets an answer. -/
def Thread.resume (th : Thread C S Q A) (answer : (q : Q) → A q) (s : S) : Thread C S Q A × S :=
  match th.program with
  | .await q k =>
    ({ th with
      log := th.log ++ [⟨q, answer q⟩]
      program := ((k (answer q)).advance s).1 }, ((k (answer q)).advance s).2)
  | _ => (th, s)

/-- One step of a loop. -/
def Loop.step (l : Loop C E S Q A) (w : World C S Q A) : Act C E Q A → World C S Q A
  | .start call => ⟨(l.begin call w.state).2, w.threads ++ [(l.begin call w.state).1]⟩
  | .resume t answer =>
    match w.threads[t]? with
    | some th => ⟨(th.resume answer w.state).2, w.threads.set t (th.resume answer w.state).1⟩
    | none => w
  | .outside e => { w with state := l.outside e w.state }

theorem step_resume {l : Loop C E S Q A} {w : World C S Q A} {t : ℕ} {th : Thread C S Q A}
    (ht : w.threads[t]? = some th) {answer : (q : Q) → A q} : l.step w (.resume t answer) =
      ⟨(th.resume answer w.state).2, w.threads.set t (th.resume answer w.state).1⟩ := by
  simp only [Loop.step, ht]

theorem step_resume_none {l : Loop C E S Q A} {w : World C S Q A} {t : ℕ}
    (ht : w.threads[t]? = none) {answer : (q : Q) → A q} : l.step w (.resume t answer) = w := by
  simp only [Loop.step, ht]

/-- The steps of a loop as those of a machine that answers nothing. -/
def Loop.machine (l : Loop C E S Q A) (w : World C S Q A) (a : Act C E Q A) :
    Unit × World C S Q A :=
  ((), l.step w a)

/-- The request that takes a step, with the answer it is given. -/
def mover (w : World C S Q A) : Act C E Q A → Option (Request C S Q A)
  | .start call => some { call, began := w.state }
  | .resume t answer =>
    w.threads[t]?.bind fun th =>
      match th.program with
      | .await q _ => some { th.toRequest with log := th.log ++ [⟨q, answer q⟩] }
      | _ => none
  | .outside _ => none

section Turns

variable {l : Loop C E S Q A} {G : C → S → Log Q A → S → S → Prop}

/-- Every turn of every call satisfies what is asked of the call and the state it began in. -/
def Loop.Keeps (l : Loop C E S Q A) (G : C → S → Log Q A → S → S → Prop) : Prop :=
  ∀ call s, (l.program call).Keeps (G call s) [] s s fun log s₀ s' _ => G call s log s₀ s'

/-- The turns that are left of all tasks do. -/
def Kept (G : C → S → Log Q A → S → S → Prop) (w : World C S Q A) : Prop :=
  ∀ th ∈ w.threads, th.program.Waits (G th.call th.began) th.log fun log s₀ s _ =>
    G th.call th.began log s₀ s

variable {w : World C S Q A}

@[simp] theorem resume_call (th : Thread C S Q A) (answer : (q : Q) → A q) (s : S) :
    (th.resume answer s).1.call = th.call := by
  unfold Thread.resume
  split <;> rfl

@[simp] theorem resume_began (th : Thread C S Q A) (answer : (q : Q) → A q) (s : S) :
    (th.resume answer s).1.began = th.began := by
  unfold Thread.resume
  split <;> rfl

/-- A task that gets an answer keeps to what is asked of it. -/
theorem waits_resume {th : Thread C S Q A}
    (h : th.program.Waits (G th.call th.began) th.log fun log s₀ s _ => G th.call th.began log s₀ s)
    (answer : (q : Q) → A q) (s : S) :
    (th.resume answer s).1.program.Waits (G th.call th.began) (th.resume answer s).1.log
      fun log s₀ s _ => G th.call th.began log s₀ s := by
  unfold Thread.resume
  cases hp : th.program with
  | await q k => exact (keeps_advance (h q k hp (answer q) s)).2
  | _ => simpa only [hp] using h

theorem kept_step (hl : l.Keeps G) (h : Kept G w) (a : Act C E Q A) : Kept G (l.step w a) := by
  cases a with
  | start call =>
    intro th hth
    rcases List.mem_append.mp hth with hth | hth
    · exact h th hth
    · rw [List.mem_singleton] at hth
      subst hth
      exact (keeps_advance (hl call w.state)).2
  | resume t answer =>
    cases ht : w.threads[t]? with
    | none =>
      rw [step_resume_none ht]
      exact h
    | some th =>
      rw [step_resume ht]
      intro th' hth'
      rcases List.mem_or_eq_of_mem_set hth' with hth' | rfl
      · exact h th' hth'
      · rw [resume_call, resume_began]
        exact waits_resume (h th (List.mem_of_getElem? ht)) answer w.state
  | outside e => exact h

/-- **What a step does**: it is a turn of the request that takes it, or the surroundings take it. -/
theorem turn_of_step (hl : l.Keeps G) (h : Kept G w) (a : Act C E Q A) :
    (∃ r, mover w a = some r ∧ G r.call r.began r.log w.state (l.step w a).state) ∨
    mover w a = none ∧ ((l.step w a).state = w.state ∨
      ∃ e, a = .outside e ∧ (l.step w a).state = l.outside e w.state) := by
  cases a with
  | start call => exact .inl ⟨_, rfl, (keeps_advance (hl call w.state)).1⟩
  | outside e => exact .inr ⟨rfl, .inr ⟨e, rfl, rfl⟩⟩
  | resume t answer =>
    cases ht : w.threads[t]? with
    | none =>
      exact .inr ⟨by simp only [mover, ht, Option.bind_none], .inl (by rw [step_resume_none ht])⟩
    | some th =>
      rw [step_resume ht]
      simp only [mover, ht, Option.bind_some, Thread.resume]
      cases hp : th.program with
      | await q k =>
        exact .inl ⟨_, rfl, (keeps_advance (h th (List.mem_of_getElem? ht) q k hp _ w.state)).1⟩
      | _ => exact .inr ⟨rfl, .inl rfl⟩

/-- Before every step of a run from a state without tasks, the tasks keep to what is asked of
them. -/
theorem kept_of_run (hl : l.Keeps G) {s : S} {acts : List (Act C E Q A)} {a : Act C E Q A}
    (h : Machine.StepOf l.machine ⟨s, []⟩ acts w a) : Kept G w := by
  have hstart : Kept G (⟨s, []⟩ : World C S Q A) := fun _ hth => by cases hth
  have hstep (w : World C S Q A) (a : Act C E Q A) (hw : Kept G w) (_ : True) :
      Kept G (l.machine w a).2 := kept_step hl hw a
  exact (Machine.run_steps hstep hstart (Machine.admitted_of_forall fun _ _ => trivial) h).1

end Turns

end Blessing.Lib.EventLoop
