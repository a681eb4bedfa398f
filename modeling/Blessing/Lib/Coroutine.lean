import Mathlib.Data.List.Induction
import Mathlib.Logic.Relation

/-! # Tasks that share a lock and a stop flag

A task is a program that waits: for the lock, for the answer to a message it sends, or for anything
else its environment answers. Tasks take turns in any order, one action at a time; a task can be
started or cancelled at any time, and the stop flag can be set at any time.

`Co.wp` follows a program through its actions and tells whether it keeps to the protocol: it sends
only while it holds the lock and after it tested the flag, one message for each test.
`sends_after_stop`: if all tasks keep to it, at most one message is sent once the flag is set, and
the task that sends it had just passed its test. -/

namespace Blessing.Lib.Coroutine

/-! ### Programs -/

/-- The program of a task. `Q` are the questions to the environment with their answers `A`, `M` the
messages it can send and `R` the replies to them. -/
inductive Co (Q : Type) (A : Q → Type) (M R α : Type) where
  | ret (a : α)
  /-- read the flag -/
  | read (k : Bool → Co Q A M R α)
  /-- read the flag as the test in front of a message -/
  | test (k : Bool → Co Q A M R α)
  | ask (q : Q) (k : A q → Co Q A M R α)
  | acquire (k : Co Q A M R α)
  | release (k : Co Q A M R α)
  | send (m : M) (k : R → Co Q A M R α)

section Programs

variable {Q : Type} {A : Q → Type} {M R α β : Type}

namespace Co

/-- One program after the other. -/
def bind : Co Q A M R α → (α → Co Q A M R β) → Co Q A M R β
  | .ret a, f => f a
  | .read k, f => .read fun b => bind (k b) f
  | .test k, f => .test fun b => bind (k b) f
  | .ask q k, f => .ask q fun a => bind (k a) f
  | .acquire k, f => .acquire (bind k f)
  | .release k, f => .release (bind k f)
  | .send m k, f => .send m fun r => bind (k r) f

instance : Monad (Co Q A M R) where
  pure := .ret
  bind := bind

theorem bind_ret (x : Co Q A M R α) : x.bind .ret = x := by
  induction x with
  | ret a => rfl
  | read k ih => exact congrArg Co.read (funext ih)
  | test k ih => exact congrArg Co.test (funext ih)
  | ask q k ih => exact congrArg (Co.ask q) (funext ih)
  | acquire k ih => exact congrArg Co.acquire ih
  | release k ih => exact congrArg Co.release ih
  | send m k ih => exact congrArg (Co.send m) (funext ih)

theorem bind_bind {γ : Type} (x : Co Q A M R α) (f : α → Co Q A M R β) (g : β → Co Q A M R γ) :
    (x.bind f).bind g = x.bind fun a => (f a).bind g := by
  induction x with
  | ret a => rfl
  | read k ih => exact congrArg Co.read (funext ih)
  | test k ih => exact congrArg Co.test (funext ih)
  | ask q k ih => exact congrArg (Co.ask q) (funext ih)
  | acquire k ih => exact congrArg Co.acquire ih
  | release k ih => exact congrArg Co.release ih
  | send m k ih => exact congrArg (Co.send m) (funext ih)

instance : LawfulMonad (Co Q A M R) :=
  LawfulMonad.mk' _ bind_ret (fun _ _ => rfl) bind_bind

end Co

/-- Where a task stands: outside the lock, inside, or inside with a test passed for the next
message. -/
inductive Mode where
  | out
  | inside
  | cleared
  deriving DecidableEq

/-- The program keeps to the protocol from a mode on, and ends with `P`. -/
def Co.wp : Co Q A M R α → Mode → (Mode → α → Prop) → Prop
  | .ret a, mode, P => P mode a
  | .read k, mode, P => ∀ b, wp (k b) mode P
  | .test k, mode, P => mode ≠ .out ∧ wp (k true) .inside P ∧ wp (k false) .cleared P
  | .ask _ k, mode, P => ∀ a, wp (k a) mode P
  | .acquire k, mode, P => mode = .out ∧ wp k .inside P
  | .release k, mode, P => mode ≠ .out ∧ wp k .out P
  | .send _ k, mode, P => mode = .cleared ∧ ∀ r, wp (k r) .inside P

theorem wp_bind (x : Co Q A M R α) (f : α → Co Q A M R β) (mode : Mode) (P : Mode → β → Prop) :
    (x >>= f).wp mode P ↔ x.wp mode fun mode' a => (f a).wp mode' P := by
  change (x.bind f).wp mode P ↔ _
  induction x generalizing mode with
  | ret a => rfl
  | read k ih => simp only [Co.bind, Co.wp, ih]
  | test k ih => simp only [Co.bind, Co.wp, ih]
  | ask q k ih => simp only [Co.bind, Co.wp, ih]
  | acquire k ih => simp only [Co.bind, Co.wp, ih]
  | release k ih => simp only [Co.bind, Co.wp, ih]
  | send m k ih => simp only [Co.bind, Co.wp, ih]

theorem wp_mono {x : Co Q A M R α} {mode : Mode} {P P' : Mode → α → Prop}
    (h : x.wp mode P) (hP : ∀ mode a, P mode a → P' mode a) : x.wp mode P' := by
  induction x generalizing mode with
  | ret a => exact hP _ _ h
  | read k ih => exact fun b => ih b (h b)
  | test k ih => exact ⟨h.1, ih true h.2.1, ih false h.2.2⟩
  | ask q k ih => exact fun a => ih a (h a)
  | acquire k ih => exact ⟨h.1, ih h.2⟩
  | release k ih => exact ⟨h.1, ih h.2⟩
  | send m k ih => exact ⟨h.1, fun r => ih r (h.2 r)⟩

/-- The program asks nothing but such questions and reads the flag; it does nothing else. -/
def Co.only (allowed : Q → Prop) : Co Q A M R α → Prop
  | .ret _ => True
  | .read k => ∀ b, only allowed (k b)
  | .ask q k => allowed q ∧ ∀ a, only allowed (k a)
  | .test _ | .acquire _ | .release _ | .send .. => False

theorem only_bind {allowed : Q → Prop} {x : Co Q A M R α} {f : α → Co Q A M R β}
    (hx : x.only allowed) (hf : ∀ a, (f a).only allowed) : (x >>= f).only allowed := by
  change (x.bind f).only allowed
  induction x with
  | ret a => exact hf a
  | read k ih => exact fun b => ih b (hx b)
  | ask q k ih => exact ⟨hx.1, fun a => ih a (hx.2 a)⟩
  | test | acquire | release | send => exact hx.elim

/-- A program that only asks can stand anywhere. -/
theorem only_wp {allowed : Q → Prop} {x : Co Q A M R α} (hx : x.only allowed) (mode : Mode)
    (P : Mode → α → Prop) (hP : ∀ a, P mode a) : x.wp mode P := by
  induction x with
  | ret a => exact hP a
  | read k ih => exact fun b => ih b (hx b)
  | ask q k ih => exact fun a => ih a (hx.2 a)
  | test | acquire | release | send => exact hx.elim

/-! ### Programs that raise -/

/-- A program that can raise. -/
abbrev Task (Q : Type) (A : Q → Type) (M R ε : Type) := ExceptT ε (Co Q A M R)

section Tasks

variable {ε : Type} {x : Task Q A M R ε α} {f : α → Task Q A M R ε β}

/-- Ask the environment. -/
def ask (q : Q) : Task Q A M R ε (A q) := ExceptT.lift (.ask q .ret)

/-- Read the flag. -/
def readFlag : Task Q A M R ε Bool := ExceptT.lift (.read .ret)

/-- Test the flag. -/
def testFlag : Task Q A M R ε Bool := ExceptT.lift (.test .ret)

/-- Send a message and wait for the reply. -/
def send (m : M) : Task Q A M R ε R := ExceptT.lift (.send m .ret)

/-- A value, or the exception that stands for it. -/
def raising (y : Except ε α) : Task Q A M R ε α := ExceptT.mk (.ret y)

/-- `try`: the value or the exception. -/
def attempt (x : Task Q A M R ε α) : Task Q A M R ε (Except ε α) :=
  ExceptT.mk (x.run >>= fun r => .ret (.ok r))

/-- `async with lock`: the lock is released however the body ends. -/
def withLock (body : Task Q A M R ε α) : Task Q A M R ε α :=
  ExceptT.mk (.acquire (body.run >>= fun r => .release (.ret r)))

/-- The program of a task that drops its result. -/
def task (x : Task Q A M R ε α) : Co Q A M R Unit := x.run >>= fun _ => .ret ()

/-- `Co.wp` of a program that can raise. -/
def Runs (x : Task Q A M R ε α) (mode : Mode) (P : Mode → Except ε α → Prop) : Prop :=
  x.run.wp mode P

theorem Runs.mono {mode : Mode} {P P' : Mode → Except ε α → Prop} (h : Runs x mode P)
    (hP : ∀ mode r, P mode r → P' mode r) : Runs x mode P' := wp_mono h hP

theorem Runs.pure {mode : Mode} {P : Mode → Except ε α → Prop} {a : α} (h : P mode (.ok a)) :
    Runs (pure a : Task Q A M R ε α) mode P := h

theorem Runs.bind {mode : Mode} {P : Mode → Except ε β → Prop}
    (h : Runs x mode fun mode' r =>
      match r with
      | .ok a => Runs (f a) mode' P
      | .error e => P mode' (.error e)) : Runs (x >>= f) mode P := by
  refine (wp_bind x.run _ mode P).mpr (wp_mono h fun mode' r hr => ?_)
  cases r with
  | ok a => exact hr
  | error e => exact hr

theorem Runs.attempt {mode : Mode} {P : Mode → Except ε (Except ε α) → Prop}
    (h : Runs x mode fun mode' r => P mode' (.ok r)) : Runs (attempt x) mode P :=
  (wp_bind x.run _ mode P).mpr h

theorem Runs.testFlag {mode : Mode} {P : Mode → Except ε Bool → Prop} (h : mode ≠ .out)
    (htrue : P .inside (.ok true)) (hfalse : P .cleared (.ok false)) :
    Runs (testFlag : Task Q A M R ε Bool) mode P := ⟨h, htrue, hfalse⟩

theorem Runs.send {m : M} {P : Mode → Except ε R → Prop} (h : ∀ r, P .inside (.ok r)) :
    Runs (send m : Task Q A M R ε R) .cleared P := ⟨rfl, h⟩

theorem Runs.ite {c : Prop} [Decidable c] {y : Task Q A M R ε α} {mode : Mode}
    {P : Mode → Except ε α → Prop} (hx : Runs x mode P) (hy : Runs y mode P) :
    Runs (if c then x else y) mode P := by
  split_ifs
  · exact hx
  · exact hy

theorem Runs.withLock {P : Mode → Except ε α → Prop} (h : Runs x .inside fun mode r =>
    mode ≠ .out ∧ P .out r) : Runs (withLock x) .out P :=
  ⟨rfl, (wp_bind x.run _ _ P).mpr h⟩

/-- A program that does nothing but ask and read: it can stand anywhere. -/
def Quiet (x : Task Q A M R ε α) : Prop :=
  ∀ mode (P : Mode → Except ε α → Prop), (∀ r, P mode r) → Runs x mode P

theorem Quiet.bind (hx : Quiet x) (hf : ∀ a, Quiet (f a)) : Quiet (x >>= f) := by
  refine fun mode P h => .bind (hx mode _ fun r => ?_)
  cases r with
  | ok a => exact hf a mode P h
  | error e => exact h (.error e)

theorem Quiet.pure (a : α) : Quiet (pure a : Task Q A M R ε α) := fun _ _ h => h (.ok a)

theorem Quiet.throw (e : ε) : Quiet (throw e : Task Q A M R ε α) := fun _ _ h => h (.error e)

theorem Quiet.ask (q : Q) : Quiet (ask q : Task Q A M R ε (A q)) := fun _ _ h a => h (.ok a)

theorem Quiet.raising (y : Except ε α) : Quiet (raising y : Task Q A M R ε α) := fun _ _ h => h y

theorem Quiet.attempt (hx : Quiet x) : Quiet (attempt x) := fun mode P h =>
  (wp_bind x.run _ mode P).mpr (hx mode _ fun r => h (.ok r))

theorem Quiet.ite {c : Prop} [Decidable c] {y : Task Q A M R ε α} (hx : Quiet x) (hy : Quiet y) :
    Quiet (if c then x else y) := by
  split_ifs
  · exact hx
  · exact hy

/-- A program that asks nothing but such questions. -/
def Only (allowed : Q → Prop) (x : Task Q A M R ε α) : Prop := x.run.only allowed

section Only

variable {allowed : Q → Prop}

theorem Only.quiet (hx : Only allowed x) : Quiet x := fun mode P hP => only_wp hx mode P hP

theorem Only.bind (hx : Only allowed x) (hf : ∀ a, Only allowed (f a)) :
    Only allowed (x >>= f) := by
  refine only_bind hx fun r => ?_
  cases r with
  | ok a => exact hf a
  | error e => trivial

theorem Only.pure (a : α) : Only allowed (pure a : Task Q A M R ε α) := trivial

theorem Only.throw (e : ε) : Only allowed (throw e : Task Q A M R ε α) := trivial

theorem Only.ask {q : Q} (hq : allowed q) : Only allowed (ask q : Task Q A M R ε (A q)) :=
  ⟨hq, fun _ => trivial⟩

theorem Only.readFlag : Only allowed (readFlag : Task Q A M R ε Bool) := fun _ => trivial

theorem Only.raising (y : Except ε α) : Only allowed (raising y : Task Q A M R ε α) := trivial

theorem Only.attempt (hx : Only allowed x) : Only allowed (attempt x) :=
  only_bind hx fun _ => trivial

theorem Only.ite {c : Prop} [Decidable c] {y : Task Q A M R ε α} (hx : Only allowed x)
    (hy : Only allowed y) : Only allowed (if c then x else y) := by
  split_ifs
  · exact hx
  · exact hy

end Only

/-- A program that does nothing but ask in front of another one. -/
theorem Runs.quiet_bind {mode : Mode} {P : Mode → Except ε β → Prop} (hx : Quiet x)
    (hf : ∀ a, Runs (f a) mode P) (herror : ∀ e, P mode (.error e)) : Runs (x >>= f) mode P := by
  refine .bind (hx mode _ fun r => ?_)
  cases r with
  | ok a => exact hf a
  | error e => exact herror e

end Tasks

end Programs

/-! ### Worlds -/

/-- What happened. -/
inductive Entry (M : Type) where
  | passed (t : ℕ)
  | refused (t : ℕ)
  | acquired (t : ℕ)
  | released (t : ℕ)
  | sent (t : ℕ) (m : M)
  | stopped

/-- The tasks with what they share, and the trace of what happened. -/
structure World (Q : Type) (A : Q → Type) (M R : Type) where
  flag : Bool := false
  holder : Option ℕ := none
  tasks : List (Co Q A M R Unit) := []
  trace : List (Entry M) := []

variable {Q : Type} {A : Q → Type} {M R : Type}

/-- The task goes on with `p`. -/
def World.resume (w : World Q A M R) (t : ℕ) (p : Co Q A M R Unit) : World Q A M R :=
  { w with tasks := w.tasks.set t p }

/-- Something happened. -/
def World.note (w : World Q A M R) (e : Entry M) : World Q A M R :=
  { w with trace := w.trace ++ [e] }

/-- One action of a world in which the programs `Call` can be started. -/
inductive Step (Call : Co Q A M R Unit → Prop) : World Q A M R → World Q A M R → Prop
  | start {w p} (hp : Call p) : Step Call w { w with tasks := w.tasks ++ [p] }
  | stop {w} : Step Call w { w.note .stopped with flag := true }
  /-- A cancelled task leaves its `async with`. -/
  | cancel {w t} (ht : t < w.tasks.length) : Step Call w
      (if w.holder = some t then { (w.resume t (.ret ())).note (.released t) with holder := none }
      else w.resume t (.ret ()))
  | read {w t k} (ht : w.tasks[t]? = some (.read k)) : Step Call w (w.resume t (k w.flag))
  | test {w t k} (ht : w.tasks[t]? = some (.test k)) : Step Call w
      ((w.resume t (k w.flag)).note (if w.flag then .refused t else .passed t))
  | ask {w t q k} (ht : w.tasks[t]? = some (.ask q k)) (a : A q) : Step Call w (w.resume t (k a))
  | acquire {w t k} (ht : w.tasks[t]? = some (.acquire k)) (hfree : w.holder = none) : Step Call w
      { (w.resume t k).note (.acquired t) with holder := some t }
  | release {w t k} (ht : w.tasks[t]? = some (.release k)) (hheld : w.holder = some t) : Step Call w
      { (w.resume t k).note (.released t) with holder := none }
  | send {w t m k} (ht : w.tasks[t]? = some (.send m k)) (r : R) : Step Call w
      ((w.resume t (k r)).note (.sent t m))

/-- A world that can be reached from one without tasks. -/
def Reachable (Call : Co Q A M R Unit → Prop) (w : World Q A M R) : Prop :=
  Relation.ReflTransGen (Step Call) {} w

/-! ### Traces -/

/-- The messages that were sent, with their senders. -/
def sends : List (Entry M) → List (ℕ × M) := List.filterMap fun
  | .sent t m => some (t, m)
  | _ => none

/-- The task that passed its test last, if nothing but the stop happened since. -/
def cleared : List (Entry M) → Option ℕ := List.foldl (fun c e =>
  match e with
  | .passed t => some t
  | .stopped => c
  | _ => none) none

@[simp] theorem sends_append (xs ys : List (Entry M)) : sends (xs ++ ys) = sends xs ++ sends ys :=
  List.filterMap_append

@[simp] theorem sends_singleton (e : Entry M) : sends [e] =
    match e with
    | .sent t m => [(t, m)]
    | _ => [] := by
  cases e <;> rfl

@[simp] theorem cleared_snoc (xs : List (Entry M)) (e : Entry M) : cleared (xs ++ [e]) =
    match e with
    | .passed t => some t
    | .stopped => cleared xs
    | _ => none := by
  rw [cleared, List.foldl_append]
  rfl

/-- The last thing that happened to the cleared task is that it passed. -/
theorem cleared_eq_some {xs : List (Entry M)} {t : ℕ} (h : cleared xs = some t) :
    ∃ ys zs, xs = ys ++ .passed t :: zs ∧ ∀ e ∈ zs, e = .stopped := by
  induction xs using List.reverseRecOn with
  | nil => cases h
  | append_singleton xs e ih =>
    rw [cleared_snoc] at h
    cases e with
    | passed u =>
      cases h
      exact ⟨xs, [], rfl, by simp⟩
    | stopped =>
      obtain ⟨ys, zs, rfl, hzs⟩ := ih h
      exact ⟨ys, zs ++ [.stopped], by simp, by simpa [or_imp, forall_and] using hzs⟩
    | _ => cases h

/-! ### The invariant -/

/-- Where a task of a world stands. -/
def World.mode (w : World Q A M R) (t : ℕ) : Mode :=
  if w.holder = some t then if cleared w.trace = some t then .cleared else .inside else .out

/-- A task that keeps to the protocol from a mode on ends outside the lock. -/
def Keeps (p : Co Q A M R Unit) (mode : Mode) : Prop := p.wp mode fun mode _ => mode = .out

/-- Every task keeps to the protocol from where it stands, and only the holder of the lock can be
cleared. -/
structure Inv (w : World Q A M R) : Prop where
  tasks : ∀ t p, w.tasks[t]? = some p → Keeps p (w.mode t)
  holder : ∀ t, w.holder = some t → t < w.tasks.length
  cleared : ∀ t, cleared w.trace = some t → w.holder = some t

/-- A step of one task keeps the invariant if the task does and no other task moves. -/
theorem Inv.of_step {w w' : World Q A M R} {t : ℕ} {p : Co Q A M R Unit} (h : Inv w)
    (htasks : w'.tasks = w.tasks.set t p) (ht : t < w.tasks.length) (hp : Keeps p (w'.mode t))
    (hothers : ∀ u, u ≠ t → w'.mode u = w.mode u)
    (hholder : ∀ u, w'.holder = some u → u = t ∨ w.holder = some u)
    (hcleared : ∀ u, Coroutine.cleared w'.trace = some u → w'.holder = some u) : Inv w' where
  tasks u q hu := by
    rw [htasks, List.getElem?_set] at hu
    by_cases hut : t = u
    · subst hut
      rw [if_pos rfl, if_pos ht] at hu
      cases hu
      exact hp
    · rw [if_neg hut] at hu
      rw [hothers u (Ne.symm hut)]
      exact h.tasks u q hu
  holder u hu := by
    rw [htasks, List.length_set]
    rcases hholder u hu with rfl | hu
    · exact ht
    · exact h.holder u hu
  cleared := hcleared

variable {w w' : World Q A M R} {t : ℕ}

theorem mode_out (h : w.holder ≠ some t) : w.mode t = .out := if_neg h

theorem holder_of_mode (h : w.mode t ≠ .out) : w.holder = some t := by
  by_contra hne
  exact h (mode_out hne)

theorem lt_of_getElem? {p : Co Q A M R Unit} (h : w.tasks[t]? = some p) :
    t < w.tasks.length := (List.getElem?_eq_some_iff.mp h).1

/-- A cleared task is the one that passed its test last. -/
theorem cleared_of_mode (h : w.mode t = .cleared) :
    cleared w.trace = some t := by
  unfold World.mode at h
  split_ifs at h with hheld hpassed
  exact hpassed

/-- While a task holds the lock the others stay outside, whatever it does. -/
theorem mode_other (hheld : w.holder = some t)
    (hheld' : w'.holder = some t ∨ w'.holder = none) (u : ℕ) (hu : u ≠ t) :
    w'.mode u = w.mode u := by
  have hout : w.mode u = .out := mode_out (by simpa [hheld] using hu.symm)
  rw [hout]
  refine mode_out ?_
  rcases hheld' with h | h
  · simpa [h] using hu.symm
  · simp [h]

variable {Call : Co Q A M R Unit → Prop}

theorem inv_start (h : Inv w) {p : Co Q A M R Unit} (hp : Keeps p .out) :
    Inv { w with tasks := w.tasks ++ [p] } := by
  refine ⟨fun t q ht => ?_, fun t ht => ?_, h.cleared⟩
  · by_cases hlt : t < w.tasks.length
    · rw [List.getElem?_append_left hlt] at ht
      exact h.tasks t q ht
    · have hout : w.mode t = .out := mode_out fun hheld => hlt (h.holder t hheld)
      rw [List.getElem?_append_right (by omega)] at ht
      have hq : p = q := by
        cases hn : t - w.tasks.length with
        | zero => simpa [hn] using ht
        | succ n => simp [hn] at ht
      subst hq
      change Keeps p (w.mode t)
      rwa [hout]
  · have := h.holder t ht
    simp only [List.length_append, List.length_singleton]
    omega

theorem inv_step (hcall : ∀ p, Call p → Keeps p .out) (hstep : Step Call w w')
    (h : Inv w) : Inv w' := by
  cases hstep with
  | start hp => exact inv_start h (hcall _ hp)
  | stop =>
    have hmode (t : ℕ) : World.mode { w.note .stopped with flag := true } t = w.mode t := by
      simp [World.mode, World.note]
    refine ⟨fun t p ht => ?_, h.holder, fun t ht => h.cleared t (by simpa [World.note] using ht)⟩
    rw [hmode]
    exact h.tasks t p ht
  | @cancel t ht =>
    split_ifs with hheld
    · refine h.of_step rfl ht (mode_out nofun) (mode_other hheld (.inr rfl)) nofun ?_
      simp [World.note]
    · exact h.of_step rfl ht (mode_out hheld) (fun _ _ => rfl) (fun _ hu => .inr hu) h.cleared
  | @read t k ht =>
    have hk := h.tasks t _ ht
    exact h.of_step rfl (lt_of_getElem? ht) (hk w.flag) (fun _ _ => rfl) (fun _ hu => .inr hu)
      h.cleared
  | @ask t q k ht a =>
    have hk := h.tasks t _ ht
    exact h.of_step rfl (lt_of_getElem? ht) (hk a) (fun _ _ => rfl) (fun _ hu => .inr hu) h.cleared
  | @test t k ht =>
    obtain ⟨hmode, htrue, hfalse⟩ :
        w.mode t ≠ .out ∧ Keeps (k true) .inside ∧ Keeps (k false) .cleared := h.tasks t _ ht
    have hheld := holder_of_mode hmode
    refine h.of_step rfl (lt_of_getElem? ht) ?_ (mode_other hheld (.inl hheld))
      (fun _ hu => .inr hu) ?_
    · cases hflag : w.flag with
      | true => simpa [World.mode, World.note, World.resume, hheld, hflag] using htrue
      | false => simpa [World.mode, World.note, World.resume, hheld, hflag] using hfalse
    · intro u hu
      cases hflag : w.flag with
      | true => simp [World.note, hflag] at hu
      | false =>
        have hut : t = u := by simpa [World.note, hflag] using hu
        subst hut
        exact hheld
  | @acquire t k ht hfree =>
    obtain ⟨-, hk⟩ : w.mode t = .out ∧ Keeps k .inside := h.tasks t _ ht
    refine h.of_step rfl (lt_of_getElem? ht) ?_ (fun u hu => ?_) (fun u hu => .inl ?_) ?_
    · simpa [World.mode, World.note] using hk
    · rw [mode_out (by simpa using hu.symm), mode_out (by simp [hfree])]
    · simpa using hu.symm
    · simp [World.note]
  | @release t k ht hheld =>
    obtain ⟨-, hk⟩ : w.mode t ≠ .out ∧ Keeps k .out := h.tasks t _ ht
    refine h.of_step rfl (lt_of_getElem? ht) ?_ (mode_other hheld (.inr rfl)) nofun ?_
    · rwa [mode_out (by simp)]
    · simp [World.note]
  | @send t m k ht r =>
    obtain ⟨hmode, hk⟩ : w.mode t = .cleared ∧ ∀ r, Keeps (k r) .inside := h.tasks t _ ht
    have hheld := holder_of_mode (by rw [hmode]; nofun)
    refine h.of_step rfl (lt_of_getElem? ht) ?_ (mode_other hheld (.inl hheld))
      (fun _ hu => .inr hu) ?_
    · simpa [World.mode, World.note, World.resume, hheld] using hk r
    · simp [World.note]

theorem inv_reachable (hcall : ∀ p, Call p → Keeps p .out) (h : Reachable Call w) : Inv w := by
  induction h with
  | refl => exact ⟨nofun, nofun, nofun⟩
  | tail _ hstep ih => exact inv_step hcall hstep ih

/-! ### After the stop -/

/-- What a step adds to the trace: a test is passed only while the flag is not set, and a message is
sent only by the cleared task. -/
theorem trace_step (hstep : Step Call w w') (h : Inv w) :
    w'.trace = w.trace ∧ w'.flag = w.flag ∨
      ∃ e, w'.trace = w.trace ++ [e] ∧ (w.flag = true ∨ e = .stopped → w'.flag = true) ∧
        (∀ t, e = .passed t → w.flag = false) ∧ ∀ t m, e = .sent t m →
        cleared w.trace = some t := by
  cases hstep with
  | start hp => exact .inl ⟨rfl, rfl⟩
  | stop => exact .inr ⟨.stopped, rfl, fun _ => rfl, nofun, nofun⟩
  | @cancel t ht =>
    split_ifs
    · exact .inr ⟨.released t, rfl, by simp [World.note, World.resume], nofun, nofun⟩
    · exact .inl ⟨rfl, rfl⟩
  | read ht => exact .inl ⟨rfl, rfl⟩
  | ask ht a => exact .inl ⟨rfl, rfl⟩
  | @test t k ht =>
    refine .inr ⟨_, rfl, ?_⟩
    cases hflag : w.flag <;> simp [World.note, World.resume, hflag]
  | @acquire t k ht hfree =>
    exact .inr ⟨.acquired t, rfl, by simp [World.note, World.resume], nofun, nofun⟩
  | @release t k ht hheld =>
    exact .inr ⟨.released t, rfl, by simp [World.note, World.resume], nofun, nofun⟩
  | @send t m k ht r =>
    obtain ⟨hmode, -⟩ : w.mode t = .cleared ∧ ∀ r, Keeps (k r) .inside := h.tasks t _ ht
    refine .inr ⟨.sent t m, rfl, by simp [World.note, World.resume], nofun, ?_⟩
    rintro _ _ ⟨⟩
    exact cleared_of_mode hmode

/-- Once the flag is set nobody is cleared any more, and what is sent is sent by the task that was
cleared in front of the stop. -/
def Bounded (w : World Q A M R) (pre post : List (Entry M)) : Prop :=
  (sends post = [] ∧ ∀ t, cleared w.trace = some t → cleared pre = some t) ∨
    cleared w.trace = none ∧ ∃ t m, sends post = [(t, m)] ∧ cleared pre = some t

theorem bounded_step {pre post : List (Entry M)} {e : Entry M} (h : Bounded w pre post)
    (htrace : w'.trace = w.trace ++ [e]) (hpassed : ∀ t, e ≠ .passed t)
    (hsent : ∀ t m, e = .sent t m → cleared w.trace = some t) : Bounded w' pre (post ++ [e]) := by
  unfold Bounded at h ⊢
  rw [htrace, cleared_snoc, sends_append]
  cases e with
  | passed t => exact absurd rfl (hpassed t)
  | stopped => simpa using h
  | sent t m =>
    have ht := hsent t m rfl
    rcases h with ⟨hnone, hpre⟩ | ⟨hnone, -⟩
    · exact .inr ⟨rfl, t, m, by simp [hnone], hpre t ht⟩
    · rw [hnone] at ht
      cases ht
  | _ =>
    rcases h with ⟨hnone, -⟩ | ⟨-, hsends⟩
    · exact .inl ⟨by simp [hnone], nofun⟩
    · exact .inr ⟨rfl, by simpa using hsends⟩

theorem bounded_reachable (hcall : ∀ p, Call p → Keeps p .out) (h : Reachable Call w) :
    ∀ pre post, w.trace = pre ++ .stopped :: post → w.flag = true ∧ Bounded w pre post := by
  induction h with
  | refl =>
    intro pre post h
    simp at h
  | @tail w w' hreach hstep ih =>
    intro pre post hsplit
    rcases trace_step hstep (inv_reachable hcall hreach) with
      ⟨hsame, hflag⟩ | ⟨e, htrace, hflag, hpassed, hsent⟩
    · rw [hsame] at hsplit
      obtain ⟨hset, hbound⟩ := ih pre post hsplit
      unfold Bounded at hbound ⊢
      rw [hflag, hsame]
      exact ⟨hset, hbound⟩
    · rw [htrace] at hsplit
      rcases List.eq_nil_or_concat post with rfl | ⟨post', e', rfl⟩
      · obtain ⟨rfl, he⟩ := List.append_inj' hsplit rfl
        cases he
        refine ⟨hflag (.inr rfl), .inl ⟨rfl, fun t ht => ?_⟩⟩
        rwa [htrace, cleared_snoc] at ht
      · have hsplit' : w.trace ++ [e] = (pre ++ .stopped :: post') ++ [e'] := by simpa using hsplit
        obtain ⟨hpre, he⟩ := List.append_inj' hsplit' rfl
        cases he
        obtain ⟨hset, hbound⟩ := ih pre post' hpre
        have hnot (t : ℕ) : e ≠ .passed t := fun ht => by simp [hpassed t ht] at hset
        rw [List.concat_eq_append]
        exact ⟨hflag (.inl hset), bounded_step hbound htrace hnot hsent⟩

/-- **The bound**: once the flag is set at most one message is sent, by the task that passed its
test last in front of the stop. -/
theorem sends_after_stop (hcall : ∀ p, Call p → Keeps p .out) (h : Reachable Call w)
    {pre post : List (Entry M)} (hsplit : w.trace = pre ++ .stopped :: post) :
    sends post = [] ∨ ∃ t m, sends post = [(t, m)] ∧
      ∃ ys zs, pre = ys ++ .passed t :: zs ∧ ∀ e ∈ zs, e = .stopped := by
  rcases (bounded_reachable hcall h pre post hsplit).2 with ⟨hnone, -⟩ | ⟨-, t, m, hsends, hpre⟩
  · exact .inl hnone
  · exact .inr ⟨t, m, hsends, cleared_eq_some hpre⟩

end Blessing.Lib.Coroutine
