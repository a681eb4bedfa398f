import Blessing.Lib.Coroutine

/-! # Tasks against a handler

A handler answers what a task asks from a state of its own, so a task that runs alone becomes a
function on that state. `Ends` is what holds of the result and the state in the end, computed from
the program text by its rules. `Preserves E Inv x`: the task `x` keeps `Inv`, except when it raises
an exception of `E`; then only `Weak` is left, and whoever catches the exception has to restore the
rest. -/

namespace Blessing.Lib.Handlers

open Blessing.Lib.Coroutine

/-- The environment of a task that runs alone. -/
structure Handler (Q : Type) (A : Q → Type) (M R S : Type) where
  ask : (q : Q) → S → A q × S
  flag : S → Bool × S
  send : M → S → R × S

variable {Q : Type} {A : Q → Type} {M R S ε α β : Type}

/-- Run a program. -/
def perform (h : Handler Q A M R S) : Co Q A M R α → S → α × S
  | .ret a, s => (a, s)
  | .read k, s => perform h (k (h.flag s).1) (h.flag s).2
  | .test k, s => perform h (k (h.flag s).1) (h.flag s).2
  | .ask q k, s => perform h (k (h.ask q s).1) (h.ask q s).2
  | .acquire k, s => perform h k s
  | .release k, s => perform h k s
  | .send m k, s => perform h (k (h.send m s).1) (h.send m s).2

theorem perform_bind (h : Handler Q A M R S) (x : Co Q A M R α) (f : α → Co Q A M R β) (s : S) :
    perform h (x >>= f) s = perform h (f (perform h x s).1) (perform h x s).2 := by
  change perform h (x.bind f) s = _
  induction x generalizing s with
  | ret a => rfl
  | read k ih => exact ih _ _
  | test k ih => exact ih _ _
  | ask q k ih => exact ih _ _
  | acquire k ih => exact ih _
  | release k ih => exact ih _
  | send m k ih => exact ih _ _

/-! ### What holds in the end -/

section Ends

variable {h : Handler Q A M R S} {x : Task Q A M R ε α} {f : α → Task Q A M R ε β} {s : S}

/-- The task ends with `P`. -/
def Ends (h : Handler Q A M R S) (x : Task Q A M R ε α) (s : S) (P : Except ε α → S → Prop) :
    Prop :=
  P (perform h x.run s).1 (perform h x.run s).2

theorem Ends.of_runs {mode : Mode} {P : Mode → Except ε α → Prop} (hx : Runs x mode P) :
    Ends h x s fun r _ => ∃ mode', P mode' r := by
  unfold Ends
  unfold Runs at hx
  generalize x.run = p at hx ⊢
  induction p generalizing mode s with
  | ret r => exact ⟨mode, hx⟩
  | read k ih => exact ih _ (hx _)
  | test k ih =>
    change ∃ mode', P mode' (perform h (k (h.flag s).1) (h.flag s).2).1
    cases (h.flag s).1 with
    | true => exact ih true hx.2.1
    | false => exact ih false hx.2.2
  | ask q k ih => exact ih _ (hx _)
  | acquire k ih => exact ih hx.2
  | release k ih => exact ih hx.2
  | send m k ih => exact ih _ (hx.2 _)

/-- A program that only asks moves along a relation that every question moves along. -/
theorem Ends.of_only {allowed : Q → Prop} {G : S → S → Prop} (hrefl : ∀ s, G s s)
    (htrans : ∀ {s t u}, G s t → G t u → G s u) (hflag : ∀ s, G s (h.flag s).2)
    (hask : ∀ q, allowed q → ∀ s, G s (h.ask q s).2) (hx : Only allowed x) :
    Ends h x s fun _ t => G s t := by
  unfold Ends
  unfold Only at hx
  generalize x.run = p at hx ⊢
  induction p generalizing s with
  | ret r => exact hrefl s
  | read k ih => exact htrans (hflag s) (ih _ (hx _))
  | ask q k ih => exact htrans (hask q hx.1 s) (ih _ (hx.2 _))
  | test | acquire | release | send => exact hx.elim

theorem Ends.mono {P P' : Except ε α → S → Prop} (hx : Ends h x s P) (hP : ∀ r t, P r t → P' r t) :
    Ends h x s P' := hP _ _ hx

theorem Ends.and {P P' : Except ε α → S → Prop} (hx : Ends h x s P) (hx' : Ends h x s P') :
    Ends h x s fun r t => P r t ∧ P' r t := ⟨hx, hx'⟩

/-- What holds of the result of a run is what the task ends with. -/
theorem ends_self : Ends h x s fun r t => ∀ P : Except ε α → S → Prop, P r t → Ends h x s P :=
  fun _ hP => hP

theorem ends_trivial : Ends h x s fun _ _ => True := trivial

/-- One task behind the other: the second one runs if the first one returns. -/
theorem ends_bind {P : Except ε β → S → Prop} : Ends h (x >>= f) s P ↔
    Ends h x s fun r t =>
      match r with
      | .ok a => Ends h (f a) t P
      | .error e => P (.error e) t := by
  unfold Ends
  change P (perform h (x.run >>= _) s).1 (perform h (x.run >>= _) s).2 ↔ _
  rw [perform_bind]
  cases (perform h x.run s).1 <;> exact Iff.rfl

theorem ends_attempt {P : Except ε (Except ε α) → S → Prop} :
    Ends h (attempt x) s P ↔ Ends h x s fun r t => P (.ok r) t := by
  unfold Ends attempt
  change P (perform h (x.run >>= _) s).1 (perform h (x.run >>= _) s).2 ↔ _
  rw [perform_bind]
  exact Iff.rfl

theorem ends_attempt_bind {f : Except ε α → Task Q A M R ε β} {P : Except ε β → S → Prop} :
    Ends h (attempt x >>= f) s P ↔ Ends h x s fun r t => Ends h (f r) t P := by
  rw [ends_bind, ends_attempt]

theorem ends_withLock {P : Except ε α → S → Prop} : Ends h (withLock x) s P ↔ Ends h x s P := by
  unfold Ends withLock
  change P (perform h (x.run >>= _) s).1 (perform h (x.run >>= _) s).2 ↔ _
  rw [perform_bind]
  exact Iff.rfl

theorem ends_ask {q : Q} {P : Except ε (A q) → S → Prop} :
    Ends h (ask q : Task Q A M R ε (A q)) s P ↔ P (.ok (h.ask q s).1) (h.ask q s).2 := Iff.rfl

theorem ends_ask_bind {q : Q} {f : A q → Task Q A M R ε β} {P : Except ε β → S → Prop} :
    Ends h (ask q >>= f) s P ↔ Ends h (f (h.ask q s).1) (h.ask q s).2 P := ends_bind

theorem ends_send {m : M} {P : Except ε R → S → Prop} :
    Ends h (send m : Task Q A M R ε R) s P ↔ P (.ok (h.send m s).1) (h.send m s).2 := Iff.rfl

theorem ends_pure {a : α} {P : Except ε α → S → Prop} :
    Ends h (pure a : Task Q A M R ε α) s P ↔ P (.ok a) s := Iff.rfl

theorem ends_raising {y : Except ε α} {P : Except ε α → S → Prop} :
    Ends h (raising y) s P ↔ P y s := Iff.rfl

theorem ends_guard {c : Prop} [Decidable c] {e : ε} {k : PUnit → Task Q A M R ε β}
    {P : Except ε β → S → Prop} : Ends h (if c then MonadExcept.throw e >>= k else k ⟨⟩) s P ↔
      (c → P (.error e) s) ∧ (¬ c → Ends h (k ⟨⟩) s P) := by
  by_cases hc : c
  · rw [if_pos hc]
    exact ⟨fun hp => ⟨fun _ => hp, fun hn => absurd hc hn⟩, fun hp => hp.1 hc⟩
  · rw [if_neg hc]
    exact ⟨fun hp => ⟨fun hn => absurd hn hc, fun _ => hp⟩, fun hp => hp.2 hc⟩

end Ends

/-! ### What does not matter -/

section Ignores

variable {h : Handler Q A M R S} {φ : S → S} {x : Task Q A M R ε α} {f : α → Task Q A M R ε β}

/-- What `φ` changes does not matter to the task, which leaves it alone. -/
def Ignores (h : Handler Q A M R S) (φ : S → S) (x : Task Q A M R ε α) : Prop :=
  ∀ s, perform h x.run (φ s) = ((perform h x.run s).1, φ (perform h x.run s).2)

theorem Ignores.ends (hx : Ignores h φ x) {s : S} {P : Except ε α → S → Prop} :
    Ends h x (φ s) P ↔ Ends h x s fun r t => P r (φ t) := by
  unfold Ends
  rw [hx s]

theorem Ignores.bind (hx : Ignores h φ x) (hf : ∀ a, Ignores h φ (f a)) :
    Ignores h φ (x >>= f) := by
  intro s
  change perform h (x.run >>= _) (φ s) =
    ((perform h (x.run >>= _) s).1, φ (perform h (x.run >>= _) s).2)
  rw [perform_bind, perform_bind, hx s]
  cases (perform h x.run s).1 with
  | ok a => exact hf a _
  | error e => rfl

theorem Ignores.pure (a : α) : Ignores h φ (pure a : Task Q A M R ε α) := fun _ => rfl

theorem Ignores.throw (e : ε) : Ignores h φ (throw e : Task Q A M R ε α) := fun _ => rfl

theorem Ignores.raising (y : Except ε α) : Ignores h φ (raising y : Task Q A M R ε α) :=
  fun _ => rfl

theorem Ignores.ask {q : Q} (hq : ∀ s, h.ask q (φ s) = ((h.ask q s).1, φ (h.ask q s).2)) :
    Ignores h φ (ask q : Task Q A M R ε (A q)) := by
  intro s
  change (Except.ok (h.ask q (φ s)).1, (h.ask q (φ s)).2) = _
  rw [hq s]
  rfl

theorem Ignores.ite {c : Prop} [Decidable c] {y : Task Q A M R ε α} (hx : Ignores h φ x)
    (hy : Ignores h φ y) : Ignores h φ (if c then x else y) := by
  split_ifs
  · exact hx
  · exact hy

end Ignores

/-! ### What is kept -/

section Preserves

variable {h : Handler Q A M R S} {E : ε → Prop} {Inv Weak : S → Prop} {x : Task Q A M R ε α}
  {f : α → Task Q A M R ε β}

/-- `Inv`, unless an exception of `E` is on its way. -/
def Preserved (E : ε → Prop) (Inv Weak : S → Prop) (r : Except ε α) (s : S) : Prop :=
  Inv s ∨ Weak s ∧ ∃ e, r = .error e ∧ E e

theorem Preserved.ok {a : α} {s : S} (hk : Preserved E Inv Weak (.ok a : Except ε α) s) :
    Inv s := by
  rcases hk with hinv | ⟨-, e, he, -⟩
  · exact hinv
  · cases he

theorem Preserved.error {e : ε} {s : S} (hk : Preserved E Inv Weak (.error e : Except ε α) s) :
    Preserved E Inv Weak (.error e : Except ε β) s := by
  rcases hk with hinv | ⟨hweak, e', he, hE⟩
  · exact .inl hinv
  · cases he
    exact .inr ⟨hweak, e, rfl, hE⟩

/-- Every run from `Inv` keeps it. -/
def Preserves (h : Handler Q A M R S) (E : ε → Prop) (Inv Weak : S → Prop) (x : Task Q A M R ε α) :
    Prop :=
  ∀ s, Inv s → Ends h x s (Preserved E Inv Weak)

theorem Preserves.bind (hx : Preserves h E Inv Weak x) (hf : ∀ a, Preserves h E Inv Weak (f a)) :
    Preserves h E Inv Weak (x >>= f) := by
  intro s hs
  refine ends_bind.mpr ((hx s hs).mono fun r t hk => ?_)
  cases r with
  | ok a => exact hf a t hk.ok
  | error e => exact hk.error

/-- `try`: the exceptions of `E'` are caught by handlers that restore the invariant. -/
theorem Preserves.attempt_bind (E' : ε → Prop) {f : Except ε α → Task Q A M R ε β}
    (hx : Preserves h E' Inv Weak x) (hf : ∀ r, Preserves h E Inv Weak (f r))
    (hhandler : ∀ e, E' e → ∀ s, Weak s → Ends h (f (.error e)) s (Preserved E Inv Weak)) :
    Preserves h E Inv Weak (attempt x >>= f) := by
  intro s hs
  refine ends_attempt_bind.mpr ((hx s hs).mono fun r t hk => ?_)
  rcases hk with hinv | ⟨hweak, e, rfl, hE⟩
  · exact hf r t hinv
  · exact hhandler e hE t hweak

theorem Preserves.attempt (hx : Preserves h (fun _ => False) Inv Weak x) :
    Preserves h E Inv Weak (attempt x) := by
  refine fun s hs => ends_attempt.mpr ((hx s hs).mono fun r t hk => ?_)
  rcases hk with hinv | ⟨-, e, -, hE⟩
  · exact .inl hinv
  · exact hE.elim

theorem Preserves.pure (a : α) : Preserves h E Inv Weak (pure a : Task Q A M R ε α) :=
  fun _ hs => .inl hs

theorem Preserves.raising (y : Except ε α) :
    Preserves h E Inv Weak (raising y : Task Q A M R ε α) :=
  fun _ hs => .inl hs

theorem Preserves.throw (e : ε) : Preserves h E Inv Weak (throw e : Task Q A M R ε α) :=
  fun _ hs => .inl hs

theorem Preserves.ite {c : Prop} [Decidable c] {y : Task Q A M R ε α}
    (hx : Preserves h E Inv Weak x) (hy : Preserves h E Inv Weak y) :
    Preserves h E Inv Weak (if c then x else y) := by
  split_ifs
  · exact hx
  · exact hy

theorem Preserves.guard {c : Prop} [Decidable c] {e : ε} {k : PUnit → Task Q A M R ε β}
    (hk : Preserves h E Inv Weak (k ⟨⟩)) :
    Preserves h E Inv Weak (if c then MonadExcept.throw e >>= k else k ⟨⟩) :=
  .ite (.bind (.throw e) fun _ => hk) hk

theorem Preserves.ask {q : Q} (hq : ∀ s, Inv s → Inv (h.ask q s).2) :
    Preserves h E Inv Weak (ask q : Task Q A M R ε (A q)) := fun s hs => .inl (hq s hs)

theorem Preserves.readFlag (hflag : ∀ s, Inv s → Inv (h.flag s).2) :
    Preserves h E Inv Weak (readFlag : Task Q A M R ε Bool) := fun s hs => .inl (hflag s hs)

theorem Preserves.testFlag (hflag : ∀ s, Inv s → Inv (h.flag s).2) :
    Preserves h E Inv Weak (testFlag : Task Q A M R ε Bool) := fun s hs => .inl (hflag s hs)

theorem Preserves.withLock (hx : Preserves h E Inv Weak x) : Preserves h E Inv Weak (withLock x) :=
  fun s hs => ends_withLock.mpr (hx s hs)

end Preserves

/-! ### What a run leads to -/

section Leads

variable {h : Handler Q A M R S} {Inv : S → Prop} {P : Except ε β → S → Prop} {x : Task Q A M R ε α}
  {f : α → Task Q A M R ε β}

/-- Every run from `Inv` ends with `P`. -/
def Leads (h : Handler Q A M R S) (Inv : S → Prop) (P : Except ε β → S → Prop)
    (x : Task Q A M R ε β) : Prop := ∀ s, Inv s → Ends h x s P

/-- A task that keeps `Inv` in front of one that starts from it. -/
theorem Leads.bind (hx : Preserves h (fun _ => False) Inv (fun _ => False) x)
    (hf : ∀ a, Leads h Inv P (f a)) (herror : ∀ e s, Inv s → P (.error e) s) :
    Leads h Inv P (x >>= f) := by
  intro s hs
  refine ends_bind.mpr ((hx s hs).mono fun r t hk => ?_)
  have ht : Inv t := by
    rcases hk with ht | ⟨hfalse, -⟩
    · exact ht
    · exact hfalse.elim
  cases r with
  | ok a => exact hf a t ht
  | error e => exact herror e t ht

theorem Leads.pure {b : β} (hP : ∀ s, Inv s → P (.ok b) s) :
    Leads h Inv P (pure b : Task Q A M R ε β) := hP

theorem Leads.ite {c : Prop} [Decidable c] {x y : Task Q A M R ε β} (hx : Leads h Inv P x)
    (hy : Leads h Inv P y) : Leads h Inv P (if c then x else y) := by
  split_ifs
  · exact hx
  · exact hy

theorem Leads.guard {c : Prop} [Decidable c] {e : ε} {k : PUnit → Task Q A M R ε β}
    (hP : ∀ s, Inv s → P (.error e) s) (hk : Leads h Inv P (k ⟨⟩)) :
    Leads h Inv P (if c then MonadExcept.throw e >>= k else k ⟨⟩) :=
  .ite (fun s hs => ends_bind.mpr (hP s hs)) hk

end Leads

end Blessing.Lib.Handlers
