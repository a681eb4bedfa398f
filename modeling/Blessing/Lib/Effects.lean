import Mathlib.Data.List.Forall2

/-! # Programs with a state and exceptions

Rules for `EStateM`, whose state survives an exception. A run that returns is taken apart by
`bind_ok` and its companions; `Keeps P x` says that every run of `x` keeps `P`, whether it returns
or raises, and is proved by following the program text. -/

namespace Blessing.Lib.Effects

variable {ε σ α β ι : Type}

/-- The state a run ends in. -/
def after : EStateM.Result ε σ α → σ
  | .ok _ s => s
  | .error _ s => s

/-- A computation without a state. -/
def lift (x : Except ε α) : EStateM ε σ α :=
  match x with
  | .ok a => pure a
  | .error e => throw e

/-- A loop over a list. -/
def forEach (body : ι → EStateM ε σ Unit) (is : List ι) : EStateM ε σ Unit :=
  is.foldlM (fun _ i => body i) ()

/-! ### Runs that return -/

section Ok

variable {x : EStateM ε σ α} {f : α → EStateM ε σ β} {s s' : σ} {a : α} {b : β}

theorem run_bind : (x >>= f).run s =
    match x.run s with
    | .ok a s' => (f a).run s'
    | .error e s' => .error e s' := rfl

theorem run_bind_of_ok (h : x.run s = .ok a s') : (x >>= f).run s = (f a).run s' := by
  rw [run_bind, h]

theorem run_bind_of_error {e : ε} (h : x.run s = .error e s') : (x >>= f).run s = .error e s' := by
  rw [run_bind, h]

theorem bind_ok : (x >>= f).run s = .ok b s' ↔
    ∃ a t, x.run s = .ok a t ∧ (f a).run t = .ok b s' := by
  rw [run_bind]
  cases hx : x.run s with
  | ok a t =>
    refine ⟨fun h => ⟨a, t, rfl, h⟩, ?_⟩
    rintro ⟨a', t', he, h⟩
    cases he
    exact h
  | error e t =>
    constructor
    · intro h
      cases h
    · rintro ⟨a', t', he, -⟩
      cases he

@[simp] theorem run_pure : (pure a : EStateM ε σ α).run s = .ok a s := rfl

@[simp] theorem run_throw {e : ε} : (throw e : EStateM ε σ α).run s = .error e s := rfl

@[simp] theorem run_modify {g : σ → σ} : (modify g : EStateM ε σ Unit).run s = .ok () (g s) := rfl

@[simp] theorem run_get : (get : EStateM ε σ σ).run s = .ok s s := rfl

theorem run_get_bind {f : σ → EStateM ε σ β} : (get >>= f).run s = (f s).run s := rfl

theorem run_modify_bind {g : σ → σ} {f : PUnit → EStateM ε σ β} :
    (modify g >>= f).run s = (f ⟨⟩).run (g s) := rfl

theorem lift_ok {y : Except ε α} :
    (lift y : EStateM ε σ α).run s = .ok a s' ↔ y = .ok a ∧ s' = s := by
  cases y with
  | ok a' => simp [lift, eq_comm]
  | error e => simp [lift]

theorem run_tryCatch {h : ε → EStateM ε σ α} : (tryCatch x h).run s =
    match x.run s with
    | .error e t => (h e).run t
    | .ok a t => .ok a t := by
  change EStateM.tryCatch x h s = _
  rw [EStateM.tryCatch, EStateM.run]
  cases x s <;> rfl

theorem foldlM_ok (Inv : List ι → β → σ → Prop) {body : β → ι → EStateM ε σ β} {is : List ι}
    {b₀ : β} (hrun : (is.foldlM body b₀).run s = .ok b s') (h0 : Inv [] b₀ s)
    (hstep : ∀ done i rest b c s s', is = done ++ i :: rest → Inv done b s →
      (body b i).run s = .ok c s' → Inv (done ++ [i]) c s') : Inv is b s' := by
  have hgen : ∀ (rest done : List ι) (c : β) (s : σ), is = done ++ rest → Inv done c s →
      (rest.foldlM body c).run s = .ok b s' → Inv is b s' := by
    intro rest
    induction rest with
    | nil =>
      intro done c s his hinv hrun
      rw [List.foldlM_nil, run_pure] at hrun
      cases hrun
      rwa [his, List.append_nil]
    | cons i rest ih =>
      intro done c s his hinv hrun
      rw [List.foldlM_cons] at hrun
      obtain ⟨d, t, hbody, hrest⟩ := bind_ok.mp hrun
      exact ih (done ++ [i]) d t (by simpa using his)
        (hstep done i rest c d s t his hinv hbody) hrest
  exact hgen is [] b₀ s rfl h0 hrun

end Ok

/-! ### All runs -/

section Keeps

variable {P : σ → Prop} {x : EStateM ε σ α} {f : α → EStateM ε σ β}

/-- Every run that starts with `P` ends with `P`, whether it returns or raises. -/
def Keeps (P : σ → Prop) (x : EStateM ε σ α) : Prop := ∀ s, P s → P (after (x.run s))

theorem Keeps.of_ok (hx : Keeps P x) {s s' : σ} {a : α} (h : P s) (hrun : x.run s = .ok a s') :
    P s' := by
  have := hx s h
  rwa [hrun] at this

/-- Some run returns `a`. -/
def Returns (x : EStateM ε σ α) (a : α) : Prop := ∃ s s', x.run s = .ok a s'

theorem Keeps.bind_of (hx : Keeps P x) (hf : ∀ a, Returns x a → Keeps P (f a)) :
    Keeps P (x >>= f) := by
  intro s h
  have hx := hx s h
  rw [run_bind]
  cases hr : x.run s with
  | ok a t => rw [hr] at hx; exact hf a ⟨s, t, hr⟩ t hx
  | error e t => rw [hr] at hx; exact hx

theorem Keeps.bind (hx : Keeps P x) (hf : ∀ a, Keeps P (f a)) : Keeps P (x >>= f) :=
  .bind_of hx fun a _ => hf a

theorem Keeps.tryCatch (hx : Keeps P x) {g : ε → EStateM ε σ α} (hg : ∀ e, Keeps P (g e)) :
    Keeps P (tryCatch x g) := by
  intro s h
  have hx := hx s h
  rw [run_tryCatch]
  cases hr : x.run s with
  | ok a t => rw [hr] at hx; exact hx
  | error e t => rw [hr] at hx; exact hg e t hx

theorem Keeps.foldlM {body : β → ι → EStateM ε σ β} {is : List ι}
    (h : ∀ b, ∀ i ∈ is, Keeps P (body b i)) (b : β) : Keeps P (is.foldlM body b) := by
  induction is generalizing b with
  | nil => exact fun _ h => h
  | cons i is ih =>
    rw [List.foldlM_cons]
    exact .bind (h b i (by simp)) fun c => ih (fun b j hj => h b j (by simp [hj])) c

theorem Keeps.forEach {body : ι → EStateM ε σ Unit} {is : List ι} (h : ∀ i ∈ is, Keeps P (body i)) :
    Keeps P (forEach body is) := .foldlM (fun _ => h) ()

theorem Keeps.pure (a : α) : Keeps P (pure a : EStateM ε σ α) := fun _ h => h

theorem Keeps.throw (e : ε) : Keeps P (throw e : EStateM ε σ α) := fun _ h => h

theorem Keeps.get : Keeps P (get : EStateM ε σ σ) := fun _ h => h

theorem Keeps.modify {g : σ → σ} (h : ∀ s, P s → P (g s)) :
    Keeps P (modify g : EStateM ε σ Unit) := h

theorem Keeps.lift (y : Except ε α) : Keeps P (lift y : EStateM ε σ α) := by
  cases y with
  | ok a => exact fun _ h => h
  | error e => exact fun _ h => h

theorem Keeps.ite {c : Prop} [Decidable c] {y : EStateM ε σ α} (hx : c → Keeps P x)
    (hy : ¬ c → Keeps P y) : Keeps P (if c then x else y) := by
  split_ifs with h
  · exact hx h
  · exact hy h

theorem Keeps.guard {c : Prop} [Decidable c] {e : ε} {k : PUnit → EStateM ε σ β}
    (hk : Keeps P (k ⟨⟩)) : Keeps P (if c then MonadExcept.throw e >>= k else k ⟨⟩) :=
  .ite (fun _ => .bind (.throw e) fun _ => hk) fun _ => hk

end Keeps

/-! ### Runs that do not raise -/

section Completes

/-- A run that returns. -/
def Completes (x : EStateM ε σ α) (s : σ) : Prop := ∃ a t, x.run s = .ok a t

/-- Every run of the loop returns if every run of its body does. -/
theorem Completes.foldlM {body : β → ι → EStateM ε σ β} (h : ∀ b i s, Completes (body b i) s)
    (is : List ι) (b : β) (s : σ) : Completes (is.foldlM body b) s := by
  induction is generalizing b s with
  | nil => exact ⟨b, s, rfl⟩
  | cons i is ih =>
    obtain ⟨c, t, hbody⟩ := h b i s
    obtain ⟨d, u, hrest⟩ := ih c t
    exact ⟨d, u, by rw [List.foldlM_cons]; exact bind_ok.mpr ⟨c, t, hbody, hrest⟩⟩

end Completes

/-! ### Computations without a state -/

section Raises

variable {P : ε → Prop} {x : Except ε α} {f : α → Except ε β}

/-- Every exception of `x` is one of `P`. -/
def Raises (P : ε → Prop) (x : Except ε α) : Prop := ∀ e, x = .error e → P e

theorem Raises.ok (a : α) : Raises P (.ok a) := by
  intro e h
  cases h

theorem Raises.error {e : ε} (h : P e) : Raises P (.error e : Except ε α) := by
  intro e' he
  cases he
  exact h

theorem Raises.bind (hx : Raises P x) (hf : ∀ a, Raises P (f a)) : Raises P (x >>= f) := by
  intro e h
  cases x with
  | ok a => exact hf a e h
  | error e' => cases h; exact hx _ rfl

theorem Raises.map (hx : Raises P x) (g : α → β) : Raises P (g <$> x) := by
  intro e h
  cases x with
  | ok a => cases h
  | error e' => cases h; exact hx _ rfl

theorem Raises.ite {c : Prop} [Decidable c] {y : Except ε α} (hx : Raises P x) (hy : Raises P y) :
    Raises P (if c then x else y) := by
  split_ifs
  · exact hx
  · exact hy

/-- Every value of `x` is one of `Q`. -/
def Gives (Q : α → Prop) (x : Except ε α) : Prop := ∀ a, x = .ok a → Q a

theorem Gives.ok {Q : α → Prop} {a : α} (h : Q a) : Gives Q (.ok a : Except ε α) := by
  intro b hb
  cases hb
  exact h

theorem Gives.error {Q : α → Prop} (e : ε) : Gives Q (.error e : Except ε α) := by
  intro a h
  cases h

theorem Gives.bind {Q : β → Prop} (hf : ∀ a, Gives Q (f a)) : Gives Q (x >>= f) := by
  intro b h
  cases x with
  | ok a => exact hf a b h
  | error e => cases h

theorem Gives.ite {Q : α → Prop} {c : Prop} [Decidable c] {y : Except ε α} (hx : Gives Q x)
    (hy : Gives Q y) : Gives Q (if c then x else y) := by
  split_ifs
  · exact hx
  · exact hy

/-- What holds along a loop whose body keeps it for the items there are. -/
theorem Gives.foldlM_of_mem {P : β → Prop} {body : β → ι → Except ε β} {is : List ι}
    (h : ∀ b, ∀ i ∈ is, P b → Gives P (body b i)) {b : β} (hb : P b) :
    Gives P (is.foldlM body b) := by
  induction is generalizing b with
  | nil => exact Gives.ok hb
  | cons i is ih =>
    rw [List.foldlM_cons]
    intro c hc
    cases hbody : body b i with
    | ok b' =>
      rw [hbody] at hc
      have hrest (b : β) : ∀ j ∈ is, P b → Gives P (body b j) := fun j hj =>
        h b j (List.mem_cons_of_mem i hj)
      exact ih hrest (h b i List.mem_cons_self hb b' hbody) c hc
    | error e =>
      rw [hbody] at hc
      cases hc

theorem Gives.foldlM {P : β → Prop} {body : β → ι → Except ε β}
    (h : ∀ b i, P b → Gives P (body b i)) (is : List ι) {b : β} (hb : P b) :
    Gives P (is.foldlM body b) := Gives.foldlM_of_mem (fun b i _ => h b i) hb

theorem except_bind_ok {b : β} : (x >>= f) = .ok b ↔ ∃ a, x = .ok a ∧ f a = .ok b := by
  cases x with
  | ok a => exact ⟨fun h => ⟨a, rfl, h⟩, fun ⟨_, ha, h⟩ => by cases ha; exact h⟩
  | error e => exact ⟨fun h => (nomatch h), fun ⟨_, ha, _⟩ => (nomatch ha)⟩

theorem except_guard_ok {c : Prop} [Decidable c] {e : ε} {k : PUnit → Except ε β} {b : β} :
    (if c then throw e >>= k else k ⟨⟩) = .ok b ↔ ¬ c ∧ k ⟨⟩ = .ok b := by
  split_ifs with hc
  · exact ⟨fun h => (nomatch h), fun h => absurd hc h.1⟩
  · exact ⟨fun h => ⟨hc, h⟩, fun h => h.2⟩

theorem except_check_ok {c : Prop} [Decidable c] {e : ε} {u : PUnit} :
    (if c then throw e else pure PUnit.unit : Except ε PUnit) = .ok u ↔ ¬ c := by
  split_ifs with hc
  · exact ⟨fun h => (nomatch h), fun h => absurd hc h⟩
  · exact ⟨fun _ => hc, fun _ => rfl⟩

theorem exists_of_toBool (h : x.toBool = true) : ∃ a, x = .ok a := by
  cases x with
  | ok a => exact ⟨a, rfl⟩
  | error e => cases h

theorem except_mapM_ok {body : ι → Except ε β} {is : List ι} {bs : List β} :
    is.mapM body = .ok bs ↔ List.Forall₂ (fun i b => body i = .ok b) is bs := by
  induction is generalizing bs with
  | nil =>
    rw [List.mapM_nil, List.forall₂_nil_left_iff]
    exact ⟨fun h => by cases h; rfl, fun h => by rw [h]; rfl⟩
  | cons i is ih =>
    rw [List.mapM_cons, except_bind_ok, List.forall₂_cons_left_iff]
    constructor
    · rintro ⟨b, hb, hrest⟩
      obtain ⟨bs', hbs', hpure⟩ := except_bind_ok.mp hrest
      cases hpure
      exact ⟨b, bs', hb, ih.mp hbs', rfl⟩
    · rintro ⟨b, bs', hb, hbs', rfl⟩
      exact ⟨b, hb, except_bind_ok.mpr ⟨bs', ih.mpr hbs', rfl⟩⟩

end Raises

/-! ### What a loop keeps, member by member -/

theorem forall₂_mem_left {R : α → β → Prop} {as : List α} {bs : List β} (h : List.Forall₂ R as bs)
    {a : α} (ha : a ∈ as) : ∃ b ∈ bs, R a b := by
  induction h with
  | nil => cases ha
  | cons hab hrest ih =>
    rcases List.mem_cons.mp ha with rfl | ha
    · exact ⟨_, List.mem_cons_self, hab⟩
    · obtain ⟨b, hb, hab⟩ := ih ha
      exact ⟨b, List.mem_cons_of_mem _ hb, hab⟩

theorem forall₂_mem_right {R : α → β → Prop} {as : List α} {bs : List β} (h : List.Forall₂ R as bs)
    {b : β} (hb : b ∈ bs) : ∃ a ∈ as, R a b := forall₂_mem_left (List.Forall₂.flip h) hb

end Blessing.Lib.Effects
