import Blessing.ControlPlane.Truthful
import Blessing.Lib.Effects

/-! # What becomes of a claimed approval

A request that claimed an approval consumes it or gives it back, except when the readiness request,
the state read-back or the answer to `/continue` raises an exception: the catch-all does not release
the claim (`neverStranded_iff`). -/

namespace Blessing.ControlPlane.Stranded

open Blessing.Lib Blessing.Lib.Values Blessing.Lib.JavaScript Blessing.Lib.Handlers
  Blessing.ControlPlane.Release Blessing.ControlPlane.Continuation Blessing.ControlPlane.Truthful
open Blessing.Lib.Coroutine (Task ask attempt raising)

/-! ### The life of an approval -/

/-- The changes of status the store makes. -/
inductive Allowed : ContinuationApprovalStatus → ContinuationApprovalStatus → Prop
  | same (a) : Allowed a a
  | claimed : Allowed .pending .activating
  | released : Allowed .activating .pending
  | consumed : Allowed .activating .consumed

/-- What an operation on the approval `id` makes of the collection. -/
structure Evolves (id : String) (t t' : Continuations) : Prop where
  allowed : ∀ a, statusOf id t = some a → ∃ b, statusOf id t' = some b ∧ Allowed a b
  others : ∀ k a, k ≠ id → statusOf k t = some a → statusOf k t' = some a

theorem Evolves.refl (id : String) (t : Continuations) : Evolves id t t :=
  ⟨fun a h => ⟨a, h, .same a⟩, fun _ _ _ h => h⟩

theorem statusOf_setRecord {id : String} {f : ContinuationApproval → ContinuationApproval}
    (hf : ∀ r, (f r).continuationId = r.continuationId) (k : String) (t : Continuations) :
    statusOf k (setRecord id f t) =
      if id = k then (find k t).map fun r => (f r).status else statusOf k t := by
  have hkey : ∀ r : ContinuationApproval, decide (r.continuationId = id) = true ↔
      r.continuationId = id := by simp
  rw [statusOf, find, setRecord, Table.lookup_update_key hkey hf]
  split_ifs
  · rw [Option.map_map]
    rfl
  · rfl

theorem setRecord_evolves {id : String} {t : Continuations} {r : ContinuationApproval}
    {f : ContinuationApproval → ContinuationApproval} {b : ContinuationApprovalStatus}
    (hr : find id t = some r) (hf : ∀ r, (f r).continuationId = r.continuationId)
    (hb : ∀ r, (f r).status = b) (hallowed : Allowed r.status b) :
    Evolves id t (setRecord id f t) ∧ statusOf id (setRecord id f t) = some b := by
  have hstatus : statusOf id (setRecord id f t) = some b := by
    rw [statusOf_setRecord hf, if_pos rfl, hr, Option.map_some, hb]
  refine ⟨⟨fun a ha => ?_, fun k a hk ha => ?_⟩, hstatus⟩
  · rw [statusOf, hr] at ha
    cases ha
    exact ⟨b, hstatus, hallowed⟩
  · rw [statusOf_setRecord hf, if_neg (Ne.symm hk), ha]

theorem continuationIdOrThrow_ok {id k : String} (h : continuationIdOrThrow id = .ok k) :
    k = trim id ∧ isId "continuation-" k = true := by
  unfold continuationIdOrThrow at h
  split_ifs at h with hid
  cases h
  exact ⟨rfl, hid⟩

section

variable {js : Platform} {stamp : ℤ → String} {id : String} {now : ℤ} {t t' : Continuations}
  {approval : ContinuationApproval}

/-- A claim that succeeds finds the approval pending and leaves it activating. -/
theorem claim_ok (h : claimContinuationApproval js id now t = .ok (approval, t')) :
    Evolves (trim id) t t' ∧ statusOf (trim id) t = some .pending ∧
      statusOf (trim id) t' = some .activating ∧ approval.continuationId = trim id ∧
      isId "continuation-" (trim id) = true := by
  unfold claimContinuationApproval at h
  obtain ⟨k, hk, h⟩ := Effects.except_bind_ok.mp h
  obtain ⟨rfl, hid⟩ := continuationIdOrThrow_ok hk
  cases hr : find (trim id) t with
  | none =>
    rw [hr] at h
    cases h
  | some r =>
    rw [hr] at h
    obtain ⟨-, -, h⟩ := Effects.except_bind_ok.mp h
    cases hs : r.status with
    | pending =>
      rw [hs] at h
      cases h
      obtain ⟨hevolves, hstatus⟩ := setRecord_evolves (b := .activating)
        (f := fun r => { r with status := .activating }) hr (fun _ => rfl) (fun _ => rfl)
        (hs ▸ .claimed)
      have hkey : r.continuationId = trim id := Table.key_of_lookup hr
      refine ⟨hevolves, ?_, hstatus, hkey, hid⟩
      rw [statusOf, hr, Option.map_some, hs]
    | _ =>
      rw [hs] at h
      cases h

/-- A consumption that succeeds finds the approval activating and leaves it consumed. -/
theorem consume_ok (h : consumeContinuationApproval js stamp id now t = .ok (approval, t')) :
    Evolves (trim id) t t' ∧ statusOf (trim id) t = some .activating ∧
      statusOf (trim id) t' = some .consumed := by
  unfold consumeContinuationApproval at h
  obtain ⟨k, hk, h⟩ := Effects.except_bind_ok.mp h
  obtain ⟨rfl, -⟩ := continuationIdOrThrow_ok hk
  cases hr : find (trim id) t with
  | none =>
    rw [hr] at h
    cases h
  | some r =>
    rw [hr] at h
    obtain ⟨-, -, h⟩ := Effects.except_bind_ok.mp h
    cases hs : r.status with
    | activating =>
      rw [hs] at h
      cases h
      obtain ⟨hevolves, hstatus⟩ := setRecord_evolves (b := .consumed)
        (f := fun r => { r with status := .consumed, consumedAt := some (stamp now) }) hr
        (fun _ => rfl) (fun _ => rfl) (hs ▸ .consumed)
      refine ⟨hevolves, ?_, hstatus⟩
      rw [statusOf, hr, Option.map_some, hs]
    | _ =>
      rw [hs] at h
      cases h

theorem release_ok {u : Unit} (h : releaseContinuationApproval id t = .ok (u, t')) :
    Evolves (trim id) t t' ∧ statusOf (trim id) t' ≠ some .activating := by
  unfold releaseContinuationApproval at h
  obtain ⟨k, hk, h⟩ := Effects.except_bind_ok.mp h
  obtain ⟨rfl, -⟩ := continuationIdOrThrow_ok hk
  cases hr : find (trim id) t with
  | none =>
    rw [hr] at h
    cases h
    exact ⟨.refl _ _, by simp [statusOf, hr]⟩
  | some r =>
    rw [hr] at h
    change (if r.status = .activating then _ else _) = _ at h
    by_cases hs : r.status = .activating
    · rw [if_pos hs] at h
      cases h
      obtain ⟨hevolves, hstatus⟩ := setRecord_evolves (b := .pending)
        (f := fun r => { r with status := .pending }) hr (fun _ => rfl) (fun _ => rfl)
        (hs ▸ .released)
      exact ⟨hevolves, by simp [hstatus]⟩
    · rw [if_neg hs] at h
      cases h
      exact ⟨.refl _ _, by simpa [statusOf, hr] using hs⟩

theorem release_isOk (hid : isId "continuation-" (trim id) = true) (t : Continuations) :
    ∃ t', releaseContinuationApproval id t = .ok ((), t') := by
  have hk : continuationIdOrThrow id = .ok (trim id) := if_pos hid
  rw [releaseContinuationApproval, hk]
  dsimp only [bind, Except.bind]
  cases find (trim id) t with
  | none => exact ⟨t, rfl⟩
  | some r =>
    by_cases hs : r.status = .activating
    · exact ⟨_, if_pos hs⟩
    · exact ⟨t, if_neg hs⟩

theorem create_evolves (h : createContinuationApproval js approval now t = .ok t') (k : String) :
    Evolves k t t' := by
  unfold createContinuationApproval at h
  obtain ⟨-, -, h⟩ := Effects.except_bind_ok.mp h
  obtain ⟨id, -, h⟩ := Effects.except_bind_ok.mp h
  obtain ⟨-, h⟩ := Effects.except_guard_ok.mp h
  cases h
  have hkeep (k : String) (a : ContinuationApprovalStatus) (ha : statusOf k t = some a) :
      statusOf k (t ++ [{ approval with continuationId := id }]) = some a := by
    obtain ⟨r, hr, rfl⟩ := Option.map_eq_some_iff.mp ha
    rw [statusOf, find, Table.lookup_append, show Table.lookup _ k t = some r from hr]
    rfl
  exact ⟨fun a ha => ⟨a, hkeep k a ha, .same a⟩, fun k a _ => hkeep k a⟩

theorem ok_of_map_snd {α : Type} {x : Except String (α × Continuations)}
    (h : x.map Prod.snd = .ok t') : ∃ a, x = .ok (a, t') := by
  cases x with
  | error e => cases h
  | ok r =>
    cases h
    exact ⟨r.1, rfl⟩

theorem storeOp_evolves {op : StoreOp} (h : op.apply js stamp now t = .ok t') :
    Evolves op.id t t' := by
  cases op with
  | create approval => exact create_evolves h _
  | claim id =>
    rw [StoreOp.apply] at h
    obtain ⟨approval, hclaim⟩ := ok_of_map_snd h
    exact (claim_ok hclaim).1
  | release id =>
    rw [StoreOp.apply] at h
    obtain ⟨u, hrelease⟩ := ok_of_map_snd h
    exact (release_ok hrelease).1
  | consume id =>
    rw [StoreOp.apply] at h
    obtain ⟨approval, hconsume⟩ := ok_of_map_snd h
    exact (consume_ok hconsume).1

end

/-! ### An approval since its claim -/

/-- The approval has left the claim: it was released at some time, or it is consumed. -/
def Resolved (k : String) (post : List Entry) (t : Continuations) : Prop :=
  ∃ own b, .moved own k .activating b ∈ post ∧ (b = .pending ∨ statusOf k t = some .consumed)

/-- The claim stands, and nothing happened to the approval. -/
def Standing (k : String) (post : List Entry) (t : Continuations) : Prop :=
  statusOf k t = some .activating ∧ ∀ own a b, .moved own k a b ∉ post

theorem moves_other {own : Bool} {id k : String} (h : k ≠ id) (t t' : Continuations) :
    ∀ own' a b, Entry.moved own' k a b ∉ moves own id t t' := by
  intro own' a b hmem
  unfold moves at hmem
  split at hmem
  · split_ifs at hmem
    · cases hmem
    · cases List.mem_singleton.mp hmem
      exact h rfl
  · cases hmem

theorem resolved_commit {k id : String} {own : Bool} {post : List Entry} {t t' : Continuations}
    (h : Resolved k post t) (hevolves : Evolves id t t') :
    Resolved k (post ++ moves own id t t') t' := by
  obtain ⟨own', b, hmem, hb⟩ := h
  refine ⟨own', b, List.mem_append_left _ hmem, hb.imp_right fun hstatus => ?_⟩
  by_cases hk : k = id
  · subst hk
    obtain ⟨c, hc, hallowed⟩ := hevolves.allowed _ hstatus
    cases hallowed
    exact hc
  · exact hevolves.others k _ hk hstatus

theorem standing_commit {k id : String} {own : Bool} {post : List Entry} {t t' : Continuations}
    (h : Standing k post t) (hevolves : Evolves id t t') :
    Standing k (post ++ moves own id t t') t' ∨ Resolved k (post ++ moves own id t t') t' := by
  obtain ⟨hstatus, hnone⟩ := h
  by_cases hk : k = id
  · subst hk
    obtain ⟨c, hc, hallowed⟩ := hevolves.allowed _ hstatus
    have hmoves : moves own k t t' =
        if ContinuationApprovalStatus.activating = c then [] else [.moved own k .activating c] := by
      rw [moves, hstatus, hc]
    cases hallowed with
    | same =>
      refine .inl ⟨hc, ?_⟩
      simpa [hmoves] using hnone
    | released => exact .inr ⟨own, .pending, by simp [hmoves], .inl rfl⟩
    | consumed => exact .inr ⟨own, .consumed, by simp [hmoves], .inr hc⟩
  · refine .inl ⟨hevolves.others k _ hk hstatus, fun own' a b hmem => ?_⟩
    rcases List.mem_append.mp hmem with hmem | hmem
    · exact hnone own' a b hmem
    · exact moves_other hk t t' own' a b hmem

/-- No change of status in the list is one of this request. -/
def Foreign (ms : List Entry) : Prop := ∀ id a b, Entry.moved true id a b ∉ ms

theorem Foreign.append {ms ns : List Entry} (h : Foreign ms) (h' : Foreign ns) :
    Foreign (ms ++ ns) := by
  intro id a b hmem
  rcases List.mem_append.mp hmem with hmem | hmem
  · exact h id a b hmem
  · exact h' id a b hmem

theorem foreign_moves (id : String) (t t' : Continuations) : Foreign (moves false id t t') := by
  intro id' a b hmem
  unfold moves at hmem
  split at hmem
  · split_ifs at hmem
    · cases hmem
    · cases List.mem_singleton.mp hmem
  · cases hmem

/-- A world goes on: what is logged, and what becomes of an approval. -/
structure Grows (w w' : World) (ms : List Entry) : Prop where
  log : w'.log = w.log ++ ms
  resolved : ∀ k post, Resolved k post w.continuations → Resolved k (post ++ ms) w'.continuations
  standing : ∀ k post, Standing k post w.continuations →
    Standing k (post ++ ms) w'.continuations ∨ Resolved k (post ++ ms) w'.continuations

theorem Grows.refl (w : World) : Grows w w [] :=
  ⟨by simp, fun _ _ h => by simpa using h, fun _ _ h => .inl (by simpa using h)⟩

theorem Grows.trans {w w' w'' : World} {ms ns : List Entry} (h : Grows w w' ms)
    (h' : Grows w' w'' ns) : Grows w w'' (ms ++ ns) where
  log := by rw [h'.log, h.log, List.append_assoc]
  resolved k post hr := by
    rw [← List.append_assoc]
    exact h'.resolved k _ (h.resolved k post hr)
  standing k post hs := by
    rw [← List.append_assoc]
    rcases h.standing k post hs with hs' | hr
    · exact h'.standing k _ hs'
    · exact .inr (h'.resolved k _ hr)

theorem Grows.commit {id : String} {own : Bool} {w : World} {t' : Continuations}
    (hevolves : Evolves id w.continuations t') :
    Grows w (w.commit own id t') (moves own id w.continuations t') :=
  ⟨rfl, fun _ _ h => resolved_commit h hevolves, fun _ _ h => standing_commit h hevolves⟩

theorem Grows.asked (w : World) (c : Call) (t : Turn) :
    Grows w (w.note (.asked c t)) [.asked c t] where
  log := rfl
  resolved := fun _ _ ⟨own, b, hmem, hb⟩ => ⟨own, b, List.mem_append_left _ hmem, hb⟩
  standing := fun _ _ ⟨hstatus, hnone⟩ => .inl ⟨hstatus, by simpa using hnone⟩

section

variable {js : Platform} {stamp : ℤ → String} {env : ℕ → Turn}

theorem grows_other (w : World) (op : StoreOp × ℤ) :
    ∃ ms, Grows w (w.other js stamp op) ms ∧ Foreign ms := by
  unfold World.other
  split
  · next after h => exact ⟨_, .commit (storeOp_evolves h), foreign_moves _ _ _⟩
  · exact ⟨[], .refl w, by simp [Foreign]⟩

theorem grows_others (w : World) (ops : List (StoreOp × ℤ)) :
    ∃ ms, Grows w (ops.foldl (World.other js stamp) w) ms ∧ Foreign ms := by
  induction ops generalizing w with
  | nil => exact ⟨[], .refl w, by simp [Foreign]⟩
  | cons op ops ih =>
    obtain ⟨ms, hms, hforeign⟩ := grows_other w op
    obtain ⟨ns, hns, hforeign'⟩ := ih (w.other js stamp op)
    exact ⟨ms ++ ns, hms.trans hns, hforeign.append hforeign'⟩

theorem calls_of_grows_others {w : World} {ops : List (StoreOp × ℤ)} {ms : List Entry}
    (h : Grows w (ops.foldl (World.other js stamp) w) ms) : calls ms = [] := by
  have hcalls := calls_others js stamp w ops
  rw [h.log, calls_append] at hcalls
  exact List.append_right_eq_self.mp hcalls

theorem grows_before (w : World) (t : Turn) (c : Call) :
    ∃ ms, Grows w (w.before js stamp t c) (ms ++ [.asked c t]) ∧ Foreign ms ∧ calls ms = [] := by
  obtain ⟨ms, hms, hforeign⟩ := grows_others w t.others
  refine ⟨ms, hms.trans ⟨rfl, ?_, ?_⟩, hforeign, calls_of_grows_others hms⟩
  · exact (Grows.asked _ c t).resolved
  · exact (Grows.asked _ c t).standing

theorem grows_transact {α : Type} (w : World) (t : Turn) (id : String)
    (tx : Except String (α × Continuations))
    (htx : ∀ a after, tx = .ok (a, after) → Evolves (trim id) w.continuations after) :
    ∃ ms, Grows w (w.transact t id tx).2 ms := by
  unfold World.transact
  split
  · exact ⟨[], .refl w⟩
  · exact ⟨_, .commit (htx _ _ rfl)⟩
  · exact ⟨[], .refl w⟩
  · exact ⟨_, .commit (htx _ _ rfl)⟩
  · exact ⟨[], .refl w⟩

/-- The calls that change the store. -/
def StoreCall : Call → Prop
  | .claim _ | .release _ | .consume _ => True
  | _ => False

variable (js stamp env) in
theorem grows_ask (c : Call) (w : World) : ∃ ms, Grows w ((handler js stamp env).ask c w).2 ms ∧
    (¬ StoreCall c → Foreign ms) := by
  obtain ⟨ms, hms, hforeign, -⟩ := grows_before w (env w.turn) c
  have hquiet : Foreign (ms ++ [.asked c (env w.turn)]) := hforeign.append (by simp [Foreign])
  cases c with
  | claim id =>
    obtain ⟨ns, hns⟩ :=
      grows_transact (w.before js stamp (env w.turn) (.claim id)) (env w.turn) id _
      fun _ _ h => (claim_ok h).1
    exact ⟨_, hms.trans hns, fun h => absurd trivial h⟩
  | release id =>
    obtain ⟨ns, hns⟩ :=
      grows_transact (w.before js stamp (env w.turn) (.release id)) (env w.turn) id _
      fun _ _ h => (release_ok h).1
    exact ⟨_, hms.trans hns, fun h => absurd trivial h⟩
  | consume id =>
    obtain ⟨ns, hns⟩ :=
      grows_transact (w.before js stamp (env w.turn) (.consume id)) (env w.turn) id _
      fun _ _ h => (consume_ok h).1
    exact ⟨_, hms.trans hns, fun h => absurd trivial h⟩
  | _ => exact ⟨_, hms, fun _ => hquiet⟩

theorem calls_of_grows {w : World} {c : Call} {ms : List Entry}
    (h : Grows w ((handler js stamp env).ask c w).2 ms) : calls ms = [(c, env w.turn)] := by
  have hcalls := calls_ask js stamp env c w
  rw [h.log, calls_append] at hcalls
  exact List.append_cancel_left hcalls

theorem transact_eq {α : Type} {w : World} {t : Turn} {id : String} {a : α} {after : Continuations}
    (hlost : t.lost = none) :
    w.transact t id (.ok (a, after)) = (.ok a, w.commit true (trim id) after) := by
  simp [World.transact, hlost]

theorem ok_of_transact {α : Type} {w : World} {t : Turn} {id : String} {a : α}
    {tx : Except String (α × Continuations)} (h : (w.transact t id tx).1 = .ok a) :
    t.lost = none ∧ ∃ after, tx = .ok (a, after) := by
  unfold World.transact at h
  split at h
  · cases h
  · cases h
  · cases h
  · next after hlost =>
    cases h
    exact ⟨hlost, after, rfl⟩
  · cases h

/-- After a release that is answered the approval is not activating. -/
theorem status_release {k : String} {w : World} (hid : isId "continuation-" (trim k) = true)
    (hlost : (env w.turn).lost = none) :
    statusOf (trim k) ((handler js stamp env).ask (.release k) w).2.continuations ≠
      some .activating := by
  generalize hw : w.before js stamp (env w.turn) (.release k) = w'
  have hask : (handler js stamp env).ask (.release k) w =
      w'.transact (env w.turn) k (releaseContinuationApproval k w'.continuations) := by
    rw [← hw]
    rfl
  obtain ⟨t', ht'⟩ := release_isOk hid w'.continuations
  rw [hask, ht', transact_eq hlost]
  exact (release_ok ht').2

/-- After a consumption that succeeds the approval is consumed. -/
theorem status_consume {k : String} {w : World} {a : ContinuationApproval}
    (h : ((handler js stamp env).ask (.consume k) w).1 = .ok a) :
    statusOf (trim k) ((handler js stamp env).ask (.consume k) w).2.continuations =
      some .consumed := by
  generalize hw : w.before js stamp (env w.turn) (.consume k) = w'
  have hask : (handler js stamp env).ask (.consume k) w = w'.transact (env w.turn) k
      (consumeContinuationApproval js stamp k (env w.turn).now w'.continuations) := by
    rw [← hw]
    rfl
  rw [hask] at h ⊢
  obtain ⟨hlost, after, htx⟩ := ok_of_transact h
  rw [htx, transact_eq hlost]
  exact (consume_ok htx).2.2

theorem ask_claim_ok {id : String} {w : World} {a : ContinuationApproval}
    (h : ((handler js stamp env).ask (.claim id) w).1 = .ok a) :
    ∃ ms, Foreign ms ∧ calls ms = [] ∧ (env w.turn).lost = none ∧
      ((handler js stamp env).ask (.claim id) w).2.log = w.log ++ ms ++
        [.asked (.claim id) (env w.turn), .moved true (trim id) .pending .activating] ∧
      statusOf (trim id) ((handler js stamp env).ask (.claim id) w).2.continuations =
        some .activating ∧ a.continuationId = trim id ∧ isId "continuation-" (trim id) = true := by
  obtain ⟨ms, hms, hforeign, hcalls⟩ := grows_before w (env w.turn) (.claim id)
  generalize hw : w.before js stamp (env w.turn) (.claim id) = w' at hms
  have hask : (handler js stamp env).ask (.claim id) w = w'.transact (env w.turn) id
      (claimContinuationApproval js id (env w.turn).now w'.continuations) := by
    rw [← hw]
    rfl
  rw [hask] at h ⊢
  obtain ⟨hlost, after, htx⟩ := ok_of_transact h
  rw [htx, transact_eq hlost]
  obtain ⟨-, hpending, hactivating, hkey, hid⟩ := claim_ok htx
  refine ⟨ms, hforeign, hcalls, hlost, ?_, hactivating, hkey, hid⟩
  simp [World.commit, hms.log, moves, hpending, hactivating]

/-! ### What cuts a request short -/

variable (js) in
/-- The evidence a readiness request brings, nothing where it raises an exception. -/
def readEvidence (t : Turn) : Option ContinuationReadiness :=
  if t.lost = none ∧ t.reply.ok = true then sanitizeContinuationReadiness js t.reply.data else none

variable (js) in
/-- One of the steps between the claim and the answer to `/continue` raises an exception: the
readiness request, the state read-back, the conversion of what they say, or `/continue` itself. -/
def Interrupted (cs : List (Call × Turn)) : Prop :=
  (∃ launchId t, (.worker (.readiness launchId), t) ∈ cs ∧ readEvidence js t = none) ∨
  (∃ t, (.worker .latestState, t) ∈ cs ∧ (t.lost ≠ none ∨ t.reply.ok = false)) ∨
  (∃ launchId t evidence t', (.worker (.readiness launchId), t) ∈ cs ∧
    readEvidence js t = some evidence ∧ (.worker .latestState, t') ∈ cs ∧
      continuationVerificationSnapshot js evidence t'.reply.data = none) ∨
  ∃ request approval t, (.worker (.proceed request approval), t) ∈ cs ∧
    (t.lost ≠ none ∨ t.reply.ok = true ∧
      provesActivation js t.reply.data approval.continuationId approval = none)

/-- The calls that cannot cut a request short. -/
def Neutral : Call → Prop
  | .worker (.readiness _) | .worker .latestState | .worker (.proceed _ _) => False
  | _ => True

theorem interrupted_append {cs ds : List (Call × Turn)} (h : ∀ c ∈ ds, Neutral c.1) :
    Interrupted js (cs ++ ds) ↔ Interrupted js cs := by
  have hmem {c : Call} {t : Turn} (hc : ¬ Neutral c) : (c, t) ∈ cs ++ ds ↔ (c, t) ∈ cs := by
    rw [List.mem_append, or_iff_left]
    exact fun hds => hc (h _ hds)
  have hready (launchId : String) : ¬ Neutral (.worker (.readiness launchId)) := id
  have hlatest : ¬ Neutral (.worker .latestState) := id
  have hproceed (request : ContinueRequest) (approval : ContinuationApproval) :
      ¬ Neutral (.worker (.proceed request approval)) := id
  simp only [Interrupted, hmem (hready _), hmem hlatest, hmem (hproceed _ _)]

/-- The request gave the approval back, or tried to and the call failed. -/
def ReleaseFailed (cs : List (Call × Turn)) : Prop :=
  ∃ id t, (Call.release id, t) ∈ cs ∧ t.lost ≠ none

/-- No call of the list releases an approval. -/
def NoRelease (cs : List (Call × Turn)) : Prop := ∀ id t, (Call.release id, t) ∉ cs

variable (js) in
/-- How a request ends for the approval it claimed: cut short, and then only others change the
approval, or else the approval is resolved or its release failed. -/
def Outcome (k : String) (post : List Entry) (t : Continuations) : Prop :=
  Interrupted js (calls post) ∧ Foreign post ∧ NoRelease (calls post) ∧
      (Standing k post t ∨ Resolved k post t) ∨
    ¬ Interrupted js (calls post) ∧ (Resolved k post t ∨ ReleaseFailed (calls post))

/-- The world after some calls that do not change the store. -/
def Reached (w w' : World) (cs : List (Call × Turn)) : Prop :=
  ∃ ms, Grows w w' ms ∧ calls ms = cs ∧ Foreign ms

theorem Reached.ask {w w' : World} {cs : List (Call × Turn)} (h : Reached w w' cs) {c : Call}
    (hc : ¬ StoreCall c) :
    Reached w ((handler js stamp env).ask c w').2 (cs ++ [(c, env w'.turn)]) := by
  obtain ⟨ms, hms, rfl, hforeign⟩ := h
  obtain ⟨ns, hns, hforeign'⟩ := grows_ask js stamp env c w'
  refine ⟨ms ++ ns, hms.trans hns, ?_, hforeign.append (hforeign' hc)⟩
  rw [calls_append, calls_of_grows hns]

theorem Reached.cutShort {w w' : World} {cs : List (Call × Turn)} {k : String} (h : Reached w w' cs)
    (hs : Standing k [] w.continuations) (hcut : Interrupted js cs) (hnone : NoRelease cs) :
    ∃ ms, Grows w w' ms ∧ Outcome js k ms w'.continuations := by
  obtain ⟨ms, hms, rfl, hforeign⟩ := h
  exact ⟨ms, hms, .inl ⟨hcut, hforeign, hnone, by simpa using hms.standing k [] hs⟩⟩

/-- The world after some calls and others that cannot cut the request short. -/
def Neutrally (w : World) (cs : List (Call × Turn)) (w' : World) : Prop :=
  ∃ ms ds, Grows w w' ms ∧ calls ms = cs ++ ds ∧ ∀ c ∈ ds, Neutral c.1

theorem Reached.neutrally {w w' : World} {cs : List (Call × Turn)} (h : Reached w w' cs) :
    Neutrally w cs w' := by
  obtain ⟨ms, hms, hcalls, -⟩ := h
  exact ⟨ms, [], hms, by simpa using hcalls, by simp⟩

theorem Neutrally.ask {w w' : World} {cs : List (Call × Turn)} (h : Neutrally w cs w') {c : Call}
    (hc : Neutral c) : Neutrally w cs ((handler js stamp env).ask c w').2 := by
  obtain ⟨ms, ds, hms, hcalls, hneutral⟩ := h
  obtain ⟨ns, hns, -⟩ := grows_ask js stamp env c w'
  refine ⟨ms ++ ns, ds ++ [(c, env w'.turn)], hms.trans hns, ?_, ?_⟩
  · rw [calls_append, calls_of_grows hns, hcalls, List.append_assoc]
  · simpa [or_imp, forall_and, hc] using hneutral

theorem preserves_neutral {w : World} {cs : List (Call × Turn)} {c : Call} (hc : Neutral c) :
    Preserves (handler js stamp env) (fun _ => False) (Neutrally w cs) (fun _ => False) (await c) :=
  .bind (.ask fun _ h => h.ask hc) fun _ => .raising _

/-! ### The request after its claim -/

/-- The approval under its trimmed identifier. -/
def IsKey (k : String) : Prop := trim k = k ∧ isId "continuation-" k = true

/-- A release behind steps that did not cut the request short. -/
theorem release_outcome {w w' : World} {cs : List (Call × Turn)} {k : String} (hk : IsKey k)
    (hs : Standing k [] w.continuations) (h : Neutrally w cs w') (hcut : ¬ Interrupted js cs) :
    ∃ ms, Grows w ((handler js stamp env).ask (.release k) w').2 ms ∧
      Outcome js k ms ((handler js stamp env).ask (.release k) w').2.continuations := by
  obtain ⟨hkey, hid⟩ := hk
  obtain ⟨ms, ds, hms, hcalls, hneutral⟩ := h
  obtain ⟨ns, hns, -⟩ := grows_ask js stamp env (.release k) w'
  have hall : calls (ms ++ ns) = cs ++ (ds ++ [(.release k, env w'.turn)]) := by
    rw [calls_append, calls_of_grows hns, hcalls, List.append_assoc]
  refine ⟨ms ++ ns, hms.trans hns, .inr ⟨?_, ?_⟩⟩
  · rw [hall, interrupted_append]
    · exact hcut
    · simpa [or_imp, forall_and, Neutral] using hneutral
  · cases hlost : (env w'.turn).lost with
    | some e =>
      refine .inr ⟨k, env w'.turn, ?_, by simp [hlost]⟩
      simp [hall]
    | none =>
      have hnot : statusOf (trim k) ((handler js stamp env).ask (.release k) w').2.continuations ≠
          some .activating := status_release (hkey.symm ▸ hid) hlost
      rw [hkey] at hnot
      rcases (hms.trans hns).standing k [] hs with hstands | hresolved
      · exact absurd hstands.1 hnot
      · exact .inl (by simpa using hresolved)

theorem preserves_rollback {w : World} {cs : List (Call × Turn)} :
    Preserves (handler js stamp env) (fun _ => False) (Neutrally w cs) (fun _ => False)
      (rollbackAutonomousContinuation js) := by
  unfold rollbackAutonomousContinuation
  refine .bind (.attempt ?_) fun r => ?_
  · refine .bind (preserves_neutral trivial) fun disarm => ?_
    refine .ite (.pure _) (.bind (preserves_neutral trivial) fun readback => ?_)
    exact .bind (.raising _) fun _ => .pure _
  · cases r <;> exact .pure _

theorem undo_outcome {w w' : World} {cs : List (Call × Turn)} {approval : ContinuationApproval}
    {status : ℕ} {fields : Dict} (hk : IsKey approval.continuationId)
    (hs : Standing approval.continuationId [] w.continuations) (h : Neutrally w cs w')
    (hcut : ¬ Interrupted js cs) :
    Ends (handler js stamp env) (undo js approval status fields) w' fun _ w'' =>
      ∃ ms, Grows w w'' ms ∧ Outcome js approval.continuationId ms w''.continuations := by
  unfold undo
  refine ends_bind.mpr (((rollback_ends w').and (preserves_rollback w' h)).mono fun r w'' hr => ?_)
  obtain ⟨⟨rollback, rfl, -⟩, hneutral⟩ := hr
  exact release_ends _ _ w'' (release_outcome hk hs hneutral.ok hcut)

/-- `/continue` cuts a request short if its answer is lost or cannot be read. -/
theorem interrupted_proceed {cs : List (Call × Turn)} {request : ContinueRequest}
    {approval : ContinuationApproval} {t : Turn} :
    Interrupted js (cs ++ [(.worker (.proceed request approval), t)]) ↔
      Interrupted js cs ∨ t.lost ≠ none ∨ t.reply.ok = true ∧
        provesActivation js t.reply.data approval.continuationId approval = none := by
  constructor
  · rintro (h | h | h | ⟨request', approval', t', hmem, h⟩)
    · exact .inl (.inl (by simpa using h))
    · exact .inl (.inr (.inl (by simpa using h)))
    · exact .inl (.inr (.inr (.inl (by simpa using h))))
    · rcases List.mem_append.mp hmem with hmem | hmem
      · exact .inl (.inr (.inr (.inr ⟨request', approval', t', hmem, h⟩)))
      · cases List.mem_singleton.mp hmem
        exact .inr h
  · rintro (h | h)
    · rcases h with h | h | h | ⟨request', approval', t', hmem, h⟩
      · exact .inl (by simpa using h)
      · exact .inr (.inl (by simpa using h))
      · exact .inr (.inr (.inl (by simpa using h)))
      · exact .inr (.inr (.inr ⟨request', approval', t', List.mem_append_left _ hmem, h⟩))
    · exact .inr (.inr (.inr ⟨request, approval, t, by simp, h⟩))

theorem audit_outcome {w w' : World} {cs : List (Call × Turn)} {k : String}
    (hs : Standing k [] w.continuations) (h : Neutrally w cs w')
    (hstatus : statusOf k w'.continuations ≠ some .activating) (hcut : ¬ Interrupted js cs)
    (metadata : Json) :
    ∃ ms, Grows w ((handler js stamp env).ask (.audit metadata) w').2 ms ∧
      Outcome js k ms ((handler js stamp env).ask (.audit metadata) w').2.continuations := by
  obtain ⟨ms, ds, hms, hcalls, hneutral⟩ := h
  obtain ⟨ns, hns, -⟩ := grows_ask js stamp env (.audit metadata) w'
  have hresolved : Resolved k ms w'.continuations := by
    rcases hms.standing k [] hs with hstands | hresolved
    · exact absurd hstands.1 hstatus
    · simpa using hresolved
  refine ⟨ms ++ ns, hms.trans hns, .inr ⟨?_, .inl (hns.resolved k ms hresolved)⟩⟩
  rw [calls_append, calls_of_grows hns, hcalls, List.append_assoc, interrupted_append]
  · exact hcut
  · simpa [or_imp, forall_and, Neutral] using hneutral

theorem confirm_outcome {w w' : World} {cs : List (Call × Turn)} {request : ContinueRequest}
    {approval : ContinuationApproval} {t : Turn} (hk : IsKey approval.continuationId)
    (hs : Standing approval.continuationId [] w.continuations)
    (h : Reached w w' (cs ++ [(.worker (.proceed request approval), t)])) (hlost : t.lost = none)
    (hcut : ¬ Interrupted js cs) (hnone : NoRelease cs) :
    Ends (handler js stamp env) (confirm js approval t.reply) w' fun _ w'' =>
      ∃ ms, Grows w w'' ms ∧ Outcome js approval.continuationId ms w''.continuations := by
  have hread (hread : t.reply.ok = true →
      provesActivation js t.reply.data approval.continuationId approval ≠ none) :
      ¬ Interrupted js (cs ++ [(.worker (.proceed request approval), t)]) := by
    rw [interrupted_proceed]
    rintro (h | h | ⟨hok, h⟩)
    · exact hcut h
    · exact h hlost
    · exact hread hok h
  rw [confirm]
  split_ifs with hok
  · exact undo_outcome hk hs h.neutrally (hread fun htrue => by rw [hok] at htrue; cases htrue)
  refine ends_bind.mpr (ends_raising.mpr ?_)
  cases hproves : provesActivation js t.reply.data approval.continuationId approval with
  | none =>
    -- the answer cannot be read: the claim stands
    refine h.cutShort hs (interrupted_proceed.mpr (.inr (.inr ⟨by simpa using hok, hproves⟩))) ?_
    intro id u hmem
    rcases List.mem_append.mp hmem with hmem | hmem
    · exact hnone id u hmem
    · cases List.mem_singleton.mp hmem
  | some proved =>
    have hnot := hread fun _ => by simp [hproves]
    rw [Option.elim_some]
    change Ends _ (if proved = false then _ else _) w' _
    split_ifs with hfalse
    · exact undo_outcome hk hs h.neutrally hnot
    refine ends_attempt_bind.mpr (ends_ask_bind.mpr (ends_raising.mpr ?_))
    have hconsume : Neutrally w (cs ++ [(.worker (.proceed request approval), t)])
        ((handler js stamp env).ask (.consume approval.continuationId) w').2 :=
      h.neutrally.ask trivial
    cases hanswer : ((handler js stamp env).ask (.consume approval.continuationId) w').1 with
    | error e => exact undo_outcome hk hs hconsume hnot
    | ok consumed =>
      have hstatus := status_consume hanswer
      rw [hk.1] at hstatus
      have hne : statusOf approval.continuationId
          ((handler js stamp env).ask (.consume approval.continuationId) w').2.continuations ≠
            some .activating := by
        simp [hstatus]
      refine ends_bind.mpr (ends_ask_bind.mpr (ends_raising.mpr ?_))
      split
      · exact audit_outcome hs hconsume hne hnot _
      · exact audit_outcome hs hconsume hne hnot _

theorem readiness_ends {launchId : String} {w : World}
    {P : Except String ContinuationReadiness → World → Prop}
    (hlaunch : isLaunchId (trim launchId) = true)
    (hnone : readEvidence js (env w.turn) = none → ∀ e,
      P (.error e) ((handler js stamp env).ask (.worker (.readiness (trim launchId))) w).2)
    (hsome : ∀ evidence, readEvidence js (env w.turn) = some evidence →
      P (.ok evidence) ((handler js stamp env).ask (.worker (.readiness (trim launchId))) w).2) :
    Ends (handler js stamp env) (runContinuationReadiness js launchId) w P := by
  unfold runContinuationReadiness
  refine ends_guard.mpr ⟨fun h => absurd h (by simp [hlaunch]), fun _ => ?_⟩
  refine ends_forward (fun hlost => ?_) fun e hlost => hnone (by simp [readEvidence, hlost]) e
  refine ends_guard.mpr ⟨fun hok => ?_, fun hok => ?_⟩
  · exact hnone (by simp [readEvidence, hok]) _
  · have hread : readEvidence js (env w.turn) =
        sanitizeContinuationReadiness js (env w.turn).reply.data :=
      if_pos ⟨hlost, by simpa using hok⟩
    refine ends_raising.mpr ?_
    cases hevidence : sanitizeContinuationReadiness js (env w.turn).reply.data with
    | none => exact hnone (hread.trans hevidence) _
    | some evidence => exact hsome evidence (hread.trans hevidence)

theorem activate_outcome {w : World} {request : ContinueRequest} {approval : ContinuationApproval}
    (hk : IsKey approval.continuationId) (hs : Standing approval.continuationId [] w.continuations)
    (hlaunch : isLaunchId (trim request.launchId) = true) :
    Ends (handler js stamp env) (activate js request approval) w fun _ w' =>
      ∃ ms, Grows w w' ms ∧ Outcome js approval.continuationId ms w'.continuations := by
  have hstart : Reached w w [] := ⟨[], .refl w, rfl, by simp [Foreign]⟩
  have hfirst : Reached w ((handler js stamp env).ask
      (.worker (.readiness (trim request.launchId))) w).2
      [(.worker (.readiness (trim request.launchId)), env w.turn)] := hstart.ask id
  unfold activate
  with_reducible refine ends_bind.mpr (readiness_ends hlaunch ?_ ?_)
  · intro hnone e
    refine hfirst.cutShort hs (.inl ⟨trim request.launchId, env w.turn, by simp, hnone⟩) ?_
    simp [NoRelease]
  intro evidence hevidence
  generalize ((handler js stamp env).ask (.worker (.readiness (trim request.launchId))) w).2 = w₁
    at hfirst ⊢
  have hsecond : Reached w ((handler js stamp env).ask (.worker .latestState) w₁).2
      [(.worker (.readiness (trim request.launchId)), env w.turn),
        (.worker .latestState, env w₁.turn)] := hfirst.ask id
  have hnone : NoRelease [(.worker (.readiness (trim request.launchId)), env w.turn),
      (.worker .latestState, env w₁.turn)] := by simp [NoRelease]
  refine ends_forward (fun hlost => ?_) fun e hlost => ?_
  · refine ends_guard.mpr ⟨fun hok => ?_, fun hok => ?_⟩
    · exact hsecond.cutShort hs (.inr (.inl ⟨env w₁.turn, by simp, .inr hok⟩)) hnone
    refine ends_bind.mpr (ends_raising.mpr ?_)
    cases hsnapshot : continuationVerificationSnapshot js evidence (env w₁.turn).reply.data with
    | none =>
      refine hsecond.cutShort hs (.inr (.inr (.inl ?_))) hnone
      exact ⟨trim request.launchId, env w.turn, evidence, env w₁.turn, by simp, hevidence, by simp,
        hsnapshot⟩
    | some snapshot =>
      have hcut : ¬ Interrupted js [(.worker (.readiness (trim request.launchId)), env w.turn),
          (.worker .latestState, env w₁.turn)] := by
        simp [Interrupted, hevidence, hlost, hok, hsnapshot]
      generalize ((handler js stamp env).ask (.worker .latestState) w₁).2 = w₂ at hsecond ⊢
      have hthird : Reached w ((handler js stamp env).ask .clock w₂).2
          ([(.worker (.readiness (trim request.launchId)), env w.turn),
            (.worker .latestState, env w₁.turn)] ++ [(.clock, env w₂.turn)]) := hsecond.ask id
      have hneutral : ∀ c ∈ [((.clock : Call), env w₂.turn)], Neutral c.1 := by simp [Neutral]
      rw [← interrupted_append hneutral] at hcut
      rw [Option.elim_some]
      refine ends_bind.mpr (ends_ask_bind.mpr (ends_raising.mpr ?_))
      generalize ((handler js stamp env).ask .clock w₂).2 = w₃ at hthird ⊢
      change Ends _ (if _ then _ else _) w₃ _
      split_ifs
      · exact release_ends _ _ w₃ (release_outcome hk hs hthird.neutrally hcut)
      · refine ends_forward (fun hlost' => ?_) fun e hlost' => ?_
        · exact confirm_outcome hk hs (hthird.ask id) hlost' hcut (by simp [NoRelease])
        · refine (hthird.ask id).cutShort hs (interrupted_proceed.mpr (.inr (.inl ?_))) ?_
          · simp [hlost']
          · simp [NoRelease]
  · exact hsecond.cutShort hs (.inr (.inl ⟨env w₁.turn, by simp, .inl (by simp [hlost])⟩)) hnone

/-! ### The whole request -/

theorem trim_asString (v : Option Json) : trim (asString v) = asString v := by
  have hempty : trim "" = "" := by decide +kernel
  unfold asString
  split
  · exact trim_trim _
  · exact hempty

example : trim (asString (some (.str " launch-1 "))) = "launch-1" := by decide +kernel

theorem run_guard {α : Type} {c : Prop} [Decidable c] {e : Response}
    {f : PUnit → ExceptT Response Option α} {a : α}
    (h : (if c then throw e >>= f else f ⟨⟩ : ExceptT Response Option α).run = some (.ok a)) :
    ¬ c ∧ (f ⟨⟩).run = some (.ok a) := by
  split_ifs at h with hc
  · cases h
  · exact ⟨hc, h⟩

/-- A conversion in front of the rest of the reading of a body. -/
theorem run_lift {α β : Type} {x : Option α} {f : α → ExceptT Response Option β} {b : β}
    (h : (ExceptT.lift x >>= f).run = some (.ok b)) :
    ∃ a, x = some a ∧ (f a).run = some (.ok b) := by
  cases x with
  | none => cases h
  | some a => exact ⟨a, rfl, h⟩

theorem readBody_launchId {body : Option Json} {request : ContinueRequest}
    (h : (readBody js body).run = some (.ok request)) :
    isLaunchId (trim request.launchId) = true := by
  unfold readBody at h
  simp only at h
  obtain ⟨-, h⟩ := run_guard h
  obtain ⟨-, h⟩ := run_guard h
  obtain ⟨hlaunch, h⟩ := run_guard h
  obtain ⟨-, h⟩ := run_guard h
  obtain ⟨profile, -, h⟩ := run_lift h
  obtain ⟨-, h⟩ := run_guard h
  obtain ⟨-, h⟩ := run_guard h
  obtain ⟨instruments, -, h⟩ := run_lift h
  obtain ⟨-, h⟩ := run_guard h
  cases h
  simpa [trim_asString] using hlaunch

/-- The approval a request claimed, and what was logged since. -/
def afterClaim : List Entry → Option (String × List Entry)
  | [] => none
  | .asked (.claim _) t :: log =>
    match t.lost, log with
    | none, .moved true id .pending .activating :: post => some (id, post)
    | _, _ => afterClaim log
  | _ :: log => afterClaim log

/-- A claim. -/
def IsClaim : Call → Prop
  | .claim _ => True
  | _ => False

theorem afterClaim_append {pre rest : List Entry} (h : ∀ c ∈ calls pre, ¬ IsClaim c.1) :
    afterClaim (pre ++ rest) = afterClaim rest := by
  induction pre with
  | nil => rfl
  | cons e pre ih =>
    cases e with
    | moved own id a b => exact ih h
    | asked c t =>
      have hrest := ih fun c hc => h c (List.mem_cons_of_mem _ hc)
      have hc : ¬ IsClaim c := h (c, t) (List.mem_cons_self ..)
      cases c with
      | claim id => exact absurd trivial hc
      | _ => exact hrest

theorem afterClaim_of_foreign {ns : List Entry} (hcalls : calls ns = []) :
    afterClaim ns = none := by
  have h : afterClaim (ns ++ []) = afterClaim [] := afterClaim_append (by simp [hcalls])
  rwa [List.append_nil] at h

/-- A claim that was answered is followed by its own change of status, or by nothing of the
request. -/
theorem afterClaim_claim {id : String} {t : Turn} {log : List Entry} :
    afterClaim (.asked (.claim id) t :: log) =
      match t.lost, log with
      | none, .moved true id .pending .activating :: post => some (id, post)
      | _, _ => afterClaim log := rfl

/-- What others do behind a request is logged behind its claim. -/
theorem afterClaim_foreign {log ns : List Entry} (hcalls : calls ns = []) (hforeign : Foreign ns) :
    afterClaim (log ++ ns) = (afterClaim log).map fun p => (p.1, p.2 ++ ns) := by
  have hns := afterClaim_of_foreign hcalls
  induction log with
  | nil => simpa [afterClaim] using hns
  | cons e log ih =>
    cases e with
    | moved own id a b => exact ih
    | asked c t =>
      cases c with
      | claim id =>
        rw [List.cons_append, afterClaim_claim, afterClaim_claim]
        cases ht : t.lost with
        | some e => exact ih
        | none =>
          cases log with
          | nil =>
            rw [List.nil_append] at ih ⊢
            split
            · next id' post _ => exact absurd (List.mem_cons_self ..) (hforeign id' _ _)
            · exact ih
          | cons e log =>
            rw [List.cons_append] at ih ⊢
            split
            · next heq =>
              cases heq
              rfl
            · next hne =>
              rw [ih]
              split
              · next heq =>
                cases heq
                exact absurd rfl (hne _ _ rfl)
              · rfl
      | _ => exact ih

/-- What holds at the end of a request: the claimed approval has one of the two outcomes. -/
def Verdict (js : Platform) (w : World) : Prop :=
  ∀ k post, afterClaim w.log = some (k, post) → Outcome js k post w.continuations

/-- No claim so far. -/
def Unclaimed (w : World) : Prop := ∀ c ∈ calls w.log, ¬ IsClaim c.1

theorem afterClaim_unclaimed {w : World} (h : Unclaimed w) : afterClaim w.log = none := by
  have hnone : afterClaim (w.log ++ []) = afterClaim [] := afterClaim_append h
  rwa [List.append_nil] at hnone

theorem Unclaimed.verdict {w : World} (h : Unclaimed w) : Verdict js w := by
  intro k post hclaim
  rw [afterClaim_unclaimed h] at hclaim
  cases hclaim

theorem preserves_unclaimed {c : Call} (hc : ¬ IsClaim c) :
    Preserves (handler js stamp env) (fun _ => False) Unclaimed (fun _ => False) (await c) := by
  refine .bind (.ask fun w hw => ?_) fun _ => .raising _
  rw [Unclaimed, calls_ask]
  intro d hd
  rcases List.mem_append.mp hd with hd | hd
  · exact hw d hd
  · cases List.mem_singleton.mp hd
    exact hc

theorem ask_claim_error {id : String} {w : World} {e : String}
    (h : ((handler js stamp env).ask (.claim id) w).1 = .error e) (hw : Unclaimed w) :
    afterClaim ((handler js stamp env).ask (.claim id) w).2.log = none := by
  obtain ⟨ms, hms, hforeign, hcalls⟩ := grows_before w (env w.turn) (.claim id)
  generalize hw' : w.before js stamp (env w.turn) (.claim id) = w' at hms
  have hask : (handler js stamp env).ask (.claim id) w = w'.transact (env w.turn) id
      (claimContinuationApproval js id (env w.turn).now w'.continuations) := by
    rw [← hw']
    rfl
  have hpre : ∀ c ∈ calls (w.log ++ ms), ¬ IsClaim c.1 := by
    rw [calls_append, hcalls, List.append_nil]
    exact hw
  have hlog : w'.log = (w.log ++ ms) ++ [.asked (.claim id) (env w.turn)] := by
    rw [hms.log, List.append_assoc]
  have hnone : afterClaim w'.log = none := by
    rw [hlog, afterClaim_append hpre, afterClaim_claim]
    split
    · next heq => cases heq
    · rfl
  rw [hask] at h ⊢
  unfold World.transact at h ⊢
  split at h
  · exact hnone
  · next after hlost happlied htx =>
    rw [World.commit, hlog, List.append_assoc, afterClaim_append hpre, List.singleton_append,
      afterClaim_claim, hlost]
    exact afterClaim_of_foreign (calls_moves ..)
  · exact hnone
  · cases h
  · exact hnone

theorem claim_verdict {request : ContinueRequest}
    (hlaunch : isLaunchId (trim request.launchId) = true) (id : String) :
    Leads (handler js stamp env) Unclaimed (fun _ w => Verdict js w)
      (await (.claim id) >>= fun claimed => activate js request claimed) := by
  intro w hw
  refine ends_bind.mpr (ends_ask_bind.mpr (ends_raising.mpr ?_))
  cases hanswer : ((handler js stamp env).ask (.claim id) w).1 with
  | error e =>
    intro k post hclaim
    rw [ask_claim_error hanswer hw] at hclaim
    cases hclaim
  | ok approval =>
    obtain ⟨ms, -, hcalls, hlost, hlog, hstatus, hkey, hid⟩ := ask_claim_ok hanswer
    generalize ((handler js stamp env).ask (.claim id) w).2 = w' at hlog hstatus ⊢
    have hk : IsKey approval.continuationId := by
      rw [hkey]
      exact ⟨trim_trim id, hid⟩
    have hs : Standing approval.continuationId [] w'.continuations := by
      rw [hkey]
      exact ⟨hstatus, by simp⟩
    refine (activate_outcome hk hs hlaunch).mono fun r w'' hend => ?_
    obtain ⟨ns, hns, houtcome⟩ := hend
    intro k post hclaim
    have hpre : ∀ c ∈ calls (w.log ++ ms), ¬ IsClaim c.1 := by
      rw [calls_append, hcalls, List.append_nil]
      exact hw
    rw [hns.log, hlog, List.append_assoc, afterClaim_append hpre, List.cons_append,
      afterClaim_claim, hlost] at hclaim
    cases hclaim
    rwa [← hkey]

/-- A step in front of the rest of the handler that is not a claim. -/
theorem verdict_bind {α : Type} {x : Request α} {f : α → Request Response}
    (hx : Preserves (handler js stamp env) (fun _ => False) Unclaimed (fun _ => False) x)
    (hf : ∀ a, Leads (handler js stamp env) Unclaimed (fun _ w => Verdict js w) (f a)) :
    Leads (handler js stamp env) Unclaimed (fun _ w => Verdict js w) (x >>= f) :=
  .bind hx hf fun _ _ => Unclaimed.verdict

theorem verdict_pure (response : Response) :
    Leads (handler js stamp env) Unclaimed (fun _ w => Verdict js w)
      (pure response : Request Response) :=
  .pure fun _ => Unclaimed.verdict

theorem continueBody_verdict {request : ContinueRequest}
    (hlaunch : isLaunchId (trim request.launchId) = true) :
    Leads (handler js stamp env) Unclaimed (fun _ w => Verdict js w) (continueBody js request) := by
  unfold continueBody
  refine verdict_bind (preserves_unclaimed id) fun found => ?_
  cases found with
  | none => exact verdict_pure _
  | some approval =>
    refine verdict_bind (preserves_unclaimed id) fun candidate => ?_
    refine .ite (verdict_pure _) (verdict_bind (preserves_unclaimed id) fun consumed => ?_)
    refine .ite (verdict_pure _) (verdict_bind (preserves_unclaimed id) fun existing => ?_)
    refine verdict_bind (.raising _) fun alreadyActive => ?_
    refine .ite ?_ (.ite (verdict_pure _) ?_)
    · refine .ite ?_ (verdict_pure _)
      exact verdict_bind (preserves_unclaimed id) fun _ => verdict_pure _
    · exact claim_verdict hlaunch _

theorem continueRequest_verdict (body : Option Json) (t : Continuations) :
    Ends (handler js stamp env) (continueRequest js body) { continuations := t } fun _ w =>
      Verdict js w := by
  have hstart : Unclaimed { continuations := t } := by simp [Unclaimed, calls]
  unfold continueRequest
  split
  · exact hstart.verdict
  · exact hstart.verdict
  · next request hbody =>
    refine ends_attempt_bind.mpr
      ((continueBody_verdict (readBody_launchId hbody) _ hstart).mono fun r w hverdict => ?_)
    cases r <;> exact hverdict

/-- What others do until the response is sent. -/
theorem Outcome.grows {k : String} {w w' : World} {post ns : List Entry}
    (h : Outcome js k post w.continuations) (hns : Grows w w' ns) (hforeign : Foreign ns)
    (hcalls : calls ns = []) : Outcome js k (post ++ ns) w'.continuations := by
  unfold Outcome at h ⊢
  rw [calls_append, hcalls, List.append_nil]
  rcases h with ⟨hcut, hpost, hnone, hstands | hresolved⟩ | ⟨hcut, hresolved | hfailed⟩
  · exact .inl ⟨hcut, hpost.append hforeign, hnone, hns.standing k post hstands⟩
  · exact .inl ⟨hcut, hpost.append hforeign, hnone, .inr (hns.resolved k post hresolved)⟩
  · exact .inr ⟨hcut, .inl (hns.resolved k post hresolved)⟩
  · exact .inr ⟨hcut, .inr hfailed⟩

end

/-! ### Stranded approvals -/

/-- The approval is consumed, was released since the claim, or its release failed. -/
def Settled (k : String) (post : List Entry) (t : Continuations) : Prop :=
  statusOf k t = some .consumed ∨ (∃ own, .moved own k .activating .pending ∈ post) ∨
    ReleaseFailed (calls post)

theorem Resolved.settled {k : String} {post : List Entry} {t : Continuations}
    (h : Resolved k post t) : Settled k post t := by
  obtain ⟨own, b, hmem, rfl | hconsumed⟩ := h
  · exact .inr (.inl ⟨own, hmem⟩)
  · exact .inl hconsumed

/-- In either outcome the approval is settled exactly if the request was not cut short, or another
request ended the claim. -/
theorem Outcome.settled_iff {js : Platform} {k : String} {post : List Entry} {t : Continuations}
    (h : Outcome js k post t) : Settled k post t ↔
      (Interrupted js (calls post) → ∃ b, .moved false k .activating b ∈ post) := by
  rcases h with ⟨hcut, hforeign, hnone, htracked⟩ | ⟨hcut, hend⟩
  · have hfalse {own : Bool} {a b : ContinuationApprovalStatus} (hmem : .moved own k a b ∈ post) :
        own = false := by
      cases own with
      | true => exact absurd hmem (hforeign k a b)
      | false => rfl
    constructor
    · intro hsettled _
      rcases htracked with ⟨hstatus, hnomove⟩ | ⟨own, b, hmem, -⟩
      · rcases hsettled with hconsumed | ⟨own, hmem⟩ | ⟨id, u, hmem, -⟩
        · rw [hstatus] at hconsumed
          cases hconsumed
        · exact absurd hmem (hnomove own _ _)
        · exact absurd hmem (hnone id u)
      · obtain rfl := hfalse hmem
        exact ⟨b, hmem⟩
    · intro hothers
      obtain ⟨b, hmem⟩ := hothers hcut
      rcases htracked with ⟨-, hnomove⟩ | hresolved
      · exact absurd hmem (hnomove _ _ _)
      · exact hresolved.settled
  · refine iff_of_true ?_ fun hyes => absurd hyes hcut
    rcases hend with hresolved | hfailed
    · exact hresolved.settled
    · exact .inr (.inr hfailed)

variable (js : Platform) (stamp : ℤ → String) (env : ℕ → Turn) (body : Option Json)
  (t : Continuations)

/-- The approval a request claims is settled when the response is sent. -/
def NeverStranded : Prop :=
  ∀ k post, afterClaim (run js stamp env body t).2.log = some (k, post) →
    Settled k post (run js stamp env body t).2.continuations

variable {js stamp env body t} in
/-- A request under its final log has one of the two outcomes. -/
theorem run_outcome {k : String} {post : List Entry}
    (h : afterClaim (run js stamp env body t).2.log = some (k, post)) :
    Outcome js k post (run js stamp env body t).2.continuations := by
  obtain ⟨w, hw, hverdict⟩ : ∃ w, (run js stamp env body t).2 =
      (env w.turn).others.foldl (World.other js stamp) w ∧ Verdict js w :=
    ⟨_, rfl, continueRequest_verdict body t⟩
  rw [hw] at h ⊢
  obtain ⟨ns, hns, hforeign⟩ := grows_others w (env w.turn).others
  have hcalls := calls_of_grows_others hns
  rw [hns.log, afterClaim_foreign hcalls hforeign, Option.map_eq_some_iff] at h
  obtain ⟨⟨k', post'⟩, hclaim, heq⟩ := h
  cases heq
  exact (hverdict k' post' hclaim).grows hns hforeign hcalls

/-- **Claimed approvals**: when the response is sent the approval is consumed or was released again
(unless the release failed), exactly if no exception cut the request short between its claim and the
answer to `/continue`, or another request ended the claim. -/
theorem neverStranded_iff : NeverStranded js stamp env body t ↔
    ∀ k post, afterClaim (run js stamp env body t).2.log = some (k, post) →
      Interrupted js (calls post) → ∃ b, .moved false k .activating b ∈ post :=
  forall_congr' fun _ => forall_congr' fun _ => forall_congr' fun h => (run_outcome h).settled_iff

/-- The approval of the last claim is activating, nobody changed it, and nobody tried to release
it. -/
def claimStands (w : World) : Bool :=
  match afterClaim w.log with
  | none => false
  | some (k, post) =>
    statusOf k w.continuations == some .activating &&
      post.all fun e =>
        match e with
        | .moved .. => false
        | .asked (.release _) _ => false
        | .asked _ _ => true

theorem exists_not_settled {w : World} (h : claimStands w = true) :
    ∃ k post, afterClaim w.log = some (k, post) ∧ ¬ Settled k post w.continuations := by
  unfold claimStands at h
  split at h
  · cases h
  · next k post hclaim =>
    obtain ⟨hstatus, hall⟩ := Bool.and_eq_true_iff.mp h
    rw [beq_iff_eq] at hstatus
    rw [List.all_eq_true] at hall
    refine ⟨k, post, hclaim, ?_⟩
    rintro (hconsumed | ⟨own, hmem⟩ | ⟨id, u, hmem, -⟩)
    · rw [hstatus] at hconsumed
      cases hconsumed
    · cases hall _ hmem
    · obtain ⟨e, he, hcall⟩ := List.mem_filterMap.mp hmem
      have hrelease := hall e he
      split at hrelease
      · cases hrelease
      · cases hrelease
      · next c v hne =>
        cases hcall
        exact absurd rfl (hne id)

/-- The readiness request of a request that claimed its approval is lost, and the approval stays
activating. -/
theorem claim_left_activating : ¬ ∀ (js : Platform) (stamp : ℤ → String) (env : ℕ → Turn)
    (body : Option Json) (t : Continuations), NeverStranded js stamp env body t := by
  intro h
  have hstands : claimStands (run platform (fun _ => "") (scenario [5]) (some continueBodyJson)
      [pendingApproval]).2 = true := by decide +kernel
  obtain ⟨k, post, hclaim, hnot⟩ := exists_not_settled hstands
  exact hnot (h _ _ _ _ _ k post hclaim)

end Blessing.ControlPlane.Stranded
