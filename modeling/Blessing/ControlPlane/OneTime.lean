import Blessing.ControlPlane.ReleaseStore
import Blessing.ControlPlane.Stranded
import Blessing.Lib.History

/-! # Approvals are used once

Whatever the order of the calls on the release store and whatever the clocks show, a candidate goes
from pending to approved to consumed, its approval is taken once and describes the Worker it was
approved for, and a continuation is consumed once, from a claim that was not given back
(`approvals_are_one_time`). -/

namespace Blessing.ControlPlane.OneTime

open Blessing.Lib Blessing.Lib.JavaScript Blessing.Lib.Machine Blessing.Lib.History
  Blessing.ControlPlane.Release Blessing.ControlPlane.ReleaseStore
open Blessing.ControlPlane.Continuation (Continuations find statusOf setRecord throwing
  continuationIdOrThrow createContinuationApproval claimContinuationApproval
  releaseContinuationApproval consumeContinuationApproval)
open Blessing.ControlPlane.Stranded (statusOf_setRecord continuationIdOrThrow_ok claim_ok consume_ok
  release_ok release_isOk)

/-! ### What a transaction that commits has found -/

theorem throwing_ok {front : String} {failures : List String} {u : Unit} :
    throwing front failures = .ok u ↔ failures = [] := by
  unfold throwing
  split_ifs with h <;> simp [h]

theorem candidateIdOrThrow_ok {id k : String} (h : candidateIdOrThrow id = .ok k) :
    k = id ∧ isId "rc-" id = true := by
  unfold candidateIdOrThrow at h
  split_ifs at h with hid
  cases h
  exact ⟨rfl, hid⟩

theorem findCandidate_update {id : String} {f : ReleaseCandidate → ReleaseCandidate}
    (hf : ∀ r, (f r).candidateId = r.candidateId) (k : String) (t : Store) :
    findCandidate k (updateCandidate id f t) =
      if id = k then (findCandidate k t).map f else findCandidate k t := by
  have hkey : ∀ r : ReleaseCandidate, decide (r.candidateId = id) = true ↔ r.candidateId = id := by
    simp
  rw [findCandidate, updateCandidate, Table.lookup_update_key hkey hf]
  rfl

section

variable {host : Host} {t t' : Store} {id : String} {c : ReleaseCandidate} {now : ℤ}

theorem createCandidate_ok {u : Unit} (h : createCandidate host c now t = .ok (u, t')) :
    validateReleaseCandidate host c now {} = [] ∧ findCandidate c.candidateId t = none ∧
      t' = { t with candidates := t.candidates ++ [c] } := by
  unfold createCandidate at h
  obtain ⟨_, hvalid, h⟩ := Effects.except_bind_ok.mp h
  obtain ⟨k, hk, h⟩ := Effects.except_bind_ok.mp h
  obtain ⟨rfl, -⟩ := candidateIdOrThrow_ok hk
  obtain ⟨hnew, h⟩ := Effects.except_guard_ok.mp h
  cases h
  exact ⟨throwing_ok.mp hvalid, by simpa using hnew, rfl⟩

theorem updatePreflight_ok {evidence : PreflightEvidence} {hash : String} {generatedAt : ℤ}
    (h : updatePreflight host id evidence hash generatedAt now t = .ok (c, t')) :
    ∃ r, findCandidate id t = some r ∧ c = { r with preflightEvidenceHash := hash } ∧
      t' = setEvidence (preflightRecord host id evidence hash generatedAt)
        (updateCandidate id (fun r => { r with preflightEvidenceHash := hash }) t) := by
  unfold updatePreflight at h
  obtain ⟨k, hk, h⟩ := Effects.except_bind_ok.mp h
  rw [(candidateIdOrThrow_ok hk).1] at h
  cases hr : findCandidate id t with
  | none =>
    rw [hr] at h
    cases h
  | some r =>
    rw [hr] at h
    obtain ⟨-, h⟩ := Effects.except_guard_ok.mp h
    obtain ⟨_, -, h⟩ := Effects.except_bind_ok.mp h
    cases h
    exact ⟨r, rfl, rfl, rfl⟩

theorem approveCandidate_ok {uid uuid : String} {snapshot : ReleaseVerificationSnapshot}
    (h : approveCandidate host id uid snapshot now uuid t = .ok (c, t')) :
    ∃ r, findCandidate id t = some r ∧ r.status = .pendingApproval ∧
      validateApprovalPrerequisites host r snapshot now = [] ∧
      c = approvedBy host ("approval-" ++ uuid) uid now r ∧
      t' = setEvidence (approvalRecord host id ("approval-" ++ uuid) uid now)
        (updateCandidate id (approvedBy host ("approval-" ++ uuid) uid now) t) := by
  unfold approveCandidate at h
  obtain ⟨k, hk, h⟩ := Effects.except_bind_ok.mp h
  rw [(candidateIdOrThrow_ok hk).1] at h
  cases hr : findCandidate id t with
  | none =>
    rw [hr] at h
    cases h
  | some r =>
    rw [hr] at h
    obtain ⟨hstatus, h⟩ := Effects.except_guard_ok.mp h
    obtain ⟨_, hvalid, h⟩ := Effects.except_bind_ok.mp h
    cases h
    exact ⟨r, rfl, not_not.mp hstatus, throwing_ok.mp hvalid, rfl, rfl⟩

theorem consumeApproval_ok {approval : ReleaseStore.ConsumedApproval} {ensuredAt : ℤ}
    (h : consumeApproval host id now ensuredAt t = .ok (approval, t')) :
    ∃ r approvalId, findCandidate id t = some r ∧ consumableApproval r = some approvalId ∧
      validateReleaseCandidate host r ensuredAt {} = [] ∧ expiredAt host r now = false ∧
      approval = consumedFrom host r approvalId now ∧
      t' = updateCandidate id (consumedNow host now) t := by
  unfold consumeApproval at h
  obtain ⟨k, hk, h⟩ := Effects.except_bind_ok.mp h
  rw [(candidateIdOrThrow_ok hk).1] at h
  cases hr : findCandidate id t with
  | none =>
    rw [hr] at h
    cases h
  | some r =>
    rw [hr] at h
    dsimp only at h
    cases ha : consumableApproval r with
    | none =>
      rw [ha] at h
      cases h
    | some approvalId =>
      rw [ha] at h
      obtain ⟨_, hvalid, h⟩ := Effects.except_bind_ok.mp h
      obtain ⟨hlive, h⟩ := Effects.except_guard_ok.mp h
      cases h
      exact ⟨r, approvalId, rfl, ha, throwing_ok.mp hvalid, by simpa using hlive, rfl, rfl⟩

theorem consumable {a : String} (h : consumableApproval c = some a) :
    c.status = .approved ∧ c.approvalId = some a := by
  unfold consumableApproval at h
  split_ifs at h with hs
  exact ⟨hs, (Option.filter_eq_some_iff.mp h).1⟩

/-- A candidate that passes the validation is for live trading of the symbol, and has not
expired. -/
theorem of_valid {options : ReleaseCandidateValidationOptions}
    (h : validateReleaseCandidate host c now options = []) :
    c.executionMode = "LIVE" ∧ c.symbol = "ETHUSDC" ∧
      ∃ expiry, host.js.dateParse (trim c.expiresAt) = some expiry ∧ now < expiry := by
  simp only [validateReleaseCandidate, List.append_eq_nil_iff, failing_eq_nil, not_not] at h
  obtain ⟨⟨⟨⟨⟨⟨⟨⟨⟨⟨⟨⟨⟨⟨-, hmode⟩, hsymbol⟩, -⟩, -⟩, -⟩, -⟩, -⟩, hlive⟩, -⟩, -⟩, -⟩, -⟩, -⟩, -⟩ := h
  refine ⟨hmode, hsymbol, ?_⟩
  cases he : host.js.dateParse (trim c.expiresAt) with
  | none => simp [he] at hlive
  | some expiry => exact ⟨expiry, rfl, by simpa [he] using hlive⟩

/-- A candidate that passes for an approval is the one the Worker runs. -/
theorem of_approvable {snapshot : ReleaseVerificationSnapshot}
    (h : validateApprovalPrerequisites host c snapshot now = []) :
    snapshot.currentImageDigest = c.imageDigest ∧ snapshot.currentWorkerRevision =
    c.workerRevision ∧
      snapshot.currentExecutionMode = c.executionMode ∧
      snapshot.currentSecretVersions = c.secretVersions ∧ c.symbol = "ETHUSDC" := by
  simp only [validateApprovalPrerequisites, validateSecretVersionMatch, List.append_eq_nil_iff,
    failing_eq_nil, not_not] at h
  obtain ⟨⟨⟨⟨⟨⟨⟨⟨⟨⟨⟨⟨⟨hvalid, -⟩, hdigest⟩, hrevision⟩, hmode⟩, -⟩, -⟩, -⟩, -, hversions⟩, -⟩, -⟩,
      -⟩, -⟩,
    -⟩ := h
  obtain ⟨hlive, hsymbol, -⟩ := of_valid hvalid
  exact ⟨hdigest, hrevision, hmode.trans hlive.symm, hversions.symm, hsymbol⟩

end

/-! ### What a call makes of a candidate -/

/-- The candidate a call is on. -/
def target : Operation → Option String
  | .createCandidate c _ => some c.candidateId
  | .updatePreflight id .. | .approveCandidate id .. | .consumeApproval id .. => some id
  | _ => none

/-- What a call makes of the record of one candidate. -/
inductive Moves (host : Host) (id : String) :
    Option ReleaseCandidate → Operation → Answer → Option ReleaseCandidate → Prop
  | kept {r op a} (h : target op ≠ some id ∨ a.toBool = false) : Moves host id r op a r
  | created {c now} (hid : c.candidateId = id) :
      Moves host id none (.createCandidate c now) (.ok .done) (some c)
  | preflight {c evidence hash generatedAt now} :
      Moves host id (some c) (.updatePreflight id evidence hash generatedAt now)
        (.ok (.candidate { c with preflightEvidenceHash := hash }))
        (some { c with preflightEvidenceHash := hash })
  | approved {c uid snapshot now uuid} (hs : c.status = .pendingApproval)
      (hv : validateApprovalPrerequisites host c snapshot now = []) :
      Moves host id (some c) (.approveCandidate id uid snapshot now uuid)
        (.ok (.candidate (approvedBy host ("approval-" ++ uuid) uid now c)))
        (some (approvedBy host ("approval-" ++ uuid) uid now c))
  | consumed {c a now ensuredAt} (ha : consumableApproval c = some a)
      (hv : validateReleaseCandidate host c ensuredAt {} = []) (he : expiredAt host c now = false) :
      Moves host id (some c) (.consumeApproval id now ensuredAt)
        (.ok (.consumed (consumedFrom host c a now))) (some (consumedNow host now c))

variable {host : Host} {t : Store} {op : Operation} {id : String}

theorem findCandidate_setEvidence (record : ReleaseEvidenceRecord) :
    findCandidate id (setEvidence record t) = findCandidate id t := rfl

/-- A transaction on the continuations leaves the candidates alone. -/
theorem findCandidate_onContinuations {α : Type} {value : α → Value}
    {x : Except String (α × Continuations)} :
    findCandidate id (transaction value (onContinuations t x) t).2 = findCandidate id t := by
  cases x <;> rfl

theorem moves_update {k : String} {f : ReleaseCandidate → ReleaseCandidate} {c : ReleaseCandidate}
    {a : Answer} (hf : ∀ r, (f r).candidateId = r.candidateId) (hc : findCandidate k t = some c)
    (hk : target op = some k) (h : Moves host k (some c) op a (some (f c))) :
    Moves host id (findCandidate id t) op a (findCandidate id (updateCandidate k f t)) := by
  rw [findCandidate_update hf]
  by_cases hid : k = id
  · rw [if_pos hid, ← hid, hc]
    exact h
  · rw [if_neg hid]
    exact .kept (.inl fun hid' => hid (Option.some.inj (hk.symm.trans hid')))

/-- **One call, one candidate**. -/
theorem step_moves : Moves host id (findCandidate id t) op (step host t op).1
    (findCandidate id (step host t op).2) := by
  cases op with
  | createCandidate c now =>
    rw [step]
    cases hx : createCandidate host c now t with
    | error e => exact .kept (.inr rfl)
    | ok r =>
      obtain ⟨x, u⟩ := r
      obtain ⟨-, hnone, hr⟩ := createCandidate_ok hx
      have hfind : findCandidate id u =
          (findCandidate id t).or (if c.candidateId = id then some c else none) := by
        rw [hr, findCandidate, Table.lookup_append, Table.lookup_cons]
        rfl
      dsimp only [transaction]
      rw [hfind]
      by_cases hid : c.candidateId = id
      · rw [← hid, hnone, if_pos rfl]
        exact .created rfl
      · rw [if_neg hid, Option.or_none]
        exact .kept (.inl fun h => hid (Option.some.inj h))
  | updatePreflight k evidence hash generatedAt now =>
    rw [step]
    cases hx : updatePreflight host k evidence hash generatedAt now t with
    | error e => exact .kept (.inr rfl)
    | ok r =>
      obtain ⟨x, u⟩ := r
      obtain ⟨c, hc, hr, ht⟩ := updatePreflight_ok hx
      dsimp only [transaction]
      rw [ht, findCandidate_setEvidence, hr]
      exact moves_update (f := fun r => { r with preflightEvidenceHash := hash })
        (fun _ => rfl) hc rfl
        .preflight
  | approveCandidate k uid snapshot now uuid =>
    rw [step]
    cases hx : approveCandidate host k uid snapshot now uuid t with
    | error e => exact .kept (.inr rfl)
    | ok r =>
      obtain ⟨x, u⟩ := r
      obtain ⟨c, hc, hs, hv, hr, ht⟩ := approveCandidate_ok hx
      dsimp only [transaction]
      rw [ht, findCandidate_setEvidence, hr]
      exact moves_update (fun _ => rfl) hc rfl (.approved hs hv)
  | consumeApproval k now ensuredAt =>
    rw [step]
    cases hx : consumeApproval host k now ensuredAt t with
    | error e => exact .kept (.inr rfl)
    | ok r =>
      obtain ⟨x, u⟩ := r
      obtain ⟨c, a, hc, ha, hv, he, hr, ht⟩ := consumeApproval_ok hx
      dsimp only [transaction]
      rw [ht, hr]
      exact moves_update (fun _ => rfl) hc rfl (.consumed ha hv he)
  | createContinuationApproval approval now =>
    rw [step, findCandidate_onContinuations]
    exact .kept (.inl (by simp [target]))
  | claimContinuationApproval k now =>
    rw [step, findCandidate_onContinuations]
    exact .kept (.inl (by simp [target]))
  | releaseContinuationApproval k =>
    rw [step, findCandidate_onContinuations]
    exact .kept (.inl (by simp [target]))
  | consumeContinuationApproval k now =>
    rw [step, findCandidate_onContinuations]
    exact .kept (.inl (by simp [target]))

/-! ### Calls the server makes -/

/-- A candidate without an approval whose expiry is written without spaces around it. -/
def New (c : ReleaseCandidate) : Prop :=
  c.status = .pendingApproval ∧ c.approvalId = none ∧ trim c.expiresAt = c.expiresAt

theorem new_of_newReleaseCandidate {input : ReleaseCandidateInput} {now : ℤ}
    {options : ReleaseCandidateValidationOptions} {uuid : String} {c : ReleaseCandidate}
    (h : newReleaseCandidate host input now options uuid = .ok c) : New c := by
  unfold newReleaseCandidate at h
  obtain ⟨_, -, h⟩ := Effects.except_bind_ok.mp h
  cases h
  exact ⟨rfl, rfl, trim_trim input.expiresAt⟩

/-- The server creates pending continuation approvals. -/
theorem pending_of_newContinuationApproval {input : ContinuationApprovalInput} {now : ℤ}
    {uuid : String} {approval : ContinuationApproval}
    (h : newContinuationApproval host input now uuid = .ok approval) :
    approval.status = .pending := by
  unfold newContinuationApproval at h
  obtain ⟨_, -, h⟩ := Effects.except_bind_ok.mp h
  cases h
  rfl

/-- A call as the server makes it: new records are as the server creates them, and a new approval id
is fresh. -/
def Proper (t : Store) : Operation → Prop
  | .createCandidate c _ => New c
  | .approveCandidate _ _ _ _ uuid => ∀ c ∈ t.candidates, c.approvalId ≠ some ("approval-" ++ uuid)
  | .createContinuationApproval approval _ => approval.status = .pending
  | _ => True

instance decidableProper (t : Store) : ∀ op, Decidable (Proper t op)
  | .createCandidate .. => inferInstanceAs (Decidable (_ ∧ _ ∧ _))
  | .approveCandidate _ _ _ _ uuid =>
    inferInstanceAs (Decidable (∀ c ∈ t.candidates, c.approvalId ≠ some ("approval-" ++ uuid)))
  | .createContinuationApproval approval _ =>
    inferInstanceAs (Decidable (approval.status = .pending))
  | .updatePreflight .. | .consumeApproval .. | .claimContinuationApproval ..
  | .releaseContinuationApproval _ | .consumeContinuationApproval .. => .isTrue trivial

/-! ### The life of a candidate -/

/-- The status of a candidate. -/
def candidateStatus (id : String) (t : Store) : Option CandidateStatus :=
  (findCandidate id t).map ReleaseCandidate.status

/-- The changes of status. -/
inductive Follows : Option CandidateStatus → Option CandidateStatus → Prop
  | same (s) : Follows s s
  | created : Follows none (some .pendingApproval)
  | approved : Follows (some .pendingApproval) (some .approved)
  | consumed : Follows (some .approved) (some .consumed)

/-- How far a candidate is. -/
def rank : Option CandidateStatus → ℕ
  | none => 0
  | some .pendingApproval => 1
  | some .approved => 2
  | some .consumed => 3
  | some .expired => 4

theorem Follows.rank_le {s s' : Option CandidateStatus} (h : Follows s s') : rank s ≤ rank s' := by
  cases h <;> simp [rank]

/-- A candidate of the store: one without an approval is pending. -/
def Stage (c : ReleaseCandidate) : Prop :=
  trim c.expiresAt = c.expiresAt ∧ (c.status = .pendingApproval → c.approvalId = none)

/-- What an approval pins down. -/
structure Pinned where
  imageDigest : String
  workerRevision : String
  secretVersions : SecretVersionSet
  executionMode : String
  symbol : String

/-- What a candidate is for. -/
def pinned (c : ReleaseCandidate) : Pinned :=
  ⟨c.imageDigest, c.workerRevision, c.secretVersions, c.executionMode, c.symbol⟩

/-- What a consumed approval is for. -/
def pinnedBy (r : ReleaseStore.ConsumedApproval) : Pinned :=
  ⟨r.imageDigest, r.workerRevision, r.secretVersions, r.executionMode, r.symbol⟩

/-- A call of the store that was made. -/
abbrev Made := Taken Store Operation Answer

/-- The call approved the candidate under the approval id, with a snapshot of a Worker that runs
what is pinned down. -/
def ApprovedFor (id approvalId : String) (p : Pinned) (e : Made) : Prop :=
  ∃ uid snapshot now uuid, e.input = .approveCandidate id uid snapshot now uuid ∧
    e.answer.toBool = true ∧ approvalId = "approval-" ++ uuid ∧
    snapshot.currentImageDigest = p.imageDigest ∧ snapshot.currentWorkerRevision =
    p.workerRevision ∧
    snapshot.currentExecutionMode = p.executionMode ∧
    snapshot.currentSecretVersions = p.secretVersions ∧ p.symbol = "ETHUSDC"

section

variable {r r' : Option ReleaseCandidate} {a : Answer}

theorem Moves.follows (hm : Moves host id r op a r')
    (hnew : ∀ c now, op = .createCandidate c now → New c) :
    Follows (r.map ReleaseCandidate.status) (r'.map ReleaseCandidate.status) := by
  cases hm with
  | kept h => exact .same _
  | created hid =>
    rw [Option.map_some, (hnew _ _ rfl).1]
    exact .created
  | preflight => exact .same _
  | approved hs hv =>
    rw [Option.map_some, hs]
    exact .approved
  | consumed ha hv he =>
    rw [Option.map_some, (consumable ha).1]
    exact .consumed

theorem Moves.stage (hm : Moves host id r op a r')
    (hnew : ∀ c now, op = .createCandidate c now → New c) (h : ∀ c, r = some c → Stage c) :
    ∀ c, r' = some c → Stage c := by
  cases hm with
  | kept _ => exact h
  | created hid =>
    rintro c ⟨⟩
    exact ⟨(hnew _ _ rfl).2.2, fun _ => (hnew _ _ rfl).2.1⟩
  | preflight =>
    rintro c ⟨⟩
    exact ⟨(h _ rfl).1, (h _ rfl).2⟩
  | approved hs hv =>
    rintro c ⟨⟩
    exact ⟨(h _ rfl).1, fun hpending => nomatch hpending⟩
  | consumed ha hv he =>
    rintro c ⟨⟩
    exact ⟨(h _ rfl).1, fun hpending => nomatch hpending⟩

theorem Moves.approvalId_kept (hm : Moves host id r op a r') (h : ∀ c, r = some c → Stage c)
    {c : ReleaseCandidate} {approvalId : String} (hc : r = some c)
    (ha : c.approvalId = some approvalId) :
    ∃ c', r' = some c' ∧ c'.approvalId = some approvalId := by
  cases hm with
  | kept _ => exact ⟨c, hc, ha⟩
  | created hid => cases hc
  | preflight =>
    cases hc
    exact ⟨_, rfl, ha⟩
  | approved hs hv =>
    cases hc
    rw [(h _ rfl).2 hs] at ha
    cases ha
  | consumed _ hv he =>
    cases hc
    exact ⟨_, rfl, ha⟩

theorem Moves.pinned_kept (hm : Moves host id r op a r') {c : ReleaseCandidate} (hc : r = some c) :
    ∃ c', r' = some c' ∧ pinned c' = pinned c := by
  cases hm with
  | kept _ => exact ⟨c, hc, rfl⟩
  | created hid => cases hc
  | preflight | approved _ _ | consumed _ _ _ =>
    cases hc
    exact ⟨_, rfl, rfl⟩

theorem Moves.approvalId_origin (hm : Moves host id r op a r')
    (hnew : ∀ c now, op = .createCandidate c now → New c) {c : ReleaseCandidate}
    {approvalId : String} (hc : r' = some c) (ha : c.approvalId = some approvalId) :
    (∃ c₀, r = some c₀ ∧ c₀.approvalId = some approvalId ∧ pinned c₀ = pinned c) ∨
      ApprovedFor id approvalId (pinned c) ⟨t, op, a⟩ := by
  cases hm with
  | kept _ => exact .inl ⟨c, hc, ha, rfl⟩
  | created hid =>
    cases hc
    rw [(hnew _ _ rfl).2.1] at ha
    cases ha
  | preflight =>
    cases hc
    exact .inl ⟨_, rfl, ha, rfl⟩
  | approved hs hv =>
    cases hc
    obtain ⟨hdigest, hrevision, hmode, hversions, hsymbol⟩ := of_approvable hv
    exact .inr ⟨_, _, _, _, rfl, rfl, (Option.some.inj ha).symm, hdigest, hrevision,
      hmode, hversions, hsymbol⟩
  | consumed _ hv he =>
    cases hc
    exact .inl ⟨_, rfl, ha, rfl⟩

end

/-! ### The life of a continuation -/

/-- The call claims the approval. -/
def claims (k : String) : Operation → Answer → Bool
  | .claimContinuationApproval id _, a => trim id = k && a.toBool
  | _, _ => false

/-- The call is a release of the approval. -/
def releases (k : String) : Operation → Bool
  | .releaseContinuationApproval id => trim id = k
  | _ => false

/-- The call consumes the approval. -/
def consumesContinuation (k : String) : Operation → Answer → Bool
  | .consumeContinuationApproval id _, a => trim id = k && a.toBool
  | _, _ => false

/-- The approval was claimed, and no call after the claim is a release. -/
def OpenClaim (k : String) (past : List Made) : Prop :=
  ∃ before claim after, past = before ++ claim :: after ∧ claims k claim.input claim.answer = true ∧
    ∀ e ∈ after, releases k e.input = false

theorem OpenClaim.snoc {k : String} {past : List Made} {e : Made} (h : OpenClaim k past)
    (he : releases k e.input = false) : OpenClaim k (past ++ [e]) := by
  obtain ⟨before, claim, after, rfl, hclaim, hafter⟩ := h
  refine ⟨before, claim, after ++ [e], by simp, hclaim, fun e' he' => ?_⟩
  rcases List.mem_append.mp he' with he' | he'
  · exact hafter e' he'
  · rw [List.mem_singleton.mp he', he]

theorem OpenClaim.claimed {k : String} {past : List Made} {e : Made}
    (he : claims k e.input e.answer = true) : OpenClaim k (past ++ [e]) :=
  ⟨past, e, [], rfl, he, by simp⟩

section

variable {js : Platform} {stamp : ℤ → String} {now : ℤ} {u u' : Continuations}
  {approval : ContinuationApproval}

/-- A claim, a release and a consumption write to one record. -/
def WritesTo (k : String) (u u' : Continuations) : Prop :=
  ∃ f : ContinuationApproval →
  ContinuationApproval, (∀ r, (f r).continuationId = r.continuationId) ∧
    u' = setRecord k f u

theorem WritesTo.statusOf_other {k k' : String} (h : WritesTo k u u') (hk : k ≠ k') :
    statusOf k' u' = statusOf k' u := by
  obtain ⟨f, hf, rfl⟩ := h
  rw [statusOf_setRecord hf, if_neg hk]

theorem claim_writes (h : claimContinuationApproval js id now u = .ok (approval, u')) :
    WritesTo (trim id) u u' := by
  unfold claimContinuationApproval at h
  obtain ⟨k, hk, h⟩ := Effects.except_bind_ok.mp h
  rw [(continuationIdOrThrow_ok hk).1] at h
  cases hr : find (trim id) u with
  | none =>
    rw [hr] at h
    cases h
  | some r =>
    rw [hr] at h
    obtain ⟨-, -, h⟩ := Effects.except_bind_ok.mp h
    cases hs : r.status <;> rw [hs] at h <;> cases h
    exact ⟨fun r => { r with status := .activating }, fun _ => rfl, rfl⟩

theorem consume_writes (h : consumeContinuationApproval js stamp id now u = .ok (approval, u')) :
    WritesTo (trim id) u u' := by
  unfold consumeContinuationApproval at h
  obtain ⟨k, hk, h⟩ := Effects.except_bind_ok.mp h
  rw [(continuationIdOrThrow_ok hk).1] at h
  cases hr : find (trim id) u with
  | none =>
    rw [hr] at h
    cases h
  | some r =>
    rw [hr] at h
    obtain ⟨-, -, h⟩ := Effects.except_bind_ok.mp h
    cases hs : r.status <;> rw [hs] at h <;> cases h
    exact ⟨fun r => { r with status := .consumed, consumedAt := some (stamp now) },
      fun _ => rfl, rfl⟩

theorem release_writes {v : Unit} (h : releaseContinuationApproval id u = .ok (v, u')) :
    (WritesTo (trim id) u u' ∧ statusOf (trim id) u = some .activating ∧
      statusOf (trim id) u' = some .pending) ∨ u' = u := by
  unfold releaseContinuationApproval at h
  obtain ⟨k, hk, h⟩ := Effects.except_bind_ok.mp h
  rw [(continuationIdOrThrow_ok hk).1] at h
  cases hr : find (trim id) u with
  | none =>
    rw [hr] at h
    cases h
    exact .inr rfl
  | some r =>
    rw [hr] at h
    change (if r.status = .activating then _ else _) = _ at h
    split_ifs at h with hs <;> cases h
    · have hwrites :
          WritesTo (trim id) u (setRecord (trim id) (fun r => { r with status := .pending }) u) :=
        ⟨fun r => { r with status := .pending }, fun _ => rfl, rfl⟩
      refine .inl ⟨hwrites, ?_, ?_⟩
      · rw [statusOf, hr, Option.map_some, hs]
      · rw [statusOf_setRecord (f := fun r => { r with status := .pending }) fun _ => rfl,
          if_pos rfl, hr]
        rfl
    · exact .inr rfl

theorem create_writes (h : createContinuationApproval js approval now u = .ok u') (k : String) :
    statusOf k u' = (statusOf k u).or
      (if trim approval.continuationId = k then some approval.status else none) := by
  unfold createContinuationApproval at h
  obtain ⟨-, -, h⟩ := Effects.except_bind_ok.mp h
  obtain ⟨id, hid, h⟩ := Effects.except_bind_ok.mp h
  obtain ⟨-, h⟩ := Effects.except_guard_ok.mp h
  cases h
  obtain ⟨rfl, -⟩ := continuationIdOrThrow_ok hid
  have hfind : find k (u ++ [{ approval with continuationId := trim approval.continuationId }]) =
      (find k u).or (if trim approval.continuationId = k then
        some { approval with continuationId := trim approval.continuationId } else none) := by
    rw [find, Table.lookup_append, Table.lookup_cons]
    rfl
  rw [statusOf, hfind, statusOf]
  cases find k u <;> split_ifs <;> rfl

end

/-- What a call makes of the status of an approval. -/
inductive ContinuationMoves (k : String) : Option ContinuationApprovalStatus → Operation → Answer →
    Option ContinuationApprovalStatus → Prop
  | kept {s op a} (hc : consumesContinuation k op a = false)
      (hr : s = some .activating → isId "continuation-" k = true → releases k op = false) :
      ContinuationMoves k s op a s
  | created {approval now a} :
      ContinuationMoves k none (.createContinuationApproval approval now) a (some approval.status)
  | claimed {op a} (hc : claims k op a = true) (hid : isId "continuation-" k = true) :
      ContinuationMoves k (some .pending) op a (some .activating)
  | released {op a} (hc : consumesContinuation k op a = false) :
      ContinuationMoves k (some .activating) op a (some .pending)
  | consumed {op a} : ContinuationMoves k (some .activating) op a (some .consumed)

theorem step_continuations (h : (target op).isSome = true) :
    (step host t op).2.continuations = t.continuations := by
  cases op with
  | createCandidate c now =>
    rw [step]
    cases hx : createCandidate host c now t with
    | error e => rfl
    | ok r =>
      obtain ⟨x, u⟩ := r
      obtain ⟨-, -, ht⟩ := createCandidate_ok hx
      dsimp only [transaction]
      rw [ht]
  | updatePreflight k evidence hash generatedAt now =>
    rw [step]
    cases hx : updatePreflight host k evidence hash generatedAt now t with
    | error e => rfl
    | ok r =>
      obtain ⟨x, u⟩ := r
      obtain ⟨c, -, -, ht⟩ := updatePreflight_ok hx
      dsimp only [transaction]
      rw [ht]
      rfl
  | approveCandidate k uid snapshot now uuid =>
    rw [step]
    cases hx : approveCandidate host k uid snapshot now uuid t with
    | error e => rfl
    | ok r =>
      obtain ⟨x, u⟩ := r
      obtain ⟨c, -, -, -, -, ht⟩ := approveCandidate_ok hx
      dsimp only [transaction]
      rw [ht]
      rfl
  | consumeApproval k now ensuredAt =>
    rw [step]
    cases hx : consumeApproval host k now ensuredAt t with
    | error e => rfl
    | ok r =>
      obtain ⟨x, u⟩ := r
      obtain ⟨c, a, -, -, -, -, -, ht⟩ := consumeApproval_ok hx
      dsimp only [transaction]
      rw [ht]
      rfl
  | createContinuationApproval _ _ | claimContinuationApproval _ _ | releaseContinuationApproval _
  | consumeContinuationApproval _ _ => simp [target] at h

/-- **One call, one continuation**. -/
theorem step_continuationMoves {k : String} : ContinuationMoves k (statusOf k t.continuations) op
    (step host t op).1 (statusOf k (step host t op).2.continuations) := by
  by_cases htarget : (target op).isSome = true
  · rw [step_continuations htarget]
    cases op with
    | createCandidate _ _ | updatePreflight _ _ _ _ _ | approveCandidate _ _ _ _ _
      | consumeApproval _ _ _ =>
      exact .kept rfl fun _ _ => rfl
    | _ => simp [target] at htarget
  cases op with
  | createCandidate _ _ | updatePreflight _ _ _ _ _ | approveCandidate _ _ _ _ _
    | consumeApproval _ _ _ =>
    exact absurd rfl htarget
  | createContinuationApproval approval now =>
    rw [step]
    cases hx : createContinuationApproval host.js approval now t.continuations with
    | error e => exact .kept rfl fun _ _ => rfl
    | ok u =>
      dsimp only [Except.map, onContinuations, transaction]
      rw [create_writes hx k]
      cases hs : statusOf k t.continuations with
      | some s => exact .kept rfl fun _ _ => rfl
      | none =>
        split_ifs
        · exact .created
        · exact .kept rfl fun _ _ => rfl
  | claimContinuationApproval id now =>
    rw [step]
    cases hx : claimContinuationApproval host.js id now t.continuations with
    | error e => exact .kept rfl fun _ _ => rfl
    | ok r =>
      obtain ⟨x, u⟩ := r
      obtain ⟨-, hbefore, hafter, -, hid⟩ := claim_ok hx
      dsimp only [Except.map, onContinuations, transaction]
      by_cases hk : trim id = k
      · rw [← hk, hbefore, hafter]
        exact .claimed (by simp [claims, Except.toBool]) hid
      · rw [(claim_writes hx).statusOf_other hk]
        exact .kept rfl fun _ _ => rfl
  | releaseContinuationApproval id =>
    rw [step]
    cases hx : releaseContinuationApproval id t.continuations with
    | error e =>
      refine .kept rfl fun _ hid => decide_eq_false fun hk => ?_
      obtain ⟨u, hu⟩ := release_isOk (hk ▸ hid) t.continuations
      rw [hu] at hx
      cases hx
    | ok r =>
      obtain ⟨x, u⟩ := r
      have hstays := (release_ok hx).2
      dsimp only [Except.map, onContinuations, transaction]
      rcases release_writes hx with ⟨hwrites, hbefore, hafter⟩ | hsame
      · by_cases hk : trim id = k
        · rw [← hk, hbefore, hafter]
          exact .released rfl
        · rw [hwrites.statusOf_other hk]
          exact .kept rfl fun _ _ => decide_eq_false hk
      · rw [hsame] at hstays ⊢
        exact .kept rfl fun hactive _ => decide_eq_false fun hk => hstays (hk ▸ hactive)
  | consumeContinuationApproval id now =>
    rw [step]
    cases hx : consumeContinuationApproval host.js host.toISOString id now t.continuations with
    | error e => exact .kept (Bool.and_false _) fun _ _ => rfl
    | ok r =>
      obtain ⟨x, u⟩ := r
      obtain ⟨-, hbefore, hafter⟩ := consume_ok hx
      dsimp only [Except.map, onContinuations, transaction]
      by_cases hk : trim id = k
      · rw [← hk, hbefore, hafter]
        exact .consumed
      · rw [(consume_writes hx).statusOf_other hk]
        exact .kept (by simp [consumesContinuation, hk]) fun _ _ => rfl

/-! ### What holds after every call -/

theorem new_of_proper (h : Proper t op) : ∀ c now, op = .createCandidate c now → New c := by
  rintro c now rfl
  exact h

/-- The approval id of a stored candidate is not approved anew. -/
theorem not_approvedFor (hok : Proper t op) {k : String} {c : ReleaseCandidate}
    {approvalId : String} {p : Pinned} {a : Answer} (hc : findCandidate k t = some c)
    (ha : c.approvalId = some approvalId) :
    ¬ ApprovedFor id approvalId p ⟨t, op, a⟩ := by
  rintro ⟨uid, snapshot, now, uuid, rfl, -, rfl, -⟩
  exact hok c (Table.mem_of_lookup hc) ha

/-- What holds of the calls so far and the store. -/
structure Inv (past : List Made) (t : Store) : Prop where
  stage : ∀ id c, findCandidate id t = some c → Stage c
  approved : ∀ id c a, findCandidate id t = some c → c.approvalId = some a →
    ∃ e ∈ past, ApprovedFor id a (pinned c) e
  differ : ∀ id id' c c' a, findCandidate id t = some c → findCandidate id' t = some c' →
    c.approvalId = some a → c'.approvalId = some a → id = id'
  claimed : ∀ k, statusOf k t.continuations = some .activating →
    isId "continuation-" k = true ∧ OpenClaim k past

theorem inv_empty : Inv [] .empty := by
  constructor <;> simp [findCandidate, statusOf, find, Store.empty, Table.lookup]

theorem inv_step {past : List Made} (h : Inv past t) (hok : Proper t op) :
    Inv (past ++ [⟨t, op, (step host t op).1⟩]) (step host t op).2 where
  stage id c hc := step_moves.stage (new_of_proper hok) (h.stage id) c hc
  approved id c a hc ha := by
    rcases step_moves.approvalId_origin (t := t) (new_of_proper hok) hc ha with ⟨c₀, hc₀,
      ha₀, hp⟩ | hnew
    · obtain ⟨e, he, happroved⟩ := h.approved id c₀ a hc₀ ha₀
      exact ⟨e, List.mem_append_left _ he, hp ▸ happroved⟩
    · exact ⟨_, List.mem_append_right _ (List.mem_singleton.mpr rfl), hnew⟩
  differ id id' c c' a hc hc' ha ha' := by
    rcases step_moves.approvalId_origin (t := t) (new_of_proper hok) hc ha with ⟨c₀, hc₀,
      ha₀, -⟩ | hnew <;>
      rcases step_moves.approvalId_origin (t := t) (new_of_proper hok) hc' ha' with
        ⟨c₁, hc₁, ha₁, -⟩ | hnew'
    · exact h.differ id id' c₀ c₁ a hc₀ hc₁ ha₀ ha₁
    · exact absurd hnew' (not_approvedFor hok hc₀ ha₀)
    · exact absurd hnew (not_approvedFor hok hc₁ ha₁)
    · obtain ⟨uid, snapshot, now, uuid, hop, -⟩ := hnew
      obtain ⟨uid', snapshot', now', uuid', hop', -⟩ := hnew'
      dsimp only at hop hop'
      rw [hop] at hop'
      injection hop'
  claimed k hk := by
    have hm := @step_continuationMoves host t op k
    generalize hs : statusOf k t.continuations = s at hm
    generalize ha : (step host t op).1 = a at hm ⊢
    generalize hs' : statusOf k (step host t op).2.continuations = s' at hk hm
    cases hm with
    | kept hc hr =>
      obtain ⟨hid, hopen⟩ := h.claimed k (hs.trans hk)
      exact ⟨hid, hopen.snoc (hr hk hid)⟩
    | created =>
      rw [show _ = ContinuationApprovalStatus.pending from hok] at hk
      cases hk
    | claimed hc hid => exact ⟨hid, .claimed hc⟩
    | released | consumed => cases hk

/-! ### Approvals and consumptions -/

/-- The call approves the candidate. -/
def approves (id : String) : Operation → Answer → Bool
  | .approveCandidate k .., a => k = id && a.toBool
  | _, _ => false

/-- The call consumes the approval of the candidate. -/
def consumes (id : String) : Operation → Answer → Bool
  | .consumeApproval k .., a => k = id && a.toBool
  | _, _ => false

section

variable {r r' : Option ReleaseCandidate} {a : Answer}

theorem Moves.of_consumes (hm : Moves host id r op a r') (h : consumes id op a = true) :
    ∃ c approvalId now ensuredAt, r = some c ∧ op = .consumeApproval id now ensuredAt ∧
      consumableApproval c = some approvalId ∧ validateReleaseCandidate host c ensuredAt {} = [] ∧
      expiredAt host c now = false ∧ a = .ok (.consumed (consumedFrom host c approvalId now)) ∧
      r' = some (consumedNow host now c) := by
  cases hm with
  | kept hkept =>
    cases op with
    | consumeApproval k now ensuredAt =>
      simp only [consumes, Bool.and_eq_true, decide_eq_true_eq] at h
      rcases hkept with hid | hfailed
      · exact absurd (congrArg some h.1) hid
      · rw [hfailed] at h
        exact absurd h.2 (by decide)
    | _ => cases h
  | consumed ha hv he => exact ⟨_, _, _, _, rfl, rfl, ha, hv, he, rfl, rfl⟩
  | _ => cases h

theorem Moves.of_approves (hm : Moves host id r op a r') (h : approves id op a = true) :
    r.map ReleaseCandidate.status = some .pendingApproval ∧
      r'.map ReleaseCandidate.status = some .approved := by
  cases hm with
  | kept hkept =>
    cases op with
    | approveCandidate k uid snapshot now uuid =>
      simp only [approves, Bool.and_eq_true, decide_eq_true_eq] at h
      rcases hkept with hid | hfailed
      · exact absurd (congrArg some h.1) hid
      · rw [hfailed] at h
        exact absurd h.2 (by decide)
    | _ => cases h
  | approved hs hv => exact ⟨congrArg some hs, rfl⟩
  | _ => cases h

theorem step_rank (hok : Proper t op) :
    rank (candidateStatus id t) ≤ rank (candidateStatus id (step host t op).2) :=
  (step_moves.follows (new_of_proper hok)).rank_le

theorem rank_of_consumes (h : consumes id op (step host t op).1 = true) :
    rank (candidateStatus id t) < 3 ∧ 3 ≤ rank (candidateStatus id (step host t op).2) := by
  obtain ⟨c, approvalId, now, ensuredAt, hc, -, ha, -, -, -, hc'⟩ := step_moves.of_consumes h
  rw [candidateStatus, candidateStatus, hc, hc', Option.map_some, (consumable ha).1]
  exact ⟨by decide, Nat.le_refl 3⟩

theorem rank_of_approves (h : approves id op (step host t op).1 = true) :
    rank (candidateStatus id t) < 2 ∧ 2 ≤ rank (candidateStatus id (step host t op).2) := by
  obtain ⟨hbefore, hafter⟩ := step_moves.of_approves h
  rw [candidateStatus, candidateStatus, hbefore, hafter]
  exact ⟨by decide, by decide⟩

end

/-- Whether an approval is consumed. -/
def consumedRank (k : String) (t : Store) : ℕ :=
  if statusOf k t.continuations = some .consumed then 1 else 0

theorem step_consumedRank {k : String} : consumedRank k t ≤ consumedRank k (step host t op).2 := by
  have hm := @step_continuationMoves host t op k
  unfold consumedRank
  generalize statusOf k t.continuations = s at hm ⊢
  generalize statusOf k (step host t op).2.continuations = s' at hm ⊢
  cases hm <;> simp

theorem status_of_consumesContinuation {k : String}
    (h : consumesContinuation k op (step host t op).1 = true) :
    statusOf k t.continuations = some .activating ∧
      statusOf k (step host t op).2.continuations = some .consumed := by
  have hm := @step_continuationMoves host t op k
  generalize (step host t op).1 = a at h hm
  cases op with
  | consumeContinuationApproval id now =>
    generalize statusOf k t.continuations = s at hm ⊢
    generalize statusOf k (step host t (.consumeContinuationApproval id now)).2.continuations = s'
      at hm ⊢
    cases hm with
    | kept hc hr => rw [h] at hc; cases hc
    | claimed hc hid => cases hc
    | released hc => rw [h] at hc; cases hc
    | consumed => exact ⟨rfl, rfl⟩
  | _ => cases h

theorem rank_of_consumesContinuation {k : String}
    (h : consumesContinuation k op (step host t op).1 = true) :
    consumedRank k t < 1 ∧ 1 ≤ consumedRank k (step host t op).2 := by
  obtain ⟨hbefore, hafter⟩ := status_of_consumesContinuation h
  simp [consumedRank, hbefore, hafter]

/-! ### The one-time approvals -/

/-- What a history of the store says about approvals. -/
structure UsedOnce (host : Host) (calls : List Made) : Prop where
  /-- a candidate goes from pending to approved to consumed -/
  follows : ∀ e ∈ calls, ∀ id,
    Follows (candidateStatus id e.before) (candidateStatus id (e.after (step host)))
  /-- an approval is consumed at most once -/
  consumedOnce : ∀ id, calls.countP (fun e => consumes id e.input e.answer) ≤ 1
  /-- an approval is consumed before the candidate expires -/
  consumedInTime : ∀ e ∈ calls, ∀ id now ensuredAt approval,
    e.input = .consumeApproval id now ensuredAt → e.answer = .ok (.consumed approval) →
      ∃ c expiry, findCandidate id e.before = some c ∧ host.js.dateParse c.expiresAt = some expiry ∧
        now < expiry ∧ ensuredAt < expiry
  /-- a candidate is approved at most once -/
  approvedOnce : ∀ id, calls.countP (fun e => approves id e.input e.answer) ≤ 1
  /-- the approval id of a candidate does not change -/
  approvalIdKept : ∀ e ∈ calls, ∀ id c approvalId, findCandidate id e.before = some c →
    c.approvalId = some approvalId →
      ∃ c', findCandidate id (e.after (step host)) = some c' ∧ c'.approvalId = some approvalId
  /-- no two candidates have one approval id -/
  approvalIdsDiffer : ∀ e ∈ calls, ∀ id id' c c' approvalId,
    findCandidate id (e.after (step host)) = some c →
    findCandidate id' (e.after (step host)) = some c' →
      c.approvalId = some approvalId → c'.approvalId = some approvalId → id = id'
  /-- what a candidate is for does not change -/
  pinnedKept : ∀ e ∈ calls, ∀ id c, findCandidate id e.before = some c →
    ∃ c', findCandidate id (e.after (step host)) = some c' ∧ pinned c' = pinned c
  /-- a consumed approval is what a call before it compared with the Worker -/
  consumedAsApproved : ∀ past e rest, calls = past ++ e :: rest → ∀ id now ensuredAt approval,
    e.input = .consumeApproval id now ensuredAt → e.answer = .ok (.consumed approval) →
      ∃ a ∈ past, ApprovedFor id approval.approvalId (pinnedBy approval) a
  /-- a continuation is consumed at most once -/
  continuationOnce : ∀ k, calls.countP (fun e => consumesContinuation k e.input e.answer) ≤ 1
  /-- a continuation is consumed from a claim that was not given back -/
  consumedFromClaim : ∀ past e rest, calls = past ++ e :: rest → ∀ k,
    consumesContinuation k e.input e.answer = true → OpenClaim k past

/-- **One-time approvals**: in every order of the calls on the store. -/
theorem approvals_are_one_time (host : Host) (calls : List Operation)
    (hok : Admitted (step host) Proper .empty calls) :
    UsedOnce host (history (step host) .empty calls) := by
  have hspec {past rest : List Made} {e : Made}
      (he : history (step host) .empty calls = past ++ e :: rest) :
      Inv past e.before ∧ Proper e.before e.input ∧ e.answer = (step host e.before e.input).1 :=
    history_spec (fun _ _ _ => inv_step) inv_empty hok he
  have hmem {e : Made} (he : e ∈ history (step host) .empty calls) :
      ∃ past, Inv past e.before ∧ Proper e.before e.input ∧
      e.answer = (step host e.before e.input).1 := by
    obtain ⟨past, rest, hsplit⟩ := List.append_of_mem he
    exact ⟨past, hspec hsplit⟩
  have honce {p : Made → Bool} {measure : Store → ℕ} {n : ℕ}
      (hmono : ∀ t op, Proper t op → measure t ≤ measure (step host t op).2)
      (hp : ∀ t op, p ⟨t, op, (step host t op).1⟩ = true →
        measure t < n ∧ n ≤ measure (step host t op).2) :
      (history (step host) .empty calls).countP p ≤ 1 :=
    countP_le_one (fun (_ : Store) (_ : Operation) (_ : True) _ => trivial)
      (fun t op _ => hmono t op)
      (fun t op _ _ => hp t op) trivial hok
  constructor
  case follows =>
    intro e he id
    obtain ⟨past, -, hproper, -⟩ := hmem he
    exact step_moves.follows (new_of_proper hproper)
  case consumedOnce => exact fun id => honce (fun _ _ => step_rank) fun _ _ => rank_of_consumes
  case approvedOnce => exact fun id => honce (fun _ _ => step_rank) fun _ _ => rank_of_approves
  case continuationOnce =>
    exact fun k => honce (fun _ _ _ => step_consumedRank) fun _ _ => rank_of_consumesContinuation
  case approvalIdKept =>
    intro e he id c approvalId hc ha
    obtain ⟨past, hinv, -, -⟩ := hmem he
    exact step_moves.approvalId_kept (hinv.stage id) hc ha
  case approvalIdsDiffer =>
    intro e he
    obtain ⟨past, hinv, hproper, -⟩ := hmem he
    exact (inv_step hinv hproper).differ
  case pinnedKept => exact fun e _ id c hc => step_moves.pinned_kept hc
  case consumedInTime =>
    intro e he id now ensuredAt approval hop hanswer
    obtain ⟨past, hinv, -, ha⟩ := hmem he
    have hconsumes : consumes id e.input (step host e.before e.input).1 = true := by
      rw [← ha, hop, hanswer]
      simp [consumes, Except.toBool]
    obtain ⟨c, _, now', ensuredAt', hc, hop', -, hv, hlive, -⟩ := step_moves.of_consumes hconsumes
    rw [hop] at hop'
    injection hop' with _ hnow hensured
    obtain ⟨-, -, expiry, hexpiry, hlt⟩ := of_valid hv
    rw [(hinv.stage id c hc).1] at hexpiry
    rw [expiredAt, hexpiry] at hlive
    refine ⟨c, expiry, hc, hexpiry, ?_, hensured ▸ hlt⟩
    rw [hnow]
    simpa using hlive
  case consumedAsApproved =>
    intro past e rest hsplit id now ensuredAt approval hop hanswer
    obtain ⟨hinv, -, ha⟩ := hspec hsplit
    have hconsumes : consumes id e.input (step host e.before e.input).1 = true := by
      rw [← ha, hop, hanswer]
      simp [consumes, Except.toBool]
    obtain ⟨c, approvalId, now', ensuredAt', hc, -, hconsumable, -, -, hanswer', -⟩ :=
      step_moves.of_consumes hconsumes
    rw [← ha, hanswer] at hanswer'
    injection hanswer' with hvalue
    injection hvalue with hvalue
    rw [hvalue]
    exact hinv.approved id c approvalId hc (consumable hconsumable).2
  case consumedFromClaim =>
    intro past e rest hsplit k hconsumes
    obtain ⟨hinv, -, ha⟩ := hspec hsplit
    rw [ha] at hconsumes
    exact (hinv.claimed k (status_of_consumesContinuation hconsumes).1).2

/-! ### Transactions that commit -/

section

variable {host : Host} {js : Platform} {stamp : ℤ → String} {id k : String} {now ensuredAt : ℤ}
    {t : Store} {c : ReleaseCandidate} {u : Continuations} {approval : ContinuationApproval}

theorem createCandidate_of (hvalid : validateReleaseCandidate host c now {} = [])
    (hid : candidateIdOrThrow c.candidateId = .ok k) (hnew : findCandidate k t = none) :
    createCandidate host c now t = .ok ((), { t with candidates := t.candidates ++ [c] }) := by
  simp [createCandidate, ensureCandidate, throwing, hvalid, hid, hnew, bind, Except.bind,
    pure, Except.pure]

theorem approveCandidate_of {uid uuid : String} {snapshot : ReleaseVerificationSnapshot}
    (hid : candidateIdOrThrow id = .ok k) (hc : findCandidate k t = some c)
    (hstatus : c.status = .pendingApproval)
    (hfit : validateApprovalPrerequisites host c snapshot now = []) :
    approveCandidate host id uid snapshot now uuid t =
    .ok (approvedBy host ("approval-" ++ uuid) uid now c,
      setEvidence (approvalRecord host k ("approval-" ++ uuid) uid now)
        (updateCandidate k (approvedBy host ("approval-" ++ uuid) uid now) t)) := by
  simp [approveCandidate, throwing, hid, hc, hstatus, hfit, bind, Except.bind, pure, Except.pure]

theorem consumeApproval_of {approvalId : String} (hid : candidateIdOrThrow id = .ok k)
    (hc : findCandidate k t = some c) (hconsumable : consumableApproval c = some approvalId)
    (hvalid : validateReleaseCandidate host c ensuredAt {} = [])
    (hlive : expiredAt host c now = false) :
    consumeApproval host id now ensuredAt t =
      .ok (consumedFrom host c approvalId now, updateCandidate k (consumedNow host now) t) := by
  simp [consumeApproval, ensureCandidate, throwing, hid, hc, hconsumable, hvalid, hlive,
    bind, Except.bind, pure, Except.pure]

theorem consumeApproval_refused (hid : candidateIdOrThrow id = .ok k)
    (hc : findCandidate k t = some c) (hconsumable : consumableApproval c = none) :
    consumeApproval host id now ensuredAt t =
      .error "Release candidate has no consumable approval" := by
  simp [consumeApproval, hid, hc, hconsumable, bind, Except.bind]
  rfl

theorem createContinuation_of (hvalid : validateContinuationApproval js approval now = [])
    (hid : continuationIdOrThrow approval.continuationId = .ok k) (hnew : find k u = none) :
    createContinuationApproval js approval now u =
    .ok (u ++ [{ approval with continuationId := k }]) := by
  simp [createContinuationApproval, throwing, hvalid, hid, hnew, bind, Except.bind,
    pure, Except.pure]

theorem claim_of (hid : continuationIdOrThrow id = .ok k) (hfound : find k u = some approval)
    (hvalid : validateContinuationApproval js approval now = [])
    (hstatus : approval.status = .pending) :
    claimContinuationApproval js id now u = .ok ({ approval with status := .activating },
      setRecord k (fun r => { r with status := .activating }) u) := by
  simp [claimContinuationApproval, throwing, hvalid, hid, hfound, hstatus, bind, Except.bind,
    pure, Except.pure]

theorem release_of (hid : continuationIdOrThrow id = .ok k) (hfound : find k u = some approval)
    (hstatus : approval.status = .activating) :
    releaseContinuationApproval id u = .ok ((),
      setRecord k (fun r => { r with status := .pending }) u) := by
  simp [releaseContinuationApproval, hid, hfound, hstatus, bind, Except.bind, pure, Except.pure]

theorem consumeContinuation_of (hid : continuationIdOrThrow id = .ok k)
    (hfound : find k u = some approval) (hvalid : validateContinuationApproval js approval now = [])
    (hstatus : approval.status = .activating) :
    consumeContinuationApproval js stamp id now u =
      .ok ({ approval with status := .consumed, consumedAt := some (stamp now) },
        setRecord k (fun r => { r with
          status := .consumed, consumedAt := some (stamp now) }) u) := by
  simp [consumeContinuationApproval, throwing, hvalid, hid, hfound, hstatus, bind, Except.bind,
    pure, Except.pure]

theorem consumeContinuation_refused (hid : continuationIdOrThrow id = .ok k)
    (hfound : find k u = some approval) (hvalid : validateContinuationApproval js approval now = [])
    (hstatus : approval.status ≠ .activating) :
    ∃ e, consumeContinuationApproval js stamp id now u = .error e := by
  simp only [consumeContinuationApproval, throwing, hvalid, hid, hfound, bind, Except.bind, if_true]
  cases hs : approval.status with
  | activating => exact absurd hs hstatus
  | _ => exact ⟨_, rfl⟩

end

/-- A host at the first moments of the epoch. -/
def earlyHost : Host where
  js :=
    { numberText := fun _ => ""
      numeric := fun _ => none
      dateParse := fun s =>
        if s = "1970-01-01T00:00:00.000Z" then some 0
        else if s = "1970-01-01T01:00:00.000Z" then some 3600000
        else none
      dataConnectCutover := none }
  toISOString := fun _ => "1970-01-01T00:00:00.000Z"
  hashEvidence := fun _ => ""
  sha256 := fun _ => "6524c3c6c267a245e1c8df24d864d633e7f6d18d8012a3554cd1c8351a9ee2ec"

/-- A release candidate. -/
def earlyCandidate : ReleaseCandidate where
  candidateId := "rc-00000000-0000-4000-8000-000000000001"
  repoSha := "fe21dba30f3379c59ff748f442d569e107fbb846"
  imageDigest := "worker@sha256:0000000000000000000000000000000000000000000000000000000000000000"
  workerRevision := "worker-00003-abc"
  secretVersions := ⟨"1", "1", "1"⟩
  executionMode := "LIVE"
  symbol := "ETHUSDC"
  preflightEvidenceHash := "1111111111111111111111111111111111111111111111111111111111111111"
  repoGateEvidenceHash := "2222222222222222222222222222222222222222222222222222222222222222"
  cloudGateEvidenceHash := "3333333333333333333333333333333333333333333333333333333333333333"
  launchPolicy := "STAGED_FIRST_ORDER"
  expiresAt := "1970-01-01T01:00:00.000Z"
  nonce := "release-nonce-123456"
  viteDataConnectCutover := false
  orderSubmissionAttempts := 0
  workerDisarmed := true
  createdAt := "1970-01-01T00:00:00.000Z"
  status := .pendingApproval
  approvalId := none
  approvedByUid := none
  approvedAt := none
  consumedAt := none

/-- What the Worker shows. -/
def earlySnapshot : ReleaseVerificationSnapshot where
  currentImageDigest := earlyCandidate.imageDigest
  currentWorkerRevision := earlyCandidate.workerRevision
  currentExecutionMode := "LIVE"
  currentMainnetLiveApproved := false
  currentEngineState := "DISARMED"
  currentOrderSubmissionAttempts := 0
  currentSecretVersions := ⟨"1", "1", "1"⟩
  preflightPassed := true
  preflightObservedAt := "1970-01-01T00:00:00.000Z"
  reconciliationStatus := "IN_SYNC"
  persistenceDurable := true
  dataConnectCutover := false
  killSwitchActive := false

/-- A continuation approval. -/
def earlyContinuation : ContinuationApproval where
  continuationId := "continuation-00000000-0000-4000-8000-000000000003"
  candidateId := earlyCandidate.candidateId
  launchId := "launch-00000001"
  initialApprovalId := "approval-00000000-0000-4000-8000-000000000002"
  imageDigest := earlyCandidate.imageDigest
  workerRevision := earlyCandidate.workerRevision
  secretVersions := ⟨"1", "1", "1"⟩
  firstOrderEvidenceHash := earlyCandidate.preflightEvidenceHash
  reconciliationStatus := "IN_SYNC"
  preflightObservedAt := "1970-01-01T00:00:00.000Z"
  nonce := "release-nonce-123456"
  requesterUid := "uid"
  createdAt := "1970-01-01T00:00:00.000Z"
  expiresAt := "1970-01-01T01:00:00.000Z"
  status := .pending
  consumedAt := none

/-- Two consumptions of one approval, and two of one continuation, whose first claim is given
back. -/
def earlyCalls : List Operation :=
  [.createCandidate earlyCandidate 0,
   .approveCandidate earlyCandidate.candidateId "uid" earlySnapshot 0
     "00000000-0000-4000-8000-000000000002",
   .consumeApproval earlyCandidate.candidateId 0 0, .consumeApproval earlyCandidate.candidateId 0 0,
   .createContinuationApproval earlyContinuation 0,
   .claimContinuationApproval earlyContinuation.continuationId 0,
   .releaseContinuationApproval earlyContinuation.continuationId,
   .consumeContinuationApproval earlyContinuation.continuationId 0,
   .claimContinuationApproval earlyContinuation.continuationId 0,
   .consumeContinuationApproval earlyContinuation.continuationId 0,
   .consumeContinuationApproval earlyContinuation.continuationId 0]

/-- The approval of the candidate. -/
def earlyApprovalId : String := "approval-" ++ "00000000-0000-4000-8000-000000000002"

/-- The candidate with its approval. -/
def earlyApproved : ReleaseCandidate := approvedBy earlyHost earlyApprovalId "uid" 0 earlyCandidate

/-- The candidate with its approval consumed. -/
def earlyConsumed : ReleaseCandidate := consumedNow earlyHost 0 earlyApproved

/-- The continuation with a status. -/
def earlyContinuationAt (status : ContinuationApprovalStatus) (consumedAt : Option String) :
    ContinuationApproval := { earlyContinuation with status, consumedAt }

/-- The store once the candidate is approved. -/
def earlyStore (c : ReleaseCandidate) (continuations : Continuations) : Store :=
  ⟨[c], [approvalRecord earlyHost earlyCandidate.candidateId earlyApprovalId "uid" 0],
    continuations⟩

example : continuationIdOrThrow "rc-1" = .error "Invalid continuation approval id" := by
  decide +kernel

theorem early_checks :
    candidateIdOrThrow earlyCandidate.candidateId = .ok earlyCandidate.candidateId ∧
      validateReleaseCandidate earlyHost earlyCandidate 0 {} = [] ∧
      validateApprovalPrerequisites earlyHost earlyCandidate earlySnapshot 0 = [] ∧
      consumableApproval earlyApproved = some earlyApprovalId ∧
      continuationIdOrThrow earlyContinuation.continuationId =
      .ok earlyContinuation.continuationId ∧
      validateContinuationApproval earlyHost.js earlyContinuation 0 = [] := by
  decide +kernel

theorem early_id : candidateIdOrThrow earlyCandidate.candidateId = .ok earlyCandidate.candidateId :=
  early_checks.1

theorem early_valid : validateReleaseCandidate earlyHost earlyCandidate 0 {} = [] :=
  early_checks.2.1

theorem early_continuation_id : continuationIdOrThrow earlyContinuation.continuationId =
    .ok earlyContinuation.continuationId := early_checks.2.2.2.2.1

theorem early_continuation_valid :
    validateContinuationApproval earlyHost.js earlyContinuation 0 = [] := early_checks.2.2.2.2.2

theorem findCandidate_single (c : ReleaseCandidate) (evidence : List ReleaseEvidenceRecord)
    (continuations : Continuations) : findCandidate c.candidateId ⟨[c], evidence,
      continuations⟩ = some c := by
  simp [findCandidate, Table.lookup]

theorem updateCandidate_single (c : ReleaseCandidate) (f : ReleaseCandidate → ReleaseCandidate)
    (evidence : List ReleaseEvidenceRecord) (continuations : Continuations) :
    updateCandidate c.candidateId f ⟨[c], evidence, continuations⟩ = ⟨[f c], evidence,
      continuations⟩ := by
  simp [updateCandidate, Table.update]

theorem step_create : step earlyHost .empty (.createCandidate earlyCandidate 0) =
    (.ok .done, ⟨[earlyCandidate], [], []⟩) := by
  rw [step, createCandidate_of early_valid early_id rfl]
  rfl

theorem step_approve : step earlyHost ⟨[earlyCandidate], [], []⟩
    (.approveCandidate earlyCandidate.candidateId "uid" earlySnapshot 0
      "00000000-0000-4000-8000-000000000002") =
      (.ok (.candidate earlyApproved), earlyStore earlyApproved []) := by
  rw [step, approveCandidate_of early_id (findCandidate_single ..) rfl early_checks.2.2.1,
    updateCandidate_single]
  rfl

theorem step_consume : step earlyHost (earlyStore earlyApproved [])
    (.consumeApproval earlyCandidate.candidateId 0 0) =
    (.ok (.consumed (consumedFrom earlyHost earlyApproved earlyApprovalId 0)),
      earlyStore earlyConsumed []) := by
  have hvalid : validateReleaseCandidate earlyHost earlyApproved 0 {} = [] := by
    have hsame (a uid : String) (c : ReleaseCandidate) :
        validateReleaseCandidate earlyHost (approvedBy earlyHost a uid 0 c) 0 {} =
          validateReleaseCandidate earlyHost c 0 {} := rfl
    rw [earlyApproved, hsame, early_valid]
  rw [step, earlyStore, consumeApproval_of early_id (findCandidate_single earlyApproved _ _)
    early_checks.2.2.2.1 hvalid (by decide)]
  exact congrArg (Prod.mk _) (updateCandidate_single earlyApproved ..)

theorem step_consume_again : step earlyHost (earlyStore earlyConsumed [])
    (.consumeApproval earlyCandidate.candidateId 0 0) =
      (.error "Release candidate has no consumable approval", earlyStore earlyConsumed []) := by
  rw [step, earlyStore, consumeApproval_refused early_id
    (findCandidate_single earlyConsumed _ _) rfl]
  rfl

section

variable (c : ReleaseCandidate) (status : ContinuationApprovalStatus) (consumedAt : Option String)

theorem find_single :
    find earlyContinuation.continuationId [earlyContinuationAt status consumedAt] =
    some (earlyContinuationAt status consumedAt) := by
  rw [find, show earlyContinuation.continuationId =
    (earlyContinuationAt status consumedAt).continuationId from rfl]
  simp [Table.lookup]

theorem setRecord_single (f : ContinuationApproval → ContinuationApproval) :
    setRecord earlyContinuation.continuationId f [earlyContinuationAt status consumedAt] =
      [f (earlyContinuationAt status consumedAt)] := by
  rw [setRecord, show earlyContinuation.continuationId =
    (earlyContinuationAt status consumedAt).continuationId from rfl]
  simp [Table.update]

theorem earlyContinuationAt_valid :
    validateContinuationApproval earlyHost.js (earlyContinuationAt status consumedAt) 0 = [] := by
  have hsame (a : ContinuationApproval) : validateContinuationApproval earlyHost.js
    { a with status, consumedAt } 0 = validateContinuationApproval earlyHost.js a 0 := rfl
  rw [earlyContinuationAt, hsame, early_continuation_valid]

theorem step_createContinuation :
    step earlyHost (earlyStore c []) (.createContinuationApproval earlyContinuation 0) =
    (.ok .done, earlyStore c [earlyContinuationAt .pending none]) := by
  rw [step, createContinuation_of early_continuation_valid early_continuation_id rfl]
  rfl

theorem step_claim : step earlyHost (earlyStore c [earlyContinuationAt .pending none])
    (.claimContinuationApproval earlyContinuation.continuationId 0) =
      (.ok (.continuation (earlyContinuationAt .activating none)),
        earlyStore c [earlyContinuationAt .activating none]) := by
  rw [step, earlyStore, claim_of early_continuation_id (find_single ..)
    (earlyContinuationAt_valid ..) rfl, setRecord_single]
  rfl

theorem step_release : step earlyHost (earlyStore c [earlyContinuationAt .activating none])
    (.releaseContinuationApproval earlyContinuation.continuationId) =
      (.ok .done, earlyStore c [earlyContinuationAt .pending none]) := by
  rw [step, earlyStore, release_of early_continuation_id (find_single ..) rfl, setRecord_single]
  rfl

theorem step_consumeContinuation :
    step earlyHost (earlyStore c [earlyContinuationAt .activating none])
    (.consumeContinuationApproval earlyContinuation.continuationId 0) =
      (.ok (.continuation (earlyContinuationAt .consumed (some (earlyHost.toISOString 0)))),
        earlyStore c [earlyContinuationAt .consumed (some (earlyHost.toISOString 0))]) := by
  rw [step, earlyStore, consumeContinuation_of early_continuation_id (find_single ..)
    (earlyContinuationAt_valid ..) rfl, setRecord_single]
  rfl

theorem step_consumeContinuation_refused (hstatus : status ≠ .activating) :
    ∃ e, step earlyHost (earlyStore c [earlyContinuationAt status consumedAt])
      (.consumeContinuationApproval earlyContinuation.continuationId 0) =
        (.error e, earlyStore c [earlyContinuationAt status consumedAt]) := by
  obtain ⟨e, he⟩ : ∃ e, consumeContinuationApproval earlyHost.js earlyHost.toISOString
      earlyContinuation.continuationId 0 [earlyContinuationAt status consumedAt] = .error e :=
    consumeContinuation_refused early_continuation_id (find_single status consumedAt)
      (earlyContinuationAt_valid status consumedAt) hstatus
  exact ⟨e, by rw [step, earlyStore, he]; rfl⟩

end

theorem early_run : (run (step earlyHost) .empty earlyCalls).1.map Except.toBool =
    [true, true, true, false, true, true, true, false, true, true, false] ∧
      Admitted (step earlyHost) Proper .empty earlyCalls := by
  have hfresh : Proper ⟨[earlyCandidate], [], []⟩ (.approveCandidate earlyCandidate.candidateId
      "uid" earlySnapshot 0
      "00000000-0000-4000-8000-000000000002") := by
    simp [Proper, earlyCandidate]
  obtain ⟨e, he⟩ := step_consumeContinuation_refused earlyConsumed .pending none nofun
  obtain ⟨e', he'⟩ := step_consumeContinuation_refused earlyConsumed .consumed
    (some (earlyHost.toISOString 0)) nofun
  simp only [earlyCalls, run_cons, run_nil, Admitted, step_create, step_approve, step_consume,
    step_consume_again,
    step_createContinuation, step_claim, step_release, step_consumeContinuation, he, he']
  exact ⟨rfl, ⟨rfl, rfl, by decide⟩, hfresh, trivial, trivial, rfl, trivial, trivial,
    trivial, trivial, trivial, trivial, trivial⟩

theorem approvals_are_one_time_early :
    (run (step earlyHost) .empty earlyCalls).1.map Except.toBool =
        [true, true, true, false, true, true, true, false, true, true, false] ∧
      UsedOnce earlyHost (history (step earlyHost) .empty earlyCalls) :=
  ⟨early_run.1, approvals_are_one_time earlyHost earlyCalls early_run.2⟩

end Blessing.ControlPlane.OneTime
