import Blessing.ControlPlane.OneTime
import Blessing.Lib.Overlap

/-! # The release store in memory

The store the tests run against reads a copy of a candidate in one turn and writes it back in a
later one. Calls that overlap so lose writes; calls whose candidate stays as they read it, or which
refuse what they read, answer as the transactions do in some order (`memory_serializable`). -/

namespace Blessing.ControlPlane.MemoryStore

open Blessing.Lib Blessing.Lib.JavaScript Blessing.Lib.Machine Blessing.Lib.Overlap
  Blessing.ControlPlane.Release Blessing.ControlPlane.ReleaseStore Blessing.ControlPlane.OneTime
open Blessing.ControlPlane.Continuation
    (Continuations find setRecord throwing continuationIdOrThrow)

/-! ### Calls -/

/-- `this.candidates.set`. A candidate read under an id has that id. -/
def setCandidate (candidate : ReleaseCandidate) (t : Store) : Store :=
  { t with candidates := Table.upsert ReleaseCandidate.candidateId candidate t.candidates }

/-- `this.continuations.set`. -/
def setContinuation (approval : ContinuationApproval) (u : Continuations) : Continuations :=
  Table.upsert ContinuationApproval.continuationId approval u

section

variable (host : Host)

/-- `updatePreflight` after it has read the candidate. -/
def updatePreflight (candidate : Option ReleaseCandidate) (candidateId : String)
    (evidence : PreflightEvidence) (evidenceHash : String) (now generatedAt : ℤ) (t : Store) :
    Except String (ReleaseCandidate × Store) :=
  match candidate with
  | none => throw "Release candidate is not pending approval"
  | some candidate => do
    if candidate.status ≠ .pendingApproval ∧ candidate.status ≠ .approved ∧
        candidate.status ≠ .consumed then
      throw "Release candidate is not pending approval"
    let next := { candidate with preflightEvidenceHash := evidenceHash }
    ensureCandidate host next now
    return (next, setEvidence (preflightRecord host candidateId evidence evidenceHash generatedAt)
      (setCandidate next t))

/-- `approveCandidate` after it has read the candidate; `stampedAt` is its second reading of the
clock. -/
def approveCandidate (candidate : Option ReleaseCandidate) (candidateId uid : String)
    (snapshot : ReleaseVerificationSnapshot) (now stampedAt : ℤ) (uuid : String) (t : Store) :
    Except String (ReleaseCandidate × Store) :=
  match candidate with
  | none => throw "Release candidate not found"
  | some candidate => do
    if candidate.status ≠ .pendingApproval then
      throw "Release candidate is not pending approval"
    throwing "" (validateApprovalPrerequisites host candidate snapshot now)
    let next := approvedBy host ("approval-" ++ uuid) uid stampedAt candidate
    return (next, setEvidence (approvalRecord host candidateId ("approval-" ++ uuid) uid stampedAt)
      (setCandidate next t))

/-- `consumeApproval` after it has read the candidate. -/
def consumeApproval (candidate : Option ReleaseCandidate) (ensuredAt now stampedAt : ℤ)
    (t : Store) :
    Except String (ReleaseStore.ConsumedApproval × Store) :=
  match candidate with
  | none => throw "Release candidate has no consumable approval"
  | some candidate =>
    match consumableApproval candidate with
    | none => throw "Release candidate has no consumable approval"
    | some approvalId => do
      ensureCandidate host candidate ensuredAt
      if expiredAt host candidate now = true then
        throw "Release candidate approval has expired"
      return (consumedFrom host candidate approvalId stampedAt,
        setCandidate (consumedNow host stampedAt candidate) t)

/-- `createContinuationApproval`. -/
def createContinuationApproval (approval : ContinuationApproval) (now : ℤ) (u : Continuations) :
    Except String (Unit × Continuations) := do
  throwing "" (validateContinuationApproval host.js approval now)
  let _ ← continuationIdOrThrow approval.continuationId
  if (find approval.continuationId u).isSome then
    throw "Continuation approval already exists"
  return ((), setContinuation approval u)

/-- `claimContinuationApproval`. -/
def claimContinuationApproval (id : String) (now : ℤ) (u : Continuations) :
    Except String (ContinuationApproval × Continuations) := do
  let id ← continuationIdOrThrow id
  match find id u with
  | none => throw "Continuation approval not found"
  | some approval =>
    throwing "" (validateContinuationApproval host.js approval now)
    match approval.status with
    | .consumed => throw "Continuation approval has already been consumed"
    | .expired => throw "Continuation approval has expired"
    | .pending =>
      return ({ approval with status := .activating },
        setContinuation { approval with status := .activating } u)
    | .activating => throw "Continuation approval is already being activated"

/-- `releaseContinuationApproval`. -/
def releaseContinuationApproval (id : String) (u : Continuations) :
    Except String (Unit × Continuations) := do
  let id ← continuationIdOrThrow id
  match find id u with
  | none => return ((), u)
  | some approval =>
    if approval.status = .activating then
      return ((), setContinuation { approval with status := .pending } u)
    else return ((), u)

/-- `consumeContinuationApproval`. -/
def consumeContinuationApproval (id : String) (now stampedAt : ℤ) (u : Continuations) :
    Except String (ContinuationApproval × Continuations) := do
  let id ← continuationIdOrThrow id
  match find id u with
  | none => throw "Continuation approval not found"
  | some approval =>
    throwing "" (validateContinuationApproval host.js approval now)
    match approval.status with
    | .consumed => throw "Continuation approval has already been consumed"
    | .expired => throw "Continuation approval has expired"
    | .pending => throw "Continuation approval must be claimed before it can be consumed"
    | .activating =>
      let next :=
        { approval with status := .consumed, consumedAt := some (host.toISOString stampedAt) }
      return (next, setContinuation next u)

end

/-- A call with its readings of the clock, in their order, and its random id. -/
inductive Call where
  | updatePreflight (candidateId : String) (evidence : PreflightEvidence) (evidenceHash : String)
      (now generatedAt : ℤ)
  | approveCandidate (candidateId uid : String) (snapshot : ReleaseVerificationSnapshot)
      (now stampedAt : ℤ) (uuid : String)
  | consumeApproval (candidateId : String) (ensuredAt now stampedAt : ℤ)
  | createContinuationApproval (approval : ContinuationApproval) (now : ℤ)
  | claimContinuationApproval (continuationId : String) (now : ℤ)
  | releaseContinuationApproval (continuationId : String)
  | consumeContinuationApproval (continuationId : String) (now stampedAt : ℤ)

/-- What a call awaits: a call on a candidate a copy of it, another call nothing. -/
def look : Call → Store → Option ReleaseCandidate
  | .updatePreflight id .., t | .approveCandidate id .., t | .consumeApproval id .., t =>
    findCandidate id t
  | _, _ => none

example : look (.consumeApproval "rc-1" 0 0 0) .empty = none := by decide +kernel

/-- What a call does once its candidate is there. The turn in which it returns after the evidence is
stored does nothing. -/
def act (host : Host) : Call → Option ReleaseCandidate → Store → Answer × Store
  | .updatePreflight id evidence evidenceHash now generatedAt, candidate, t =>
    transaction .candidate
      (updatePreflight host candidate id evidence evidenceHash now generatedAt t) t
  | .approveCandidate id uid snapshot now stampedAt uuid, candidate, t =>
    transaction .candidate (approveCandidate host candidate id uid snapshot now stampedAt uuid t) t
  | .consumeApproval _ ensuredAt now stampedAt, candidate, t =>
    transaction .consumed (consumeApproval host candidate ensuredAt now stampedAt t) t
  | .createContinuationApproval approval now, _, t =>
    transaction (fun _ => .done)
      (onContinuations t (createContinuationApproval host approval now t.continuations)) t
  | .claimContinuationApproval id now, _, t =>
    transaction .continuation
      (onContinuations t (claimContinuationApproval host id now t.continuations)) t
  | .releaseContinuationApproval id, _, t =>
    transaction (fun _ => .done)
      (onContinuations t (releaseContinuationApproval id t.continuations)) t
  | .consumeContinuationApproval id now stampedAt, _, t =>
    transaction .continuation
      (onContinuations t (consumeContinuationApproval host id now stampedAt t.continuations)) t

/-- The store in memory. -/
def memory (host : Host) : Service Store Call (Option ReleaseCandidate) Answer := ⟨look, act host⟩

/-- The same call as a transaction, whose clock shows the time of the stamp. -/
def operation : Call → Operation
  | .updatePreflight id evidence evidenceHash now generatedAt =>
    .updatePreflight id evidence evidenceHash generatedAt now
  | .approveCandidate id uid snapshot _ stampedAt uuid =>
    .approveCandidate id uid snapshot stampedAt uuid
  | .consumeApproval id ensuredAt _ stampedAt => .consumeApproval id stampedAt ensuredAt
  | .createContinuationApproval approval now => .createContinuationApproval approval now
  | .claimContinuationApproval id now => .claimContinuationApproval id now
  | .releaseContinuationApproval id => .releaseContinuationApproval id
  | .consumeContinuationApproval id _ stampedAt => .consumeContinuationApproval id stampedAt

/-- One call as one transaction. -/
def transact (host : Host) (t : Store) (c : Call) : Answer × Store := step host t (operation c)

/-- The readings of the clock in one turn agree, and the id of a new approval has no white space
around it, as `newContinuationApproval` makes it. -/
def Steady : Call → Prop
  | .approveCandidate _ _ _ now stampedAt _ => now = stampedAt
  | .consumeApproval _ _ now stampedAt => now = stampedAt
  | .createContinuationApproval approval _ => trim approval.continuationId = approval.continuationId
  | .consumeContinuationApproval _ now stampedAt => now = stampedAt
  | _ => True

/-! ### The same records and the same answers -/

/-- The stores have the same records. -/
structure SameRecords (t t' : Store) : Prop where
  candidates : ∀ id, findCandidate id t = findCandidate id t'
  evidence : ∀ k, Table.lookup (fun r => (r.candidateId, r.kind)) k t.evidence =
    Table.lookup (fun r : ReleaseEvidenceRecord => (r.candidateId, r.kind)) k t'.evidence
  continuations : ∀ id, find id t.continuations = find id t'.continuations

/-- Every candidate is stored under an id of the right form. -/
def Named (t : Store) : Prop := ∀ id c, findCandidate id t = some c → isId "rc-" id = true

/-- The messages in memory that read differently in the transactions. -/
def rephrasings : List (String × String) :=
  [("Release candidate is not pending approval", "Release candidate not found"),
   ("Release candidate is not pending approval", "Invalid release candidate id"),
   ("Release candidate is not pending approval", "Release candidate is no longer pending approval"),
   ("Release candidate not found", "Invalid release candidate id"),
   ("Release candidate has no consumable approval", "Release candidate not found"),
   ("Release candidate has no consumable approval", "Invalid release candidate id"),
   ("Continuation approval already exists", "Document already exists")]

/-- The same value, or an exception with the same message up to the rephrasings. -/
def Agrees (a a' : Answer) : Prop :=
  a = a' ∨ ∃ p ∈ rephrasings, a = .error p.1 ∧ a' = .error p.2

/-- The same outcome and the same records after it. -/
def Alike (x x' : Answer × Store) : Prop := Agrees x.1 x'.1 ∧ SameRecords x.2 x'.2 ∧ Named x.2

section

variable {host : Host} {t t' : Store} {id : String} {α : Type} {value : α → Value}

theorem SameRecords.evidenceSet (h : SameRecords t t') (record : ReleaseEvidenceRecord) :
    SameRecords (setEvidence record t) (setEvidence record t') where
  candidates := h.candidates
  continuations := h.continuations
  evidence k := by
    rw [setEvidence, setEvidence, Table.lookup_upsert, Table.lookup_upsert, h.evidence]

/-- Setting a record that was changed is updating it. -/
theorem SameRecords.candidateSet (h : SameRecords t t') {f : ReleaseCandidate → ReleaseCandidate}
    (hf : ∀ r, (f r).candidateId = r.candidateId) {c : ReleaseCandidate}
    (hc : findCandidate id t = some c) :
    SameRecords (setCandidate (f c) t) (updateCandidate id f t') where
  candidates k := by
    have hkey : (f c).candidateId = id := (hf c).trans (Table.key_of_lookup hc)
    rw [findCandidate_update hf, ← h.candidates, findCandidate, setCandidate,
      Table.lookup_upsert, hkey]
    by_cases hk : id = k
    · rw [if_pos hk, if_pos hk, ← hk, hc, Option.map_some]
    · rw [if_neg hk, if_neg hk]
      rfl
  evidence := h.evidence
  continuations := h.continuations

theorem SameRecords.continuationSet (h : SameRecords t t')
    {f : ContinuationApproval → ContinuationApproval}
    (hf : ∀ r, (f r).continuationId = r.continuationId) {approval : ContinuationApproval}
    (ha : find id t.continuations = some approval) :
    SameRecords { t with continuations := setContinuation (f approval) t.continuations }
      { t' with continuations := setRecord id f t'.continuations } where
  candidates := h.candidates
  evidence := h.evidence
  continuations k := by
    have hkey : (f approval).continuationId = id := (hf approval).trans (Table.key_of_lookup ha)
    have hid : ∀ r : ContinuationApproval, decide (r.continuationId = id) = true ↔
        r.continuationId = id :=
      fun _ => decide_eq_true_iff
    change Table.lookup _ k (Table.upsert _ _ _) = Table.lookup _ k (Table.update _ _ _)
    rw [Table.lookup_upsert, hkey, Table.lookup_update_key hid hf]
    change _ = if id = k then (find k t'.continuations).map f else find k t'.continuations
    rw [← h.continuations]
    by_cases hk : id = k
    · rw [if_pos hk, if_pos hk, ← hk, ha, Option.map_some]
    · rw [if_neg hk, if_neg hk]
      rfl

theorem SameRecords.continuationAdd (h : SameRecords t t') {approval : ContinuationApproval}
    (ha : find approval.continuationId t'.continuations = none) :
    SameRecords { t with continuations := setContinuation approval t.continuations }
      { t' with continuations := t'.continuations ++ [approval] } where
  candidates := h.candidates
  evidence := h.evidence
  continuations k := by
    change Table.lookup _ k (Table.upsert _ _ _) = Table.lookup _ k (_ ++ [approval])
    rw [Table.lookup_upsert, Table.lookup_append, Table.lookup_cons]
    change (if _ then _ else find k t.continuations) = (find k t'.continuations).or _
    rw [h.continuations]
    by_cases hk : approval.continuationId = k
    · rw [if_pos hk, if_pos hk, ← hk, ha]
      rfl
    · rw [if_neg hk, if_neg hk]
      exact (Option.or_none).symm

theorem Named.candidateSet (hn : Named t) {c c' : ReleaseCandidate}
    (hc : findCandidate id t = some c) (hc' : c'.candidateId = c.candidateId) :
    Named (setCandidate c' t) := by
  have hkey : c'.candidateId = id := hc'.trans (Table.key_of_lookup hc)
  intro k r hr
  rw [findCandidate, setCandidate, Table.lookup_upsert, hkey] at hr
  split_ifs at hr with hk
  · exact hk ▸ hn id c hc
  · exact hn k r hr

/-! ### Computations that end alike -/

theorem alike_ok {s s' : Store} (h : SameRecords s s') (hn : Named s) (a : α) :
    Alike (transaction value (.ok (a, s)) t) (transaction value (.ok (a, s')) t') :=
  ⟨.inl rfl, h, hn⟩

theorem alike_error (h : SameRecords t t') (hn : Named t) {e e' : String}
    (he : e = e' ∨ (e, e') ∈ rephrasings) :
    Alike (transaction value (.error e) t) (transaction value (.error e') t') := by
  refine ⟨?_, h, hn⟩
  rcases he with rfl | he
  · exact .inl rfl
  · exact .inr ⟨_, he, rfl, rfl⟩

theorem alike_bind (h : SameRecords t t') (hn : Named t) {β : Type} {x : Except String β}
    {k k' : β → Except String (α × Store)}
    (hk : ∀ b, Alike (transaction value (k b) t) (transaction value (k' b) t')) :
    Alike (transaction value (x >>= k) t) (transaction value (x >>= k') t') := by
  cases x with
  | error e => exact alike_error h hn (.inl rfl)
  | ok b => exact hk b

theorem alike_guard (h : SameRecords t t') (hn : Named t) {p : Prop} [Decidable p] {e e' : String}
    (he : e = e' ∨ (e, e') ∈ rephrasings) {k k' : PUnit → Except String (α × Store)}
    (hk : Alike (transaction value (k ⟨⟩) t) (transaction value (k' ⟨⟩) t')) :
    Alike (transaction value (if p then throw e >>= k else k ⟨⟩) t)
      (transaction value (if p then throw e' >>= k' else k' ⟨⟩) t') := by
  by_cases hp : p
  · rw [if_pos hp, if_pos hp]
    exact alike_error h hn he
  · rw [if_neg hp, if_neg hp]
    exact hk

/-- A candidate that is not there: the transaction also looks at the form of the id. -/
theorem alike_missing (h : SameRecords t t') (hn : Named t) {e : String} (e' : String)
    (he : e = e' ∨ (e, e') ∈ rephrasings) (hid : (e, "Invalid release candidate id") ∈ rephrasings)
    {k : String → Except String (α × Store)} (hk : k id = .error e') :
    Alike (transaction value (.error e) t)
      (transaction value (candidateIdOrThrow id >>= k) t') := by
  by_cases hform : isId "rc-" id = true
  · rw [candidateIdOrThrow, if_pos hform]
    change Alike _ (transaction value (k id) t')
    rw [hk]
    exact alike_error h hn he
  · rw [candidateIdOrThrow, if_neg hform]
    exact alike_error h hn (.inr hid)

theorem alike_found (hn : Named t) {c : ReleaseCandidate} (hc : findCandidate id t = some c)
    {x : Except String (α × Store)} {k : String → Except String (α × Store)}
    (hk : Alike (transaction value x t) (transaction value (k id) t')) :
    Alike (transaction value x t) (transaction value (candidateIdOrThrow id >>= k) t') := by
  rw [candidateIdOrThrow, if_pos (hn id c hc)]
  exact hk

/-! ### Calls one after the other -/

theorem updatePreflight_alike (h : SameRecords t t') (hn : Named t) (evidence : PreflightEvidence)
    (hash : String) (now generatedAt : ℤ) :
    Alike ((memory host).once t (.updatePreflight id evidence hash now generatedAt))
      (step host t' (.updatePreflight id evidence hash generatedAt now)) := by
  dsimp only [Service.once, memory, look, act, step]
  unfold updatePreflight ReleaseStore.updatePreflight
  cases hc : findCandidate id t with
  | none =>
    refine alike_missing h hn "Release candidate not found" (.inr (by simp [rephrasings]))
      (by simp [rephrasings]) ?_
    rw [← h.candidates, hc]
    rfl
  | some c =>
    refine alike_found hn hc ?_
    rw [← h.candidates, hc]
    dsimp only
    refine alike_guard h hn (.inr (by simp [rephrasings]))
      (alike_bind h hn fun _ => alike_ok ?_ ?_ _)
    · exact (h.candidateSet (f := fun r => { r with preflightEvidenceHash := hash })
        (fun _ => rfl) hc).evidenceSet _
    · exact hn.candidateSet hc rfl

theorem approveCandidate_alike (h : SameRecords t t') (hn : Named t) (uid : String)
    (snapshot : ReleaseVerificationSnapshot) (now : ℤ) (uuid : String) :
    Alike ((memory host).once t (.approveCandidate id uid snapshot now now uuid))
      (step host t' (.approveCandidate id uid snapshot now uuid)) := by
  dsimp only [Service.once, memory, look, act, step]
  unfold approveCandidate ReleaseStore.approveCandidate
  cases hc : findCandidate id t with
  | none =>
    refine alike_missing h hn "Release candidate not found" (.inl rfl) (by simp [rephrasings]) ?_
    rw [← h.candidates, hc]
    rfl
  | some c =>
    refine alike_found hn hc ?_
    rw [← h.candidates, hc]
    dsimp only
    refine alike_guard h hn (.inr (by simp [rephrasings]))
      (alike_bind h hn fun _ => alike_ok ?_ ?_ _)
    · exact (h.candidateSet (f := approvedBy host _ uid now) (fun _ => rfl) hc).evidenceSet _
    · exact hn.candidateSet hc rfl

theorem consumeApproval_alike (h : SameRecords t t') (hn : Named t) (ensuredAt now : ℤ) :
    Alike ((memory host).once t (.consumeApproval id ensuredAt now now))
      (step host t' (.consumeApproval id now ensuredAt)) := by
  dsimp only [Service.once, memory, look, act, step]
  unfold consumeApproval ReleaseStore.consumeApproval
  cases hc : findCandidate id t with
  | none =>
    refine alike_missing h hn "Release candidate not found" (.inr (by simp [rephrasings]))
      (by simp [rephrasings]) ?_
    rw [← h.candidates, hc]
    rfl
  | some c =>
    refine alike_found hn hc ?_
    rw [← h.candidates, hc]
    dsimp only
    cases consumableApproval c with
    | none => exact alike_error h hn (.inl rfl)
    | some approvalId =>
      refine alike_bind h hn fun _ => alike_guard h hn (.inl rfl) (alike_ok ?_ ?_ _)
      · exact h.candidateSet (f := consumedNow host now) (fun _ => rfl) hc
      · exact hn.candidateSet hc rfl

theorem onContinuations_bind {β : Type} {x : Except String β}
    {k : β → Except String (α × Continuations)} :
    onContinuations t (x >>= k) = x >>= fun b => onContinuations t (k b) := by
  cases x <;> rfl

theorem createContinuationApproval_alike (h : SameRecords t t') (hn : Named t)
    {approval : ContinuationApproval}
    (htrim : trim approval.continuationId = approval.continuationId) (now : ℤ) :
    Alike ((memory host).once t (.createContinuationApproval approval now))
      (step host t' (.createContinuationApproval approval now)) := by
  dsimp only [Service.once, memory, look, act, step]
  unfold createContinuationApproval Continuation.createContinuationApproval
  cases throwing "" (validateContinuationApproval host.js approval now) with
  | error e => exact alike_error h hn (.inl rfl)
  | ok _ =>
    by_cases hid : isId "continuation-" (trim approval.continuationId) = true
    · have hstep : continuationIdOrThrow approval.continuationId = .ok approval.continuationId := by
        rw [continuationIdOrThrow, if_pos hid, htrim]
      rw [hstep]
      dsimp only [bind, Except.bind]
      rw [h.continuations]
      cases hfind : find approval.continuationId t'.continuations with
      | some r => exact alike_error h hn (.inr (by simp [rephrasings]))
      | none =>
        exact @alike_ok t t' Unit (fun _ => Value.done) _ _ (h.continuationAdd hfind) hn ()
    · have hstep : continuationIdOrThrow approval.continuationId =
          .error "Invalid continuation approval id" := by
        rw [continuationIdOrThrow, if_neg hid]
      rw [hstep]
      exact alike_error h hn (.inl rfl)

theorem claimContinuationApproval_alike (h : SameRecords t t') (hn : Named t) (now : ℤ) :
    Alike ((memory host).once t (.claimContinuationApproval id now))
      (step host t' (.claimContinuationApproval id now)) := by
  dsimp only [Service.once, memory, look, act, step]
  unfold claimContinuationApproval Continuation.claimContinuationApproval
  rw [onContinuations_bind, onContinuations_bind]
  refine alike_bind h hn fun k => ?_
  rw [← h.continuations]
  cases ha : find k t.continuations with
  | none => exact alike_error h hn (.inl rfl)
  | some approval =>
    dsimp only
    rw [onContinuations_bind, onContinuations_bind]
    refine alike_bind h hn fun _ => ?_
    cases approval.status with
    | pending =>
      exact alike_ok (h.continuationSet (f := fun r => { r with status := .activating })
        (fun _ => rfl) ha) hn _
    | activating => exact alike_error h hn (.inl rfl)
    | consumed => exact alike_error h hn (.inl rfl)
    | expired => exact alike_error h hn (.inl rfl)

theorem releaseContinuationApproval_alike (h : SameRecords t t') (hn : Named t) :
    Alike ((memory host).once t (.releaseContinuationApproval id))
      (step host t' (.releaseContinuationApproval id)) := by
  dsimp only [Service.once, memory, look, act, step]
  unfold releaseContinuationApproval Continuation.releaseContinuationApproval
  rw [onContinuations_bind, onContinuations_bind]
  refine alike_bind h hn fun k => ?_
  rw [← h.continuations]
  cases ha : find k t.continuations with
  | none => exact alike_ok h hn _
  | some approval =>
    dsimp only
    by_cases hs : approval.status = .activating
    · rw [if_pos hs, if_pos hs]
      exact alike_ok (h.continuationSet (f := fun r => { r with status := .pending })
        (fun _ => rfl) ha) hn _
    · rw [if_neg hs, if_neg hs]
      exact alike_ok h hn _

theorem consumeContinuationApproval_alike (h : SameRecords t t') (hn : Named t) (now : ℤ) :
    Alike ((memory host).once t (.consumeContinuationApproval id now now))
      (step host t' (.consumeContinuationApproval id now)) := by
  dsimp only [Service.once, memory, look, act, step]
  unfold consumeContinuationApproval Continuation.consumeContinuationApproval
  rw [onContinuations_bind, onContinuations_bind]
  refine alike_bind h hn fun k => ?_
  rw [← h.continuations]
  cases ha : find k t.continuations with
  | none => exact alike_error h hn (.inl rfl)
  | some approval =>
    dsimp only
    rw [onContinuations_bind, onContinuations_bind]
    refine alike_bind h hn fun _ => ?_
    cases approval.status with
    | pending => exact alike_error h hn (.inl rfl)
    | activating =>
      have hset := h.continuationSet (f := fun r =>
        { r with status := .consumed, consumedAt := some (host.toISOString now) }) (fun _ => rfl) ha
      exact alike_ok hset hn _
    | consumed => exact alike_error h hn (.inl rfl)
    | expired => exact alike_error h hn (.inl rfl)

/-- A call that looks and acts at once answers as the transaction does. -/
theorem once_alike (host : Host) (t t' : Store) (c : Call) (h : SameRecords t t' ∧ Named t)
    (hc : Steady c) :
    Agrees ((memory host).once t c).1 (transact host t' c).1 ∧
      SameRecords ((memory host).once t c).2 (transact host t' c).2 ∧
      Named ((memory host).once t c).2 := by
  obtain ⟨h, hn⟩ := h
  cases c with
  | updatePreflight id evidence hash now generatedAt => exact updatePreflight_alike h hn ..
  | approveCandidate id uid snapshot now stampedAt uuid =>
    obtain rfl : now = stampedAt := hc
    exact approveCandidate_alike h hn ..
  | consumeApproval id ensuredAt now stampedAt =>
    obtain rfl : now = stampedAt := hc
    exact consumeApproval_alike h hn ..
  | createContinuationApproval approval now => exact createContinuationApproval_alike h hn hc now
  | claimContinuationApproval id now => exact claimContinuationApproval_alike h hn now
  | releaseContinuationApproval id => exact releaseContinuationApproval_alike h hn
  | consumeContinuationApproval id now stampedAt =>
    obtain rfl : now = stampedAt := hc
    exact consumeContinuationApproval_alike h hn now

theorem Agrees.toBool_eq {a a' : Answer} (h : Agrees a a') : a.toBool = a'.toBool := by
  rcases h with rfl | ⟨p, -, rfl, rfl⟩
  · rfl
  · rfl

theorem SameRecords.refl (t : Store) : SameRecords t t := ⟨fun _ => rfl, fun _ => rfl, fun _ => rfl⟩

theorem SameRecords.candidateStatus_eq (h : SameRecords t t') (id : String) :
    candidateStatus id t = candidateStatus id t' := by
  rw [candidateStatus, candidateStatus, h.candidates]

theorem operation_not_creates (c : Call) :
    ∀ d now, operation c = .createCandidate d now → New d := by
  intro d now h
  cases c <;> cases h

/-- A call that looks and acts at once changes the status of a candidate as a transaction does. -/
theorem once_follows (hn : Named t) {c : Call} (hc : Steady c) (id : String) :
    Follows (candidateStatus id t) (candidateStatus id ((memory host).once t c).2) := by
  obtain ⟨-, hsame, -⟩ := once_alike host t t c ⟨SameRecords.refl t, hn⟩ hc
  rw [hsame.candidateStatus_eq]
  exact step_moves.follows (operation_not_creates c)

/-- The call consumes the approval of the candidate. -/
def consumesCandidate (id : String) (c : Call) (a : Answer) : Bool := consumes id (operation c) a

theorem Agrees.consumesCandidate_eq {a a' : Answer} (h : Agrees a a') (c : Call) :
    consumesCandidate id c a = consumes id (operation c) a' := by
  have hbool := h.toBool_eq
  unfold consumesCandidate consumes
  cases operation c with
  | consumeApproval k now ensuredAt => exact congrArg (k = id && ·) hbool
  | _ => rfl

end

/-! ### Calls that overlap -/

/-- The call accepts the candidate it read. -/
def Admits (host : Host) : Call → Option ReleaseCandidate → Prop
  | .updatePreflight _ _ hash now _, some c =>
    (c.status = .pendingApproval ∨ c.status = .approved ∨ c.status = .consumed) ∧
      validateReleaseCandidate host { c with preflightEvidenceHash := hash } now {} = []
  | .approveCandidate _ _ snapshot now _ _, some c =>
    c.status = .pendingApproval ∧ validateApprovalPrerequisites host c snapshot now = []
  | .consumeApproval _ ensuredAt now _, some c =>
    (consumableApproval c).isSome = true ∧ validateReleaseCandidate host c ensuredAt {} = [] ∧
      expiredAt host c now = false
  | _, _ => False

/-- A call that accepts the candidate it read finds it unchanged when it acts. -/
def Undisturbed (host : Host) (w : World Store Call (Option ReleaseCandidate) Answer) :
    Turn Call → Prop
  | .start c => Steady c
  | .finish n => ∀ f, w.flights[n]? = some f → f.answer = none → Admits host f.call f.looked →
    look f.call w.state = f.looked

section

variable {host : Host} {t₀ : Store} {w : World Store Call (Option ReleaseCandidate) Answer}
    {i : Turn Call} {n : ℕ}

theorem throwing_error {failures : List String} (h : failures ≠ []) :
    ∃ e, throwing "" failures = .error e := ⟨_, if_neg h⟩

theorem updatePreflight_refuses {c : ReleaseCandidate} {id hash : String}
    {evidence : PreflightEvidence} {now generatedAt : ℤ}
    (h : ¬ ((c.status = .pendingApproval ∨ c.status = .approved ∨
      c.status = .consumed) ∧
      validateReleaseCandidate host { c with preflightEvidenceHash := hash } now {} = [])) :
    ∃ e, ∀ t, updatePreflight host (some c) id evidence hash now generatedAt t = .error e := by
  unfold updatePreflight
  dsimp only
  by_cases hs : c.status ≠ .pendingApproval ∧ c.status ≠ .approved ∧ c.status ≠ .consumed
  · refine ⟨"Release candidate is not pending approval", fun t => ?_⟩
    rw [if_pos hs]
    rfl
  · have hstatus : c.status = .pendingApproval ∨ c.status = .approved ∨ c.status = .consumed := by
      by_contra hno
      exact hs ⟨fun h => hno (.inl h), fun h => hno (.inr (.inl h)), fun h => hno (.inr (.inr h))⟩
    obtain ⟨e, he⟩ := throwing_error fun hvalid => h ⟨hstatus, hvalid⟩
    refine ⟨e, fun t => ?_⟩
    rw [if_neg hs, ensureCandidate, he]
    rfl

theorem approveCandidate_refuses {c : ReleaseCandidate} {id uid uuid : String}
    {snapshot : ReleaseVerificationSnapshot} {now stampedAt : ℤ}
    (h : ¬ (c.status = .pendingApproval ∧ validateApprovalPrerequisites host c snapshot now = [])) :
    ∃ e, ∀ t, approveCandidate host (some c) id uid snapshot now stampedAt uuid t = .error e := by
  unfold approveCandidate
  dsimp only
  by_cases hs : c.status ≠ .pendingApproval
  · refine ⟨"Release candidate is not pending approval", fun t => ?_⟩
    rw [if_pos hs]
    rfl
  · obtain ⟨e, he⟩ := throwing_error fun hvalid => h ⟨not_not.mp hs, hvalid⟩
    refine ⟨e, fun t => ?_⟩
    rw [if_neg hs, he]
    rfl

theorem consumeApproval_refuses {c : ReleaseCandidate} {ensuredAt now stampedAt : ℤ}
    (h : ¬ ((consumableApproval c).isSome = true ∧
      validateReleaseCandidate host c ensuredAt {} = [] ∧
      expiredAt host c now = false)) :
    ∃ e, ∀ t, consumeApproval host (some c) ensuredAt now stampedAt t = .error e := by
  unfold consumeApproval
  dsimp only
  cases ha : consumableApproval c with
  | none => exact ⟨_, fun t => rfl⟩
  | some approvalId =>
    by_cases hvalid : validateReleaseCandidate host c ensuredAt {} = []
    · have hexpired : expiredAt host c now = true := by
        by_contra hlive
        exact h ⟨by rw [ha]; rfl, hvalid, by simpa using hlive⟩
      refine ⟨"Release candidate approval has expired", fun t => ?_⟩
      dsimp only
      rw [ensureCandidate, throwing, if_pos hvalid, if_pos hexpired]
      rfl
    · obtain ⟨e, he⟩ := throwing_error hvalid
      refine ⟨e, fun t => ?_⟩
      dsimp only
      rw [ensureCandidate, he]
      rfl

theorem idle_of_error {α : Type} {value : α → Value} {c : Call} {r : Option ReleaseCandidate}
    {x : Store → Except String (α × Store)}
    (hact : ∀ t, (memory host).act c r t = transaction value (x t) t)
    (h : ∃ e, ∀ t, x t = .error e) : (memory host).Idle c r := by
  obtain ⟨e, he⟩ := h
  exact ⟨.error e, fun t => by rw [hact, he]; rfl⟩

/-- A call that refuses the candidate it read does nothing; a call on an approval reads none. -/
theorem idle_or_current {c : Call} {r : Option ReleaseCandidate} (h : ¬ Admits host c r) :
    (memory host).Idle c r ∨ ∀ t, (memory host).Current c r t := by
  cases c with
  | updatePreflight id evidence hash now generatedAt =>
    refine .inl (idle_of_error (fun _ => rfl) ?_)
    cases r with
    | none => exact ⟨_, fun _ => rfl⟩
    | some c => exact updatePreflight_refuses h
  | approveCandidate id uid snapshot now stampedAt uuid =>
    refine .inl (idle_of_error (fun _ => rfl) ?_)
    cases r with
    | none => exact ⟨_, fun _ => rfl⟩
    | some c => exact approveCandidate_refuses h
  | consumeApproval id ensuredAt now stampedAt =>
    refine .inl (idle_of_error (fun _ => rfl) ?_)
    cases r with
    | none => exact ⟨_, fun _ => rfl⟩
    | some c => exact consumeApproval_refuses h
  | createContinuationApproval _ _ => exact .inr fun _ => rfl
  | claimContinuationApproval _ _ => exact .inr fun _ => rfl
  | releaseContinuationApproval _ => exact .inr fun _ => rfl
  | consumeContinuationApproval _ _ _ => exact .inr fun _ => rfl

theorem Undisturbed.orderly (h : Undisturbed host w i) : (memory host).Orderly w i := by
  cases i with
  | start c => trivial
  | finish n =>
    intro f hf hnone
    by_cases hadmits : Admits host f.call f.looked
    · have hsame := h f hf hnone hadmits
      refine .inr ?_
      rw [Service.Current, Service.once, ← hsame]
      rfl
    · rcases idle_or_current hadmits with hidle | hcurrent
      · exact .inl hidle
      · exact .inr (hcurrent w.state)

/-- The candidates of a world are named, and its calls steady. -/
structure Sound (w : World Store Call (Option ReleaseCandidate) Answer) : Prop where
  named : Named w.state
  steady : ∀ f ∈ w.flights, Steady f.call

/-- A call that acts does nothing or what it would do with what it would see now. -/
theorem finish_cases (hok : Undisturbed host w (.finish n)) :
    ((memory host).turn w (.finish n)).2.state = w.state ∨
      ∃ f ∈ w.flights, ((memory host).turn w (.finish n)).2.state =
      ((memory host).once w.state f.call).2 := by
  by_cases hn : ∃ c r, w.flights[n]? = some ⟨c, r, none⟩
  · obtain ⟨c, r, hn⟩ := hn
    rw [turn_finish hn]
    rcases hok.orderly _ hn rfl with ⟨a, hidle⟩ | hcurrent
    · exact .inl (congrArg Prod.snd (hidle w.state))
    · exact .inr ⟨_, List.mem_of_getElem? hn, congrArg Prod.snd hcurrent⟩
  · rw [turn_finish_of_ne fun c r hf => hn ⟨c, r, hf⟩]
    exact .inl rfl

theorem sound_turn (h : Sound w) (hok : Undisturbed host w i) :
    Sound ((memory host).turn w i).2 := by
  constructor
  case named =>
    cases i with
    | start c => exact h.named
    | finish n =>
      rcases finish_cases hok with hsame | ⟨f, hf, hsame⟩
      · rw [hsame]
        exact h.named
      · rw [hsame]
        exact (once_alike host _ _ f.call ⟨SameRecords.refl _, h.named⟩ (h.steady f hf)).2.2
  case steady =>
    cases i with
    | start c =>
      intro f hf
      rcases List.mem_append.mp hf with hf | hf
      · exact h.steady f hf
      · rw [List.mem_singleton.mp hf]
        exact hok
    | finish n =>
      intro f hf
      obtain ⟨f', hf', hcall⟩ := mem_of_finish hf
      exact hcall ▸ h.steady f' hf'

theorem turn_follows (h : Sound w) (hok : Undisturbed host w i) (id : String) :
    Follows (candidateStatus id w.state) (candidateStatus id ((memory host).turn w i).2.state) := by
  cases i with
  | start c => exact .same _
  | finish n =>
    rcases finish_cases hok with hsame | ⟨f, hf, hsame⟩
    · rw [hsame]
      exact .same _
    · rw [hsame]
      exact once_follows h.named (h.steady f hf) id

end

/-- The outcomes of the calls of a run and the records at its end are those of the same calls as
transactions, in some order. -/
def Serialized (host : Host) (t₀ : Store) (ts : List (Turn Call)) : Prop :=
  ∃ calls : List (Call × Answer),
    calls.Perm (finished (run (memory host).turn ⟨t₀, []⟩ ts).2.flights) ∧
    List.Forall₂ Agrees (calls.map Prod.snd) (run (transact host) t₀ (calls.map Prod.fst)).1 ∧
    SameRecords (run (memory host).turn ⟨t₀, []⟩ ts).2.state
      (run (transact host) t₀ (calls.map Prod.fst)).2

/-- What the overlapping calls of a run come to. -/
structure OneTime (host : Host) (t₀ : Store) (ts : List (Turn Call)) : Prop where
  serialized : Serialized host t₀ ts
  /-- an approval is consumed at most once -/
  consumedOnce : ∀ id, ((finished (run (memory host).turn ⟨t₀, []⟩ ts).2.flights).countP fun p =>
    consumesCandidate id p.1 p.2) ≤ 1
  /-- the status of a candidate only goes forward -/
  follows : ∀ before i, StepOf (memory host).turn ⟨t₀, []⟩ ts before i → ∀ id,
    Follows (candidateStatus id before.state)
      (candidateStatus id ((memory host).turn before i).2.state)

theorem countP_consumes (id : String) {calls : List (Call × Answer)} {answers : List Answer}
    (h : List.Forall₂ Agrees (calls.map Prod.snd) answers) :
    (calls.countP fun p => consumesCandidate id p.1 p.2) =
      ((calls.map Prod.fst).zip answers).countP fun q => consumes id (operation q.1) q.2 := by
  induction calls generalizing answers with
  | nil => rfl
  | cons p calls ih =>
    obtain ⟨a, answers, ha, htail, rfl⟩ := List.forall₂_cons_left_iff.mp h
    rw [List.map_cons, List.zip_cons_cons, List.countP_cons, List.countP_cons, ih htail,
      ha.consumesCandidate_eq]

/-- In any order of the transactions an approval is consumed at most once. -/
theorem Serialized.consumedOnce {host : Host} {t₀ : Store} {ts : List (Turn Call)}
    (h : Serialized host t₀ ts) (id : String) :
    ((finished (run (memory host).turn ⟨t₀, []⟩ ts).2.flights).countP fun p =>
      consumesCandidate id p.1 p.2) ≤ 1 := by
  obtain ⟨calls, hperm, hanswers, -⟩ := h
  have hadmitted : Admitted (transact host) (fun _ _ => True) t₀ (calls.map Prod.fst) :=
    admitted_of_forall fun _ _ => trivial
  have honce : (History.history (transact host) t₀ (calls.map Prod.fst)).countP
      (fun e => consumes id (operation e.input) e.answer) ≤ 1 :=
    History.countP_le_one (fun (_ : Store) (_ : Call) (_ : True) _ => trivial)
      (fun t c _ _ => (step_moves.follows (operation_not_creates c)).rank_le)
      (fun t c _ _ => rank_of_consumes) trivial hadmitted
  rw [← hperm.countP_eq, countP_consumes id hanswers, ← History.history_pairs, List.countP_map]
  exact honce

/-- **The store in memory has the same one-time semantics** for calls that overlap, as long as every
call that accepts the candidate it read finds it unchanged when it acts. -/
theorem memory_serializable (host : Host) (t₀ : Store) (hnamed : Named t₀) (ts : List (Turn Call))
    (hok : Admitted (memory host).turn (Undisturbed host) ⟨t₀, []⟩ ts) : OneTime host t₀ ts := by
  have hempty : Sound ⟨t₀, []⟩ := ⟨hnamed, by simp⟩
  have hsound := run_inv (fun _ _ => sound_turn) hempty hok
  obtain ⟨calls, hperm, hrun⟩ := serializable t₀ ts (admitted_mono (fun _ _ h => h.orderly) hok)
  have hsteady : ∀ c ∈ calls.map Prod.fst, Steady c := by
    intro c hc
    obtain ⟨p, hp, rfl⟩ := List.mem_map.mp hc
    obtain ⟨f, hf, hpair⟩ := List.mem_filterMap.mp (hperm.mem_iff.mp hp)
    obtain ⟨a, -, rfl⟩ := Option.map_eq_some_iff.mp hpair
    exact hsound.steady f hf
  obtain ⟨hanswers, hrecords, -⟩ := run_sim (once_alike host) ⟨SameRecords.refl t₀, hnamed⟩ hsteady
  rw [hrun] at hanswers hrecords
  have hserialized : Serialized host t₀ ts := ⟨calls, hperm, hanswers, hrecords⟩
  refine ⟨hserialized, hserialized.consumedOnce, fun before i hstep id => ?_⟩
  obtain ⟨hbefore, hturn⟩ := run_steps (fun _ _ => sound_turn) hempty hok hstep
  exact turn_follows hbefore hturn id

/-- A store with one approved candidate. -/
def approvedStore : Store :=
  { Store.empty with candidates :=
      [approvedBy earlyHost "approval-00000000-0000-4000-8000-000000000002"
        "uid" 0 earlyCandidate] }

theorem approvedStore_named : Named approvedStore := by
  intro id c hc
  rw [← Table.key_of_lookup hc, List.mem_singleton.mp (Table.mem_of_lookup hc)]
  decide +kernel

/-- A consumption at this time. -/
def consumeAt (now : ℤ) : Call := .consumeApproval earlyCandidate.candidateId now now now

theorem look_approvedStore (now : ℤ) : look (consumeAt now) approvedStore =
    some (approvedBy earlyHost "approval-00000000-0000-4000-8000-000000000002"
      "uid" 0 earlyCandidate) := by
  change findCandidate earlyCandidate.candidateId approvedStore = _
  decide +kernel

theorem approved_expires : expiredAt earlyHost
    (approvedBy earlyHost "approval-00000000-0000-4000-8000-000000000002" "uid" 0 earlyCandidate)
    3600000 = true := by
  decide +kernel

/-- Of two consumptions of one copy the second finds that it has expired. -/
theorem memory_serializable_expired :
    OneTime earlyHost approvedStore [.start (consumeAt 0), .start (consumeAt 3600000), .finish 0,
      .finish 1] := by
  refine memory_serializable earlyHost approvedStore approvedStore_named _
    ⟨rfl, rfl, fun f hf _ _ => ?_, fun f hf _ hadmits => ?_, trivial⟩
  · obtain rfl := Option.some.inj hf
    rfl
  · rw [getElem?_of_finish (by decide)] at hf
    obtain rfl := Option.some.inj hf
    have hexpired : Admits earlyHost (consumeAt 3600000) (look (consumeAt 3600000) approvedStore) :=
      hadmits
    rw [look_approvedStore] at hexpired
    exact Bool.noConfusion (hexpired.2.2.symm.trans approved_expires)

/-- **Two consumptions of one approval**: both read the candidate before either writes, and both
succeed, which no order of the transactions gives. -/
theorem overlapping_consumptions :
    ((finished (run (memory earlyHost).turn ⟨approvedStore, []⟩
        [.start (consumeAt 0), .start (consumeAt 0), .finish 0, .finish 1]).2.flights).countP
          fun p =>
      consumesCandidate earlyCandidate.candidateId p.1 p.2) = 2 ∧
    ¬ Serialized earlyHost approvedStore
      [.start (consumeAt 0), .start (consumeAt 0), .finish 0, .finish 1] := by
  have htwice : ((finished (run (memory earlyHost).turn ⟨approvedStore, []⟩
      [.start (consumeAt 0), .start (consumeAt 0), .finish 0, .finish 1]).2.flights).countP fun p =>
      consumesCandidate earlyCandidate.candidateId p.1 p.2) = 2 := by
    decide +kernel
  refine ⟨htwice, fun hserialized => ?_⟩
  have honce := hserialized.consumedOnce earlyCandidate.candidateId
  omega

end Blessing.ControlPlane.MemoryStore
