import Blessing.ControlPlane.Continuation

/-! # The release store

Release candidates, the conditions on their records and on an approval, and the transactions of the
store on candidates, evidence and continuation approvals. -/

namespace Blessing.ControlPlane.ReleaseStore

open Blessing.Lib Blessing.Lib.Values Blessing.Lib.JavaScript Blessing.ControlPlane.Release
  Blessing.ControlPlane.Continuation

/-! ### Records -/

/-- What the host of the process computes. -/
structure Host where
  js : Platform
  /-- `new Date(t).toISOString()` -/
  toISOString : ℤ → String
  /-- `hashEvidence` -/
  hashEvidence : Json → String
  /-- SHA-256 in hexadecimal digits -/
  sha256 : String → String

/-- The status of a release candidate. -/
inductive CandidateStatus where
  | pendingApproval
  | approved
  | consumed
  | expired
  deriving DecidableEq

/-- The text of a status. -/
def CandidateStatus.value : CandidateStatus → String
  | .pendingApproval => "PENDING_APPROVAL"
  | .approved => "APPROVED"
  | .consumed => "CONSUMED"
  | .expired => "EXPIRED"

/-- `ReleaseCandidate`. -/
structure ReleaseCandidate where
  candidateId : String
  repoSha : String
  imageDigest : String
  workerRevision : String
  secretVersions : SecretVersionSet
  executionMode : String
  symbol : String
  preflightEvidenceHash : String
  repoGateEvidenceHash : String
  cloudGateEvidenceHash : String
  launchPolicy : String
  expiresAt : String
  nonce : String
  viteDataConnectCutover : Bool
  orderSubmissionAttempts : ℤ
  workerDisarmed : Bool
  createdAt : String
  status : CandidateStatus
  approvalId : Option String
  approvedByUid : Option String
  approvedAt : Option String
  consumedAt : Option String
  deriving DecidableEq

/-- `ReleaseCandidateInput`. -/
structure ReleaseCandidateInput where
  repoSha : String
  imageDigest : String
  workerRevision : String
  secretVersions : SecretVersionSet
  preflightEvidenceHash : String
  repoGateEvidenceHash : String
  cloudGateEvidenceHash : String
  expiresAt : String
  nonce : String

/-- `ContinuationApprovalInput`. -/
structure ContinuationApprovalInput where
  candidateId : String
  launchId : String
  initialApprovalId : String
  imageDigest : String
  workerRevision : String
  secretVersions : SecretVersionSet
  firstOrderEvidenceHash : String
  preflightObservedAt : String
  nonce : String
  requesterUid : String
  expiresAt : String

/-- `ReleaseVerificationSnapshot`. -/
structure ReleaseVerificationSnapshot where
  currentImageDigest : String
  currentWorkerRevision : String
  currentExecutionMode : String
  currentMainnetLiveApproved : Bool
  currentEngineState : String
  currentOrderSubmissionAttempts : ℤ
  currentSecretVersions : SecretVersionSet
  preflightPassed : Bool
  preflightObservedAt : String
  reconciliationStatus : String
  persistenceDurable : Bool
  dataConnectCutover : Bool
  killSwitchActive : Bool

/-- `ConsumedApproval`. -/
structure ConsumedApproval where
  candidateId : String
  approvalId : String
  imageDigest : String
  workerRevision : String
  secretVersions : SecretVersionSet
  executionMode : String
  symbol : String
  launchPolicy : String
  viteDataConnectCutover : Bool
  orderSubmissionAttempts : ℤ
  workerDisarmed : Bool
  consumedAt : String
  deriving DecidableEq

/-- The kind of an evidence record. -/
inductive EvidenceKind where
  | preflight
  | verify
  | approval
  | continuationApproval
  deriving DecidableEq

/-- What an evidence record carries. -/
inductive EvidencePayload where
  | preflight (evidence : PreflightEvidence)
  | approval (approvedByUid approvedAt : String)

/-- `ReleaseEvidenceRecord`. -/
structure ReleaseEvidenceRecord where
  candidateId : String
  kind : EvidenceKind
  generatedAt : String
  evidenceHash : String
  payload : EvidencePayload

/-- The collections of the store. -/
structure Store where
  candidates : List ReleaseCandidate
  evidence : List ReleaseEvidenceRecord
  continuations : Continuations

/-- The store before the first call. -/
def Store.empty : Store := ⟨[], [], []⟩

/-- The record of a candidate. -/
def findCandidate (id : String) (t : Store) : Option ReleaseCandidate :=
  Table.lookup ReleaseCandidate.candidateId id t.candidates

/-- `transaction.update` of a candidate. -/
def updateCandidate (id : String) (f : ReleaseCandidate → ReleaseCandidate) (t : Store) : Store :=
  { t with candidates := Table.update (fun r => r.candidateId = id) f t.candidates }

/-- `transaction.set` of an evidence document. A payload of one kind always has the same keys, so a
merge replaces it. -/
def setEvidence (record : ReleaseEvidenceRecord) (t : Store) : Store :=
  { t with evidence := Table.upsert (fun r => (r.candidateId, r.kind)) record t.evidence }

/-! ### Conditions on a candidate -/

/-- `ReleaseCandidateValidationOptions`. -/
structure ReleaseCandidateValidationOptions where
  repoGateOutput : Option Json := none
  cloudGateOutput : Option Json := none
  expectedRepoGateHash : Option String := none
  expectedCloudGateHash : Option String := none
  maxCloudGateEvidenceAgeSec : Option ℤ := none

/-- `/^[0-9a-f]{40}$/i`. -/
def isCommit (s : String) : Bool := s.length == 40 && s.toList.all isHex

section

variable (host : Host)

/-- The hash a gate output has. -/
def hashMismatch (output : Option Json) (hash message : String) : List String :=
  failing (output.any fun v => trim hash ≠ host.hashEvidence v) message

/-- The hash a gate output is expected to have: an empty one is no expectation. -/
def expectedMismatch (expected : Option String) (hash message : String) : List String :=
  failing (expected.any fun e => e ≠ "" ∧ trim hash ≠ e) message

/-- `verifyGateEvidenceMatch`. -/
def verifyGateEvidenceMatch (candidate : ReleaseCandidate) (repoTier cloudTier : Option Json) :
    List String :=
  hashMismatch host repoTier candidate.repoGateEvidenceHash
      "repoGateEvidenceHash does not match freshly-run repo gate output" ++
    hashMismatch host cloudTier candidate.cloudGateEvidenceHash
      "cloudGateEvidenceHash does not match freshly-run cloud gate output"

/-- `validateReleaseCandidate`. -/
def validateReleaseCandidate (candidate : ReleaseCandidate) (now : ℤ)
    (options : ReleaseCandidateValidationOptions) : List String :=
  let expiresAt := host.js.dateParse (trim candidate.expiresAt)
  failing (isId "rc-" (trim candidate.candidateId) = false) "candidateId is invalid" ++
    failing (isCommit (trim candidate.repoSha) = false ∧ isSha256 (trim candidate.repoSha) = false)
      "repoSha must be a commit or SHA-256 hex" ++
    failing (isImageDigest (trim candidate.imageDigest) = false) "imageDigest must be immutable" ++
    failing (isRevision (trim candidate.workerRevision) = false) "workerRevision is invalid" ++
    validateSecretVersions candidate.secretVersions ++
    failing (candidate.executionMode ≠ "LIVE") "executionMode must be LIVE" ++
    failing (candidate.symbol ≠ "ETHUSDC") "symbol must be ETHUSDC" ++
    failing (isSha256 (trim candidate.preflightEvidenceHash) = false)
      "preflightEvidenceHash must be a SHA-256 hash" ++
    failing (isSha256 (trim candidate.repoGateEvidenceHash) = false)
      "repoGateEvidenceHash must be a SHA-256 hash" ++
    failing (isSha256 (trim candidate.cloudGateEvidenceHash) = false)
      "cloudGateEvidenceHash must be a SHA-256 hash" ++
    (if options.repoGateOutput.any truthy || options.cloudGateOutput.any truthy then
      verifyGateEvidenceMatch host candidate options.repoGateOutput options.cloudGateOutput
    else
      expectedMismatch options.expectedRepoGateHash candidate.repoGateEvidenceHash
          "repoGateEvidenceHash does not match freshly-run repo gate output" ++
        expectedMismatch options.expectedCloudGateHash candidate.cloudGateEvidenceHash
          "cloudGateEvidenceHash does not match freshly-run cloud gate output") ++
    failing (candidate.launchPolicy ≠ "STAGED_FIRST_ORDER")
      "launchPolicy must be STAGED_FIRST_ORDER" ++
    failing (¬ expiresAt.any fun t => now < t)
      "release candidate is expired or has an invalid expiry" ++
    failing (expiresAt.any fun t => now + dayMillis < t)
      "release candidate expiry cannot exceed 24 hours" ++
    failing (isNonce (trim candidate.nonce) = false) "nonce is invalid" ++
    failing (candidate.viteDataConnectCutover = true)
      "VITE_DATA_CONNECT_CUTOVER must remain false" ++
    failing (candidate.orderSubmissionAttempts ≠ 0) "candidate already has order submissions" ++
    failing (candidate.workerDisarmed = false) "worker must be disarmed" ++
    failing (trim candidate.createdAt = "" ∨ host.js.dateParse (trim candidate.createdAt) = none)
      "createdAt is invalid"

/-- What a gate of a tier must say, and how old the output of the cloud tier may be. -/
def validateGateOutputSubstance (cloud : Bool) (output : Option Json) (now maxAgeSec : ℤ) :
    List String :=
  let front := (if cloud then "cloud" else "repo") ++ "GateOutput"
  match output with
  | some (.obj record) =>
    let record := Json.obj record
    failing (record.get? "overall_passed" ≠ some (.bool true))
      (front ++ ".overall_passed must be true") ++
      failing (itemsOf (record.get? "checks") = [])
        (front ++ ".checks must be a non-empty array") ++
      (if cloud then
        match host.js.dateParse (asString (record.get? "generated_at")) with
        | none => [front ++ ".generated_at must be a valid timestamp"]
        | some generatedAt =>
          let age := now - generatedAt
          failing (age < 0 ∨ maxAgeSec * 1000 < age)
            (front ++ ".generated_at is stale or in the future (age=" ++ toString
              ((age + 500) / 1000) ++
              "s, limit=" ++ toString maxAgeSec ++ "s)")
      else [])
  | _ => [front ++ " is required and must be an object"]

/-- `newReleaseCandidate`; `uuid` is the random part of the id. -/
def newReleaseCandidate (input : ReleaseCandidateInput) (now : ℤ)
    (options : ReleaseCandidateValidationOptions) (uuid : String) :
    Except String ReleaseCandidate := do
  let candidate : ReleaseCandidate :=
    { candidateId := "rc-" ++ uuid
      repoSha := trim input.repoSha
      imageDigest := trim input.imageDigest
      workerRevision := trim input.workerRevision
      secretVersions :=
        { sql := trim input.secretVersions.sql
          apiKey := trim input.secretVersions.apiKey
          apiSecret := trim input.secretVersions.apiSecret }
      executionMode := "LIVE"
      symbol := "ETHUSDC"
      preflightEvidenceHash := trim input.preflightEvidenceHash
      repoGateEvidenceHash := trim input.repoGateEvidenceHash
      cloudGateEvidenceHash := trim input.cloudGateEvidenceHash
      launchPolicy := "STAGED_FIRST_ORDER"
      expiresAt := trim input.expiresAt
      nonce := trim input.nonce
      viteDataConnectCutover := false
      orderSubmissionAttempts := 0
      workerDisarmed := true
      createdAt := host.toISOString now
      status := .pendingApproval
      approvalId := none
      approvedByUid := none
      approvedAt := none
      consumedAt := none }
  let maxAgeSec := options.maxCloudGateEvidenceAgeSec.getD 86400
  throwing "" (validateReleaseCandidate host candidate now options ++
    validateGateOutputSubstance host false options.repoGateOutput now maxAgeSec ++
    validateGateOutputSubstance host true options.cloudGateOutput now maxAgeSec)
  return candidate

/-- `newContinuationApproval`; `uuid` is the random part of the id. -/
def newContinuationApproval (input : ContinuationApprovalInput) (now : ℤ) (uuid : String) :
    Except String ContinuationApproval := do
  let approval : ContinuationApproval :=
    { continuationId := "continuation-" ++ uuid
      candidateId := trim input.candidateId
      launchId := trim input.launchId
      initialApprovalId := trim input.initialApprovalId
      imageDigest := trim input.imageDigest
      workerRevision := trim input.workerRevision
      secretVersions :=
        { sql := trim input.secretVersions.sql
          apiKey := trim input.secretVersions.apiKey
          apiSecret := trim input.secretVersions.apiSecret }
      firstOrderEvidenceHash := trim input.firstOrderEvidenceHash
      reconciliationStatus := "IN_SYNC"
      preflightObservedAt := trim input.preflightObservedAt
      nonce := trim input.nonce
      requesterUid := trim input.requesterUid
      createdAt := host.toISOString now
      expiresAt := trim input.expiresAt
      status := .pending
      consumedAt := none }
  throwing "" (validateContinuationApproval host.js approval now)
  return approval

/-- `validateApprovalPrerequisites`, with evidence of at most a minute. -/
def validateApprovalPrerequisites (candidate : ReleaseCandidate)
    (snapshot : ReleaseVerificationSnapshot) (now : ℤ) : List String :=
  validateReleaseCandidate host candidate now {} ++
    failing (candidate.status ≠ .pendingApproval ∧ candidate.status ≠ .approved ∧
        candidate.status ≠ .consumed)
      ("candidate status is " ++ candidate.status.value) ++
    failing (snapshot.currentImageDigest ≠ candidate.imageDigest)
      "worker image digest does not match candidate" ++
    failing (snapshot.currentWorkerRevision ≠ candidate.workerRevision)
      "worker revision does not match candidate" ++
    failing (snapshot.currentExecutionMode ≠ "LIVE") "worker execution mode is not LIVE" ++
    failing (snapshot.currentMainnetLiveApproved = true)
      "worker is already Mainnet-approved; approval cannot be replayed" ++
    failing (snapshot.currentEngineState ≠ "DISARMED")
      "worker must remain DISARMED before approval" ++
    failing (snapshot.currentOrderSubmissionAttempts ≠ 0) "worker has already attempted an order" ++
    validateSecretVersionMatch candidate.secretVersions snapshot.currentSecretVersions ++
    failing (snapshot.preflightPassed = false ∨
        recentEnough host.js snapshot.preflightObservedAt now 60 = false)
      "Mainnet preflight evidence is missing, failed, or stale" ++
    failing (snapshot.reconciliationStatus ≠ "IN_SYNC") "reconciliation is not IN_SYNC" ++
    failing (snapshot.persistenceDurable = false) "required persistence is not durable" ++
    failing (snapshot.dataConnectCutover = true) "Data Connect cutover must remain disabled" ++
    failing (snapshot.killSwitchActive = true) "kill switch state requires explicit explanation"

/-! ### Transactions on candidates -/

/-- `ensureCandidate`. -/
def ensureCandidate (candidate : ReleaseCandidate) (now : ℤ) : Except String Unit :=
  throwing "" (validateReleaseCandidate host candidate now {})

/-- `candidateIdOrThrow`. -/
def candidateIdOrThrow (candidateId : String) : Except String String :=
  if isId "rc-" candidateId then .ok candidateId else .error "Invalid release candidate id"

/-- `createCandidate`: a record that exists is not replaced. -/
def createCandidate (candidate : ReleaseCandidate) (now : ℤ) (t : Store) :
    Except String (Unit × Store) := do
  ensureCandidate host candidate now
  let id ← candidateIdOrThrow candidate.candidateId
  if (findCandidate id t).isSome then
    throw "Document already exists"
  return ((), { t with candidates := t.candidates ++ [candidate] })

/-- The evidence record of a preflight. -/
def preflightRecord (candidateId : String) (evidence : PreflightEvidence) (evidenceHash : String)
    (generatedAt : ℤ) : ReleaseEvidenceRecord :=
  { candidateId
    kind := .preflight
    generatedAt := host.toISOString generatedAt
    evidenceHash
    payload := .preflight evidence }

/-- `updatePreflight`; `generatedAt` is the clock before the transaction, `now` the clock inside. -/
def updatePreflight (candidateId : String) (evidence : PreflightEvidence) (evidenceHash : String)
    (generatedAt now : ℤ) (t : Store) : Except String (ReleaseCandidate × Store) := do
  let id ← candidateIdOrThrow candidateId
  match findCandidate id t with
  | none => throw "Release candidate not found"
  | some candidate =>
    if candidate.status ≠ .pendingApproval ∧ candidate.status ≠ .approved ∧
        candidate.status ≠ .consumed then
      throw "Release candidate is no longer pending approval"
    let next := { candidate with preflightEvidenceHash := evidenceHash }
    ensureCandidate host next now
    return (next, setEvidence (preflightRecord host id evidence evidenceHash generatedAt)
      (updateCandidate id (fun r => { r with preflightEvidenceHash := evidenceHash }) t))

/-- A candidate with its approval. -/
def approvedBy (approvalId uid : String) (now : ℤ) (r : ReleaseCandidate) : ReleaseCandidate :=
  { r with
    status := .approved
    approvalId := some approvalId
    approvedByUid := some uid
    approvedAt := some (host.toISOString now) }

/-- The evidence record of an approval. -/
def approvalRecord (candidateId approvalId uid : String) (now : ℤ) : ReleaseEvidenceRecord :=
  { candidateId
    kind := .approval
    generatedAt := host.toISOString now
    evidenceHash := host.sha256 (candidateId ++ ":" ++ approvalId)
    payload := .approval uid (host.toISOString now) }

/-- `approveCandidate`; `uuid` is the random part of the approval id. -/
def approveCandidate (candidateId uid : String) (snapshot : ReleaseVerificationSnapshot) (now : ℤ)
    (uuid : String) (t : Store) : Except String (ReleaseCandidate × Store) := do
  let id ← candidateIdOrThrow candidateId
  match findCandidate id t with
  | none => throw "Release candidate not found"
  | some candidate =>
    if candidate.status ≠ .pendingApproval then
      throw "Release candidate is no longer pending approval"
    throwing "" (validateApprovalPrerequisites host candidate snapshot now)
    let approvalId := "approval-" ++ uuid
    return (approvedBy host approvalId uid now candidate,
      setEvidence (approvalRecord host id approvalId uid now)
        (updateCandidate id (approvedBy host approvalId uid now) t))

/-- The approval taken from a candidate. -/
def consumedFrom (candidate : ReleaseCandidate) (approvalId : String) (now : ℤ) :
    ConsumedApproval :=
  { candidateId := candidate.candidateId
    approvalId
    imageDigest := candidate.imageDigest
    workerRevision := candidate.workerRevision
    secretVersions := candidate.secretVersions
    executionMode := candidate.executionMode
    symbol := candidate.symbol
    launchPolicy := candidate.launchPolicy
    viteDataConnectCutover := candidate.viteDataConnectCutover
    orderSubmissionAttempts := candidate.orderSubmissionAttempts
    workerDisarmed := candidate.workerDisarmed
    consumedAt := host.toISOString now }

/-- A candidate whose approval is consumed. -/
def consumedNow (now : ℤ) (r : ReleaseCandidate) : ReleaseCandidate :=
  { r with status := .consumed, consumedAt := some (host.toISOString now) }

/-- The approval id of a candidate that has one to consume. -/
def consumableApproval (candidate : ReleaseCandidate) : Option String :=
  if candidate.status = .approved then candidate.approvalId.filter (· ≠ "") else none

/-- `Date.parse(candidate.expiresAt) <= now`, which no invalid date is. -/
def expiredAt (candidate : ReleaseCandidate) (now : ℤ) : Bool :=
  (host.js.dateParse candidate.expiresAt).any fun t => t ≤ now

/-- `consumeApproval`; `now` is the clock before the transaction, `ensuredAt` the clock inside. -/
def consumeApproval (candidateId : String) (now ensuredAt : ℤ) (t : Store) :
    Except String (ConsumedApproval × Store) := do
  let id ← candidateIdOrThrow candidateId
  match findCandidate id t with
  | none => throw "Release candidate not found"
  | some candidate =>
    match consumableApproval candidate with
    | none => throw "Release candidate has no consumable approval"
    | some approvalId =>
      ensureCandidate host candidate ensuredAt
      if expiredAt host candidate now = true then
        -- the update to `EXPIRED` is lost with the transaction the exception aborts
        throw "Release candidate approval has expired"
      return (consumedFrom host candidate approvalId now,
        updateCandidate id (consumedNow host now) t)

/-! ### Runs -/

/-- A call with its readings of the clock and its random id. -/
inductive Operation where
  | createCandidate (candidate : ReleaseCandidate) (now : ℤ)
  | updatePreflight (candidateId : String) (evidence : PreflightEvidence) (evidenceHash : String)
      (generatedAt now : ℤ)
  | approveCandidate (candidateId uid : String) (snapshot : ReleaseVerificationSnapshot) (now : ℤ)
      (uuid : String)
  | consumeApproval (candidateId : String) (now ensuredAt : ℤ)
  | createContinuationApproval (approval : ContinuationApproval) (now : ℤ)
  | claimContinuationApproval (continuationId : String) (now : ℤ)
  | releaseContinuationApproval (continuationId : String)
  | consumeContinuationApproval (continuationId : String) (now : ℤ)

/-- What a call gives. -/
inductive Value where
  | done
  | candidate (candidate : ReleaseCandidate)
  | consumed (approval : ConsumedApproval)
  | continuation (approval : ContinuationApproval)
  deriving DecidableEq

/-- What a call gives, or the message of its exception. -/
abbrev Answer := Except String Value

/-- A transaction: an exception leaves the store as it was. -/
def transaction {α : Type} (value : α → Value) (x : Except String (α × Store)) (t : Store) :
    Answer × Store :=
  match x with
  | .ok (a, t') => (.ok (value a), t')
  | .error e => (.error e, t)

/-- A transaction on the continuation approvals. -/
def onContinuations {α : Type} (t : Store) (x : Except String (α × Continuations)) :
    Except String (α × Store) :=
  x.map fun r => (r.1, { t with continuations := r.2 })

/-- One call, as one transaction. -/
def step (t : Store) : Operation → Answer × Store
  | .createCandidate candidate now =>
    transaction (fun _ => .done) (createCandidate host candidate now t) t
  | .updatePreflight id evidence evidenceHash generatedAt now =>
    transaction .candidate (updatePreflight host id evidence evidenceHash generatedAt now t) t
  | .approveCandidate id uid snapshot now uuid =>
    transaction .candidate (approveCandidate host id uid snapshot now uuid t) t
  | .consumeApproval id now ensuredAt =>
    transaction .consumed (consumeApproval host id now ensuredAt t) t
  | .createContinuationApproval approval now =>
    transaction (fun _ => .done)
      (onContinuations t ((createContinuationApproval host.js approval now t.continuations).map ((),
        ·))) t
  | .claimContinuationApproval id now =>
    transaction .continuation
      (onContinuations t (claimContinuationApproval host.js id now t.continuations)) t
  | .releaseContinuationApproval id =>
    transaction (fun _ => .done)
      (onContinuations t (releaseContinuationApproval id t.continuations)) t
  | .consumeContinuationApproval id now =>
    transaction .continuation
      (onContinuations t
        (consumeContinuationApproval host.js host.toISOString id now t.continuations)) t

end

end Blessing.ControlPlane.ReleaseStore
