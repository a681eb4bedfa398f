import Blessing.Lib.JavaScript
import Blessing.Lib.Regex

/-! # Continuation approvals and their gate

A continuation approval, the conditions on its record, and the gate in front of a continuation: what
the Worker answers is cut down to evidence, put together with the state of the Worker, and compared
with the approval. -/

namespace Blessing.ControlPlane.Release

open Blessing.Lib Blessing.Lib.Values Blessing.Lib.JavaScript

/-! ### What the engine decides -/

/-- The conversions left to the engine, and the environment of the process. -/
structure Platform where
  numberText : Json → String
  /-- `Number(s)` where that is an integer -/
  numeric : String → Option ℤ
  /-- `Date.parse(s)` in milliseconds, nothing for `NaN` -/
  dateParse : String → Option ℤ
  /-- `process.env.VITE_DATA_CONNECT_CUTOVER` -/
  dataConnectCutover : Option String

/-! ### Records -/

/-- `SecretVersionSet`. -/
structure SecretVersionSet where
  sql : String
  apiKey : String
  apiSecret : String
  deriving DecidableEq

/-- `ContinuationApprovalStatus`. -/
inductive ContinuationApprovalStatus where
  | pending
  | activating
  | consumed
  | expired
  deriving DecidableEq

/-- The text of a status. -/
def ContinuationApprovalStatus.value : ContinuationApprovalStatus → String
  | .pending => "PENDING"
  | .activating => "ACTIVATING"
  | .consumed => "CONSUMED"
  | .expired => "EXPIRED"

/-- `ContinuationApproval`. -/
structure ContinuationApproval where
  continuationId : String
  candidateId : String
  launchId : String
  initialApprovalId : String
  imageDigest : String
  workerRevision : String
  secretVersions : SecretVersionSet
  firstOrderEvidenceHash : String
  reconciliationStatus : String
  preflightObservedAt : String
  nonce : String
  requesterUid : String
  createdAt : String
  expiresAt : String
  status : ContinuationApprovalStatus
  consumedAt : Option String
  deriving DecidableEq

/-! ### Shapes of texts -/

/-- `[0-9a-f]` without regard to case. -/
def isHex (c : Char) : Bool := c.isDigit || ('a' ≤ c.toLower && c.toLower ≤ 'f')

/-- `[A-Za-z0-9-]`. -/
def isNameChar (c : Char) : Bool := c.isAlphanum || c == '-'

/-- `/^<front>[0-9a-f-]{36}$/i`. -/
def isId (front s : String) : Bool :=
  let cs := s.toList
  front.toList.isPrefixOf (cs.map Char.toLower) &&
    (cs.drop front.length).length == 36 && (cs.drop front.length).all fun c => isHex c || c == '-'

/-- `LAUNCH_ID_RE`. -/
def isLaunchId (s : String) : Bool :=
  let rest := s.toList.drop "launch-".length
  "launch-".toList.isPrefixOf s.toList && 8 ≤ rest.length && rest.length ≤ 127 &&
    rest.all isNameChar

/-- `SHA256_RE`. -/
def isSha256 (s : String) : Bool := s.length == 64 && s.toList.all isHex

/-- `IMAGE_DIGEST_RE`. -/
def isImageDigest (s : String) : Bool :=
  let cs := s.toList
  let front := cs.take (cs.length - 72)
  let back := cs.drop (cs.length - 72)
  !front.isEmpty && front.all (fun c => c != '\n' && c != '\r' && c.toNat != 0x2028 &&
      c.toNat != 0x2029) &&
    "@sha256:".toList.isPrefixOf (back.map Char.toLower) && (back.drop 8).length == 64 &&
    (back.drop 8).all isHex

/-- `REVISION_RE`. -/
def isRevision (s : String) : Bool :=
  match s.toList with
  | [] => false
  | c :: cs => c.isAlphanum && cs.length ≤ 62 && cs.all isNameChar

/-- `NONCE_RE`. -/
def isNonce (s : String) : Bool :=
  16 ≤ s.length && s.length ≤ 128 && s.toList.all fun c => isNameChar c || c == '_'

/-- `UID_RE`. -/
def isUid (s : String) : Bool :=
  1 ≤ s.length && s.length ≤ 256 && s.toList.all fun c => isNameChar c || c == '_' || c == ':'

/-- `isNumericSecretVersion`. -/
def isNumericSecretVersion (s : String) : Bool :=
  match s.toList with
  | [] => false
  | c :: cs => c.isDigit && c != '0' && cs.all Char.isDigit

/-! ### Conditions on a record -/

/-- `if (c) failures.push(message)`. -/
def failing (c : Prop) [Decidable c] (message : String) : List String := if c then [message] else []

theorem failing_eq_nil {c : Prop} [Decidable c] {message : String} :
    failing c message = [] ↔ ¬ c := by
  unfold failing
  split_ifs with h <;> simp [h]

/-- `validateSecretVersions` of a set with its three keys. -/
def validateSecretVersions (versions : SecretVersionSet) : List String :=
  failing (isNumericSecretVersion versions.sql = false) "secretVersions.sql must be numeric" ++
    failing (isNumericSecretVersion versions.apiKey = false)
      "secretVersions.apiKey must be numeric" ++
    failing (isNumericSecretVersion versions.apiSecret = false)
      "secretVersions.apiSecret must be numeric"

/-- The milliseconds of a day. -/
def dayMillis : ℤ := 24 * 60 * 60 * 1000

section

variable (js : Platform)

/-- `validateContinuationApproval`. A status of the type is one of the four. -/
def validateContinuationApproval (approval : ContinuationApproval) (now : ℤ) : List String :=
  let preflightObservedAt := js.dateParse (trim approval.preflightObservedAt)
  let createdAt := js.dateParse (trim approval.createdAt)
  let expiresAt := js.dateParse (trim approval.expiresAt)
  failing (isId "continuation-" (trim approval.continuationId) = false)
    "continuationId is invalid" ++
    failing (isId "rc-" (trim approval.candidateId) = false) "candidateId is invalid" ++
    failing (isLaunchId (trim approval.launchId) = false) "launchId is invalid" ++
    failing (isId "approval-" (trim approval.initialApprovalId) = false)
      "initialApprovalId is invalid" ++
    failing (isImageDigest (trim approval.imageDigest) = false) "imageDigest must be immutable" ++
    failing (isRevision (trim approval.workerRevision) = false) "workerRevision is invalid" ++
    validateSecretVersions approval.secretVersions ++
    failing (isSha256 (trim approval.firstOrderEvidenceHash) = false)
      "firstOrderEvidenceHash must be a SHA-256 hash" ++
    failing (approval.reconciliationStatus ≠ "IN_SYNC") "reconciliationStatus must be IN_SYNC" ++
    failing (¬ preflightObservedAt.any fun t => t ≤ now)
      "preflight evidence is missing or from the future" ++
    failing (isNonce (trim approval.nonce) = false) "nonce is invalid" ++
    failing (isUid (trim approval.requesterUid) = false) "requesterUid is invalid" ++
    failing (createdAt = none) "createdAt is invalid" ++
    failing (¬ expiresAt.any fun t => now < t)
      "continuation approval is expired or has an invalid expiry" ++
    failing (expiresAt.any fun t => now + dayMillis < t)
      "continuation approval expiry cannot exceed 24 hours"

/-! ### Evidence -/

/-- `asString`. -/
def asString : Option Json → String
  | some (.str s) => trim s
  | _ => ""

/-- `String(v || '').trim()`. -/
def trimmedText (v : Option Json) : Option String := (textOrEmpty js.numberText v).map trim

/-- The property is the value `true`. -/
def isTrue (v : Option Json) : Bool := v == some (.bool true)

/-- The pattern of a text that names a credential and its value. -/
def credentialPattern : Regex.Pattern :=
  .seq
    (.group 1 (Regex.alts
      [Regex.litCI "authorization",
       Regex.seqs [Regex.litCI "api", Regex.opt (.oneOf ['-', '_', ' ']), Regex.litCI "key"],
       Regex.seqs [Regex.litCI "api", Regex.opt (.oneOf ['-', '_', ' ']), Regex.litCI "secret"],
       Regex.litCI "password", Regex.litCI "token", Regex.litCI "dsn"]))
    (Regex.seqs
      [.star (.cls isSpace), .oneOf [':', '='], .star (.cls isSpace),
       Regex.plus (.cls fun c => c != ',' && c != ';' && !isSpace c)])

/-- The replacement of such texts, cut to 500 characters. -/
def redacted (s : String) : String :=
  slice 500 (String.ofList
    (Regex.sub credentialPattern (fun m => m.group 1 ++ "=<redacted>".toList) s.toList))

/-- The verdict of a check. -/
inductive CheckStatus where
  | pass
  | fail
  deriving DecidableEq

/-- The verdict a value stands for. -/
def checkStatus : Option Json → Option CheckStatus
  | some (.str "PASS") => some .pass
  | some (.str "FAIL") => some .fail
  | _ => none

/-- A check of the evidence. -/
structure Check where
  id : String
  name : String
  required : Bool
  status : CheckStatus
  message : String
  deriving DecidableEq

/-- The members of an array, none of another value. -/
def itemsOf : Option Json → List Json
  | some (.arr xs) => xs
  | _ => []

/-- `check.required !== false`. -/
def isRequired (check : Json) : Bool := check.get? "required" != some (.bool false)

/-- `SanitizedPreflightEvidence`. -/
structure PreflightEvidence where
  preflightPassed : Bool
  orderSubmissionAttempts : ℤ
  orderEndpointAttempts : ℤ
  observedAt : String
  checks : List Check

/-- A check of the preflight as the gate keeps it. -/
def sanitizePreflightCheck (check : Json) : Option Check :=
  (checkStatus (check.get? "status")).bind fun status =>
    if asString (check.get? "id") = "" ∨ asString (check.get? "name") = "" then none
    else some
      { id := slice 80 (asString (check.get? "id"))
        name := redacted (asString (check.get? "name"))
        required := isRequired check
        status
        message := redacted (asString (check.get? "message")) }

/-- An integer that is not negative, or the fallback. -/
def intOr (fallback : ℤ) (v : Option Json) : Option ℤ :=
  (number js.numberText js.numeric v).map fun n =>
    match n with
    | some n => if 0 ≤ n then n else fallback
    | none => fallback

/-- `sanitizePreflightEvidence`, nothing where it throws. -/
def sanitizePreflightEvidence (raw : Json) : Option PreflightEvidence := do
  let checks := (itemsOf (raw.get? "checks")).filterMap sanitizePreflightCheck
  let orderSubmissionAttempts ← intOr js (-1)
    (firstDefined (raw.get? "orderSubmissionAttempts") (raw.get? "order_submission_attempts"))
  let orderEndpointAttempts ← intOr js (-1)
    (firstDefined (raw.get? "orderEndpointAttempts") (raw.get? "order_endpoint_attempts"))
  return {
    preflightPassed := isTrue (raw.get? "preflightPassed") || isTrue (raw.get? "preflight_passed")
    orderSubmissionAttempts
    orderEndpointAttempts
    observedAt := asString (firstTruthy (raw.get? "observedAt") (raw.get? "observed_at"))
    checks }

/-- `secretVersionsFromState`, nothing where it throws. -/
def secretVersionsFromState (versions : Json) : Option SecretVersionSet := do
  let sql ← textOrEmpty js.numberText (versions.get? "sql")
  let apiKey ← textOrEmpty js.numberText (versions.get? "apiKey")
  let apiSecret ← textOrEmpty js.numberText (versions.get? "apiSecret")
  return { sql, apiKey, apiSecret }

/-- What `sanitizeContinuationReadiness` returns. -/
structure ContinuationReadiness where
  continuationReady : Bool
  launchId : String
  launchPolicy : String
  launchState : String
  mainnetLiveApproved : Bool
  engineState : String
  submittedOrders : ℤ
  reservedOrders : ℤ
  preflightPassed : Bool
  preflightOrderSubmissionAttempts : ℤ
  preflightOrderEndpointAttempts : ℤ
  secretVersions : SecretVersionSet
  persistenceDurable : Bool
  preflight : PreflightEvidence
  checks : List Check
  observedAt : String

/-- A check of the readiness as the gate keeps it, nothing where a text cannot be formed. -/
def sanitizeReadinessCheck (check : Json) : Option (List Check) :=
  match checkStatus (check.get? "status") with
  | none => some []
  | some status => do
    let id ← trimmedText js (check.get? "id")
    let name ← trimmedText js (check.get? "name")
    if slice 80 id = "" ∨ slice 160 name = "" then
      return []
    let message ← textOrEmpty js.numberText (check.get? "message")
    return [{
      id := slice 80 id
      name := slice 160 name
      required := isRequired check
      status
      message := redacted message }]

/-- `sanitizeContinuationReadiness`, nothing where it throws. -/
def sanitizeContinuationReadiness (raw : Json) : Option ContinuationReadiness := do
  let checks ← (itemsOf (raw.get? "checks")).mapM (sanitizeReadinessCheck js)
  let preflight ← sanitizePreflightEvidence js (raw.get "preflight")
  let launchId ← trimmedText js (raw.get? "launchId")
  let launchPolicy ← trimmedText js (raw.get? "launchPolicy")
  let launchState ← trimmedText js (raw.get? "launchState")
  let engineState ← trimmedText js (raw.get? "engineState")
  let submittedOrders ← intOr js 0 (raw.get? "submittedOrders")
  let reservedOrders ← intOr js 0 (raw.get? "reservedOrders")
  let preflightOrderSubmissionAttempts ← intOr js (-1) (raw.get? "preflightOrderSubmissionAttempts")
  let preflightOrderEndpointAttempts ← intOr js (-1) (raw.get? "preflightOrderEndpointAttempts")
  let secretVersions ← secretVersionsFromState js (raw.get "secretVersions")
  let observedAt ← trimmedText js (raw.get? "observedAt")
  return {
    continuationReady := isTrue (raw.get? "continuationReady")
    launchId
    launchPolicy
    launchState
    mainnetLiveApproved := isTrue (raw.get? "mainnetLiveApproved")
    engineState
    submittedOrders
    reservedOrders
    preflightPassed := isTrue (raw.get? "preflightPassed")
    preflightOrderSubmissionAttempts
    preflightOrderEndpointAttempts
    secretVersions
    persistenceDurable := isTrue (raw.get? "persistenceDurable")
    preflight
    checks := checks.flatten
    observedAt }

/-- `resolveReconciliationStatus`, nothing where it throws. -/
def resolveReconciliationStatus (checks : List Check) (cached : Option Json) : Option String :=
  match (checks.find? fun check => check.id = "CHK-PREFLIGHT-RECONCILIATION").map Check.status with
  | some .pass => some "IN_SYNC"
  | some .fail => some "DRIFT_DETECTED"
  | none => textOrEmpty js.numberText cached

/-! ### The gate -/

/-- `ContinuationVerificationSnapshot`. -/
structure ContinuationVerificationSnapshot where
  currentImageDigest : String
  currentWorkerRevision : String
  currentExecutionMode : String
  currentMainnetLiveApproved : Bool
  currentEngineState : String
  currentLaunchId : String
  currentLaunchPolicy : String
  currentLaunchState : String
  currentContinuationApprovalId : Option String
  currentSubmittedOrders : ℤ
  currentSecretVersions : SecretVersionSet
  preflightPassed : Bool
  preflightObservedAt : String
  preflightOrderEndpointAttempts : ℤ
  preflightOrderSubmissionAttempts : ℤ
  reconciliationStatus : String
  persistenceDurable : Bool
  dataConnectCutover : Bool
  killSwitchActive : Bool

/-- A text, nothing for another value. -/
def textOf : Option Json → Option String
  | some (.str s) => some s
  | _ => none

/-- `continuationVerificationSnapshot`, nothing where it throws. -/
def continuationVerificationSnapshot (evidence : ContinuationReadiness) (workerState : Json) :
    Option ContinuationVerificationSnapshot := do
  let text (k : String) := textOrEmpty js.numberText (workerState.get? k)
  let workerImageDigest ← trimmedText js (workerState.get? "worker_image_digest")
  let workerRevision ← trimmedText js (workerState.get? "worker_revision")
  let currentExecutionMode ← text "execution_mode"
  let currentEngineState ← text "engine_state"
  let currentLaunchId ← text "mainnet_launch_id"
  let currentLaunchPolicy ← text "mainnet_launch_policy"
  let currentLaunchState ← text "mainnet_launch_state"
  let currentSecretVersions ← secretVersionsFromState js (workerState.get "secret_versions")
  let reconciliationStatus ←
    resolveReconciliationStatus js evidence.preflight.checks
      (workerState.get? "reconciliation_status")
  return {
    currentImageDigest := workerImageDigest
    currentWorkerRevision := workerRevision
    currentExecutionMode
    currentMainnetLiveApproved := isTrue (workerState.get? "mainnet_live_approved")
    currentEngineState
    currentLaunchId
    currentLaunchPolicy
    currentLaunchState
    currentContinuationApprovalId := textOf (workerState.get? "mainnet_continuation_approval_id")
    currentSubmittedOrders := evidence.submittedOrders
    currentSecretVersions
    preflightPassed :=
      evidence.preflightPassed &&
        (!evidence.preflight.checks.isEmpty &&
          evidence.preflight.checks.all fun check => !check.required || check.status = .pass) &&
        evidence.preflightOrderSubmissionAttempts == 0 &&
        evidence.preflightOrderEndpointAttempts == 0
    preflightObservedAt := evidence.observedAt
    preflightOrderEndpointAttempts := evidence.preflightOrderEndpointAttempts
    preflightOrderSubmissionAttempts := evidence.preflightOrderSubmissionAttempts
    reconciliationStatus
    persistenceDurable := evidence.persistenceDurable
    dataConnectCutover :=
      let setting := (js.dataConnectCutover.filter (· != "")).getD "false"
      ["1", "true", "yes", "on"].contains (Text.lower (trim setting))
    killSwitchActive := isTrue (workerState.get? "kill_switch_active") }

/-- `recentEnough`. -/
def recentEnough (timestamp : String) (now maxAgeSeconds : ℤ) : Bool :=
  (js.dateParse timestamp).any fun time => time ≤ now && now - time ≤ maxAgeSeconds * 1000

/-- `validateSecretVersionMatch`. -/
def validateSecretVersionMatch (expected actual : SecretVersionSet) : List String :=
  validateSecretVersions actual ++
    failing (expected ≠ actual) "Worker Secret Manager versions do not match the approved release"

/-- `validateContinuationPrerequisites`, with evidence of at most a minute. -/
def validateContinuationPrerequisites (approval : ContinuationApproval)
    (snapshot : ContinuationVerificationSnapshot) (now : ℤ) : List String :=
  validateContinuationApproval js approval now ++
    failing (approval.status ≠ .pending ∧ approval.status ≠ .activating)
      ("continuation approval status is " ++ approval.status.value) ++
    failing (snapshot.currentImageDigest ≠ approval.imageDigest)
      "worker image digest does not match continuation approval" ++
    failing (snapshot.currentWorkerRevision ≠ approval.workerRevision)
      "worker revision does not match continuation approval" ++
    failing (snapshot.currentExecutionMode ≠ "LIVE") "worker execution mode is not LIVE" ++
    failing (snapshot.currentMainnetLiveApproved = false) "worker is not Mainnet-approved" ++
    failing (snapshot.currentEngineState ∉ ["PAUSED_NEW_RISK", "DISARMED"])
      "worker must be paused or disarmed before continuation" ++
    failing (snapshot.currentLaunchId ≠ approval.launchId)
      "launch id does not match continuation approval" ++
    failing (snapshot.currentLaunchPolicy ∉ ["STAGED_FIRST_ORDER", "AUTONOMOUS_AFTER_REVIEW"])
      "launch policy is not a supported continuation policy" ++
    failing (snapshot.currentLaunchState ∉ ["PAUSED_NEW_RISK", "REAUTH_REQUIRED"])
      "durable launch session is not awaiting continuation" ++
    failing (snapshot.currentSubmittedOrders < 1) "durable first-order evidence is missing" ++
    validateSecretVersionMatch approval.secretVersions snapshot.currentSecretVersions ++
    failing (snapshot.preflightPassed = false ∨
        recentEnough js snapshot.preflightObservedAt now 60 = false)
      "continuation preflight evidence is missing, failed, or stale" ++
    failing (snapshot.preflightOrderEndpointAttempts ≠ 0)
      "continuation preflight called an order endpoint" ++
    failing (snapshot.preflightOrderSubmissionAttempts ≠ 0)
      "continuation preflight attempted an order" ++
    failing (snapshot.reconciliationStatus ≠ "IN_SYNC") "reconciliation is not IN_SYNC" ++
    failing (snapshot.persistenceDurable = false) "required persistence is not durable" ++
    failing (snapshot.dataConnectCutover = true) "Data Connect cutover must remain disabled" ++
    failing (snapshot.killSwitchActive = true) "kill switch is active"

end

end Blessing.ControlPlane.Release
