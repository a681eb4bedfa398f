import Blessing.Lib.DateTime
import Blessing.Lib.Values

/-! # Queue records and policy enumerations

The records of `apps/agy_queue/models.py`. An enumeration is stored and sent as its `value` text;
`ofValue` reads the text back. Times are the texts `utc_iso` writes. The texts are those UTF-8 can
encode: a job with a lone surrogate in a text that is written cannot be created, both stores raise
`UnicodeEncodeError` and stay as they are. -/

namespace Blessing.Queue.Models

open Blessing.Lib Blessing.Lib.Values Blessing.Lib.DateTime

inductive JobStatus where
  | pending
  | running
  | succeeded
  | failed
  | cancelled
  deriving DecidableEq, Repr

inductive GateState where
  | ready
  | waitingAuthorization
  | waitingVerification
  | verified
  | blocked
  deriving DecidableEq, Repr

inductive JobKind where
  | readOnly
  | repoChange
  | releaseGateEvaluate
  | mainnetPreflight
  | verifyExternal
  | cloudWrite
  | tradingOrder
  | emergencyKillSwitch
  deriving DecidableEq, Repr

inductive ExternalEffectClass where
  | none
  | repoChange
  | cloudWrite
  | exchangeOrder
  | emergencyControl
  deriving DecidableEq, Repr

def JobStatus.value : JobStatus → String
  | .pending => "pending"
  | .running => "running"
  | .succeeded => "succeeded"
  | .failed => "failed"
  | .cancelled => "cancelled"

def GateState.value : GateState → String
  | .ready => "READY"
  | .waitingAuthorization => "WAITING_AUTHORIZATION"
  | .waitingVerification => "WAITING_VERIFICATION"
  | .verified => "VERIFIED"
  | .blocked => "BLOCKED"

def JobKind.value : JobKind → String
  | .readOnly => "READ_ONLY"
  | .repoChange => "REPO_CHANGE"
  | .releaseGateEvaluate => "RELEASE_GATE_EVALUATE"
  | .mainnetPreflight => "MAINNET_PREFLIGHT"
  | .verifyExternal => "VERIFY_EXTERNAL"
  | .cloudWrite => "CLOUD_WRITE"
  | .tradingOrder => "TRADING_ORDER"
  | .emergencyKillSwitch => "EMERGENCY_KILL_SWITCH"

def ExternalEffectClass.value : ExternalEffectClass → String
  | .none => "NONE"
  | .repoChange => "REPO_CHANGE"
  | .cloudWrite => "CLOUD_WRITE"
  | .exchangeOrder => "EXCHANGE_ORDER"
  | .emergencyControl => "EMERGENCY_CONTROL"

def JobStatus.ofValue : String → Option JobStatus :=
  Text.memberOf [.pending, .running, .succeeded, .failed, .cancelled] JobStatus.value

def GateState.ofValue : String → Option GateState :=
  Text.memberOf [.ready, .waitingAuthorization, .waitingVerification, .verified, .blocked]
    GateState.value

def JobKind.ofValue : String → Option JobKind :=
  Text.memberOf [.readOnly, .repoChange, .releaseGateEvaluate, .mainnetPreflight, .verifyExternal,
    .cloudWrite, .tradingOrder, .emergencyKillSwitch] JobKind.value

def ExternalEffectClass.ofValue : String → Option ExternalEffectClass :=
  Text.memberOf [.none, .repoChange, .cloudWrite, .exchangeOrder, .emergencyControl]
    ExternalEffectClass.value

/-- `JOB_EFFECT_CLASS`. -/
def jobEffectClass : JobKind → ExternalEffectClass
  | .readOnly => .none
  | .releaseGateEvaluate => .none
  | .repoChange => .repoChange
  | .mainnetPreflight => .none
  | .verifyExternal => .none
  | .cloudWrite => .cloudWrite
  | .tradingOrder => .exchangeOrder
  | .emergencyKillSwitch => .emergencyControl

/-- `utc_iso` -/
def utcIso (t : Instant) : String := String.ofList (isoMillis t ++ ['Z'])

/-- The effect classes whose jobs are never sent back to the queue: the set that
`recover_expired`, `schedule_retry`, `retry_failed` and `can_retry` each write out. -/
def ExternalEffectClass.isUnsafe : ExternalEffectClass → Bool
  | .cloudWrite | .exchangeOrder | .emergencyControl => true
  | .none | .repoChange => false

structure JobRecord where
  jobId : String
  createdAt : String
  updatedAt : String
  prompt : String
  repo : String
  baseSha : Option String
  model : String
  effort : String
  timeoutSec : ℤ
  status : JobStatus
  attempt : ℤ
  maxAttempts : ℤ
  leaseUntil : Option String
  workerId : Option String
  conversationId : Option String
  resultPath : Option String
  rawEventsPath : Option String
  errorCode : Option String
  stderr : Option String
  startedAt : Option String
  finishedAt : Option String
  branch : Option String := none
  headSha : Option String := none
  nextAttemptAt : Option String := none
  sessionKey : Option String := none
  scopeKey : Option String := none
  jobKind : JobKind := .readOnly
  externalEffectClass : ExternalEffectClass := .none
  gateState : GateState := .ready
  authorizationRef : Option String := none
  verificationJobId : Option String := none
  expectedOutputSchema : Option Dict := none
  resultJson : Option Dict := none
  deriving DecidableEq

/-- The `kind` of a request: a member of the enumeration or a text. -/
inductive KindArg where
  | member (kind : JobKind)
  | text (s : String)
  deriving DecidableEq

structure JobRequest where
  prompt : String
  repo : String
  kind : KindArg := .member .readOnly
  model : String := "gemini-3.8-flash-medium"
  effort : Option String := none
  sessionKey : Option String := none
  maxAttempts : ℤ := 3
  timeoutSec : ℤ := 300
  expectedOutputSchema : Option Json := none
  authorizationRef : Option String := none
  verificationJobId : Option String := none
  branch : Option String := none
  baseSha : Option String := none
  scopeKey : Option String := none

/-- `normalize_job_kind`, or the message of its `ValueError`. -/
def normalizeJobKind : KindArg → Except String JobKind
  | .member kind => .ok kind
  | .text s =>
    let normalized := (Text.strip s).toList.map fun c => if c == '-' then '_' else c
    match JobKind.ofValue (Text.upper (String.ofList normalized)) with
    | some kind => .ok kind
    | none => .error ("Unsupported AGY queue job kind: " ++ (Json.str s).repr)

end Blessing.Queue.Models
