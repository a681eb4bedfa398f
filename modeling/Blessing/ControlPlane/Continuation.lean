import Blessing.ControlPlane.Release
import Blessing.Lib.Handlers
import Blessing.Lib.Table

/-! # The continuation request

`POST /api/system/continue` claims a continuation approval, checks the gate, asks the Worker to go
on, reads the answer back and consumes the approval. It runs against the release store, which other
requests change between its calls, and against a Worker whose answers get lost before or after the
Worker has acted. -/

namespace Blessing.ControlPlane.Continuation

open Blessing.Lib Blessing.Lib.Values Blessing.Lib.JavaScript Blessing.Lib.Coroutine
  Blessing.Lib.Handlers Blessing.ControlPlane.Release

/-! ### The release store -/

/-- The collection `release_continuations`. -/
abbrev Continuations := List ContinuationApproval

/-- The record of an approval. -/
def find (id : String) (t : Continuations) : Option ContinuationApproval :=
  Table.lookup ContinuationApproval.continuationId id t

/-- The status of an approval. -/
def statusOf (id : String) (t : Continuations) : Option ContinuationApprovalStatus :=
  (find id t).map ContinuationApproval.status

/-- `transaction.update` of a record. -/
def setRecord (id : String) (f : ContinuationApproval → ContinuationApproval) (t : Continuations) :
    Continuations :=
  Table.update (fun r => r.continuationId = id) f t

/-- `continuationIdOrThrow`. -/
def continuationIdOrThrow (id : String) : Except String String :=
  if isId "continuation-" (trim id) then .ok (trim id)
  else .error "Invalid continuation approval id"

section

variable (js : Platform)

/-- `failures.join('; ')` as an exception. -/
def throwing (front : String) (failures : List String) : Except String Unit :=
  if failures = [] then .ok () else .error (front ++ Text.join "; " failures)

/-- `getContinuationApproval`. -/
def getContinuationApproval (id : String) (now : ℤ) (t : Continuations) :
    Except String (Option ContinuationApproval) := do
  let id ← continuationIdOrThrow id
  match find id t with
  | none => return none
  | some approval =>
    throwing "Invalid continuation approval record: " (validateContinuationApproval js approval now)
    return some approval

/-- `createContinuationApproval`: a record that exists is not replaced. -/
def createContinuationApproval (approval : ContinuationApproval) (now : ℤ) (t : Continuations) :
    Except String Continuations := do
  throwing "" (validateContinuationApproval js approval now)
  let id ← continuationIdOrThrow approval.continuationId
  if (find id t).isSome then
    throw "Document already exists"
  return t ++ [{ approval with continuationId := id }]

/-- `claimContinuationApproval`. -/
def claimContinuationApproval (id : String) (now : ℤ) (t : Continuations) :
    Except String (ContinuationApproval × Continuations) := do
  let id ← continuationIdOrThrow id
  match find id t with
  | none => throw "Continuation approval not found"
  | some approval =>
    throwing "" (validateContinuationApproval js approval now)
    match approval.status with
    | .consumed => throw "Continuation approval has already been consumed"
    | .expired => throw "Continuation approval has expired"
    | .pending =>
      return ({ approval with status := .activating },
        setRecord id (fun r => { r with status := .activating }) t)
    | .activating => throw "Continuation approval is already being activated"

/-- `releaseContinuationApproval`. -/
def releaseContinuationApproval (id : String) (t : Continuations) :
    Except String (Unit × Continuations) := do
  let id ← continuationIdOrThrow id
  match find id t with
  | none => return ((), t)
  | some approval =>
    if approval.status = .activating then
      return ((), setRecord id (fun r => { r with status := .pending }) t)
    else return ((), t)

/-- `consumeContinuationApproval`; `stamp` writes a time as text. -/
def consumeContinuationApproval (stamp : ℤ → String) (id : String) (now : ℤ) (t : Continuations) :
    Except String (ContinuationApproval × Continuations) := do
  let id ← continuationIdOrThrow id
  match find id t with
  | none => throw "Continuation approval not found"
  | some approval =>
    throwing "" (validateContinuationApproval js approval now)
    match approval.status with
    | .consumed => throw "Continuation approval has already been consumed"
    | .expired => throw "Continuation approval has expired"
    | .pending => throw "Continuation approval must be claimed before it can be consumed"
    | .activating =>
      return ({ approval with status := .consumed, consumedAt := some (stamp now) },
        setRecord id (fun r => { r with status := .consumed, consumedAt := some (stamp now) }) t)

end

/-! ### Calls -/

/-- What the handler takes from the body. -/
structure ContinueRequest where
  continuationApprovalId : String
  launchId : String
  grid : Bool
  trend : Bool
  shock : Bool
  carry : Bool
  riskProfile : String

/-- The body of the request to the Worker. -/
def payloadOf (request : ContinueRequest) (approval : ContinuationApproval) : Json :=
  .obj
    [("executionMode", .str "LIVE"),
     ("instruments", .arr [.str "ETHUSDC"]),
     ("strategies", .obj
       [("grid", .bool request.grid), ("trend", .bool request.trend),
         ("shock", .bool request.shock),
        ("carry", .bool request.carry)]),
     ("riskProfile", .str request.riskProfile),
     ("enforcePreflight", .bool true),
     ("continuationApprovalId", .str approval.continuationId),
     ("launchId", .str approval.launchId),
     ("initialApprovalId", .str approval.initialApprovalId)]

/-- A request to the Worker. -/
inductive WorkerCall where
  | stateForIdempotency
  | readiness (launchId : String)
  | latestState
  /-- `POST /continue` with the body `payloadOf` -/
  | proceed (request : ContinueRequest) (approval : ContinuationApproval)
  | disarm
  | readback

/-- What the handler waits for. -/
inductive Call where
  | getContinuationApproval (id : String)
  | getCandidate (id : String)
  | getConsumedApproval (id : String)
  | claim (id : String)
  | release (id : String)
  | consume (id : String)
  | worker (call : WorkerCall)
  | audit (metadata : Json)
  /-- `new Date()` -/
  | clock

/-- An answer of the Worker. What the Worker says about itself has no entry of the name the handler
reports the activation under. -/
structure WorkerReply where
  status : ℕ
  data : Json
  plain : data.get? "executionActivated" = none

/-- `response.ok`. -/
def WorkerReply.ok (r : WorkerReply) : Bool := 200 ≤ r.status && r.status ≤ 299

/-- What the handler reads of a release candidate. -/
structure Candidate where
  status : String
  approvalId : Option String

/-- What the handler reads of a consumed approval. -/
structure ConsumedApproval where
  imageDigest : String
  workerRevision : String

/-- What a call gives. -/
abbrev Value : Call → Type
  | .getContinuationApproval _ => Option ContinuationApproval
  | .getCandidate _ => Option Candidate
  | .getConsumedApproval _ => Option ConsumedApproval
  | .claim _ | .consume _ => ContinuationApproval
  | .release _ | .audit _ => Unit
  | .worker _ => WorkerReply
  | .clock => ℤ

/-- The answer to a call, or the message of the exception. -/
abbrev Answer (c : Call) : Type := Except String (Value c)

/-- A program of the Control Plane, which raises the message of an exception. -/
abbrev Request (α : Type) := Task Call Answer Empty Empty String α

/-- Wait for an answer. -/
def await (c : Call) : Request (Value c) := do
  raising (← ask c)

/-- `forwardWorkerRequest`. -/
def forwardWorkerRequest (call : WorkerCall) : Request WorkerReply := await (.worker call)

/-! ### The request -/

/-- The response to the browser. -/
structure Response where
  status : ℕ
  body : Dict

/-- What the response says about the activation. -/
def Response.executionActivated (r : Response) : Option Json :=
  (Json.obj r.body).get? "executionActivated"

/-- The entries of an object, none of another value: `releaseRequestObject(v) || {}`. -/
def entriesOf : Json → Dict
  | .obj kvs => kvs
  | _ => []

/-- `{ ...data, ...extra }`. -/
def spread (data : Json) (extra : Dict) : Dict :=
  (entriesOf data).filter (fun kv => !(extra.map Prod.fst).contains kv.1) ++ extra

mutual

/-- `hasCredentialLikeKey`. -/
def hasCredentialLikeKey : Json → Bool
  | .arr xs => anyCredentialLike xs
  | .obj kvs => anyCredentialLikeField kvs
  | _ => false

def anyCredentialLike : List Json → Bool
  | [] => false
  | x :: xs => hasCredentialLikeKey x || anyCredentialLike xs

def anyCredentialLikeField : Dict → Bool
  | [] => false
  | (k, x) :: kvs =>
    !(Regex.find (Regex.alts
        [Regex.seqs [Regex.litCI "api", Regex.opt (.oneOf ['-', '_', ' ']),
          .alt (Regex.litCI "key") (Regex.litCI "secret")],
         Regex.litCI "password", Regex.litCI "token", Regex.litCI "dsn",
         Regex.seqs [Regex.litCI "private", Regex.opt (.oneOf ['-', '_', ' ']), Regex.litCI "key"]])
        k.toList).isEmpty ||
      hasCredentialLikeKey x || anyCredentialLikeField kvs

end

/-- A response that refuses the body. -/
def badRequest (error : String) : Response := ⟨400, [("error", .str error)]⟩

section

variable (js : Platform)

/-- The checks on the body: a response that refuses it, or nothing where a conversion throws. -/
def readBody (body : Option Json) : ExceptT Response Option ContinueRequest := do
  let body := Json.obj ((body.map entriesOf).getD [])
  if hasCredentialLikeKey body then
    throw (badRequest "CONTINUATION_PAYLOAD_CONTAINS_CREDENTIALS")
  let continuationApprovalId := asString (body.get? "continuationApprovalId")
  let launchId := asString (body.get? "launchId")
  if isId "continuation-" continuationApprovalId = false then
    throw (badRequest "CONTINUATION_APPROVAL_ID_REQUIRED")
  if isLaunchId launchId = false then
    throw (badRequest "LAUNCH_ID_REQUIRED")
  let strategy (name : String) := isTrue ((body.get "strategies").get? name)
  let request := fun riskProfile =>
    { continuationApprovalId, launchId, grid := strategy "grid", trend := strategy "trend"
      shock := strategy "shock", carry := strategy "carry", riskProfile : ContinueRequest }
  if (strategy "grid" || strategy "trend" || strategy "shock" || strategy "carry") = false then
    throw (badRequest "CONTINUATION_STRATEGY_REQUIRED")
  let profile ← ExceptT.lift (trimmedText js
    (firstTruthy (body.get? "riskProfile") (some (.str "CONSERVATIVE"))))
  let riskProfile := Text.upper profile
  if riskProfile ∉ ["CONSERVATIVE", "BALANCED", "AGGRESSIVE"] then
    throw (badRequest "INVALID_RISK_PROFILE")
  if body.get? "executionMode" ≠ some (.str "LIVE") ∨ body.get? "enforcePreflight" ≠
    some (.bool true) then
    throw ⟨400,
      [("error", .str "INVALID_CONTINUATION_CONFIGURATION"),
       ("message", .str
         "Autonomous continuation requires executionMode=LIVE and enforcePreflight=true")]⟩
  let instruments ← ExceptT.lift (match body.get? "instruments" with
    | some (.arr xs) => (xs.mapM (text js.numberText)).map fun symbols =>
        (symbols.map fun s => Text.upper (trim s)).filter (· != "")
    | _ => some ["ETHUSDC"])
  if instruments ≠ ["ETHUSDC"] then
    throw (badRequest "CONTINUATION_SYMBOL_MUST_BE_ETHUSDC")
  return request riskProfile

/-- The state of the Worker is that of the approved continuation, nothing where the check throws. -/
def provesActivation (state : Json) (id : String) (approval : ContinuationApproval) : Option Bool :=
  if state.get? "execution_mode" = some (.str "LIVE") ∧
  state.get? "engine_state" = some (.str "ARMED") ∧
      state.get? "mainnet_live_approved" = some (.bool true) ∧
      state.get? "mainnet_launch_state" = some (.str "AUTONOMOUS_ACTIVE") ∧
      state.get? "mainnet_continuation_approval_id" = some (.str id) then do
    let digest ← trimmedText js (state.get? "worker_image_digest")
    if digest ≠ approval.imageDigest then
      return false
    let revision ← trimmedText js (state.get? "worker_revision")
    return revision = approval.workerRevision
  else some false

/-- A state read-back that proves that the Worker does not run on its own. -/
def provesStopped (reply : WorkerReply) : Option Bool :=
  if reply.ok then
    (textOrEmpty js.numberText (reply.data.get? "engine_state")).map fun engineState =>
      ["DISARMED", "EMERGENCY"].contains engineState &&
        reply.data.get? "mainnet_launch_state" != some (.str "AUTONOMOUS_ACTIVE")
  else some false

/-- A value of a conversion that can throw. -/
def converting {α : Type} (x : Option α) : Request α :=
  raising (x.elim (.error "Cannot convert object to primitive value") .ok)

/-- What a rollback found. -/
structure Rollback where
  verified : Bool
  error : Option String

/-- `rollbackAutonomousContinuation`. -/
def rollbackAutonomousContinuation : Request Rollback := do
  match ← attempt (do
    let disarm ← forwardWorkerRequest .disarm
    if disarm.ok = false then
      return Rollback.mk false
        (some ("Worker DISARM rejected with HTTP " ++ toString disarm.status))
    let readback ← forwardWorkerRequest .readback
    let verified ← converting (provesStopped js readback)
    return Rollback.mk verified
      (if verified then none else some "Worker DISARM read-back did not prove a safe state")) with
  | .ok rollback => return rollback
  | .error message => return ⟨false, some message⟩

/-- `releaseContinuationApprovalBestEffort`. -/
def releaseContinuationApprovalBestEffort (id : String) : Request Unit := do
  let _ ← attempt (await (.release id))

/-- `runContinuationReadiness`. -/
def runContinuationReadiness (launchId : String) : Request ContinuationReadiness := do
  let normalized := trim launchId
  if isLaunchId normalized = false then
    throw "Invalid continuation launch id"
  let forwarded ← forwardWorkerRequest (.readiness normalized)
  if forwarded.ok = false then
    throw "Worker rejected continuation readiness"
  converting (sanitizeContinuationReadiness js forwarded.data)

/-- The fields of a response after a rollback. -/
def rollbackFields (rollback : Rollback) : Dict :=
  [("executionActivated", .bool (!rollback.verified)),
   ("rollbackVerified", .bool rollback.verified)] ++
    (rollback.error.map fun e => ("rollbackError", Json.str e)).toList ++
    [("evidence_status", .str "UNVERIFIED")]

/-- Undo the activation and release the approval, with the response. -/
def undo (approval : ContinuationApproval) (status : ℕ) (fields : Dict) : Request Response := do
  let rollback ← rollbackAutonomousContinuation js
  releaseContinuationApprovalBestEffort approval.continuationId
  return ⟨status, fields ++ rollbackFields rollback⟩

/-- The handler after the answer of the Worker to `/continue`. -/
def confirm (approval : ContinuationApproval) (forwarded : WorkerReply) : Request Response := do
  if forwarded.ok = false then
    undo js approval forwarded.status
      [("error", .str "WORKER_REJECTED_CONTINUATION"), ("detail", forwarded.data)]
  else
    let proved ← converting (provesActivation js forwarded.data approval.continuationId approval)
    if proved = false then
      undo js approval 409
        [("error", .str "WORKER_AUTONOMOUS_READBACK_FAILED"),
         ("message", .str "Worker did not prove the approved autonomous continuation state")]
    else
      match ← attempt (await (.consume approval.continuationId)) with
      | .error _ =>
        undo js approval 503
          [("error", .str "CONTINUATION_APPROVAL_CONSUME_FAILED"),
           ("message", .str
             "Worker activation was not independently committed; rollback verification is required.")]
      | .ok consumedContinuation =>
        await (.audit (.obj
          [("launchId", .str approval.launchId), ("continuationId", .str approval.continuationId),
           ("imageDigest", .str approval.imageDigest),
           ("workerRevision", .str approval.workerRevision)]))
        return ⟨200, spread forwarded.data
          [("continuationId", .str consumedContinuation.continuationId),
           ("launchId", .str consumedContinuation.launchId),
           ("status", .str "AUTONOMOUS_ACTIVE"),
           ("evidence_status", .str "VERIFIED")]⟩

/-- The handler after the claim. -/
def activate (request : ContinueRequest) (approval : ContinuationApproval) : Request Response := do
  let readiness ← runContinuationReadiness js request.launchId
  let latestState ← forwardWorkerRequest .latestState
  if latestState.ok = false then
    throw "Worker state read-back is unavailable"
  let snapshot ← converting (continuationVerificationSnapshot js readiness latestState.data)
  let now ← await .clock
  let failures := validateContinuationPrerequisites js approval snapshot now ++
    failing (approval.launchId ≠ request.launchId) "launch id does not match continuation approval"
  if failures ≠ [] then
    releaseContinuationApprovalBestEffort approval.continuationId
    return ⟨409,
      [("error", .str "CONTINUATION_GATE_NOT_PASSED"),
       ("failures", .arr (failures.map Json.str)),
       ("evidence_status", .str "UNVERIFIED")]⟩
  else
    let forwarded ← forwardWorkerRequest (.proceed request approval)
    confirm js approval forwarded

/-- A refusal without evidence. -/
def conflict (error : String) : Response :=
  ⟨409, [("error", .str error), ("evidence_status", .str "UNVERIFIED")]⟩

/-- The handler inside its `try`. -/
def continueBody (request : ContinueRequest) : Request Response := do
  let some approval ← await (.getContinuationApproval request.continuationApprovalId)
    | return ⟨404, [("error", .str "CONTINUATION_APPROVAL_NOT_FOUND")]⟩
  let candidate ← await (.getCandidate approval.candidateId)
  if ¬ candidate.any (fun c => c.status = "CONSUMED" ∧
    c.approvalId = some approval.initialApprovalId) then
    return conflict "INITIAL_RELEASE_APPROVAL_INVALID"
  else
    let consumed ← await (.getConsumedApproval approval.initialApprovalId)
    if ¬ consumed.any (fun c => c.imageDigest = approval.imageDigest ∧
        c.workerRevision = approval.workerRevision) then
      return conflict "CONTINUATION_SCOPE_MISMATCH"
    else
      let existing ← forwardWorkerRequest .stateForIdempotency
      let alreadyActive ← converting
        (if existing.ok then
          provesActivation js existing.data request.continuationApprovalId approval
        else some false)
      if alreadyActive then
        if approval.status ≠ .consumed then
          let _ ← await (.consume request.continuationApprovalId)
        return ⟨200, spread existing.data
          [("continuationApprovalId", .str request.continuationApprovalId),
           ("launchId", .str request.launchId),
           ("status", .str "AUTONOMOUS_ACTIVE"),
           ("idempotent", .bool true),
           ("evidence_status", .str "VERIFIED")]⟩
      else if approval.status = .consumed ∨ approval.status = .expired then
        return conflict "CONTINUATION_APPROVAL_REPLAYED"
      else
        let claimed ← await (.claim request.continuationApprovalId)
        activate js request claimed

/-- The response of the catch-all. -/
def failed (message : String) : Response :=
  ⟨if includes message "not found" then 404 else 503,
    [("error", .str "AUTONOMOUS_CONTINUATION_FAILED"),
     ("message", .str message),
     ("executionActivated", .bool false),
     ("evidence_status", .str "UNVERIFIED")]⟩

/-- `POST /api/system/continue`. Where the body cannot be read the exception leaves the handler. -/
def continueRequest (body : Option Json) : Request Response :=
  match (readBody js body).run with
  | none => throw "Cannot convert object to primitive value"
  | some (.error response) => return response
  | some (.ok request) => do
    match ← attempt (continueBody js request) with
    | .ok response => return response
    | .error message => return failed message

end

/-! ### The world of a request -/

/-- What other requests do to the store. -/
inductive StoreOp where
  | create (approval : ContinuationApproval)
  | claim (id : String)
  | release (id : String)
  | consume (id : String)

/-- How the environment answers a call: what others have committed since the call before, the clock,
whether the Worker has acted on the request or a store call whose answer is lost has committed, the
exception if the answer is lost, and what is answered. -/
structure Turn where
  others : List (StoreOp × ℤ)
  now : ℤ
  applied : Bool
  lost : Option String
  candidate : Option Candidate
  consumed : Option ConsumedApproval
  reply : WorkerReply

/-- What happened. -/
inductive Entry where
  | asked (c : Call) (t : Turn)
  /-- the status of an approval changed, by this request or another one -/
  | moved (own : Bool) (id : String) (old new : ContinuationApprovalStatus)

/-- The store, the number of the next call, and what happened so far. -/
structure World where
  continuations : Continuations
  turn : ℕ := 0
  log : List Entry := []

/-- Something happened. -/
def World.note (w : World) (e : Entry) : World := { w with log := w.log ++ [e] }

/-- The change of status of one approval. -/
def moves (own : Bool) (id : String) (before after : Continuations) : List Entry :=
  match statusOf id before, statusOf id after with
  | some old, some new => if old = new then [] else [.moved own id old new]
  | _, _ => []

/-- The collection changes in the record of one approval. -/
def World.commit (w : World) (own : Bool) (id : String) (after : Continuations) : World :=
  { w with
    continuations := after
    log := w.log ++ moves own id w.continuations after }

section

variable (js : Platform) (stamp : ℤ → String)

/-- The approval an operation is about. -/
def StoreOp.id : StoreOp → String
  | .create approval => trim approval.continuationId
  | .claim id | .release id | .consume id => trim id

/-- The effect of an operation. -/
def StoreOp.apply (now : ℤ) (t : Continuations) : StoreOp → Except String Continuations
  | .create approval => createContinuationApproval js approval now t
  | .claim id => (claimContinuationApproval js id now t).map Prod.snd
  | .release id => (releaseContinuationApproval id t).map Prod.snd
  | .consume id => (consumeContinuationApproval js stamp id now t).map Prod.snd

/-- Another request does something to the store. -/
def World.other (w : World) (op : StoreOp × ℤ) : World :=
  match op.1.apply js stamp op.2 w.continuations with
  | .ok after => w.commit false op.1.id after
  | .error _ => w

/-- A transaction of this request. -/
def World.transact {α : Type} (w : World) (t : Turn) (id : String)
    (tx : Except String (α × Continuations)) : Except String α × World :=
  match t.lost, t.applied, tx with
  | some e, false, _ => (.error e, w)
  | some e, true, .ok (_, after) => (.error e, w.commit true (trim id) after)
  | some e, true, .error _ => (.error e, w)
  | none, _, .ok (a, after) => (.ok a, w.commit true (trim id) after)
  | none, _, .error e => (.error e, w)

/-- An answer that can be lost. -/
def Turn.answer {α : Type} (t : Turn) (x : Except String α) : Except String α :=
  match t.lost with
  | some e => .error e
  | none => x

/-- The environment answers a call. -/
def World.serve (w : World) (t : Turn) : (c : Call) → Answer c × World
  | .getContinuationApproval id =>
    (t.answer (getContinuationApproval js id t.now w.continuations), w)
  | .getCandidate _ => (t.answer (.ok t.candidate), w)
  | .getConsumedApproval _ => (t.answer (.ok t.consumed), w)
  | .claim id => w.transact t id (claimContinuationApproval js id t.now w.continuations)
  | .release id => w.transact t id (releaseContinuationApproval id w.continuations)
  | .consume id => w.transact t id (consumeContinuationApproval js stamp id t.now w.continuations)
  | .worker _ => (t.answer (.ok t.reply), w)
  | .audit _ => (t.answer (.ok ()), w)
  | .clock => (.ok t.now, w)

/-- What others do before a call, and the note of the call. -/
def World.before (w : World) (t : Turn) (c : Call) : World :=
  ({ t.others.foldl (World.other js stamp) w with turn := w.turn + 1 }).note (.asked c t)

/-- The environment of a request. -/
def handler (env : ℕ → Turn) : Handler Call Answer Empty Empty World where
  ask c w := (w.before js stamp (env w.turn) c).serve js stamp (env w.turn) c
  flag w := (false, w)
  send m _ := m.elim

/-- The request from its start until the response is sent. -/
def run (env : ℕ → Turn) (body : Option Json) (t : Continuations) :
    Except String Response × World :=
  let r := perform (handler js stamp env) (continueRequest js body).run { continuations := t }
  (r.1, (env r.2.turn).others.foldl (World.other js stamp) r.2)

end

/-! ### A request under way

An approval that passes its gate, and an environment in which only the calls of `lostCalls` lose
their answer. -/

/-- 2026-01-01T00:00:00Z. -/
def startOfYear : ℤ := 1767225600000

/-- The dates of the scenario. -/
def platform : Platform where
  numberText _ := "1"
  numeric _ := none
  dateParse s :=
    if s = "2026-01-01T00:00:00.000Z" then some startOfYear
    else if s = "2026-01-01T01:00:00.000Z" then some (startOfYear + 3600000)
    else none
  dataConnectCutover := none

/-- `n` zeros. -/
def zeros (n : ℕ) : String := String.ofList (List.replicate n '0')

/-- The approval of the scenario. -/
def pendingApproval : ContinuationApproval where
  continuationId := "continuation-" ++ zeros 36
  candidateId := "rc-" ++ zeros 36
  launchId := "launch-00000001"
  initialApprovalId := "approval-" ++ zeros 36
  imageDigest := "worker@sha256:" ++ zeros 64
  workerRevision := "worker-00001"
  secretVersions := ⟨"1", "1", "1"⟩
  firstOrderEvidenceHash := zeros 64
  reconciliationStatus := "IN_SYNC"
  preflightObservedAt := "2026-01-01T00:00:00.000Z"
  nonce := zeros 16
  requesterUid := "admin"
  createdAt := "2026-01-01T00:00:00.000Z"
  expiresAt := "2026-01-01T01:00:00.000Z"
  status := .pending
  consumedAt := none

/-- The state of a Worker that waits for its continuation. -/
def waitingState : Json :=
  .obj
    [("execution_mode", .str "LIVE"),
     ("engine_state", .str "PAUSED_NEW_RISK"),
     ("mainnet_live_approved", .bool true),
     ("mainnet_launch_id", .str "launch-00000001"),
     ("mainnet_launch_policy", .str "STAGED_FIRST_ORDER"),
     ("mainnet_launch_state", .str "PAUSED_NEW_RISK"),
     ("worker_image_digest", .str pendingApproval.imageDigest),
     ("worker_revision", .str "worker-00001"),
     ("secret_versions", .obj [("sql", .str "1"), ("apiKey", .str "1"), ("apiSecret", .str "1")]),
     ("kill_switch_active", .bool false)]

/-- The evidence of that Worker. -/
def readyEvidence : Json :=
  .obj
    [("continuationReady", .bool true),
     ("submittedOrders", .int 1),
     ("preflightPassed", .bool true),
     ("preflightOrderSubmissionAttempts", .int 0),
     ("preflightOrderEndpointAttempts", .int 0),
     ("persistenceDurable", .bool true),
     ("observedAt", .str "2026-01-01T00:00:00.000Z"),
     ("preflight", .obj
       [("checks", .arr
         [.obj
           [("id", .str "CHK-PREFLIGHT-RECONCILIATION"),
            ("name", .str "Reconciliation"),
            ("status", .str "PASS"),
            ("message", .str "")]])])]

/-- The request body of the scenario. -/
def continueBodyJson : Json :=
  .obj
    [("continuationApprovalId", .str pendingApproval.continuationId),
     ("launchId", .str "launch-00000001"),
     ("strategies", .obj [("grid", .bool true)]),
     ("executionMode", .str "LIVE"),
     ("enforcePreflight", .bool true)]

/-- The environment of the scenario: the readiness is the sixth call. -/
def scenario (lostCalls : List ℕ) (n : ℕ) : Turn where
  others := []
  now := startOfYear + 10000
  applied := true
  lost := if n ∈ lostCalls then some "The operation was aborted due to timeout" else none
  candidate := some ⟨"CONSUMED", some pendingApproval.initialApprovalId⟩
  consumed := some ⟨pendingApproval.imageDigest, pendingApproval.workerRevision⟩
  reply :=
    if n = 5 then ⟨200, readyEvidence, by decide +kernel⟩
    else ⟨200, waitingState, by decide +kernel⟩

end Blessing.ControlPlane.Continuation
