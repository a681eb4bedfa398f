import Blessing.Lib.Machine
import Blessing.Queue.Storage

/-! # The JSONL queue store

`JsonlQueueStore` of `apps/agy_queue/storage.py`. The state is two files, `inbox.jsonl` and
`events.jsonl`; a line is represented by the value it denotes. The jobs are the fold of the two
files in this order, every change is a whole new record appended to the second file, and every line
is redacted as it is written. `clock 0` is the reading of `utc_iso()` inside an operation, `clock 1`
the one of `_mutate` after it. -/

namespace Blessing.Queue.Jsonl

open Blessing.Lib.Values Blessing.Lib.Table
open Blessing.Queue.Models Blessing.Queue.Security Blessing.Queue.Storage

/-- The two files. -/
structure Files where
  inbox : List Json
  eventLog : List Json

/-- The files of a new store. -/
def empty : Files := ⟨[], []⟩

/-- The line `_append` writes. -/
def line (payload : Json) : Json := (redactJson payload).sortKeys

/-- A record of a job. -/
def jobRecord (recordType : String) (job : JobRecord) : Json :=
  .obj [("record_type", .str recordType), ("job", jobPayload job)]

/-- One line of `_read_jobs`. -/
def readLine (jobs : List JobRecord) (record : Json) : Except StoreError (List JobRecord) :=
  if record.get "record_type" = .str "job" ∨ record.get "record_type" = .str "job_update" then
    match (record.get? "job").bind payloadToJob with
    | some job => .ok (upsert JobRecord.jobId job jobs)
    | none => .error .value
  else .ok jobs

/-- `_read_jobs` -/
def readJobs (files : Files) : Except StoreError (List JobRecord) :=
  (files.inbox ++ files.eventLog).foldlM readLine []

/-- `_append_update` -/
def appendUpdate (job : JobRecord) (files : Files) : Files :=
  { files with eventLog := files.eventLog ++ [line (jobRecord "job_update" job)] }

/-- `_mutate`. An operation gives the changed record and the flag its caller returns; the record is
written again even where nothing changed, but not if the operation raised. -/
def mutate (clock : ℕ → String) (jobId : String)
    (operation : JobRecord → Except StoreError (JobRecord × Bool)) (files : Files) :
    Except StoreError (Option (JobRecord × Bool)) × Files :=
  match readJobs files with
  | .error e => (.error e, files)
  | .ok jobs =>
    match lookup JobRecord.jobId jobId jobs with
    | none => (.ok none, files)
    | some job =>
      match operation job with
      | .error e => (.error e, files)
      | .ok (job, changed) =>
        let job := { job with updatedAt := clock 1 }
        (.ok (some (job, changed)), appendUpdate job files)

/-- `get` -/
def get (files : Files) (jobId : String) : Except StoreError (Option JobRecord) :=
  (readJobs files).map (lookup JobRecord.jobId jobId)

/-- `create_job` of a job whose texts UTF-8 can encode. -/
def createJob (job : JobRecord) (files : Files) : Except StoreError JobRecord × Files :=
  match readJobs files with
  | .error e => (.error e, files)
  | .ok jobs =>
    if (lookup JobRecord.jobId job.jobId jobs).isSome then
      (.error (.conflict ("Job " ++ job.jobId ++ " already exists")), files)
    else (.ok job, { files with inbox := files.inbox ++ [line (jobRecord "job" job)] })

/-- `x or y` of an optional text: an empty text counts as missing. -/
def orElse (x y : Option String) : Option String := if x.any (· ≠ "") then x else y

/-- The candidates of `claim_next`. -/
def candidate (now : String) (eligibleKinds : Option (List JobKind)) (jobs : List JobRecord)
    (job : JobRecord) : Bool :=
  let runningScopes := (jobs.filter fun job => job.status == .running).filterMap JobRecord.scopeKey
  job.status == .pending && job.gateState == .ready && job.attempt < job.maxAttempts &&
    job.nextAttemptAt.all (fun t => t ≤ now) &&
    eligibleKinds.all (fun kinds => kinds.contains job.jobKind) &&
    job.scopeKey.all fun scope => !runningScopes.contains scope

/-- The assignments of `claim_next`. -/
def claim (workerId now leaseUntil : String) (job : JobRecord) : JobRecord :=
  { job with
    status := .running, attempt := job.attempt + 1, leaseUntil := some leaseUntil,
    workerId := some workerId, startedAt := orElse job.startedAt (some now), updatedAt := now,
    errorCode := none, stderr := none }

/-- `claim_next` -/
def claimNext (workerId now : String) (leaseTtlSec : ℤ) (eligibleKinds : Option (List JobKind))
    (files : Files) : Except StoreError (Option JobRecord) × Files :=
  match readJobs files with
  | .error e => (.error e, files)
  | .ok jobs =>
    match earliest (jobs.filter (candidate now eligibleKinds jobs)) with
    | none => (.ok none, files)
    | some job =>
      match leaseExpiry now leaseTtlSec with
      | none => (.error .value, files)
      | some leaseUntil =>
        let job := claim workerId now leaseUntil job
        (.ok (some job), appendUpdate job files)

/-- The flag of a call of `_mutate`, false where there is no such job. -/
def flagOf (r : Except StoreError (Option (JobRecord × Bool))) : Except StoreError Bool :=
  r.map fun o => (o.map Prod.snd).getD false

/-- The assignment of `heartbeat`. -/
def beat (leaseUntil : String) (job : JobRecord) : JobRecord :=
  { job with leaseUntil := some leaseUntil }

/-- `heartbeat`. The answer is read off the record that was written. -/
def heartbeat (clock : ℕ → String) (jobId workerId leaseUntil : String) (files : Files) :
    Except StoreError Bool × Files :=
  let (r, files') := mutate clock jobId (fun job =>
    .ok (if job.status == .running && job.workerId == some workerId then beat leaseUntil job
      else job, true)) files
  (r.map fun o => o.any fun (job, _) => job.status == .running && job.workerId == some workerId,
    files')

/-- The jobs `recover_expired` does not pass over. -/
def expired (now : String) (job : JobRecord) : Bool :=
  job.status == .running && job.leaseUntil.any fun t => t ≠ "" && t < now

/-- The assignments of `recover_expired`. -/
def recover (now : String) (job : JobRecord) : JobRecord :=
  if job.externalEffectClass.isUnsafe || job.maxAttempts ≤ job.attempt then
    { job with
      status := .failed, gateState := .blocked,
      errorCode := some (if job.externalEffectClass.isUnsafe then "external_effect_uncertain"
        else "lease_expired_attempts_exhausted"),
      finishedAt := some now, leaseUntil := none, workerId := none, updatedAt := now }
  else
    { job with
      status := .pending, gateState := .ready, errorCode := some "lease_expired",
      nextAttemptAt := some now, leaseUntil := none, workerId := none, updatedAt := now }

/-- `recover_expired` -/
def recoverExpired (now : String) (files : Files) : Except StoreError (List String) × Files :=
  match readJobs files with
  | .error e => (.error e, files)
  | .ok jobs =>
    let rows := jobs.filter (expired now)
    (.ok (rows.map JobRecord.jobId),
      rows.foldl (fun files job => appendUpdate (recover now job) files) files)

/-- The assignment of `update_conversation_id`. -/
def converse (conversationId : String) (job : JobRecord) : JobRecord :=
  { job with conversationId := some conversationId }

/-- `update_conversation_id` -/
def updateConversationId (clock : ℕ → String) (jobId conversationId : String) (files : Files) :
    Except StoreError Unit × Files :=
  let (r, files') := mutate clock jobId
    (fun job => .ok (converse conversationId job, true)) files
  (r.map fun _ => (), files')

/-- The assignments of `mark_success`. -/
def succeed (result : Dict) (resultPath : String) (conversationId headSha : Option String)
    (gateState : GateState) (clock : String) (job : JobRecord) : JobRecord :=
  { job with
    status := .succeeded, gateState := gateState, resultJson := some (redactFields result),
    resultPath := some resultPath, conversationId := orElse conversationId job.conversationId,
    headSha := orElse headSha job.headSha, finishedAt := some clock, leaseUntil := none,
    workerId := none, errorCode := none, stderr := none }

/-- `update` of `mark_success` -/
def successUpdate (clock jobId workerId : String) (result : Dict) (resultPath : String)
    (conversationId headSha : Option String) (gateState : GateState) (job : JobRecord) :
    Except StoreError (JobRecord × Bool) :=
  if job.status == .running && job.workerId != some workerId then .ok (job, false)
  else if !(job.status == .running || job.status == .succeeded) then .ok (job, false)
  else if job.resultJson.any fun existing => dumps existing ≠ dumps result then
    .error (.conflict ("Result for " ++ jobId ++ " already differs"))
  else .ok (succeed result resultPath conversationId headSha gateState clock job, true)

/-- `mark_success` -/
def markSuccess (clock : ℕ → String) (jobId workerId : String) (result : Dict)
    (resultPath : String) (conversationId headSha : Option String) (gateState : GateState)
    (files : Files) : Except StoreError Bool × Files :=
  let (r, files') := mutate clock jobId (successUpdate (clock 0) jobId workerId result resultPath
    conversationId headSha gateState) files
  (flagOf r, files')

/-- The assignments of `mark_failure`. -/
def fail (errorCode : String) (stderr : Option String) (result : Option Dict)
    (headSha : Option String) (gateState : GateState) (clock : String) (job : JobRecord) :
    JobRecord :=
  { job with
    status := .failed, gateState := gateState, errorCode := some errorCode, stderr := stderr,
    resultJson := (result.map redactFields).or job.resultJson,
    headSha := orElse headSha job.headSha, finishedAt := some clock, leaseUntil := none,
    workerId := none }

/-- `update` of `mark_failure` -/
def failureUpdate (clock workerId errorCode : String) (stderr : Option String)
    (result : Option Dict) (headSha : Option String) (gateState : GateState) (job : JobRecord) :
    Except StoreError (JobRecord × Bool) :=
  if job.status == .running && job.workerId != some workerId then .ok (job, false)
  else if !(job.status == .running || job.status == .failed) then .ok (job, false)
  else .ok (fail errorCode stderr result headSha gateState clock job, true)

/-- `mark_failure` -/
def markFailure (clock : ℕ → String) (jobId workerId errorCode : String) (stderr : Option String)
    (result : Option Dict) (headSha : Option String) (gateState : GateState) (files : Files) :
    Except StoreError Bool × Files :=
  let (r, files') := mutate clock jobId
    (failureUpdate (clock 0) workerId errorCode stderr result headSha gateState) files
  (flagOf r, files')

/-- The assignments of `schedule_retry`. -/
def requeue (nextAttemptAt errorCode : String) (stderr : Option String) (job : JobRecord) :
    JobRecord :=
  { job with
    status := .pending, gateState := .ready, nextAttemptAt := some nextAttemptAt,
    errorCode := some errorCode, stderr := stderr, leaseUntil := none, workerId := none }

/-- `schedule_retry` -/
def scheduleRetry (clock : ℕ → String) (jobId nextAttemptAt errorCode : String)
    (stderr : Option String) (files : Files) : Except StoreError Bool × Files :=
  let (r, files') := mutate clock jobId (fun job =>
    if job.status != .running || job.maxAttempts ≤ job.attempt ||
        job.externalEffectClass.isUnsafe then .ok (job, false)
    else .ok (requeue nextAttemptAt errorCode stderr job, true)) files
  (flagOf r, files')

/-- The assignments of `retry_failed`. -/
def reopen (now : String) (job : JobRecord) : JobRecord :=
  { job with
    status := .pending, gateState := .ready, nextAttemptAt := some now,
    errorCode := some "manual_retry", stderr := none, finishedAt := none }

/-- `retry_failed` -/
def retryFailed (clock : ℕ → String) (jobId now : String) (files : Files) :
    Except StoreError Bool × Files :=
  let (r, files') := mutate clock jobId (fun job =>
    if job.status != .failed || job.maxAttempts ≤ job.attempt ||
        job.externalEffectClass.isUnsafe then .ok (job, false)
    else .ok (reopen now job, true)) files
  (flagOf r, files')

/-- The assignments of `cancel`. -/
def withdraw (clock : String) (job : JobRecord) : JobRecord :=
  { job with
    status := .cancelled, gateState := .blocked, finishedAt := some clock, leaseUntil := none,
    workerId := none }

/-- `cancel` -/
def cancel (clock : ℕ → String) (jobId : String) (files : Files) : Except StoreError Bool × Files :=
  let (r, files') := mutate clock jobId (fun job =>
    if job.status == .pending || job.status == .running then
      .ok (withdraw (clock 0) job, true)
    else .ok (job, false)) files
  (flagOf r, files')

/-- A call of the store interface. -/
def apply (files : Files) (call : Call) : Answer × Files :=
  match call.op with
  | .createJob job =>
    let (r, files') := createJob job files
    (r.map fun job => .job (some job), files')
  | .claimNext workerId now leaseTtlSec eligibleKinds =>
    let (r, files') := claimNext workerId now leaseTtlSec eligibleKinds files
    (r.map .job, files')
  | .heartbeat jobId workerId leaseUntil =>
    let (r, files') := heartbeat call.clock jobId workerId leaseUntil files
    (r.map .flag, files')
  | .recoverExpired now =>
    let (r, files') := recoverExpired now files
    (r.map .ids, files')
  | .updateConversationId jobId conversationId =>
    let (r, files') := updateConversationId call.clock jobId conversationId files
    (r.map fun _ => .done, files')
  | .markSuccess jobId workerId result resultPath conversationId headSha gateState =>
    let (r, files') := markSuccess call.clock jobId workerId result resultPath conversationId
      headSha gateState files
    (r.map .flag, files')
  | .markFailure jobId workerId errorCode stderr result headSha gateState =>
    let (r, files') := markFailure call.clock jobId workerId errorCode stderr result headSha
      gateState files
    (r.map .flag, files')
  | .scheduleRetry jobId nextAttemptAt errorCode stderr =>
    let (r, files') := scheduleRetry call.clock jobId nextAttemptAt errorCode stderr files
    (r.map .flag, files')
  | .retryFailed jobId now =>
    let (r, files') := retryFailed call.clock jobId now files
    (r.map .flag, files')
  | .cancel jobId =>
    let (r, files') := cancel call.clock jobId files
    (r.map .flag, files')

end Blessing.Queue.Jsonl
