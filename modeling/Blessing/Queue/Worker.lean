import Blessing.Queue.Storage

/-! # The calls of a worker

The store calls `QueueWorker` of `apps/agy_queue/worker.py` makes for a job it has claimed. Only
`heartbeat`, `mark_success` and `mark_failure` pass the worker's identifier on; `schedule_retry` has
no parameter for it. -/

namespace Blessing.Queue.Worker

open Blessing.Lib.Values
open Blessing.Queue.Models Blessing.Queue.Security Blessing.Queue.Storage

/-- A call of a worker for a job it works on. -/
inductive WorkerCall where
  | heartbeat (jobId leaseUntil : String)
  | markSuccess (jobId : String) (result : Dict) (resultPath : String)
      (conversationId headSha : Option String) (gateState : GateState)
  | markFailure (jobId errorCode : String) (stderr : Option String) (result : Option Dict)
      (headSha : Option String) (gateState : GateState)
  | scheduleRetry (jobId nextAttemptAt errorCode : String) (stderr : Option String)

/-- The job of the call. -/
def WorkerCall.jobId : WorkerCall → String
  | .heartbeat jobId .. => jobId
  | .markSuccess jobId .. => jobId
  | .markFailure jobId .. => jobId
  | .scheduleRetry jobId .. => jobId

/-- The call as the store sees it. -/
def WorkerCall.op (workerId : String) : WorkerCall → Op
  | .heartbeat jobId leaseUntil => .heartbeat jobId workerId leaseUntil
  | .markSuccess jobId result resultPath conversationId headSha gateState =>
    .markSuccess jobId workerId result resultPath conversationId headSha gateState
  | .markFailure jobId errorCode stderr result headSha gateState =>
    .markFailure jobId workerId errorCode stderr result headSha gateState
  | .scheduleRetry jobId nextAttemptAt errorCode stderr =>
    .scheduleRetry jobId nextAttemptAt errorCode stderr

/-- What `_handle_error` reads from an exception. -/
structure WorkerError where
  code : Option String
  retryable : Bool
  uncertain : Bool
  message : String

/-- `AgyTimeoutError` -/
def agyTimeoutError (message : String) : WorkerError :=
  { code := some "agy_timeout_uncertain", retryable := true, uncertain := true, message }

/-- `AgyError` -/
def agyError (message : String) : WorkerError :=
  { code := some "agy_error", retryable := false, uncertain := false, message }

/-- Whether `_handle_error` asks for a retry; `job` is the record the claim returned. -/
def retries (job : JobRecord) (error : WorkerError) : Bool :=
  error.retryable && !(job.jobKind == .repoChange && error.uncertain) &&
    job.attempt < job.maxAttempts

/-- `_failure_envelope` -/
def failureEnvelope (job : JobRecord) (error : WorkerError) (finishedAt : String) : Dict :=
  [("job_id", .str job.jobId), ("status", .str "failed"), ("attempt", .int job.attempt),
    ("response", .null), ("model", .str job.model), ("effort", .str job.effort),
    ("repo", .str job.repo), ("base_sha", ofText job.baseSha), ("finished_at", .str finishedAt),
    ("usage", .obj []),
    ("error", .obj [("code", .str (error.code.getD "worker_error")),
      ("message", .str (redactText error.message))])]

/-- The `schedule_retry` call of `_handle_error`. -/
def retryCall (job : JobRecord) (error : WorkerError) (nextAttemptAt : String) : WorkerCall :=
  .scheduleRetry job.jobId nextAttemptAt (error.code.getD "worker_retryable_error")
    (some (redactText error.message))

/-- The `mark_failure` call of `_handle_error`. -/
def failureCall (job : JobRecord) (error : WorkerError) (headSha : Option String)
    (finishedAt : String) : WorkerCall :=
  .markFailure job.jobId (error.code.getD "worker_error") (some (redactText error.message))
    (some (failureEnvelope job error finishedAt)) headSha .blocked

/-- The completing call of `_handle_error`: a retry if it is allowed, the failure otherwise. A
refused retry is followed by the failure. -/
def handleError (job : JobRecord) (error : WorkerError) (nextAttemptAt : String)
    (headSha : Option String) (finishedAt : String) : WorkerCall :=
  if retries job error then retryCall job error nextAttemptAt
  else failureCall job error headSha finishedAt

end Blessing.Queue.Worker
