import Blessing.Lib.Machine
import Blessing.Queue.Storage

/-! # The SQLite queue store

`SQLiteQueueStore` of `apps/agy_queue/storage.py`. The database is the table `jobs` in insertion
order and the table `job_results`; every operation is one transaction. An `UPDATE` statement is
`Table.update` with its `WHERE` clause and its `SET` list, `rowcount` is the number of rows the
clause selects. The `i`-th reading of `utc_iso()` in a call is `clock i`. -/

namespace Blessing.Queue.Sqlite

open Blessing.Lib Blessing.Lib.Values Blessing.Lib.Table Blessing.Lib.Machine
open Blessing.Queue.Models Blessing.Queue.Security Blessing.Queue.Storage

/-- The database. -/
structure Db where
  jobs : List JobRecord
  /-- `job_results`, the text of the result for each job -/
  results : List (String × Dict)
  /-- `job_id TEXT PRIMARY KEY` -/
  primary : (jobs.map JobRecord.jobId).Nodup

/-- The database after `_initialize`. -/
def empty : Db := ⟨[], [], by simp⟩

/-- `UPDATE jobs SET f WHERE p` -/
def Db.update (db : Db) (p : JobRecord → Bool) (f : JobRecord → JobRecord)
    (hf : ∀ job, (f job).jobId = job.jobId) : Db where
  jobs := Table.update p f db.jobs
  results := db.results
  primary := by
    rw [Table.update, map_key_map fun job => by split_ifs <;> simp [hf]]
    exact db.primary

@[simp] theorem Db.update_jobs (db : Db) (p : JobRecord → Bool) (f : JobRecord → JobRecord)
    (hf : ∀ job, (f job).jobId = job.jobId) :
    (db.update p f hf).jobs = Table.update p f db.jobs := rfl

@[simp] theorem Db.update_results (db : Db) (p : JobRecord → Bool) (f : JobRecord → JobRecord)
    (hf : ∀ job, (f job).jobId = job.jobId) : (db.update p f hf).results = db.results := rfl

/-- `INSERT INTO job_results … ON CONFLICT(job_id) DO UPDATE` -/
def Db.setResult (db : Db) (jobId : String) (text : Dict) : Db :=
  { db with results := upsert Prod.fst (jobId, text) db.results }

@[simp] theorem Db.setResult_jobs (db : Db) (jobId : String) (text : Dict) :
    (db.setResult jobId text).jobs = db.jobs := rfl

/-- `SELECT result_json FROM job_results WHERE job_id=?` -/
def storedResult (db : Db) (jobId : String) : Option Dict :=
  (lookup Prod.fst jobId db.results).map Prod.snd

@[simp] theorem storedResult_update (db : Db) (p : JobRecord → Bool) (f : JobRecord → JobRecord)
    (hf : ∀ job, (f job).jobId = job.jobId) (jobId : String) :
    storedResult (db.update p f hf) jobId = storedResult db jobId := rfl

theorem storedResult_setResult (db : Db) (jobId : String) (text : Dict) (k : String) :
    storedResult (db.setResult jobId text) k =
      if jobId = k then some text else storedResult db k := by
  simp only [storedResult, Db.setResult, lookup_upsert]
  split_ifs <;> rfl

/-- `_row_to_job` of a row of the join with `job_results`. -/
def rowToJob (db : Db) (row : JobRecord) : JobRecord :=
  { row with resultJson := (storedResult db row.jobId).or row.resultJson }

/-- `get` -/
def get (db : Db) (jobId : String) : Option JobRecord :=
  (lookup JobRecord.jobId jobId db.jobs).map (rowToJob db)

/-- The row `create_job` writes. -/
def insertedRow (job : JobRecord) : JobRecord :=
  { job with resultJson := none, expectedOutputSchema := job.expectedOutputSchema.map dumps }

/-- `create_job` of a job whose texts UTF-8 can encode. -/
def createJob (job : JobRecord) (db : Db) : Except StoreError JobRecord × Db :=
  if h : job.jobId ∈ db.jobs.map JobRecord.jobId then
    (.error (.conflict ("Job " ++ job.jobId ++ " already exists")), db)
  else
    (.ok job, { db with
      jobs := db.jobs ++ [insertedRow job]
      primary := by
        rw [List.map_append, List.nodup_append]
        exact ⟨db.primary, by simp, by simpa [insertedRow] using h⟩ })

/-- The conditions of `claim_next` on a row. -/
def claimable (now : String) (eligibleKinds : Option (List JobKind)) (jobs : List JobRecord)
    (job : JobRecord) : Bool :=
  job.status == .pending && job.gateState == .ready && job.attempt < job.maxAttempts &&
    job.nextAttemptAt.all (fun t => t ≤ now) &&
    !(jobs.any fun active =>
      active.status == .running && active.scopeKey.isSome && active.scopeKey == job.scopeKey) &&
    eligibleKinds.all fun kinds => kinds.contains job.jobKind

/-- The `SET` list of `claim_next`. -/
def claim (workerId now leaseUntil : String) (job : JobRecord) : JobRecord :=
  { job with
    status := .running, attempt := job.attempt + 1, leaseUntil := some leaseUntil,
    workerId := some workerId, startedAt := job.startedAt.or (some now), updatedAt := now,
    errorCode := none, stderr := none }

@[simp] theorem claim_jobId (workerId now leaseUntil : String) (job : JobRecord) :
    (claim workerId now leaseUntil job).jobId = job.jobId := rfl

/-- `claim_next` -/
def claimNext (workerId now : String) (leaseTtlSec : ℤ) (eligibleKinds : Option (List JobKind))
    (db : Db) : Except StoreError (Option JobRecord) × Db :=
  if eligibleKinds = some [] then (.ok none, db)
  else
    match earliest (db.jobs.filter (claimable now eligibleKinds db.jobs)) with
    | none => (.ok none, db)
    | some row =>
      match leaseExpiry now leaseTtlSec with
      | none => (.error .value, db)
      | some leaseUntil =>
        let db' := db.update (fun job => job.jobId == row.jobId && job.status == .pending)
          (claim workerId now leaseUntil) (claim_jobId workerId now leaseUntil)
        (.ok (get db' row.jobId), db')

/-- The `SET` list of `heartbeat`. -/
def beat (leaseUntil clock : String) (job : JobRecord) : JobRecord :=
  { job with leaseUntil := some leaseUntil, updatedAt := clock }

@[simp] theorem beat_jobId (leaseUntil clock : String) (job : JobRecord) :
    (beat leaseUntil clock job).jobId = job.jobId := rfl

/-- The `WHERE` clause of `heartbeat`. -/
def owned (jobId workerId : String) (job : JobRecord) : Bool :=
  job.jobId == jobId && job.status == .running && job.workerId == some workerId

/-- `heartbeat` -/
def heartbeat (clock : ℕ → String) (jobId workerId leaseUntil : String) (db : Db) : Bool × Db :=
  (db.jobs.countP (owned jobId workerId) == 1,
    db.update (owned jobId workerId) (beat leaseUntil (clock 0)) (beat_jobId leaseUntil (clock 0)))

/-- The rows `recover_expired` selects. -/
def expired (now : String) (job : JobRecord) : Bool :=
  job.status == .running && job.leaseUntil.any fun t => t < now

/-- The `SET` list of `recover_expired` for a selected row. -/
def recover (now : String) (row job : JobRecord) : JobRecord :=
  if row.externalEffectClass.isUnsafe || row.maxAttempts ≤ row.attempt then
    { job with
      status := .failed, gateState := .blocked,
      errorCode := some (if row.externalEffectClass.isUnsafe then "external_effect_uncertain"
        else "lease_expired_attempts_exhausted"),
      finishedAt := some now, updatedAt := now, leaseUntil := none, workerId := none }
  else
    { job with
      status := .pending, gateState := .ready, errorCode := some "lease_expired",
      nextAttemptAt := some now, updatedAt := now, leaseUntil := none, workerId := none }

@[simp] theorem recover_jobId (now : String) (row job : JobRecord) :
    (recover now row job).jobId = job.jobId := by
  unfold recover
  split_ifs <;> rfl

/-- `recover_expired`. The query has no `ORDER BY`: the order of the identifiers means nothing. -/
def recoverExpired (now : String) (db : Db) : List String × Db :=
  let rows := db.jobs.filter (expired now)
  (rows.map JobRecord.jobId,
    rows.foldl (fun db row =>
      db.update (fun job => job.jobId == row.jobId && job.status == .running) (recover now row)
        (recover_jobId now row)) db)

/-- The `SET` list of `update_conversation_id`. -/
def converse (conversationId clock : String) (job : JobRecord) : JobRecord :=
  { job with conversationId := some conversationId, updatedAt := clock }

@[simp] theorem converse_jobId (conversationId clock : String) (job : JobRecord) :
    (converse conversationId clock job).jobId = job.jobId := rfl

/-- `update_conversation_id` -/
def updateConversationId (clock : ℕ → String) (jobId conversationId : String) (db : Db) : Db :=
  db.update (fun job => job.jobId == jobId) (converse conversationId (clock 0))
    (converse_jobId conversationId (clock 0))

/-- Whether a completion of a job in state `last` or running under `workerId` is fenced out: the
check `mark_success` and `mark_failure` make before they write. -/
def fencedOut (last : JobStatus) (workerId : String) (row : JobRecord) : Bool :=
  !(row.status == .running || row.status == last) ||
    (row.status == .running && row.workerId != some workerId)

/-- The `WHERE` clause of the two completions. -/
def completes (last : JobStatus) (jobId workerId : String) (job : JobRecord) : Bool :=
  job.jobId == jobId &&
    (job.status == last || (job.status == .running && job.workerId == some workerId))

/-- The `SET` list of `mark_success`. -/
def succeed (text : Dict) (resultPath : String) (conversationId headSha : Option String)
    (gateState : GateState) (now : String) (job : JobRecord) : JobRecord :=
  { job with
    status := .succeeded, gateState := gateState, resultPath := some resultPath,
    resultJson := some text, conversationId := conversationId.or job.conversationId,
    headSha := headSha.or job.headSha, finishedAt := some now, updatedAt := now,
    leaseUntil := none, workerId := none, errorCode := none, stderr := none }

@[simp] theorem succeed_jobId (text : Dict) (resultPath : String)
    (conversationId headSha : Option String) (gateState : GateState) (now : String)
    (job : JobRecord) :
    (succeed text resultPath conversationId headSha gateState now job).jobId = job.jobId := rfl

/-- `mark_success` -/
def markSuccess (clock : ℕ → String) (jobId workerId : String) (result : Dict)
    (resultPath : String) (conversationId headSha : Option String) (gateState : GateState)
    (db : Db) : Except StoreError Bool × Db :=
  let serialized := dumps result
  let now := clock 0
  match lookup JobRecord.jobId jobId db.jobs with
  | none => (.ok false, db)
  | some row =>
    if fencedOut .succeeded workerId row then (.ok false, db)
    else if (storedResult db jobId).any (· ≠ serialized) then
      (.error (.conflict ("Result for " ++ jobId ++ " already differs")), db)
    else
      (.ok (0 < db.jobs.countP (completes .succeeded jobId workerId)),
        (db.setResult jobId serialized).update (completes .succeeded jobId workerId)
          (succeed serialized resultPath conversationId headSha gateState now)
          (succeed_jobId serialized resultPath conversationId headSha gateState now))

/-- The `SET` list of `mark_failure`. -/
def fail (errorCode : String) (stderr : Option String) (text : Option Dict)
    (headSha : Option String) (gateState : GateState) (now : String) (job : JobRecord) :
    JobRecord :=
  { job with
    status := .failed, gateState := gateState, errorCode := some errorCode, stderr := stderr,
    resultJson := text.or job.resultJson, headSha := headSha.or job.headSha,
    finishedAt := some now, updatedAt := now, leaseUntil := none, workerId := none }

@[simp] theorem fail_jobId (errorCode : String) (stderr : Option String) (text : Option Dict)
    (headSha : Option String) (gateState : GateState) (now : String) (job : JobRecord) :
    (fail errorCode stderr text headSha gateState now job).jobId = job.jobId := rfl

/-- `mark_failure` -/
def markFailure (clock : ℕ → String) (jobId workerId errorCode : String) (stderr : Option String)
    (result : Option Dict) (headSha : Option String) (gateState : GateState) (db : Db) :
    Bool × Db :=
  let now := clock 0
  let serialized := result.map dumps
  match lookup JobRecord.jobId jobId db.jobs with
  | none => (false, db)
  | some row =>
    if fencedOut .failed workerId row then (false, db)
    else
      let db' := match serialized with
        | some text => db.setResult jobId text
        | none => db
      (0 < db.jobs.countP (completes .failed jobId workerId),
        db'.update (completes .failed jobId workerId)
          (fail errorCode stderr serialized headSha gateState now)
          (fail_jobId errorCode stderr serialized headSha gateState now))

/-- The `SET` list of `schedule_retry`. -/
def requeue (nextAttemptAt errorCode : String) (stderr : Option String) (clock : String)
    (job : JobRecord) : JobRecord :=
  { job with
    status := .pending, gateState := .ready, nextAttemptAt := some nextAttemptAt,
    errorCode := some errorCode, stderr := stderr, updatedAt := clock,
    leaseUntil := none, workerId := none }

@[simp] theorem requeue_jobId (nextAttemptAt errorCode : String) (stderr : Option String)
    (clock : String) (job : JobRecord) :
    (requeue nextAttemptAt errorCode stderr clock job).jobId = job.jobId := rfl

/-- `schedule_retry` -/
def scheduleRetry (clock : ℕ → String) (jobId nextAttemptAt errorCode : String)
    (stderr : Option String) (db : Db) : Bool × Db :=
  match lookup JobRecord.jobId jobId db.jobs with
  | none => (false, db)
  | some row =>
    if row.status != .running || row.externalEffectClass.isUnsafe ||
        row.maxAttempts ≤ row.attempt then (false, db)
    else
      (true, db.update (fun job => job.jobId == jobId && job.status == .running)
        (requeue nextAttemptAt errorCode stderr (clock 0))
        (requeue_jobId nextAttemptAt errorCode stderr (clock 0)))

/-- The `SET` list of `retry_failed`. -/
def reopen (now : String) (job : JobRecord) : JobRecord :=
  { job with
    status := .pending, gateState := .ready, nextAttemptAt := some now,
    errorCode := some "manual_retry", stderr := none, finishedAt := none, updatedAt := now }

@[simp] theorem reopen_jobId (now : String) (job : JobRecord) :
    (reopen now job).jobId = job.jobId := rfl

/-- `retry_failed` -/
def retryFailed (jobId now : String) (db : Db) : Bool × Db :=
  match lookup JobRecord.jobId jobId db.jobs with
  | none => (false, db)
  | some row =>
    if row.status != .failed || row.externalEffectClass.isUnsafe ||
        row.maxAttempts ≤ row.attempt then (false, db)
    else
      (true, db.update (fun job => job.jobId == jobId && job.status == .failed) (reopen now)
        (reopen_jobId now))

/-- The `SET` list of `cancel`. -/
def withdraw (finishedAt clock : String) (job : JobRecord) : JobRecord :=
  { job with
    status := .cancelled, gateState := .blocked, finishedAt := some finishedAt,
    updatedAt := clock, leaseUntil := none, workerId := none }

@[simp] theorem withdraw_jobId (finishedAt clock : String) (job : JobRecord) :
    (withdraw finishedAt clock job).jobId = job.jobId := rfl

/-- The `WHERE` clause of `cancel`. -/
def unfinished (jobId : String) (job : JobRecord) : Bool :=
  job.jobId == jobId && (job.status == .pending || job.status == .running)

/-- `cancel` -/
def cancel (clock : ℕ → String) (jobId : String) (db : Db) : Bool × Db :=
  (db.jobs.countP (unfinished jobId) == 1,
    db.update (unfinished jobId) (withdraw (clock 0) (clock 1))
    (withdraw_jobId (clock 0) (clock 1)))

/-- A call of the store interface. -/
def apply (db : Db) (call : Call) : Answer × Db :=
  match call.op with
  | .createJob job =>
    let (r, db') := createJob job db
    (r.map fun job => .job (some job), db')
  | .claimNext workerId now leaseTtlSec eligibleKinds =>
    let (r, db') := claimNext workerId now leaseTtlSec eligibleKinds db
    (r.map .job, db')
  | .heartbeat jobId workerId leaseUntil =>
    let (r, db') := heartbeat call.clock jobId workerId leaseUntil db
    (.ok (.flag r), db')
  | .recoverExpired now =>
    let (r, db') := recoverExpired now db
    (.ok (.ids r), db')
  | .updateConversationId jobId conversationId =>
    (.ok .done, updateConversationId call.clock jobId conversationId db)
  | .markSuccess jobId workerId result resultPath conversationId headSha gateState =>
    let (r, db') := markSuccess call.clock jobId workerId result resultPath conversationId headSha
      gateState db
    (r.map .flag, db')
  | .markFailure jobId workerId errorCode stderr result headSha gateState =>
    let (r, db') :=
      markFailure call.clock jobId workerId errorCode stderr result headSha gateState db
    (.ok (.flag r), db')
  | .scheduleRetry jobId nextAttemptAt errorCode stderr =>
    let (r, db') := scheduleRetry call.clock jobId nextAttemptAt errorCode stderr db
    (.ok (.flag r), db')
  | .retryFailed jobId now =>
    let (r, db') := retryFailed jobId now db
    (.ok (.flag r), db')
  | .cancel jobId =>
    let (r, db') := cancel call.clock jobId db
    (.ok (.flag r), db')

end Blessing.Queue.Sqlite
