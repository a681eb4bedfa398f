import Blessing.Lib.Table
import Blessing.Queue.Models
import Blessing.Queue.Security

/-! # What the queue backends share

The parts of `apps/agy_queue/storage.py` above the two stores: lease times, JSON columns, the
payload form of a record, result artifacts, and the operations of the store interface with their
answers. An operation reads the wall clock through `utc_iso()`; the reading is an argument here. -/

namespace Blessing.Queue.Storage

open Blessing.Lib.Values Blessing.Lib.DateTime
open Blessing.Queue.Models Blessing.Queue.Security

/-- What a store call can raise. -/
inductive StoreError where
  /-- `QueueConflictError` -/
  | conflict (message : String)
  /-- `QueueStorageError` -/
  | storage (message : String)
  /-- `KeyError`, `ValueError` or `OverflowError`: an unusable time or an unreadable record -/
  | value
  deriving DecidableEq, Repr

/-- `_lease_expiry`: the lease end by the caller's clock, nothing if the time is unusable. -/
def leaseExpiry (now : String) (leaseTtlSec : ℤ) : Option String := do
  let parsed ← fromIsoformat now.toList
  let t ← utcOf parsed
  let t ← addSeconds t leaseTtlSec
  return utcIso t

/-- `_json_dumps` of an object: redacted, with sorted keys. The text is represented by the entries
it denotes. -/
def dumps (d : Dict) : Dict := (Json.sortKeysFields (redactFields d)).insertionSort Json.KeyLe

theorem sortKeys_redactJson (d : Dict) : (redactJson (.obj d)).sortKeys = .obj (dumps d) := rfl

theorem dumps_dumps (d : Dict) : dumps (dumps d) = dumps (redactFields d) := by
  have h : Json.obj (dumps (dumps d)) = .obj (dumps (redactFields d)) := by
    rw [← sortKeys_redactJson, ← sortKeys_redactJson, redactJson_sortKeys, Json.sortKeys_idem,
      ← sortKeys_redactJson]
    rfl
  exact Json.obj.inj h

theorem redactText_utcIso (t : Instant) : redactText (utcIso t) = utcIso t := by
  refine redactText_of_plain fun c hc => ?_
  have hdigit : ∀ d < 10, isMark (Char.ofNat (48 + d)) = false := by decide
  have hmark : ∀ c ∈ ['-', 'T', ':', '.', 'Z'], isMark c = false := fun c hc => by
    have hall : (['-', 'T', ':', '.', 'Z'].all fun c => !isMark c) = true := by decide
    simpa using List.all_eq_true.mp hall c hc
  simp only [utcIso, String.toList_ofList, List.mem_append, List.mem_singleton] at hc
  rcases hc with hc | rfl
  · rcases mem_isoMillis hc with ⟨d, hd, hc⟩ | hc
    · rw [hc]
      exact hdigit d hd
    · exact hmark c (List.mem_append_left ['Z'] hc)
  · exact hmark 'Z' (by simp)

theorem utcIso_ne_empty (t : Instant) : utcIso t ≠ "" := by
  intro h
  have := congrArg String.toList h
  simp [utcIso] at this

theorem leaseExpiry_text {now : String} {ttl : ℤ} {t : String} (h : leaseExpiry now ttl = some t) :
    redactText t = t ∧ t ≠ "" ∧ now ≠ "" := by
  simp only [leaseExpiry, Option.bind_eq_bind, Option.bind_eq_some_iff] at h
  obtain ⟨parsed, hp, u, -, v, -, h⟩ := h
  obtain rfl := Option.some.inj h
  refine ⟨redactText_utcIso v, utcIso_ne_empty v, ?_⟩
  rintro rfl
  cases hp

/-! ### Records as payloads -/

/-- A text or `None`. -/
def ofText (s : Option String) : Json := (s.map Json.str).getD .null

/-- An object or `None`. -/
def ofDict (d : Option Dict) : Json := (d.map Json.obj).getD .null

/-- The entries of `_job_payload`. -/
def payloadFields (job : JobRecord) : List (String × Json) :=
  [("job_id", .str job.jobId), ("created_at", .str job.createdAt),
    ("updated_at", .str job.updatedAt), ("prompt", .str job.prompt), ("repo", .str job.repo),
    ("base_sha", ofText job.baseSha), ("model", .str job.model), ("effort", .str job.effort),
    ("timeout_sec", .int job.timeoutSec), ("status", .str job.status.value),
    ("attempt", .int job.attempt), ("max_attempts", .int job.maxAttempts),
    ("lease_until", ofText job.leaseUntil), ("worker_id", ofText job.workerId),
    ("conversation_id", ofText job.conversationId), ("result_path", ofText job.resultPath),
    ("raw_events_path", ofText job.rawEventsPath), ("result_json", ofDict job.resultJson),
    ("stderr", ofText job.stderr), ("error_code", ofText job.errorCode),
    ("started_at", ofText job.startedAt), ("finished_at", ofText job.finishedAt),
    ("branch", ofText job.branch), ("head_sha", ofText job.headSha),
    ("next_attempt_at", ofText job.nextAttemptAt), ("session_key", ofText job.sessionKey),
    ("scope_key", ofText job.scopeKey), ("job_kind", .str job.jobKind.value),
    ("external_effect_class", .str job.externalEffectClass.value),
    ("gate_state", .str job.gateState.value), ("authorization_ref", ofText job.authorizationRef),
    ("verification_job_id", ofText job.verificationJobId),
    ("expected_output_schema", ofDict job.expectedOutputSchema)]

/-- `_job_payload` -/
def jobPayload (job : JobRecord) : Json := .obj (payloadFields job)

/-- `str(payload[k])` -/
def reqText (p : Json) (k : String) : Option String := (p.get? k).map Json.toStr

/-- `str(payload.get(k, default))` -/
def textOr (default : String) (p : Json) (k : String) : String :=
  ((p.get? k).map Json.toStr).getD default

/-- `payload.get(k)` of a text field. -/
def optText (p : Json) (k : String) : Option (Option String) :=
  match p.get k with
  | .null => some none
  | .str s => some (some s)
  | _ => none

/-- `int(payload.get(k, default))` -/
def intOr (default : ℤ) (p : Json) (k : String) : Option ℤ :=
  match p.get? k with
  | none => some default
  | some (.int n) => some n
  | some (.bool b) => some (if b then 1 else 0)
  | some (.str s) => s.toInt?
  | some _ => none

/-- `payload.get(k)` of an object field. -/
def optDict (p : Json) (k : String) : Option (Option Dict) :=
  match p.get k with
  | .null => some none
  | .obj d => some (some d)
  | _ => none

/-- `_payload_to_job`; nothing where the conversion raises. -/
def payloadToJob (p : Json) : Option JobRecord := do
  let jobId ← reqText p "job_id"
  let createdAt ← reqText p "created_at"
  let updatedAt ← reqText p "updated_at"
  let prompt ← reqText p "prompt"
  let repo ← reqText p "repo"
  let baseSha ← optText p "base_sha"
  let model ← reqText p "model"
  let effort ← reqText p "effort"
  let timeoutSec ← intOr 300 p "timeout_sec"
  let status ← (reqText p "status").bind JobStatus.ofValue
  let attempt ← intOr 0 p "attempt"
  let maxAttempts ← intOr 3 p "max_attempts"
  let leaseUntil ← optText p "lease_until"
  let workerId ← optText p "worker_id"
  let conversationId ← optText p "conversation_id"
  let resultPath ← optText p "result_path"
  let rawEventsPath ← optText p "raw_events_path"
  let errorCode ← optText p "error_code"
  let stderr ← optText p "stderr"
  let startedAt ← optText p "started_at"
  let finishedAt ← optText p "finished_at"
  let branch ← optText p "branch"
  let headSha ← optText p "head_sha"
  let nextAttemptAt ← optText p "next_attempt_at"
  let sessionKey ← optText p "session_key"
  let scopeKey ← optText p "scope_key"
  let jobKind ← JobKind.ofValue (textOr JobKind.readOnly.value p "job_kind")
  let externalEffectClass ← ExternalEffectClass.ofValue
    (textOr ExternalEffectClass.none.value p "external_effect_class")
  let gateState ← GateState.ofValue (textOr GateState.ready.value p "gate_state")
  let authorizationRef ← optText p "authorization_ref"
  let verificationJobId ← optText p "verification_job_id"
  let expectedOutputSchema ← optDict p "expected_output_schema"
  let resultJson ← optDict p "result_json"
  return {
    jobId := jobId, createdAt, updatedAt, prompt, repo, baseSha, model, effort, timeoutSec,
    status, attempt, maxAttempts, leaseUntil, workerId, conversationId, resultPath,
    rawEventsPath, errorCode, stderr, startedAt, finishedAt, branch, headSha, nextAttemptAt,
    sessionKey, scopeKey, jobKind, externalEffectClass, gateState, authorizationRef,
    verificationJobId, expectedOutputSchema, resultJson }

/-! ### Choosing the next job -/

/-- The order of `claim_next`: creation time, then identifier. -/
def earlier (a b : JobRecord) : Bool :=
  a.createdAt < b.createdAt || (a.createdAt == b.createdAt && a.jobId < b.jobId)

/-- The first job in that order. -/
def earliest : List JobRecord → Option JobRecord
  | [] => none
  | job :: jobs =>
    match earliest jobs with
    | none => some job
    | some other => if earlier other job then some other else some job

theorem earliest_mem : ∀ {jobs : List JobRecord} {job : JobRecord},
    earliest jobs = some job → job ∈ jobs
  | [], _, h => by simp [earliest] at h
  | a :: jobs, job, h => by
    rw [earliest] at h
    split at h
    · simp_all
    · rename_i other ho
      split_ifs at h
      · exact List.mem_cons_of_mem _ (earliest_mem (by rw [ho]; exact h))
      · simp_all

/-! ### Result artifacts -/

/-- The result files: for each job the JSON text of its file. -/
abbrev Artifacts := List (String × Dict)

/-- `write_result`: the file is written once, a second writing must agree with it. -/
def writeResult (a : Artifacts) (jobId : String) (envelope : Dict) :
    Except StoreError Unit × Artifacts :=
  match a.find? (·.1 == jobId) with
  | some (_, existing) =>
    if existing = dumps envelope then (.ok (), a)
    else (.error (.storage ("Result artifact for " ++ jobId ++ " already differs")), a)
  | none => (.ok (), a ++ [(jobId, dumps envelope)])

/-! ### The store interface -/

/-- A call of the store interface with its arguments. -/
inductive Op where
  | createJob (job : JobRecord)
  | claimNext (workerId now : String) (leaseTtlSec : ℤ) (eligibleKinds : Option (List JobKind))
  | heartbeat (jobId workerId leaseUntil : String)
  | recoverExpired (now : String)
  | updateConversationId (jobId conversationId : String)
  | markSuccess (jobId workerId : String) (result : Dict) (resultPath : String)
      (conversationId headSha : Option String) (gateState : GateState)
  | markFailure (jobId workerId errorCode : String) (stderr : Option String)
      (result : Option Dict) (headSha : Option String) (gateState : GateState)
  | scheduleRetry (jobId nextAttemptAt errorCode : String) (stderr : Option String)
  | retryFailed (jobId now : String)
  | cancel (jobId : String)

/-- A call and the readings of `utc_iso()` it makes. -/
structure Call where
  clock : ℕ → String
  op : Op

/-- What a call returns. -/
inductive Reply where
  | done
  | flag (b : Bool)
  | job (job : Option JobRecord)
  | ids (jobIds : List String)
  deriving DecidableEq

/-- The answer of a call: a value or an exception. -/
abbrev Answer := Except StoreError Reply

end Blessing.Queue.Storage
