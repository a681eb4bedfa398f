import Blessing.Queue.LogRows
import Blessing.Queue.Rows

/-! # The fields of a record

The columns of a job one by one. `Field.named` lists the columns an operation assigns; in both
stores the other ones keep their value (`RowStep.value`, `Written.value`), and a record that goes
through a line of the log has every column redacted (`value_stored`). -/

namespace Blessing.Queue.Fields

open Blessing.Lib.Values
open Blessing.Queue.Models Blessing.Queue.Security Blessing.Queue.Storage Blessing.Queue.Jsonl
open Blessing.Queue.Readback Blessing.Queue.LogRows
open Blessing.Queue.Sqlite (Db)

/-- The fields of `JobRecord` in the order of `_job_payload`. -/
inductive Field where
  | jobId | createdAt | updatedAt | prompt | repo | baseSha | model | effort | timeoutSec | status
  | attempt | maxAttempts | leaseUntil | workerId | conversationId | resultPath | rawEventsPath
  | resultJson | stderr | errorCode | startedAt | finishedAt | branch | headSha | nextAttemptAt
  | sessionKey | scopeKey | jobKind | externalEffectClass | gateState | authorizationRef
  | verificationJobId | expectedOutputSchema
  deriving DecidableEq

/-- The key of the field. -/
def Field.name : Field → String
  | .jobId => "job_id"
  | .createdAt => "created_at"
  | .updatedAt => "updated_at"
  | .prompt => "prompt"
  | .repo => "repo"
  | .baseSha => "base_sha"
  | .model => "model"
  | .effort => "effort"
  | .timeoutSec => "timeout_sec"
  | .status => "status"
  | .attempt => "attempt"
  | .maxAttempts => "max_attempts"
  | .leaseUntil => "lease_until"
  | .workerId => "worker_id"
  | .conversationId => "conversation_id"
  | .resultPath => "result_path"
  | .rawEventsPath => "raw_events_path"
  | .resultJson => "result_json"
  | .stderr => "stderr"
  | .errorCode => "error_code"
  | .startedAt => "started_at"
  | .finishedAt => "finished_at"
  | .branch => "branch"
  | .headSha => "head_sha"
  | .nextAttemptAt => "next_attempt_at"
  | .sessionKey => "session_key"
  | .scopeKey => "scope_key"
  | .jobKind => "job_kind"
  | .externalEffectClass => "external_effect_class"
  | .gateState => "gate_state"
  | .authorizationRef => "authorization_ref"
  | .verificationJobId => "verification_job_id"
  | .expectedOutputSchema => "expected_output_schema"

/-- The value under it. -/
def Field.value (job : JobRecord) : Field → Json
  | .jobId => .str job.jobId
  | .createdAt => .str job.createdAt
  | .updatedAt => .str job.updatedAt
  | .prompt => .str job.prompt
  | .repo => .str job.repo
  | .baseSha => ofText job.baseSha
  | .model => .str job.model
  | .effort => .str job.effort
  | .timeoutSec => .int job.timeoutSec
  | .status => .str job.status.value
  | .attempt => .int job.attempt
  | .maxAttempts => .int job.maxAttempts
  | .leaseUntil => ofText job.leaseUntil
  | .workerId => ofText job.workerId
  | .conversationId => ofText job.conversationId
  | .resultPath => ofText job.resultPath
  | .rawEventsPath => ofText job.rawEventsPath
  | .resultJson => ofDict job.resultJson
  | .stderr => ofText job.stderr
  | .errorCode => ofText job.errorCode
  | .startedAt => ofText job.startedAt
  | .finishedAt => ofText job.finishedAt
  | .branch => ofText job.branch
  | .headSha => ofText job.headSha
  | .nextAttemptAt => ofText job.nextAttemptAt
  | .sessionKey => ofText job.sessionKey
  | .scopeKey => ofText job.scopeKey
  | .jobKind => .str job.jobKind.value
  | .externalEffectClass => .str job.externalEffectClass.value
  | .gateState => .str job.gateState.value
  | .authorizationRef => ofText job.authorizationRef
  | .verificationJobId => ofText job.verificationJobId
  | .expectedOutputSchema => ofDict job.expectedOutputSchema

/-- All of them. -/
def Field.all : List Field :=
  [.jobId, .createdAt, .updatedAt, .prompt, .repo, .baseSha, .model, .effort, .timeoutSec,
    .status, .attempt, .maxAttempts, .leaseUntil, .workerId, .conversationId, .resultPath,
    .rawEventsPath, .resultJson, .stderr, .errorCode, .startedAt, .finishedAt, .branch, .headSha,
    .nextAttemptAt, .sessionKey, .scopeKey, .jobKind, .externalEffectClass, .gateState,
    .authorizationRef, .verificationJobId, .expectedOutputSchema]

theorem payloadFields_eq (job : JobRecord) :
    payloadFields job = Field.all.map fun f => (f.name, f.value job) := rfl

/-- The fields an operation assigns: the columns of its `SET` lists, `result_json` of the table
`job_results` among them. -/
def Field.named : Op → List Field
  | .createJob _ => []
  | .claimNext .. =>
    [.status, .attempt, .leaseUntil, .workerId, .startedAt, .updatedAt, .errorCode, .stderr]
  | .heartbeat .. => [.leaseUntil, .updatedAt]
  | .recoverExpired _ =>
    [.status, .gateState, .errorCode, .finishedAt, .nextAttemptAt, .leaseUntil,
      .workerId, .updatedAt]
  | .updateConversationId .. => [.conversationId, .updatedAt]
  | .markSuccess .. =>
    [.status, .gateState, .resultPath, .resultJson, .conversationId, .headSha, .finishedAt,
      .updatedAt, .leaseUntil, .workerId, .errorCode, .stderr]
  | .markFailure .. =>
    [.status, .gateState, .errorCode, .stderr, .resultJson, .headSha, .finishedAt, .updatedAt,
      .leaseUntil, .workerId]
  | .scheduleRetry .. =>
    [.status, .gateState, .nextAttemptAt, .errorCode, .stderr, .updatedAt, .leaseUntil, .workerId]
  | .retryFailed .. =>
    [.status, .gateState, .nextAttemptAt, .errorCode, .stderr, .finishedAt, .updatedAt]
  | .cancel _ => [.status, .gateState, .finishedAt, .updatedAt, .leaseUntil, .workerId]

variable {db : Db} {call : Call} {row row' : JobRecord} {f : Field}

/-- A row of the SQLite store keeps what the call does not name. -/
theorem value_rowStep (h : Rows.RowStep db call row row') (hf : f ∉ Field.named call.op) :
    f.value row' = f.value row := by
  cases h with
  | keep => rfl
  | recover hop =>
    rw [hop, Field.named] at hf
    unfold Sqlite.recover
    split <;> cases f <;> first | rfl | exact absurd (by decide) hf
  | claim hop | beat hop | converse hop | succeed hop | fail hop | requeue hop | reopen hop
  | withdraw hop =>
    rw [hop, Field.named] at hf
    cases f <;> first | rfl | exact absurd (by decide) hf

theorem updatedAt_named (h : ∀ job, call.op ≠ .createJob job) :
    Field.updatedAt ∈ Field.named call.op := by
  cases hop : call.op with
  | createJob job => exact absurd hop (h job)
  | _ => simp [Field.named]

/-- So does a record of the JSONL store up to the redaction of its line. -/
theorem value_written {answer : Answer} (h : Written call answer row row')
    (hf : f ∉ Field.named call.op) : f.value row' = f.value row := by
  cases h with
  | touch hop =>
    have hu : f ≠ .updatedAt := fun he => hf (he ▸ updatedAt_named hop)
    cases f <;> first | rfl | exact absurd rfl hu
  | recover hop =>
    rw [hop, Field.named] at hf
    unfold Jsonl.recover
    split <;> cases f <;> first | rfl | exact absurd (by decide) hf
  | claim hop | beat hop | converse hop | succeed hop | fail hop | requeue hop | reopen hop
  | withdraw hop =>
    rw [hop, Field.named] at hf
    cases f <;> first | rfl | exact absurd (by decide) hf

/-! ### A field through a line -/

/-- What a line makes of a value. -/
def Field.rewritten (f : Field) (v : Json) : Json := (redactUnder f.name v).sortKeys

/-- **A record through a line, field by field.** -/
theorem value_stored (job : JobRecord) (f : Field) :
    f.value (stored job) = f.rewritten (f.value job) := by
  obtain ⟨hstatus, hkind, heffect, hgate⟩ := redactText_value
  have hopen : ∀ k ∈ openKeys, isSecretKey k = false := isSecretKey_openKeys
  unfold Field.rewritten
  cases f with
  | status => exact ((redactUnder_str (hopen _ (by decide)) _).trans (by rw [hstatus]; rfl)).symm
  | jobKind => exact ((redactUnder_str (hopen _ (by decide)) _).trans (by rw [hkind]; rfl)).symm
  | externalEffectClass =>
    exact ((redactUnder_str (hopen _ (by decide)) _).trans (by rw [heffect]; rfl)).symm
  | gateState => exact ((redactUnder_str (hopen _ (by decide)) _).trans (by rw [hgate]; rfl)).symm
  | timeoutSec | attempt | maxAttempts => exact (redactUnder_int (hopen _ (by decide)) _).symm
  | jobId | createdAt | updatedAt | prompt | repo | model | effort =>
    exact (redactUnder_str (hopen _ (by decide)) _).symm
  | resultJson | expectedOutputSchema => exact (redactUnder_dict (hopen _ (by decide)) _).symm
  | authorizationRef =>
    rw [Field.name, redactUnder, if_pos isSecretKey_authorizationRef]
    rfl
  | _ => exact (redactUnder_text (hopen _ (by decide)) _).symm

end Blessing.Queue.Fields
