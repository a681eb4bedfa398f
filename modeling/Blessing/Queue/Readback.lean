import Blessing.Queue.Jsonl

/-! # Reading the JSONL files back

A record that goes through a line comes back redacted: `stored job`. With that the two files can be
forgotten: `readJobs` after an update is `upsert` of the stored record (`readJobs_appendUpdate`),
and after a new job the stored record at the end (`readJobs_inbox`). -/

namespace Blessing.Queue.Readback

open Blessing.Lib.Values Blessing.Lib.Table
open Blessing.Queue.Models Blessing.Queue.Security Blessing.Queue.Storage Blessing.Queue.Jsonl

/-! ### A record through a line -/

/-- The record read back from the line of `job`. -/
def stored (job : JobRecord) : JobRecord :=
  { job with
    jobId := redactText job.jobId, createdAt := redactText job.createdAt,
    updatedAt := redactText job.updatedAt, prompt := redactText job.prompt,
    repo := redactText job.repo, baseSha := job.baseSha.map redactText,
    model := redactText job.model, effort := redactText job.effort,
    leaseUntil := job.leaseUntil.map redactText, workerId := job.workerId.map redactText,
    conversationId := job.conversationId.map redactText,
    resultPath := job.resultPath.map redactText,
    rawEventsPath := job.rawEventsPath.map redactText, errorCode := job.errorCode.map redactText,
    stderr := job.stderr.map redactText, startedAt := job.startedAt.map redactText,
    finishedAt := job.finishedAt.map redactText, branch := job.branch.map redactText,
    headSha := job.headSha.map redactText, nextAttemptAt := job.nextAttemptAt.map redactText,
    sessionKey := job.sessionKey.map redactText, scopeKey := job.scopeKey.map redactText,
    authorizationRef := some "<REDACTED>",
    verificationJobId := job.verificationJobId.map redactText,
    expectedOutputSchema := job.expectedOutputSchema.map dumps,
    resultJson := job.resultJson.map dumps }

theorem get?_redactJson (kvs : List (String × Json)) (k : String) :
    (redactJson (.obj kvs)).get? k = ((Json.obj kvs).get? k).map (redactUnder k) := by
  rw [redactJson_obj, Json.get?, Json.get?, List.find?_map]
  simp only [Function.comp_def, Option.map_map]
  cases h : kvs.find? (·.1 == k) with
  | none => rfl
  | some kv =>
    have hk : kv.1 = k := by simpa using List.find?_some h
    simp [hk]

theorem get?_line (kvs : List (String × Json)) (k : String) :
    (line (.obj kvs)).get? k =
      ((Json.obj kvs).get? k).map fun v => (redactUnder k v).sortKeys := by
  rw [line, Json.get?_sortKeys, get?_redactJson, Option.map_map]
  rfl

theorem redactUnder_str {k : String} (h : isSecretKey k = false) (s : String) :
    (redactUnder k (.str s)).sortKeys = .str (redactText s) := by
  simp [redactUnder, h, Json.sortKeys]

theorem redactUnder_int {k : String} (h : isSecretKey k = false) (n : ℤ) :
    (redactUnder k (.int n)).sortKeys = .int n := by
  simp [redactUnder, h, Json.sortKeys]

theorem redactUnder_text {k : String} (h : isSecretKey k = false) (s : Option String) :
    (redactUnder k (ofText s)).sortKeys = ofText (s.map redactText) := by
  cases s <;> simp [redactUnder, h, Json.sortKeys, ofText]

theorem redactUnder_dict {k : String} (h : isSecretKey k = false) (d : Option Dict) :
    (redactUnder k (ofDict d)).sortKeys = ofDict (d.map dumps) := by
  cases d <;> simp [redactUnder, h, Json.sortKeys, ofDict, dumps, redactFields_eq]

/-- The names of the columns `redact_json` looks into. -/
def openKeys : List String :=
  ["job_id", "created_at", "updated_at", "prompt", "repo", "base_sha", "model", "effort",
    "timeout_sec", "status", "attempt", "max_attempts", "lease_until", "worker_id",
    "conversation_id", "result_path", "raw_events_path", "result_json", "stderr", "error_code",
    "started_at", "finished_at", "branch", "head_sha", "next_attempt_at", "session_key",
    "scope_key", "job_kind", "external_effect_class", "gate_state", "verification_job_id",
    "expected_output_schema", "record_type", "job"]

theorem isSecretKey_openKeys : ∀ k ∈ openKeys, isSecretKey k = false := by decide +kernel

theorem isSecretKey_authorizationRef : isSecretKey "authorization_ref" = true := by decide +kernel

section Columns

variable (job : JobRecord) (k : String)

theorem get?_jobLine {v : Json} (h : (jobPayload job).get? k = some v) :
    (line (jobPayload job)).get? k = some (redactUnder k v).sortKeys := by
  rw [jobPayload, get?_line, ← jobPayload, h]
  rfl

theorem reqText_line (s : String) (hk : k ∈ openKeys)
    (h : (jobPayload job).get? k = some (.str s)) :
    reqText (line (jobPayload job)) k = some (redactText s) := by
  rw [reqText, get?_jobLine job k h, redactUnder_str (isSecretKey_openKeys k hk)]
  rfl

theorem textOr_line (s default : String) (hk : k ∈ openKeys)
    (h : (jobPayload job).get? k = some (.str s)) :
    textOr default (line (jobPayload job)) k = redactText s := by
  rw [textOr, get?_jobLine job k h, redactUnder_str (isSecretKey_openKeys k hk)]
  rfl

theorem optText_line (s : Option String) (hk : k ∈ openKeys)
    (h : (jobPayload job).get? k = some (ofText s)) :
    optText (line (jobPayload job)) k = some (s.map redactText) := by
  rw [optText, Json.get, get?_jobLine job k h, redactUnder_text (isSecretKey_openKeys k hk)]
  cases s <;> rfl

theorem intOr_line (n default : ℤ) (hk : k ∈ openKeys)
    (h : (jobPayload job).get? k = some (.int n)) :
    intOr default (line (jobPayload job)) k = some n := by
  rw [intOr, get?_jobLine job k h, redactUnder_int (isSecretKey_openKeys k hk)]

theorem optDict_line (d : Option Dict) (hk : k ∈ openKeys)
    (h : (jobPayload job).get? k = some (ofDict d)) :
    optDict (line (jobPayload job)) k = some (d.map dumps) := by
  rw [optDict, Json.get, get?_jobLine job k h, redactUnder_dict (isSecretKey_openKeys k hk)]
  cases d <;> rfl

end Columns

theorem redactText_value : (∀ x : JobStatus, redactText x.value = x.value) ∧
    (∀ x : JobKind, redactText x.value = x.value) ∧
    (∀ x : ExternalEffectClass, redactText x.value = x.value) ∧
    ∀ x : GateState, redactText x.value = x.value := by
  refine ⟨fun x => ?_, fun x => ?_, fun x => ?_, fun x => ?_⟩ <;> cases x <;> decide +kernel

theorem ofValue_redactText_status (x : JobStatus) :
    JobStatus.ofValue (redactText x.value) = some x := by
  rw [redactText_value.1]
  cases x <;> decide

theorem ofValue_redactText_kind (x : JobKind) : JobKind.ofValue (redactText x.value) = some x := by
  rw [redactText_value.2.1]
  cases x <;> decide

theorem ofValue_redactText_effect (x : ExternalEffectClass) :
    ExternalEffectClass.ofValue (redactText x.value) = some x := by
  rw [redactText_value.2.2.1]
  cases x <;> decide

theorem ofValue_redactText_gate (x : GateState) :
    GateState.ofValue (redactText x.value) = some x := by
  rw [redactText_value.2.2.2]
  cases x <;> decide

theorem optText_authorizationRef (job : JobRecord) :
    optText (line (jobPayload job)) "authorization_ref" = some (some "<REDACTED>") := by
  rw [optText, Json.get, get?_jobLine job _ (v := ofText job.authorizationRef) rfl, redactUnder,
    if_pos isSecretKey_authorizationRef]
  rfl

/-- **A record through a line**: it comes back as `stored job`, never as an error. -/
theorem payloadToJob_line (job : JobRecord) :
    payloadToJob (line (jobPayload job)) = some (stored job) := by
  have req := reqText_line job
  have opt := optText_line job
  simp only [payloadToJob,
    req "job_id" job.jobId (by decide) rfl, req "created_at" job.createdAt (by decide) rfl,
    req "updated_at" job.updatedAt (by decide) rfl, req "prompt" job.prompt (by decide) rfl,
    req "repo" job.repo (by decide) rfl, opt "base_sha" job.baseSha (by decide) rfl,
    req "model" job.model (by decide) rfl, req "effort" job.effort (by decide) rfl,
    intOr_line job "timeout_sec" job.timeoutSec _ (by decide) rfl,
    req "status" job.status.value (by decide) rfl,
    intOr_line job "attempt" job.attempt _ (by decide) rfl,
    intOr_line job "max_attempts" job.maxAttempts _ (by decide) rfl,
    opt "lease_until" job.leaseUntil (by decide) rfl,
    opt "worker_id" job.workerId (by decide) rfl,
    opt "conversation_id" job.conversationId (by decide) rfl,
    opt "result_path" job.resultPath (by decide) rfl,
    opt "raw_events_path" job.rawEventsPath (by decide) rfl,
    opt "error_code" job.errorCode (by decide) rfl, opt "stderr" job.stderr (by decide) rfl,
    opt "started_at" job.startedAt (by decide) rfl,
    opt "finished_at" job.finishedAt (by decide) rfl, opt "branch" job.branch (by decide) rfl,
    opt "head_sha" job.headSha (by decide) rfl,
    opt "next_attempt_at" job.nextAttemptAt (by decide) rfl,
    opt "session_key" job.sessionKey (by decide) rfl,
    opt "scope_key" job.scopeKey (by decide) rfl,
    textOr_line job "job_kind" job.jobKind.value _ (by decide) rfl,
    textOr_line job "external_effect_class" job.externalEffectClass.value _
      (by decide) rfl,
    textOr_line job "gate_state" job.gateState.value _ (by decide) rfl,
    optText_authorizationRef, opt "verification_job_id" job.verificationJobId (by decide) rfl,
    optDict_line job "expected_output_schema" job.expectedOutputSchema
      (by decide) rfl,
    optDict_line job "result_json" job.resultJson (by decide) rfl,
    Option.bind_eq_bind, Option.bind_some, ofValue_redactText_status, ofValue_redactText_kind,
    ofValue_redactText_effect, ofValue_redactText_gate]
  rfl

/-! ### The files -/

theorem readLine_line {recordType : String} (ht : recordType = "job" ∨ recordType = "job_update")
    (job : JobRecord) (jobs : List JobRecord) :
    readLine jobs (line (jobRecord recordType job)) =
      .ok (upsert JobRecord.jobId (stored job) jobs) := by
  have htype : (line (jobRecord recordType job)).get "record_type" = .str recordType := by
    have hred : redactText recordType = recordType := by
      rcases ht with rfl | rfl <;> decide +kernel
    rw [Json.get, jobRecord, get?_line]
    change ((redactUnder "record_type" (.str recordType)).sortKeys) = _
    rw [redactUnder_str (isSecretKey_openKeys _ (by decide)), hred]
  have hjob : (line (jobRecord recordType job)).get? "job" = some (line (jobPayload job)) := by
    rw [jobRecord, get?_line]
    change some ((redactUnder "job" (jobPayload job)).sortKeys) = _
    rw [redactUnder, isSecretKey_openKeys "job" (by decide)]
    rfl
  rw [readLine, if_pos (by rw [htype]; simpa using ht), hjob, Option.bind_some,
    payloadToJob_line]

/-- The files read as `jobs`: the inbox gives the identifiers, the log only updates them, so a row
added behind the inbox stays behind. -/
structure Reads (files : Files) (jobs : List JobRecord) : Prop where
  inbox : ∃ base, files.inbox.foldlM readLine [] = .ok base ∧
    base.map JobRecord.jobId = jobs.map JobRecord.jobId ∧
    ∀ xs : List JobRecord, (∀ x ∈ xs, x.jobId ∉ jobs.map JobRecord.jobId) →
      files.eventLog.foldlM readLine (base ++ xs) = .ok (jobs ++ xs)
  nodup : (jobs.map JobRecord.jobId).Nodup
  /-- the identifiers are no secrets -/
  fixed : ∀ job ∈ jobs, redactText job.jobId = job.jobId

variable {files : Files} {jobs : List JobRecord} {job : JobRecord}

theorem reads_empty : Reads empty [] where
  inbox := ⟨[], rfl, rfl, fun _ _ => rfl⟩
  nodup := by simp
  fixed := by simp

theorem Reads.readJobs (h : Reads files jobs) : readJobs files = .ok jobs := by
  obtain ⟨base, hbase, -, hlog⟩ := h.inbox
  have := hlog [] (by simp)
  simp only [List.append_nil] at this
  rw [Jsonl.readJobs, List.foldlM_append, hbase]
  exact this

/-- The rows after an update of one job. -/
def updated (job : JobRecord) (jobs : List JobRecord) : List JobRecord :=
  jobs.map fun r => if r.jobId = job.jobId then stored job else r

theorem Reads.appendUpdate (h : Reads files jobs) (job : JobRecord)
    (hmem : job.jobId ∈ jobs.map JobRecord.jobId) :
    Reads (appendUpdate job files) (updated job jobs) := by
  obtain ⟨r, hr, hid⟩ := List.mem_map.mp hmem
  have hjob : (stored job).jobId = job.jobId := by
    change redactText job.jobId = job.jobId
    rw [← hid]
    exact h.fixed r hr
  have hids : (updated job jobs).map JobRecord.jobId = jobs.map JobRecord.jobId := by
    rw [updated, List.map_map]
    refine List.map_congr_left fun r _ => ?_
    by_cases hr : r.jobId = job.jobId <;> simp [hr, hjob]
  obtain ⟨base, hbase, hbids, hlog⟩ := h.inbox
  refine ⟨⟨base, hbase, hbids.trans hids.symm, fun xs hxs => ?_⟩, hids ▸ h.nodup, ?_⟩
  · rw [hids] at hxs
    rw [Jsonl.appendUpdate, List.foldlM_append, hlog xs hxs]
    have hne : ∀ x ∈ xs, x.jobId ≠ (stored job).jobId := fun x hx he =>
      hxs x hx (by rw [he, hjob]; exact hmem)
    have hup : upsert JobRecord.jobId (stored job) (jobs ++ xs) = updated job jobs ++ xs := by
      rw [upsert_of_mem (by rw [hjob]; exact hmem) hne, hjob, updated]
    change (readLine (jobs ++ xs) (line (jobRecord "job_update" job)) >>= fun t => pure t) = _
    rw [readLine_line (.inr rfl), hup]
    rfl
  · intro r' hr'
    rw [updated, List.mem_map] at hr'
    obtain ⟨r, hr, rfl⟩ := hr'
    split_ifs with he
    · rw [hjob, ← he]; exact h.fixed r hr
    · exact h.fixed r hr

theorem Reads.create (h : Reads files jobs) (hnew : job.jobId ∉ jobs.map JobRecord.jobId)
    (hid : redactText job.jobId = job.jobId) :
    Reads { files with inbox := files.inbox ++ [line (jobRecord "job" job)] }
      (jobs ++ [stored job]) := by
  obtain ⟨base, hbase, hbids, hlog⟩ := h.inbox
  have hjob : (stored job).jobId = job.jobId := hid
  have hnone : lookup JobRecord.jobId (stored job).jobId base = none := by
    rw [← Option.not_isSome_iff_eq_none, lookup_isSome, hbids, hjob]
    exact hnew
  refine ⟨⟨base ++ [stored job], ?_, by simp [hbids], fun xs hxs => ?_⟩, ?_, ?_⟩
  · rw [List.foldlM_append, hbase]
    change (readLine base (line (jobRecord "job" job)) >>= fun t => pure t) = _
    rw [readLine_line (.inl rfl), upsert_of_none hnone]
    rfl
  · have := hlog (stored job :: xs) fun x hx => by
      rcases List.mem_cons.mp hx with rfl | hx
      · rw [hjob]; exact hnew
      · exact fun hmem => hxs x hx (by rw [List.map_append]; exact List.mem_append_left _ hmem)
    simpa using this
  · rw [List.map_append, List.nodup_append]
    exact ⟨h.nodup, by simp, by simpa [hjob] using hnew⟩
  · intro r hr
    rcases List.mem_append.mp hr with hr | hr
    · exact h.fixed r hr
    · rw [List.mem_singleton.mp hr, hjob]; exact hid

theorem Reads.get (h : Reads files jobs) (hmem : job ∈ jobs) :
    Jsonl.get files job.jobId = .ok (some job) := by
  rw [Jsonl.get, h.readJobs]
  exact congrArg Except.ok (lookup_of_mem h.nodup hmem)

theorem Reads.get_appendUpdate (h : Reads files jobs) (job : JobRecord)
    (hmem : job.jobId ∈ jobs.map JobRecord.jobId) :
    Jsonl.get (Jsonl.appendUpdate job files) job.jobId = .ok (some (stored job)) := by
  obtain ⟨row, hrow, hid⟩ := List.mem_map.mp hmem
  have hfixed : redactText job.jobId = job.jobId := by
    rw [← hid]
    exact h.fixed row hrow
  have hget := (h.appendUpdate job hmem).get (List.mem_map.mpr ⟨row, hrow, if_pos hid⟩)
  rwa [show (stored job).jobId = job.jobId from hfixed] at hget

theorem Reads.get_create (h : Reads files jobs) (hnew : job.jobId ∉ jobs.map JobRecord.jobId)
    (hid : redactText job.jobId = job.jobId) :
    Jsonl.get { files with inbox := files.inbox ++ [line (jobRecord "job" job)] } job.jobId =
      .ok (some (stored job)) := by
  have hget := (h.create hnew hid).get (List.mem_append_right jobs (List.mem_singleton.mpr rfl))
  rwa [show (stored job).jobId = job.jobId from hid] at hget

/-! ### `_mutate` -/

theorem mutate_none {clock : ℕ → String} {id : String}
    {operation : JobRecord → Except StoreError (JobRecord × Bool)} (h : Reads files jobs)
    (hl : lookup JobRecord.jobId id jobs = none) :
    mutate clock id operation files = (.ok none, files) := by
  simp only [mutate, h.readJobs, hl]

theorem mutate_some {clock : ℕ → String} {id : String}
    {operation : JobRecord → Except StoreError (JobRecord × Bool)} (h : Reads files jobs)
    {j j' : JobRecord} (hl : lookup JobRecord.jobId id jobs = some j) {b : Bool}
    (ho : operation j = .ok (j', b)) :
    mutate clock id operation files =
      (.ok (some ({ j' with updatedAt := clock 1 }, b)),
        Jsonl.appendUpdate { j' with updatedAt := clock 1 } files) := by
  simp only [mutate, h.readJobs, hl, ho]

theorem mutate_error {clock : ℕ → String} {id : String}
    {operation : JobRecord → Except StoreError (JobRecord × Bool)} (h : Reads files jobs)
    {j : JobRecord} (hl : lookup JobRecord.jobId id jobs = some j) {e : StoreError}
    (ho : operation j = .error e) :
    mutate clock id operation files = (.error e, files) := by
  simp only [mutate, h.readJobs, hl, ho]

end Blessing.Queue.Readback
