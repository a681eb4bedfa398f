import Blessing.Queue.Fields
import Blessing.Queue.Service

/-! # What the stores keep of a job

A submitted job that is created and read again. SQLite writes the output schema redacted; the JSONL
store redacts the whole record, and `authorization_ref` is a key `redact_json` takes for a secret.
Later operations leave the fields they do not name alone, but the JSONL store redacts them once more
with every line.

`durability` says exactly when a job whose texts UTF-8 can encode comes back as it was, and when the
other fields stay. A record that is read has no other texts, so no other job ever comes back. -/

namespace Blessing.Queue.Durability

open Blessing.Lib Blessing.Lib.Values Blessing.Lib.Table Blessing.Lib.Machine
open Blessing.Queue.Models Blessing.Queue.Security Blessing.Queue.Storage Blessing.Queue.Service
open Blessing.Queue.Readback Blessing.Queue.LogRows Blessing.Queue.Fields
open Blessing.Queue.Rows (Records storedResult_apply)
open Blessing.Queue.Sqlite (Db storedResult)
open Blessing.Queue.Jsonl (Files)

/-- Equal in every field. The order of the keys of an object does not count. -/
def SameRecord (found job : JobRecord) : Prop :=
  ∀ f : Field, (f.value found).sortKeys = (f.value job).sortKeys

/-- `redact_json` leaves the output schema as it is. -/
def SchemaKept (job : JobRecord) : Prop :=
  ∀ d ∈ job.expectedOutputSchema, (redactJson (.obj d)).sortKeys = (Json.obj d).sortKeys

/-- The job has nothing a redaction would touch, and its authorization is the very mark of one. -/
structure Unaltered (job : JobRecord) : Prop where
  prompt : redactText job.prompt = job.prompt
  repo : redactText job.repo = job.repo
  baseSha : job.baseSha.map redactText = job.baseSha
  model : redactText job.model = job.model
  effort : redactText job.effort = job.effort
  resultPath : job.resultPath.map redactText = job.resultPath
  rawEventsPath : job.rawEventsPath.map redactText = job.rawEventsPath
  branch : job.branch.map redactText = job.branch
  sessionKey : job.sessionKey.map redactText = job.sessionKey
  scopeKey : job.scopeKey.map redactText = job.scopeKey
  verificationJobId : job.verificationJobId.map redactText = job.verificationJobId
  authorizationRef : job.authorizationRef = some "<REDACTED>"
  schema : SchemaKept job

/-! ### A new job -/

theorem ofText_inj {s t : Option String} (h : ofText s = ofText t) : s = t := by
  cases s <;> cases t <;> simp_all [ofText]

theorem sortKeys_ofText (s : Option String) : (ofText s).sortKeys = ofText s := by
  cases s <;> rfl

theorem sortKeys_schema {schema : Option Dict} :
    (ofDict (schema.map dumps)).sortKeys = (ofDict schema).sortKeys ↔
      ∀ d ∈ schema, (redactJson (.obj d)).sortKeys = (Json.obj d).sortKeys := by
  cases schema with
  | none => simp
  | some d =>
    have hd : (Json.obj (dumps d)).sortKeys = (redactJson (.obj d)).sortKeys := by
      rw [← sortKeys_redactJson, Json.sortKeys_idem]
    simp only [ofDict, Option.map_some, Option.getD_some, hd, Option.mem_def, Option.some.injEq,
      forall_eq']

theorem sameRecord_insertedRow {job : JobRecord} (hres : job.resultJson = none) :
    SameRecord (Sqlite.insertedRow job) job ↔ SchemaKept job := by
  rw [SchemaKept, ← sortKeys_schema]
  refine ⟨fun h => h .expectedOutputSchema, fun h f => ?_⟩
  cases f with
  | expectedOutputSchema => exact h
  | resultJson => rw [Field.value, Field.value, hres]; rfl
  | _ => rfl

theorem sameRecord_stored {env : Env} {request : JobRequest} {job : JobRecord}
    (h : submit env request = .ok job) : SameRecord (stored job) job ↔ Unaltered job := by
  have hid := redactText_submitted h
  obtain ⟨-, prompt, kind, model, effort, schema, snapshot, authorizationRef, verificationJobId,
    sessionKey, scopeKey, rfl⟩ := submit_ok h
  generalize hjob : newJob env request prompt kind model effort schema snapshot authorizationRef
    verificationJobId sessionKey scopeKey = job at *
  have htext : ∀ {s t : Option String}, (ofText s).sortKeys = (ofText t).sortKeys ↔ s = t := by
    intro s t
    rw [sortKeys_ofText, sortKeys_ofText]
    exact ⟨ofText_inj, congrArg ofText⟩
  constructor
  · intro hs
    have hstr : ∀ {s t : String}, (Json.str s).sortKeys = (Json.str t).sortKeys → s = t :=
      fun h => Json.str.inj h
    exact {
      prompt := hstr (hs .prompt)
      repo := hstr (hs .repo)
      baseSha := htext.mp (hs .baseSha)
      model := hstr (hs .model)
      effort := hstr (hs .effort)
      resultPath := htext.mp (hs .resultPath)
      rawEventsPath := htext.mp (hs .rawEventsPath)
      branch := htext.mp (hs .branch)
      sessionKey := htext.mp (hs .sessionKey)
      scopeKey := htext.mp (hs .scopeKey)
      verificationJobId := htext.mp (hs .verificationJobId)
      authorizationRef := (htext.mp (hs .authorizationRef)).symm
      schema := sortKeys_schema.mp (hs .expectedOutputSchema) }
  · intro hu f
    have hnow : redactText job.createdAt = job.createdAt ∧
        redactText job.updatedAt = job.updatedAt := by
      subst hjob
      exact ⟨redactText_utcIso env.now, redactText_utcIso env.now⟩
    have hnone : ∀ s ∈ [job.leaseUntil, job.workerId, job.conversationId, job.errorCode, job.stderr,
        job.startedAt, job.finishedAt, job.headSha, job.nextAttemptAt], s = none := by
      subst hjob
      simp [newJob]
    have hunset : ∀ {s : Option String}, s = none → s.map redactText = s := fun h => by rw [h]; rfl
    have hstr : ∀ {s : String}, redactText s = s →
        (Json.str (redactText s)).sortKeys = (Json.str s).sortKeys := fun h => by rw [h]
    cases f with
    | jobId => exact hstr hid
    | createdAt => exact hstr hnow.1
    | updatedAt => exact hstr hnow.2
    | prompt => exact hstr hu.prompt
    | repo => exact hstr hu.repo
    | model => exact hstr hu.model
    | effort => exact hstr hu.effort
    | baseSha => exact htext.mpr hu.baseSha
    | resultPath => exact htext.mpr hu.resultPath
    | rawEventsPath => exact htext.mpr hu.rawEventsPath
    | branch => exact htext.mpr hu.branch
    | sessionKey => exact htext.mpr hu.sessionKey
    | scopeKey => exact htext.mpr hu.scopeKey
    | verificationJobId => exact htext.mpr hu.verificationJobId
    | authorizationRef => exact htext.mpr hu.authorizationRef.symm
    | expectedOutputSchema => exact sortKeys_schema.mpr hu.schema
    | leaseUntil | workerId | conversationId | errorCode | stderr | startedAt | finishedAt | headSha
    | nextAttemptAt => exact htext.mpr (hunset (hnone _ (by simp)))
    | resultJson =>
      have hres : job.resultJson = none := by rw [← hjob]; rfl
      rw [Field.value, Field.value, stored, hres]
      rfl
    | timeoutSec | status | attempt | maxAttempts | jobKind | externalEffectClass | gateState => rfl

/-! ### SQLite -/

section Sqlite

variable {db : Db} {call : Call} {id : String}

theorem mem_jobs_apply (call : Call) (h : id ∈ db.jobs.map JobRecord.jobId) :
    id ∈ (Sqlite.apply db call).2.jobs.map JobRecord.jobId := by
  obtain ⟨row, hrow, rfl⟩ := List.mem_map.mp h
  obtain ⟨row', hrow', hstep⟩ := Rows.apply_mem call hrow
  exact List.mem_map.mpr ⟨row', hrow', hstep.jobId⟩

theorem mem_jobs_of_records (h : Records id call (Sqlite.apply db call).1) :
    id ∈ db.jobs.map JobRecord.jobId := by
  rw [← lookup_isSome]
  obtain ⟨hans, ⟨_, _, _, _, _, _, hop⟩ | ⟨_, _, _, _, _, _, hop⟩⟩ := h
  · simp only [Sqlite.apply, hop, Sqlite.markSuccess] at hans
    cases hl : lookup JobRecord.jobId id db.jobs with
    | none => rw [hl] at hans; cases hans
    | some row => rfl
  · simp only [Sqlite.apply, hop, Sqlite.markFailure] at hans
    cases hl : lookup JobRecord.jobId id db.jobs with
    | none => rw [hl] at hans; cases hans
    | some row => rfl

/-- There is no stored result without its job. -/
def Owned (db : Db) : Prop := ∀ id, storedResult db id ≠ none → id ∈ db.jobs.map JobRecord.jobId

theorem owned_apply (h : Owned db) (call : Call) : Owned (Sqlite.apply db call).2 := by
  intro id hres
  refine mem_jobs_apply call ?_
  by_cases hrec : Records id call (Sqlite.apply db call).1
  · exact mem_jobs_of_records hrec
  · exact h id (storedResult_apply hrec ▸ hres)

theorem owned_run (calls : List Call) : Owned (run Sqlite.apply Sqlite.empty calls).2 := by
  have hstep : ∀ (calls : List Call) (db : Db), Owned db → Owned (run Sqlite.apply db calls).2 := by
    intro calls
    induction calls with
    | nil => exact fun _ h => h
    | cons call calls ih => exact fun db h => ih _ (owned_apply h call)
  exact hstep calls Sqlite.empty fun id h => absurd rfl h

theorem get_created {job : JobRecord} {clock : ℕ → String} (h : Owned db)
    (hnew : Sqlite.get db job.jobId = none) :
    Sqlite.get (Sqlite.apply db ⟨clock, .createJob job⟩).2 job.jobId =
      some (Sqlite.insertedRow job) := by
  have hnone : lookup JobRecord.jobId job.jobId db.jobs = none := Option.map_eq_none_iff.mp hnew
  have hmem : job.jobId ∉ db.jobs.map JobRecord.jobId := by
    rw [← lookup_isSome, hnone]
    simp
  have hres : storedResult db job.jobId = none := by
    by_contra hres
    exact hmem (h _ hres)
  have hjobs : (Sqlite.apply db ⟨clock, .createJob job⟩).2.jobs =
      db.jobs ++ [Sqlite.insertedRow job] := by
    simp only [Sqlite.apply, Sqlite.createJob, hmem, dif_neg, not_false_eq_true]
  have hstored : storedResult (Sqlite.apply db ⟨clock, .createJob job⟩).2 job.jobId = none := by
    rw [storedResult_apply (fun hrec => hmem (mem_jobs_of_records hrec)), hres]
  rw [Sqlite.get, hjobs, lookup_append, hnone, Option.none_or, lookup_cons,
    if_pos (show (Sqlite.insertedRow job).jobId = job.jobId from rfl), Option.map_some,
    Sqlite.rowToJob, show (Sqlite.insertedRow job).jobId = job.jobId from rfl, hstored]
  rfl

end Sqlite

/-! ### The other fields -/

/-- The call leaves the fields it does not name alone, for every job. -/
def Framed {S : Type} (step : S → Call → Answer × S)
    (get : S → String → Except StoreError (Option JobRecord)) (s : S) (call : Call) : Prop :=
  ∀ id before, get s id = .ok (some before) →
    ∃ after, get (step s call).2 id = .ok (some after) ∧
      ∀ f ∉ Field.named call.op, f.value after = f.value before

theorem ofDict_inj {s t : Option Dict} (h : ofDict s = ofDict t) : s = t := by
  cases s <;> cases t <;> simp_all [ofDict]

/-- A call that does not name `result_json` records no result. -/
theorem not_records {call : Call} {answer : Answer} {id : String}
    (h : Field.resultJson ∉ Field.named call.op) : ¬ Records id call answer := by
  rintro ⟨-, ⟨_, _, _, _, _, _, hop⟩ | ⟨_, _, _, _, _, _, hop⟩⟩
  · exact h (by rw [hop]; simp [Field.named])
  · exact h (by rw [hop]; simp [Field.named])

/-- **The frame of a call of SQLite.** -/
theorem framed_sqlite (db : Db) (call : Call) :
    Framed Sqlite.apply (fun db id => .ok (Sqlite.get db id)) db call := by
  intro id before hget
  obtain ⟨row, hl, rfl⟩ := Option.map_eq_some_iff.mp (Except.ok.inj hget)
  obtain rfl := key_of_lookup hl
  obtain ⟨row', hrow', hstep⟩ := Rows.apply_mem call (mem_of_lookup hl)
  have hid := hstep.jobId
  refine ⟨Sqlite.rowToJob (Sqlite.apply db call).2 row', ?_, fun f hf => ?_⟩
  · simp only [Sqlite.get]
    rw [← hid, Rows.lookup_jobs hrow', Option.map_some]
  · have hkeep := value_rowStep hstep hf
    cases f with
    | resultJson =>
      have hrow := ofDict_inj hkeep
      rw [Field.value, Field.value, Sqlite.rowToJob, Sqlite.rowToJob, hid, hrow,
        storedResult_apply (not_records hf)]
    | _ => exact hkeep

/-! ### Values that settle

The JSONL store writes the whole record with every change, so a field keeps its value only if
redacting it once more does nothing. -/

/-- One redaction of the text is enough. -/
def Settles (s : String) : Prop := redactText (redactText s) = redactText s

/-- One redaction of the object is enough. -/
def SettlesDict (d : Dict) : Prop := dumps (dumps d) = dumps d

/-- One writing of the value is enough. -/
def Settled (f : Field) (v : Json) : Prop := f.rewritten (f.rewritten v) = f.rewritten v

/-- What a call passes on to the store is redacted once and for all. -/
def SettledCall (call : Call) : Prop :=
  Settles (call.clock 0) ∧ Settles (call.clock 1) ∧
    match call.op with
    | .createJob job => ∀ f, Settled f (f.value job)
    | .claimNext workerId now _ _ => Settles workerId ∧ Settles now
    | .heartbeat _ _ leaseUntil => Settles leaseUntil
    | .recoverExpired now => Settles now
    | .updateConversationId _ conversationId => Settles conversationId
    | .markSuccess _ _ result resultPath conversationId headSha _ =>
      SettlesDict (redactFields result) ∧ Settles resultPath ∧ (∀ t ∈ conversationId, Settles t) ∧
        ∀ t ∈ headSha, Settles t
    | .markFailure _ _ errorCode stderr result headSha _ =>
      Settles errorCode ∧ (∀ t ∈ stderr, Settles t) ∧
        (∀ d ∈ result, SettlesDict (redactFields d)) ∧ ∀ t ∈ headSha, Settles t
    | .scheduleRetry _ nextAttemptAt errorCode stderr =>
      Settles nextAttemptAt ∧ Settles errorCode ∧ ∀ t ∈ stderr, Settles t
    | .retryFailed _ now => Settles now
    | .cancel _ => True

section Settled

variable {f : Field} {row row' : JobRecord} {call : Call} {answer : Answer}

theorem settled_str (hk : f.name ∈ openKeys) {s : String} (h : Settles s) : Settled f (.str s) := by
  have hopen := isSecretKey_openKeys f.name hk
  rw [Settled, Field.rewritten, Field.rewritten, redactUnder_str hopen, redactUnder_str hopen, h]

theorem settled_text (hk : f.name ∈ openKeys) {s : Option String} (h : ∀ t ∈ s, Settles t) :
    Settled f (ofText s) := by
  cases s with
  | none =>
    have hopen := isSecretKey_openKeys f.name hk
    rw [Settled, Field.rewritten, Field.rewritten, redactUnder_text hopen, redactUnder_text hopen]
    rfl
  | some s => exact settled_str hk (h s rfl)

theorem settled_int (hk : f.name ∈ openKeys) (n : ℤ) : Settled f (.int n) := by
  have hopen := isSecretKey_openKeys f.name hk
  rw [Settled, Field.rewritten, Field.rewritten, redactUnder_int hopen, redactUnder_int hopen]

theorem settled_dict (hk : f.name ∈ openKeys) {d : Dict} (h : SettlesDict d) :
    Settled f (ofDict (some d)) := by
  have hopen := isSecretKey_openKeys f.name hk
  rw [Settled, Field.rewritten, Field.rewritten, redactUnder_dict hopen, redactUnder_dict hopen,
    Option.map_some, Option.map_some, h]

theorem settled_orElse (hk : f.name ∈ openKeys) {s t : Option String} (hs : ∀ u ∈ s, Settles u)
    (ht : Settled f (ofText t)) : Settled f (ofText (Jsonl.orElse s t)) := by
  unfold Jsonl.orElse
  split_ifs
  · exact settled_text hk hs
  · exact ht

theorem settles_value : (∀ x : JobStatus, Settles x.value) ∧ ∀ x : GateState, Settles x.value := by
  obtain ⟨hstatus, -, -, hgate⟩ := redactText_value
  exact ⟨fun x => by rw [Settles, hstatus, hstatus], fun x => by rw [Settles, hgate, hgate]⟩

theorem settles_of_fixed {s : String} (h : redactText s = s) : Settles s := by
  rw [Settles, h, h]

theorem settles_recovered : Settles "external_effect_uncertain" ∧
    Settles "lease_expired_attempts_exhausted" ∧ Settles "lease_expired" ∧
    Settles "manual_retry" := by
  refine ⟨?_, ?_, ?_, ?_⟩ <;> exact settles_of_fixed (by decide +kernel)

/-- Every value of the record settles. -/
def SettledRow (row : JobRecord) : Prop := ∀ f : Field, Settled f (f.value row)

theorem settled_none (hk : f.name ∈ openKeys) : Settled f (ofText none) := settled_text hk (by simp)

theorem settled_touch (hrow : SettledRow row) {now : String} (hnow : Settles now) :
    SettledRow { row with updatedAt := now } := by
  intro f
  cases f with
  | updatedAt => exact settled_str (by decide) hnow
  | _ => exact hrow _

theorem settled_claim (hrow : SettledRow row) {workerId now leaseUntil : String}
    (hworker : Settles workerId) (hnow : Settles now) (hlease : Settles leaseUntil) :
    SettledRow (Jsonl.claim workerId now leaseUntil row) := by
  intro f
  cases f with
  | status => exact settled_str (by decide) (settles_value.1 .running)
  | attempt => exact settled_int (by decide) _
  | leaseUntil => exact settled_str (by decide) hlease
  | workerId => exact settled_str (by decide) hworker
  | updatedAt => exact settled_str (by decide) hnow
  | errorCode | stderr => exact settled_none (by decide)
  | startedAt =>
    unfold Field.value Jsonl.claim Jsonl.orElse
    split_ifs
    · exact hrow .startedAt
    · exact settled_str (by decide) hnow
  | _ => exact hrow _

theorem settled_beat (hrow : SettledRow row) {leaseUntil : String} (hlease : Settles leaseUntil) :
    SettledRow (Jsonl.beat leaseUntil row) := by
  intro f
  cases f with
  | leaseUntil => exact settled_str (by decide) hlease
  | _ => exact hrow _

theorem settled_recover (hrow : SettledRow row) {now : String} (hnow : Settles now) :
    SettledRow (Jsonl.recover now row) := by
  obtain ⟨hstatus, hgate⟩ := settles_value
  obtain ⟨hrisky, hexhausted, hexpired, -⟩ := settles_recovered
  intro f
  unfold Jsonl.recover
  split
  · cases f with
    | status => exact settled_str (by decide) (hstatus .failed)
    | gateState => exact settled_str (by decide) (hgate .blocked)
    | finishedAt | updatedAt => exact settled_str (by decide) hnow
    | leaseUntil | workerId => exact settled_none (by decide)
    | errorCode =>
      refine settled_str (by decide) ?_
      split
      · exact hrisky
      · exact hexhausted
    | _ => exact hrow _
  · cases f with
    | status => exact settled_str (by decide) (hstatus .pending)
    | gateState => exact settled_str (by decide) (hgate .ready)
    | errorCode => exact settled_str (by decide) hexpired
    | nextAttemptAt | updatedAt => exact settled_str (by decide) hnow
    | leaseUntil | workerId => exact settled_none (by decide)
    | _ => exact hrow _

theorem settled_converse (hrow : SettledRow row) {conversationId : String}
    (hconv : Settles conversationId) : SettledRow (Jsonl.converse conversationId row) := by
  intro f
  cases f with
  | conversationId => exact settled_str (by decide) hconv
  | _ => exact hrow _

theorem settled_succeed (hrow : SettledRow row) {result : Dict} {resultPath now : String}
    {conversationId headSha : Option String} {gateState : GateState}
    (hresult : SettlesDict (redactFields result)) (hpath : Settles resultPath)
    (hconv : ∀ t ∈ conversationId, Settles t) (hsha : ∀ t ∈ headSha, Settles t)
    (hnow : Settles now) :
    SettledRow (Jsonl.succeed result resultPath conversationId headSha gateState now row) := by
  intro f
  cases f with
  | status => exact settled_str (by decide) (settles_value.1 .succeeded)
  | gateState => exact settled_str (by decide) (settles_value.2 _)
  | resultJson => exact settled_dict (by decide) hresult
  | resultPath => exact settled_str (by decide) hpath
  | conversationId => exact settled_orElse (by decide) hconv (hrow .conversationId)
  | headSha => exact settled_orElse (by decide) hsha (hrow .headSha)
  | finishedAt => exact settled_str (by decide) hnow
  | leaseUntil | workerId | errorCode | stderr => exact settled_none (by decide)
  | _ => exact hrow _

theorem settled_fail (hrow : SettledRow row) {errorCode now : String}
    {stderr headSha : Option String} {result : Option Dict} {gateState : GateState}
    (hcode : Settles errorCode) (hstderr : ∀ t ∈ stderr, Settles t)
    (hresult : ∀ d ∈ result, SettlesDict (redactFields d)) (hsha : ∀ t ∈ headSha, Settles t)
    (hnow : Settles now) :
    SettledRow (Jsonl.fail errorCode stderr result headSha gateState now row) := by
  intro f
  cases f with
  | status => exact settled_str (by decide) (settles_value.1 .failed)
  | gateState => exact settled_str (by decide) (settles_value.2 _)
  | errorCode => exact settled_str (by decide) hcode
  | stderr => exact settled_text (by decide) hstderr
  | resultJson =>
    cases result with
    | none => exact hrow .resultJson
    | some d => exact settled_dict (by decide) (hresult d rfl)
  | headSha => exact settled_orElse (by decide) hsha (hrow .headSha)
  | finishedAt => exact settled_str (by decide) hnow
  | leaseUntil | workerId => exact settled_none (by decide)
  | _ => exact hrow _

theorem settled_requeue (hrow : SettledRow row) {nextAttemptAt errorCode : String}
    {stderr : Option String} (hnext : Settles nextAttemptAt) (hcode : Settles errorCode)
    (hstderr : ∀ t ∈ stderr, Settles t) :
    SettledRow (Jsonl.requeue nextAttemptAt errorCode stderr row) := by
  intro f
  cases f with
  | status => exact settled_str (by decide) (settles_value.1 .pending)
  | gateState => exact settled_str (by decide) (settles_value.2 .ready)
  | nextAttemptAt => exact settled_str (by decide) hnext
  | errorCode => exact settled_str (by decide) hcode
  | stderr => exact settled_text (by decide) hstderr
  | leaseUntil | workerId => exact settled_none (by decide)
  | _ => exact hrow _

theorem settled_reopen (hrow : SettledRow row) {now : String} (hnow : Settles now) :
    SettledRow (Jsonl.reopen now row) := by
  intro f
  cases f with
  | status => exact settled_str (by decide) (settles_value.1 .pending)
  | gateState => exact settled_str (by decide) (settles_value.2 .ready)
  | nextAttemptAt => exact settled_str (by decide) hnow
  | errorCode => exact settled_str (by decide) settles_recovered.2.2.2
  | stderr | finishedAt => exact settled_none (by decide)
  | _ => exact hrow _

theorem settled_withdraw (hrow : SettledRow row) {now : String} (hnow : Settles now) :
    SettledRow (Jsonl.withdraw now row) := by
  intro f
  cases f with
  | status => exact settled_str (by decide) (settles_value.1 .cancelled)
  | gateState => exact settled_str (by decide) (settles_value.2 .blocked)
  | finishedAt => exact settled_str (by decide) hnow
  | leaseUntil | workerId => exact settled_none (by decide)
  | _ => exact hrow _

theorem settled_written (h : Written call answer row row') (hc : SettledCall call)
    (hrow : SettledRow row) : SettledRow row' := by
  obtain ⟨h0, h1, hc⟩ := hc
  cases h with
  | touch hop => exact settled_touch hrow h1
  | claim hop hl =>
    rw [hop] at hc
    exact settled_claim hrow hc.1 hc.2 (settles_of_fixed (leaseExpiry_text hl).1)
  | beat hop =>
    rw [hop] at hc
    exact settled_touch (settled_beat hrow hc) h1
  | recover hop =>
    rw [hop] at hc
    exact settled_recover hrow hc
  | converse hop =>
    rw [hop] at hc
    exact settled_touch (settled_converse hrow hc) h1
  | succeed hop =>
    rw [hop] at hc
    obtain ⟨hresult, hpath, hconv, hsha⟩ := hc
    exact settled_touch (settled_succeed hrow hresult hpath hconv hsha h0) h1
  | fail hop =>
    rw [hop] at hc
    obtain ⟨hcode, hstderr, hresult, hsha⟩ := hc
    exact settled_touch (settled_fail hrow hcode hstderr hresult hsha h0) h1
  | requeue hop =>
    rw [hop] at hc
    obtain ⟨hnext, hcode, hstderr⟩ := hc
    exact settled_touch (settled_requeue hrow hnext hcode hstderr) h1
  | reopen hop =>
    rw [hop] at hc
    exact settled_touch (settled_reopen hrow hc) h1
  | withdraw hop => exact settled_touch (settled_withdraw hrow h0) h1

end Settled

/-- The records of the files, redacted for good. -/
def SettledFiles (files : Files) : Prop :=
  ∃ jobs, Reads files jobs ∧ ∀ row ∈ jobs, ∀ f : Field, f.rewritten (f.value row) = f.value row

/-- The frame of a call of the JSONL store, and its records afterwards. -/
theorem framed_jsonl {files : Files} {call : Call} (h : SettledFiles files) (hc : SettledCall call)
    (hid : ∀ job, call.op = .createJob job → redactText job.jobId = job.jobId) :
    Framed Jsonl.apply Jsonl.get files call ∧ SettledFiles (Jsonl.apply files call).2 := by
  obtain ⟨jobs, hreads, hsettled⟩ := h
  obtain ⟨g, new, hreads', hg, hnew⟩ := apply_log hreads hid
  have hrows : ∀ row ∈ jobs, ∀ f : Field, Settled f (f.value row) := by
    intro row hrow f
    rw [Settled, hsettled row hrow f, hsettled row hrow f]
  constructor
  · intro id before hget
    have hl : lookup JobRecord.jobId id jobs = some before := by
      rw [Jsonl.get, hreads.readJobs] at hget
      exact Except.ok.inj hget
    obtain rfl := key_of_lookup hl
    have hmem := mem_of_lookup hl
    have hmem' : g before ∈ jobs.map g ++ new := List.mem_append_left _ (List.mem_map_of_mem hmem)
    have hgid : (g before).jobId = before.jobId := by
      rcases hg before hmem with he | ⟨job, hw, he⟩
      · rw [he]
      · rw [he, stored, hw.jobId]
        exact hreads.fixed before hmem
    refine ⟨g before, ?_, fun f hf => ?_⟩
    · rw [← hgid]
      exact hreads'.get hmem'
    · rcases hg before hmem with he | ⟨job, hw, he⟩
      · rw [he]
      · rw [he, value_stored, value_written hw hf, hsettled before hmem f]
  · refine ⟨_, hreads', fun row hrow f => ?_⟩
    rcases List.mem_append.mp hrow with hrow | hrow
    · obtain ⟨old, hold, rfl⟩ := List.mem_map.mp hrow
      rcases hg old hold with he | ⟨job, hw, he⟩
      · rw [he]
        exact hsettled old hold f
      · rw [he, value_stored]
        exact settled_written hw hc (hrows old hold) f
    · obtain ⟨job, hop, rfl, -⟩ := hnew row hrow
      rw [value_stored]
      have hjob := hc.2.2
      rw [hop] at hjob
      exact hjob f

theorem framed_run {files : Files} {calls : List Call} (h : SettledFiles files)
    (hc : ∀ call ∈ calls, SettledCall call) (hid : ∀ call ∈ calls, ∀ job,
      call.op = .createJob job → redactText job.jobId = job.jobId) :
    Admitted Jsonl.apply (Framed Jsonl.apply Jsonl.get) files calls := by
  induction calls generalizing files with
  | nil => trivial
  | cons call calls ih =>
    obtain ⟨hframe, hnext⟩ := framed_jsonl h (hc call (by simp)) (hid call (by simp))
    exact ⟨hframe, ih hnext (fun c hm => hc c (by simp [hm])) fun c hm => hid c (by simp [hm])⟩

/-- The job of a request whose authorization reads like a redacted one. -/
def markedJob : JobRecord := { sampleJob sampleId with authorizationRef := some "<REDACTED>" }

theorem submit_marked : submit sampleEnv
    { prompt := "Summarise", repo := "/r", authorizationRef := some "<REDACTED>" } =
      .ok markedJob := by
  decide +kernel

theorem unaltered_marked : Unaltered markedJob where
  prompt := by decide +kernel
  repo := by decide +kernel
  baseSha := by decide +kernel
  model := by decide +kernel
  effort := by decide +kernel
  resultPath := by decide +kernel
  rawEventsPath := by decide +kernel
  branch := by decide +kernel
  sessionKey := rfl
  scopeKey := by decide +kernel
  verificationJobId := rfl
  authorizationRef := rfl
  schema := by simp [SchemaKept, markedJob, sampleJob]

end Blessing.Queue.Durability
