import Blessing.Queue.Sqlite

/-! # What a call does to a row

Every call of the SQLite store changes the rows of the table one by one and keeps their identifiers;
`create_job` alone adds a row. `RowStep` lists what can happen to a row, with the conditions the
code checks, and `apply_rows` says that nothing else does. Invariants of the store are proved over
`RowStep` and never unfold an operation. -/

namespace Blessing.Queue.Rows

open Blessing.Lib Blessing.Lib.Values Blessing.Lib.Table
open Blessing.Queue.Models Blessing.Queue.Storage Blessing.Queue.Sqlite

variable {db : Db} {call : Call} {row row' : JobRecord}

/-- The job a call of `claim_next` returned. -/
def claimed (call : Call) (answer : Answer) : Option String :=
  match call.op, answer with
  | .claimNext .., .ok (.job (some job)) => some job.jobId
  | _, _ => none

/-- What a call can do to a row. -/
inductive RowStep (db : Db) (call : Call) (row : JobRecord) : JobRecord → Prop
  | keep (h : claimed call (apply db call).1 ≠ some row.jobId) : RowStep db call row row
  | claim {workerId now : String} {ttl : ℤ} {kinds : Option (List JobKind)} {leaseUntil : String}
      (hop : call.op = .claimNext workerId now ttl kinds)
      (hc : claimable now kinds db.jobs row = true) (hl : leaseExpiry now ttl = some leaseUntil)
      (h : claimed call (apply db call).1 = some row.jobId) :
      RowStep db call row (claim workerId now leaseUntil row)
  | beat {workerId leaseUntil : String} (hop : call.op = .heartbeat row.jobId workerId leaseUntil)
      (hs : row.status = .running) (hw : row.workerId = some workerId) :
      RowStep db call row (beat leaseUntil (call.clock 0) row)
  | recover {now : String} (hop : call.op = .recoverExpired now) (he : expired now row = true) :
      RowStep db call row (recover now row row)
  | converse {conversationId : String}
    (hop : call.op = .updateConversationId row.jobId conversationId) :
      RowStep db call row (converse conversationId (call.clock 0) row)
  | succeed {workerId : String} {result : Dict} {resultPath : String}
      {conversationId headSha : Option String} {gateState : GateState}
      (hop : call.op = .markSuccess row.jobId workerId result resultPath conversationId headSha
        gateState)
      (hs : row.status = .succeeded ∨ row.status = .running ∧ row.workerId = some workerId) :
      RowStep db call row
        (succeed (dumps result) resultPath conversationId headSha gateState (call.clock 0) row)
  | fail {workerId errorCode : String} {stderr : Option String} {result : Option Dict}
      {headSha : Option String} {gateState : GateState}
      (hop : call.op = .markFailure row.jobId workerId errorCode stderr result headSha gateState)
      (hs : row.status = .failed ∨ row.status = .running ∧ row.workerId = some workerId) :
      RowStep db call row
        (fail errorCode stderr (result.map dumps) headSha gateState (call.clock 0) row)
  | requeue {nextAttemptAt errorCode : String} {stderr : Option String}
      (hop : call.op = .scheduleRetry row.jobId nextAttemptAt errorCode stderr)
      (hs : row.status = .running) (hu : row.externalEffectClass.isUnsafe = false)
      (ha : row.attempt < row.maxAttempts) :
      RowStep db call row (requeue nextAttemptAt errorCode stderr (call.clock 0) row)
  | reopen {now : String} (hop : call.op = .retryFailed row.jobId now)
      (hs : row.status = .failed) (hu : row.externalEffectClass.isUnsafe = false)
      (ha : row.attempt < row.maxAttempts) : RowStep db call row (reopen now row)
  | withdraw (hop : call.op = .cancel row.jobId)
      (hs : row.status = .pending ∨ row.status = .running) :
      RowStep db call row (withdraw (call.clock 0) (call.clock 1) row)

/-- The row a call adds. -/
def Added (db : Db) (call : Call) (row : JobRecord) : Prop :=
  ∃ job, call.op = .createJob job ∧ row = insertedRow job ∧
    job.jobId ∉ db.jobs.map JobRecord.jobId

/-- The rows after a call are the rows before it, changed one by one, and the row it adds. -/
def Rowwise (db : Db) (call : Call) : Prop :=
  ∃ (g : JobRecord → JobRecord) (new : List JobRecord),
    (apply db call).2.jobs = db.jobs.map g ++ new ∧
      (∀ row ∈ db.jobs, RowStep db call row (g row)) ∧ ∀ row ∈ new, Added db call row

theorem Rowwise.of_update {p : JobRecord → Bool} {f : JobRecord → JobRecord}
    (h : (apply db call).2.jobs = Table.update p f db.jobs)
    (hf : ∀ row ∈ db.jobs, p row = true → RowStep db call row (f row))
    (hk : claimed call (apply db call).1 = none) : Rowwise db call := by
  refine ⟨fun row => if p row then f row else row, [], by simpa [Table.update] using h, ?_, by simp⟩
  intro row hrow
  dsimp only
  split_ifs with hp
  · exact hf row hrow hp
  · exact .keep (by simp [hk])

theorem Rowwise.of_eq (h : (apply db call).2 = db) (hk : claimed call (apply db call).1 = none) :
    Rowwise db call :=
  ⟨id, [], by simp [h], fun _ _ => .keep (by simp [hk]), by simp⟩

theorem eq_of_jobId (hr : row ∈ db.jobs) (hr' : row' ∈ db.jobs) (h : row.jobId = row'.jobId) :
    row = row' := List.inj_on_of_nodup_map db.primary hr hr' h

theorem lookup_jobs (hr : row ∈ db.jobs) : lookup JobRecord.jobId row.jobId db.jobs = some row :=
  lookup_of_mem db.primary hr

/-! ### Claims -/

/-- The conditions of `claim_next`, one by one. -/
structure Claimable (now : String) (kinds : Option (List JobKind)) (jobs : List JobRecord)
    (job : JobRecord) : Prop where
  pending : job.status = .pending
  ready : job.gateState = .ready
  left : job.attempt < job.maxAttempts
  due : ∀ t, job.nextAttemptAt = some t → t ≤ now
  free : ∀ active ∈ jobs, active.status = .running → active.scopeKey = job.scopeKey →
    job.scopeKey = none
  kind : ∀ ks, kinds = some ks → job.jobKind ∈ ks

theorem claimable_iff {now : String} {kinds : Option (List JobKind)} {jobs : List JobRecord}
    {job : JobRecord} : claimable now kinds jobs job = true ↔ Claimable now kinds jobs job := by
  simp only [claimable, Bool.and_eq_true, beq_iff_eq, decide_eq_true_eq, Option.all_eq_true,
    Bool.not_eq_true', List.any_eq_false, not_and, List.contains_iff_mem]
  constructor
  · rintro ⟨⟨⟨⟨⟨hs, hg⟩, ha⟩, hn⟩, hf⟩, hk⟩
    refine ⟨hs, hg, ha, hn, fun active hm hr he => ?_, hk⟩
    cases hsc : job.scopeKey with
    | none => rfl
    | some scope => exact absurd he (hf active hm ⟨hr, by simp [he, hsc]⟩)
  · rintro ⟨hs, hg, ha, hn, hf, hk⟩
    refine ⟨⟨⟨⟨⟨hs, hg⟩, ha⟩, hn⟩, fun active hm hr he => ?_⟩, hk⟩
    have hsome := hr.2
    rw [he, hf active hm hr.1 he] at hsome
    simp at hsome

/-- **What `claim_next` does**: nothing, or it claims one claimable row and returns it. -/
theorem claimNext_cases (workerId now : String) (ttl : ℤ) (kinds : Option (List JobKind))
    (db : Db) :
    ((claimNext workerId now ttl kinds db).2 = db ∧
      ∀ job, (claimNext workerId now ttl kinds db).1 ≠ .ok (some job)) ∨
    ∃ row leaseUntil, row ∈ db.jobs ∧ claimable now kinds db.jobs row = true ∧
      leaseExpiry now ttl = some leaseUntil ∧
      (claimNext workerId now ttl kinds db).1 =
        .ok (some (rowToJob db (claim workerId now leaseUntil row))) ∧
      (claimNext workerId now ttl kinds db).2 =
        db.update (fun job => job.jobId == row.jobId && job.status == .pending)
          (claim workerId now leaseUntil) (claim_jobId workerId now leaseUntil) := by
  unfold claimNext
  split_ifs with hk
  · exact .inl (by simp)
  split
  · exact .inl (by simp)
  · rename_i row hrow
    split
    · exact .inl (by simp)
    · rename_i leaseUntil hl
      have hmem := List.mem_filter.mp (earliest_mem hrow)
      refine .inr ⟨row, leaseUntil, hmem.1, hmem.2, hl, ?_, rfl⟩
      have hp : row.status = .pending := (claimable_iff.mp hmem.2).pending
      have hlook : lookup JobRecord.jobId row.jobId (db.update
          (fun job => job.jobId == row.jobId && job.status == .pending)
          (claim workerId now leaseUntil) (claim_jobId workerId now leaseUntil)).jobs =
            some (claim workerId now leaseUntil row) := by
        rw [Db.update_jobs, lookup_update (claim_jobId _ _ _), lookup_jobs hmem.1]
        simp [hp]
      simp only [Sqlite.get, hlook, Option.map_some]
      rfl

theorem rowwise_claimNext {workerId now : String} {ttl : ℤ} {kinds : Option (List JobKind)}
    (hop : call.op = .claimNext workerId now ttl kinds) : Rowwise db call := by
  rcases claimNext_cases workerId now ttl kinds db with ⟨hdb, hans⟩ | ⟨row, l, hr,
    hc, hl, hans, hdb⟩
  · refine .of_eq (by simp [apply, hop, hdb]) ?_
    cases h : (claimNext workerId now ttl kinds db).1 with
    | error e => simp [claimed, apply, hop, h, Except.map]
    | ok o =>
      cases o with
      | none => simp [claimed, apply, hop, h, Except.map]
      | some job => exact absurd h (hans job)
  · have hid : claimed call (apply db call).1 = some row.jobId := by
      simp [claimed, apply, hop, hans, Except.map, rowToJob, claim]
    have hp : row.status = .pending := (claimable_iff.mp hc).pending
    refine ⟨fun job => if job.jobId == row.jobId && job.status == .pending then
      claim workerId now l job else job, [], by simp [apply, hop, hdb, Db.update, Table.update],
      ?_, by simp⟩
    intro job hjob
    by_cases hj : job.jobId = row.jobId
    · obtain rfl := eq_of_jobId hjob hr hj
      simpa [hp] using RowStep.claim hop hc hl hid
    · simpa [hj] using @RowStep.keep db call job (by rw [hid]; simpa using Ne.symm hj)

/-! ### The other calls -/

theorem recoverExpired_jobs (now : String) (db : Db) : (recoverExpired now db).2.jobs =
    db.jobs.map fun row => if expired now row then recover now row row else row := by
  have hfold : ∀ (rows : List JobRecord) (db : Db),
      (rows.foldl (fun db row => db.update
        (fun job => job.jobId == row.jobId && job.status == .running) (recover now row)
        (recover_jobId now row)) db).jobs =
      rows.foldl (fun jobs row => Table.update
        (fun job => job.jobId = row.jobId && job.status == .running) (recover now row) jobs)
        db.jobs := by
    intro rows
    induction rows with
    | nil => intro db; rfl
    | cons row rows ih => intro db; simp only [List.foldl_cons, ih, Db.update_jobs]; rfl
  rw [recoverExpired, hfold, foldl_update_filter db.primary (recover_jobId now)]
  intro row hrow
  simp only [expired, Bool.and_eq_true] at hrow
  exact hrow.1

theorem recoverExpired_results (now : String) (db : Db) :
    (recoverExpired now db).2.results = db.results := by
  have hfold : ∀ (rows : List JobRecord) (db : Db),
      (rows.foldl (fun db row => db.update
        (fun job => job.jobId == row.jobId && job.status == .running) (recover now row)
        (recover_jobId now row)) db).results = db.results := by
    intro rows
    induction rows with
    | nil => intro db; rfl
    | cons row rows ih => intro db; simp only [List.foldl_cons, ih, Db.update_results]
  exact hfold _ db

theorem completes_iff {last : JobStatus} {jobId workerId : String} :
    completes last jobId workerId row = true ↔ row.jobId = jobId ∧
      (row.status = last ∨ row.status = .running ∧ row.workerId = some workerId) := by
  simp [completes]

/-- The row that is not fenced out is the one the `WHERE` clause selects. -/
theorem completes_of_not_fencedOut {last : JobStatus} {workerId : String}
    (hf : fencedOut last workerId row = false) :
    completes last row.jobId workerId row = true := by
  simp only [fencedOut, completes, beq_self_eq_true, Bool.true_and] at hf ⊢
  cases h1 : row.status == .running <;> cases h2 : row.status == last <;>
    cases h3 : row.workerId == some workerId <;> simp_all [bne]

theorem countP_completes {last : JobStatus} {workerId : String} (hrow : row ∈ db.jobs)
    (hf : fencedOut last workerId row = false) :
    0 < db.jobs.countP (completes last row.jobId workerId) :=
  List.countP_pos_iff.mpr ⟨row, hrow, completes_of_not_fencedOut hf⟩

theorem rowwise_markSuccess {jobId workerId : String} {result : Dict} {resultPath : String}
    {conversationId headSha : Option String} {gateState : GateState}
   
    (hop : call.op = .markSuccess jobId workerId result resultPath conversationId headSha gateState) :
    Rowwise db call := by
  have hk : claimed call (apply db call).1 = none := by simp [claimed, hop]
  cases hl : lookup JobRecord.jobId jobId db.jobs with
  | none => exact .of_eq (by simp [apply, hop, markSuccess, hl]) hk
  | some old =>
    by_cases hf : fencedOut .succeeded workerId old = true
    · exact .of_eq (by simp only [apply, hop, markSuccess, hl, hf, if_true]) hk
    by_cases hd : (storedResult db jobId).any (· ≠ dumps result) = true
    · exact .of_eq (by simp only [apply, hop, markSuccess, hl, hf, hd, if_true]; rfl) hk
    · refine .of_update (by simp only [apply, hop, markSuccess, hl, hf, hd]; rfl) ?_ hk
      intro row _ hp
      obtain ⟨rfl, hs⟩ := completes_iff.mp hp
      exact .succeed hop hs

theorem rowwise_markFailure {jobId workerId errorCode : String} {stderr : Option String}
    {result : Option Dict} {headSha : Option String} {gateState : GateState}
    (hop : call.op = .markFailure jobId workerId errorCode stderr result headSha gateState) :
    Rowwise db call := by
  have hk : claimed call (apply db call).1 = none := by simp [claimed, hop]
  cases hl : lookup JobRecord.jobId jobId db.jobs with
  | none => exact .of_eq (by simp [apply, hop, markFailure, hl]) hk
  | some old =>
    by_cases hf : fencedOut .failed workerId old = true
    · exact .of_eq (by simp only [apply, hop, markFailure, hl, hf, if_true]) hk
    · refine .of_update (p := completes .failed jobId workerId) (f := fail errorCode stderr
        (result.map dumps) headSha gateState (call.clock 0)) ?_ ?_ hk
      · simp only [apply, hop, markFailure, hl, hf]
        cases result <;> rfl
      · intro row _ hp
        obtain ⟨rfl, hs⟩ := completes_iff.mp hp
        exact .fail hop hs

theorem rowwise_scheduleRetry {jobId nextAttemptAt errorCode : String} {stderr : Option String}
    (hop : call.op = .scheduleRetry jobId nextAttemptAt errorCode stderr) : Rowwise db call := by
  have hk : claimed call (apply db call).1 = none := by simp [claimed, hop]
  cases hl : lookup JobRecord.jobId jobId db.jobs with
  | none => exact .of_eq (by simp [apply, hop, scheduleRetry, hl]) hk
  | some old =>
    by_cases hg : old.status != .running || old.externalEffectClass.isUnsafe ||
        old.maxAttempts ≤ old.attempt
    · exact .of_eq (by simp only [apply, hop, scheduleRetry, hl, hg, if_true]) hk
    · refine .of_update (by simp only [apply, hop, scheduleRetry, hl, hg]; rfl) ?_ hk
      intro row hrow hp
      simp only [Bool.and_eq_true, beq_iff_eq] at hp
      obtain ⟨rfl, hs⟩ := hp
      obtain rfl : row = old := Option.some.inj ((lookup_jobs hrow).symm.trans hl)
      simp only [Bool.or_eq_true, bne_iff_ne, decide_eq_true_eq, not_or, not_le,
        Bool.not_eq_true] at hg
      exact .requeue hop hs hg.1.2 hg.2

theorem rowwise_retryFailed {jobId now : String} (hop : call.op = .retryFailed jobId now) :
    Rowwise db call := by
  have hk : claimed call (apply db call).1 = none := by simp [claimed, hop]
  cases hl : lookup JobRecord.jobId jobId db.jobs with
  | none => exact .of_eq (by simp [apply, hop, retryFailed, hl]) hk
  | some old =>
    by_cases hg : old.status != .failed || old.externalEffectClass.isUnsafe ||
        old.maxAttempts ≤ old.attempt
    · exact .of_eq (by simp only [apply, hop, retryFailed, hl, hg, if_true]) hk
    · refine .of_update (by simp only [apply, hop, retryFailed, hl, hg]; rfl) ?_ hk
      intro row hrow hp
      simp only [Bool.and_eq_true, beq_iff_eq] at hp
      obtain ⟨rfl, hs⟩ := hp
      obtain rfl : row = old := Option.some.inj ((lookup_jobs hrow).symm.trans hl)
      simp only [Bool.or_eq_true, bne_iff_ne, decide_eq_true_eq, not_or, not_le,
        Bool.not_eq_true] at hg
      exact .reopen hop hs hg.1.2 hg.2

theorem rowwise_createJob {job : JobRecord} (hop : call.op = .createJob job) : Rowwise db call := by
  have hk : claimed call (apply db call).1 = none := by simp [claimed, hop]
  by_cases h : job.jobId ∈ db.jobs.map JobRecord.jobId
  · exact .of_eq (by simp only [apply, hop, createJob, h, dif_pos]) hk
  · refine ⟨id, [insertedRow job], ?_, fun _ _ => .keep (by simp [hk]), ?_⟩
    · simp only [apply, hop, createJob, h, dif_neg, not_false_eq_true, List.map_id]
    · intro row hrow
      exact ⟨job, hop, List.mem_singleton.mp hrow, h⟩

/-- **The rows after a call.** -/
theorem apply_rows (db : Db) (call : Call) : Rowwise db call := by
  cases hop : call.op with
  | createJob job => exact rowwise_createJob hop
  | claimNext workerId now ttl kinds => exact rowwise_claimNext hop
  | heartbeat jobId workerId leaseUntil =>
    refine .of_update (by simp only [apply, hop, heartbeat]; rfl) ?_ (by simp [claimed, hop])
    intro row _ hp
    simp only [owned, Bool.and_eq_true, beq_iff_eq] at hp
    obtain ⟨⟨rfl, hs⟩, hw⟩ := hp
    exact .beat hop hs hw
  | recoverExpired now =>
    refine .of_update (p := expired now) (f := fun row => recover now row row) ?_ ?_
      (by simp [claimed, hop])
    · simp only [apply, hop, recoverExpired_jobs]; rfl
    · exact fun row _ he => .recover hop he
  | updateConversationId jobId conversationId =>
    refine .of_update (by simp only [apply, hop, updateConversationId]; rfl) ?_
      (by simp [claimed, hop])
    intro row _ hp
    obtain rfl := beq_iff_eq.mp hp
    exact .converse hop
  | markSuccess => exact rowwise_markSuccess hop
  | markFailure => exact rowwise_markFailure hop
  | scheduleRetry => exact rowwise_scheduleRetry hop
  | retryFailed => exact rowwise_retryFailed hop
  | cancel jobId =>
    refine .of_update (by simp only [apply, hop, cancel]; rfl) ?_ (by simp [claimed, hop])
    intro row _ hp
    simp only [unfinished, Bool.and_eq_true, Bool.or_eq_true, beq_iff_eq] at hp
    obtain ⟨rfl, hs⟩ := hp
    exact .withdraw hop hs

/-- **What `recover_expired` does to an expired row**: it is failed for good, or goes back to the
queue if its effects are safe and an attempt is left. -/
theorem recover_cases (now : String) (row : JobRecord) :
    (recover now row row).status = .failed ∨ (recover now row row).status = .pending ∧
      row.externalEffectClass.isUnsafe = false ∧ row.attempt < row.maxAttempts := by
  by_cases h : (row.externalEffectClass.isUnsafe || row.maxAttempts ≤ row.attempt) = true
  · exact .inl (by simp only [recover, h, if_true])
  · refine .inr ⟨by simp only [recover, h, if_false, Bool.false_eq_true], ?_⟩
    simpa using h

@[simp] theorem recover_attempt (now : String) (row : JobRecord) :
    (recover now row row).attempt = row.attempt := by unfold recover; split <;> rfl

@[simp] theorem recover_maxAttempts (now : String) (row : JobRecord) :
    (recover now row row).maxAttempts = row.maxAttempts := by unfold recover; split <;> rfl

@[simp] theorem recover_externalEffectClass (now : String) (row : JobRecord) :
    (recover now row row).externalEffectClass = row.externalEffectClass := by
  unfold recover; split <;> rfl

@[simp] theorem recover_leaseUntil (now : String) (row : JobRecord) :
    (recover now row row).leaseUntil = none := by unfold recover; split <;> rfl

@[simp] theorem recover_workerId (now : String) (row : JobRecord) :
    (recover now row row).workerId = none := by unfold recover; split <;> rfl

theorem RowStep.jobId (h : RowStep db call row row') : row'.jobId = row.jobId := by
  cases h <;> simp

theorem mem_apply (h : row' ∈ (apply db call).2.jobs) :
    (∃ row ∈ db.jobs, RowStep db call row row') ∨ Added db call row' := by
  obtain ⟨g, new, hjobs, hg, hnew⟩ := apply_rows db call
  rw [hjobs, List.mem_append, List.mem_map] at h
  rcases h with ⟨row, hrow, rfl⟩ | h
  · exact .inl ⟨row, hrow, hg row hrow⟩
  · exact .inr (hnew row' h)

theorem apply_mem (call : Call) (h : row ∈ db.jobs) :
    ∃ row' ∈ (apply db call).2.jobs, RowStep db call row row' := by
  obtain ⟨g, new, hjobs, hg, -⟩ := apply_rows db call
  exact ⟨g row, by rw [hjobs]; exact List.mem_append_left _ (List.mem_map_of_mem h), hg row h⟩

/-! ### Stored results -/

/-- The call recorded a result for the job. -/
def Records (id : String) (call : Call) (answer : Answer) : Prop :=
  answer = .ok (.flag true) ∧
    ((∃ workerId result resultPath conversationId headSha gateState,
      call.op = .markSuccess id workerId result resultPath conversationId headSha gateState) ∨
    ∃ workerId errorCode stderr result headSha gateState,
      call.op = .markFailure id workerId errorCode stderr (some result) headSha gateState)

theorem storedResult_congr {db' : Db} (h : db'.results = db.results) (id : String) :
    storedResult db' id = storedResult db id := by
  simp only [storedResult, h]

/-- A call that records no result for the job leaves the stored one alone. -/
theorem storedResult_apply {id : String} (h : ¬ Records id call (apply db call).1) :
    storedResult (apply db call).2 id = storedResult db id := by
  cases hop : call.op with
  | createJob job =>
    refine storedResult_congr ?_ id
    simp only [apply, hop, createJob]
    split <;> rfl
  | claimNext workerId now ttl kinds =>
    refine storedResult_congr ?_ id
    simp only [apply, hop]
    rcases claimNext_cases workerId now ttl kinds db with ⟨he, -⟩ | ⟨_, _, _, _, _, _, he⟩ <;>
      rw [he]
    rfl
  | heartbeat | updateConversationId | cancel => simp only [apply, hop]; rfl
  | recoverExpired now =>
    refine storedResult_congr ?_ id
    simp only [apply, hop, recoverExpired_results]
  | scheduleRetry jobId =>
    refine storedResult_congr ?_ id
    simp only [apply, hop, scheduleRetry]
    split
    · rfl
    · split <;> rfl
  | retryFailed jobId =>
    refine storedResult_congr ?_ id
    simp only [apply, hop, retryFailed]
    split
    · rfl
    · split <;> rfl
  | markSuccess jobId workerId result resultPath conversationId headSha gateState =>
    cases hl : lookup JobRecord.jobId jobId db.jobs with
    | none => simp only [apply, hop, markSuccess, hl]
    | some row =>
      obtain rfl := key_of_lookup hl
      cases hf : fencedOut .succeeded workerId row with
      | true => simp only [apply, hop, markSuccess, hl, hf, if_true]
      | false =>
        cases hd : (storedResult db row.jobId).any (· ≠ dumps result) with
        | true => simp only [apply, hop, markSuccess, hl, hf, hd]; rfl
        | false =>
          have hans : (apply db call).1 = .ok (.flag true) := by
            simp only [apply, hop, markSuccess, hl, hf, hd,
              decide_eq_true (countP_completes (mem_of_lookup hl) hf)]
            rfl
          have hne : row.jobId ≠ id := by
            rintro rfl
            exact h ⟨hans, .inl ⟨_, _, _, _, _, _, hop⟩⟩
          simp only [apply, hop, markSuccess, hl, hf, hd]
          exact (storedResult_setResult db row.jobId (dumps result) id).trans (if_neg hne)
  | markFailure jobId workerId errorCode stderr result headSha gateState =>
    cases hl : lookup JobRecord.jobId jobId db.jobs with
    | none => simp only [apply, hop, markFailure, hl]
    | some row =>
      obtain rfl := key_of_lookup hl
      cases hf : fencedOut .failed workerId row with
      | true => simp only [apply, hop, markFailure, hl, hf, if_true]
      | false =>
        cases result with
        | none => simp only [apply, hop, markFailure, hl, hf]; rfl
        | some envelope =>
          have hans : (apply db call).1 = .ok (.flag true) := by
            simp only [apply, hop, markFailure, hl, hf,
              decide_eq_true (countP_completes (mem_of_lookup hl) hf)]
            rfl
          have hne : row.jobId ≠ id := by
            rintro rfl
            exact h ⟨hans, .inr ⟨_, _, _, _, _, _, hop⟩⟩
          simp only [apply, hop, markFailure, hl, hf]
          exact (storedResult_setResult db row.jobId (dumps envelope) id).trans (if_neg hne)

end Blessing.Queue.Rows
