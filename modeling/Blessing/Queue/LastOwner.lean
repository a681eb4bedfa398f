import Blessing.Queue.Ownership

/-! # Whose record a finished job shows

A job that ended has no worker any more, so the completions of the SQLite store accept any caller
for a job that is already in their own final state. `mark_success` compares the results and cannot
change a succeeded job. `mark_failure` compares nothing: a worker whose lease was recovered long ago
overwrites what the last owner, or `recover_expired`, wrote (`late_failure_overwrites`).

A run is followed together with its history: who holds the last claim of a job, and what that worker
or `recover_expired` wrote at its end. `terminal_records` says that succeeded and cancelled jobs
stay as they are in every run, that a failed one is left only through `retry_failed`, and that
failed jobs show the record of their last owner exactly in the runs without such a late failure. -/

namespace Blessing.Queue.LastOwner

open Blessing.Lib Blessing.Lib.Values Blessing.Lib.Table Blessing.Lib.Machine
open Blessing.Queue.Models Blessing.Queue.Storage Blessing.Queue.Service
open Blessing.Queue.Sqlite Blessing.Queue.Rows Blessing.Queue.Ownership

/-! ### The history of a run -/

/-- What a failed job shows of its end. -/
structure Ending where
  errorCode : Option String
  gateState : GateState
  result : Option Dict
  deriving DecidableEq

/-- The end a row shows, its result being the one in `job_results`. -/
def endingOf (db : Db) (row : JobRecord) : Ending :=
  ⟨row.errorCode, row.gateState, storedResult db row.jobId⟩

/-- What has happened to each job. -/
structure History where
  /-- the worker of the last claim that returned the job -/
  holder : String → Option String := fun _ => none
  /-- the end that worker or `recover_expired` wrote last; its stored result may be that of an
  earlier attempt, which an end without a result leaves as it is -/
  written : String → Option Ending := fun _ => none
  /-- since that claim `recover_expired` failed the job as `external_effect_uncertain` -/
  uncertain : String → Bool := fun _ => false

/-- The end the row of a job shows. -/
def shown (db : Db) (jobId : String) : Option Ending :=
  (lookup JobRecord.jobId jobId db.jobs).map (endingOf db)

/-- The expired row of a job. -/
def expiredRow (now : String) (db : Db) (jobId : String) : Option JobRecord :=
  (lookup JobRecord.jobId jobId db.jobs).filter (expired now)

/-- The history after a call. -/
def History.next (h : History) (db : Db) (call : Call) (answer : Answer) (db' : Db) : History :=
  match call.op with
  | .claimNext workerId .. =>
    match claimed call answer with
    | some jobId =>
      { h with
        holder := Function.update h.holder jobId (some workerId)
        uncertain := Function.update h.uncertain jobId false }
    | none => h
  | .recoverExpired now =>
    { h with
      written := fun jobId =>
        if (expiredRow now db jobId).isSome then shown db' jobId else h.written jobId
      uncertain := fun jobId =>
        match expiredRow now db jobId with
        | some row => row.externalEffectClass.isUnsafe
        | none => h.uncertain jobId }
  | .markFailure jobId workerId .. =>
    if answer = .ok (.flag true) ∧ h.holder jobId = some workerId then
      { h with written := Function.update h.written jobId (shown db' jobId) }
    else h
  | _ => h

/-- The store and its history. -/
structure State where
  db : Db
  history : History

/-- Before the first call. -/
def start : State := ⟨empty, {}⟩

/-- A call of the store. -/
def step (s : State) (call : Call) : Answer × State :=
  let (answer, db') := apply s.db call
  (answer, ⟨db', s.history.next s.db call answer db'⟩)

@[simp] theorem step_db (s : State) (call : Call) : (step s call).2.db = (apply s.db call).2 := rfl

/-! ### What the record of a job promises -/

/-- The jobs a call creates enter pending, without an attempt. -/
def EntersPending (call : Call) : Prop :=
  ∀ job, call.op = .createJob job → job.status = .pending ∧ job.attempt = 0

/-- A step leaves the status, the attempts and the result of a succeeded or cancelled job, and a
failed job leaves its status only through `retry_failed`. -/
structure Absorbing (s : State) (call : Call) : Prop where
  final : ∀ row ∈ s.db.jobs, row.status = .succeeded ∨ row.status = .cancelled →
    ∃ row' ∈ (step s call).2.db.jobs, row'.jobId = row.jobId ∧ row'.status = row.status ∧
      row'.attempt = row.attempt ∧
      storedResult (step s call).2.db row.jobId = storedResult s.db row.jobId
  failed : ∀ row ∈ s.db.jobs, row.status = .failed →
    (∃ row' ∈ (step s call).2.db.jobs, row'.jobId = row.jobId ∧ row'.status = .failed) ∨
      ∃ now, call.op = .retryFailed row.jobId now

/-- Every failed job shows what the holder of its last claim or `recover_expired` wrote. -/
def Owned (s : State) : Prop :=
  ∀ row ∈ s.db.jobs, row.status = .failed → s.history.written row.jobId = some (endingOf s.db row)

/-- The call is a `mark_failure` for the failed job of the row, by a worker that does not hold its
last claim, or after `recover_expired` failed it as `external_effect_uncertain`. -/
def IsLate (s : State) (call : Call) (row : JobRecord) : Prop :=
  row ∈ s.db.jobs ∧ row.status = .failed ∧
    ∃ workerId errorCode stderr result headSha gateState,
      call.op = .markFailure row.jobId workerId errorCode stderr result headSha gateState ∧
        (s.history.holder row.jobId ≠ some workerId ∨ s.history.uncertain row.jobId = true)

/-- Failed jobs show the record of their last owner after the step, and a late `mark_failure`
changes nothing. -/
structure Lasting (s : State) (call : Call) : Prop where
  owned : Owned (step s call).2
  late : ∀ row, IsLate s call row → row ∈ (step s call).2.db.jobs ∧
    storedResult (step s call).2.db row.jobId = storedResult s.db row.jobId

/-- No late `mark_failure` carries anything else than what the job already shows. -/
def Timely (s : State) (call : Call) : Prop :=
  ∀ row, IsLate s call row → ∀ workerId errorCode stderr result headSha gateState,
    call.op = .markFailure row.jobId workerId errorCode stderr result headSha gateState →
      fail errorCode stderr (result.map dumps) headSha gateState (call.clock 0) row = row ∧
        (result.map dumps).or (storedResult s.db row.jobId) = storedResult s.db row.jobId

/-! ### The two completions -/

variable {db : Db} {call : Call} {row row' : JobRecord} {s : State}

theorem markSuccess_fenced {workerId resultPath : String} {result : Dict}
    {conversationId headSha : Option String} {gateState : GateState} (hrow : row ∈ db.jobs)
    (hop : call.op = .markSuccess row.jobId workerId result resultPath conversationId
      headSha gateState) (hf : fencedOut .succeeded workerId row = true) :
    (apply db call).2 = db := by
  simp only [apply, hop, markSuccess, lookup_jobs hrow, hf, if_true]

theorem markFailure_fenced {workerId errorCode : String} {stderr : Option String}
    {result : Option Dict} {headSha : Option String} {gateState : GateState} (hrow : row ∈ db.jobs)
    (hop : call.op = .markFailure row.jobId workerId errorCode stderr result headSha gateState)
    (hf : fencedOut .failed workerId row = true) : (apply db call).2 = db := by
  simp only [apply, hop, markFailure, lookup_jobs hrow, hf, if_true]

/-- A succeeded job keeps its result: `mark_success` refuses another one. -/
theorem storedResult_markSuccess {workerId resultPath : String} {result text : Dict}
    {conversationId headSha : Option String} {gateState : GateState} (hrow : row ∈ db.jobs)
    (hop : call.op = .markSuccess row.jobId workerId result resultPath conversationId
      headSha gateState) (hstored : storedResult db row.jobId = some text) :
    storedResult (apply db call).2 row.jobId = some text := by
  by_cases hf : fencedOut .succeeded workerId row = true
  · rw [markSuccess_fenced hrow hop hf, hstored]
  · by_cases hd : (storedResult db row.jobId).any (· ≠ dumps result) = true
    · simp only [apply, hop, markSuccess, lookup_jobs hrow, hf, hd, if_true]
      exact hstored
    · simp only [apply, hop, markSuccess, lookup_jobs hrow, hf, hd]
      have htext : dumps result = text := by
        rw [hstored] at hd
        simpa using (not_ne_iff.mp fun hne => hd (by simpa using hne)).symm
      exact (storedResult_setResult db row.jobId (dumps result) row.jobId).trans (by simp [htext])

theorem stored_of_succeeded {workerId resultPath : String} {result : Dict}
    {conversationId headSha : Option String} {gateState : GateState} (hrow : row ∈ db.jobs)
    (hop : call.op = .markSuccess row.jobId workerId result resultPath conversationId
      headSha gateState) (hs : row.status = .running) (hw : row.workerId = some workerId)
    (hrow' : row' ∈ (apply db call).2.jobs) (hid : row'.jobId = row.jobId)
    (hsucceeded : row'.status = .succeeded) :
    (storedResult (apply db call).2 row.jobId).isSome := by
  have hf : fencedOut .succeeded workerId row = false := by simp [fencedOut, hs, hw]
  by_cases hd : (storedResult db row.jobId).any (· ≠ dumps result) = true
  · -- the result conflicts, so the job still runs
    have hdb : (apply db call).2 = db := by
      simp only [apply, hop, markSuccess, lookup_jobs hrow, hf, hd, if_true]
      rfl
    rw [hdb] at hrow'
    rw [eq_of_jobId hrow' hrow hid, hs] at hsucceeded
    cases hsucceeded
  · simp only [apply, hop, markSuccess, lookup_jobs hrow, hf, hd]
    exact Option.isSome_iff_exists.mpr ⟨dumps result,
      (storedResult_setResult db row.jobId (dumps result) row.jobId).trans (by simp)⟩

theorem markFailure_writes {workerId errorCode : String} {stderr : Option String}
    {result : Option Dict} {headSha : Option String} {gateState : GateState} (hrow : row ∈ db.jobs)
    (hop : call.op = .markFailure row.jobId workerId errorCode stderr result headSha gateState)
    (hf : fencedOut .failed workerId row = false) :
    (apply db call).1 = .ok (.flag true) ∧
      fail errorCode stderr (result.map dumps) headSha gateState (call.clock 0) row ∈
        (apply db call).2.jobs ∧
      storedResult (apply db call).2 row.jobId =
        (result.map dumps).or (storedResult db row.jobId) := by
  have hcount := countP_completes hrow hf
  have hjobs : (apply db call).2.jobs = Table.update (completes .failed row.jobId workerId)
      (fail errorCode stderr (result.map dumps) headSha gateState (call.clock 0)) db.jobs := by
    simp only [apply, hop, markFailure, lookup_jobs hrow, hf]
    cases result <;> rfl
  refine ⟨?_, ?_, ?_⟩
  · simp only [apply, hop, markFailure, lookup_jobs hrow, hf, decide_eq_true hcount]
    rfl
  · rw [hjobs, Table.update, List.mem_map]
    exact ⟨row, hrow, by rw [if_pos (completes_of_not_fencedOut hf)]⟩
  · simp only [apply, hop, markFailure, lookup_jobs hrow, hf]
    cases result with
    | none => rfl
    | some envelope =>
      exact (storedResult_setResult db row.jobId (dumps envelope) row.jobId).trans (by simp)

/-- A failed job fences no `mark_failure` out. -/
theorem not_fencedOut_failed (workerId : String) (h : row.status = .failed) :
    fencedOut .failed workerId row = false := by
  simp [fencedOut, h]

theorem eq_fail {workerId errorCode : String} {stderr : Option String} {result : Option Dict}
    {headSha : Option String} {gateState : GateState} (hrow : row ∈ db.jobs)
    (hop : call.op = .markFailure row.jobId workerId errorCode stderr result headSha gateState)
    (hf : fencedOut .failed workerId row = false) (hrow' : row' ∈ (apply db call).2.jobs)
    (hid : row'.jobId = row.jobId) :
    row' = fail errorCode stderr (result.map dumps) headSha gateState (call.clock 0) row := by
  refine eq_of_jobId hrow' (markFailure_writes hrow hop hf).2.1 ?_
  rw [hid, fail_jobId]

/-! ### Succeeded, cancelled and failed jobs -/

/-- What holds of every row in every run: a running row belongs to the holder of the last claim, and
a succeeded one has a result. -/
structure RowKept (s : State) (row : JobRecord) : Prop where
  held : row.status = .running → row.workerId = s.history.holder row.jobId
  result : row.status = .succeeded → (storedResult s.db row.jobId).isSome

theorem storedResult_final (hrow : row ∈ db.jobs)
    (hresult : row.status = .succeeded → (storedResult db row.jobId).isSome)
    (hfinal : row.status = .succeeded ∨ row.status = .cancelled) :
    storedResult (apply db call).2 row.jobId = storedResult db row.jobId := by
  by_cases hrec : Records row.jobId call (apply db call).1
  · obtain ⟨-, ⟨w, result, path, c, sha, g, hop⟩ | ⟨w, e, se, result, sha, g, hop⟩⟩ := hrec
    · rcases hfinal with hs | hs
      · obtain ⟨text, htext⟩ := Option.isSome_iff_exists.mp (hresult hs)
        rw [storedResult_markSuccess hrow hop htext, htext]
      · rw [markSuccess_fenced hrow hop (by simp [fencedOut, hs])]
    · have hfenced : fencedOut .failed w row = true := by
        rcases hfinal with hs | hs <;> simp [fencedOut, hs]
      rw [markFailure_fenced hrow hop hfenced]
  · exact storedResult_apply hrec

/-- Succeeded and cancelled jobs keep their status, and a failed job keeps it or is reopened. -/
theorem RowStep.status (h : RowStep db call row row') :
    (row.status = .succeeded ∨ row.status = .cancelled → row'.status = row.status) ∧
      (row.status = .failed → row'.status = .failed ∨
        ∃ now, call.op = .retryFailed row.jobId now) := by
  cases h with
  | keep => exact ⟨fun _ => rfl, fun h => .inl h⟩
  | converse => exact ⟨fun _ => rfl, fun h => .inl h⟩
  | claim hop hc =>
    have hp := (claimable_iff.mp hc).pending
    simp [hp]
  | beat hop hs => simp [hs]
  | recover hop he =>
    have hs : row.status = .running := by
      simp only [expired, Bool.and_eq_true, beq_iff_eq] at he
      exact he.1
    simp [hs]
  | succeed hop hs => rcases hs with hs | ⟨hs, -⟩ <;> simp [hs, succeed]
  | fail hop hs => rcases hs with hs | ⟨hs, -⟩ <;> simp [hs, Sqlite.fail]
  | requeue hop hs => simp [hs]
  | reopen hop hs => exact ⟨by simp [hs], fun _ => .inr ⟨_, hop⟩⟩
  | withdraw hop hs => rcases hs with hs | hs <;> simp [hs]

/-- No claim returns a final job, so its attempts stay. -/
theorem attempt_final (h : RowStep db call row row')
    (hfinal : row.status = .succeeded ∨ row.status = .cancelled) : row'.attempt = row.attempt := by
  obtain ⟨-, -, hattempt, hclaim, -⟩ := RowStep.attempt h
  by_cases hc : claimed call (apply db call).1 = some row.jobId
  · have hp := (hclaim hc).1
    rcases hfinal with hs | hs <;> simp [hs] at hp
  · simpa [hc] using hattempt

theorem absorbing (h : ∀ row ∈ s.db.jobs, RowKept s row) : Absorbing s call where
  final := by
    intro row hrow hfinal
    obtain ⟨row', hrow', hstep⟩ := apply_mem call hrow
    exact ⟨row', hrow', hstep.jobId, (RowStep.status hstep).1 hfinal, attempt_final hstep hfinal,
      storedResult_final hrow (h row hrow).result hfinal⟩
  failed := by
    intro row hrow hfailed
    obtain ⟨row', hrow', hstep⟩ := apply_mem call hrow
    rcases (RowStep.status hstep).2 hfailed with hs | hretry
    · exact .inl ⟨row', hrow', hstep.jobId, hs⟩
    · exact .inr hretry

/-! ### What a step does to the history -/

theorem holder_next {h : History} {answer : Answer} {db' : Db} {jobId : String}
    (hc : claimed call answer ≠ some jobId) :
    (h.next db call answer db').holder jobId = h.holder jobId := by
  cases hop : call.op with
  | claimNext workerId =>
    simp only [History.next, hop]
    cases hcl : claimed call answer with
    | none => rfl
    | some other =>
      have hne : jobId ≠ other := by
        rintro rfl
        exact hc hcl
      exact Function.update_of_ne hne _ _
  | markFailure =>
    simp only [History.next, hop]
    split_ifs <;> rfl
  | _ => simp only [History.next, hop]

theorem holder_claimed {h : History} {answer : Answer} {db' : Db} {jobId workerId now : String}
    {ttl : ℤ} {kinds : Option (List JobKind)} (hop : call.op = .claimNext workerId now ttl kinds)
    (hc : claimed call answer = some jobId) :
    (h.next db call answer db').holder jobId = some workerId := by
  simp only [History.next, hop, hc]
  exact Function.update_self _ _ _

theorem shown_of_mem (h : row ∈ db.jobs) : shown db row.jobId = some (endingOf db row) := by
  rw [shown, lookup_jobs h, Option.map_some]

/-- A call that is no completion of a failed job leaves what was written, and the stored result. -/
theorem written_failed (hrow : row ∈ s.db.jobs) (hfailed : row.status = .failed)
    (hop : ∀ w e se result sha g, call.op ≠ .markFailure row.jobId w e se result sha g) :
    (step s call).2.history.written row.jobId = s.history.written row.jobId ∧
      storedResult (step s call).2.db row.jobId = storedResult s.db row.jobId := by
  constructor
  · show (s.history.next s.db call (apply s.db call).1 (apply s.db call).2).written row.jobId = _
    cases hcall : call.op with
    | claimNext =>
      simp only [History.next, hcall]
      split <;> rfl
    | recoverExpired now =>
      have hnone : expiredRow now s.db row.jobId = none := by
        simp [expiredRow, lookup_jobs hrow, expired, hfailed]
      simp [History.next, hcall, hnone]
    | markFailure jobId w e se result sha g =>
      have hne : row.jobId ≠ jobId := by
        rintro rfl
        exact hop w e se result sha g hcall
      simp only [History.next, hcall]
      split_ifs
      · exact Function.update_of_ne hne _ _
      · rfl
    | _ => simp only [History.next, hcall]
  · by_cases hrec : Records row.jobId call (apply s.db call).1
    · obtain ⟨-, ⟨w, result, path, c, sha, g, hsuccess⟩ | ⟨w, e, se, result, sha, g, hfailure⟩⟩ :=
        hrec
      · have hfenced : fencedOut .succeeded w row = true := by simp [fencedOut, hfailed]
        rw [step_db, markSuccess_fenced hrow hsuccess hfenced]
      · exact absurd hfailure (hop w e se (some result) sha g)
    · exact storedResult_apply hrec

/-- A `mark_failure` of the holder of the last claim is recorded. -/
theorem written_markFailure {workerId errorCode : String} {stderr : Option String}
    {result : Option Dict} {headSha : Option String} {gateState : GateState}
    (hrow : row ∈ s.db.jobs)
    (hop : call.op = .markFailure row.jobId workerId errorCode stderr result headSha gateState)
    (hf : fencedOut .failed workerId row = false)
    (hholder : s.history.holder row.jobId = some workerId) :
    (step s call).2.history.written row.jobId = shown (step s call).2.db row.jobId := by
  show (s.history.next s.db call (apply s.db call).1 (apply s.db call).2).written row.jobId = _
  simp only [History.next, hop, (markFailure_writes hrow hop hf).1, hholder, and_self, if_true]
  exact Function.update_self _ _ _

/-- After a timely `mark_failure` the job shows what its last owner or `recover_expired` wrote. -/
theorem owned_markFailure {workerId errorCode : String} {stderr : Option String}
    {result : Option Dict} {headSha : Option String} {gateState : GateState}
    (hrow : row ∈ s.db.jobs) (hkept : RowKept s row) (howned : Owned s) (htimely : Timely s call)
    (hop : call.op = .markFailure row.jobId workerId errorCode stderr result headSha gateState)
    (hs : row.status = .failed ∨ row.status = .running ∧ row.workerId = some workerId)
    (hrow' : row' ∈ (step s call).2.db.jobs) (hid : row'.jobId = row.jobId) :
    (step s call).2.history.written row.jobId = some (endingOf (step s call).2.db row') := by
  have hf : fencedOut .failed workerId row = false := by
    rcases hs with hs | ⟨hs, hw⟩
    · exact not_fencedOut_failed workerId hs
    · simp [fencedOut, hs, hw]
  by_cases hholder : s.history.holder row.jobId = some workerId
  · rw [written_markFailure hrow hop hf hholder, ← hid, shown_of_mem hrow']
  · -- the call is late, so it writes what the job shows already
    have hfailed : row.status = .failed := by
      rcases hs with hs | ⟨hs, hw⟩
      · exact hs
      · exact absurd ((hkept.held hs).symm.trans hw) hholder
    have hlate : IsLate s call row := ⟨hrow, hfailed, _, _, _, _, _, _, hop, .inl hholder⟩
    obtain ⟨hsame, hresult⟩ := htimely row hlate _ _ _ _ _ _ hop
    have hrow'' : row' = row := (eq_fail hrow hop hf hrow' hid).trans hsame
    have hwritten : (step s call).2.history.written row.jobId = s.history.written row.jobId := by
      show (s.history.next s.db call (apply s.db call).1 (apply s.db call).2).written row.jobId = _
      simp only [History.next, hop, hholder, and_false, if_false]
    rw [hwritten, howned row hrow hfailed, hrow'', endingOf, endingOf, step_db,
      (markFailure_writes hrow hop hf).2.2, hresult]

/-! ### One step -/

theorem rowKept_step (hrows : ∀ row ∈ s.db.jobs, RowKept s row) (henters : EntersPending call) :
    ∀ row' ∈ (step s call).2.db.jobs, RowKept (step s call).2 row' := by
  intro row' hrow'
  rcases mem_apply hrow' with ⟨row, hrow, hstep⟩ | ⟨job, hop, rfl, -⟩
  · have hkept := hrows row hrow
    have hid := hstep.jobId
    constructor
    · intro hrunning
      rw [hid]
      show _ = (s.history.next s.db call (apply s.db call).1 (apply s.db call).2).holder row.jobId
      cases hstep with
      | keep hc => rw [holder_next hc, hkept.held hrunning]
      | claim hop hc hl hclaimed => exact (holder_claimed hop hclaimed).symm
      | beat hop hs => rw [holder_next (by simp [claimed, hop]), ← hkept.held hs, beat]
      | converse hop => rw [holder_next (by simp [claimed, hop]), ← hkept.held hrunning, converse]
      | @recover now hop he => rcases recover_cases now row with h | ⟨h, -⟩ <;> simp [h] at hrunning
      | succeed => simp [succeed] at hrunning
      | fail => simp [Sqlite.fail] at hrunning
      | requeue => simp [requeue] at hrunning
      | reopen => simp [reopen] at hrunning
      | withdraw => simp [withdraw] at hrunning
    · intro hsucceeded
      rw [hid, step_db]
      cases hstep with
      | keep =>
        exact (storedResult_final hrow hkept.result (.inl hsucceeded)) ▸ hkept.result hsucceeded
      | converse =>
        exact (storedResult_final hrow hkept.result (.inl hsucceeded)) ▸ hkept.result hsucceeded
      | @succeed w result path c sha g hop hs =>
        rcases hs with hs | ⟨hs, hw⟩
        · exact (storedResult_final hrow hkept.result (.inl hs)) ▸ hkept.result hs
        · exact stored_of_succeeded hrow hop hs hw hrow' hid hsucceeded
      | @recover now hop he =>
        rcases recover_cases now row with h | ⟨h, -⟩ <;> simp [h] at hsucceeded
      | claim => simp [claim] at hsucceeded
      | beat hop hs => simp [beat, hs] at hsucceeded
      | fail => simp [Sqlite.fail] at hsucceeded
      | requeue => simp [requeue] at hsucceeded
      | reopen => simp [reopen] at hsucceeded
      | withdraw => simp [withdraw] at hsucceeded
  · have hpending := (henters job hop).1
    exact ⟨by simp [insertedRow, hpending], by simp [insertedRow, hpending]⟩

theorem owned_step (hrows : ∀ row ∈ s.db.jobs, RowKept s row) (howned : Owned s)
    (henters : EntersPending call) (htimely : Timely s call) : Owned (step s call).2 := by
  intro row' hrow' hfailed'
  rcases mem_apply hrow' with ⟨row, hrow, hstep⟩ | ⟨job, hop, rfl, -⟩
  · have hid := hstep.jobId
    rw [hid]
    cases hstep with
    | keep =>
      by_cases hop : ∃ w e se result sha g, call.op = .markFailure row'.jobId w e se result sha g
      · obtain ⟨w, e, se, result, sha, g, hop⟩ := hop
        exact owned_markFailure hrow (hrows row' hrow) howned htimely hop (.inl hfailed') hrow' rfl
      · obtain ⟨hwritten, hresult⟩ := written_failed hrow hfailed' fun w e se result sha g h =>
          hop ⟨w, e, se, result, sha, g, h⟩
        rw [hwritten, howned row' hrow hfailed', endingOf, endingOf, hresult]
    | converse hop =>
      obtain ⟨hwritten, hresult⟩ := written_failed hrow hfailed' fun w e se result sha g h => by
        rw [hop] at h
        cases h
      rw [hwritten, howned row hrow hfailed', endingOf, endingOf, converse_jobId, hresult, converse]
    | @recover now hop he =>
      have hsome : (expiredRow now s.db row.jobId).isSome := by
        simp [expiredRow, lookup_jobs hrow, he]
      show (s.history.next s.db call (apply s.db call).1 (apply s.db call).2).written row.jobId = _
      simp only [History.next, hop, hsome, if_true]
      rw [← hid]
      exact shown_of_mem hrow'
    | fail hop hs =>
      exact owned_markFailure hrow (hrows row hrow) howned htimely hop hs hrow' hid
    | claim => simp [claim] at hfailed'
    | beat hop hs => simp [beat, hs] at hfailed'
    | succeed => simp [succeed] at hfailed'
    | requeue => simp [requeue] at hfailed'
    | reopen => simp [reopen] at hfailed'
    | withdraw => simp [withdraw] at hfailed'
  · simp [insertedRow, (henters job hop).1] at hfailed'

/-- A late call that carries nothing new changes nothing. -/
theorem late_unchanged (htimely : Timely s call) (hlate : IsLate s call row) :
    row ∈ (step s call).2.db.jobs ∧
      storedResult (step s call).2.db row.jobId = storedResult s.db row.jobId := by
  obtain ⟨hrow, hfailed, w, e, se, result, sha, g, hop, -⟩ := id hlate
  obtain ⟨hsame, hresult⟩ := htimely row hlate _ _ _ _ _ _ hop
  obtain ⟨-, hmem, hstored⟩ := markFailure_writes hrow hop (not_fencedOut_failed w hfailed)
  rw [hsame] at hmem
  rw [hresult] at hstored
  exact ⟨hmem, hstored⟩

/-- A late call that changes nothing carries nothing new. -/
theorem timely_of_lasting (h : Lasting s call) : Timely s call := by
  intro row hlate w e se result sha g hop
  obtain ⟨hrow, hresult⟩ := h.late row hlate
  have hf := not_fencedOut_failed w hlate.2.1
  have hsame := eq_fail hlate.1 hop hf hrow rfl
  refine ⟨hsame.symm, ?_⟩
  rw [← (markFailure_writes hlate.1 hop hf).2.2]
  exact hresult

/-! ### Whole runs -/

theorem absorbing_run {calls : List Call} (hc : ∀ call ∈ calls, EntersPending call)
    (hrows : ∀ row ∈ s.db.jobs, RowKept s row) : Admitted step Absorbing s calls := by
  induction calls generalizing s with
  | nil => trivial
  | cons call calls ih =>
    refine ⟨absorbing hrows, ih (fun c hmem => hc c (by simp [hmem])) ?_⟩
    exact rowKept_step hrows (hc call (by simp))

theorem lasting_run {calls : List Call} (hc : ∀ call ∈ calls, EntersPending call)
    (hrows : ∀ row ∈ s.db.jobs, RowKept s row) (howned : Owned s)
    (htimely : Admitted step Timely s calls) : Admitted step Lasting s calls := by
  induction calls generalizing s with
  | nil => trivial
  | cons call calls ih =>
    have henters := hc call (by simp)
    have hnext := owned_step hrows howned henters htimely.1
    refine ⟨⟨hnext, fun row => late_unchanged htimely.1⟩, ?_⟩
    exact ih (fun c hmem => hc c (by simp [hmem])) (rowKept_step hrows henters) hnext htimely.2

/-- **Terminal records**: in every run succeeded and cancelled jobs stay as they are and failed ones
are left only through `retry_failed`; failed jobs show the record of their last owner, and late
calls change nothing, exactly in the runs where no late `mark_failure` carries anything new. -/
theorem terminal_records (calls : List Call) (hc : ∀ call ∈ calls, EntersPending call) :
    Admitted step Absorbing start calls ∧
      (Admitted step Lasting start calls ↔ Admitted step Timely start calls) := by
  have hrows : ∀ row ∈ start.db.jobs, RowKept start row := by simp [start, empty]
  have howned : Owned start := by simp [Owned, start, empty]
  exact ⟨absorbing_run hc hrows,
    admitted_mono fun s call h => timely_of_lasting h, lasting_run hc hrows howned⟩

/-! ### A late failure -/

/-- The lease of `A` runs out, `B` claims the job and fails it. -/
def failedByB : List Call :=
  let clock := fun _ => "2026-01-01T00:03:00.000Z"
  [⟨clock, .createJob (sampleJob "j")⟩,
    ⟨clock, .claimNext "A" "2026-01-01T00:00:00.000Z" 60 none⟩,
    ⟨clock, .recoverExpired "2026-01-01T00:02:00.000Z"⟩,
    ⟨clock, .claimNext "B" "2026-01-01T00:02:00.000Z" 60 none⟩,
    ⟨clock, .markFailure "j" "B" "agy_protocol_error" none (some [("attempt", .int 2)])
      none .blocked⟩]

/-- Then `A` reports that its session timed out. -/
def lateFailure : Call :=
  ⟨fun _ => "2026-01-01T00:04:00.000Z",
    .markFailure "j" "A" "agy_timeout" none (some [("attempt", .int 1)]) none .blocked⟩

theorem entersPending_failedByB : ∀ call ∈ failedByB, EntersPending call := by
  simp [failedByB, EntersPending, sampleJob]

/-- Before the late failure every promise is kept. -/
theorem terminal_records_failedByB :
    ((run step start failedByB).2.db.jobs.map fun row => (row.jobId, row.status, row.errorCode)) =
        [("j", .failed, some "agy_protocol_error")] ∧
      Admitted step Absorbing start failedByB :=
  ⟨by decide +kernel, (terminal_records failedByB entersPending_failedByB).1⟩

/-- The late failure of `A` overwrites what `B` wrote. -/
theorem late_failure_overwrites :
    ¬ ∀ calls : List Call, (∀ call ∈ calls, EntersPending call) →
      Admitted step (fun s call => Absorbing s call ∧ Lasting s call) start calls := by
  intro hall
  have henters : ∀ call ∈ failedByB ++ [lateFailure], EntersPending call := by
    intro call hmem
    rcases List.mem_append.mp hmem with hmem | hmem
    · exact entersPending_failedByB call hmem
    · obtain rfl := List.mem_singleton.mp hmem
      simp [lateFailure, EntersPending]
  have hlasting : Lasting (run step start failedByB).2 lateFailure :=
    (admitted_append.mp (hall _ henters)).2.1.2
  obtain ⟨row, hrow, hid, hfailed, hcode⟩ : ∃ row ∈ (run step start failedByB).2.db.jobs,
      row.jobId = "j" ∧ row.status = .failed ∧ row.errorCode = some "agy_protocol_error" := by
    decide +kernel
  have hholder : (run step start failedByB).2.history.holder "j" ≠ some "A" := by decide +kernel
  have hlate : IsLate (run step start failedByB).2 lateFailure row := by
    have hop : lateFailure.op = .markFailure row.jobId "A" "agy_timeout" none
        (some [("attempt", .int 1)]) none .blocked := by
      rw [hid]
      rfl
    exact ⟨hrow, hfailed, "A", _, _, _, _, _, hop, .inl (hid ▸ hholder)⟩
  have hoverwritten : ∀ row ∈ (step (run step start failedByB).2 lateFailure).2.db.jobs,
      row.errorCode = some "agy_timeout" := by decide +kernel
  have htimeout := hoverwritten row (hlasting.late row hlate).1
  rw [hcode] at htimeout
  exact absurd htimeout (by decide)

end Blessing.Queue.LastOwner
