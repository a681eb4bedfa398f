import Blessing.Queue.Rows
import Blessing.Queue.Service
import Blessing.Queue.Worker

/-! # Fencing of workers that lost their lease

Any number of workers share a SQLite store. A worker whose lease ran out does not know it: its next
call may find the job running under somebody else. `heartbeat`, `mark_success` and `mark_failure`
check the owner and leave such a job alone. `schedule_retry` does not: it sends the job of the other
worker back to the queue (`stray_retry`).

`fencing` says exactly when a run is fenced: when no worker schedules a retry for a job that runs
under another worker and could be retried. In such a run a job stays with its worker until that
worker lets go of it, its lease runs out, or it is cancelled. -/

namespace Blessing.Queue.Fencing

open Blessing.Lib Blessing.Lib.Table Blessing.Lib.Machine
open Blessing.Queue.Models Blessing.Queue.Storage Blessing.Queue.Service Blessing.Queue.Worker
open Blessing.Queue.Sqlite Blessing.Queue.Rows

variable {db : Db} {row row' : JobRecord}

/-- A step of the system. -/
inductive Event where
  /-- a worker's call for a job it works on -/
  | worker (workerId : String) (clock : ℕ → String) (call : WorkerCall)
  | submit (clock : ℕ → String) (job : JobRecord)
  | claim (clock : ℕ → String) (workerId now : String) (leaseTtlSec : ℤ)
      (eligibleKinds : Option (List JobKind))
  | recover (clock : ℕ → String) (now : String)
  | retry (clock : ℕ → String) (jobId now : String)
  | cancel (clock : ℕ → String) (jobId : String)
  | converse (clock : ℕ → String) (jobId conversationId : String)

/-- The store call of a step. -/
def Event.call : Event → Call
  | .worker workerId clock call => ⟨clock, call.op workerId⟩
  | .submit clock job => ⟨clock, .createJob job⟩
  | .claim clock workerId now ttl kinds => ⟨clock, .claimNext workerId now ttl kinds⟩
  | .recover clock now => ⟨clock, .recoverExpired now⟩
  | .retry clock jobId now => ⟨clock, .retryFailed jobId now⟩
  | .cancel clock jobId => ⟨clock, .cancel jobId⟩
  | .converse clock jobId conversationId => ⟨clock, .updateConversationId jobId conversationId⟩

/-- A step of the shared store. -/
def step (db : Db) (e : Event) : Answer × Db := apply db e.call

/-- The job is running under the worker. -/
def RunsUnder (db : Db) (row : JobRecord) (workerId : String) : Prop :=
  row ∈ db.jobs ∧ row.status = .running ∧ row.workerId = some workerId

/-- The fields of a row a stale call must not touch. -/
structure SameControl (row row' : JobRecord) : Prop where
  jobId : row'.jobId = row.jobId
  status : row'.status = row.status
  attempt : row'.attempt = row.attempt
  workerId : row'.workerId = row.workerId
  leaseUntil : row'.leaseUntil = row.leaseUntil
  nextAttemptAt : row'.nextAttemptAt = row.nextAttemptAt

/-- A worker's call leaves a job that runs under another worker as it is. -/
def Fenced (db : Db) (e : Event) : Prop :=
  ∀ a clock call, e = .worker a clock call → ∀ row b, RunsUnder db row b → a ≠ b →
    row.jobId = call.jobId →
      (∃ row' ∈ (step db e).2.jobs, SameControl row row') ∧
        storedResult (step db e).2 row.jobId = storedResult db row.jobId

/-- A worker schedules no retry for a job that runs under another worker and could be retried. -/
def OwnRetry (db : Db) (e : Event) : Prop :=
  ∀ a clock jobId nextAttemptAt errorCode stderr,
    e = .worker a clock (.scheduleRetry jobId nextAttemptAt errorCode stderr) →
      ∀ row b, RunsUnder db row b → row.jobId = jobId → a ≠ b →
        row.externalEffectClass.isUnsafe = true ∨ row.maxAttempts ≤ row.attempt

/-- A job that ran under a worker and does not any more: that worker let go of it, its lease ran
out, or it was cancelled. -/
def LeavesRightly (db : Db) (e : Event) : Prop :=
  ∀ row b, RunsUnder db row b →
    (∃ row', row'.jobId = row.jobId ∧ RunsUnder (step db e).2 row' b) ∨
      (∃ clock call, e = .worker b clock call) ∨
      (∃ clock now leaseUntil, e = .recover clock now ∧ row.leaseUntil = some leaseUntil ∧
        leaseUntil < now) ∨
      ∃ clock, e = .cancel clock row.jobId

/-! ### Results -/

/-- A completion of a job that runs under another worker is fenced out. -/
theorem fencedOut_of_runsUnder {a b : String} {last : JobStatus} (h : RunsUnder db row b)
    (hab : a ≠ b) : fencedOut last a row = true := by
  obtain ⟨-, hs, hw⟩ := h
  simp [fencedOut, hs, hw, Ne.symm hab]

theorem fenced_of_same {e : Event} (h : (step db e).2 = db) : Fenced db e := by
  intro a clock call he row b hrow hab hid
  rw [h]
  exact ⟨⟨row, hrow.1, rfl, rfl, rfl, rfl, rfl, rfl⟩, rfl⟩

/-! ### One step -/

theorem heartbeat_stale {a b jobId leaseUntil : String} {clock : ℕ → String}
    (h : RunsUnder db row b) (hab : a ≠ b) :
    row ∈ (heartbeat clock jobId a leaseUntil db).2.jobs := by
  simp only [heartbeat, Db.update_jobs, Table.update, List.mem_map]
  refine ⟨row, h.1, ?_⟩
  simp [owned, h.2.2, Ne.symm hab]

/-- **One step is fenced exactly if it schedules no stray retry.** -/
theorem fenced_iff (db : Db) (e : Event) : Fenced db e ↔ OwnRetry db e := by
  constructor
  · intro hf a clock jobId nextAttemptAt errorCode stderr he row b hrow hid hab
    by_contra hno
    simp only [not_or, Bool.not_eq_true, not_le] at hno
    obtain ⟨⟨row', hrow', hsame⟩, -⟩ := hf a clock _ he row b hrow hab hid
    -- the retry is carried out, so the row is pending afterwards
    have hlook : lookup JobRecord.jobId jobId db.jobs = some row := hid ▸ lookup_jobs hrow.1
    have hjobs : (step db e).2.jobs = Table.update
        (fun job => job.jobId == jobId && job.status == .running)
        (requeue nextAttemptAt errorCode stderr (clock 0)) db.jobs := by
      subst he
      simp [step, Event.call, WorkerCall.op, apply, scheduleRetry, hlook, hrow.2.1, hno.1,
        not_le.mpr hno.2]
    rw [hjobs, Table.update, List.mem_map] at hrow'
    obtain ⟨old, hold, rfl⟩ := hrow'
    have hst := hsame.status
    have hold' : old = row := eq_of_jobId hold hrow.1 (by
      have := hsame.jobId
      split_ifs at this <;> simpa [requeue] using this)
    rw [hold'] at hst
    simp [hid, hrow.2.1, requeue] at hst
  · intro ho a clock call he row b hrow hab hid
    have hlook : lookup JobRecord.jobId call.jobId db.jobs = some row := hid ▸ lookup_jobs hrow.1
    cases call with
    | heartbeat jobId leaseUntil =>
      subst he
      exact ⟨⟨row, heartbeat_stale hrow hab, rfl, rfl, rfl, rfl, rfl, rfl⟩, rfl⟩
    | markSuccess jobId result resultPath conversationId headSha gateState =>
      refine fenced_of_same ?_ a clock _ he row b hrow hab hid
      subst he
      simp only [WorkerCall.jobId] at hlook
      simp [step, Event.call, WorkerCall.op, apply, markSuccess, hlook,
        fencedOut_of_runsUnder hrow hab]
    | markFailure jobId errorCode stderr result headSha gateState =>
      refine fenced_of_same ?_ a clock _ he row b hrow hab hid
      subst he
      simp only [WorkerCall.jobId] at hlook
      simp [step, Event.call, WorkerCall.op, apply, markFailure, hlook,
        fencedOut_of_runsUnder hrow hab]
    | scheduleRetry jobId nextAttemptAt errorCode stderr =>
      refine fenced_of_same ?_ a clock _ he row b hrow hab hid
      have hrefuse := ho a clock jobId nextAttemptAt errorCode stderr he row b hrow hid hab
      subst he
      simp only [WorkerCall.jobId] at hlook
      simp only [step, Event.call, WorkerCall.op, apply, scheduleRetry, hlook]
      rcases hrefuse with hu | hm
      · simp [hu]
      · simp [hm]

theorem leavesRightly_of_fenced {e : Event} (h : Fenced db e) : LeavesRightly db e := by
  intro row b hrow
  obtain ⟨row', hrow', hstep⟩ := apply_mem e.call hrow.1
  have hkeep (hs : row'.status = .running) (hw : row'.workerId = row.workerId) :
      ∃ row', row'.jobId = row.jobId ∧ RunsUnder (step db e).2 row' b :=
    ⟨row', hstep.jobId, hrow', hs, hw.trans hrow.2.2⟩
  cases e with
  | worker a clock call =>
    by_cases hab : a = b
    · exact .inr (.inl ⟨clock, call, by rw [hab]⟩)
    by_cases hid : row.jobId = call.jobId
    · obtain ⟨⟨kept, hmem, hsame⟩, -⟩ := h a clock call rfl row b hrow hab hid
      exact .inl ⟨kept, hsame.jobId, hmem, hsame.status.trans hrow.2.1,
        hsame.workerId.trans hrow.2.2⟩
    · refine .inl ?_
      cases hstep with
      | keep => exact hkeep hrow.2.1 rfl
      | claim hop | recover hop | reopen hop | withdraw hop | converse hop =>
        cases call <;> simp [Event.call, WorkerCall.op] at hop
      | beat hop | succeed hop | fail hop | requeue hop =>
        cases call <;> simp [Event.call, WorkerCall.op] at hop
        exact absurd hop.1.symm hid
  | recover clock now =>
    cases hstep with
    | keep => exact .inl (hkeep hrow.2.1 rfl)
    | recover hop he =>
      obtain rfl : now = _ := by simpa [Event.call] using hop
      simp only [expired, Bool.and_eq_true, Option.any_eq_true, decide_eq_true_eq] at he
      obtain ⟨-, leaseUntil, hl, hlt⟩ := he
      exact .inr (.inr (.inl ⟨clock, now, leaseUntil, rfl, hl, hlt⟩))
    | claim hop | beat hop | converse hop | succeed hop | fail hop | requeue hop | reopen hop
    | withdraw hop => simp [Event.call] at hop
  | cancel clock jobId =>
    cases hstep with
    | keep => exact .inl (hkeep hrow.2.1 rfl)
    | withdraw hop =>
      obtain rfl : jobId = row.jobId := by simpa [Event.call] using hop
      exact .inr (.inr (.inr ⟨clock, rfl⟩))
    | claim hop | beat hop | recover hop | converse hop | succeed hop | fail hop | requeue hop
    | reopen hop => simp [Event.call] at hop
  | submit clock job =>
    cases hstep with
    | keep => exact .inl (hkeep hrow.2.1 rfl)
    | claim hop | beat hop | recover hop | converse hop | succeed hop | fail hop | requeue hop
    | reopen hop | withdraw hop => simp [Event.call] at hop
  | claim clock workerId now ttl kinds =>
    cases hstep with
    | keep => exact .inl (hkeep hrow.2.1 rfl)
    | claim hop hc =>
      have hpending := (claimable_iff.mp hc).pending
      rw [hrow.2.1] at hpending
      cases hpending
    | beat hop | recover hop | converse hop | succeed hop | fail hop | requeue hop
    | reopen hop | withdraw hop => simp [Event.call] at hop
  | retry clock jobId now =>
    cases hstep with
    | keep => exact .inl (hkeep hrow.2.1 rfl)
    | reopen hop hs =>
      rw [hrow.2.1] at hs
      cases hs
    | claim hop | beat hop | recover hop | converse hop | succeed hop | fail hop | requeue hop
    | withdraw hop => simp [Event.call] at hop
  | converse clock jobId conversationId =>
    cases hstep with
    | keep => exact .inl (hkeep hrow.2.1 rfl)
    | converse hop => exact .inl (hkeep hrow.2.1 rfl)
    | claim hop | beat hop | recover hop | succeed hop | fail hop | requeue hop | reopen hop
    | withdraw hop => simp [Event.call] at hop

/-! ### Whole runs -/

/-- **Fencing**: a run is fenced at every step exactly if no step schedules a stray retry, and then
no worker takes a job away from another one. -/
theorem fencing (events : List Event) :
    (Admitted step Fenced empty events ↔ Admitted step OwnRetry empty events) ∧
      (Admitted step OwnRetry empty events → Admitted step LeavesRightly empty events) :=
  ⟨admitted_congr fenced_iff,
    admitted_mono fun db e h => leavesRightly_of_fenced ((fenced_iff db e).mpr h)⟩

/-! ### A stray retry -/

/-- The record the claim returns to worker `A`, which keeps it to the end. -/
def held : JobRecord :=
  claim "A" "2026-01-01T00:00:00.000Z" "2026-01-01T00:01:00.000Z" (insertedRow (sampleJob sampleId))

/-- The lease of `A` runs out and `B` claims the job. -/
def reclaimed : List Event :=
  let clock := fun _ => "2026-01-01T00:03:00.000Z"
  [.submit clock (sampleJob sampleId),
    .claim clock "A" "2026-01-01T00:00:00.000Z" 60 none,
    .recover clock "2026-01-01T00:02:00.000Z",
    .claim clock "B" "2026-01-01T00:02:00.000Z" 60 none]

/-- The session of `A` times out. -/
def lateError : Event :=
  .worker "A" (fun _ => "2026-01-01T00:03:00.000Z") (handleError held
    (agyTimeoutError "timed out") "2026-01-01T00:03:30.000Z" none "2026-01-01T00:03:00.000Z")

/-- The late error of `A` takes the job away from `B`. -/
theorem stray_retry :
    (run step empty (reclaimed.take 2)).1 =
        [.ok (.job (some (sampleJob sampleId))), .ok (.job (some held))] ∧
      ¬ Admitted step Fenced empty (reclaimed ++ [lateError]) := by
  refine ⟨by decide +kernel, fun h => ?_⟩
  have hf : Fenced (run step empty reclaimed).2 lateError := (admitted_append.mp h).2.1
  obtain ⟨row, hmem, hs, hw, hid⟩ : ∃ row ∈ (run step empty reclaimed).2.jobs,
      row.status = .running ∧ row.workerId = some "B" ∧ row.jobId = sampleId := by decide +kernel
  obtain ⟨⟨row', hrow', hsame⟩, -⟩ :=
    hf "A" _ _ rfl row "B" ⟨hmem, hs, hw⟩ (by decide) (by rw [hid]; decide +kernel)
  have hpending : ∀ r ∈ (step (run step empty reclaimed).2 lateError).2.jobs,
      r.status = .pending := by decide +kernel
  have := hsame.status
  rw [hpending row' hrow', hs] at this
  cases this

end Blessing.Queue.Fencing
