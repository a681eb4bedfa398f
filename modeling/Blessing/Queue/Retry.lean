import Blessing.Queue.LogRows
import Blessing.Queue.Rows
import Blessing.Queue.Service
import Blessing.Queue.Worker

/-! # Success after a retried failure

`mark_success` refuses a result that differs from the one the store holds, and so does
`write_result` for the artifact. A failed attempt records its failure envelope, and neither
`retry_failed` nor `claim_next` takes it back, so the next attempt of the job meets it.

`success_after_retry` says exactly when that attempt can still succeed: when its result has the text
of the failure that was recorded before. -/

namespace Blessing.Queue.Retry

open Blessing.Lib Blessing.Lib.Values Blessing.Lib.Table Blessing.Lib.Machine
open Blessing.Queue.Models Blessing.Queue.Security Blessing.Queue.Storage Blessing.Queue.Service
open Blessing.Queue.Worker Blessing.Queue.Readback Blessing.Queue.LogRows
open Blessing.Queue.Rows (Records storedResult_apply)
open Blessing.Queue.Sqlite (Db storedResult)
open Blessing.Queue.Jsonl (Files)

/-! ### Calls that record a result

`found` is what `get` gives for the job. -/

/-- The job runs under the worker. -/
def RunsUnder (workerId : String) (found : Except StoreError (Option JobRecord)) : Prop :=
  ∃ job, found = .ok (some job) ∧ job.status = .running ∧ job.workerId = some workerId

/-- The call was accepted, and the job has succeeded with the result of this text. -/
def Succeeds (answer : Answer) (found : Except StoreError (Option JobRecord)) (text : Dict) :
    Prop :=
  answer = .ok (.flag true) ∧
    ∃ job, found = .ok (some job) ∧ job.status = .succeeded ∧ job.resultJson = some text

/-- A worker completed the job with a failure envelope. -/
def Failed (id : String) (envelope : Dict) (call : Call) (answer : Answer) : Prop :=
  answer = .ok (.flag true) ∧ ∃ workerId errorCode stderr headSha gateState,
    call.op = .markFailure id workerId errorCode stderr (some envelope) headSha gateState

section Sqlite

variable {db : Db} {call : Call} {id : String}

theorem storedResult_failed {envelope : Dict}
    (h : Failed id envelope call (Sqlite.apply db call).1) :
    storedResult (Sqlite.apply db call).2 id = some (dumps envelope) := by
  obtain ⟨hans, workerId, errorCode, stderr, headSha, gateState, hop⟩ := h
  simp only [Sqlite.apply, hop, Sqlite.markFailure] at hans ⊢
  cases hl : lookup JobRecord.jobId id db.jobs with
  | none => simp [hl] at hans
  | some row =>
    cases hf : Sqlite.fencedOut .failed workerId row with
    | true => simp [hl, hf] at hans
    | false =>
      simp only [hf]
      exact (Sqlite.storedResult_setResult db id (dumps envelope) id).trans (if_pos rfl)

theorem storedResult_run {calls : List Call}
   
    (h : Admitted Sqlite.apply (fun db call => ¬ Records id call (Sqlite.apply db call).1) db calls) :
    storedResult (run Sqlite.apply db calls).2 id = storedResult db id := by
  induction calls generalizing db with
  | nil => rfl
  | cons call calls ih => exact (ih h.2).trans (storedResult_apply h.1)

theorem fencedOut_running {row : JobRecord} {workerId : String} {last : JobStatus}
    (hs : row.status = .running) (hw : row.workerId = some workerId) :
    Sqlite.fencedOut last workerId row = false := by
  simp [Sqlite.fencedOut, hs, hw]

/-- The owner of a running job succeeds exactly with the result that is stored already. -/
theorem sqlite_succeeds {workerId : String} {result : Dict} {resultPath : String}
    {conversationId headSha : Option String} {gateState : GateState} {text : Dict}
    (hop : call.op = .markSuccess id workerId result resultPath conversationId headSha gateState)
    (hrun : RunsUnder workerId (.ok (Sqlite.get db id))) (ht : storedResult db id = some text) :
    Succeeds (Sqlite.apply db call).1 (.ok (Sqlite.get (Sqlite.apply db call).2 id))
      (dumps result) ↔
      dumps result = text := by
  obtain ⟨job, hfound, hs, hw⟩ := hrun
  obtain ⟨row, hl, rfl⟩ := Option.map_eq_some_iff.mp (Except.ok.inj hfound)
  obtain rfl := key_of_lookup hl
  have hf : Sqlite.fencedOut .succeeded workerId row = false := fencedOut_running hs hw
  by_cases he : dumps result = text
  · have happ : Sqlite.apply db call = (.ok (.flag true), (db.setResult row.jobId text).update
        (Sqlite.completes .succeeded row.jobId workerId)
        (Sqlite.succeed text resultPath conversationId headSha gateState (call.clock 0))
        (Sqlite.succeed_jobId text resultPath conversationId headSha gateState
          (call.clock 0))) := by
      simp only [Sqlite.apply, hop, Sqlite.markSuccess, hl, hf, ht, he, Option.any_some, ne_eq,
        not_true, decide_false, Bool.false_eq_true, if_false,
        decide_eq_true (Rows.countP_completes (mem_of_lookup hl) hf)]
      rfl
    have hget : Sqlite.get (Sqlite.apply db call).2 row.jobId =
        some (Sqlite.rowToJob (Sqlite.apply db call).2
          (Sqlite.succeed text resultPath conversationId
          headSha gateState (call.clock 0) row)) := by
      rw [happ, Sqlite.get, Sqlite.Db.update_jobs, lookup_update (Sqlite.succeed_jobId _ _ _ _ _ _),
        Sqlite.Db.setResult_jobs, hl, Option.map_some, if_pos (Rows.completes_of_not_fencedOut hf),
        Option.map_some]
    have hres : storedResult (Sqlite.apply db call).2 row.jobId = some text := by
      rw [happ, Sqlite.storedResult_update, Sqlite.storedResult_setResult, if_pos rfl]
    refine ⟨fun _ => he, fun _ => ⟨by rw [happ], _, congrArg Except.ok hget, rfl, ?_⟩⟩
    rw [Sqlite.rowToJob, Sqlite.succeed_jobId, hres, he]
    rfl
  · refine ⟨fun h => ?_, fun h => absurd h he⟩
    have hans := h.1
    simp only [Sqlite.apply, hop, Sqlite.markSuccess, hl, hf, ht, Option.any_some, ne_eq,
      Ne.symm he, not_false_eq_true, decide_true, if_true, Bool.false_eq_true, if_false] at hans
    cases hans

end Sqlite

/-! ### The log keeps the failure -/

section Jsonl

variable {files : Files} {jobs : List JobRecord} {call : Call} {id : String} {envelope : Dict}

/-- The record of the job holds the failure envelope, redacted at least twice: when it was recorded
and whenever its line was written. -/
def Held (id : String) (envelope : Dict) (files : Files) : Prop :=
  ∃ jobs row n, Reads files jobs ∧ row ∈ jobs ∧ row.jobId = id ∧
    row.resultJson = some (dumps^[n + 2] envelope)

/-- Only a recording call writes another result. -/
theorem written_resultJson {answer : Answer} {row row' : JobRecord}
    (hw : Written call answer row row') (h : ¬ Records row.jobId call answer) :
    row'.resultJson = row.resultJson := by
  cases hw with
  | recover => unfold Jsonl.recover; split <;> rfl
  | succeed hop hans => exact absurd ⟨hans, .inl ⟨_, _, _, _, _, _, hop⟩⟩ h
  | @fail _ _ _ result _ _ hop hans =>
    cases result with
    | none => rfl
    | some result => exact absurd ⟨hans, .inr ⟨_, _, _, _, _, _, hop⟩⟩ h
  | _ => rfl

theorem held_apply (hid : ∀ job, call.op = .createJob job → redactText job.jobId = job.jobId)
    (h : Held id envelope files) (hnot : ¬ Records id call (Jsonl.apply files call).1) :
    Held id envelope (Jsonl.apply files call).2 := by
  obtain ⟨jobs, row, n, hreads, hrow, rfl, hres⟩ := h
  obtain ⟨g, new, hreads', hg, -⟩ := apply_log hreads hid
  have hmem : g row ∈ jobs.map g ++ new := List.mem_append_left _ (List.mem_map_of_mem hrow)
  rcases hg row hrow with he | ⟨job, hw, he⟩
  · exact ⟨_, g row, n, hreads', hmem, by rw [he], by rw [he]; exact hres⟩
  · refine ⟨_, g row, n + 1, hreads', hmem, ?_, ?_⟩
    · rw [he, stored, hw.jobId]
      exact hreads.fixed row hrow
    · rw [he]
      change job.resultJson.map dumps = _
      rw [written_resultJson hw hnot, hres]
      exact congrArg some (Function.iterate_succ_apply' dumps (n + 2) envelope).symm

theorem held_run {calls : List Call} (hid : ∀ call ∈ calls, ∀ job, call.op = .createJob job →
      redactText job.jobId = job.jobId) (h : Held id envelope files)
    (hnot : Admitted Jsonl.apply (fun files call => ¬ Records id call (Jsonl.apply files call).1)
      files calls) : Held id envelope (run Jsonl.apply files calls).2 := by
  induction calls generalizing files with
  | nil => exact h
  | cons call calls ih =>
    exact ih (fun c hc => hid c (by simp [hc])) (held_apply (hid call (by simp)) h hnot.1) hnot.2

theorem held_failed (h : Reads files jobs)
    (hf : Failed id envelope call (Jsonl.apply files call).1) :
    Held id envelope (Jsonl.apply files call).2 := by
  obtain ⟨hans, workerId, errorCode, stderr, headSha, gateState, hop⟩ := hf
  simp only [Jsonl.apply, hop, Jsonl.markFailure] at hans ⊢
  cases hl : lookup JobRecord.jobId id jobs with
  | none => rw [mutate_none h hl] at hans; cases hans
  | some row =>
    obtain rfl := key_of_lookup hl
    have hrow := mem_of_lookup hl
    obtain ⟨job, b, ho, hb⟩ : ∃ job b, Jsonl.failureUpdate (call.clock 0) workerId errorCode stderr
        (some envelope) headSha gateState row = .ok (job, b) ∧ (b = true →
          job = Jsonl.fail errorCode stderr (some envelope) headSha gateState
            (call.clock 0) row) := by
      unfold Jsonl.failureUpdate
      split_ifs
      · exact ⟨_, _, rfl, by simp⟩
      · exact ⟨_, _, rfl, by simp⟩
      · exact ⟨_, _, rfl, fun _ => rfl⟩
    rw [mutate_some h hl ho] at hans ⊢
    obtain rfl : b = true := by injection hans with hans; injection hans
    obtain rfl := hb rfl
    have hreads := h.appendUpdate { Jsonl.fail errorCode stderr (some envelope) headSha gateState
      (call.clock 0) row with updatedAt := call.clock 1 } (List.mem_map.mpr ⟨row, hrow, rfl⟩)
    refine ⟨_, _, 0, hreads, List.mem_map.mpr ⟨row, hrow, if_pos rfl⟩, h.fixed row hrow, ?_⟩
    change some (dumps (redactFields envelope)) = some (dumps (dumps envelope))
    rw [dumps_dumps]

/-- The owner of a running job succeeds exactly with the result its record holds already. -/
theorem jsonl_succeeds {workerId : String} {result : Dict} {resultPath : String}
    {conversationId headSha : Option String} {gateState : GateState} {held : Dict} {row : JobRecord}
    (hop : call.op = .markSuccess id workerId result resultPath conversationId headSha gateState)
    (h : Reads files jobs) (hl : lookup JobRecord.jobId id jobs = some row)
    (hs : row.status = .running) (hw : row.workerId = some workerId)
    (hres : row.resultJson = some held) :
    Succeeds (Jsonl.apply files call).1 (Jsonl.get (Jsonl.apply files call).2 id)
      (dumps (redactFields result)) ↔ dumps result = dumps held := by
  obtain rfl := key_of_lookup hl
  have hrow := mem_of_lookup hl
  simp only [Jsonl.apply, hop, Jsonl.markSuccess]
  by_cases he : dumps result = dumps held
  · have ho : Jsonl.successUpdate (call.clock 0) row.jobId workerId result resultPath conversationId
        headSha gateState row =
        .ok (Jsonl.succeed result resultPath conversationId headSha gateState
          (call.clock 0) row, true) := by
      simp [Jsonl.successUpdate, hs, hw, hres, he]
    rw [mutate_some h hl ho]
    have hget := h.get_appendUpdate { Jsonl.succeed result resultPath conversationId headSha
      gateState (call.clock 0) row with updatedAt := call.clock 1 }
      (List.mem_map.mpr ⟨row, hrow, rfl⟩)
    exact ⟨fun _ => he, fun _ => ⟨rfl, _, hget, rfl, rfl⟩⟩
  · have ho : Jsonl.successUpdate (call.clock 0) row.jobId workerId result resultPath conversationId
        headSha gateState row =
        .error (.conflict ("Result for " ++ row.jobId ++ " already differs")) := by
      simp [Jsonl.successUpdate, hs, hw, hres, Ne.symm he]
    rw [mutate_error h hl ho]
    refine ⟨fun h => ?_, fun h => absurd h he⟩
    cases h.1

end Jsonl

/-! ### The artifact keeps the failure -/

section Artifacts

variable {a : Artifacts} {id : String} {text envelope : Dict}

/-- The text of the job's file. -/
def fileOf (a : Artifacts) (id : String) : Option Dict := (a.find? (·.1 == id)).map Prod.snd

/-- One writing of `write_result`. -/
def write (a : Artifacts) (w : String × Dict) : Except StoreError Unit × Artifacts :=
  writeResult a w.1 w.2

/-- A file is never changed. -/
theorem fileOf_write (h : fileOf a id = some text) (w : String × Dict) :
    fileOf (write a w).2 id = some text := by
  obtain ⟨p, hp, rfl⟩ := Option.map_eq_some_iff.mp h
  unfold write writeResult
  split
  · split_ifs <;> exact h
  · rw [fileOf, List.find?_append, hp]
    rfl

theorem fileOf_run (writes : List (String × Dict)) (h : fileOf a id = some text) :
    fileOf (run write a writes).2 id = some text := by
  induction writes generalizing a with
  | nil => exact h
  | cons w writes ih => exact ih (fileOf_write h w)

/-- A file that exists can be written again with its own text only. -/
theorem writeResult_ok (h : fileOf a id = some text) (result : Dict) :
    (writeResult a id result).1 = .ok () ↔ dumps result = text := by
  obtain ⟨⟨k, text⟩, hp, rfl⟩ := Option.map_eq_some_iff.mp h
  simp only [writeResult, hp]
  by_cases he : text = dumps result
  · simp [he]
  · simp [he, Ne.symm he]

theorem fileOf_written (h : (writeResult a id envelope).1 = .ok ()) :
    fileOf (writeResult a id envelope).2 id = some (dumps envelope) := by
  unfold writeResult at h ⊢
  cases hp : a.find? (·.1 == id) with
  | none => simp [fileOf, List.find?_append, hp]
  | some p =>
    by_cases he : p.2 = dumps envelope
    · simp [fileOf, hp, he]
    · simp [hp, he] at h

end Artifacts

/-! ### The next attempt -/

/-- In the run the job failed with this envelope, and no result was recorded for it since. -/
def FailedLast {S : Type} (step : S → Call → Answer × S) (start : S) (id : String) (envelope : Dict)
    (calls : List Call) : Prop :=
  ∃ pre fail post, calls = pre ++ fail :: post ∧
    Failed id envelope fail (step (run step start pre).2 fail).1 ∧
    Admitted step (fun s call => ¬ Records id call (step s call).1)
      (step (run step start pre).2 fail).2 post

section

variable {calls : List Call} {success : Call} {id workerId : String} {envelope result : Dict}
  {resultPath : String} {conversationId headSha : Option String} {gateState : GateState}

theorem storedResult_failedLast (h : FailedLast Sqlite.apply Sqlite.empty id envelope calls) :
    storedResult (run Sqlite.apply Sqlite.empty calls).2 id = some (dumps envelope) := by
  obtain ⟨pre, fail, post, rfl, hfail, hpost⟩ := h
  rw [run_append]
  exact (storedResult_run hpost).trans (storedResult_failed hfail)

theorem held_failedLast (hsub : Submitted calls)
    (h : FailedLast Jsonl.apply Jsonl.empty id envelope calls) :
    Held id envelope (run Jsonl.apply Jsonl.empty calls).2 := by
  have hid := hsub.redactText_jobId
  obtain ⟨pre, fail, post, rfl, hfail, hpost⟩ := h
  obtain ⟨jobs, hreads⟩ := reads_run (fun c hc => hid c (List.mem_append_left _ hc)) reads_empty
  rw [run_append, run_cons]
  exact held_run (fun c hc => hid c (by simp [hc])) (held_failed hreads hfail) hpost

/-- **Success after a retry.** Take a job that failed, and whose owner now confirms a success; it
can only run again because it was retried and claimed. SQLite accepts the result, stores it and
closes the job exactly if it has the text of the failure envelope. The JSONL store does exactly if
it has the text the envelope has in the log by now, and the artifact is written exactly if its file
holds that text. -/
theorem success_after_retry (hsub : Submitted calls)
   
    (hop : success.op = .markSuccess id workerId result resultPath conversationId headSha gateState) :
    (∀ db, db = (run Sqlite.apply Sqlite.empty calls).2 →
      FailedLast Sqlite.apply Sqlite.empty id envelope calls →
      RunsUnder workerId (.ok (Sqlite.get db id)) →
      (Succeeds (Sqlite.apply db success).1 (.ok (Sqlite.get (Sqlite.apply db success).2 id))
        (dumps result) ↔ dumps result = dumps envelope)) ∧
    (∀ files, files = (run Jsonl.apply Jsonl.empty calls).2 →
      FailedLast Jsonl.apply Jsonl.empty id envelope calls →
      RunsUnder workerId (Jsonl.get files id) →
      ∃ n job, Jsonl.get files id = .ok (some job) ∧
        job.resultJson = some (dumps^[n + 2] envelope) ∧
        (Succeeds (Jsonl.apply files success).1 (Jsonl.get (Jsonl.apply files success).2 id)
          (dumps (redactFields result)) ↔ dumps result = dumps^[n + 3] envelope)) ∧
    ∀ (a : Artifacts) (writes : List (String × Dict)), (write a (id, envelope)).1 = .ok () →
      ((write (run write (write a (id, envelope)).2 writes).2 (id, result)).1 = .ok () ↔
        dumps result = dumps envelope) := by
  refine ⟨?_, ?_, ?_⟩
  · rintro db rfl hfailed hrun
    exact sqlite_succeeds hop hrun (storedResult_failedLast hfailed)
  · rintro files rfl hfailed ⟨job, hget, hs, hw⟩
    obtain ⟨jobs, row, n, hreads, hrow, rfl, hres⟩ := held_failedLast hsub hfailed
    obtain rfl : row = job := by
      have := (hreads.get hrow).symm.trans hget
      injection this with this
      injection this
    refine ⟨n, row, hget, hres, ?_⟩
    rw [Function.iterate_succ_apply']
    exact jsonl_succeeds hop hreads (lookup_of_mem hreads.nodup hrow) hs hw hres
  · exact fun a writes hwritten => writeResult_ok
      (fileOf_run writes (fileOf_written hwritten)) result

end

/-! ### A retried job whose second attempt goes well -/

/-- The first attempt breaks off. -/
def turnError : WorkerError := agyError "turn failed"

/-- The record the first claim returns. -/
def firstAttempt : JobRecord :=
  Sqlite.claim "A" "2026-01-01T00:00:00.000Z" "2026-01-01T00:01:00.000Z" (sampleJob sampleId)

/-- What the first attempt leaves behind. -/
def failedEnvelope : Dict := failureEnvelope firstAttempt turnError "2026-01-01T00:00:30.000Z"

/-- What the second attempt found out. -/
def answer : Dict := [("job_id", .str sampleId), ("status", .str "succeeded"), ("attempt", .int 2)]

/-- The failing call of the first attempt. -/
def failCall : Call :=
  ⟨fun _ => "2026-01-01T00:00:30.000Z",
    (failureCall firstAttempt turnError none "2026-01-01T00:00:30.000Z").op "A"⟩

/-- The job is submitted, and a first worker claims it. -/
def beforeFailure : List Call :=
  let clock := fun _ => "2026-01-01T00:00:00.000Z"
  [⟨clock, .createJob (sampleJob sampleId)⟩,
    ⟨clock, .claimNext "A" "2026-01-01T00:00:00.000Z" 60 none⟩]

/-- An operator retries the job, and a second worker claims it. -/
def afterFailure : List Call :=
  let clock := fun _ => "2026-01-01T00:01:00.000Z"
  [⟨clock, .retryFailed sampleId "2026-01-01T00:01:00.000Z"⟩,
    ⟨clock, .claimNext "B" "2026-01-01T00:01:00.000Z" 60 none⟩]

/-- The whole run. -/
def retriedRun : List Call := beforeFailure ++ failCall :: afterFailure

/-- The second worker is done. -/
def successCall (result : Dict) : Call :=
  ⟨fun _ => "2026-01-01T00:01:30.000Z",
    .markSuccess sampleId "B" result "/q/r.json" none none .verified⟩

theorem submitted_retriedRun : Submitted retriedRun := by
  intro call hc job hop
  refine ⟨sampleEnv, { prompt := "Summarise", repo := "/r" }, ?_⟩
  simp only [retriedRun, beforeFailure, afterFailure, failCall, failureCall, WorkerCall.op,
    List.cons_append, List.nil_append, List.mem_cons, List.not_mem_nil, or_false] at hc
  rcases hc with rfl | rfl | rfl | rfl | rfl <;> simp only [Op.createJob.injEq, reduceCtorEq] at hop
  rw [← hop]
  exact submit_sample

/-- The answers to the failing call and to the last one, in both stores. -/
theorem answers_retriedRun :
    (fun l => (l[2]?, l[5]?)) (run Sqlite.apply Sqlite.empty
      (retriedRun ++ [successCall answer])).1 =
      (some (.ok (.flag true)),
        some (.error (.conflict ("Result for " ++ sampleId ++ " already differs")))) ∧
    (fun l => (l[2]?, l[5]?)) (run Jsonl.apply Jsonl.empty (retriedRun ++ [successCall answer])).1 =
      (some (.ok (.flag true)),
        some (.error (.conflict ("Result for " ++ sampleId ++ " already differs")))) := by
  constructor <;> decide +kernel

theorem failedLast_retriedRun :
    FailedLast Sqlite.apply Sqlite.empty sampleId failedEnvelope retriedRun ∧
      FailedLast Jsonl.apply Jsonl.empty sampleId failedEnvelope retriedRun := by
  obtain ⟨hs, hj⟩ := answers_retriedRun
  have hpost : ∀ {S : Type} (step : S → Call → Answer × S) (s : S), Admitted step
      (fun s call => ¬ Records sampleId call (step s call).1) s afterFailure := by
    intro S step s
    simp [afterFailure, Admitted, Records]
  have hanswer : ∀ {S : Type} (step : S → Call → Answer × S) (s : S),
      (run step s (retriedRun ++ [successCall answer])).1[2]? =
        some (step (run step s beforeFailure).2 failCall).1 := fun step s =>
    answer_run beforeFailure (afterFailure ++ [successCall answer]) failCall
  exact ⟨⟨beforeFailure, failCall, afterFailure, rfl, ⟨Option.some.inj ((hanswer _ _).symm.trans
      (congrArg Prod.fst hs)), _, _, _, _, _, rfl⟩, hpost _ _⟩,
    ⟨beforeFailure, failCall, afterFailure, rfl, ⟨Option.some.inj ((hanswer _ _).symm.trans
      (congrArg Prod.fst hj)), _, _, _, _, _, rfl⟩, hpost _ _⟩⟩

theorem runsUnder_retriedRun :
    RunsUnder "B" (.ok (Sqlite.get (run Sqlite.apply Sqlite.empty retriedRun).2 sampleId)) := by
  have h : (Sqlite.get (run Sqlite.apply Sqlite.empty retriedRun).2 sampleId).any (fun job =>
      job.status == .running && job.workerId == some "B") = true := by decide +kernel
  cases hget : Sqlite.get (run Sqlite.apply Sqlite.empty retriedRun).2 sampleId with
  | none => rw [hget] at h; cases h
  | some job => exact ⟨job, rfl, by simpa [hget] using h⟩

/-- Only a repetition of the failure is accepted. -/
theorem success_after_retry_repeated :
    Succeeds (Sqlite.apply (run Sqlite.apply Sqlite.empty retriedRun).2
      (successCall failedEnvelope)).1
      (.ok (Sqlite.get (Sqlite.apply (run Sqlite.apply Sqlite.empty retriedRun).2
        (successCall failedEnvelope)).2 sampleId)) (dumps failedEnvelope) :=
  ((success_after_retry submitted_retriedRun rfl).1 _ rfl failedLast_retriedRun.1
    runsUnder_retriedRun).mpr rfl

/-- The second attempt reports its answer and is refused by both stores and by the artifacts. -/
theorem retried_success_refused :
    Submitted retriedRun ∧
    FailedLast Sqlite.apply Sqlite.empty sampleId failedEnvelope retriedRun ∧
    FailedLast Jsonl.apply Jsonl.empty sampleId failedEnvelope retriedRun ∧
    RunsUnder "B" (.ok (Sqlite.get (run Sqlite.apply Sqlite.empty retriedRun).2 sampleId)) ∧
    (run Sqlite.apply Sqlite.empty (retriedRun ++ [successCall answer])).1[5]? =
      some (.error (.conflict ("Result for " ++ sampleId ++ " already differs"))) ∧
    (run Jsonl.apply Jsonl.empty (retriedRun ++ [successCall answer])).1[5]? =
      some (.error (.conflict ("Result for " ++ sampleId ++ " already differs"))) ∧
    (run write [] [(sampleId, failedEnvelope), (sampleId, answer)]).1 =
      [.ok (), .error (.storage ("Result artifact for " ++ sampleId ++ " already differs"))] :=
  ⟨submitted_retriedRun, failedLast_retriedRun.1, failedLast_retriedRun.2, runsUnder_retriedRun,
    congrArg Prod.snd answers_retriedRun.1, congrArg Prod.snd answers_retriedRun.2,
    by decide +kernel⟩

end Blessing.Queue.Retry
