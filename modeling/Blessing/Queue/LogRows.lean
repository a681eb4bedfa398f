import Blessing.Queue.Readback

/-! # What a call writes to the log

The counterpart of the row steps of the SQLite store. A call of the JSONL store leaves the record of
a job alone, or appends a new one, which is read back redacted: `apply_log`. `Written` lists the
records a call can append. -/

namespace Blessing.Queue.LogRows

open Blessing.Lib.Values Blessing.Lib.Table Blessing.Lib.Machine
open Blessing.Queue.Models Blessing.Queue.Security Blessing.Queue.Storage Blessing.Queue.Jsonl
open Blessing.Queue.Readback

variable {files : Files} {jobs : List JobRecord} {call : Call} {row row' : JobRecord}

/-- The record a call with this answer can append for a job. -/
inductive Written (call : Call) (answer : Answer) (row : JobRecord) : JobRecord → Prop
  /-- an operation of `_mutate` that changes nothing -/
  | touch (h : ∀ job, call.op ≠ .createJob job) :
      Written call answer row { row with updatedAt := call.clock 1 }
  | claim {workerId now : String} {ttl : ℤ} {kinds : Option (List JobKind)} {leaseUntil : String}
      (hop : call.op = .claimNext workerId now ttl kinds)
      (hl : leaseExpiry now ttl = some leaseUntil) :
      Written call answer row (claim workerId now leaseUntil row)
  | beat {workerId leaseUntil : String} (hop : call.op = .heartbeat row.jobId workerId leaseUntil) :
      Written call answer row { beat leaseUntil row with updatedAt := call.clock 1 }
  | recover {now : String} (hop : call.op = .recoverExpired now) :
      Written call answer row (recover now row)
  | converse {conversationId : String}
      (hop : call.op = .updateConversationId row.jobId conversationId) :
      Written call answer row { converse conversationId row with updatedAt := call.clock 1 }
  | succeed {workerId : String} {result : Dict} {resultPath : String}
      {conversationId headSha : Option String} {gateState : GateState}
      (hop : call.op = .markSuccess row.jobId workerId result resultPath conversationId headSha
        gateState) (h : answer = .ok (.flag true)) :
      Written call answer row
        { succeed result resultPath conversationId headSha gateState (call.clock 0)
        row with updatedAt := call.clock 1 }
  | fail {workerId errorCode : String} {stderr : Option String} {result : Option Dict}
      {headSha : Option String} {gateState : GateState}
      (hop : call.op = .markFailure row.jobId workerId errorCode stderr result headSha gateState)
      (h : answer = .ok (.flag true)) :
      Written call answer row { fail errorCode stderr result headSha gateState
        (call.clock 0) row with
        updatedAt := call.clock 1 }
  | requeue {nextAttemptAt errorCode : String} {stderr : Option String}
      (hop : call.op = .scheduleRetry row.jobId nextAttemptAt errorCode stderr) :
      Written call answer row { requeue nextAttemptAt errorCode stderr row with
        updatedAt := call.clock 1 }
  | reopen {now : String} (hop : call.op = .retryFailed row.jobId now) :
      Written call answer row { reopen now row with updatedAt := call.clock 1 }
  | withdraw (hop : call.op = .cancel row.jobId) :
      Written call answer row { withdraw (call.clock 0) row with updatedAt := call.clock 1 }

theorem recover_jobId (now : String) (job : JobRecord) :
    (recover now job).jobId = job.jobId := by
  unfold recover
  split <;> rfl

theorem reads_recover (h : Reads files jobs) (now : String) :
    Reads ((jobs.filter (expired now)).foldl
        (fun files job => appendUpdate (recover now job) files) files)
      (jobs.map fun r => if expired now r then stored (recover now r) else r) := by
  have hstep : ∀ (rows cur : List JobRecord) (files : Files), Reads files cur →
      (∀ r ∈ rows, r.jobId ∈ cur.map JobRecord.jobId) →
      Reads (rows.foldl (fun files job => appendUpdate (recover now job) files) files)
        (rows.foldl (fun u r => u.map fun s =>
          if s.jobId = r.jobId then stored (recover now r) else s) cur) := by
    intro rows
    induction rows with
    | nil => exact fun _ _ h _ => h
    | cons r rows ih =>
      intro cur files h hr
      have hnext := h.appendUpdate (recover now r)
        (by rw [recover_jobId]; exact hr r (by simp))
      rw [updated, recover_jobId] at hnext
      refine ih _ _ hnext fun r' hr' => ?_
      have hkeys : (cur.map fun s => if s.jobId = r.jobId then stored (recover now r)
          else s).map JobRecord.jobId = cur.map JobRecord.jobId := by
        rw [List.map_map]
        refine List.map_congr_left fun s hs => ?_
        by_cases he : s.jobId = r.jobId
        · have : (stored (recover now r)).jobId = r.jobId := by
            rw [stored, recover_jobId, ← he]
            exact h.fixed s hs
          simp [he, this]
        · simp [he]
      rw [hkeys]
      exact hr r' (by simp [hr'])
  have hfold := hstep (jobs.filter (expired now)) jobs files h fun r hr =>
    List.mem_map_of_mem (List.mem_filter.mp hr).1
  rwa [foldl_replace_filter h.nodup] at hfold
  intro r hr
  rw [stored, recover_jobId]
  exact h.fixed r hr

theorem Written.jobId {answer : Answer} (h : Written call answer row row') :
    row'.jobId = row.jobId := by
  cases h with
  | recover => exact recover_jobId _ row
  | _ => rfl

/-- The rows after a call are the rows before it, some of them written anew, and the row it adds. -/
def Logged (files : Files) (jobs : List JobRecord) (call : Call) : Prop :=
  ∃ (g : JobRecord → JobRecord) (new : List JobRecord),
    Reads (apply files call).2 (jobs.map g ++ new) ∧
      (∀ row ∈ jobs, g row = row ∨
        ∃ job, Written call (apply files call).1 row job ∧ g row = stored job) ∧
      ∀ row ∈ new, ∃ job, call.op = .createJob job ∧ row = stored job ∧
        job.jobId ∉ jobs.map JobRecord.jobId

theorem Logged.of_eq (h : Reads files jobs) (he : (apply files call).2 = files) :
    Logged files jobs call :=
  ⟨id, [], by simpa [he] using h, fun _ _ => .inl rfl, by simp⟩

theorem Logged.of_append (h : Reads files jobs) (hrow : row ∈ jobs)
    (hw : Written call (apply files call).1 row row')
    (he : (apply files call).2 = appendUpdate row' files) : Logged files jobs call := by
  have hid := hw.jobId
  have hreads := h.appendUpdate row' (by rw [hid]; exact List.mem_map_of_mem hrow)
  refine ⟨fun r => if r.jobId = row'.jobId then stored row' else r, [], ?_, fun r hr => ?_, by simp⟩
  · rw [List.append_nil, he]
    exact hreads
  · dsimp only
    split_ifs with hr'
    · obtain rfl := List.inj_on_of_nodup_map h.nodup hr hrow (hr'.trans hid)
      exact .inr ⟨row', hw, rfl⟩
    · exact .inl rfl

theorem Logged.of_mutate (h : Reads files jobs) {id : String}
    {operation : JobRecord → Except StoreError (JobRecord × Bool)}
    (he : (apply files call).2 = (mutate call.clock id operation files).2)
    (hw : ∀ row job b, lookup JobRecord.jobId id jobs = some row → operation row = .ok (job, b) →
      Written call (apply files call).1 row { job with updatedAt := call.clock 1 }) :
    Logged files jobs call := by
  cases hl : lookup JobRecord.jobId id jobs with
  | none => exact .of_eq h (by rw [he, mutate_none h hl])
  | some row =>
    cases ho : operation row with
    | error e => exact .of_eq h (by rw [he, mutate_error h hl ho])
    | ok r =>
      obtain ⟨job, b⟩ := r
      exact .of_append h (mem_of_lookup hl) (hw row job b hl ho) (by rw [he, mutate_some h hl ho])

theorem logged_claimNext {workerId now : String} {ttl : ℤ} {kinds : Option (List JobKind)}
    (hop : call.op = .claimNext workerId now ttl kinds) (h : Reads files jobs) :
    Logged files jobs call := by
  cases he : earliest (jobs.filter (candidate now kinds jobs)) with
  | none => exact .of_eq h (by simp only [apply, hop, claimNext, h.readJobs, he])
  | some row =>
    cases hl : leaseExpiry now ttl with
    | none => exact .of_eq h (by simp only [apply, hop, claimNext, h.readJobs, he, hl])
    | some leaseUntil =>
      exact .of_append h (List.mem_filter.mp (earliest_mem he)).1 (.claim hop hl)
        (by simp only [apply, hop, claimNext, h.readJobs, he, hl])

theorem logged_recoverExpired {now : String} (hop : call.op = .recoverExpired now)
    (h : Reads files jobs) : Logged files jobs call := by
  refine ⟨fun row => if expired now row then stored (recover now row) else row, [], ?_,
    fun row _ => ?_, by simp⟩
  · simp only [apply, hop, recoverExpired, h.readJobs, List.append_nil]
    exact reads_recover h now
  · dsimp only
    split_ifs
    · exact .inr ⟨_, .recover hop, rfl⟩
    · exact .inl rfl

theorem logged_createJob {job : JobRecord} (hop : call.op = .createJob job)
    (hid : redactText job.jobId = job.jobId) (h : Reads files jobs) : Logged files jobs call := by
  by_cases hmem : job.jobId ∈ jobs.map JobRecord.jobId
  · have hsome := lookup_isSome.mpr hmem
    exact .of_eq h (by simp only [apply, hop, createJob, h.readJobs, hsome, if_true])
  · have hnone : ¬ (lookup JobRecord.jobId job.jobId jobs).isSome = true := by
      rw [lookup_isSome]
      exact hmem
    refine ⟨id, [stored job], ?_, fun _ _ => .inl rfl, ?_⟩
    · simp only [apply, hop, createJob, h.readJobs, hnone, List.map_id, if_false,
        Bool.false_eq_true]
      exact h.create hmem hid
    · intro row hrow
      exact ⟨job, hop, List.mem_singleton.mp hrow, hmem⟩

theorem logged_markSuccess {id workerId : String} {result : Dict} {resultPath : String}
    {conversationId headSha : Option String} {gateState : GateState}
    (hop : call.op = .markSuccess id workerId result resultPath conversationId headSha gateState)
    (h : Reads files jobs) : Logged files jobs call := by
  refine .of_mutate h (by simp only [apply, hop, markSuccess]; rfl) fun row job b hl ho => ?_
  obtain rfl := key_of_lookup hl
  have hans : (apply files call).1 = .ok (.flag b) := by
    simp only [apply, hop, markSuccess, mutate_some h hl ho]
    rfl
  rw [hans]
  unfold successUpdate at ho
  split_ifs at ho
  · cases ho; exact .touch (by simp [hop])
  · cases ho; exact .touch (by simp [hop])
  · cases ho; exact .succeed hop rfl

theorem logged_markFailure {id workerId errorCode : String} {stderr : Option String}
    {result : Option Dict} {headSha : Option String} {gateState : GateState}
    (hop : call.op = .markFailure id workerId errorCode stderr result headSha gateState)
    (h : Reads files jobs) : Logged files jobs call := by
  refine .of_mutate h (by simp only [apply, hop, markFailure]; rfl) fun row job b hl ho => ?_
  obtain rfl := key_of_lookup hl
  have hans : (apply files call).1 = .ok (.flag b) := by
    simp only [apply, hop, markFailure, mutate_some h hl ho]
    rfl
  rw [hans]
  unfold failureUpdate at ho
  split_ifs at ho
  · cases ho; exact .touch (by simp [hop])
  · cases ho; exact .touch (by simp [hop])
  · cases ho; exact .fail hop rfl

/-- **The log after a call.** -/
theorem apply_log (h : Reads files jobs)
    (hid : ∀ job, call.op = .createJob job → redactText job.jobId = job.jobId) :
    Logged files jobs call := by
  cases hop : call.op with
  | createJob job => exact logged_createJob hop (hid job hop) h
  | claimNext => exact logged_claimNext hop h
  | recoverExpired => exact logged_recoverExpired hop h
  | markSuccess => exact logged_markSuccess hop h
  | markFailure => exact logged_markFailure hop h
  | heartbeat =>
    refine .of_mutate h (by simp only [apply, hop, heartbeat]; rfl) fun row job b hl ho => ?_
    obtain rfl := key_of_lookup hl
    split_ifs at ho
    · cases ho; exact .beat hop
    · cases ho; exact .touch (by simp [hop])
  | updateConversationId =>
    refine .of_mutate h (by simp only [apply, hop, updateConversationId]; rfl)
      fun row job b hl ho => ?_
    obtain rfl := key_of_lookup hl
    cases ho
    exact .converse hop
  | scheduleRetry =>
    refine .of_mutate h (by simp only [apply, hop, scheduleRetry]; rfl) fun row job b hl ho => ?_
    obtain rfl := key_of_lookup hl
    split_ifs at ho
    · cases ho; exact .touch (by simp [hop])
    · cases ho; exact .requeue hop
  | retryFailed =>
    refine .of_mutate h (by simp only [apply, hop, retryFailed]; rfl) fun row job b hl ho => ?_
    obtain rfl := key_of_lookup hl
    split_ifs at ho
    · cases ho; exact .touch (by simp [hop])
    · cases ho; exact .reopen hop
  | cancel =>
    refine .of_mutate h (by simp only [apply, hop, cancel]; rfl) fun row job b hl ho => ?_
    obtain rfl := key_of_lookup hl
    split_ifs at ho
    · cases ho; exact .withdraw hop
    · cases ho; exact .touch (by simp [hop])

theorem reads_run {calls : List Call} (hid : ∀ call ∈ calls, ∀ job, call.op = .createJob job →
      redactText job.jobId = job.jobId) (h : Reads files jobs) :
    ∃ jobs', Reads (run apply files calls).2 jobs' := by
  induction calls generalizing files jobs with
  | nil => exact ⟨jobs, h⟩
  | cons call calls ih =>
    obtain ⟨g, new, hreads, -⟩ := apply_log h (hid call (by simp))
    exact ih (fun c hc => hid c (by simp [hc])) hreads

end Blessing.Queue.LogRows
