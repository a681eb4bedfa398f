import Blessing.Queue.LogRows
import Blessing.Queue.Rows
import Blessing.Queue.Service

/-! # The two backends against each other

The JSONL store keeps whole records in a log and redacts every line it writes; the SQLite store
updates columns. `refinement`: from empty stores, the same calls with the same clock readings get
the same answers, and the stores agree on the control state of every job, as long as writing a text
again does not change it. The one place where it does is a result: `redact_json` is not idempotent,
and a stored result is redacted again with every line (`backends_differ`).

The simulation relates the table with the rows read back from the files, one by one and in the same
order. -/

namespace Blessing.Queue.Refinement

open Blessing.Lib Blessing.Lib.Values Blessing.Lib.Table Blessing.Lib.Machine
open Blessing.Queue.Models Blessing.Queue.Security Blessing.Queue.Storage Blessing.Queue.Service
open Blessing.Queue.Sqlite (Db storedResult)
open Blessing.Queue.Jsonl (Files appendUpdate)
open Blessing.Queue.Readback Blessing.Queue.LogRows

/-! ### The state compared -/

/-- The control state of a job, with the fields it is found and chosen by. -/
structure Control where
  jobId : String
  createdAt : String
  status : JobStatus
  gateState : GateState
  attempt : ℤ
  maxAttempts : ℤ
  leaseUntil : Option String
  workerId : Option String
  errorCode : Option String
  nextAttemptAt : Option String
  startedAt : Option String
  scopeKey : Option String
  jobKind : JobKind
  externalEffectClass : ExternalEffectClass
  deriving DecidableEq

def control (job : JobRecord) : Control where
  jobId := job.jobId
  createdAt := job.createdAt
  status := job.status
  gateState := job.gateState
  attempt := job.attempt
  maxAttempts := job.maxAttempts
  leaseUntil := job.leaseUntil
  workerId := job.workerId
  errorCode := job.errorCode
  nextAttemptAt := job.nextAttemptAt
  startedAt := job.startedAt
  scopeKey := job.scopeKey
  jobKind := job.jobKind
  externalEffectClass := job.externalEffectClass

/-- A text that is written as it is. -/
def Fixed (s : String) : Prop := redactText s = s

/-- Writing the control state changes nothing, and no time is an empty text. -/
structure Plain (c : Control) : Prop where
  jobId : Fixed c.jobId
  createdAt : Fixed c.createdAt
  leaseUntil : ∀ t ∈ c.leaseUntil, Fixed t ∧ t ≠ ""
  workerId : ∀ w ∈ c.workerId, Fixed w
  errorCode : ∀ e ∈ c.errorCode, Fixed e
  nextAttemptAt : ∀ t ∈ c.nextAttemptAt, Fixed t
  startedAt : ∀ t ∈ c.startedAt, Fixed t ∧ t ≠ ""
  scopeKey : ∀ k ∈ c.scopeKey, Fixed k

theorem map_redactText {s : Option String} (h : ∀ t ∈ s, Fixed t) : s.map redactText = s := by
  cases s with
  | none => rfl
  | some t => exact congrArg some (h t rfl)

theorem control_stored {job : JobRecord} (h : Plain (control job)) :
    control (stored job) = control job := by
  obtain ⟨h1, h2, h3, h4, h5, h6, h7, h8⟩ := h
  simp only [control] at h1 h2 h3 h4 h5 h6 h7 h8
  simp only [control, stored, map_redactText (fun t ht => (h3 t ht).1), map_redactText h4,
    map_redactText h5, map_redactText h6, map_redactText (fun t ht => (h7 t ht).1),
    map_redactText h8]
  rw [h1, h2]

/-- A result whose text does not change when it is written again. -/
def StableResult (d : Dict) : Prop := dumps (dumps d) = dumps d

variable {db db' : Db} {files : Files} {jobs : List JobRecord} {s s' j j' : JobRecord}

/-- A row of the table and the record read back for the same job. -/
structure Rel (db : Db) (s j : JobRecord) : Prop where
  control : control j = control s
  plain : Plain (Refinement.control s)
  result : j.resultJson = storedResult db s.jobId
  written : ∀ d ∈ j.resultJson, dumps d = d

/-- The simulation relation. -/
structure Sim (db : Db) (files : Files) (jobs : List JobRecord) : Prop where
  reads : Reads files jobs
  rows : List.Forall₂ (Rel db) db.jobs jobs
  fresh : ∀ id, id ∉ db.jobs.map JobRecord.jobId → storedResult db id = none

theorem Rel.jobId (h : Rel db s j) : j.jobId = s.jobId := congrArg Control.jobId h.control

theorem Rel.fields (h : Rel db s j) : j.status = s.status ∧ j.gateState = s.gateState ∧
    j.attempt = s.attempt ∧ j.maxAttempts = s.maxAttempts ∧ j.leaseUntil = s.leaseUntil ∧
    j.workerId = s.workerId ∧ j.errorCode = s.errorCode ∧ j.nextAttemptAt = s.nextAttemptAt ∧
    j.startedAt = s.startedAt ∧ j.scopeKey = s.scopeKey ∧ j.jobKind = s.jobKind ∧
    j.externalEffectClass = s.externalEffectClass ∧ j.createdAt = s.createdAt := by
  have := h.control
  simp only [Refinement.control, Control.mk.injEq] at this
  tauto

theorem forall₂_ids {l l' : List JobRecord} (h : List.Forall₂ (Rel db) l l') :
    l'.map JobRecord.jobId = l.map JobRecord.jobId := by
  induction h with
  | nil => rfl
  | cons hr _ ih => simp [hr.jobId, ih]

theorem forall₂_control {l l' : List JobRecord} (h : List.Forall₂ (Rel db) l l') :
    l.map control = l'.map control := by
  induction h with
  | nil => rfl
  | cons hr _ ih => simp [hr.control, ih]

theorem lookup_rel {l l' : List JobRecord} (h : List.Forall₂ (Rel db) l l') (id : String) :
    (lookup JobRecord.jobId id l = none ∧ lookup JobRecord.jobId id l' = none) ∨
      ∃ s j, lookup JobRecord.jobId id l = some s ∧ lookup JobRecord.jobId id l' = some j ∧
        Rel db s j := by
  induction h with
  | nil => exact .inl ⟨rfl, rfl⟩
  | @cons s j l l' hr _ ih =>
    rw [lookup_cons, lookup_cons, hr.jobId]
    by_cases hid : s.jobId = id
    · exact .inr ⟨s, j, by simp [hid], by simp [hid], hr⟩
    · simpa [hid] using ih

theorem forall₂_map {R R' : JobRecord → JobRecord → Prop} {g h : JobRecord → JobRecord}
    {l l' : List JobRecord} (hl : List.Forall₂ R l l')
    (hgh : ∀ s j, R s j → s ∈ l → R' (g s) (h j)) : List.Forall₂ R' (l.map g) (l'.map h) := by
  induction hl with
  | nil => exact .nil
  | @cons s j l l' hr _ ih =>
    exact .cons (hgh s j hr (by simp)) (ih fun s j hr hs => hgh s j hr (by simp [hs]))

/-- **One row changes on both sides**: the row of the table and the record appended to the log. -/
theorem Sim.update (h : Sim db files jobs) (hs : s ∈ db.jobs)
    (hjobs : db'.jobs = db.jobs.map fun r => if r.jobId = s.jobId then s' else r)
    (hres : ∀ id, id ≠ s.jobId → storedResult db' id = storedResult db id)
    (hctl : control j' = control s') (hid : s'.jobId = s.jobId) (hplain : Plain (control s'))
    (hresult : j'.resultJson.map dumps = storedResult db' s.jobId)
    (hstable : ∀ d ∈ j'.resultJson, StableResult d) :
    Sim db' (appendUpdate j' files) (updated j' jobs) := by
  have hj' : j'.jobId = s.jobId := (congrArg Control.jobId hctl).trans hid
  have hids := forall₂_ids h.rows
  have hmem : j'.jobId ∈ jobs.map JobRecord.jobId := by
    rw [hj', hids]
    exact List.mem_map_of_mem hs
  have hkeys : db'.jobs.map JobRecord.jobId = db.jobs.map JobRecord.jobId := by
    rw [hjobs, List.map_map]
    refine List.map_congr_left fun r _ => ?_
    by_cases hr : r.jobId = s.jobId <;> simp [hr, hid]
  refine ⟨h.reads.appendUpdate j' hmem, ?_, ?_⟩
  · rw [hjobs, updated]
    refine forall₂_map h.rows fun r k hr _ => ?_
    rw [hr.jobId, hj']
    split_ifs with he
    · refine ⟨?_, hplain, ?_, ?_⟩
      · rw [control_stored (by rw [hctl]; exact hplain), hctl]
      · rw [hid]; exact hresult
      · intro d hd
        obtain ⟨d₀, hd₀, rfl⟩ := Option.map_eq_some_iff.mp (Option.mem_def.mp hd)
        exact hstable d₀ hd₀
    · exact ⟨hr.control, hr.plain, by rw [hr.result, hres r.jobId he], hr.written⟩
  · intro id hn
    rw [hkeys] at hn
    have hne : id ≠ s.jobId := fun he => hn (he ▸ List.mem_map_of_mem hs)
    rw [hres id hne]
    exact h.fresh id hn

theorem Sim.update_control (h : Sim db files jobs) (hs : s ∈ db.jobs) (hsj : Rel db s j)
    (hjobs : db'.jobs = db.jobs.map fun r => if r.jobId = s.jobId then s' else r)
    (hres : db'.results = db.results) (hctl : control j' = control s') (hid : s'.jobId = s.jobId)
    (hplain : Plain (control s')) (hresult : j'.resultJson = j.resultJson) :
    Sim db' (appendUpdate j' files) (updated j' jobs) := by
  have hsame : ∀ id, storedResult db' id = storedResult db id := fun id => by
    simp only [storedResult, hres]
  refine h.update hs hjobs (fun id _ => hsame id) hctl hid hplain ?_ ?_
  · rw [hresult, hsame, ← hsj.result]
    cases hr : j.resultJson with
    | none => rfl
    | some d => exact congrArg some (hsj.written d hr)
  · intro d hd
    rw [hresult] at hd
    have := hsj.written d hd
    rw [StableResult, this, this]

/-! ### Updates of one row of the table -/

theorem update_at (hs : s ∈ db.jobs) {p : JobRecord → Bool} {f : JobRecord → JobRecord}
    (hp : ∀ r, p r = true → r.jobId = s.jobId) :
    Table.update p f db.jobs =
      db.jobs.map fun r => if r.jobId = s.jobId then (if p s then f s else s) else r := by
  refine List.map_congr_left fun r hr => ?_
  by_cases hid : r.jobId = s.jobId
  · obtain rfl := Rows.eq_of_jobId hr hs hid
    simp
  · have : p r = false := by
      cases h : p r with
      | false => rfl
      | true => exact absurd (hp r h) hid
    simp [hid, this]

theorem update_none {id : String} (hn : lookup JobRecord.jobId id db.jobs = none)
    {p : JobRecord → Bool} {f : JobRecord → JobRecord} (hp : ∀ r, p r = true → r.jobId = id) :
    Table.update p f db.jobs = db.jobs := by
  rw [Table.update]
  conv_rhs => rw [← List.map_id db.jobs]
  refine List.map_congr_left fun r hr => ?_
  have : p r = false := by
    cases h : p r with
    | false => rfl
    | true => exact absurd (hp r h) (lookup_eq_none.mp hn r hr)
  simp [this]

theorem map_self (hs : s ∈ db.jobs) :
    db.jobs = db.jobs.map fun r => if r.jobId = s.jobId then s else r := by
  conv_lhs => rw [← List.map_id db.jobs]
  refine List.map_congr_left fun r hr => ?_
  by_cases hid : r.jobId = s.jobId
  · simp [Rows.eq_of_jobId hr hs hid]
  · simp [hid]

/-! ### Calls -/

/-- Answers that tell a caller the same. -/
inductive SameAnswer : Answer → Answer → Prop
  | error (e : StoreError) : SameAnswer (.error e) (.error e)
  | done : SameAnswer (.ok .done) (.ok .done)
  | flag (b : Bool) : SameAnswer (.ok (.flag b)) (.ok (.flag b))
  | job {a b : Option JobRecord} (h : a.map control = b.map control) :
      SameAnswer (.ok (.job a)) (.ok (.job b))
  | ids {a b : List String} (h : ∀ id, id ∈ a ↔ id ∈ b) : SameAnswer (.ok (.ids a)) (.ok (.ids b))

/-- The assumption on identifiers, scopes and error codes: they are written as they are. -/
def Assumed : Op → Prop
  | .createJob job => Fixed job.jobId ∧ (∀ w ∈ job.workerId, Fixed w) ∧
      (∀ k ∈ job.scopeKey, Fixed k) ∧ ∀ e ∈ job.errorCode, Fixed e
  | .claimNext workerId .. => Fixed workerId
  | .markFailure _ _ errorCode .. => Fixed errorCode
  | .scheduleRetry _ _ errorCode _ => Fixed errorCode
  | _ => True

/-- Where the backends agree: times are written as they are and are not empty, a new job has no
result yet, and a result does not change when it is written again. -/
def Agreeing : Op → Prop
  | .createJob job => Fixed job.createdAt ∧ (∀ t ∈ job.leaseUntil, Fixed t ∧ t ≠ "") ∧
      (∀ t ∈ job.nextAttemptAt, Fixed t) ∧ (∀ t ∈ job.startedAt, Fixed t ∧ t ≠ "") ∧
      job.resultJson = none
  | .claimNext _ now .. => Fixed now
  | .heartbeat _ _ leaseUntil => Fixed leaseUntil ∧ leaseUntil ≠ ""
  | .recoverExpired now => Fixed now
  | .markSuccess _ _ result .. => StableResult result
  | .markFailure _ _ _ _ result .. => ∀ d ∈ result, StableResult d
  | .scheduleRetry _ nextAttemptAt _ _ => Fixed nextAttemptAt
  | .retryFailed _ now => Fixed now
  | _ => True

/-- One call on both sides. -/
def Agrees (db : Db) (files : Files) (call : Call) : Prop :=
  SameAnswer (Sqlite.apply db call).1 (Jsonl.apply files call).1 ∧
    ∃ jobs, Sim (Sqlite.apply db call).2 (Jsonl.apply files call).2 jobs

/-- An operation of `_mutate` meets only the record of its job. -/
theorem mutate_congr {clock : ℕ → String} {id : String}
    {operation operation' : JobRecord → Except StoreError (JobRecord × Bool)}
    (h : ∀ job, job.jobId = id → operation job = operation' job) (files : Files) :
    Jsonl.mutate clock id operation files = Jsonl.mutate clock id operation' files := by
  unfold Jsonl.mutate
  cases Jsonl.readJobs files with
  | error e => rfl
  | ok jobs =>
    cases hl : lookup JobRecord.jobId id jobs with
    | none => simp only [hl]
    | some job => simp only [hl, h job (key_of_lookup hl)]

/-- An operation of `_mutate` that changes the records with `p` by `f`. -/
def act (p : JobRecord → Bool) (f : JobRecord → JobRecord) (job : JobRecord) :
    Except StoreError (JobRecord × Bool) :=
  .ok (if p job then (f job, true) else (job, false))

theorem Sim.congr (h : Sim db files jobs) (hj : db'.jobs = db.jobs)
    (hr : db'.results = db.results) : Sim db' files jobs := by
  have hs : storedResult db' = storedResult db := by
    funext id
    simp only [storedResult, hr]
  refine ⟨h.reads, ?_, by rw [hj, hs]; exact h.fresh⟩
  rw [hj]
  exact h.rows.imp fun s j hsj => ⟨hsj.control, hsj.plain, by rw [hs]; exact hsj.result,
    hsj.written⟩

section Act

variable {p : JobRecord → Bool} {f f' : JobRecord → JobRecord} {id : String}

/-- The row function `f` of the table and the record function `f'` of the log do the same to the
control state of the rows with `p`. -/
structure Matches (id : String) (p : JobRecord → Bool) (f f' : JobRecord → JobRecord) : Prop where
  only : ∀ r, p r = true → r.jobId = id
  test : ∀ r k, control r = control k → p r = p k
  same : ∀ s j, control j = control s → control (f' j) = control (f s)
  key : ∀ r, (f r).jobId = r.jobId
  plain : ∀ s, p s = true → Plain (control s) → Plain (control (f s))
  result : ∀ j, (f' j).resultJson = j.resultJson

/-- **An operation that touches no result** keeps the simulation. -/
theorem Sim.act (h : Sim db files jobs) (hm : Matches id p f f') {clock : ℕ → String}
    (hjobs : db'.jobs = Table.update p f db.jobs) (hres : db'.results = db.results) :
    ∃ jobs', Sim db' (Jsonl.mutate clock id (act p f') files).2 jobs' := by
  rcases lookup_rel h.rows id with ⟨hs, hj⟩ | ⟨s, j, hs, hj, hsj⟩
  · rw [mutate_none h.reads hj]
    exact ⟨jobs, h.congr (hjobs.trans (update_none hs hm.only)) hres⟩
  · have hmem := mem_of_lookup hs
    have hid := key_of_lookup hs
    rw [update_at hmem (fun r hr => (hm.only r hr).trans hid.symm)] at hjobs
    have hpj : p j = p s := hm.test j s hsj.control
    by_cases hp : p s = true
    · have ho : Refinement.act p f' j = .ok (f' j, true) := by simp [Refinement.act, hpj, hp]
      rw [mutate_some h.reads hj ho]
      simp only [hp, if_true] at hjobs
      exact ⟨_, h.update_control hmem hsj hjobs hres (hm.same s j hsj.control) (hm.key s)
        (hm.plain s hp hsj.plain) (hm.result j)⟩
    · have ho : Refinement.act p f' j = .ok (j, false) := by simp [Refinement.act, hpj, hp]
      rw [mutate_some h.reads hj ho]
      simp only [hp, if_false, Bool.false_eq_true] at hjobs
      exact ⟨_, h.update_control hmem hsj hjobs hres hsj.control rfl hsj.plain rfl⟩

theorem Sim.flag_act (h : Sim db files jobs) (hm : Matches id p f f') (clock : ℕ → String) :
    Jsonl.flagOf (Jsonl.mutate clock id (Refinement.act p f') files).1 =
      .ok ((lookup JobRecord.jobId id db.jobs).any p) := by
  rcases lookup_rel h.rows id with ⟨hs, hj⟩ | ⟨s, j, hs, hj, hsj⟩
  · rw [mutate_none h.reads hj, hs]
    rfl
  · have hpj : p j = p s := hm.test j s hsj.control
    by_cases hp : p s = true
    · have ho : Refinement.act p f' j = .ok (f' j, true) := by simp [Refinement.act, hpj, hp]
      rw [mutate_some h.reads hj ho, hs]
      simp [Jsonl.flagOf, Except.map, hp]
    · have ho : Refinement.act p f' j = .ok (j, false) := by simp [Refinement.act, hpj, hp]
      rw [mutate_some h.reads hj ho, hs]
      simp [Jsonl.flagOf, Except.map, hp]

end Act

/-- The flag of an update of one row: whether the row is there and the clause holds of it. -/
theorem countP_one {id : String} {p : JobRecord → Bool} (hp : ∀ r, p r = true → r.jobId = id)
    (db : Db) : (db.jobs.countP p == 1) = (lookup JobRecord.jobId id db.jobs).any p := by
  rw [countP_key db.primary p hp]
  cases lookup JobRecord.jobId id db.jobs with
  | none => rfl
  | some s => cases h : p s <;> simp [h]

variable {call : Call} {id : String}

theorem matches_heartbeat {workerId leaseUntil : String} (clock : String)
    (hg : Fixed leaseUntil ∧ leaseUntil ≠ "") :
    Matches id (Sqlite.owned id workerId) (Sqlite.beat leaseUntil clock)
      (Jsonl.beat leaseUntil) where
  only r hr := by
    simp only [Sqlite.owned, Bool.and_eq_true, beq_iff_eq] at hr
    exact hr.1.1
  test r k hrk := by simp_all [Sqlite.owned, control]
  same s j hsj := by simp_all [control, Sqlite.beat, Jsonl.beat]
  key r := rfl
  plain s _ hs := by
    refine ⟨hs.jobId, hs.createdAt, fun t ht => ?_, hs.workerId, hs.errorCode, hs.nextAttemptAt,
      hs.startedAt, hs.scopeKey⟩
    obtain rfl : leaseUntil = t := by simpa [control, Sqlite.beat] using ht
    exact hg
  result j := rfl

theorem heartbeat_eq_act (clock : ℕ → String) (workerId leaseUntil : String) (files : Files) :
    Jsonl.heartbeat clock id workerId leaseUntil files =
      (Jsonl.flagOf (Jsonl.mutate clock id (act (Sqlite.owned id workerId)
          (Jsonl.beat leaseUntil)) files).1,
        (Jsonl.mutate clock id (act (Sqlite.owned id workerId)
          (Jsonl.beat leaseUntil)) files).2) := by
  unfold Jsonl.heartbeat Jsonl.mutate
  cases Jsonl.readJobs files with
  | error e => rfl
  | ok jobs =>
    cases hl : lookup JobRecord.jobId id jobs with
    | none => simp only [hl]; rfl
    | some job =>
      have hid := key_of_lookup hl
      cases hp : (job.status == .running && job.workerId == some workerId) with
      | true =>
        have ho : Sqlite.owned id workerId job = true := by simpa [Sqlite.owned, hid] using hp
        simp only [hl, act, ho, hp, if_true, Jsonl.flagOf, Except.map, Jsonl.beat, Option.any_some,
          Option.map_some, Option.getD_some]
      | false =>
        have ho : Sqlite.owned id workerId job = false := by simpa [Sqlite.owned, hid] using hp
        simp only [hl, act, ho, hp, if_false, Bool.false_eq_true, Jsonl.flagOf, Except.map,
          Option.any_some, Option.map_some, Option.getD_some]

theorem agrees_heartbeat {workerId leaseUntil : String}
    (hop : call.op = .heartbeat id workerId leaseUntil) (hg : Agreeing call.op)
    (h : Sim db files jobs) : Agrees db files call := by
  rw [hop] at hg
  have hm : Matches id (Sqlite.owned id workerId) _ _ := matches_heartbeat (call.clock 0) hg
  constructor
  · simp only [Sqlite.apply, Jsonl.apply, hop, Sqlite.heartbeat, heartbeat_eq_act, h.flag_act hm,
      countP_one hm.only]
    exact .flag _
  · simp only [Sqlite.apply, Jsonl.apply, hop, Sqlite.heartbeat, heartbeat_eq_act]
    exact h.act hm rfl rfl

theorem matches_cancel (clock : ℕ → String) : Matches id (Sqlite.unfinished id)
    (Sqlite.withdraw (clock 0) (clock 1)) (Jsonl.withdraw (clock 0)) where
  only r hr := by
    simp only [Sqlite.unfinished, Bool.and_eq_true, beq_iff_eq] at hr
    exact hr.1
  test r k hrk := by simp_all [Sqlite.unfinished, control]
  same s j hsj := by simp_all [control, Sqlite.withdraw, Jsonl.withdraw]
  key r := rfl
  plain s _ hs := ⟨hs.jobId, hs.createdAt, by simp [control, Sqlite.withdraw],
    by simp [control, Sqlite.withdraw], hs.errorCode, hs.nextAttemptAt, hs.startedAt, hs.scopeKey⟩
  result j := rfl

theorem agrees_cancel (hop : call.op = .cancel id) (h : Sim db files jobs) :
    Agrees db files call := by
  have hm : Matches id (Sqlite.unfinished id) _ _ := matches_cancel call.clock
  have hop' : ∀ job : JobRecord, job.jobId = id →
      (if job.status == .pending || job.status == .running then
        .ok (Jsonl.withdraw (call.clock 0) job, true) else .ok (job, false)) =
      act (Sqlite.unfinished id) (Jsonl.withdraw (call.clock 0)) job := by
    intro job hid
    simp only [act, Sqlite.unfinished, hid, beq_self_eq_true, Bool.true_and]
    split <;> rfl
  constructor
  · simp only [Sqlite.apply, Jsonl.apply, hop, Sqlite.cancel, Jsonl.cancel, mutate_congr hop',
      h.flag_act hm, countP_one hm.only]
    exact .flag _
  · simp only [Sqlite.apply, Jsonl.apply, hop, Sqlite.cancel, Jsonl.cancel, mutate_congr hop']
    exact h.act hm rfl rfl

/-- The rows that go back to the queue from a state. -/
def retriable (status : JobStatus) (id : String) (r : JobRecord) : Bool :=
  r.jobId == id && !(r.status != status || r.externalEffectClass.isUnsafe ||
    r.maxAttempts ≤ r.attempt)

theorem retriable_congr {status : JobStatus} (r k : JobRecord) (h : control r = control k) :
    retriable status id r = retriable status id k := by
  simp only [control, Control.mk.injEq] at h
  simp [retriable, h]

theorem retriable_only {status : JobStatus} (r : JobRecord) (h : retriable status id r = true) :
    r.jobId = id := by
  simp only [retriable, Bool.and_eq_true, beq_iff_eq] at h
  exact h.1

/-- The guard of the JSONL store, in its own order. -/
theorem act_retriable {status : JobStatus} {f : JobRecord → JobRecord} (job : JobRecord)
    (hid : job.jobId = id) :
    (if job.status != status || job.maxAttempts ≤ job.attempt ||
        job.externalEffectClass.isUnsafe then .ok (job, false) else .ok (f job, true)) =
      act (retriable status id) f job := by
  simp only [act, retriable, hid, beq_self_eq_true, Bool.true_and]
  cases job.status != status <;> cases job.externalEffectClass.isUnsafe <;>
    by_cases hm : job.maxAttempts ≤ job.attempt <;> simp [hm]

/-- The form of `schedule_retry` and `retry_failed`: a guard on the selected row, then an update of
the rows with its identifier and state. -/
def guarded (status : JobStatus) (id : String) (f : JobRecord → JobRecord)
    (hf : ∀ job, (f job).jobId = job.jobId) (db : Db) : Bool × Db :=
  match lookup JobRecord.jobId id db.jobs with
  | none => (false, db)
  | some row =>
    if row.status != status || row.externalEffectClass.isUnsafe ||
      row.maxAttempts ≤ row.attempt then
      (false, db)
    else (true, db.update (fun job => job.jobId == id && job.status == status) f hf)

theorem guarded_eq (status : JobStatus) (id : String) {f : JobRecord → JobRecord}
    (hf : ∀ job, (f job).jobId = job.jobId) (db : Db) :
    (guarded status id f hf db).1 =
        (lookup JobRecord.jobId id db.jobs).any (retriable status id) ∧
      (guarded status id f hf db).2.jobs = Table.update (retriable status id) f db.jobs ∧
      (guarded status id f hf db).2.results = db.results := by
  cases hl : lookup JobRecord.jobId id db.jobs with
  | none =>
    simp only [guarded, hl]
    exact ⟨rfl, (update_none hl retriable_only).symm, trivial⟩
  | some s =>
    have hid := key_of_lookup hl
    have hmem := mem_of_lookup hl
    rw [update_at hmem fun r hr => (retriable_only r hr).trans hid.symm]
    cases hg : (s.status != status || s.externalEffectClass.isUnsafe ||
        s.maxAttempts ≤ s.attempt) with
    | true =>
      have hr : retriable status id s = false := by simp [retriable, hg]
      simp only [guarded, hl, hg, hr, if_true]
      exact ⟨by simp [hr], map_self hmem, trivial⟩
    | false =>
      have hr : retriable status id s = true := by simp [retriable, hg, hid]
      have hs : s.status = status := by
        simp only [Bool.or_eq_false_iff, bne_eq_false_iff_eq] at hg
        exact hg.1.1
      have hupd := update_at hmem (f := f)
        (p := fun job => job.jobId == id && job.status == status) fun r hr => by
          simp only [Bool.and_eq_true, beq_iff_eq] at hr
          exact hr.1.trans hid.symm
      simp only [hid, hs, beq_self_eq_true, Bool.and_self, if_true] at hupd
      simp only [guarded, hl, hg, hr, if_true, hid]
      exact ⟨by simp [hr], hupd, rfl⟩

theorem matches_scheduleRetry {nextAttemptAt errorCode : String} (stderr : Option String)
    (clock : String) (ht : Fixed nextAttemptAt) (he : Fixed errorCode) :
    Matches id (retriable .running id) (Sqlite.requeue nextAttemptAt errorCode stderr clock)
      (Jsonl.requeue nextAttemptAt errorCode stderr) where
  only := retriable_only
  test := retriable_congr
  same s j hsj := by simp_all [control, Sqlite.requeue, Jsonl.requeue]
  key r := rfl
  plain s _ hs := ⟨hs.jobId, hs.createdAt, by simp [control, Sqlite.requeue],
    by simp [control, Sqlite.requeue], by simpa [control, Sqlite.requeue] using he,
    by simpa [control, Sqlite.requeue] using ht, hs.startedAt, hs.scopeKey⟩
  result j := rfl

theorem agrees_scheduleRetry {nextAttemptAt errorCode : String} {stderr : Option String}
    (hop : call.op = .scheduleRetry id nextAttemptAt errorCode stderr) (ha : Assumed call.op)
    (hg : Agreeing call.op) (h : Sim db files jobs) : Agrees db files call := by
  rw [hop] at ha hg
  have hm : Matches id (retriable .running id) _ _ :=
    matches_scheduleRetry stderr (call.clock 0) hg ha
  obtain ⟨hflag, hjobs, hres⟩ := guarded_eq .running id
    (Sqlite.requeue_jobId nextAttemptAt errorCode stderr (call.clock 0)) db
  constructor
  · simp only [Sqlite.apply, Jsonl.apply, hop, Jsonl.scheduleRetry, mutate_congr act_retriable,
      h.flag_act hm]
    exact hflag ▸ .flag _
  · simp only [Sqlite.apply, Jsonl.apply, hop, Jsonl.scheduleRetry, mutate_congr act_retriable]
    exact h.act hm hjobs hres

theorem matches_retryFailed {now : String} (ht : Fixed now) :
    Matches id (retriable .failed id) (Sqlite.reopen now) (Jsonl.reopen now) where
  only := retriable_only
  test := retriable_congr
  same s j hsj := by simp_all [control, Sqlite.reopen, Jsonl.reopen]
  key r := rfl
  plain s _ hs := ⟨hs.jobId, hs.createdAt, hs.leaseUntil, hs.workerId, by
    have : Fixed "manual_retry" := by unfold Fixed; decide +kernel
    simpa [control, Sqlite.reopen] using this,
    by simpa [control, Sqlite.reopen] using ht, hs.startedAt, hs.scopeKey⟩
  result j := rfl

theorem agrees_retryFailed {now : String} (hop : call.op = .retryFailed id now)
    (hg : Agreeing call.op) (h : Sim db files jobs) : Agrees db files call := by
  rw [hop] at hg
  have hm : Matches id (retriable .failed id) _ _ := matches_retryFailed hg
  obtain ⟨hflag, hjobs, hres⟩ := guarded_eq .failed id (Sqlite.reopen_jobId now) db
  constructor
  · simp only [Sqlite.apply, Jsonl.apply, hop, Jsonl.retryFailed, mutate_congr act_retriable,
      h.flag_act hm]
    exact hflag ▸ .flag _
  · simp only [Sqlite.apply, Jsonl.apply, hop, Jsonl.retryFailed, mutate_congr act_retriable]
    exact h.act hm hjobs hres

theorem matches_converse (conversationId clock : String) :
    Matches id (fun job => job.jobId == id) (Sqlite.converse conversationId clock)
      (Jsonl.converse conversationId) where
  only r hr := by simpa using hr
  test r k hrk := by simp_all [control]
  same s j hsj := by simp_all [control, Sqlite.converse, Jsonl.converse]
  key r := rfl
  plain s _ hs := ⟨hs.jobId, hs.createdAt, hs.leaseUntil, hs.workerId, hs.errorCode,
    hs.nextAttemptAt, hs.startedAt, hs.scopeKey⟩
  result j := rfl

theorem agrees_updateConversationId {conversationId : String}
    (hop : call.op = .updateConversationId id conversationId) (h : Sim db files jobs) :
    Agrees db files call := by
  have hm : Matches id (fun job => job.jobId == id) _ _ :=
    matches_converse conversationId (call.clock 0)
  have hop' : ∀ job : JobRecord, job.jobId = id → .ok (Jsonl.converse conversationId job, true) =
      act (fun job => job.jobId == id) (Jsonl.converse conversationId) job := by
    intro job hid
    simp [act, hid]
  constructor
  · have hflag := h.flag_act hm call.clock
    simp only [Sqlite.apply, Jsonl.apply, hop, Jsonl.updateConversationId, mutate_congr hop']
    cases hr : (Jsonl.mutate call.clock id (act (fun job => job.jobId == id)
        (Jsonl.converse conversationId)) files).1 with
    | error e => simp [hr, Jsonl.flagOf, Except.map] at hflag
    | ok o => exact .done
  · simp only [Sqlite.apply, Jsonl.apply, hop, Jsonl.updateConversationId, mutate_congr hop']
    exact h.act hm rfl rfl

theorem agrees_createJob {job : JobRecord} (hop : call.op = .createJob job) (ha : Assumed call.op)
    (hg : Agreeing call.op) (h : Sim db files jobs) : Agrees db files call := by
  rw [hop] at ha hg
  obtain ⟨hid, hw, hk, he⟩ := ha
  obtain ⟨hc, hl, hn, hs, hr⟩ := hg
  have hids := forall₂_ids h.rows
  have hplain : Plain (control job) := ⟨hid, hc, hl, hw, he, hn, hs, hk⟩
  by_cases hmem : job.jobId ∈ db.jobs.map JobRecord.jobId
  · have hsome : (lookup JobRecord.jobId job.jobId jobs).isSome = true :=
      lookup_isSome.mpr (by rw [hids]; exact hmem)
    simp only [Agrees, Sqlite.apply, Jsonl.apply, hop, Sqlite.createJob, Jsonl.createJob,
      h.reads.readJobs, hmem, hsome, dif_pos, if_true]
    exact ⟨.error _, jobs, h⟩
  · have hnone : ¬ (lookup JobRecord.jobId job.jobId jobs).isSome = true := by
      rw [lookup_isSome, hids]
      exact hmem
    simp only [Agrees, Sqlite.apply, Jsonl.apply, hop, Sqlite.createJob, Jsonl.createJob,
      h.reads.readJobs, hmem, hnone, dif_neg, not_false_eq_true, if_false, Bool.false_eq_true]
    refine ⟨.job rfl, jobs ++ [stored job],
      h.reads.create (by rw [hids]; exact hmem) hid, ?_, ?_⟩
    · refine List.rel_append (h.rows.imp fun s j hsj =>
        ⟨hsj.control, hsj.plain, hsj.result, hsj.written⟩) (.cons ⟨?_, hplain, ?_, ?_⟩ .nil)
      · exact control_stored hplain
      · rw [stored, hr]
        exact (h.fresh job.jobId hmem).symm
      · simp [stored, hr]
    · intro k hk
      refine h.fresh k fun hk' => hk ?_
      rw [List.map_append]
      exact List.mem_append_left _ hk'

/-! ### Claims and recovery -/

/-- The scopes of the running rows. -/
def runningScopes (jobs : List JobRecord) : List String :=
  (jobs.filter fun job => job.status == .running).filterMap JobRecord.scopeKey

theorem runningScopes_rel {l l' : List JobRecord} (h : List.Forall₂ (Rel db) l l') :
    runningScopes l' = runningScopes l := by
  induction h with
  | nil => rfl
  | @cons s j l l' hr _ ih =>
    obtain ⟨hs, -, -, -, -, -, -, -, -, hk, -⟩ := hr.fields
    simp only [runningScopes] at ih ⊢
    cases hrun : s.status == .running <;> simp [hs, hk, hrun, ih, List.filterMap_cons]

theorem all_runningScopes (l : List JobRecord) (scope : Option String) :
    (scope.all fun k => !(runningScopes l).contains k) =
      !(l.any fun active =>
        active.status == .running && active.scopeKey.isSome && active.scopeKey == scope) := by
  cases scope with
  | none =>
    have : (l.any fun active => active.status == .running && active.scopeKey.isSome &&
        active.scopeKey == none) = false := by
      rw [List.any_eq_false]
      intro active _
      cases active.scopeKey <;> simp
    rw [this]
    rfl
  | some k =>
    rw [Option.all_some, Bool.not_inj_iff, Bool.eq_iff_iff, List.contains_iff_mem, List.any_eq_true]
    simp only [runningScopes, List.mem_filterMap, List.mem_filter, Bool.and_eq_true, beq_iff_eq]
    constructor
    · rintro ⟨r, ⟨hr, hs⟩, hk⟩
      exact ⟨r, hr, ⟨hs, by simp [hk]⟩, hk⟩
    · rintro ⟨r, hr, ⟨hs, -⟩, hk⟩
      exact ⟨r, ⟨hr, hs⟩, hk⟩

theorem candidate_rel (h : List.Forall₂ (Rel db) db.jobs jobs) (hsj : Rel db s j) (now : String)
    (kinds : Option (List JobKind)) :
    Jsonl.candidate now kinds jobs j = Sqlite.claimable now kinds db.jobs s := by
  obtain ⟨h1, h2, h3, h4, -, -, -, h8, -, h10, h11, -⟩ := hsj.fields
  have hscope := all_runningScopes db.jobs s.scopeKey
  rw [← runningScopes_rel h] at hscope
  simp only [runningScopes] at hscope
  simp only [Jsonl.candidate, Sqlite.claimable, h1, h2, h3, h4, h8, h10, h11, hscope]
  ac_rfl

theorem earliest_rel {l l' : List JobRecord} (h : List.Forall₂ (Rel db) l l') :
    (earliest l = none ∧ earliest l' = none) ∨
      ∃ s j, earliest l = some s ∧ earliest l' = some j ∧ Rel db s j := by
  induction h with
  | nil => exact .inl ⟨rfl, rfl⟩
  | @cons s j l l' hr _ ih =>
    refine .inr ?_
    rcases ih with ⟨h1, h2⟩ | ⟨s₁, j₁, h1, h2, hr₁⟩
    · exact ⟨s, j, by simp [earliest, h1], by simp [earliest, h2], hr⟩
    · have he : earlier j₁ j = earlier s₁ s := by
        simp only [earlier, hr.jobId, hr₁.jobId, hr.fields, hr₁.fields]
      cases hb : earlier s₁ s with
      | true => exact ⟨s₁, j₁, by simp [earliest, h1, hb], by simp [earliest, h2, he, hb], hr₁⟩
      | false => exact ⟨s, j, by simp [earliest, h1, hb], by simp [earliest, h2, he, hb], hr⟩

theorem filter_rel {l l' : List JobRecord} (h : List.Forall₂ (Rel db) l l') {p q : JobRecord → Bool}
    (hpq : ∀ s j, Rel db s j → q j = p s) : List.Forall₂ (Rel db) (l.filter p) (l'.filter q) := by
  induction h with
  | nil => exact .nil
  | @cons s j l l' hr _ ih =>
    rw [List.filter_cons, List.filter_cons, hpq s j hr]
    split_ifs
    · exact .cons hr ih
    · exact ih

theorem control_claim (hsj : Rel db s j) (workerId now leaseUntil : String) :
    control (Jsonl.claim workerId now leaseUntil j) =
      control (Sqlite.claim workerId now leaseUntil s) := by
  have hc := hsj.control
  have hstart : Jsonl.orElse j.startedAt (some now) = s.startedAt.or (some now) := by
    have hne := hsj.plain.startedAt
    have := hsj.fields.2.2.2.2.2.2.2.2.1
    cases hst : s.startedAt with
    | none => simp [Jsonl.orElse, this, hst]
    | some t =>
      have ht : t ≠ "" := (hne t hst).2
      simp [Jsonl.orElse, this, hst, ht]
  simp only [control, Control.mk.injEq] at hc
  obtain ⟨c1, c2, c3, c4, c5, c6, c7, c8, c9, c10, c11, c12, c13, c14⟩ := hc
  simp only [control, Jsonl.claim, Sqlite.claim, hstart, c1, c2, c4, c5, c6, c10, c12, c13, c14]

theorem plain_claim (hs : Plain (control s)) {workerId now leaseUntil : String} {ttl : ℤ}
    (hl : leaseExpiry now ttl = some leaseUntil) (hw : Fixed workerId) (hn : Fixed now) :
    Plain (control (Sqlite.claim workerId now leaseUntil s)) := by
  obtain ⟨hl₁, hl₂, hne⟩ := leaseExpiry_text hl
  refine ⟨hs.jobId, hs.createdAt, ?_, ?_, by simp [control, Sqlite.claim], hs.nextAttemptAt, ?_,
    hs.scopeKey⟩
  · simpa [control, Sqlite.claim] using ⟨hl₁, hl₂⟩
  · simpa [control, Sqlite.claim] using hw
  · intro t ht
    have hstart := hs.startedAt
    simp only [control, Sqlite.claim] at ht hstart
    cases hst : s.startedAt with
    | none =>
      rw [hst] at ht
      obtain rfl : now = t := by simpa using ht
      exact ⟨hn, hne⟩
    | some u =>
      rw [hst] at ht hstart
      obtain rfl : u = t := by simpa using ht
      exact hstart u rfl

theorem agrees_claimNext {workerId now : String} {ttl : ℤ} {kinds : Option (List JobKind)}
    (hop : call.op = .claimNext workerId now ttl kinds) (ha : Assumed call.op)
    (hg : Agreeing call.op) (h : Sim db files jobs) : Agrees db files call := by
  rw [hop] at ha hg
  have hrel := filter_rel h.rows fun s j hsj => candidate_rel h.rows hsj now kinds
  rcases earliest_rel hrel with ⟨hs, hj⟩ | ⟨s, j, hs, hj, hsj⟩
  · have hsql : Sqlite.claimNext workerId now ttl kinds db = (.ok none, db) := by
      unfold Sqlite.claimNext
      split_ifs
      · rfl
      · rw [hs]
    simp only [Agrees, Sqlite.apply, Jsonl.apply, hop, hsql, Jsonl.claimNext, h.reads.readJobs, hj]
    exact ⟨.job rfl, jobs, h⟩
  · have hmem := List.mem_filter.mp (earliest_mem hs)
    have hc := Rows.claimable_iff.mp hmem.2
    have hkinds : kinds ≠ some [] := by
      rintro rfl
      simpa using hc.kind [] rfl
    cases hl : leaseExpiry now ttl with
    | none =>
      simp only [Agrees, Sqlite.apply, Jsonl.apply, hop, Sqlite.claimNext, hkinds, if_false, hs, hl,
        Jsonl.claimNext, h.reads.readJobs, hj]
      exact ⟨.error _, jobs, h⟩
    | some leaseUntil =>
      have hup := update_at hmem.1 (f := Sqlite.claim workerId now leaseUntil)
        (p := fun job => job.jobId == s.jobId && job.status == .pending) fun r hr => by
          simp only [Bool.and_eq_true, beq_iff_eq] at hr
          exact hr.1
      simp only [hc.pending, beq_self_eq_true, Bool.and_self, if_true] at hup
      have hget : lookup JobRecord.jobId s.jobId (db.update
          (fun job => job.jobId == s.jobId && job.status == .pending)
          (Sqlite.claim workerId now leaseUntil)
            (Sqlite.claim_jobId workerId now leaseUntil)).jobs =
            some (Sqlite.claim workerId now leaseUntil s) := by
        rw [Db.update_jobs, lookup_update (Sqlite.claim_jobId _ _ _), Rows.lookup_jobs hmem.1]
        simp [hc.pending]
      simp only [Agrees, Sqlite.apply, Jsonl.apply, hop, Sqlite.claimNext, hkinds, if_false, hs, hl,
        Jsonl.claimNext, h.reads.readJobs, hj, Sqlite.get, hget]
      refine ⟨.job ?_, _, h.update_control hmem.1 hsj hup rfl (control_claim hsj _ _ _) rfl
        (plain_claim hsj.plain hl ha hg) rfl⟩
      simp only [Option.map_some, control_claim hsj]
      rfl

theorem expired_rel (hsj : Rel db s j) (now : String) :
    Jsonl.expired now j = Sqlite.expired now s := by
  obtain ⟨h1, -, -, -, h5, -⟩ := hsj.fields
  simp only [Jsonl.expired, Sqlite.expired, h1, h5]
  cases hl : s.leaseUntil with
  | none => rfl
  | some t =>
    have ht : t ≠ "" := (hsj.plain.leaseUntil t hl).2
    simp [ht]

theorem control_recover (hsj : Rel db s j) (now : String) :
    control (Jsonl.recover now j) = control (Sqlite.recover now s s) := by
  have hc := hsj.control
  simp only [control, Control.mk.injEq] at hc
  obtain ⟨c1, c2, c3, c4, c5, c6, c7, c8, c9, c10, c11, c12, c13, c14⟩ := hc
  simp only [Jsonl.recover, Sqlite.recover, c5, c6, c14]
  by_cases hu : (s.externalEffectClass.isUnsafe || s.maxAttempts ≤ s.attempt) = true
  · rw [if_pos hu, if_pos hu]
    simp only [control, c1, c2, c10, c11, c12, c13]
  · rw [if_neg hu, if_neg hu]
    simp only [control, c1, c2, c11, c12, c13]

theorem plain_recover (hs : Plain (control s)) {now : String} (hn : Fixed now) :
    Plain (control (Sqlite.recover now s s)) := by
  have hcodes : ∀ e ∈ ["external_effect_uncertain", "lease_expired_attempts_exhausted",
      "lease_expired"], Fixed e := by
    unfold Fixed
    decide +kernel
  unfold Sqlite.recover
  split
  · refine ⟨hs.jobId, hs.createdAt, by simp [control], by simp [control], ?_, hs.nextAttemptAt,
      hs.startedAt, hs.scopeKey⟩
    intro e he
    refine hcodes e ?_
    simp only [control, Option.mem_def, Option.some.injEq] at he
    split_ifs at he <;> simp [← he]
  · refine ⟨hs.jobId, hs.createdAt, by simp [control], by simp [control], ?_, ?_, hs.startedAt,
      hs.scopeKey⟩
    · intro e he
      refine hcodes e ?_
      simp only [control, Option.mem_def, Option.some.injEq] at he
      simp [← he]
    · simpa [control] using hn

theorem agrees_recoverExpired {now : String} (hop : call.op = .recoverExpired now)
    (hg : Agreeing call.op) (h : Sim db files jobs) : Agrees db files call := by
  rw [hop] at hg
  have hfilter := filter_rel h.rows fun s j hsj => expired_rel hsj now
  have hsame : ∀ id, storedResult (Sqlite.recoverExpired now db).2 id = storedResult db id :=
    fun id => by simp only [storedResult, Rows.recoverExpired_results]
  simp only [Agrees, Sqlite.apply, Jsonl.apply, hop, Jsonl.recoverExpired, h.reads.readJobs]
  refine ⟨.ids fun id => ?_, _, reads_recover h.reads now, ?_, ?_⟩
  · rw [forall₂_ids hfilter]
    rfl
  · rw [Rows.recoverExpired_jobs]
    refine forall₂_map h.rows fun s j hsj _ => ?_
    rw [expired_rel hsj]
    split_ifs with he
    · have hplain := plain_recover hsj.plain hg
      have hctl := control_recover hsj now
      have hres : (Jsonl.recover now j).resultJson = j.resultJson := by
        unfold Jsonl.recover
        split <;> rfl
      refine ⟨by rw [control_stored (hctl ▸ hplain), hctl], hplain, ?_, ?_⟩
      · rw [Sqlite.recover_jobId, hsame, ← hsj.result, stored, hres]
        cases hr : j.resultJson with
        | none => rfl
        | some d => exact congrArg some (hsj.written d hr)
      · intro d hd
        rw [stored, hres] at hd
        obtain ⟨d₀, hd₀, rfl⟩ := Option.map_eq_some_iff.mp (Option.mem_def.mp hd)
        rw [hsj.written d₀ hd₀, hsj.written d₀ hd₀]
    · exact ⟨hsj.control, hsj.plain, by rw [hsame]; exact hsj.result, hsj.written⟩
  · intro id hn
    rw [hsame]
    refine h.fresh id fun hmem => hn ?_
    rw [Rows.recoverExpired_jobs, List.map_map]
    obtain ⟨r, hr, rfl⟩ := List.mem_map.mp hmem
    refine List.mem_map.mpr ⟨r, hr, ?_⟩
    simp only [Function.comp_apply]
    split_ifs <;> simp

/-! ### Completions -/

theorem StableResult.redactFields {d : Dict} (h : StableResult d) :
    dumps (Security.redactFields d) = dumps d := by
  rw [← dumps_dumps]
  exact h

theorem StableResult.redacted {d : Dict} (h : StableResult d) :
    StableResult (Security.redactFields d) := by
  rw [StableResult, h.redactFields]
  exact h

/-- The ownership checks of a completion in the JSONL store, in its own order. -/
theorem fencedOut_eq (last : JobStatus) (workerId : String) (job : JobRecord) {α : Type}
    (x y : α) :
    (if job.status == .running && job.workerId != some workerId then x
      else if !(job.status == .running || job.status == last) then x else y) =
      if Sqlite.fencedOut last workerId job then x else y := by
  unfold Sqlite.fencedOut
  cases h1 : job.status == .running <;> cases h2 : job.status == last <;>
    cases h3 : job.workerId != some workerId <;> simp

theorem fencedOut_rel (hsj : Rel db s j) (last : JobStatus) (workerId : String) :
    Sqlite.fencedOut last workerId j = Sqlite.fencedOut last workerId s := by
  obtain ⟨h1, -, -, -, -, h6, -⟩ := hsj.fields
  simp only [Sqlite.fencedOut, h1, h6]

theorem completes_only (last : JobStatus) (workerId : String) (r : JobRecord)
    (h : Sqlite.completes last id workerId r = true) : r.jobId = id :=
  (Rows.completes_iff.mp h).1

/-- A completion of a job that is fenced out: nothing happens to its control state. -/
theorem Sim.keep (h : Sim db files jobs) (hs : s ∈ db.jobs) (hsj : Rel db s j) (clock : String) :
    ∃ jobs', Sim db (appendUpdate { j with updatedAt := clock } files) jobs' :=
  ⟨_, h.update_control hs hsj (map_self hs) rfl hsj.control rfl hsj.plain rfl⟩

theorem conflict_rel (hsj : Rel db s j) (result : Dict) :
    (j.resultJson.any fun existing => dumps existing ≠ dumps result) =
      (storedResult db s.jobId).any (· ≠ dumps result) := by
  rw [← hsj.result]
  cases hr : j.resultJson with
  | none => rfl
  | some d => simp only [Option.any_some, hsj.written d hr]

theorem storedResult_completion (db : Db) (p : JobRecord → Bool) (f : JobRecord → JobRecord)
    (hf : ∀ job, (f job).jobId = job.jobId) (jobId : String) (text : Dict) (k : String) :
    storedResult ((db.setResult jobId text).update p f hf) k =
      if jobId = k then some text else storedResult db k := by
  rw [Sqlite.storedResult_update, Sqlite.storedResult_setResult]

theorem agrees_markSuccess {workerId : String} {result : Dict} {resultPath : String}
    {conversationId headSha : Option String} {gateState : GateState}
    (hop : call.op = .markSuccess id workerId result resultPath conversationId headSha gateState)
    (hg : Agreeing call.op) (h : Sim db files jobs) : Agrees db files call := by
  rw [hop] at hg
  simp only [Agrees, Sqlite.apply, Jsonl.apply, hop, Sqlite.markSuccess, Jsonl.markSuccess]
  rcases lookup_rel h.rows id with ⟨hs, hj⟩ | ⟨s, j, hs, hj, hsj⟩
  · simp only [hs, mutate_none h.reads hj]
    exact ⟨.flag false, jobs, h⟩
  have hmem := mem_of_lookup hs
  obtain rfl := key_of_lookup hs
  have hupdate :
      Jsonl.successUpdate (call.clock 0) s.jobId workerId result resultPath conversationId
      headSha gateState j = if Sqlite.fencedOut .succeeded workerId s then .ok (j, false)
        else if (storedResult db s.jobId).any (· ≠ dumps result) then
          .error (.conflict ("Result for " ++ s.jobId ++ " already differs"))
        else .ok (Jsonl.succeed result resultPath conversationId headSha gateState (call.clock 0) j,
          true) := by
    rw [← fencedOut_rel hsj, ← conflict_rel hsj, ← fencedOut_eq]
    rfl
  simp only [hs]
  cases hf : Sqlite.fencedOut .succeeded workerId s with
  | true =>
    rw [mutate_some h.reads hj (by rw [hupdate, hf, if_pos rfl])]
    exact ⟨.flag false, h.keep hmem hsj _⟩
  | false =>
    cases hd : (storedResult db s.jobId).any (· ≠ dumps result) with
    | true =>
      rw [mutate_error h.reads hj (by rw [hupdate, hf, hd]; rfl)]
      exact ⟨.error _, jobs, h⟩
    | false =>
      rw [mutate_some h.reads hj (by rw [hupdate, hf, hd]; rfl)]
      simp only [if_false, Bool.false_eq_true, decide_eq_true (Rows.countP_completes hmem hf)]
      have hrow := update_at hmem (f := Sqlite.succeed (dumps result) resultPath conversationId
        headSha gateState (call.clock 0)) (completes_only .succeeded workerId)
      rw [Rows.completes_of_not_fencedOut hf, if_pos rfl] at hrow
      have hstored := storedResult_completion db (Sqlite.completes .succeeded s.jobId workerId)
        (Sqlite.succeed (dumps result) resultPath conversationId headSha gateState (call.clock 0))
        (Sqlite.succeed_jobId _ _ _ _ _ _) s.jobId (dumps result)
      refine ⟨.flag true, _, h.update hmem hrow (fun k hk => ?_) ?_ rfl ?_ ?_ ?_⟩
      · rw [hstored, if_neg (Ne.symm hk)]
      · have hc := hsj.control
        simp only [control, Control.mk.injEq] at hc
        simp [control, Jsonl.succeed, Sqlite.succeed, hc]
      · exact ⟨hsj.plain.jobId, hsj.plain.createdAt, by simp [control, Sqlite.succeed],
          by simp [control, Sqlite.succeed], by simp [control, Sqlite.succeed],
          hsj.plain.nextAttemptAt, hsj.plain.startedAt, hsj.plain.scopeKey⟩
      · rw [hstored, if_pos rfl]
        exact congrArg some (StableResult.redactFields hg)
      · intro d hd
        obtain rfl : Security.redactFields result = d := Option.some.inj hd
        exact StableResult.redacted hg

theorem agrees_markFailure {workerId errorCode : String} {stderr : Option String}
    {result : Option Dict} {headSha : Option String} {gateState : GateState}
    (hop : call.op = .markFailure id workerId errorCode stderr result headSha gateState)
    (ha : Assumed call.op) (hg : Agreeing call.op) (h : Sim db files jobs) :
    Agrees db files call := by
  rw [hop] at ha hg
  have he : Fixed errorCode := ha
  simp only [Agrees, Sqlite.apply, Jsonl.apply, hop, Sqlite.markFailure, Jsonl.markFailure]
  rcases lookup_rel h.rows id with ⟨hs, hj⟩ | ⟨s, j, hs, hj, hsj⟩
  · simp only [hs, mutate_none h.reads hj]
    exact ⟨.flag false, jobs, h⟩
  have hmem := mem_of_lookup hs
  obtain rfl := key_of_lookup hs
  have hupdate : Jsonl.failureUpdate (call.clock 0) workerId errorCode stderr result headSha
      gateState j = if Sqlite.fencedOut .failed workerId s then .ok (j, false)
        else .ok (Jsonl.fail errorCode stderr result headSha gateState (call.clock 0) j, true) := by
    rw [← fencedOut_rel hsj, ← fencedOut_eq]
    rfl
  simp only [hs]
  cases hf : Sqlite.fencedOut .failed workerId s with
  | true =>
    rw [mutate_some h.reads hj (by rw [hupdate, hf, if_pos rfl])]
    exact ⟨.flag false, h.keep hmem hsj _⟩
  | false =>
    rw [mutate_some h.reads hj (by rw [hupdate, hf]; rfl)]
    simp only [if_false, Bool.false_eq_true, decide_eq_true (Rows.countP_completes hmem hf)]
    have hrow := update_at hmem (f := Sqlite.fail errorCode stderr (result.map dumps) headSha
      gateState (call.clock 0)) (completes_only .failed workerId)
    rw [Rows.completes_of_not_fencedOut hf, if_pos rfl] at hrow
    have hctl : control { Jsonl.fail errorCode stderr result headSha gateState (call.clock 0) j with
        updatedAt := call.clock 1 } = control (Sqlite.fail errorCode stderr (result.map dumps)
          headSha gateState (call.clock 0) s) := by
      have hc := hsj.control
      simp only [control, Control.mk.injEq] at hc
      simp [control, Jsonl.fail, Sqlite.fail, hc]
    have hplain : Plain (control (Sqlite.fail errorCode stderr (result.map dumps) headSha gateState
        (call.clock 0) s)) :=
      ⟨hsj.plain.jobId, hsj.plain.createdAt, by simp [control, Sqlite.fail],
        by simp [control, Sqlite.fail], by simpa [control, Sqlite.fail] using he,
        hsj.plain.nextAttemptAt, hsj.plain.startedAt, hsj.plain.scopeKey⟩
    refine ⟨.flag true, ?_⟩
    cases result with
    | none => exact ⟨_, h.update_control hmem hsj hrow rfl hctl rfl hplain rfl⟩
    | some d =>
      have hstored := storedResult_completion db (Sqlite.completes .failed s.jobId workerId)
        (Sqlite.fail errorCode stderr (some (dumps d)) headSha gateState (call.clock 0))
        (Sqlite.fail_jobId _ _ _ _ _ _) s.jobId (dumps d)
      have hd : StableResult d := hg d rfl
      refine ⟨_, h.update hmem hrow (fun k hk => ?_) hctl rfl hplain ?_ ?_⟩
      · exact (hstored k).trans (if_neg (Ne.symm hk))
      · refine Eq.trans ?_ ((hstored s.jobId).trans (if_pos rfl)).symm
        exact congrArg some hd.redactFields
      · intro d' hd'
        obtain rfl : Security.redactFields d = d' := Option.some.inj hd'
        exact hd.redacted

/-! ### Whole runs -/

/-- **One call**: the answers agree and the simulation goes on. -/
theorem agrees (ha : Assumed call.op) (hg : Agreeing call.op) (h : Sim db files jobs) :
    Agrees db files call := by
  cases hop : call.op with
  | createJob => exact agrees_createJob hop ha hg h
  | claimNext => exact agrees_claimNext hop ha hg h
  | heartbeat => exact agrees_heartbeat hop hg h
  | recoverExpired => exact agrees_recoverExpired hop hg h
  | updateConversationId => exact agrees_updateConversationId hop h
  | markSuccess => exact agrees_markSuccess hop hg h
  | markFailure => exact agrees_markFailure hop ha hg h
  | scheduleRetry => exact agrees_scheduleRetry hop ha hg h
  | retryFailed => exact agrees_retryFailed hop hg h
  | cancel => exact agrees_cancel hop h

theorem sim_empty : Sim Sqlite.empty Jsonl.empty [] where
  reads := reads_empty
  rows := .nil
  fresh := fun _ _ => rfl

example : Fixed "2026-01-01T00:00:00.000Z" := by
  unfold Fixed
  decide +kernel

/-- A failed attempt that is retried, with plain texts. -/
def plainRun : List Call :=
  let clock := fun _ => "2026-01-01T00:00:30.000Z"
  [⟨clock, .createJob (sampleJob sampleId)⟩,
    ⟨clock, .claimNext "A" "2026-01-01T00:00:00.000Z" 60 none⟩,
    ⟨clock, .markFailure sampleId "A" "agy_error" none (some [("status", .str "failed")])
      none .blocked⟩,
    ⟨clock, .retryFailed sampleId "2026-01-01T00:02:00.000Z"⟩]

/-- A worker confirms its success; the result holds a quoted secret with a quote behind it. -/
def resultDrift : List Call :=
  let clock := fun _ => "2026-01-01T00:00:30.000Z"
  let success :=
    Op.markSuccess sampleId "A" [("note", .str "password='abc''")] "/q/r.json" none none
    .verified
  [⟨clock, .createJob (sampleJob sampleId)⟩,
    ⟨clock, .claimNext "A" "2026-01-01T00:00:00.000Z" 60 none⟩, ⟨clock, success⟩,
    ⟨clock, success⟩]

end Blessing.Queue.Refinement
