import Blessing.Queue.Rows
import Blessing.Queue.Service
import Mathlib.Data.List.Induction

/-! # Ownership, scope exclusion and bounded attempts

The invariants of the SQLite store over all runs that start from an empty database.

* `ownership`: a job is running exactly if it has a worker, exactly if it has a lease; no two
  running jobs share a scope.
* `claims_bounded`: the attempt counter of a job is the number of claims that returned it, it stays
  within the limit, and a job with an unsafe external effect is returned at most once. -/

namespace Blessing.Queue.Ownership

open Blessing.Lib.Machine
open Blessing.Queue.Models Blessing.Queue.Storage Blessing.Queue.Service
open Blessing.Queue.Sqlite Blessing.Queue.Rows

variable {db : Db} {call : Call} {row row' : JobRecord}

/-! ### Ownership of a row -/

/-- A row is running exactly if it has a worker and a lease, and a running row has been claimed. -/
structure RowInv (row : JobRecord) : Prop where
  worker : row.status = .running ↔ row.workerId.isSome
  lease : row.status = .running ↔ row.leaseUntil.isSome
  nonneg : 0 ≤ row.attempt
  bounded : row.attempt ≤ row.maxAttempts
  started : row.status = .running → 1 ≤ row.attempt

theorem rowInv_insertedRow {job : JobRecord} (h : Fresh job) : RowInv (insertedRow job) where
  worker := by simp [insertedRow, h.status, h.workerId]
  lease := by simp [insertedRow, h.status, h.leaseUntil]
  nonneg := by simp [insertedRow, h.attempt]
  bounded := by have := h.maxAttempts; simp [insertedRow, h.attempt]; omega
  started := by simp [insertedRow, h.status]

theorem RowInv.of_idle {row' : JobRecord} (h : RowInv row) (hs : row'.status ≠ .running)
    (hw : row'.workerId = none) (hl : row'.leaseUntil = none) (ha : row'.attempt = row.attempt)
    (hm : row'.maxAttempts = row.maxAttempts) : RowInv row' where
  worker := by simp [hs, hw]
  lease := by simp [hs, hl]
  nonneg := ha ▸ h.nonneg
  bounded := by rw [ha, hm]; exact h.bounded
  started := fun h => absurd h hs

theorem RowInv.step (h : RowInv row) (hstep : RowStep db call row row') : RowInv row' := by
  cases hstep with
  | keep => exact h
  | claim hop hc hl =>
    have hleft := (claimable_iff.mp hc).left
    have := h.nonneg
    exact ⟨by simp [claim], by simp [claim], by simp only [claim]; omega,
      by simp only [claim]; omega, by simp only [claim]; omega⟩
  | beat hop hs hw =>
    exact ⟨by simpa [beat] using h.worker, by simp [beat, hs], h.nonneg, h.bounded, h.started⟩
  | @recover now hop he =>
    refine h.of_idle ?_ (by simp) (by simp) (by simp) (by simp)
    rcases recover_cases now row with hr | ⟨hr, -⟩ <;> simp [hr]
  | converse hop => exact ⟨h.worker, h.lease, h.nonneg, h.bounded, h.started⟩
  | succeed hop hs => exact h.of_idle (by simp [succeed]) rfl rfl rfl rfl
  | fail hop hs => exact h.of_idle (by simp [fail]) rfl rfl rfl rfl
  | requeue hop hs hu ha => exact h.of_idle (by simp [requeue]) rfl rfl rfl rfl
  | reopen hop hs hu ha =>
    -- `retry_failed` clears neither the worker nor the lease: a failed row has none
    have hw : row.workerId = none := by
      simpa [hs] using h.worker
    have hl : row.leaseUntil = none := by
      simpa [hs] using h.lease
    exact h.of_idle (by simp [reopen]) hw hl rfl rfl
  | withdraw hop hs => exact h.of_idle (by simp [withdraw]) rfl rfl rfl rfl

/-! ### Scope exclusion -/

/-- Two running rows of one scope are one row. -/
def Exclusive (db : Db) : Prop :=
  ∀ a ∈ db.jobs, ∀ b ∈ db.jobs, a.status = .running → b.status = .running →
    a.scopeKey = b.scopeKey → a.scopeKey ≠ none → a.jobId = b.jobId

/-- A row that runs after a call ran before it, or the call claimed it. -/
theorem RowStep.running (h : RowStep db call row row') (hr : row'.status = .running) :
    row'.scopeKey = row.scopeKey ∧ (row.status = .running ∨
      claimed call (apply db call).1 = some row.jobId ∧ row.status ≠ .running ∧
        ∀ active ∈ db.jobs, active.status = .running → active.scopeKey = row.scopeKey →
          row.scopeKey = none) := by
  cases h with
  | keep | beat | converse => exact ⟨rfl, .inl hr⟩
  | claim hop hc hl h =>
    have hc := claimable_iff.mp hc
    exact ⟨rfl, .inr ⟨h, by simp [hc.pending], hc.free⟩⟩
  | @recover now hop he =>
    rcases recover_cases now row with h | ⟨h, -⟩ <;> simp [h] at hr
  | succeed => simp [succeed] at hr
  | fail => simp [fail] at hr
  | requeue => simp [requeue] at hr
  | reopen => simp [reopen] at hr
  | withdraw => simp [withdraw] at hr

/-- Every row of the database keeps the invariant of rows, and scopes are exclusive. -/
structure Inv (db : Db) : Prop where
  rows : ∀ row ∈ db.jobs, RowInv row
  scopes : Exclusive db

/-- The jobs a call creates are fresh. -/
def Enters (call : Call) : Prop := ∀ job, call.op = .createJob job → Fresh job

theorem Inv.apply (h : Inv db) (hc : Enters call) : Inv (apply db call).2 where
  rows := by
    intro row' hrow'
    rcases mem_apply hrow' with ⟨row, hrow, hstep⟩ | ⟨job, hop, rfl, -⟩
    · exact (h.rows row hrow).step hstep
    · exact rowInv_insertedRow (hc job hop)
  scopes := by
    intro a' ha' b' hb' hra hrb hscope hsome
    have hrun : ∀ r ∈ (Sqlite.apply db call).2.jobs, r.status = .running →
        ∃ r₀ ∈ db.jobs, RowStep db call r₀ r := by
      intro r hr hrs
      rcases mem_apply hr with h | ⟨job, hop, rfl, -⟩
      · exact h
      · simp [insertedRow, (hc job hop).status] at hrs
    obtain ⟨a, ha, sa⟩ := hrun a' ha' hra
    obtain ⟨b, hb, sb⟩ := hrun b' hb' hrb
    obtain ⟨hsa, ca⟩ := RowStep.running sa hra
    obtain ⟨hsb, cb⟩ := RowStep.running sb hrb
    rw [hsa, hsb] at hscope
    rw [hsa] at hsome
    rw [sa.jobId, sb.jobId]
    rcases ca with ca | ⟨ida, -, fa⟩ <;> rcases cb with cb | ⟨idb, -, fb⟩
    · exact h.scopes a ha b hb ca cb hscope hsome
    · exact absurd (fb a ha ca hscope) (hscope ▸ hsome)
    · exact absurd (fa b hb cb hscope.symm) hsome
    · exact Option.some.inj (ida.symm.trans idb)

theorem inv_empty : Inv empty := ⟨by simp [empty], by simp [Exclusive, empty]⟩

theorem inv_run {calls : List Call} (hc : ∀ call ∈ calls, Enters call) :
    Inv (run apply empty calls).2 :=
  run_inv (fun _ _ h hc => h.apply hc) inv_empty (admitted_of_forall hc)

/-- **Scope exclusion and ownership**: in every state reached from an empty store, no two distinct
jobs of one scope are running, and a job is running exactly if it has a worker, exactly if it has a
lease, and then its attempts are between one and its limit. -/
theorem ownership (calls : List Call) (hc : ∀ call ∈ calls, Enters call) :
    (∀ a ∈ (run apply empty calls).2.jobs, ∀ b ∈ (run apply empty calls).2.jobs,
      a.jobId ≠ b.jobId → a.scopeKey = b.scopeKey → a.scopeKey ≠ none →
        ¬ (a.status = .running ∧ b.status = .running)) ∧
    ∀ row ∈ (run apply empty calls).2.jobs,
      (row.status = .running ↔ row.workerId ≠ none) ∧
      (row.workerId ≠ none ↔ row.leaseUntil ≠ none) ∧
      (row.status = .running → 1 ≤ row.attempt ∧ row.attempt ≤ row.maxAttempts) := by
  have h := inv_run hc
  refine ⟨fun a ha b hb hne hscope hsome hr => hne ?_, fun row hrow => ?_⟩
  · exact h.scopes a ha b hb hr.1 hr.2 hscope hsome
  · obtain ⟨hw, hl, -, hb, hs⟩ := h.rows row hrow
    simp only [ne_eq, ← Option.isSome_iff_ne_none]
    exact ⟨hw, hw.symm.trans hl, fun hr => ⟨hs hr, hb⟩⟩

/-- Two jobs of one scope and two workers that ask for work. -/
def twoWorkers : List Call :=
  let clock := fun _ => "2026-01-01T00:00:00.000Z"
  [⟨clock, .createJob (sampleJob "j1")⟩, ⟨clock, .createJob (sampleJob "j2")⟩,
    ⟨clock, .claimNext "A" "2026-01-01T00:00:00.000Z" 60 none⟩,
    ⟨clock, .claimNext "B" "2026-01-01T00:00:00.000Z" 60 none⟩]

theorem fresh_sampleJob (jobId : String) : Fresh (sampleJob jobId) :=
  ⟨rfl, rfl, by simp [sampleJob], rfl, rfl⟩

theorem enters_twoWorkers : ∀ call ∈ twoWorkers, Enters call := by
  simp [twoWorkers, Enters, fresh_sampleJob]

/-- The second worker gets nothing while the scope is taken. -/
theorem ownership_twoWorkers :
    ((run apply empty twoWorkers).2.jobs.map fun row => (row.jobId, row.status, row.workerId)) =
        [("j1", .running, some "A"), ("j2", .pending, none)] ∧
      ∀ row ∈ (run apply empty twoWorkers).2.jobs,
        (row.status = .running ↔ row.workerId ≠ none) ∧
        (row.workerId ≠ none ↔ row.leaseUntil ≠ none) ∧
        (row.status = .running → 1 ≤ row.attempt ∧ row.attempt ≤ row.maxAttempts) :=
  ⟨by decide +kernel, (ownership twoWorkers enters_twoWorkers).2⟩

/-! ### Bounded attempts -/

/-- The number of claims in a run that returned a job. -/
def claims (jobId : String) (calls : List Call) (answers : List Answer) : ℕ :=
  (calls.zip answers).countP fun ca => claimed ca.1 ca.2 = some jobId

/-- The claims of a run that starts from an empty store. -/
def claimsOf (jobId : String) (calls : List Call) : ℕ :=
  claims jobId calls (run apply empty calls).1

theorem claimsOf_snoc (jobId : String) (calls : List Call) (call : Call) :
    claimsOf jobId (calls ++ [call]) = claimsOf jobId calls +
      if claimed call (apply (run apply empty calls).2 call).1 = some jobId then 1 else 0 := by
  rw [claimsOf, claims, run_snoc, List.zip_append length_run.symm, List.countP_append]
  congr 1
  simp [List.countP_cons]

theorem mem_of_claimed {jobId : String} (h : claimed call (apply db call).1 = some jobId) :
    jobId ∈ db.jobs.map JobRecord.jobId := by
  cases hop : call.op with
  | claimNext workerId now ttl kinds =>
    rcases claimNext_cases workerId now ttl kinds db with ⟨-, hans⟩ | ⟨row, l, hr, -, -, hans, -⟩
    · cases ha : (claimNext workerId now ttl kinds db).1 with
      | error e => simp [claimed, Sqlite.apply, hop, ha, Except.map] at h
      | ok o =>
        cases o with
        | none => simp [claimed, Sqlite.apply, hop, ha, Except.map] at h
        | some job => exact absurd ha (hans job)
    · simp only [claimed, Sqlite.apply, hop, hans, Except.map, Option.some.injEq] at h
      obtain rfl : row.jobId = jobId := h
      exact List.mem_map_of_mem hr
  | _ => simp [claimed, hop] at h

theorem RowStep.attempt (h : RowStep db call row row') :
    row'.maxAttempts = row.maxAttempts ∧
    row'.externalEffectClass = row.externalEffectClass ∧
    row'.attempt = row.attempt +
      (if claimed call (apply db call).1 = some row.jobId then 1 else 0) ∧
    (claimed call (apply db call).1 = some row.jobId →
      row.status = .pending ∧ row.attempt < row.maxAttempts ∧ row'.status = .running) ∧
    (row.externalEffectClass.isUnsafe = true → row'.status = .pending → row.status = .pending) := by
  cases h with
  | keep h => simp [h]
  | claim hop hc hl h =>
    have hc := claimable_iff.mp hc
    simp [claim, h, hc.pending, hc.left]
  | beat hop hs => simp [beat, claimed, hop, hs]
  | @recover now hop he =>
    rcases recover_cases now row with h | ⟨h, hu, -⟩ <;> simp [claimed, *]
  | converse hop => simp [converse, claimed, hop]
  | succeed hop => simp [succeed, claimed, hop]
  | fail hop => simp [fail, claimed, hop]
  | requeue hop hs hu => simp [requeue, claimed, hop, hu]
  | reopen hop hs hu => simp [reopen, claimed, hop, hu]
  | withdraw hop => simp [withdraw, claimed, hop]

/-- The counter of a row against the claims that returned it. -/
structure Counted (claims : ℕ) (row : JobRecord) : Prop where
  counter : (claims : ℤ) = row.attempt
  bounded : row.attempt ≤ row.maxAttempts
  pending : row.externalEffectClass.isUnsafe = true → row.status = .pending → claims = 0
  once : row.externalEffectClass.isUnsafe = true → claims ≤ 1

theorem Counted.step {n : ℕ} (h : Counted n row) (hstep : RowStep db call row row') :
    Counted (n + if claimed call (apply db call).1 = some row.jobId then 1 else 0) row' := by
  obtain ⟨hm, he, ha, hc, hp⟩ := RowStep.attempt hstep
  obtain ⟨h1, h2, h3, h4⟩ := h
  split_ifs at ha ⊢ with hcl
  · obtain ⟨hpend, hlt, hrun⟩ := hc hcl
    refine ⟨by omega, by omega, fun _ h => by simp [hrun] at h, fun hu => ?_⟩
    have := h3 (he ▸ hu) hpend
    omega
  · exact ⟨by omega, by omega, fun hu hs => h3 (he ▸ hu) (hp (he ▸ hu) hs), fun hu => h4 (he ▸ hu)⟩

/-- The jobs a call creates are pending, without an attempt, with at least one to make. -/
def StartsPending (call : Call) : Prop :=
  ∀ job, call.op = .createJob job →
    job.status = .pending ∧ job.attempt = 0 ∧ 1 ≤ job.maxAttempts

theorem counted_run (calls : List Call) (hc : ∀ call ∈ calls, StartsPending call) :
    (∀ row ∈ (run apply empty calls).2.jobs, Counted (claimsOf row.jobId calls) row) ∧
      ∀ jobId, jobId ∉ (run apply empty calls).2.jobs.map JobRecord.jobId →
        claimsOf jobId calls = 0 := by
  induction calls using List.reverseRecOn with
  | nil => simp [empty, claimsOf, claims]
  | append_singleton calls call ih =>
    obtain ⟨hrows, hnone⟩ := ih fun c hmem => hc c (by simp [hmem])
    simp only [run_snoc, claimsOf_snoc]
    constructor
    · intro row' hrow'
      rcases mem_apply hrow' with ⟨row, hrow, hstep⟩ | ⟨job, hop, rfl, hfresh⟩
      · rw [hstep.jobId]
        exact (hrows row hrow).step hstep
      · obtain ⟨hs, ha, hm⟩ := hc call (by simp) job hop
        have h0 : claimsOf (insertedRow job).jobId calls = 0 := hnone _ hfresh
        rw [h0]
        refine ⟨?_, ?_, ?_, ?_⟩ <;> simp [insertedRow, claimed, hop, ha]
        omega
    · intro jobId hjob
      have hbefore : jobId ∉ (run apply empty calls).2.jobs.map JobRecord.jobId := by
        intro hmem
        obtain ⟨row, hrow, rfl⟩ := List.mem_map.mp hmem
        obtain ⟨row', hrow', hstep⟩ := apply_mem call hrow
        exact hjob (hstep.jobId ▸ List.mem_map_of_mem hrow')
      rw [hnone jobId hbefore, if_neg fun h => hbefore (mem_of_claimed h)]

/-- **Bounded attempts**: in every run the claims that returned a job are counted by its attempts,
which never exceed its limit, and a job with an unsafe external effect is returned at most once. -/
theorem claims_bounded (calls : List Call) (hc : ∀ call ∈ calls, StartsPending call) :
    ∀ row ∈ (run apply empty calls).2.jobs,
      (claimsOf row.jobId calls : ℤ) = row.attempt ∧
      (claimsOf row.jobId calls : ℤ) ≤ row.maxAttempts ∧
      (row.externalEffectClass ∈ [.cloudWrite, .exchangeOrder, .emergencyControl] →
        claimsOf row.jobId calls ≤ 1) := by
  intro row hrow
  obtain ⟨h1, h2, -, h4⟩ := (counted_run calls hc).1 row hrow
  refine ⟨h1, by omega, fun hu => h4 ?_⟩
  simp only [List.mem_cons, List.not_mem_nil, or_false] at hu
  rcases hu with hu | hu | hu <;> simp [hu, ExternalEffectClass.isUnsafe]

/-- A cloud write whose lease runs out, and workers that keep asking. -/
def lostCloudWrite : List Call :=
  let clock := fun _ => "2026-01-01T00:00:00.000Z"
  [⟨clock, .createJob { sampleJob "j" with
      jobKind := .cloudWrite, externalEffectClass := .cloudWrite }⟩,
    ⟨clock, .claimNext "A" "2026-01-01T00:00:00.000Z" 60 none⟩,
    ⟨clock, .recoverExpired "2026-01-01T00:02:00.000Z"⟩,
    ⟨clock, .retryFailed "j" "2026-01-01T00:03:00.000Z"⟩,
    ⟨clock, .claimNext "B" "2026-01-01T00:04:00.000Z" 60 none⟩]

theorem claims_bounded_lostCloudWrite :
    (∀ call ∈ lostCloudWrite, StartsPending call) ∧ claimsOf "j" lostCloudWrite = 1 ∧
      ∀ row ∈ (run apply empty lostCloudWrite).2.jobs,
        (claimsOf row.jobId lostCloudWrite : ℤ) = row.attempt ∧
        (claimsOf row.jobId lostCloudWrite : ℤ) ≤ row.maxAttempts ∧
        (row.externalEffectClass ∈ [.cloudWrite, .exchangeOrder, .emergencyControl] →
          claimsOf row.jobId lostCloudWrite ≤ 1) := by
  have h : ∀ call ∈ lostCloudWrite, StartsPending call := by
    simp [lostCloudWrite, StartsPending, sampleJob]
  exact ⟨h, by decide +kernel, claims_bounded lostCloudWrite h⟩

end Blessing.Queue.Ownership
