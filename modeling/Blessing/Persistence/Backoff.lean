import Blessing.Persistence.Outbox

/-! # The backoff of the outbox

`_mark_retry` computes the time of the next attempt from the attempt counter, which nothing bounds:
`POWER(2, attempt_count)` is a double, and PostgreSQL raises where it is out of range. While the
statement succeeds, an event that fails again and again gives way to the others. -/

namespace Blessing.Persistence.Backoff

open Blessing.Lib Blessing.Lib.Values Blessing.Lib.Table Blessing.Lib.Machine
open Blessing.Persistence.Tables Blessing.Persistence.Load Blessing.Persistence.Outbox

/-! ### The statement -/

/-- A second, in microseconds. -/
def second : ℤ := 1000000

/-- `POWER(2, n)` in double precision; nothing where the result is out of range. -/
def power2 (n : ℕ) : Option ℕ := if n < 1024 then some (2 ^ n) else none

/-- `INTERVAL '1 second' * LEAST(300, GREATEST(1, POWER(2, attempt_count)))` -/
def backoff (attemptCount : ℕ) : Option ℤ :=
  (power2 attemptCount).map fun power => second * min 300 (max 1 (power : ℤ))

/-- `_mark_retry`; nothing where the statement raises. -/
def markRetry (now : ℤ) (id : String) (outbox : List OutboxRow) : Option (List OutboxRow) :=
  outbox.mapM fun r =>
    if r.eventId = id ∧ r.processed = false then
      (backoff r.attemptCount).map fun delay =>
        { r with attemptCount := r.attemptCount + 1, nextAttemptAt := now + delay }
    else some r

/-! ### Runs -/

/-- What happens to the outbox. A dispatch that claims an event at `now` and fails marks it at
`failedAt`; `fault` is a failure of the application that the tables do not show. -/
inductive Input where
  | append (o : Observation)
  | dispatch (now : ℤ) (fault : Bool) (failedAt : ℤ)

/-- What becomes of an input. -/
inductive Answer where
  | appended
  | idle
  | processed (id : String)
  | failed (id : String) (marked : Bool)
  deriving DecidableEq

/-- The event a dispatch selected. -/
def Answer.selected : Answer → Option String
  | .processed id | .failed id _ => some id
  | .appended | .idle => none

section

variable (sha256 : String → String) (instant : Json → Option ℤ)

/-- What applying an event makes of the tables; nothing if it fails. -/
def applied (fault : Bool) (row : OutboxRow) (t : Database) : Option Database :=
  if fault then none else (applyEvent sha256 instant row.observation t).toOption

/-- `dispatch_one` -/
def dispatch (now : ℤ) (fault : Bool) (failedAt : ℤ) (s : Store) : Answer × Store :=
  match claim now s.outbox with
  | none => (.idle, s)
  | some row =>
    match applied sha256 instant fault row s.tables with
    | some tables => (.processed row.eventId, ⟨setRow row.eventId markProcessed s.outbox, tables⟩)
    | none =>
      match markRetry failedAt row.eventId s.outbox with
      | some outbox => (.failed row.eventId true, { s with outbox })
      | none => (.failed row.eventId false, s)

/-- One step. -/
def step (s : Store) : Input → Answer × Store
  | .append o => (.appended, appendOutbox sha256 o s)
  | .dispatch now fault failedAt => dispatch sha256 instant now fault failedAt s

/-- The dispatch claims the event, and applying it fails. -/
def Fails (s : Store) (now : ℤ) (fault : Bool) (row : OutboxRow) : Prop :=
  claim now s.outbox = some row ∧ applied sha256 instant fault row s.tables = none

/-- A dispatch marks a failed event after it claimed it, and the event has failed less than 1024
times. -/
def Bounded (s : Store) : Input → Prop
  | .append _ => True
  | .dispatch now fault failedAt =>
    now ≤ failedAt ∧ ∀ row, Fails sha256 instant s now fault row → row.attemptCount < 1024

end

/-! ### One step -/

variable {sha256 : String → String} {instant : Json → Option ℤ} {s : Store}

/-- The primary key. -/
def UniqueIds (s : Store) : Prop := (s.outbox.map OutboxRow.eventId).Nodup

/-- The delay is between one second and 300. -/
theorem backoff_eq {n : ℕ} (h : n < 1024) :
    ∃ delay, backoff n = some delay ∧ delay = retryDelay n ∧ second ≤ delay ∧
    delay ≤ 300 * second := by
  refine ⟨second * min 300 (max 1 ((2 ^ n : ℕ) : ℤ)), ?_, ?_, ?_, ?_⟩
  · rw [backoff, power2, if_pos h]
    rfl
  · rw [retryDelay, Nat.cast_pow]
    rfl
  all_goals
    unfold second
    omega

theorem backoff_none {n : ℕ} (h : 1024 ≤ n) : backoff n = none := by
  rw [backoff, power2, if_neg (by omega)]
  rfl

theorem mapM_middle {f : OutboxRow → Option OutboxRow} {pre post : List OutboxRow} {row : OutboxRow}
    (hpre : ∀ r ∈ pre, f r = some r) (hpost : ∀ r ∈ post, f r = some r) :
    (pre ++ row :: post).mapM f = (f row).map fun row' => pre ++ row' :: post := by
  have hkeep : ∀ rows : List OutboxRow, (∀ r ∈ rows, f r = some r) → rows.mapM f = some rows := by
    intro rows hrows
    induction rows with
    | nil => rfl
    | cons r rows ih =>
      obtain ⟨hr, hrows⟩ := List.forall_mem_cons.mp hrows
      rw [List.mapM_cons, hr, ih hrows]
      rfl
  rw [List.mapM_append, hkeep pre hpre, List.mapM_cons, hkeep post hpost]
  cases f row <;> rfl

/-- `_mark_retry` changes the row of its event, or raises. -/
theorem markRetry_middle {pre post : List OutboxRow} {row : OutboxRow}
    (hids : ((pre ++ row :: post).map OutboxRow.eventId).Nodup) (hpending : row.processed = false)
    (now : ℤ) :
    markRetry now row.eventId (pre ++ row :: post) = (backoff row.attemptCount).map fun delay =>
      pre ++ { row with
        attemptCount := row.attemptCount + 1, nextAttemptAt := now + delay } :: post := by
  rw [List.map_append, List.map_cons, List.nodup_append, List.nodup_cons] at hids
  obtain ⟨-, ⟨hpost, -⟩, hpre⟩ := hids
  unfold markRetry
  rw [mapM_middle, if_pos ⟨rfl, hpending⟩, Option.map_map]
  · rfl
  · intro r hr
    rw [if_neg]
    rintro ⟨hid, -⟩
    exact hpre _ (List.mem_map_of_mem hr) _ List.mem_cons_self hid
  · intro r hr
    rw [if_neg]
    rintro ⟨hid, -⟩
    exact hpost (hid ▸ List.mem_map_of_mem hr)

variable (sha256 instant) in
/-- What a dispatch does: nothing if no event is due; otherwise it processes the event it selected,
delays it, or leaves everything as it is because the delay cannot be computed. -/
theorem dispatch_cases (hids : UniqueIds s) (now : ℤ) (fault : Bool) (failedAt : ℤ) :
    claim now s.outbox = none ∧ dispatch sha256 instant now fault failedAt s = (.idle, s) ∨
    ∃ pre row post, s.outbox = pre ++ row :: post ∧ row.processed = false ∧
    claim now s.outbox = some row ∧
      ((∃ tables, applied sha256 instant fault row s.tables = some tables ∧
          dispatch sha256 instant now fault failedAt s =
            (.processed row.eventId, ⟨pre ++ markProcessed row :: post, tables⟩)) ∨
        (∃ delay, Fails sha256 instant s now fault row ∧ backoff row.attemptCount = some delay ∧
          dispatch sha256 instant now fault failedAt s = (.failed row.eventId true, { s with
            outbox := pre ++
              { row with
                attemptCount := row.attemptCount + 1, nextAttemptAt := failedAt + delay } ::
              post })) ∨
        Fails sha256 instant s now fault row ∧ backoff row.attemptCount = none ∧
          dispatch sha256 instant now fault failedAt s = (.failed row.eventId false, s)) := by
  unfold dispatch
  cases hclaim : claim now s.outbox with
  | none => exact .inl ⟨rfl, rfl⟩
  | some row =>
    obtain ⟨hmem, hpending⟩ := mem_claim hclaim
    obtain ⟨pre, post, hsplit⟩ := List.append_of_mem hmem
    have hnodup : ((pre ++ row :: post).map OutboxRow.eventId).Nodup := hsplit ▸ hids
    refine .inr ⟨pre, row, post, hsplit, hpending, rfl, ?_⟩
    dsimp only
    cases happlied : applied sha256 instant fault row s.tables with
    | some tables =>
      refine .inl ⟨tables, rfl, ?_⟩
      rw [hsplit]
      dsimp only
      rw [setRow_middle hnodup]
    | none =>
      have hfails : Fails sha256 instant s now fault row := ⟨hclaim, happlied⟩
      have hmark := markRetry_middle hnodup hpending failedAt
      cases hbackoff : backoff row.attemptCount with
      | none =>
        rw [hbackoff, Option.map_none, ← hsplit] at hmark
        dsimp only
        rw [hmark]
        exact .inr (.inr ⟨hfails, rfl, rfl⟩)
      | some delay =>
        rw [hbackoff, Option.map_some, ← hsplit] at hmark
        dsimp only
        rw [hmark]
        exact .inr (.inl ⟨delay, hfails, rfl, rfl⟩)

/-! ### The selection -/

/-- The event may be selected. -/
def Due (now : ℤ) (r : OutboxRow) : Prop := r.processed = false ∧ r.nextAttemptAt ≤ now

instance (now : ℤ) (r : OutboxRow) : Decidable (Due now r) := inferInstanceAs (Decidable (_ ∧ _))

/-- `ORDER BY created_at, event_id` -/
abbrev Before : OutboxRow → OutboxRow → Prop :=
  ByTime (fun r => r.observation.createdAt) OutboxRow.eventId

instance : Std.Total Before where
  total a b := by
    rcases lt_trichotomy a.observation.createdAt b.observation.createdAt with h | h | h
    · exact .inl (.inl h)
    · exact (le_total a.eventId b.eventId).imp (fun htext => .inr ⟨h, htext⟩) fun htext => .inr
        ⟨h.symm, htext⟩
    · exact .inr (.inl h)

instance : IsTrans OutboxRow Before where
  trans a b c := by
    rintro (hab | ⟨hab, hab'⟩) (hbc | ⟨hbc, hbc'⟩)
    · exact .inl (hab.trans hbc)
    · exact .inl (hbc ▸ hab)
    · exact .inl (hab ▸ hbc)
    · exact .inr ⟨hab.trans hbc, hab'.trans hbc'⟩

theorem due_iff {now : ℤ} {r : OutboxRow} :
    (!r.processed && decide (r.nextAttemptAt ≤ now)) = true ↔ Due now r := by
  unfold Due
  simp

/-- The selected event is due, and it comes before every other one that is. -/
theorem claim_first {now : ℤ} {outbox : List OutboxRow} {row : OutboxRow}
    (h : claim now outbox = some row) : Due now row ∧ ∀ r ∈ outbox, Due now r → Before row r := by
  unfold claim at h
  have hsorted := List.pairwise_insertionSort Before (outbox.filter fun r => !r.processed &&
    r.nextAttemptAt ≤ now)
  have hmem :
      ∀ r, r ∈ (outbox.filter fun r => !r.processed && r.nextAttemptAt ≤ now).insertionSort Before ↔
      r ∈ outbox.filter fun r => !r.processed && r.nextAttemptAt ≤ now :=
    fun r => List.mem_insertionSort _
  obtain ⟨rest, hrest⟩ := List.head?_eq_some_iff.mp h
  rw [hrest] at hsorted hmem
  refine ⟨due_iff.mp (List.mem_filter.mp ((hmem row).mp List.mem_cons_self)).2, fun r hr hdue => ?_⟩
  obtain rfl | hr' := List.mem_cons.mp ((hmem r).mpr (List.mem_filter.mpr ⟨hr, due_iff.mpr hdue⟩))
  · exact (total_of Before r r).elim id id
  · exact List.rel_of_pairwise_cons hsorted hr'

/-- An event that is not due does not change what is selected. -/
theorem claim_filter {now : ℤ} {outbox : List OutboxRow} {p : OutboxRow → Bool}
    (h : ∀ r ∈ outbox, p r = false → ¬ Due now r) :
    claim now (outbox.filter p) = claim now outbox := by
  unfold claim
  rw [List.filter_filter]
  congr 2
  refine List.filter_congr fun r hr => ?_
  cases hp : p r with
  | true => simp
  | false =>
    have hdue : ¬ (!r.processed && decide (r.nextAttemptAt ≤ now)) = true :=
      fun hd => h r hr hp (due_iff.mp hd)
    simpa using hdue

/-! ### Rows along a run -/

theorem eq_of_id (hids : UniqueIds s) {r r' : OutboxRow} (hr : r ∈ s.outbox) (hr' : r' ∈ s.outbox)
    (h : r.eventId = r'.eventId) : r = r' :=
  List.inj_on_of_nodup_map hids hr hr' h

variable (sha256 instant) in
theorem unique_step (hids : UniqueIds s) (i : Input) : UniqueIds (step sha256 instant s i).2 := by
  cases i with
  | append o =>
    change UniqueIds (appendOutbox sha256 o s)
    rcases append_cases sha256 o s with hsame | ⟨hnew, -, happ⟩
    · rw [hsame]
      exact hids
    · unfold UniqueIds
      rw [happ, List.map_append, List.nodup_append]
      refine ⟨hids, List.nodup_singleton _, ?_⟩
      intro id hid id' hid' he
      obtain ⟨r, hr, rfl⟩ := List.mem_map.mp hid
      have hno := (Bool.or_eq_false_iff.mp (hnew r hr)).1
      exact (beq_eq_false_iff_ne.mp hno) (he.trans (List.mem_singleton.mp hid'))
  | dispatch now fault failedAt =>
    change UniqueIds (dispatch sha256 instant now fault failedAt s).2
    rcases dispatch_cases sha256 instant hids now fault failedAt with
      ⟨-, hsame⟩ | ⟨pre, row, post, hsplit, -, -, ⟨tables, -, hdone⟩ | ⟨delay, -, -, hfailed⟩ |
        ⟨-, -, hsame⟩⟩
    · rw [hsame]
      exact hids
    · unfold UniqueIds at hids ⊢
      rw [hsplit] at hids
      rw [hdone]
      simpa [markProcessed] using hids
    · unfold UniqueIds at hids ⊢
      rw [hsplit] at hids
      rw [hfailed]
      simpa using hids
    · rw [hsame]
      exact hids

variable (sha256 instant) in
theorem row_step (hids : UniqueIds s) {r : OutboxRow} (hr : r ∈ s.outbox) (i : Input) :
    r ∈ (step sha256 instant s i).2.outbox ∨ (step sha256 instant s i).1.selected =
    some r.eventId := by
  cases i with
  | append o =>
    refine .inl ?_
    change r ∈ (appendOutbox sha256 o s).outbox
    rcases append_cases sha256 o s with hsame | ⟨-, -, happ⟩
    · rw [hsame]
      exact hr
    · rw [happ]
      exact List.mem_append_left _ hr
  | dispatch now fault failedAt =>
    change r ∈ (dispatch sha256 instant now fault failedAt s).2.outbox ∨
      (dispatch sha256 instant now fault failedAt s).1.selected = some r.eventId
    rcases dispatch_cases sha256 instant hids now fault failedAt with
      ⟨-, hsame⟩ | ⟨pre, row, post, hsplit, -, -, ⟨tables, -, hdone⟩ | ⟨delay, -, -, hfailed⟩ |
        ⟨-, -, hsame⟩⟩
    · rw [hsame]
      exact .inl hr
    · rw [hdone]
      rw [hsplit, List.mem_append, List.mem_cons] at hr
      rcases hr with hr | rfl | hr
      · exact .inl (List.mem_append_left _ hr)
      · exact .inr rfl
      · exact .inl (List.mem_append_right _ (List.mem_cons_of_mem _ hr))
    · rw [hfailed]
      rw [hsplit, List.mem_append, List.mem_cons] at hr
      rcases hr with hr | rfl | hr
      · exact .inl (List.mem_append_left _ hr)
      · exact .inr rfl
      · exact .inl (List.mem_append_right _ (List.mem_cons_of_mem _ hr))
    · rw [hsame]
      exact .inl hr

variable (sha256 instant) in
theorem unique_run (hids : UniqueIds s) (is : List Input) :
    UniqueIds (run (step sha256 instant) s is).2 :=
  run_inv (fun _ i h _ => unique_step sha256 instant h i) hids
    (admitted_of_forall fun _ _ => trivial)

variable (sha256 instant) in
theorem row_run (hids : UniqueIds s) {r : OutboxRow} (hr : r ∈ s.outbox) (is : List Input) :
    r ∈ (run (step sha256 instant) s is).2.outbox ∨
      ∃ a ∈ (run (step sha256 instant) s is).1, a.selected = some r.eventId := by
  induction is generalizing s with
  | nil => exact .inl hr
  | cons i is ih =>
    rw [run_cons]
    rcases row_step sha256 instant hids hr i with hkept | hselected
    · refine (ih (unique_step sha256 instant hids i) hkept).imp id ?_
      rintro ⟨a, ha, he⟩
      exact ⟨a, List.mem_cons_of_mem _ ha, he⟩
    · exact .inr ⟨_, List.mem_cons_self, hselected⟩

/-! ### Waiting -/

/-- The event is not selected before a time, if it is selected at all. -/
def Waits (id : String) (time : ℤ) (s : Store) : Prop :=
  ∃ r ∈ s.outbox, r.eventId = id ∧ (r.processed = true ∨ time ≤ r.nextAttemptAt)

theorem waits_claim (hids : UniqueIds s) {id : String} {time now : ℤ} (h : Waits id time s)
    {row : OutboxRow} (hclaim : claim now s.outbox = some row) (hid : row.eventId = id) :
    time ≤ now := by
  obtain ⟨r, hr, hrid, htime⟩ := h
  obtain rfl : row = r := eq_of_id hids (mem_claim hclaim).1 hr (hid.trans hrid.symm)
  obtain ⟨⟨hpending, hdue⟩, -⟩ := claim_first hclaim
  rcases htime with hprocessed | htime
  · rw [hpending] at hprocessed
    cases hprocessed
  · exact htime.trans hdue

theorem waits_step {id : String} {time : ℤ} (hids : UniqueIds s) (h : Waits id time s) {i : Input}
    (hi : Bounded sha256 instant s i) : Waits id time (step sha256 instant s i).2 := by
  obtain ⟨r, hr, hrid, htime⟩ := h
  by_cases hselected : (step sha256 instant s i).1.selected = some id
  · cases i with
    | append o => cases hselected
    | dispatch now fault failedAt =>
      obtain ⟨hclock, hattempts⟩ := hi
      change (dispatch sha256 instant now fault failedAt s).1.selected = some id at hselected
      change Waits id time (dispatch sha256 instant now fault failedAt s).2
      rcases dispatch_cases sha256 instant hids now fault failedAt with
        ⟨-, hsame⟩ | ⟨pre, row, post, hsplit, hpending, hclaim, hcases⟩
      · rw [hsame] at hselected
        cases hselected
      · rcases hcases with ⟨tables, -, hdone⟩ | ⟨delay, hfails, hbackoff, hfailed⟩ | ⟨-, -, hsame⟩
        · rw [hdone] at hselected ⊢
          cases hselected
          exact ⟨markProcessed row, by simp, rfl, .inl rfl⟩
        · rw [hfailed] at hselected ⊢
          cases hselected
          have hwaited := waits_claim hids ⟨r, hr, hrid, htime⟩ hclaim rfl
          obtain ⟨delay', hdelay', -, hsecond, -⟩ := backoff_eq (hattempts row hfails)
          obtain rfl : delay' = delay := Option.some.inj (hdelay'.symm.trans hbackoff)
          refine ⟨_, List.mem_append_right _ List.mem_cons_self, rfl, .inr ?_⟩
          unfold second at hsecond
          dsimp only
          omega
        · rw [hsame]
          exact ⟨r, hr, hrid, htime⟩
  · rcases row_step sha256 instant hids hr i with hkept | hkept
    · exact ⟨r, hkept, hrid, htime⟩
    · exact absurd (hrid ▸ hkept) hselected

theorem waits_run {id : String} {time : ℤ} (hids : UniqueIds s) (h : Waits id time s)
    {is : List Input} (his : Admitted (step sha256 instant) (Bounded sha256 instant) s is) :
    Waits id time (run (step sha256 instant) s is).2 := by
  induction is generalizing s with
  | nil => exact h
  | cons i is ih => exact ih (unique_step sha256 instant hids i) (waits_step hids h his.1) his.2

/-! ### The outbox model -/

/-- A dispatch is one of the outbox whose retry statement fails where the delay is out of range. -/
theorem dispatch_store (hids : UniqueIds s) (now : ℤ) (fault : Bool) (failedAt : ℤ) :
    (dispatch sha256 instant now fault failedAt s).2 = (dispatchOne sha256 instant now fault
      ((claim now s.outbox).bind fun row => (power2 row.attemptCount).map fun _ =>
        failedAt) s).2 := by
  unfold dispatch dispatchOne
  cases hclaim : claim now s.outbox with
  | none => rfl
  | some row =>
    obtain ⟨hmem, hpending⟩ := mem_claim hclaim
    obtain ⟨pre, post, hsplit⟩ := List.append_of_mem hmem
    have hnodup : ((pre ++ row :: post).map OutboxRow.eventId).Nodup := hsplit ▸ hids
    have hmark := markRetry_middle hnodup hpending failedAt
    rw [← hsplit] at hmark
    dsimp only [Option.bind_some]
    unfold applied
    cases (if fault = true then none
      else (applyEvent sha256 instant row.observation s.tables).toOption : Option Database) with
    | some tables => rfl
    | none =>
      dsimp only
      rw [hmark]
      by_cases hattempts : row.attemptCount < 1024
      · obtain ⟨delay, hdelay, rfl, -⟩ := backoff_eq hattempts
        rw [hdelay, power2, if_pos hattempts]
        dsimp only [Option.map_some]
        rw [hsplit, setRow_middle hnodup]
        rfl
      · rw [backoff_none (by omega), power2, if_neg hattempts]
        rfl

/-! ### A failing event -/

/-- What a failed attempt does to a run that goes on with `mid`. The event is marked to wait between
one second and 300. It is not selected within a second; until it is due again the dispatches select
what they would select without it, and it is selected only after the events that come first in the
order. -/
structure GivesWay (sha256 : String → String) (instant : Json → Option ℤ) (before : Store) (now : ℤ)
    (fault : Bool) (failedAt : ℤ) (row : OutboxRow) (mid : List Input) : Prop where
  marked : (dispatch sha256 instant now fault failedAt before).1 = .failed row.eventId true
  delayed :
    Outbox.markRetry failedAt row ∈ (dispatch sha256 instant now fault failedAt before).2.outbox
  bounds : second ≤ retryDelay row.attemptCount ∧ retryDelay row.attemptCount ≤ 300 * second
  paused : ∀ later row', claim later
    (run (step sha256 instant) (dispatch sha256 instant now fault failedAt before).2 mid).2.outbox =
    some row' →
    row'.eventId = row.eventId → failedAt + second ≤ later
  yields :
    (∀ a ∈ (run (step sha256 instant) (dispatch sha256 instant now fault failedAt before).2 mid).1,
      a.selected ≠ some row.eventId) →
    let after :=
  (run (step sha256 instant) (dispatch sha256 instant now fault failedAt before).2 mid).2
    (∀ later < failedAt + retryDelay row.attemptCount,
      claim later after.outbox = claim later (after.outbox.filter fun r => r.eventId ≠
        row.eventId)) ∧
    ∀ later row', claim later after.outbox = some row' → row'.eventId = row.eventId →
      failedAt + retryDelay row.attemptCount ≤ later ∧
      ∀ pre post, mid = pre ++ post → ∀ e ∈
        (run (step sha256 instant)
          (dispatch sha256 instant now fault failedAt before).2 pre).2.outbox,
        Due later e → e.eventId ≠ row.eventId → Before e row →
        ∃ a ∈ (run (step sha256 instant) (run (step sha256 instant)
          (dispatch sha256 instant now fault failedAt before).2 pre).2 post).1,
          a.selected = some e.eventId

theorem givesWay (hids : UniqueIds s) {now : ℤ} {fault : Bool} {failedAt : ℤ} {row : OutboxRow}
    (hfails : Fails sha256 instant s now fault row) (hattempts : row.attemptCount < 1024)
    {mid : List Input} (hmid : Admitted (step sha256 instant) (Bounded sha256 instant)
      (dispatch sha256 instant now fault failedAt s).2 mid) :
    GivesWay sha256 instant s now fault failedAt row mid := by
  obtain ⟨delay, hbackoff, rfl, hsecond, hmax⟩ := backoff_eq hattempts
  -- what the dispatch did
  have hdispatch : (dispatch sha256 instant now fault failedAt s).1 = .failed row.eventId true ∧
      Outbox.markRetry failedAt row ∈ (dispatch sha256 instant now fault failedAt s).2.outbox := by
    rcases dispatch_cases sha256 instant hids now fault failedAt with
      ⟨hnone, -⟩ | ⟨pre, row', post, hsplit, -, hclaim, hcases⟩
    · rw [hfails.1] at hnone
      cases hnone
    · obtain rfl : row = row' := Option.some.inj (hfails.1.symm.trans hclaim)
      rcases hcases with ⟨tables, happlied, -⟩ | ⟨delay, -, hdelay, hfailed⟩ | ⟨-, hnone, -⟩
      · rw [hfails.2] at happlied
        cases happlied
      · obtain rfl := Option.some.inj (hbackoff.symm.trans hdelay)
        rw [hfailed]
        exact ⟨rfl, List.mem_append_right _ List.mem_cons_self⟩
      · rw [hbackoff] at hnone
        cases hnone
  obtain ⟨hmarked, hdelayed⟩ := hdispatch
  have hids' : UniqueIds (dispatch sha256 instant now fault failedAt s).2 :=
    unique_step sha256 instant hids (.dispatch now fault failedAt)
  have hidsAfter := unique_run sha256 instant hids' mid
  refine ⟨hmarked, hdelayed, ⟨hsecond, hmax⟩, ?_, ?_⟩
  · intro later row' hclaim hid
    have hwaits :
        Waits row.eventId (failedAt + second) (dispatch sha256 instant now fault failedAt s).2 :=
      ⟨_, hdelayed, rfl, .inr (by unfold Outbox.markRetry; dsimp only; omega)⟩
    exact waits_claim hidsAfter (waits_run hids' hwaits hmid) hclaim hid
  · intro hnot
    dsimp only
    have hkept : Outbox.markRetry failedAt row ∈
        (run (step sha256 instant) (dispatch sha256 instant now fault failedAt s).2 mid).2.outbox :=
      (row_run sha256 instant hids' hdelayed mid).resolve_right fun ⟨a, ha, he⟩ => hnot a ha he
    refine ⟨?_, ?_⟩
    · intro later hlater
      refine (claim_filter fun r hr hfiltered hdue => ?_).symm
      obtain rfl : r = Outbox.markRetry failedAt row :=
        eq_of_id hidsAfter hr hkept (of_not_not (of_decide_eq_false hfiltered))
      exact absurd hdue.2 (not_le.mpr hlater)
    · intro later row' hclaim hid
      obtain rfl : row' = Outbox.markRetry failedAt row :=
        eq_of_id hidsAfter (mem_claim hclaim).1 hkept hid
      obtain ⟨hdue, hfirst⟩ := claim_first hclaim
      refine ⟨hdue.2, ?_⟩
      rintro pre post rfl e he hedue hother hbefore
      rw [run_append] at hfirst
      refine (row_run sha256 instant (unique_run sha256 instant hids' pre) he post).resolve_left
        fun hstays => ?_
      -- an event that is still there comes first, and would have been selected
      rcases hbefore with hlt | ⟨heq, hle⟩
      · rcases hfirst e hstays hedue with hlt' | ⟨heq', -⟩
        · exact absurd hlt (not_lt.mpr hlt'.le)
        · exact absurd hlt (by rw [← heq']; exact lt_irrefl _)
      · rcases hfirst e hstays hedue with hlt' | ⟨-, hle'⟩
        · exact absurd hlt' (by rw [heq]; exact lt_irrefl _)
        · exact hother (le_antisymm hle hle')

/-- **A failing event gives way to the others**: in every run in which no event fails for more than
1024 times, every failed attempt delays its event. -/
theorem failing_event_gives_way (sha256 : String → String) (instant : Json → Option ℤ) {s : Store}
    (hids : UniqueIds s) {is : List Input}
    (hbounded : Admitted (step sha256 instant) (Bounded sha256 instant) s is)
    {pre mid post : List Input} {now : ℤ} {fault : Bool} {failedAt : ℤ} {row : OutboxRow}
    (hrun : is = pre ++ .dispatch now fault failedAt :: mid ++ post)
    (hfails : Fails sha256 instant (run (step sha256 instant) s pre).2 now fault row) :
    GivesWay sha256 instant (run (step sha256 instant) s pre).2 now fault failedAt row mid := by
  rw [hrun, List.append_assoc, List.cons_append, admitted_append] at hbounded
  obtain ⟨-, hbound, hrest⟩ := hbounded
  exact givesWay (unique_run sha256 instant hids pre) hfails (hbound.2 row hfails)
    (admitted_append.mp hrest).1

/-- From 1024 attempts on the statement raises: the event is as due as before. -/
theorem dispatch_out_of_range (hids : UniqueIds s) {now : ℤ} {fault : Bool} {failedAt : ℤ}
    {row : OutboxRow} (hfails : Fails sha256 instant s now fault row)
    (hattempts : 1024 ≤ row.attemptCount) :
    dispatch sha256 instant now fault failedAt s = (.failed row.eventId false, s) := by
  have hnone := backoff_none hattempts
  rcases dispatch_cases sha256 instant hids now fault failedAt with
    ⟨hnone, -⟩ | ⟨pre, row', post, -, -, hclaim, hcases⟩
  · rw [hfails.1] at hnone
    cases hnone
  · obtain rfl : row = row' := Option.some.inj (hfails.1.symm.trans hclaim)
    rcases hcases with ⟨tables, happlied, -⟩ | ⟨delay, -, hdelay, -⟩ | ⟨-, -, hsame⟩
    · rw [hfails.2] at happlied
      cases happlied
    · rw [hnone] at hdelay
      cases hdelay
    · exact hsame

/-! ### Three events -/

/-- A pending event. -/
def pendingRow (id : String) (createdAt : ℤ) (attemptCount : ℕ) : OutboxRow :=
  ⟨.riskSnapshot createdAt, id, false, attemptCount, createdAt⟩

/-- Three events that are due from 0 on. -/
def threeEvents : Store :=
  ⟨[pendingRow "A" (-3) 0, pendingRow "B" (-2) 0, pendingRow "C" (-1) 0], .empty⟩

/-- The oldest event fails twice while the youngest is due: the dispatch between the attempts takes
longer than the delay. -/
def slowDispatches : List Input := [.dispatch 0 true 0, .dispatch 100000 false 100000]

theorem threeEvents_unique : UniqueIds threeEvents := by
  unfold UniqueIds
  decide

theorem slowDispatches_bounded : Admitted (step (fun t => t) fun _ => none)
    (Bounded (fun t => t) fun _ => none) threeEvents slowDispatches := by
  refine ⟨⟨le_rfl, ?_⟩, ⟨le_rfl, ?_⟩, trivial⟩
  · rintro row ⟨hclaim, -⟩
    have hfirst : claim 0 threeEvents.outbox = some (pendingRow "A" (-3) 0) := by decide +kernel
    obtain rfl := Option.some.inj (hfirst.symm.trans hclaim)
    decide
  · rintro row ⟨hclaim, hfailed⟩
    have hsecond : claim 100000
        (step (fun t => t) (fun _ => none) threeEvents (.dispatch 0 true 0)).2.outbox =
        some (pendingRow "B" (-2) 0) := by decide +kernel
    obtain rfl := Option.some.inj (hsecond.symm.trans hclaim)
    decide

/-- After its failure the first event waits. -/
theorem failing_event_gives_way_three : GivesWay (fun t => t) (fun _ => none) threeEvents 0 true 0
    (pendingRow "A" (-3) 0) [.dispatch 100000 false 100000] :=
  failing_event_gives_way (fun t => t) (fun _ => none) threeEvents_unique slowDispatches_bounded
    (show slowDispatches = [] ++ .dispatch 0 true 0 :: [.dispatch 100000 false 100000] ++ [] from
      rfl)
    ⟨by decide +kernel, rfl⟩

/-- The failing event is selected again before an event that is due all the time; and an event that
has failed 1024 times is not delayed, so it is selected at once again. -/
theorem due_event_passed :
    (run (step (fun t => t) fun _ => none) threeEvents
      (slowDispatches ++ [.dispatch 1500000 true 1500000])).1 =
      [.failed "A" true, .processed "B", .failed "A" true] ∧
    pendingRow "C" (-1) 0 ∈
    (run (step (fun t => t) fun _ => none) threeEvents slowDispatches).2.outbox ∧
    Due 0 (pendingRow "C" (-1) 0) ∧
    (run (step (fun t => t) fun _ => none) ⟨[pendingRow "A" (-3) 1024, pendingRow "C" (-1) 0],
      .empty⟩
      [.dispatch 0 true 0, .dispatch 1 true 1]).1 = [.failed "A" false, .failed "A" false] := by
  decide +kernel

end Blessing.Persistence.Backoff
