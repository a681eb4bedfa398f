import Blessing.Lease.Memory

/-! # The PostgreSQL execution lease

`PostgresExecutionLease` of `execution_lease.py`: one SQL statement a call, on the table
`execution_leases`. The column `updated_at`, which no statement reads, is left out, and so are the
bounds of the column types. The two kinds of lease read one clock with different machines, and so
give one lease two expiries; it is the same lease to every later call that does not read the clock
between them: `Same`. -/

namespace Blessing.Lease.Postgres

open Blessing.Lib Blessing.Lib.Clocks Blessing.Lib.Machine Blessing.Lib.Table
open Blessing.Lease.Memory

/-- A row of `execution_leases`. -/
structure LeaseRow where
  scopeKey : String
  ownerId : String
  fencingToken : ℕ
  leaseUntil : Time
  deriving DecidableEq

/-- The table `execution_leases`. -/
structure LeaseTable where
  rows : List LeaseRow
  /-- the primary key -/
  keyed : (rows.map LeaseRow.scopeKey).Nodup

/-- The row of a scope. -/
def LeaseTable.get (t : LeaseTable) (scopeKey : String) : Option LeaseRow :=
  lookup LeaseRow.scopeKey scopeKey t.rows

/-- `UPDATE execution_leases SET … WHERE …` -/
def LeaseTable.update (t : LeaseTable) (p : LeaseRow → Bool) (f : LeaseRow → LeaseRow)
    (hf : ∀ r, (f r).scopeKey = r.scopeKey) : LeaseTable where
  rows := Table.update p f t.rows
  keyed := by
    unfold Table.update
    rw [map_key_map fun r => by split_ifs <;> simp [hf]]
    exact t.keyed

/-- `INSERT INTO execution_leases` of a scope that is not there. -/
def LeaseTable.insert (t : LeaseTable) (row : LeaseRow) : LeaseTable where
  rows := upsert LeaseRow.scopeKey row t.rows
  keyed := nodup_upsert t.keyed row

/-- The statement of `acquire`: insert, or update the row on a conflict if it has expired. -/
def LeaseTable.acquire (clock : Clock) (t : LeaseTable) (scopeKey ownerId : String)
    (ttl now : Time) : Option ℕ × LeaseTable :=
  let leaseUntil := clock.expiry now ttl
  match t.get scopeKey with
  | none => (some 1, t.insert ⟨scopeKey, ownerId, 1, leaseUntil⟩)
  | some row =>
    if row.leaseUntil ≤ now then
      (some (row.fencingToken + 1),
        t.update (fun r => r.scopeKey = scopeKey)
          (fun r => { r with ownerId, fencingToken := r.fencingToken + 1, leaseUntil })
            fun _ => rfl)
    else (none, t)

/-- The condition of `renew` and `assert_valid`. -/
def current (scopeKey ownerId : String) (token : ℕ) (now : Time) (r : LeaseRow) : Bool :=
  r.scopeKey = scopeKey && r.ownerId = ownerId && r.fencingToken = token && now < r.leaseUntil

/-- The statement of `renew`; true if it returned a row. -/
def LeaseTable.renew (clock : Clock) (t : LeaseTable) (scopeKey ownerId : String) (token : ℕ)
    (ttl now : Time) : Bool × LeaseTable :=
  (t.rows.any (current scopeKey ownerId token now),
    t.update (current scopeKey ownerId token now)
      (fun r => { r with leaseUntil := clock.expiry now ttl }) fun _ => rfl)

/-- The query of `assert_valid`; true if it returned a row. -/
def LeaseTable.assertValid (t : LeaseTable) (scopeKey ownerId : String) (token : ℕ) (now : Time) :
    Bool :=
  t.rows.any (current scopeKey ownerId token now)

/-- The statement of `release`. -/
def LeaseTable.release (t : LeaseTable) (scopeKey ownerId : String) (token : ℕ) (now : Time) :
    LeaseTable :=
  t.update (fun r => r.scopeKey = scopeKey && r.ownerId = ownerId && r.fencingToken = token)
    (fun r => { r with leaseUntil := now }) fun _ => rfl

/-! ### Handles -/

/-- A call of a handle at a time. -/
structure Timed (H : Type) where
  handle : H
  method : Method
  now : Time

/-- The table and the tokens of the handles. -/
structure Database (H : Type) where
  table : LeaseTable
  token : H → Option ℕ

section Handles

variable {H : Type} [DecidableEq H] (clock : Clock) (lease : H → ExecutionLease)

/-- A call of a `PostgresExecutionLease`. -/
def query (db : Database H) (call : Timed H) : Outcome × Database H :=
  let h := call.handle
  let now := clock.read call.now
  let scopeKey := (lease h).scopeKey
  let ownerId := (lease h).ownerId
  match call.method, db.token h with
  | .acquire, _ =>
    match db.table.acquire clock scopeKey ownerId (lease h).ttl now with
    | (none, table) => (.bool false, { db with table })
    | (some token, table) =>
      (.token scopeKey token, ⟨table, Function.update db.token h (some token)⟩)
  | .renew, none => (.bool false, db)
  | .renew, some token =>
    let (renewed, table) := db.table.renew clock scopeKey ownerId token (lease h).ttl now
    (.bool renewed, { db with table })
  | .assertValid, none => (.leaseLost, db)
  | .assertValid, some token =>
    (if db.table.assertValid scopeKey ownerId token now then .unit else .leaseLost, db)
  | .release, none => (.unit, db)
  | .release, some token =>
    (.unit, ⟨db.table.release scopeKey ownerId token now, Function.update db.token h none⟩)

/-- A call of an `InMemoryExecutionLease` that gets the lock at once. -/
def atOnce (w : World H) (call : Timed H) : Outcome × World H :=
  let now := clock.read call.now
  match step clock lease w (.call call.handle call.method now) with
  | (.waits, w) => step clock lease w (.resume 0 now now)
  | answered => answered

/-- New handles on an empty table. -/
def startDatabase : Database H := ⟨⟨[], by simp⟩, fun _ => none⟩

end Handles

/-! ### The same lease -/

/-- What a call on a scope compares with an expiry: a reading by either machine. -/
structure Reading where
  scopeKey : String
  inMemory : Time
  inTable : Time

/-- The same lease to calls with these readings. -/
structure Same (readings : List Reading) (r : LeaseRecord) (row : LeaseRow) : Prop where
  owner : r.ownerId = row.ownerId
  token : r.fencingToken = row.fencingToken
  expiry : ∀ t ∈ readings, t.scopeKey = r.scopeKey →
    (t.inMemory < r.expiresAt ↔ t.inTable < row.leaseUntil)

/-- The store and the table hold the same leases. -/
def Agree (readings : List Reading) (store : Store) (table : LeaseTable) : Prop :=
  ∀ scopeKey, Option.Rel (Same readings) (store.get scopeKey) (table.get scopeKey)

theorem scope_of_get {store : Store} {scopeKey : String} {r : LeaseRecord}
    (h : store.get scopeKey = some r) : r.scopeKey = scopeKey := key_of_lookup h

theorem scope_of_get_table {table : LeaseTable} {scopeKey : String} {row : LeaseRow}
    (h : table.get scopeKey = some row) : row.scopeKey = scopeKey := key_of_lookup h

theorem get_insert (t : LeaseTable) (row : LeaseRow) (scope : String) :
    (t.insert row).get scope = if row.scopeKey = scope then some row else t.get scope :=
  lookup_upsert

theorem get_update (t : LeaseTable) {p : LeaseRow → Bool} {f : LeaseRow → LeaseRow}
    (hf : ∀ r, (f r).scopeKey = r.scopeKey) (scope : String) :
    (t.update p f hf).get scope = (t.get scope).map fun r => if p r then f r else r :=
  lookup_update hf

theorem any_eq_get (t : LeaseTable) {scopeKey : String} {p : LeaseRow → Bool}
    (hp : ∀ r, p r = true → r.scopeKey = scopeKey) : t.rows.any p = (t.get scopeKey).any p := by
  rw [Bool.eq_iff_iff, List.any_eq_true, Option.any_eq_true]
  constructor
  · rintro ⟨r, hr, hpr⟩
    refine ⟨r, ?_, hpr⟩
    rw [← hp r hpr]
    exact lookup_of_mem t.keyed hr
  · rintro ⟨r, hr, hpr⟩
    exact ⟨r, mem_of_lookup hr, hpr⟩

section Calls

variable {readings : List Reading} {store : Store} {table : LeaseTable}

theorem Agree.get (h : Agree readings store table) (scopeKey : String) :
    (store.get scopeKey = none ∧ table.get scopeKey = none) ∨
      ∃ r row, store.get scopeKey = some r ∧ table.get scopeKey = some row ∧
      Same readings r row := by
  have hrel := h scopeKey
  generalize store.get scopeKey = r at hrel ⊢
  generalize table.get scopeKey = row at hrel ⊢
  cases hrel with
  | none => exact .inl ⟨rfl, rfl⟩
  | some hsame => exact .inr ⟨_, _, rfl, rfl, hsame⟩

theorem Agree.tail {t : Reading} (h : Agree (t :: readings) store table) :
    Agree readings store table := by
  intro scopeKey
  rcases h.get scopeKey with ⟨hr, hrow⟩ | ⟨r, row, hr, hrow, hsame⟩
  · rw [hr, hrow]
    exact .none
  · rw [hr, hrow]
    exact .some ⟨hsame.owner, hsame.token, fun t ht => hsame.expiry t (List.mem_cons_of_mem _ ht)⟩

/-- Two updates of the lease of a scope: the same leases if they are the same there. -/
theorem agree_update (h : Agree readings store table) {scopeKey : String} {expiresAt : Time}
    {p : LeaseRow → Bool} {f : LeaseRow → LeaseRow} (hf : ∀ r, (f r).scopeKey = r.scopeKey)
    (hp : ∀ r, p r = true → r.scopeKey = scopeKey)
    (hat : ∀ r row, store.get scopeKey = some r → table.get scopeKey = some row →
      Same readings r row → p row = true ∧ Same readings { r with expiresAt } (f row)) :
    Agree readings (store.setExpiry scopeKey expiresAt) (table.update p f hf) := by
  intro scope
  rw [get_setExpiry, get_update]
  rcases h.get scope with ⟨hr, hrow⟩ | ⟨r, row, hr, hrow, hsame⟩
  · rw [hr, hrow]
    exact .none
  · rw [hr, hrow]
    refine .some ?_
    by_cases hscope : scope = scopeKey
    · subst hscope
      obtain ⟨hprow, hsame'⟩ := hat r row hr hrow hsame
      simp only [if_pos (scope_of_get hr), if_pos hprow]
      exact hsame'
    · have hne : r.scopeKey ≠ scopeKey := fun he => hscope ((scope_of_get hr).symm.trans he)
      have hnp : ¬ p row = true := fun hpr =>
        hscope ((scope_of_get_table hrow).symm.trans (hp row hpr))
      simp only [if_neg hne, if_neg hnp]
      exact hsame

theorem agree_unchanged (h : Agree readings store table) {scopeKey : String} {p : LeaseRow → Bool}
    {f : LeaseRow → LeaseRow} (hf : ∀ r, (f r).scopeKey = r.scopeKey)
    (hp : ∀ r, p r = true → r.scopeKey = scopeKey)
    (hno : ∀ row, table.get scopeKey = some row → p row = false) :
    Agree readings store (table.update p f hf) := by
  intro scope
  rw [get_update]
  rcases h.get scope with ⟨hr, hrow⟩ | ⟨r, row, hr, hrow, hsame⟩
  · rw [hr, hrow]
    exact .none
  · have hnp : ¬ p row = true := by
      intro hpr
      have hscope : scope = scopeKey := (scope_of_get_table hrow).symm.trans (hp row hpr)
      rw [hno row (hscope ▸ hrow)] at hpr
      cases hpr
    rw [hr, hrow, Option.map_some, if_neg hnp]
    exact .some hsame

variable {now : Reading} (python postgres : Clock)

/-- The expiries of a lease taken at a reading are the same to the later ones on its scope. -/
def Unparted (readings : List Reading) (now : Reading) (ttl : Time) : Prop :=
  ∀ t ∈ readings, t.scopeKey = now.scopeKey →
    (t.inMemory < python.expiry now.inMemory ttl ↔ t.inTable < postgres.expiry now.inTable ttl)

theorem acquire_agree (h : Agree (now :: readings) store table) (ownerId : String) {ttl : Time}
    (hapart : Unparted python postgres readings now ttl) :
    (store.acquire python now.scopeKey ownerId ttl now.inMemory).1 =
        (table.acquire postgres now.scopeKey ownerId ttl now.inTable).1 ∧
      Agree readings (store.acquire python now.scopeKey ownerId ttl now.inMemory).2
        (table.acquire postgres now.scopeKey ownerId ttl now.inTable).2 := by
  unfold Store.acquire LeaseTable.acquire
  rcases h.get now.scopeKey with ⟨hr, hrow⟩ | ⟨r, row, hr, hrow, hsame⟩
  · rw [hr, hrow]
    refine ⟨rfl, fun scope => ?_⟩
    simp only [get_upsert, get_insert]
    split_ifs
    · exact .some ⟨rfl, rfl, hapart⟩
    · exact h.tail scope
  · rw [hr, hrow]
    have hexpiry := hsame.expiry now List.mem_cons_self (scope_of_get hr).symm
    by_cases hlive : now.inMemory < r.expiresAt
    · have hrow' : ¬ row.leaseUntil ≤ now.inTable := not_le.mpr (hexpiry.mp hlive)
      simp only [if_pos hlive, if_neg hrow']
      exact ⟨trivial, h.tail⟩
    · have hrow' : row.leaseUntil ≤ now.inTable := not_lt.mp fun hl => hlive (hexpiry.mpr hl)
      simp only [if_neg hlive, if_pos hrow', hsame.token]
      refine ⟨trivial, fun scope => ?_⟩
      rw [get_upsert, get_update]
      by_cases hscope : now.scopeKey = scope
      · subst hscope
        rw [if_pos rfl, hrow]
        refine .some ?_
        simp only [scope_of_get_table hrow, decide_true, if_true]
        exact ⟨rfl, rfl, hapart⟩
      · rw [if_neg hscope]
        rcases h.tail.get scope with ⟨hr', hrow'⟩ | ⟨r', row', hr', hrow', hsame'⟩
        · rw [hr', hrow']
          exact .none
        · rw [hr', hrow']
          have hne : ¬ row'.scopeKey = now.scopeKey := fun he =>
            hscope (he.symm.trans (scope_of_get_table hrow'))
          simpa [hne] using hsame'

theorem current_scope {scopeKey ownerId : String} {token : ℕ} {now : Time} {r : LeaseRow}
    (h : current scopeKey ownerId token now r = true) : r.scopeKey = scopeKey := by
  simp only [current, Bool.and_eq_true, decide_eq_true_eq] at h
  exact h.1.1.1

theorem holds_agree (h : Agree (now :: readings) store table) (ownerId : String) (token : ℕ) :
    store.holds now.scopeKey ownerId token now.inMemory =
      table.rows.any (current now.scopeKey ownerId token now.inTable) := by
  rw [any_eq_get table fun r hr => current_scope hr, Store.holds]
  rcases h.get now.scopeKey with ⟨hr, hrow⟩ | ⟨r, row, hr, hrow, hsame⟩
  · rw [hr, hrow]
    rfl
  · rw [hr, hrow]
    have hexpiry := hsame.expiry now List.mem_cons_self (scope_of_get hr).symm
    simp [current, scope_of_get_table hrow, hsame.owner, hsame.token, hexpiry,
      Bool.beq_eq_decide_eq]

theorem renew_agree (h : Agree (now :: readings) store table) (ownerId : String) (token : ℕ)
    {ttl : Time} (hapart : Unparted python postgres readings now ttl) :
    (store.renew python now.scopeKey ownerId token ttl now.inMemory now.inMemory).1 =
        (table.renew postgres now.scopeKey ownerId token ttl now.inTable).1 ∧
      Agree readings
        (store.renew python now.scopeKey ownerId token ttl now.inMemory now.inMemory).2
        (table.renew postgres now.scopeKey ownerId token ttl now.inTable).2 := by
  unfold Store.renew LeaseTable.renew
  rw [holds_agree h]
  cases hany : table.rows.any (current now.scopeKey ownerId token now.inTable) with
  | true =>
    rw [any_eq_get table fun r hr => current_scope hr] at hany
    refine ⟨rfl,
      agree_update (f := fun r => { r with leaseUntil := postgres.expiry now.inTable ttl })
      h.tail (fun _ => rfl) (fun r hr => current_scope hr) fun r row hr hrow hsame => ?_⟩
    rw [hrow, Option.any_some] at hany
    have hkey := scope_of_get hr
    exact ⟨hany, hsame.owner, hsame.token, fun t ht hscope => hapart t ht (hscope.trans hkey)⟩
  | false =>
    rw [any_eq_get table fun r hr => current_scope hr] at hany
    refine ⟨rfl, agree_unchanged
      (f := fun r => { r with leaseUntil := postgres.expiry now.inTable ttl })
      h.tail (fun _ => rfl) (fun r hr => current_scope hr) fun row hrow => ?_⟩
    rwa [hrow, Option.any_some] at hany

theorem release_agree (h : Agree (now :: readings) store table) (ownerId : String) (token : ℕ)
    (hlater : ∀ t ∈ readings, now.inTable ≤ t.inTable) :
    Agree readings (store.release now.scopeKey ownerId token)
      (table.release now.scopeKey ownerId token now.inTable) := by
  have hscope : ∀ r :
      LeaseRow, (decide (r.scopeKey = now.scopeKey) && decide (r.ownerId = ownerId) &&
      decide (r.fencingToken = token)) = true → r.scopeKey = now.scopeKey := by
    intro r hr
    simp only [Bool.and_eq_true, decide_eq_true_eq] at hr
    exact hr.1.1
  unfold Store.release LeaseTable.release
  split_ifs with hmine
  · refine agree_update (f := fun r => { r with leaseUntil := now.inTable }) h.tail (fun _ => rfl)
      hscope fun r row hr hrow hsame => ?_
    simp only [hr, Option.any_some, Bool.and_eq_true, beq_iff_eq] at hmine
    refine ⟨?_, hsame.owner, hsame.token, fun t ht _ => ?_⟩
    · simp [scope_of_get_table hrow, ← hsame.owner, ← hsame.token, hmine]
    · exact ⟨fun hlt => absurd hlt (not_lt.mpr t.inMemory.2),
        fun hlt => absurd hlt (not_lt.mpr (hlater t ht))⟩
  · refine agree_unchanged (f := fun r => { r with leaseUntil := now.inTable }) h.tail
      (fun _ => rfl)
      hscope fun row hrow => ?_
    rcases h.get now.scopeKey with ⟨-, hrow'⟩ | ⟨r, row', hr, hrow', hsame⟩
    · cases hrow.symm.trans hrow'
    · cases hrow.symm.trans hrow'
      simp only [hr, Option.any_some, hsame.owner, hsame.token, Bool.and_eq_true,
        beq_iff_eq] at hmine
      by_contra hne
      simp only [Bool.not_eq_false, Bool.and_eq_true, decide_eq_true_eq] at hne
      exact hmine ⟨hne.1.2, hne.2⟩

end Calls

/-! ### Runs -/

section Runs

variable {H : Type} [DecidableEq H] (python postgres : Clock) (lease : H → ExecutionLease)

/-- What a call reads. -/
def readingOf (call : Timed H) : Reading :=
  ⟨(lease call.handle).scopeKey, python.read call.now, postgres.read call.now⟩

/-- The call gives a lease an expiry. -/
def Timed.Takes (call : Timed H) : Prop := call.method = .acquire ∨ call.method = .renew

/-- No call reads the clock between the two expiries that an earlier one gave a lease of its
scope. -/
def Apart (calls : List (Timed H)) : Prop :=
  calls.Pairwise fun call later => call.Takes →
    (lease later.handle).scopeKey = (lease call.handle).scopeKey →
      (python.read later.now < python.expiry (python.read call.now) (lease call.handle).ttl ↔
        postgres.read later.now < postgres.expiry (postgres.read call.now) (lease call.handle).ttl)

omit [DecidableEq H] in
/-- Machines that read the clock as it is and agree on the sums part no expiries. -/
theorem apart_of_exact {calls : List (Timed H)}
    (hread : ∀ call ∈ calls, python.read call.now = call.now ∧ postgres.read call.now = call.now)
    (hsum : ∀ call ∈ calls, python.expiry call.now (lease call.handle).ttl =
      postgres.expiry call.now (lease call.handle).ttl) : Apart python postgres lease calls := by
  refine List.pairwise_of_forall_mem_list fun call hcall later hlater _ _ => ?_
  rw [(hread call hcall).1, (hread call hcall).2, (hread later hlater).1, (hread later hlater).2,
    hsum call hcall]

/-- The handles have the same tokens, on the same leases; no call waits. -/
structure Rel (readings : List Reading) (w : World H) (db : Database H) : Prop where
  agree : Agree readings w.store db.table
  token : w.token = db.token
  idle : w.pending = []

variable {python postgres lease}

theorem rel_call {readings : List Reading} {w : World H} {db : Database H} {call : Timed H}
    (h : Rel (readingOf python postgres lease call :: readings) w db)
    (hapart : call.Takes → Unparted python postgres readings (readingOf python postgres lease call)
      (lease call.handle).ttl)
    (hlater : ∀ t ∈ readings, postgres.read call.now ≤ t.inTable) :
    (atOnce python lease w call).1 = (query postgres lease db call).1 ∧
      Rel readings (atOnce python lease w call).2 (query postgres lease db call).2 := by
  obtain ⟨hagree, htoken, hidle⟩ := h
  obtain ⟨h, method, t⟩ := call
  obtain ⟨store, token, pending⟩ := w
  obtain ⟨table, token'⟩ := db
  simp only at hagree htoken hidle
  subst htoken hidle
  cases method with
  | acquire =>
    obtain ⟨hsame, hrest⟩ :=
      acquire_agree python postgres hagree (lease h).ownerId (hapart (.inl rfl))
    simp only [readingOf] at hsame hrest
    simp only [atOnce, step, World.call, World.wait, World.locked, query, List.nil_append,
      List.getElem?_cons_zero, List.eraseIdx_cons_zero]
    generalize store.acquire python (lease h).scopeKey (lease h).ownerId (lease h).ttl
      (python.read t) = a at hsame hrest ⊢
    generalize table.acquire postgres (lease h).scopeKey (lease h).ownerId (lease h).ttl
      (postgres.read t) = b at hsame hrest ⊢
    obtain ⟨result, store'⟩ := a
    obtain ⟨result', table'⟩ := b
    cases hsame
    cases result with
    | none => exact ⟨rfl, hrest, rfl, rfl⟩
    | some token => exact ⟨rfl, hrest, rfl, rfl⟩
  | renew =>
    cases htoken : token h with
    | none => simpa [atOnce, step, World.call, query, htoken] using ⟨hagree.tail, rfl, rfl⟩
    | some n =>
      obtain ⟨hsame, hrest⟩ := renew_agree python postgres hagree (lease h).ownerId n
        (hapart (.inr rfl))
      simp only [readingOf] at hsame hrest
      simp only [atOnce, step, World.call, World.wait, World.locked, query, List.nil_append,
        List.getElem?_cons_zero, List.eraseIdx_cons_zero, htoken]
      exact ⟨by rw [hsame], hrest, rfl, rfl⟩
  | assertValid =>
    cases htoken : token h with
    | none => simpa [atOnce, step, World.call, query, htoken] using ⟨hagree.tail, rfl, rfl⟩
    | some n =>
      have hholds := holds_agree hagree (lease h).ownerId n
      simp only [readingOf] at hholds
      simp only [atOnce, step, World.call, World.wait, World.locked, query, List.nil_append,
        List.getElem?_cons_zero, List.eraseIdx_cons_zero, htoken]
      refine ⟨?_, hagree.tail, rfl, rfl⟩
      unfold Store.assertValid LeaseTable.assertValid
      rw [hholds]
  | release =>
    cases htoken : token h with
    | none => simpa [atOnce, step, World.call, query, htoken] using ⟨hagree.tail, rfl, rfl⟩
    | some n =>
      simp only [atOnce, step, World.call, World.wait, World.locked, query, List.nil_append,
        List.getElem?_cons_zero, List.eraseIdx_cons_zero, htoken]
      exact ⟨trivial, release_agree hagree _ _ hlater, rfl, rfl⟩

/-- Related states answer alike and stay related, whatever the calls read of the clock as long as it
does not go back and parts no two expiries. -/
theorem rel_run {w : World H} {db : Database H} {calls : List (Timed H)}
    (h : Rel (calls.map (readingOf python postgres lease)) w db)
    (hclock : calls.Pairwise fun call later => postgres.read call.now ≤ postgres.read later.now)
    (hapart : Apart python postgres lease calls) :
    (run (atOnce python lease) w calls).1 = (run (query postgres lease) db calls).1 ∧
      ∀ n, (run (atOnce python lease) w (calls.take n)).2.token =
        (run (query postgres lease) db (calls.take n)).2.token := by
  induction calls generalizing w db with
  | nil => exact ⟨rfl, fun n => by simpa using h.token⟩
  | cons call calls ih =>
    obtain ⟨hclock, hclocks⟩ := List.pairwise_cons.mp hclock
    obtain ⟨hfirst, hrest⟩ := List.pairwise_cons.mp hapart
    have hunparted (htakes : call.Takes) : Unparted python postgres
        (calls.map (readingOf python postgres lease)) (readingOf python postgres lease call)
        (lease call.handle).ttl := by
      intro t ht hscope
      obtain ⟨later, hlater, rfl⟩ := List.mem_map.mp ht
      exact hfirst later hlater htakes hscope
    have hlater : ∀ t ∈ calls.map (readingOf python postgres lease),
        postgres.read call.now ≤ t.inTable := by
      intro t ht
      obtain ⟨later, hlater, rfl⟩ := List.mem_map.mp ht
      exact hclock later hlater
    obtain ⟨hsame, hrel⟩ := rel_call h hunparted hlater
    obtain ⟨hanswers, htokens⟩ := ih hrel hclocks hrest
    refine ⟨by rw [run_cons, run_cons, hsame, hanswers], fun n => ?_⟩
    cases n with
    | zero => exact h.token
    | succ n => exact htokens n

/-- A lease that is renewed, lost by silence, taken over and released late. -/
def handover : List (Timed Bool) :=
  [⟨true, .acquire, 0⟩, ⟨true, .renew, 5⟩, ⟨false, .acquire, 14⟩, ⟨false, .acquire, 15⟩,
    ⟨true, .assertValid, 16⟩, ⟨true, .release, 17⟩, ⟨false, .assertValid, 18⟩]

end Runs

end Blessing.Lease.Postgres
