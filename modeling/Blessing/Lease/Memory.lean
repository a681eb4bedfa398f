import Blessing.Lib.Clocks
import Blessing.Lib.Machine
import Blessing.Lib.Table
import Blessing.Lib.Text
import Mathlib

/-! # The in-memory execution lease

`InMemoryExecutionLeaseStore` and `InMemoryExecutionLease` of `execution_lease.py`. A call of a
handle runs in two pieces: what it reads before it waits for the lock of the store, and what it does
once it holds the lock. `step` takes the pieces of any number of calls in any order, with what a
clock says the sum of a reading and a TTL is.

The token of a record never goes down, and every token handed out for a scope is at most the one of
its record: `Inv`. -/

namespace Blessing.Lease.Memory

open Blessing.Lib Blessing.Lib.Clocks Blessing.Lib.Machine Blessing.Lib.Table

/-! ### The store -/

/-- `_InMemoryLeaseRecord` with its key. -/
structure LeaseRecord where
  scopeKey : String
  ownerId : String
  fencingToken : ℕ
  expiresAt : Time
  deriving DecidableEq

/-- `_records` -/
abbrev Store := List LeaseRecord

/-- `self._records.get(scope_key)` -/
def Store.get (store : Store) (scopeKey : String) : Option LeaseRecord :=
  lookup LeaseRecord.scopeKey scopeKey store

/-- Assign the expiry of a record. -/
def Store.setExpiry (store : Store) (scopeKey : String) (expiresAt : Time) : Store :=
  update (fun r => r.scopeKey = scopeKey) (fun r => { r with expiresAt }) store

/-- `acquire` of the store, with the clock as it was read before the lock was taken. -/
def Store.acquire (clock : Clock) (store : Store) (scopeKey ownerId : String) (ttl now : Time) :
    Option ℕ × Store :=
  match store.get scopeKey with
  | none => (some 1, upsert LeaseRecord.scopeKey ⟨scopeKey, ownerId, 1, clock.expiry now ttl⟩ store)
  | some current =>
    if now < current.expiresAt then (none, store)
    else (some (current.fencingToken + 1),
      upsert LeaseRecord.scopeKey
        ⟨scopeKey, ownerId, current.fencingToken + 1, clock.expiry now ttl⟩ store)

/-- The record is there, has the owner and the token, and is not expired. -/
def Store.holds (store : Store) (scopeKey ownerId : String) (token : ℕ) (now : Time) : Bool :=
  (store.get scopeKey).any fun current =>
    current.ownerId == ownerId && current.fencingToken == token && decide (now < current.expiresAt)

/-- `renew` of the store. The clock is read twice. -/
def Store.renew (clock : Clock) (store : Store) (scopeKey ownerId : String) (token : ℕ)
    (ttl now later : Time) : Bool × Store :=
  if store.holds scopeKey ownerId token now then
    (true, store.setExpiry scopeKey (clock.expiry later ttl))
  else (false, store)

/-- `assert_valid` of the store; false where it raises `LeaseLostError`. -/
def Store.assertValid (store : Store) (scopeKey ownerId : String) (token : ℕ) (now : Time) : Bool :=
  store.holds scopeKey ownerId token now

/-- `release` of the store: the record stays, for its token. -/
def Store.release (store : Store) (scopeKey ownerId : String) (token : ℕ) : Store :=
  if (store.get scopeKey).any fun current =>
      current.ownerId == ownerId && current.fencingToken == token then store.setExpiry scopeKey 0
  else store

/-- `lose` -/
def Store.lose (store : Store) (scopeKey : String) : Store :=
  if (store.get scopeKey).isSome then store.setExpiry scopeKey 0 else store

/-! ### Handles -/

/-- What a handle was made with: the constructor refuses a blank scope and a TTL that is not
positive. -/
structure ExecutionLease where
  scopeKey : String
  ownerId : String
  ttl : Time
  named : Text.strip scopeKey ≠ ""
  positive : 0 < ttl

/-- The methods of a handle. -/
inductive Method where
  | acquire
  | renew
  | assertValid
  | release
  deriving DecidableEq

/-- A call that waits for the lock, with what it read before. -/
inductive Pending (H : Type) where
  | acquire (h : H) (now : Time)
  | renew (h : H) (token : ℕ)
  | assertValid (h : H) (token : ℕ)
  | release (h : H) (token : ℕ)

/-- The store, the tokens of the handles and the calls that wait. -/
structure World (H : Type) where
  store : Store
  token : H → Option ℕ
  pending : List (Pending H)

/-- Pieces of calls, with the readings of the clock. -/
inductive Event (H : Type) where
  /-- a call up to the lock -/
  | call (h : H) (method : Method) (now : Time)
  /-- a waiting call takes the lock and returns -/
  | resume (index : ℕ) (now later : Time)
  /-- `lose` -/
  | lose (scopeKey : String)

/-- What a piece of a call returns or raises. -/
inductive Outcome where
  | waits
  | token (scopeKey : String) (token : ℕ)
  | bool (b : Bool)
  | unit
  | leaseLost
  deriving DecidableEq

section Handles

variable {H : Type} [DecidableEq H] (clock : Clock) (lease : H → ExecutionLease)

/-- The call waits for the lock. -/
def World.wait (w : World H) (call : Pending H) : Outcome × World H :=
  (.waits, { w with pending := w.pending ++ [call] })

/-- The piece of a call in front of the lock. -/
def World.call (w : World H) (h : H) (method : Method) (now : Time) : Outcome × World H :=
  match method, w.token h with
  | .acquire, _ => w.wait (.acquire h now)
  | .renew, none => (.bool false, w)
  | .renew, some token => w.wait (.renew h token)
  | .assertValid, none => (.leaseLost, w)
  | .assertValid, some token => w.wait (.assertValid h token)
  | .release, none => (.unit, w)
  | .release, some token => w.wait (.release h token)

/-- The piece of a call that holds the lock. -/
def World.locked (w : World H) (now later : Time) : Pending H → Outcome × World H
  | .acquire h read =>
    match w.store.acquire clock (lease h).scopeKey (lease h).ownerId (lease h).ttl read with
    | (none, store) => (.bool false, { w with store })
    | (some token, store) =>
      (.token (lease h).scopeKey token,
        { w with store, token := Function.update w.token h (some token) })
  | .renew h token =>
    let (renewed, store) :=
      w.store.renew clock (lease h).scopeKey (lease h).ownerId token (lease h).ttl now later
    (.bool renewed, { w with store })
  | .assertValid h token =>
    (if w.store.assertValid (lease h).scopeKey (lease h).ownerId token now then .unit
      else .leaseLost, w)
  | .release h token =>
    (.unit, { w with
      store := w.store.release (lease h).scopeKey (lease h).ownerId token
      token := Function.update w.token h none })

/-- One piece of a call. -/
def step (w : World H) : Event H → Outcome × World H
  | .call h method now => w.call h method now
  | .resume index now later =>
    match w.pending[index]? with
    | none => (.waits, w)
    | some call =>
      World.locked clock lease { w with pending := w.pending.eraseIdx index } now later call
  | .lose scopeKey => (.unit, { w with store := w.store.lose scopeKey })

/-- New handles on a new store. -/
def start : World H := ⟨[], fun _ => none, []⟩

end Handles

/-! ### Tokens -/

variable {clock : Clock}

/-- The last token of a scope; zero before the first. -/
def Store.tokenAt (store : Store) (scopeKey : String) : ℕ :=
  ((store.get scopeKey).map LeaseRecord.fencingToken).getD 0

theorem get_setExpiry (store : Store) (scopeKey scope : String) (expiresAt : Time) :
    (store.setExpiry scopeKey expiresAt).get scope =
      (store.get scope).map fun r => if r.scopeKey = scopeKey then { r with expiresAt } else r := by
  have hkey : ∀ r : LeaseRecord, LeaseRecord.scopeKey { r with expiresAt } = r.scopeKey :=
    fun r => rfl
  unfold Store.get Store.setExpiry
  rw [lookup_update hkey]
  simp only [decide_eq_true_eq]

theorem get_upsert (store : Store) (r : LeaseRecord) (scope : String) :
    Store.get (upsert LeaseRecord.scopeKey r store) scope =
      if r.scopeKey = scope then some r else store.get scope := lookup_upsert

theorem tokenAt_setExpiry (store : Store) (scopeKey scope : String) (expiresAt : Time) :
    (store.setExpiry scopeKey expiresAt).tokenAt scope = store.tokenAt scope := by
  unfold Store.tokenAt
  rw [get_setExpiry]
  cases store.get scope with
  | none => rfl
  | some r =>
    simp only [Option.map_some, Option.getD_some]
    split_ifs <;> rfl

theorem tokenAt_upsert (store : Store) (r : LeaseRecord) (scope : String) :
    Store.tokenAt (upsert LeaseRecord.scopeKey r store) scope =
      if r.scopeKey = scope then r.fencingToken else store.tokenAt scope := by
  unfold Store.tokenAt
  rw [get_upsert]
  split_ifs <;> rfl

/-- A successful acquire hands out the next token of its scope and touches no other one. -/
theorem acquire_some {store store' : Store} {scopeKey ownerId : String} {ttl now : Time} {token : ℕ}
    (h : store.acquire clock scopeKey ownerId ttl now = (some token, store')) :
    token = store.tokenAt scopeKey + 1 ∧
      ∀ scope, store'.tokenAt scope = if scopeKey = scope then token else store.tokenAt scope := by
  unfold Store.acquire at h
  cases hget : store.get scopeKey with
  | none =>
    simp only [hget, Prod.mk.injEq, Option.some.injEq] at h
    obtain ⟨rfl, rfl⟩ := h
    exact ⟨by simp [Store.tokenAt, hget], fun scope => tokenAt_upsert store _ scope⟩
  | some current =>
    simp only [hget] at h
    split_ifs at h
    · simp at h
    · simp only [Prod.mk.injEq, Option.some.injEq] at h
      obtain ⟨rfl, rfl⟩ := h
      exact ⟨by simp [Store.tokenAt, hget], fun scope => tokenAt_upsert store _ scope⟩

theorem acquire_none {store store' : Store} {scopeKey ownerId : String} {ttl now : Time}
    (h : store.acquire clock scopeKey ownerId ttl now = (none, store')) : store' = store := by
  unfold Store.acquire at h
  split at h
  · simp at h
  · split_ifs at h
    · simpa using h.symm
    · simp at h

theorem tokenAt_renew (store : Store) (scopeKey ownerId : String) (token : ℕ) (ttl now later : Time)
    (scope : String) :
    (store.renew clock scopeKey ownerId token ttl now later).2.tokenAt scope =
    store.tokenAt scope := by
  unfold Store.renew
  split_ifs
  · exact tokenAt_setExpiry store scopeKey scope _
  · rfl

theorem tokenAt_release (store : Store) (scopeKey ownerId : String) (token : ℕ) (scope : String) :
    (store.release scopeKey ownerId token).tokenAt scope = store.tokenAt scope := by
  unfold Store.release
  split_ifs
  · exact tokenAt_setExpiry store scopeKey scope _
  · rfl

theorem tokenAt_lose (store : Store) (scopeKey scope : String) :
    (store.lose scopeKey).tokenAt scope = store.tokenAt scope := by
  unfold Store.lose
  split_ifs
  · exact tokenAt_setExpiry store scopeKey scope _
  · rfl

/-! ### Fencing -/

/-- Nothing passes with the token of the scope. -/
structure Fenced (store : Store) (scopeKey : String) (token : ℕ) : Prop where
  assertValid : ∀ ownerId now, store.assertValid scopeKey ownerId token now = false
  renew : ∀ clock ownerId ttl now later,
    store.renew clock scopeKey ownerId token ttl now later = (false, store)
  release : ∀ ownerId, store.release scopeKey ownerId token = store

theorem get_of_holds {store : Store} {scopeKey ownerId : String} {token : ℕ} {now : Time}
    (h : store.holds scopeKey ownerId token now = true) :
    ∃ r, store.get scopeKey = some r ∧ r.ownerId = ownerId ∧ r.fencingToken = token := by
  unfold Store.holds at h
  cases hget : store.get scopeKey with
  | none => simp [hget] at h
  | some r =>
    simp only [hget, Option.any_some, Bool.and_eq_true, beq_iff_eq] at h
    exact ⟨r, rfl, h.1.1, h.1.2⟩

theorem fenced_of_lt {store : Store} {scopeKey : String} {token : ℕ}
    (h : token < store.tokenAt scopeKey) : Fenced store scopeKey token := by
  have hholds : ∀ ownerId now, store.holds scopeKey ownerId token now = false := by
    intro ownerId now
    by_contra hne
    obtain ⟨r, hget, -, htoken⟩ := get_of_holds (Bool.eq_true_of_not_eq_false hne)
    simp only [Store.tokenAt, hget, Option.map_some, Option.getD_some] at h
    omega
  refine ⟨hholds, fun clock ownerId ttl now later => ?_, fun ownerId => ?_⟩
  · simp [Store.renew, hholds]
  · unfold Store.release
    rw [if_neg]
    intro hany
    cases hget : store.get scopeKey with
    | none => simp [hget] at hany
    | some r =>
      simp only [hget, Option.any_some, Bool.and_eq_true, beq_iff_eq] at hany
      simp only [Store.tokenAt, hget, Option.map_some, Option.getD_some] at h
      omega

/-! ### Runs -/

section Runs

variable {H : Type} [DecidableEq H] (clock : Clock) (lease : H → ExecutionLease)

/-- The token handed out for a scope. -/
def granted (scopeKey : String) : Outcome → Option ℕ
  | .token scope token => if scope = scopeKey then some token else none
  | _ => none

/-- The tokens handed out for a scope, in order. -/
def issued (scopeKey : String) (outcomes : List Outcome) : List ℕ :=
  outcomes.filterMap (granted scopeKey)

/-- A token that is handed out is the next one of its scope, and no other token changes. -/
structure Advances (before after : Store) (outcome : Outcome) (scopeKey : String) : Prop where
  next : ∀ token, granted scopeKey outcome = some token →
    token = before.tokenAt scopeKey + 1 ∧ after.tokenAt scopeKey = token
  same : granted scopeKey outcome = none → after.tokenAt scopeKey = before.tokenAt scopeKey

theorem advances_of_same {before after : Store} {outcome : Outcome} {scopeKey : String}
    (hnone : granted scopeKey outcome = none)
    (hsame : after.tokenAt scopeKey = before.tokenAt scopeKey) :
    Advances before after outcome scopeKey :=
  ⟨fun token h => by simp [hnone] at h, fun _ => hsame⟩

theorem advances_locked (w : World H) (now later : Time) (call : Pending H) (scopeKey : String) :
    Advances w.store (w.locked clock lease now later call).2.store
      (w.locked clock lease now later call).1
      scopeKey := by
  cases call with
  | acquire h read =>
    unfold World.locked
    cases hacq : w.store.acquire clock (lease h).scopeKey (lease h).ownerId (lease h).ttl read with
    | mk result store =>
      simp only [hacq]
      cases result with
      | none => exact advances_of_same rfl (by rw [acquire_none hacq])
      | some token =>
        obtain ⟨hnext, hafter⟩ := acquire_some hacq
        refine ⟨fun token' h' => ?_, fun h' => ?_⟩
        · simp only [granted, Option.ite_none_right_eq_some, Option.some.injEq] at h'
          obtain ⟨hscope, rfl⟩ := h'
          rw [← hscope]
          exact ⟨hnext, by rw [hafter, if_pos rfl]⟩
        · simp only [granted, ite_eq_right_iff, reduceCtorEq, imp_false] at h'
          exact (hafter scopeKey).trans (if_neg h')
  | renew h token => exact advances_of_same rfl (tokenAt_renew ..)
  | assertValid h token =>
    refine advances_of_same ?_ rfl
    simp only [World.locked]
    split_ifs <;> rfl
  | release h token => exact advances_of_same rfl (tokenAt_release ..)

theorem advances_step (w : World H) (event : Event H) (scopeKey : String) :
    Advances w.store (step clock lease w event).2.store (step clock lease w event).1 scopeKey := by
  cases event with
  | call h method now =>
    simp only [step, World.call]
    split <;> exact advances_of_same rfl rfl
  | resume index now later =>
    simp only [step]
    cases hcall : w.pending[index]? with
    | none => exact advances_of_same rfl rfl
    | some call =>
      exact advances_locked clock lease { w with pending := w.pending.eraseIdx index } now
        later call scopeKey
  | lose scope => exact advances_of_same rfl (tokenAt_lose ..)

theorem issued_run (events : List (Event H)) (scopeKey : String) :
    (issued scopeKey (run (step clock lease) start events).1).Pairwise (· < ·) ∧
      ∀ token ∈ issued scopeKey (run (step clock lease) start events).1,
        token ≤ (run (step clock lease) start events).2.store.tokenAt scopeKey := by
  induction events using List.reverseRecOn with
  | nil => simp [issued]
  | append_singleton events event ih =>
    obtain ⟨hsorted, hlast⟩ := ih
    obtain ⟨hnext, hsame⟩ :=
      advances_step clock lease (run (step clock lease) start events).2 event scopeKey
    rw [run_snoc]
    unfold issued at hsorted hlast ⊢
    rw [List.filterMap_append, List.filterMap_cons, List.filterMap_nil]
    cases hgranted :
      granted scopeKey (step clock lease (run (step clock lease) start events).2 event).1 with
    | none =>
      simp only [List.append_nil]
      rw [hsame hgranted]
      exact ⟨hsorted, hlast⟩
    | some token =>
      obtain ⟨htoken, hafter⟩ := hnext token hgranted
      rw [hafter, List.pairwise_append]
      refine ⟨⟨hsorted, by simp, fun t ht t' ht' => ?_⟩, fun t ht => ?_⟩
      · have hle := hlast t ht
        rw [List.mem_singleton.mp ht']
        omega
      · rcases List.mem_append.mp ht with ht | ht
        · have hle := hlast t ht
          omega
        · exact (List.mem_singleton.mp ht).le

theorem tokenAt_mono (w : World H) (events : List (Event H)) (scopeKey : String) :
    w.store.tokenAt scopeKey ≤ (run (step clock lease) w events).2.store.tokenAt scopeKey := by
  induction events generalizing w with
  | nil => exact le_rfl
  | cons event events ih =>
    obtain ⟨hnext, hsame⟩ := advances_step clock lease w event scopeKey
    refine le_trans ?_ (ih (step clock lease w event).2)
    cases hgranted : granted scopeKey (step clock lease w event).1 with
    | none => exact (hsame hgranted).ge
    | some token =>
      obtain ⟨htoken, hafter⟩ := hnext token hgranted
      omega

/-- **Exclusion and fencing**: whatever the clock reads and in whatever order the pieces of the
calls run, the tokens of a scope are handed out in increasing order, at most one owner and token
passes, and once a newer token is out an older one never passes, renews or releases anything
again. -/
theorem lease_exclusion (before after : List (Event H)) :
    let reached := (run (step clock lease) start (before ++ after)).2.store
    (∀ scopeKey, (issued scopeKey (run (step clock lease) start (before ++ after)).1).Pairwise
      (· < ·)) ∧
    (∀ scopeKey now ownerId token ownerId' token',
      reached.assertValid scopeKey ownerId token now = true →
      reached.assertValid scopeKey ownerId' token' now = true →
      ownerId = ownerId' ∧ token = token') ∧
    ∀ scopeKey newer older, newer ∈ issued scopeKey (run (step clock lease) start before).1 →
      older < newer → Fenced reached scopeKey older := by
  refine ⟨fun scopeKey => (issued_run clock lease _ scopeKey).1, ?_, ?_⟩
  · intro scopeKey now ownerId token ownerId' token' h h'
    obtain ⟨r, hget, rfl, rfl⟩ := get_of_holds h
    obtain ⟨r', hget', rfl, rfl⟩ := get_of_holds h'
    cases hget.symm.trans hget'
    exact ⟨rfl, rfl⟩
  · intro scopeKey newer older hnewer hlt
    have hle := (issued_run clock lease before scopeKey).2 newer hnewer
    have hmono := tokenAt_mono clock lease (run (step clock lease) start before).2 after scopeKey
    rw [run_append]
    exact fenced_of_lt (lt_of_lt_of_le (lt_of_lt_of_le hlt hle) hmono)

/-- Two workers with ten seconds each. -/
def twoWorkers (first : Bool) : ExecutionLease :=
  ⟨"ETHUSDC", if first then "A" else "B", 10, by decide, by decide⟩

/-- The second worker takes over after the first one was silent for too long. -/
def takeover : List (Event Bool) :=
  [.call true .acquire 0, .resume 0 0 0, .call false .acquire 20, .resume 0 21 21]

theorem lease_exclusion_takeover :
    issued "ETHUSDC" (run (step monotonic twoWorkers) start takeover).1 = [1, 2] ∧
      Fenced (run (step monotonic twoWorkers) start
        (takeover ++ [.call true .renew 22, .resume 0 22 22])).2.store
        "ETHUSDC" 1 := by
  have hissued : issued "ETHUSDC" (run (step monotonic twoWorkers) start takeover).1 = [1, 2] := by
    decide +kernel
  refine ⟨hissued, (lease_exclusion monotonic twoWorkers takeover _).2.2 "ETHUSDC" 2 1
    ?_ (by decide)⟩
  rw [hissued]
  decide

end Runs

end Blessing.Lease.Memory
