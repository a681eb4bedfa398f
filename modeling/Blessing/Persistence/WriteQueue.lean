import Blessing.Persistence.Outbox

/-! # The write queue

`PersistenceManager` between `enqueue_*` and the outbox: the queue in memory, the writer task with
its retries, the barrier before an order and `stop`. The tasks take turns; a turn ends where the
code awaits. An append may fail although its row is written, and the writer may be cancelled
wherever it waits. Every accepted event is in the queue, in the writer's hand, in the outbox or
counted. -/

namespace Blessing.Persistence.WriteQueue

open Blessing.Lib Blessing.Lib.Values Blessing.Lib.Machine
open Blessing.Persistence.Outbox

/-! ### The manager -/

/-- `queue_capacity`, and whether the mode is `REQUIRED`. -/
structure Config where
  queueCapacity : ℕ
  required : Bool

/-- `_state` of a manager that has been started. -/
inductive Status where
  | ready
  | degraded
  | stopped
  deriving DecidableEq

/-- Where `_outbox_writer` is. -/
inductive Writer where
  /-- before the test of the loop -/
  | loop
  /-- in `wait_for(queue.get())` -/
  | waiting
  /-- in `append_outbox` -/
  | appending (o : Observation)
  /-- asleep before the next attempt -/
  | retrying (o : Observation)
  | done
  deriving DecidableEq

/-- The event in the writer's hand. -/
def Writer.hand : Writer → List Observation
  | .appending o | .retrying o => [o]
  | .loop | .waiting | .done => []

/-- Where `stop` is. -/
inductive Stop where
  | running
  /-- waits for the writer, which it cancels after the deadline -/
  | draining
  /-- waits for the dispatcher -/
  | finishing
  /-- has counted the queue -/
  | counted
  | returned
  deriving DecidableEq

/-- A call of `ensure_order_durable` with the event of its order that has not returned; the database
may have acknowledged the row. -/
structure Barrier where
  observation : Observation
  acknowledged : Bool
  deriving DecidableEq

/-- The manager and its database. The last four fields are a history: the events that `enqueue_*`
accepted, those the writer appended, those it counted, and those a barrier returned `True` for. -/
structure Manager where
  store : Store
  accepting : Bool
  isConnected : Bool
  status : Status
  queue : List Observation
  writer : Writer
  barriers : List Barrier
  stop : Stop
  failedWrites : ℕ
  droppedWrites : ℕ
  retryCount : ℕ
  unflushedWrites : ℕ
  accepted : List Observation
  written : List Observation
  failed : List Observation
  durable : List Observation

/-- A manager after `start`. -/
def started (store : Store) : Manager where
  store
  accepting := true
  isConnected := true
  status := .ready
  queue := []
  writer := .loop
  barriers := []
  stop := .running
  failedWrites := 0
  droppedWrites := 0
  retryCount := 0
  unflushedWrites := 0
  accepted := []
  written := []
  failed := []
  durable := []

/-! ### Turns -/

/-- How an insertion ends. -/
inductive Outcome where
  | acknowledged
  | raised (landed : Bool)

/-- A turn of one of the tasks. `late` tells whether the deadline of `stop` has passed. -/
inductive Action where
  | enqueue (o : Observation)
  | writerLoop
  | writerTake
  | writerTimeout
  | writerAppend (outcome : Outcome) (late : Bool)
  | writerWake
  | writerCancel (landed : Bool)
  | ensure (o : Observation)
  | ensureAppend (o : Observation) (outcome : Outcome)
  | ensureReturn (o : Observation)
  | ensureFail (barrier : Barrier)
  | dispatch (now : ℤ) (fault : Bool) (retryAt : Option ℤ)
  | stopBegin
  | stopJoin
  | stopCount
  | stopReturn

/-- The event a caller brings. -/
def Action.offers : Action → List Observation
  | .enqueue o | .ensure o => [o]
  | _ => []

/-- `_record_failure` -/
def recordFailure (m : Manager) : Manager :=
  { m with failedWrites := m.failedWrites + 1, retryCount := m.retryCount + 1, status := .degraded }

/-- `_enqueue_event` -/
def enqueueEvent (c : Config) (o : Observation) (m : Manager) : Option Bool × Manager :=
  if ¬ m.accepting ∨ ¬ m.isConnected then
    (some false, { m with droppedWrites := m.droppedWrites + 1 })
  else if c.queueCapacity ≤ m.queue.length then
    (some false, { m with
      failedWrites := m.failedWrites + 1
      droppedWrites := m.droppedWrites + 1
      status := if c.required then .degraded else m.status })
  else (some true, { m with queue := m.queue ++ [o], accepted := m.accepted ++ [o] })

/-- An event that was not acknowledged: the `finally` of the writer. -/
def countUnflushed (o : Observation) (m : Manager) : Manager :=
  { m with unflushedWrites := m.unflushedWrites + 1, failed := o :: m.failed }

section

variable (c : Config) (sha256 : String → String) (instant : Json → Option ℤ)

/-- The row of a failed insertion may be there all the same. -/
def land (landed : Bool) (o : Observation) (s : Store) : Store :=
  if landed then appendOutbox sha256 o s else s

/-- The database acknowledges an insertion: the end of `_append_with_retry`. -/
def acknowledge (o : Observation) (m : Manager) : Manager :=
  { m with store := appendOutbox sha256 o m.store, isConnected := true, status := .ready }

/-- An append of the writer ends. -/
def writerAppend (outcome : Outcome) (late : Bool) (m : Manager) : Manager :=
  match m.writer, outcome with
  | .appending o, .acknowledged =>
    if Fits o then { acknowledge sha256 o m with writer := .loop, written := o :: m.written } else m
  | .appending o, .raised landed =>
    let m := recordFailure { m with store := land sha256 landed o m.store }
    if m.stop ≠ .running ∧ late then { countUnflushed o m with writer := .loop }
    else { m with writer := .retrying o }
  | _, _ => m

/-- `CancelledError` in the writer. -/
def writerCancel (landed : Bool) (m : Manager) : Manager :=
  match m.writer with
  | .waiting => { m with writer := .done }
  | .appending o =>
    { countUnflushed o { m with store := land sha256 landed o m.store } with writer := .done }
  | .retrying o => { countUnflushed o m with writer := .done }
  | .loop | .done => m

/-- The start of `ensure_order_durable`. -/
def ensureOrderDurable (o : Observation) (m : Manager) : Option Bool × Manager :=
  if ¬ m.accepting ∨ ¬ m.isConnected then
    (some false, { m with droppedWrites := m.droppedWrites + 1 })
  else (none, { m with barriers := ⟨o, false⟩ :: m.barriers })

/-- An append of a barrier ends. -/
def ensureAppend (o : Observation) (outcome : Outcome) (m : Manager) : Manager :=
  if ⟨o, false⟩ ∈ m.barriers then
    match outcome with
    | .acknowledged =>
      if Fits o then
        { acknowledge sha256 o m with barriers := ⟨o, true⟩ :: m.barriers.erase ⟨o, false⟩ }
      else m
    | .raised landed => recordFailure { m with store := land sha256 landed o m.store }
  else m

/-- A turn: what a call returned, if one returned. -/
def step (m : Manager) : Action → Option Bool × Manager
  | .enqueue o => enqueueEvent c o m
  | .writerLoop =>
    (none, if m.writer = .loop then
      { m with writer := if m.accepting ∨ m.queue ≠ [] then .waiting else .done } else m)
  | .writerTake =>
    (none, match m.writer, m.queue with
      | .waiting, o :: rest => { m with writer := .appending o, queue := rest }
      | _, _ => m)
  | .writerTimeout => (none, if m.writer = .waiting then { m with writer := .loop } else m)
  | .writerAppend outcome late => (none, writerAppend sha256 outcome late m)
  | .writerWake =>
    (none, match m.writer with
      | .retrying o => { m with writer := .appending o }
      | _ => m)
  | .writerCancel landed => (none, writerCancel sha256 landed m)
  | .ensure o => ensureOrderDurable o m
  | .ensureAppend o outcome => (none, ensureAppend sha256 o outcome m)
  | .ensureReturn o =>
    if ⟨o, true⟩ ∈ m.barriers then
      (some true, { m with barriers := m.barriers.erase ⟨o, true⟩, durable := o :: m.durable })
    else (none, m)
  | .ensureFail barrier =>
    if barrier ∈ m.barriers then
      (some false, { m with barriers := m.barriers.erase barrier, status := .degraded })
    else (none, m)
  | .dispatch now fault retryAt =>
    let r := dispatchOne sha256 instant now fault retryAt m.store
    (none, if r.1 = none then recordFailure { m with store := r.2 } else { m with store := r.2 })
  | .stopBegin =>
    (none, if m.stop = .running then { m with stop := .draining, accepting := false } else m)
  | .stopJoin =>
    (none, if m.stop = .draining ∧ m.writer = .done then { m with stop := .finishing } else m)
  | .stopCount =>
    (none, if m.stop = .finishing then
      { m with stop := .counted, unflushedWrites := m.unflushedWrites + m.queue.length } else m)
  | .stopReturn =>
    (none, if m.stop = .counted then
      { m with stop := .returned, isConnected := false, status := .stopped } else m)

end

/-! ### Rows -/

/-- The outbox has a row with the idempotency key of the event. -/
def hasRow (s : Store) (o : Observation) : Bool :=
  s.outbox.any fun r =>
    r.observation.eventType == o.eventType && r.observation.idempotencyKey == o.idempotencyKey

/-- The digest in the event ids tells the keys apart. -/
def Distinct (sha256 : String → String) (events : List Observation) : Prop :=
  ∀ o ∈ events, ∀ o' ∈ events,
    eventId sha256 o.eventType o.idempotencyKey = eventId sha256 o'.eventType o'.idempotencyKey →
    o.eventType = o'.eventType ∧ o.idempotencyKey = o'.idempotencyKey

theorem hasRow_iff {s : Store} {o : Observation} : hasRow s o = true ↔ ∃ r ∈ s.outbox,
    r.observation.eventType = o.eventType ∧ r.observation.idempotencyKey = o.idempotencyKey := by
  simp [hasRow]

/-- A store that goes on from another one: the rows it had stay. -/
def Extends (s s' : Store) : Prop := ∀ o, hasRow s o = true → hasRow s' o = true

/-- A store whose rows are those of known events under their ids. -/
structure Sound (sha256 : String → String) (events : List Observation) (s : Store) : Prop where
  keyed : Keyed sha256 s
  known : ∀ r ∈ s.outbox, r.observation ∈ events

variable {c : Config} {sha256 : String → String} {instant : Json → Option ℤ}
    {events : List Observation} {s : Store} {m : Manager} {o : Observation}

theorem append_extends (sha256 : String → String) (o : Observation) (s : Store) :
    Extends s (appendOutbox sha256 o s) := by
  intro e he
  rcases append_cases sha256 o s with hsame | ⟨-, -, happ⟩
  · rw [hsame]
    exact he
  · obtain ⟨r, hr, hkeys⟩ := hasRow_iff.mp he
    rw [happ]
    exact hasRow_iff.mpr ⟨r, List.mem_append_left _ hr, hkeys⟩

theorem append_sound (h : Sound sha256 events s) (ho : o ∈ events) :
    Sound sha256 events (appendOutbox sha256 o s) := by
  refine ⟨keyed_step (fun _ => none) h.keyed (.append o), ?_⟩
  rcases append_cases sha256 o s with hsame | ⟨-, -, happ⟩
  · rw [hsame]
    exact h.known
  · rw [happ]
    intro r hr
    rcases List.mem_append.mp hr with hr | hr
    · exact h.known r hr
    · rw [List.mem_singleton.mp hr]
      exact ho

/-- An insertion that does not raise leaves the row of its event, be it new or there already. -/
theorem append_hasRow (hdistinct : Distinct sha256 events) (h : Sound sha256 events s)
    (ho : o ∈ events) (hfits : Fits o) : hasRow (appendOutbox sha256 o s) o = true := by
  by_cases hconflict : s.outbox.any (conflicts sha256 o) = true
  · have hsame : appendOutbox sha256 o s = s := if_neg fun hnew => hnew.2 hconflict
    obtain ⟨r, hr, hconflict⟩ := List.any_eq_true.mp hconflict
    rw [hsame]
    refine hasRow_iff.mpr ⟨r, hr, ?_⟩
    rcases (Bool.or_eq_true _ _).mp hconflict with hid | hkeys
    · have hids := (h.keyed.ids r hr).symm.trans (beq_iff_eq.mp hid)
      exact hdistinct _ (h.known r hr) _ ho hids
    · obtain ⟨htype, hkey⟩ := (Bool.and_eq_true _ _).mp hkeys
      exact ⟨beq_iff_eq.mp htype, beq_iff_eq.mp hkey⟩
  · rw [appendOutbox, if_pos ⟨hfits, hconflict⟩]
    exact hasRow_iff.mpr ⟨_, List.mem_append_right _ (List.mem_singleton_self _), rfl, rfl⟩

theorem land_extends (sha256 : String → String) (landed : Bool) (o : Observation) (s : Store) :
    Extends s (land sha256 landed o s) := by
  unfold land
  split_ifs
  · exact append_extends sha256 o s
  · exact fun _ h => h

theorem land_sound (h : Sound sha256 events s) (ho : o ∈ events) (landed : Bool) :
    Sound sha256 events (land sha256 landed o s) := by
  unfold land
  split_ifs
  · exact append_sound h ho
  · exact h

theorem dispatch_observations (instant : Json → Option ℤ) (h : Keyed sha256 s) (now : ℤ)
    (fault : Bool) (retryAt : Option ℤ) :
    (dispatchOne sha256 instant now fault retryAt s).2.outbox.map OutboxRow.observation =
      s.outbox.map OutboxRow.observation := by
  have hfst : ∀ rows : List OutboxRow,
      rows.map OutboxRow.observation = (rows.map OutboxRow.core).map Prod.fst := by
    intro rows
    rw [List.map_map]
    rfl
  rcases dispatch_cases instant h now fault retryAt with
    ⟨-, hcore⟩ | ⟨pre, row, post, tables, hsplit, -, -, -, hs'⟩
  · rw [hfst, hcore, ← hfst]
  · rw [hs', hsplit]
    simp [markProcessed]

theorem dispatch_extends (instant : Json → Option ℤ) (h : Keyed sha256 s) (now : ℤ) (fault : Bool)
    (retryAt : Option ℤ) : Extends s (dispatchOne sha256 instant now fault retryAt s).2 := by
  intro e he
  obtain ⟨r, hr, hkeys⟩ := hasRow_iff.mp he
  have hmem := List.mem_map_of_mem (f := OutboxRow.observation) hr
  rw [← dispatch_observations instant h now fault retryAt] at hmem
  obtain ⟨r', hr', hsame⟩ := List.mem_map.mp hmem
  exact hasRow_iff.mpr ⟨r', hr', hsame ▸ hkeys⟩

theorem dispatch_sound (instant : Json → Option ℤ) (h : Sound sha256 events s) (now : ℤ)
    (fault : Bool) (retryAt : Option ℤ) :
    Sound sha256 events (dispatchOne sha256 instant now fault retryAt s).2 := by
  refine ⟨keyed_step instant h.keyed (.dispatch now fault retryAt), fun r hr => ?_⟩
  have hmem := List.mem_map_of_mem (f := OutboxRow.observation) hr
  rw [dispatch_observations instant h.keyed] at hmem
  obtain ⟨r', hr', hsame⟩ := List.mem_map.mp hmem
  exact hsame ▸ h.known r' hr'

/-! ### The balance -/

/-- The queue has been counted. -/
def Stop.hasCounted : Stop → Bool
  | .counted | .returned => true
  | .running | .draining | .finishing => false

/-- The events that `unflushed_writes` counts. -/
def Manager.reported (m : Manager) : List Observation :=
  m.failed ++ if m.stop.hasCounted then m.queue else []

/-- What holds between two turns. -/
structure Inv (sha256 : String → String) (events : List Observation) (m : Manager) : Prop where
  sound : Sound sha256 events m.store
  offered : ∀ o ∈ m.writer.hand ++ m.queue, o ∈ events
  barriers : ∀ b ∈ m.barriers, b.observation ∈ events ∧
    (b.acknowledged = true → hasRow m.store b.observation = true)
  balance : m.accepted.Perm (m.written ++ m.failed ++ m.writer.hand ++ m.queue)
  written : ∀ o ∈ m.written, hasRow m.store o = true
  durable : ∀ o ∈ m.durable, hasRow m.store o = true
  unflushed : m.unflushedWrites = m.reported.length
  stopping : m.stop ≠ .running → m.accepting = false
  joined : m.stop ≠ .running → m.stop ≠ .draining → m.writer = .done

theorem Inv.extend (h : Inv sha256 events m) (hextends : Extends m.store s)
    (hsound : Sound sha256 events s) : Inv sha256 events { m with store := s } where
  sound := hsound
  offered := h.offered
  barriers b hb := ⟨(h.barriers b hb).1, fun hack => hextends _ ((h.barriers b hb).2 hack)⟩
  balance := h.balance
  written o ho := hextends o (h.written o ho)
  durable o ho := hextends o (h.durable o ho)
  unflushed := h.unflushed
  stopping := h.stopping
  joined := h.joined

theorem Inv.flags (h : Inv sha256 events m) (isConnected : Bool) (status : Status)
    (failedWrites droppedWrites retryCount : ℕ) : Inv sha256 events { m with
      isConnected, status, failedWrites, droppedWrites, retryCount } :=
  ⟨h.sound, h.offered, h.barriers, h.balance, h.written, h.durable, h.unflushed,
    h.stopping, h.joined⟩

theorem Inv.stops (h : Inv sha256 events m) {stop : Stop} {accepting : Bool}
    (hclosed : stop ≠ .running → accepting = false) (hcounted : stop.hasCounted = m.stop.hasCounted)
    (hdone : stop ≠ .running → stop ≠ .draining → m.writer = .done) :
    Inv sha256 events { m with stop, accepting } where
  sound := h.sound
  offered := h.offered
  barriers := h.barriers
  balance := h.balance
  written := h.written
  durable := h.durable
  unflushed := by
    have hunflushed := h.unflushed
    unfold Manager.reported at *
    dsimp only
    rw [hcounted]
    exact hunflushed
  stopping := hclosed
  joined := hdone

theorem Inv.forget (h : Inv sha256 events m) (b : Barrier) :
    Inv sha256 events { m with barriers := m.barriers.erase b } :=
  { h with barriers := fun b' hb' => h.barriers b' (List.mem_of_mem_erase hb') }

theorem Inv.move (h : Inv sha256 events m) {w : Writer} (hhand : w.hand = m.writer.hand)
    (hdone : m.writer ≠ .done) : Inv sha256 events { m with writer := w } where
  sound := h.sound
  offered := by rw [hhand]; exact h.offered
  barriers := h.barriers
  balance := by rw [hhand]; exact h.balance
  written := h.written
  durable := h.durable
  unflushed := h.unflushed
  stopping := h.stopping
  joined hr hd := absurd (h.joined hr hd) hdone

theorem Inv.count (h : Inv sha256 events m) (hhand : m.writer.hand = [o]) {w : Writer}
    (hw : w.hand = []) : Inv sha256 events { countUnflushed o m with writer := w } where
  sound := h.sound
  offered e he := by
    rw [hw, List.nil_append] at he
    exact h.offered e (List.mem_append_right _ he)
  barriers := h.barriers
  balance := by
    have hbalance := h.balance
    rw [hhand] at hbalance
    rw [hw]
    refine hbalance.trans ?_
    unfold countUnflushed
    dsimp only
    rw [List.append_nil]
    refine List.Perm.append_right _ ?_
    rw [List.append_assoc]
    exact List.Perm.append_left _ List.perm_append_comm
  written := h.written
  durable := h.durable
  unflushed := by
    have hunflushed := h.unflushed
    unfold Manager.reported countUnflushed at *
    dsimp only
    rw [hunflushed, List.cons_append, List.length_cons]
  stopping := h.stopping
  joined hr hd := by
    have hdone := h.joined hr hd
    rw [hdone] at hhand
    cases hhand

/-! ### One turn -/

theorem started_inv (h : Sound sha256 events s) : Inv sha256 events (started s) where
  sound := h
  offered o ho := by cases ho
  barriers b hb := by cases hb
  balance := .nil
  written o ho := by cases ho
  durable o ho := by cases ho
  unflushed := rfl
  stopping h := absurd rfl h
  joined h := absurd rfl h

theorem enqueue_inv (h : Inv sha256 events m) (ho : o ∈ events) :
    Inv sha256 events (enqueueEvent c o m).2 := by
  unfold enqueueEvent
  by_cases hclosed : ¬ m.accepting ∨ ¬ m.isConnected
  · rw [if_pos hclosed]
    exact h.flags _ _ _ _ _
  by_cases hfull : c.queueCapacity ≤ m.queue.length
  · rw [if_neg hclosed, if_pos hfull]
    exact h.flags _ _ _ _ _
  · rw [if_neg hclosed, if_neg hfull]
    have hrunning : m.stop = .running := by
      by_contra hstop
      exact hclosed (.inl (by rw [h.stopping hstop]; exact Bool.false_ne_true))
    have hunflushed := h.unflushed
    refine ⟨h.sound, ?_, h.barriers, ?_, h.written, h.durable, ?_, h.stopping, h.joined⟩
    · intro e he
      rcases List.mem_append.mp he with he | he
      · exact h.offered e (List.mem_append_left _ he)
      · rcases List.mem_append.mp he with he | he
        · exact h.offered e (List.mem_append_right _ he)
        · exact (List.mem_singleton.mp he) ▸ ho
    · dsimp only
      rw [← List.append_assoc]
      exact h.balance.append_right [o]
    · unfold Manager.reported at *
      dsimp only
      rw [hrunning] at hunflushed ⊢
      exact hunflushed

theorem take_inv {rest : List Observation} (h : Inv sha256 events m)
    (hwaiting : m.writer = .waiting) (hqueue : m.queue = o :: rest) :
    Inv sha256 events { m with writer := .appending o, queue := rest } := by
  have hactive : m.stop = .running ∨ m.stop = .draining := by
    by_contra hstop
    obtain ⟨hr, hd⟩ := not_or.mp hstop
    have hdone := h.joined hr hd
    rw [hwaiting] at hdone
    cases hdone
  have hcounted : m.stop.hasCounted = false := by
    rcases hactive with hstop | hstop
    · rw [hstop]
      rfl
    · rw [hstop]
      rfl
  have hoffered := h.offered
  have hbalance := h.balance
  have hunflushed := h.unflushed
  rw [hwaiting, hqueue] at hoffered hbalance
  refine ⟨h.sound, hoffered, h.barriers, ?_, h.written, h.durable, ?_, h.stopping, ?_⟩
  · refine hbalance.trans (.of_eq ?_)
    unfold Writer.hand
    simp
  · unfold Manager.reported at *
    dsimp only
    rw [hcounted] at hunflushed ⊢
    exact hunflushed
  · intro hr hd
    rcases hactive with hstop | hstop
    · exact absurd hstop hr
    · exact absurd hstop hd

/-- An acknowledged event leaves the writer's hand; its row is there. -/
theorem acknowledge_inv (hdistinct : Distinct sha256 events) (h : Inv sha256 events m)
    (hwriter : m.writer = .appending o) (hfits : Fits o) :
    Inv sha256 events { acknowledge sha256 o m with
      writer := .loop, written := o :: m.written } := by
  have ho : o ∈ events := h.offered o (by rw [hwriter]; exact List.mem_cons_self)
  have hextends := append_extends sha256 o m.store
  have h' :=
    (h.extend hextends (append_sound h.sound ho)).flags true .ready m.failedWrites m.droppedWrites
    m.retryCount
  have hbalance := h'.balance
  dsimp only at hbalance
  rw [hwriter] at hbalance
  refine ⟨h'.sound, ?_, h'.barriers, ?_, ?_, h'.durable, h'.unflushed, h'.stopping, ?_⟩
  · intro e he
    exact h.offered e (List.mem_append_right _ he)
  · unfold Writer.hand acknowledge at *
    dsimp only at hbalance ⊢
    refine hbalance.trans ?_
    rw [List.append_nil, List.cons_append, List.cons_append]
    refine List.Perm.trans (.of_eq ?_) List.perm_middle
    rw [List.append_assoc (m.written ++ m.failed), List.singleton_append]
  · intro e he
    rcases List.mem_cons.mp he with rfl | he
    · exact append_hasRow hdistinct h.sound ho hfits
    · exact hextends e (h.written e he)
  · intro hr hd
    have hdone := h.joined hr hd
    rw [hwriter] at hdone
    cases hdone

theorem writerAppend_inv (hdistinct : Distinct sha256 events) (h : Inv sha256 events m)
    (outcome : Outcome) (late : Bool) : Inv sha256 events (writerAppend sha256 outcome late m) := by
  unfold writerAppend
  split
  · next o hwriter =>
    split_ifs with hfits
    · exact acknowledge_inv hdistinct h hwriter hfits
    · exact h
  · next o landed hwriter =>
    have ho : o ∈ events := h.offered o (by rw [hwriter]; exact List.mem_cons_self)
    have h' : Inv sha256 events (recordFailure { m with store := land sha256 landed o m.store }) :=
      (h.extend (land_extends sha256 landed o m.store)
        (land_sound h.sound ho landed)).flags _ _ _ _ _
    dsimp only
    split_ifs with hlate
    · exact h'.count (by change m.writer.hand = [o]; rw [hwriter]; rfl) rfl
    · exact h'.move (by change [o] = m.writer.hand; rw [hwriter]; rfl) fun hdone => by
        rw [show m.writer = .done from hdone] at hwriter
        cases hwriter
  · exact h

theorem writerCancel_inv (h : Inv sha256 events m) (landed : Bool) :
    Inv sha256 events (writerCancel sha256 landed m) := by
  unfold writerCancel
  split
  · next hwriter =>
    exact h.move (by rw [hwriter]; rfl) (by rw [hwriter]; exact fun hd => by cases hd)
  · next o hwriter =>
    have ho : o ∈ events := h.offered o (by rw [hwriter]; exact List.mem_cons_self)
    have h' := h.extend (land_extends sha256 landed o m.store) (land_sound h.sound ho landed)
    exact h'.count (by change m.writer.hand = [o]; rw [hwriter]; rfl) rfl
  · next o hwriter => exact h.count (by rw [hwriter]; rfl) rfl
  · exact h
  · exact h

theorem ensureAppend_inv (hdistinct : Distinct sha256 events) (h : Inv sha256 events m)
    (outcome : Outcome) : Inv sha256 events (ensureAppend sha256 o outcome m) := by
  unfold ensureAppend
  by_cases hmem : ⟨o, false⟩ ∈ m.barriers
  · rw [if_pos hmem]
    have ho : o ∈ events := (h.barriers _ hmem).1
    cases outcome with
    | acknowledged =>
      dsimp only
      split_ifs with hfits
      · have h' :=
          (h.extend (append_extends sha256 o m.store) (append_sound h.sound ho)).flags true .ready
          m.failedWrites m.droppedWrites m.retryCount
        refine { h' with barriers := fun b hb => ?_ }
        rcases List.mem_cons.mp hb with rfl | hb
        · exact ⟨ho, fun _ => append_hasRow hdistinct h.sound ho hfits⟩
        · exact h'.barriers b (List.mem_of_mem_erase hb)
      · exact h
    | raised landed =>
      exact (h.extend (land_extends sha256 landed o m.store)
        (land_sound h.sound ho landed)).flags _ _ _ _ _
  · rw [if_neg hmem]
    exact h

theorem ensureReturn_inv (h : Inv sha256 events m) (o : Observation) :
    Inv sha256 events (step c sha256 instant m (.ensureReturn o)).2 := by
  unfold step
  dsimp only
  split_ifs with hmem
  · refine { h.forget ⟨o, true⟩ with durable := fun e he => ?_ }
    rcases List.mem_cons.mp he with rfl | he
    · exact (h.barriers _ hmem).2 rfl
    · exact h.durable e he
  · exact h

theorem ensure_inv (h : Inv sha256 events m) (ho : o ∈ events) :
    Inv sha256 events (ensureOrderDurable o m).2 := by
  unfold ensureOrderDurable
  split_ifs with hclosed
  · exact h.flags _ _ _ _ _
  · refine { h with barriers := fun b hb => ?_ }
    rcases List.mem_cons.mp hb with rfl | hb
    · exact ⟨ho, fun hack => by cases hack⟩
    · exact h.barriers b hb

theorem dispatch_inv (h : Inv sha256 events m) (now : ℤ) (fault : Bool) (retryAt : Option ℤ) :
    Inv sha256 events (step c sha256 instant m (.dispatch now fault retryAt)).2 := by
  have h' := h.extend (dispatch_extends instant h.sound.keyed now fault retryAt)
    (dispatch_sound instant h.sound now fault retryAt)
  unfold step
  dsimp only
  split_ifs with hfailed
  · exact h'.flags _ _ _ _ _
  · exact h'

theorem stopCount_inv (h : Inv sha256 events m) (hstop : m.stop = .finishing) :
    Inv sha256 events
      { m with stop := .counted, unflushedWrites := m.unflushedWrites + m.queue.length } := by
  have hbefore : m.stop ≠ .running ∧ m.stop ≠ .draining := by
    rw [hstop]
    decide
  have hunflushed := h.unflushed
  unfold Manager.reported at hunflushed
  rw [hstop] at hunflushed
  refine { h with
    unflushed := ?_
    stopping := fun _ => h.stopping hbefore.1
    joined := fun _ _ => h.joined hbefore.1 hbefore.2 }
  unfold Manager.reported
  dsimp only
  rw [hunflushed]
  simp [Stop.hasCounted]

/-- **Step**: a turn keeps the balance. -/
theorem step_inv (hdistinct : Distinct sha256 events) (h : Inv sha256 events m) (a : Action)
    (ha : ∀ o ∈ a.offers, o ∈ events) : Inv sha256 events (step c sha256 instant m a).2 := by
  cases a with
  | enqueue o => exact enqueue_inv h (ha o (List.mem_singleton_self o))
  | writerLoop =>
    unfold step
    dsimp only
    split_ifs with hloop hmore
    · exact h.move (by rw [hloop]; rfl) (by rw [hloop]; exact fun hd => by cases hd)
    · exact h.move (by rw [hloop]; rfl) (by rw [hloop]; exact fun hd => by cases hd)
    · exact h
  | writerTake =>
    unfold step
    dsimp only
    split
    · next o rest hwaiting hqueue => exact take_inv h hwaiting hqueue
    · exact h
  | writerTimeout =>
    unfold step
    dsimp only
    split_ifs with hwaiting
    · exact h.move (by rw [hwaiting]; rfl) (by rw [hwaiting]; exact fun hd => by cases hd)
    · exact h
  | writerAppend outcome late => exact writerAppend_inv hdistinct h outcome late
  | writerWake =>
    unfold step
    dsimp only
    split
    · next o hretrying =>
      exact h.move (by rw [hretrying]; rfl) (by rw [hretrying]; exact fun hd => by cases hd)
    · exact h
  | writerCancel landed => exact writerCancel_inv h landed
  | ensure o => exact ensure_inv h (ha o (List.mem_singleton_self o))
  | ensureAppend o outcome => exact ensureAppend_inv hdistinct h outcome
  | ensureReturn o => exact ensureReturn_inv h o
  | ensureFail barrier =>
    unfold step
    dsimp only
    split_ifs with hmem
    · exact (h.forget barrier).flags _ _ _ _ _
    · exact h
  | dispatch now fault retryAt => exact dispatch_inv h now fault retryAt
  | stopBegin =>
    unfold step
    dsimp only
    split_ifs with hstop
    · exact h.stops (fun _ => rfl) (by rw [hstop]; rfl) fun _ hd => absurd rfl hd
    · exact h
  | stopJoin =>
    unfold step
    dsimp only
    split_ifs with hstop
    · have hclosed := h.stopping (by rw [hstop.1]; exact fun hd => by cases hd)
      exact h.stops (fun _ => hclosed) (by rw [hstop.1]; rfl) fun _ _ => hstop.2
    · exact h
  | stopCount =>
    unfold step
    dsimp only
    split_ifs with hstop
    · exact stopCount_inv h hstop
    · exact h
  | stopReturn =>
    unfold step
    dsimp only
    split_ifs with hstop
    · have hbefore : m.stop ≠ .running ∧ m.stop ≠ .draining := by
        rw [hstop]
        decide
      have hreturned := h.stops (fun _ => h.stopping hbefore.1)
        (show Stop.returned.hasCounted = m.stop.hasCounted by rw [hstop]; rfl)
        fun _ _ => h.joined hbefore.1 hbefore.2
      exact hreturned.flags _ _ _ _ _
    · exact h

/-! ### Runs -/

/-- The event whose `enqueue_*` returned `True`. -/
def acceptedBy : Action × Option Bool → Option Observation
  | (.enqueue o, some true) => some o
  | _ => none

/-- The event for which `ensure_order_durable` returned `True`. -/
def durableBy : Action × Option Bool → Option Observation
  | (.ensureReturn o, some true) => some o
  | _ => none

/-- What callers have been told. -/
def Manager.told (m : Manager) : List Observation × List Observation := (m.accepted, m.durable)

theorem told_writerAppend (sha256 : String → String) (outcome : Outcome) (late : Bool)
    (m : Manager) : (writerAppend sha256 outcome late m).told = m.told := by
  unfold writerAppend
  split
  · split_ifs <;> rfl
  · dsimp only
    split_ifs <;> rfl
  · rfl

theorem told_writerCancel (sha256 : String → String) (landed : Bool) (m : Manager) :
    (writerCancel sha256 landed m).told = m.told := by
  unfold writerCancel
  split <;> rfl

theorem told_ensureAppend (sha256 : String → String) (o : Observation) (outcome : Outcome)
    (m : Manager) : (ensureAppend sha256 o outcome m).told = m.told := by
  unfold ensureAppend
  by_cases hmem : ⟨o, false⟩ ∈ m.barriers
  · rw [if_pos hmem]
    cases outcome with
    | acknowledged =>
      dsimp only
      split_ifs <;> rfl
    | raised landed => rfl
  · rw [if_neg hmem]

theorem told_step (c : Config) (sha256 : String → String) (instant : Json → Option ℤ) (m : Manager)
    (a : Action) :
    (step c sha256 instant m a).2.told =
      (m.accepted ++ (acceptedBy (a, (step c sha256 instant m a).1)).toList,
        (durableBy (a, (step c sha256 instant m a).1)).toList ++ m.durable) := by
  have hsilent : ∀ m' : Manager, m'.told = m.told → acceptedBy (a, none) = none ∧
      durableBy (a, none) = none →
      m'.told = (m.accepted ++ (acceptedBy (a, none)).toList,
        (durableBy (a, none)).toList ++ m.durable) := by
    rintro m' htold ⟨haccepted, hdurable⟩
    rw [haccepted, hdurable, htold]
    simp [Manager.told]
  cases a with
  | enqueue o =>
    unfold step enqueueEvent
    dsimp only
    by_cases hclosed : ¬ m.accepting ∨ ¬ m.isConnected
    · rw [if_pos hclosed]
      simp [Manager.told, acceptedBy, durableBy]
    by_cases hfull : c.queueCapacity ≤ m.queue.length
    · rw [if_neg hclosed, if_pos hfull]
      simp [Manager.told, acceptedBy, durableBy]
    · rw [if_neg hclosed, if_neg hfull]
      simp [Manager.told, acceptedBy, durableBy]
  | ensure o =>
    unfold step ensureOrderDurable
    dsimp only
    split_ifs <;> simp [Manager.told, acceptedBy, durableBy]
  | ensureReturn o =>
    unfold step
    dsimp only
    split_ifs <;> simp [Manager.told, acceptedBy, durableBy]
  | ensureFail barrier =>
    unfold step
    dsimp only
    split_ifs <;> simp [Manager.told, acceptedBy, durableBy]
  | writerAppend outcome late =>
    exact hsilent _ (told_writerAppend sha256 outcome late m) ⟨rfl, rfl⟩
  | writerCancel landed => exact hsilent _ (told_writerCancel sha256 landed m) ⟨rfl, rfl⟩
  | ensureAppend o outcome => exact hsilent _ (told_ensureAppend sha256 o outcome m) ⟨rfl, rfl⟩
  | writerTake | writerWake =>
    refine hsilent _ ?_ ⟨rfl, rfl⟩
    unfold step
    dsimp only
    split <;> rfl
  | writerLoop | writerTimeout | dispatch | stopBegin | stopJoin | stopCount | stopReturn =>
    refine hsilent _ ?_ ⟨rfl, rfl⟩
    unfold step
    dsimp only
    split_ifs <;> rfl

theorem told_run (c : Config) (sha256 : String → String) (instant : Json → Option ℤ) (m : Manager)
    (actions : List Action) :
    let r := run (step c sha256 instant) m actions
    r.2.accepted = m.accepted ++ (actions.zip r.1).filterMap acceptedBy ∧
      ∀ o, o ∈ r.2.durable ↔ o ∈ m.durable ∨ o ∈ (actions.zip r.1).filterMap durableBy := by
  induction actions generalizing m with
  | nil => simp
  | cons a actions ih =>
    obtain ⟨haccepted, hdurable⟩ := ih (step c sha256 instant m a).2
    obtain ⟨haccepted', hdurable'⟩ := Prod.mk.inj (told_step c sha256 instant m a)
    dsimp only at haccepted hdurable ⊢
    rw [run_cons, List.zip_cons_cons, List.filterMap_cons, List.filterMap_cons]
    constructor
    · rw [haccepted, haccepted', List.append_assoc]
      cases acceptedBy (a, (step c sha256 instant m a).1) <;> rfl
    · intro o
      rw [hdurable, hdurable', List.mem_append]
      cases durableBy (a, (step c sha256 instant m a).1) with
      | none => simp
      | some e =>
        simp only [Option.toList_some, List.mem_cons]
        tauto

theorem inv_run (c : Config) (instant : Json → Option ℤ) (hdistinct : Distinct sha256 events)
    (h : Sound sha256 events s) {actions : List Action}
    (hoffers : ∀ a ∈ actions, ∀ o ∈ a.offers, o ∈ events) :
    Inv sha256 events (run (step c sha256 instant) (started s) actions).2 :=
  run_inv (fun _ a h ha => step_inv hdistinct h a ha) (started_inv h) (admitted_of_forall hoffers)

section

variable (c : Config) (sha256 : String → String) (instant : Json → Option ℤ) (s : Store)
    (actions : List Action)

/-- The manager after the turns of a run. -/
abbrev after : Manager := (run (step c sha256 instant) (started s) actions).2

/-- The events for which `enqueue_*` returned `True` in a run. -/
abbrev acceptedIn : List Observation :=
  (actions.zip (run (step c sha256 instant) (started s) actions).1).filterMap acceptedBy

/-- The events for which `ensure_order_durable` returned `True` in a run. -/
abbrev durableIn : List Observation :=
  (actions.zip (run (step c sha256 instant) (started s) actions).1).filterMap durableBy

/-- What callers may rely on. After `stop`, every accepted event has its row or is counted, and the
count is not below the number of accepted events without a row; nothing is accepted once `stop` has
begun. -/
structure Accounted : Prop where
  kept : (after c sha256 instant s actions).stop = .returned →
    ∀ o ∈ acceptedIn c sha256 instant s actions,
    hasRow (after c sha256 instant s actions).store o = true ∨
    o ∈ (after c sha256 instant s actions).reported
  counted : (after c sha256 instant s actions).unflushedWrites =
    (after c sha256 instant s actions).reported.length
  bounded : (after c sha256 instant s actions).stop = .returned →
    (acceptedIn c sha256 instant s actions).countP
      (fun o => !hasRow (after c sha256 instant s actions).store o) ≤
      (after c sha256 instant s actions).unflushedWrites
  closed : (after c sha256 instant s actions).stop ≠ .running →
    ∀ o, (step c sha256 instant (after c sha256 instant s actions) (.enqueue o)).1 = some false
  durable : ∀ o ∈ durableIn c sha256 instant s actions,
    hasRow (after c sha256 instant s actions).store o = true

end

/-- **No event is lost silently**, whatever the turns of a run are. -/
theorem no_event_lost (c : Config) (instant : Json → Option ℤ) (hdistinct : Distinct sha256 events)
    (hstore : Sound sha256 events s) {actions : List Action}
    (hoffers : ∀ a ∈ actions, ∀ o ∈ a.offers, o ∈ events) :
    Accounted c sha256 instant s actions := by
  have h : Inv sha256 events (after c sha256 instant s actions) :=
    inv_run c instant hdistinct hstore hoffers
  obtain ⟨haccepted, hdurable⟩ := told_run c sha256 instant (started s) actions
  -- after `stop` the writer has nothing in hand, and the queue is counted
  have hstopped : (after c sha256 instant s actions).stop = .returned →
      (acceptedIn c sha256 instant s actions).Perm
        ((after c sha256 instant s actions).written ++
          (after c sha256 instant s actions).reported) := by
    intro hstop
    have hdone := h.joined (by rw [hstop]; decide) (by rw [hstop]; decide)
    have hbalance := h.balance
    rw [hdone, haccepted] at hbalance
    refine hbalance.trans (.of_eq ?_)
    rw [Manager.reported, hstop]
    simp [Writer.hand, Stop.hasCounted]
  refine ⟨?_, h.unflushed, ?_, ?_, ?_⟩
  · intro hstop o ho
    rcases List.mem_append.mp ((hstopped hstop).mem_iff.mp ho) with hwritten | hreported
    · exact .inl (h.written o hwritten)
    · exact .inr hreported
  · intro hstop
    rw [(hstopped hstop).countP_eq, List.countP_append, h.unflushed]
    have hrows : (after c sha256 instant s actions).written.countP
        (fun o => !hasRow (after c sha256 instant s actions).store o) = 0 :=
      List.countP_eq_zero.mpr fun o ho => by simp [h.written o ho]
    rw [hrows, zero_add]
    exact List.countP_le_length
  · intro hstop o
    unfold step enqueueEvent
    dsimp only
    rw [if_pos (.inl (by rw [h.stopping hstop]; exact Bool.false_ne_true))]
  · intro o ho
    exact h.durable o ((hdurable o).mpr (.inr ho))

/-! ### A stop in the middle of an append -/

/-- The writer appends the first event and is cancelled while it appends the second; the third is
still in the queue. The database wrote the row of the second all the same. -/
def interrupted : List Action :=
  [.enqueue (.riskSnapshot 0), .enqueue (.riskSnapshot 1), .enqueue (.riskSnapshot 2),
    .writerLoop, .writerTake, .writerAppend .acknowledged false, .writerLoop, .writerTake,
    .writerAppend (.raised false) false, .writerWake, .stopBegin, .writerCancel true, .stopJoin,
    .stopCount, .stopReturn]

/-- The digests of three keys. -/
def sampleDigests : List (String × String) :=
  [("RISK_SNAPSHOT:portfolio:1970-01-01T00:00:00+00:00",
      "d90b3471196839ca4ee6c93adc2c2e514be4c6e77e8b19c59d3774d029d95af0"),
    ("RISK_SNAPSHOT:portfolio:1970-01-01T00:00:00.000001+00:00",
      "8efad657d5b3bb1e506d687e98f77243a498689f38b22841b8ec49ea97f48678"),
    ("RISK_SNAPSHOT:portfolio:1970-01-01T00:00:00.000002+00:00",
      "cc38aa2322643be0d7dabc48f70f13004ba7aee2f8d9d0767acec33203a3d10e")]

def sampleSha256 (text : String) : String := (sampleDigests.lookup text).getD ""

theorem no_event_lost_interrupted :
    Accounted ⟨256, true⟩ sampleSha256 (fun _ => none) .empty interrupted :=
  no_event_lost ⟨256, true⟩ (fun _ => none)
    (show Distinct sampleSha256 [.riskSnapshot 0, .riskSnapshot 1, .riskSnapshot 2] by
      unfold Distinct
      decide +kernel)
    ⟨keyed_empty, fun r hr => by cases hr⟩ (by decide)

end Blessing.Persistence.WriteQueue
