import Blessing.Lib.DateTime
import Blessing.Lib.Machine
import Blessing.Persistence.Load

/-! # The transactional outbox

The events of `persistence/manager.py` and the outbox of `persistence/postgres/repositories.py`. An
event is appended once per event id and idempotency key; a dispatch claims the oldest event that is
due and applies it in one transaction, so a failure leaves the event pending and the tables as they
were. The times are numbers of microseconds since 1970; `sha256` gives the hexadecimal digits of a
digest. -/

namespace Blessing.Persistence.Outbox

open Blessing.Lib Blessing.Lib.Values Blessing.Lib.Table Blessing.Lib.DateTime
open Blessing.Binance.Models Blessing.Persistence.Tables Blessing.Persistence.Load

/-! ### Events -/

/-- What the ledger's callbacks report, with the instrument rules of its symbol and the time `_utc`
makes of its own time. -/
inductive Observation where
  | order (o : ExecutionOrder) (timestamp : ℤ) (instrument : Instrument)
  | fill (f : ExchangeFill) (timestamp : ℤ) (instrument : Instrument)
  | position (p : ExchangePosition) (timestamp : ℤ) (instrument : Instrument)
  | riskSnapshot (timestamp : ℤ)
  deriving DecidableEq

/-- `isoformat` of a time in UTC: microseconds are printed if there are any. -/
def isoformat (t : ℤ) : String :=
  let n := (t + daysBeforeYear 1970 * microsPerDay).toNat
  let (y, m, d) := ord2ymd (n / microsPerDay)
  let s := n % microsPerDay / microsPerSecond
  let micros := n % microsPerSecond
  String.ofList (digits 4 y ++ '-' :: digits 2 m ++ '-' :: digits 2 d ++
    'T' :: digits 2 (s / 3600) ++
    ':' :: digits 2 (s / 60 % 60) ++ ':' :: digits 2 (s % 60) ++
    (if micros = 0 then [] else '.' :: digits 6 micros) ++ "+00:00".toList)

/-- The venue of a position: that of its source, or that of the instrument if the source is
unknown. -/
def positionVenue (p : ExchangePosition) (instrument : Instrument) : String :=
  let venue := Text.upper (Text.strip p.source)
  if venue = "" ∨ venue = "UNKNOWN" then instrument.venue else venue

namespace Observation

/-- `event_type` -/
def eventType : Observation → String
  | .order .. => "ORDER"
  | .fill .. => "FILL"
  | .position .. => "POSITION"
  | .riskSnapshot .. => "RISK_SNAPSHOT"

/-- `aggregate_id` -/
def aggregateId : Observation → String
  | .order o _ _ => o.clientOrderId.1
  | .fill f _ instrument => fillIdentity f instrument
  | .position p _ instrument =>
    positionVenue p instrument ++ ":" ++ Text.upper p.symbol ++ ":" ++ p.positionSide.value
  | .riskSnapshot _ => "portfolio"

/-- `created_at` -/
def createdAt : Observation → ℤ
  | .order _ t _ | .fill _ t _ | .position _ t _ | .riskSnapshot t => t

/-- `idempotency_key`: a fill has one event, the others one for each time. -/
def idempotencyKey (o : Observation) : String :=
  match o with
  | .order x _ _ => o.aggregateId ++ ":" ++ x.status ++ ":" ++ isoformat o.createdAt
  | .fill .. => o.aggregateId
  | .position .. | .riskSnapshot .. => o.aggregateId ++ ":" ++ isoformat o.createdAt

end Observation

/-- `_event_id` -/
def eventId (sha256 : String → String) (eventType idempotencyKey : String) : String :=
  eventType ++ "-" ++
    String.ofList ((sha256 (eventType ++ ":" ++ idempotencyKey)).toList.take 32)

/-- A row of `persistence_outbox`. A claim is never seen outside its transaction. -/
structure OutboxRow where
  observation : Observation
  eventId : String
  processed : Bool
  attemptCount : ℕ
  nextAttemptAt : ℤ
  deriving DecidableEq

/-- The database. -/
structure Store where
  outbox : List OutboxRow
  tables : Database
  deriving DecidableEq

/-- A new database. -/
def Store.empty : Store := ⟨[], .empty⟩

/-! ### Operations -/

section

variable (sha256 : String → String) (instant : Json → Option ℤ)

/-- The event is there already: `ON CONFLICT DO NOTHING` on either key. -/
def conflicts (o : Observation) (r : OutboxRow) : Bool :=
  r.eventId == eventId sha256 o.eventType o.idempotencyKey ||
    (r.observation.eventType == o.eventType && r.observation.idempotencyKey == o.idempotencyKey)

/-- The keys fit their columns; otherwise the insertion raises. -/
def Fits (o : Observation) : Prop := o.idempotencyKey.length ≤ 256 ∧ o.aggregateId.length ≤ 256

instance (o : Observation) : Decidable (Fits o) := inferInstanceAs (Decidable (_ ∧ _))

/-- `append_outbox` -/
def appendOutbox (o : Observation) (s : Store) : Store :=
  if Fits o ∧ ¬ s.outbox.any (conflicts sha256 o) then
    { s with
      outbox := s.outbox ++ [{
        observation := o
        eventId := eventId sha256 o.eventType o.idempotencyKey
        processed := false
        attemptCount := 0
        nextAttemptAt := o.createdAt }] }
  else s

/-- `_apply_event`. The table of the risk snapshots is left out. -/
def applyEvent (o : Observation) (t : Database) : Except Failure Database :=
  match o with
  | .order order timestamp instrument => saveOrder order timestamp instrument t
  | .fill f _ instrument => saveFill sha256 instant f instrument t
  | .position p _ instrument => savePosition instant p instrument t
  | .riskSnapshot _ => .ok t

/-- The event a dispatch claims: the oldest one that is due. -/
def claim (now : ℤ) (outbox : List OutboxRow) : Option OutboxRow :=
  ((outbox.filter fun r => !r.processed && r.nextAttemptAt ≤ now).insertionSort
    (ByTime (fun r => r.observation.createdAt) OutboxRow.eventId)).head?

/-- The mark of a processed event. -/
def markProcessed (r : OutboxRow) : OutboxRow :=
  { r with processed := true, attemptCount := r.attemptCount + 1 }

/-- The delay before the next attempt, in microseconds. -/
def retryDelay (attemptCount : ℕ) : ℤ := 1000000 * min 300 (max 1 (2 ^ attemptCount))

/-- `_mark_retry` of an event. -/
def markRetry (now : ℤ) (r : OutboxRow) : OutboxRow :=
  { r with attemptCount := r.attemptCount + 1, nextAttemptAt := now + retryDelay r.attemptCount }

/-- A change of the row with an event id. -/
def setRow (id : String) (f : OutboxRow → OutboxRow) (outbox : List OutboxRow) : List OutboxRow :=
  update (fun r => r.eventId == id) f outbox

/-- `dispatch_one`. A fault of the database fails the transaction; the time of `_mark_retry` is
missing where that statement fails too. The answer tells whether an event was processed, if the call
returns. -/
def dispatchOne (now : ℤ) (fault : Bool) (retryAt : Option ℤ) (s : Store) : Option Bool × Store :=
  match claim now s.outbox with
  | none => (if fault then none else some false, s)
  | some row =>
    match if fault then none else (applyEvent sha256 instant row.observation s.tables).toOption with
    | some tables => (some true, { outbox := setRow row.eventId markProcessed s.outbox, tables })
    | none =>
      match retryAt with
      | some t => (none, { s with outbox := setRow row.eventId (markRetry t) s.outbox })
      | none => (none, s)

/-- What happens to the database. -/
inductive Input where
  | append (o : Observation)
  | dispatch (now : ℤ) (fault : Bool) (retryAt : Option ℤ)

/-- One step. -/
def step (s : Store) : Input → Option Bool × Store
  | .append o => (if Fits o then some true else none, appendOutbox sha256 o s)
  | .dispatch now fault retryAt => dispatchOne sha256 instant now fault retryAt s

end

/-! ### What a step does -/

variable {sha256 : String → String} {instant : Json → Option ℤ} {s : Store}

/-- The event ids are those of the observations, and there is one row for each. -/
structure Keyed (sha256 : String → String) (s : Store) : Prop where
  ids : ∀ r ∈ s.outbox, r.eventId =
    eventId sha256 r.observation.eventType r.observation.idempotencyKey
  nodup : (s.outbox.map OutboxRow.eventId).Nodup

/-- What a row says apart from its attempts. -/
def OutboxRow.core (r : OutboxRow) : Observation × String × Bool :=
  (r.observation, r.eventId, r.processed)

theorem mem_claim {now : ℤ} {outbox : List OutboxRow} {row : OutboxRow}
    (h : claim now outbox = some row) : row ∈ outbox ∧ row.processed = false := by
  have hmem := List.mem_of_head? h
  rw [List.mem_insertionSort, List.mem_filter] at hmem
  exact ⟨hmem.1, by simpa using (Bool.and_eq_true_iff.mp hmem.2).1⟩

/-- An append that is accepted adds a pending row. -/
theorem append_cases (sha256 : String → String) (o : Observation) (s : Store) :
    appendOutbox sha256 o s = s ∨
    (∀ r ∈ s.outbox, conflicts sha256 o r = false) ∧ Fits o ∧
      appendOutbox sha256 o s = { s with
        outbox := s.outbox ++
          [⟨o, eventId sha256 o.eventType o.idempotencyKey, false, 0, o.createdAt⟩] } := by
  unfold appendOutbox
  split_ifs with h
  · exact .inr ⟨by simpa using h.2, h.1, rfl⟩
  · exact .inl rfl

theorem setRow_middle {pre post : List OutboxRow} {row : OutboxRow} {f : OutboxRow → OutboxRow}
    (hn : ((pre ++ row :: post).map OutboxRow.eventId).Nodup) :
    setRow row.eventId f (pre ++ row :: post) = pre ++ f row :: post := by
  rw [List.map_append, List.map_cons, List.nodup_append, List.nodup_cons] at hn
  obtain ⟨-, ⟨hpost, -⟩, hpre⟩ := hn
  have hkeep : ∀ rows : List OutboxRow, (∀ r ∈ rows, r.eventId ≠ row.eventId) →
      rows.map (fun r => if r.eventId == row.eventId then f r else r) = rows := by
    intro rows hrows
    conv_rhs => rw [← List.map_id rows]
    exact List.map_congr_left fun r hr => if_neg (by simpa using hrows r hr)
  rw [setRow, update, List.map_append, List.map_cons,
    hkeep pre fun r hr => hpre _ (List.mem_map_of_mem hr) _ (by simp),
    hkeep post fun r hr h => hpost (h ▸ List.mem_map_of_mem hr)]
  simp

/-- A dispatch processes one pending event, or it changes attempts only. -/
theorem dispatch_cases (instant : Json → Option ℤ) (hk : Keyed sha256 s) (now : ℤ) (fault : Bool)
    (retryAt : Option ℤ) :
    let s' := (dispatchOne sha256 instant now fault retryAt s).2
    (s'.tables = s.tables ∧ s'.outbox.map OutboxRow.core = s.outbox.map OutboxRow.core) ∨
      ∃ pre row post tables, s.outbox = pre ++ row :: post ∧ row.processed = false ∧
        claim now s.outbox = some row ∧ applyEvent sha256 instant row.observation s.tables =
        .ok tables ∧
        s' = ⟨pre ++ markProcessed row :: post, tables⟩ := by
  unfold dispatchOne
  cases hclaim : claim now s.outbox with
  | none => exact .inl ⟨rfl, rfl⟩
  | some row =>
    obtain ⟨hmem, hpending⟩ := mem_claim hclaim
    obtain ⟨pre, post, hsplit⟩ := List.append_of_mem hmem
    have hmiddle : ∀ f, setRow row.eventId f s.outbox = pre ++ f row :: post := fun f => by
      rw [hsplit, setRow_middle (hsplit ▸ hk.nodup)]
    have hretry : ∀ t, (setRow row.eventId (markRetry t) s.outbox).map OutboxRow.core =
        s.outbox.map OutboxRow.core := fun t => by
      rw [hmiddle, hsplit]
      simp [OutboxRow.core, markRetry]
    have hfailed : ∀ r : Option ℤ, let s' := (match r with
        | some t => (none, { s with outbox := setRow row.eventId (markRetry t) s.outbox })
        | none => (none, s) : Option Bool × Store).2
        s'.tables = s.tables ∧ s'.outbox.map OutboxRow.core = s.outbox.map OutboxRow.core := by
      intro r
      cases r with
      | none => exact ⟨rfl, rfl⟩
      | some t => exact ⟨rfl, hretry t⟩
    cases fault with
    | true => exact .inl (hfailed retryAt)
    | false =>
      cases happly : applyEvent sha256 instant row.observation s.tables with
      | error e =>
        simp only [Bool.false_eq_true, if_false, happly, Except.toOption]
        exact .inl (hfailed retryAt)
      | ok tables =>
        simp only [Bool.false_eq_true, if_false, happly, Except.toOption]
        exact .inr ⟨pre, row, post, tables, hsplit, hpending, rfl, happly, by rw [hmiddle]⟩

theorem keyed_empty : Keyed sha256 .empty := ⟨by simp [Store.empty], by simp [Store.empty]⟩

theorem Keyed.of_core {s' : Store} (hk : Keyed sha256 s)
    (h : s'.outbox.map OutboxRow.core = s.outbox.map OutboxRow.core) : Keyed sha256 s' := by
  have hids : ∀ rows : List OutboxRow,
      rows.map OutboxRow.eventId = (rows.map OutboxRow.core).map fun c => c.2.1 := fun rows => by
    simp [OutboxRow.core]
  refine ⟨fun r hr => ?_, by rw [hids, h, ← hids]; exact hk.nodup⟩
  have hcore : r.core ∈ s.outbox.map OutboxRow.core := h ▸ List.mem_map_of_mem hr
  obtain ⟨r', hr', he⟩ := List.mem_map.mp hcore
  simp only [OutboxRow.core, Prod.mk.injEq] at he
  rw [← he.1, ← he.2.1]
  exact hk.ids r' hr'

theorem keyed_step (instant : Json → Option ℤ) (hk : Keyed sha256 s) (i : Input) :
    Keyed sha256 (step sha256 instant s i).2 := by
  cases i with
  | append o =>
    change Keyed sha256 (appendOutbox sha256 o s)
    obtain hsame | ⟨hnew, -, happ⟩ := append_cases sha256 o s
    · rw [hsame]
      exact hk
    · rw [happ]
      refine ⟨fun r hr => ?_, ?_⟩
      · obtain hr | hr := List.mem_append.mp hr
        · exact hk.ids r hr
        · rw [List.mem_singleton.mp hr]
      · rw [List.map_append, List.nodup_append]
        refine ⟨hk.nodup, by simp, ?_⟩
        intro id hid id' hid' he
        obtain ⟨r, hr, rfl⟩ := List.mem_map.mp hid
        have hno := hnew r hr
        simp only [conflicts, Bool.or_eq_false_iff, beq_eq_false_iff_ne] at hno
        exact hno.1 (he.trans (by simpa using hid'))
  | dispatch now fault retryAt =>
    change Keyed sha256 (dispatchOne sha256 instant now fault retryAt s).2
    obtain ⟨-, hcore⟩ | ⟨pre, row, post, tables, hsplit, -, -, -, hs'⟩ :=
      dispatch_cases instant hk now fault retryAt
    · exact hk.of_core hcore
    · rw [hs']
      have hrows : ∀ r ∈ pre ++ row :: post, r.eventId =
          eventId sha256 r.observation.eventType r.observation.idempotencyKey := hsplit ▸ hk.ids
      refine ⟨fun r hr => ?_, ?_⟩
      · simp only [List.mem_append, List.mem_cons] at hr
        obtain hr | rfl | hr := hr
        · exact hrows r (by simp [hr])
        · exact hrows row (by simp)
        · exact hrows r (by simp [hr])
      · have hn := hk.nodup
        rw [hsplit] at hn
        simpa [markProcessed] using hn

end Blessing.Persistence.Outbox
