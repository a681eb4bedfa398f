import Blessing.Persistence.Latest

/-! # Stale rows

The rows of `orders` and `positions` as targets of the outbox. A failed attempt re-queues its event
with a delay while later events stay due, and the row ends with the older observation. -/

namespace Blessing.Persistence.StaleRows

open Blessing.Lib Blessing.Lib.Values Blessing.Lib.Table Blessing.Lib.Machine Blessing.Lib.Effects
open Blessing.Binance.Models
open Blessing.Persistence.Tables Blessing.Persistence.Columns Blessing.Persistence.Outbox
open Blessing.Persistence.Latest

variable {sha256 : String → String} {instant : Json → Option ℤ}

theorem ensureInstrument_ok {instrument : Instrument} {t t' : Database}
    (h : ensureInstrument instrument t = .ok t') :
    t'.orders = t.orders ∧ t'.fills = t.fills ∧ t'.positions = t.positions := by
  unfold ensureInstrument at h
  simp only [except_guard_ok] at h
  obtain ⟨-, -, h⟩ := h
  cases h
  exact ⟨rfl, rfl, rfl⟩

/-! ### Orders -/

/-- What an order row says. -/
structure OrderContent where
  status : String
  exchangeOrderId : Option String
  price : Option ℚ
  quantity : ℚ
  positionSide : String
  deriving DecidableEq

def orderContentOfRow (r : OrderRow) : OrderContent where
  status := r.status
  exchangeOrderId := r.exchangeOrderId
  price := r.price.map Decimal.toRat
  quantity := r.quantity.toRat
  positionSide := r.positionSide

/-- What an order says. -/
def orderContent (o : ExecutionOrder) : OrderContent where
  status := o.status
  exchangeOrderId := o.exchangeOrderId
  price := some o.price.toRat
  quantity := o.quantity.toRat
  positionSide := o.positionSide.value

/-- What the columns keep of it. -/
def orderStored (o : ExecutionOrder) : OrderContent where
  status := cut 24 o.status
  exchangeOrderId := o.exchangeOrderId.map (cut 64)
  price := some (rounded o.price).toRat
  quantity := (rounded o.quantity).toRat
  positionSide := o.positionSide.value

/-- The columns can hold what an order says. -/
def OrderFits (o : ExecutionOrder) : Prop :=
  o.status.length ≤ 24 ∧ (∀ id ∈ o.exchangeOrderId, id.length ≤ 64) ∧ TenPlaces o.price ∧
    TenPlaces o.quantity

theorem orderStored_eq {o : ExecutionOrder} (h : OrderFits o) : orderStored o = orderContent o := by
  obtain ⟨hs, he, hp, hq⟩ := h
  have hid : o.exchangeOrderId.map (cut 64) = o.exchangeOrderId := by
    cases ho : o.exchangeOrderId with
    | none => rfl
    | some id => rw [Option.map_some, cut_of_le (he id ho)]
  rw [orderStored, orderContent, cut_of_le hs, hid, rounded_of_tenPlaces hp,
    rounded_of_tenPlaces hq]

theorem mapM_varchar {n : ℕ} {column : String} {s t : Option String}
    (h : s.mapM (varchar n column) = .ok t) : t = s.map (cut n) := by
  cases s with
  | none =>
    cases h
    rfl
  | some s =>
    cases hs : varchar n column s with
    | error e =>
      rw [Option.mapM_some, hs] at h
      cases h
    | ok t' =>
      rw [Option.mapM_some, hs] at h
      cases h
      rw [(varchar_ok hs).1]
      rfl

theorem orderRow_ok {o : ExecutionOrder} {timestamp : ℤ} {instrument : Instrument} {row : OrderRow}
    (h : orderRow o timestamp instrument = .ok row) :
    row.clientOrderId = cut 64 o.clientOrderId.1 ∧ orderContentOfRow row = orderStored o := by
  unfold orderRow at h
  simp only [except_bind_ok] at h
  obtain ⟨clientOrderId, hclient, exchangeOrderId, hexchange, symbol, -, venue, -,
      orderType, -, price,
    hprice, quantity, hquantity, status, hstatus, timeInForce, -, h⟩ := h
  cases h
  obtain ⟨rfl, -⟩ := varchar_ok hclient
  obtain ⟨rfl, -⟩ := varchar_ok hstatus
  obtain rfl := amount_ok hprice
  obtain rfl := amount_ok hquantity
  obtain rfl := mapM_varchar hexchange
  exact ⟨rfl, rfl⟩

/-- The row of a client order id. -/
def readOrder (id : String) (t : Database) : Option OrderContent :=
  (lookup OrderRow.clientOrderId id t.orders).map orderContentOfRow

theorem readOrder_upsert (id : String) (row : OrderRow) (t : Database) :
    readOrder id { t with orders := upsertOrderRow row t.orders } =
      if row.clientOrderId = id then some (orderContentOfRow row) else readOrder id t := by
  unfold readOrder upsertOrderRow
  cases hl : lookup OrderRow.clientOrderId row.clientOrderId t.orders with
  | none =>
    simp only [lookup_append, lookup_cons]
    by_cases hid : row.clientOrderId = id
    · subst hid
      simp [hl]
    · simp [hid, lookup]
  | some r =>
    simp only
    rw [lookup_update_key fun _ => beq_iff_eq]
    · by_cases hid : row.clientOrderId = id
      · subst hid
        simp [hl, orderContentOfRow]
      · simp [hid]
    · exact fun _ => rfl

/-- The orders of a client order id, as the column holds it. -/
def orderFamily (id : String) : Observation → Bool
  | .order o _ _ => cut 64 o.clientOrderId.1 == id
  | _ => false

theorem saveOrder_ok {o : ExecutionOrder} {timestamp : ℤ} {instrument : Instrument}
    {t t' : Database} (h : saveOrder o timestamp instrument t = .ok t') :
    ∃ (row : OrderRow) (t₁ : Database),
      orderRow o timestamp instrument = .ok row ∧ t₁.orders = t.orders ∧
        t' = { t₁ with orders := upsertOrderRow row t₁.orders } := by
  unfold saveOrder at h
  simp only [except_bind_ok] at h
  obtain ⟨t₁, hinstrument, row, hrow, -, -, h⟩ := h
  cases h
  exact ⟨row, t₁, hrow, (ensureInstrument_ok hinstrument).1, rfl⟩

theorem orders_applyEvent {o : Observation} {t t' : Database}
    (ho : ∀ x timestamp instrument, o ≠ .order x timestamp instrument)
    (h : applyEvent sha256 instant o t = .ok t') : t'.orders = t.orders := by
  cases o with
  | order x timestamp instrument => exact absurd rfl (ho x timestamp instrument)
  | fill f timestamp instrument =>
    unfold applyEvent saveFill at h
    simp only [except_bind_ok] at h
    obtain ⟨t₁, hinstrument, row, -, fills, -, -, -, -, -, h⟩ := h
    cases h
    exact (ensureInstrument_ok hinstrument).1
  | position p timestamp instrument =>
    unfold applyEvent savePosition at h
    simp only [except_bind_ok] at h
    obtain ⟨t₁, hinstrument, row, -, -, -, h⟩ := h
    cases h
    exact (ensureInstrument_ok hinstrument).1
  | riskSnapshot timestamp =>
    cases h
    rfl

/-- The row of a client order id as a target of the outbox. -/
def orderTarget (sha256 : String → String) (instant : Json → Option ℤ) (id : String) :
    Target sha256 instant OrderContent where
  family := orderFamily id
  read := readOrder id
  said
    | .order o _ _ => orderContent o
    | _ => ⟨"", none, none, 0, ""⟩
  stored
    | .order o _ _ => orderStored o
    | _ => ⟨"", none, none, 0, ""⟩
  Representable
    | .order o _ _ => OrderFits o
    | _ => True
  start := rfl
  keeps o h := by
    cases o with
    | order o _ _ => exact orderStored_eq h
    | _ => rfl
  write o t t' hf h := by
    cases o with
    | order o timestamp instrument =>
      obtain ⟨row, t₁, hrow, -, rfl⟩ := saveOrder_ok h
      obtain ⟨hid, hcontent⟩ := orderRow_ok hrow
      rw [readOrder_upsert, if_pos (hid.trans (beq_iff_eq.mp hf)), hcontent]
    | _ => cases hf
  frame o t t' hf h := by
    cases o with
    | order o timestamp instrument =>
      obtain ⟨row, t₁, hrow, horders, rfl⟩ := saveOrder_ok h
      have hid : row.clientOrderId ≠ id := by
        rw [(orderRow_ok hrow).1]
        simpa [orderFamily] using hf
      rw [readOrder_upsert, if_neg hid, readOrder, readOrder, horders]
    | _ => rw [readOrder, readOrder, orders_applyEvent (by simp) h]

/-! ### Positions -/

/-- What a position row says. -/
structure PositionContent where
  quantity : ℚ
  entryPrice : ℚ
  markPrice : ℚ
  deriving DecidableEq

def positionContentOfRow (r : PositionRow) : PositionContent :=
  ⟨r.quantity.toRat, r.entryPrice.toRat, r.markPrice.toRat⟩

/-- What a position says. A mark price that is not known is stored as zero. -/
def positionContent (p : ExchangePosition) : PositionContent :=
  ⟨p.quantity.toRat, p.entryPrice.toRat, (p.markPrice.map Decimal.toRat).getD 0⟩

/-- What the columns keep of it. -/
def positionStored (p : ExchangePosition) : PositionContent :=
  ⟨(rounded p.quantity).toRat, (rounded p.entryPrice).toRat, (rounded (markPriceOf p)).toRat⟩

/-- The columns can hold what a position says. -/
def PositionFits (p : ExchangePosition) : Prop :=
  TenPlaces p.quantity ∧ TenPlaces p.entryPrice ∧ ∀ d ∈ p.markPrice, TenPlaces d

theorem toRat_markPriceOf (p : ExchangePosition) :
    (markPriceOf p).toRat = (p.markPrice.map Decimal.toRat).getD 0 := by
  unfold markPriceOf
  cases p.markPrice with
  | none => rfl
  | some d =>
    simp only [Option.map_some, Option.getD_some]
    split_ifs with hz
    · rw [Decimal.toRat_eq, Decimal.toRat_eq, beq_iff_eq.mp hz]
      simp [Decimal.ofNat]
    · rfl

theorem positionStored_eq {p : ExchangePosition} (h : PositionFits p) :
    positionStored p = positionContent p := by
  obtain ⟨hq, he, hm⟩ := h
  have hmark : TenPlaces (markPriceOf p) := by
    rw [TenPlaces, toRat_markPriceOf]
    cases hp : p.markPrice with
    | none => simp
    | some d => exact hm d hp
  rw [positionStored, positionContent, rounded_of_tenPlaces hq, rounded_of_tenPlaces he,
    rounded_of_tenPlaces hmark, toRat_markPriceOf]

/-- The row of a position: its venue, symbol and side, as the columns hold them. -/
def positionKey (p : ExchangePosition) (instrument : Instrument) :
    String × Option String × String :=
  (cut 32 instrument.venue, some (cut 32 p.symbol), p.positionSide.value)

theorem positionRow_ok {p : ExchangePosition} {instrument : Instrument} {row : PositionRow}
    (h : positionRow instant p instrument = .ok row) :
    row.target = positionKey p instrument ∧ positionContentOfRow row = positionStored p := by
  unfold positionRow at h
  simp only [except_bind_ok] at h
  obtain ⟨venue, hvenue, symbol, hsymbol, quantity, hquantity, entryPrice, hentry,
      markPrice, hmark, _, -,
    _, -, _, -, _, -, _, -, h⟩ := h
  cases h
  obtain ⟨rfl, -⟩ := varchar_ok hvenue
  obtain ⟨rfl, -⟩ := varchar_ok hsymbol
  obtain rfl := amount_ok hquantity
  obtain rfl := amount_ok hentry
  obtain rfl := amount_ok hmark
  exact ⟨rfl, rfl⟩

/-- The row of a key. -/
def readPosition (key : String × Option String × String) (t : Database) : Option PositionContent :=
  (lookup PositionRow.target key t.positions).map positionContentOfRow

theorem readPosition_upsert (key : String × Option String × String) (row : PositionRow)
    (t : Database) : readPosition key { t with positions := upsertPositionRow row t.positions } =
      if row.target = key then some (positionContentOfRow row) else readPosition key t := by
  unfold readPosition upsertPositionRow
  cases hl : lookup PositionRow.target row.target t.positions with
  | none =>
    simp only [lookup_append, lookup_cons]
    by_cases hid : row.target = key
    · subst hid
      simp [hl]
    · simp [hid, lookup]
  | some r =>
    simp only
    rw [lookup_update_key fun _ => beq_iff_eq]
    · by_cases hid : row.target = key
      · subst hid
        simp [hl, positionContentOfRow]
      · simp [hid]
    · exact fun _ => rfl

/-- The positions of a row. -/
def positionFamily (key : String × Option String × String) : Observation → Bool
  | .position p _ instrument => positionKey p instrument == key
  | _ => false

theorem savePosition_ok {p : ExchangePosition} {instrument : Instrument} {t t' : Database}
    (h : savePosition instant p instrument t = .ok t') : ∃ (row : PositionRow) (t₁ : Database),
      positionRow instant p instrument = .ok row ∧ t₁.positions = t.positions ∧
        t' = { t₁ with positions := upsertPositionRow row t₁.positions } := by
  unfold savePosition at h
  simp only [except_bind_ok] at h
  obtain ⟨t₁, hinstrument, row, hrow, -, -, h⟩ := h
  cases h
  exact ⟨row, t₁, hrow, (ensureInstrument_ok hinstrument).2.2, rfl⟩

theorem positions_applyEvent {o : Observation} {t t' : Database}
    (ho : ∀ p timestamp instrument, o ≠ .position p timestamp instrument)
    (h : applyEvent sha256 instant o t = .ok t') : t'.positions = t.positions := by
  cases o with
  | order x timestamp instrument =>
    unfold applyEvent saveOrder at h
    simp only [except_bind_ok] at h
    obtain ⟨t₁, hinstrument, row, -, -, -, h⟩ := h
    cases h
    exact (ensureInstrument_ok hinstrument).2.2
  | fill f timestamp instrument =>
    unfold applyEvent saveFill at h
    simp only [except_bind_ok] at h
    obtain ⟨t₁, hinstrument, row, -, fills, -, -, -, -, -, h⟩ := h
    cases h
    exact (ensureInstrument_ok hinstrument).2.2
  | position p timestamp instrument => exact absurd rfl (ho p timestamp instrument)
  | riskSnapshot timestamp =>
    cases h
    rfl

/-- The row of a position as a target of the outbox. -/
def positionTarget (sha256 : String → String) (instant : Json → Option ℤ)
    (key : String × Option String × String) : Target sha256 instant PositionContent where
  family := positionFamily key
  read := readPosition key
  said
    | .position p _ _ => positionContent p
    | _ => ⟨0, 0, 0⟩
  stored
    | .position p _ _ => positionStored p
    | _ => ⟨0, 0, 0⟩
  Representable
    | .position p _ _ => PositionFits p
    | _ => True
  start := rfl
  keeps o h := by
    cases o with
    | position p _ _ => exact positionStored_eq h
    | _ => rfl
  write o t t' hf h := by
    cases o with
    | position p timestamp instrument =>
      obtain ⟨row, t₁, hrow, -, rfl⟩ := savePosition_ok h
      obtain ⟨hkey, hcontent⟩ := positionRow_ok hrow
      rw [readPosition_upsert, if_pos (hkey.trans (beq_iff_eq.mp hf)), hcontent]
    | _ => cases hf
  frame o t t' hf h := by
    cases o with
    | position p timestamp instrument =>
      obtain ⟨row, t₁, hrow, hpositions, rfl⟩ := savePosition_ok h
      have hkey : row.target ≠ key := by
        rw [(positionRow_ok hrow).1]
        simpa [positionFamily] using hf
      rw [readPosition_upsert, if_neg hkey, readPosition, readPosition, hpositions]
    | _ => rw [readPosition, readPosition, positions_applyEvent (by simp) h]

/-! ### The latest observation -/

/-- **The outbox**: in every run in which each event of a row is applied after those appended before
it, no event is dropped for the key of another observation and the columns can hold what is said,
once the events of the row are processed the order row and the position row say what the last
observation said. -/
theorem outbox_leaves_latest (sha256 : String → String) (instant : Json → Option ℤ)
    (is : List Input) :
    (∀ id, Admitted (step sha256 instant) (orderTarget sha256 instant id).InOrder .empty is →
      (∀ e ∈ (orderTarget sha256 instant id).events (run (step sha256 instant) .empty is).2,
        e.2 = true) →
      ∀ o timestamp instrument,
        (orderTarget sha256 instant id).latest is = some (.order o timestamp instrument) →
          readOrder id (run (step sha256 instant) .empty is).2.tables = some (orderContent o)) ∧
      ∀ key, Admitted (step sha256 instant) (positionTarget sha256 instant key).InOrder .empty is →
        (∀ e ∈ (positionTarget sha256 instant key).events (run (step sha256 instant) .empty is).2,
          e.2 = true) →
        ∀ p timestamp instrument,
          (positionTarget sha256 instant key).latest is = some (.position p timestamp instrument) →
            readPosition key (run (step sha256 instant) .empty is).2.tables =
              some (positionContent p) := by
  refine ⟨fun id h hdone o timestamp instrument ho => ?_,
    fun key h hdone p timestamp instrument hp => ?_⟩
  · exact (orderTarget sha256 instant id).row_is_latest h hdone ho
  · exact (positionTarget sha256 instant key).row_is_latest h hdone hp

/-- The digests of the texts below. -/
def digests : List (String × String) := [
    ("ORDER:BAI-1:NEW:2023-11-14T22:13:20+00:00",
      "aa59c92833bb2809d07a6db7da8aa742d77804e4c52c0ea57967ab884d867d23"),
    ("ORDER:BAI-1:FILLED:2023-11-14T22:13:21+00:00",
      "beb396cfc5786e901ce24c3e07366bf3f052efeb2964c423a18d3060210bfed8"),
    ("POSITION:BINANCE_MAINNET:ETHUSDC:BOTH:2023-11-14T22:13:20+00:00",
      "18173872d984c8ffac6b95749e68866bea9e6e0bf63ed1843c9ada4c4d0b65c2")]

def digest (s : String) : String := ((digests.find? fun e => e.1 == s).map Prod.snd).getD s

/-- The rules of the symbol. -/
def rules : Instrument where
  symbol := "ETHUSDC"
  venue := "BINANCE_MAINNET"
  tickSize := ⟨false, 1, -2⟩
  stepSize := ⟨false, 1, -3⟩
  minNotional := Decimal.ofNat 20

theorem orderId_ne : "BAI-1" ≠ "" := by decide

/-- An observation of one order. -/
def observed (status : String) (timestamp : ℤ) : Observation :=
  .order {
    symbol := "ETHUSDC"
    side := .buy
    quantity := ⟨false, 25, -2⟩
    price := Decimal.ofNat 2000
    clientOrderId := ⟨"BAI-1", orderId_ne⟩
    status
    exchangeOrderId := some "7" } timestamp rules

instance (o : ExecutionOrder) : Decidable (OrderFits o) :=
  inferInstanceAs (Decidable (_ ∧ _ ∧ _ ∧ _))

instance (id : String) : DecidablePred (orderTarget digest (fun _ => none) id).Representable
  | .order o _ _ => inferInstanceAs (Decidable (OrderFits o))
  | .fill .. | .position .. | .riskSnapshot .. => .isTrue trivial

example : (orderTarget digest (fun _ => none) "BAI-1").latest
    [.append (observed "NEW" 1700000000000000)] =
    some (observed "NEW" 1700000000000000) := by decide +kernel

/-- A failed attempt that is retried before the next observation. -/
def retriedFirst : List Input :=
  [.append (observed "NEW" 1700000000000000),
    .dispatch 1700000000500000 true (some 1700000000500000),
    .dispatch 1700000010000000 false none,
    .append (observed "FILLED" 1700000001000000),
    .dispatch 1700000011000000 false none]

/-- A failed attempt that is retried after the next observation is applied. -/
def overtaken : List Input :=
  [.append (observed "NEW" 1700000000000000),
    .append (observed "FILLED" 1700000001000000),
    .dispatch 1700000002000000 true (some 1700000002000000),
    .dispatch 1700000002500000 false none,
    .dispatch 1700000010000000 false none]

/-- The row of the retried order is filled. -/
theorem outbox_leaves_latest_retried :
    (readOrder "BAI-1" (run (step digest fun _ => none) .empty retriedFirst).2.tables).map
      OrderContent.status = some "FILLED" := by
  have h := (outbox_leaves_latest digest (fun _ => none) retriedFirst).1 "BAI-1" (by decide +kernel)
    (by decide +kernel) _ _ _ (by rfl)
  rw [h]
  rfl

/-- The row of the overtaken order is new again. -/
theorem overtaken_row_is_stale :
    (∀ r ∈ (run (step digest fun _ => none) .empty overtaken).2.outbox, r.processed = true) ∧
      (orderTarget digest (fun _ => none) "BAI-1").latest overtaken =
        some (observed "FILLED" 1700000001000000) ∧
      (readOrder "BAI-1" (run (step digest fun _ => none) .empty overtaken).2.tables).map
        OrderContent.status = some "NEW" := by
  decide +kernel

end Blessing.Persistence.StaleRows
