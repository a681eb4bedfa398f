import Blessing.Binance.Ledger
import Blessing.Persistence.Tables
import Mathlib.Data.List.Sort
import Mathlib.Data.String.Basic

/-! # Loading the ledger

`PostgresExecutionLedger.load` of `persistence/postgres/ledger.py`. The loaded times are carried as
the texts of their microseconds. A load that raises gives the message. -/

namespace Blessing.Persistence.Load

open Blessing.Lib Blessing.Lib.Values
open Blessing.Binance.Models Blessing.Binance.Ledger Blessing.Persistence.Tables

/-! ### Columns -/

/-- `_required_text` -/
def requiredText (value : Option String) (name : String) : Except String String :=
  match value with
  | none => .error ("durable ledger row is missing " ++ name)
  | some s =>
    if Text.strip s = "" then .error ("durable ledger row is missing " ++ name)
    else .ok (Text.strip s)

/-- `_enum_text`; only `NULL` and the empty text are missing. -/
def enumText (value : Option String) (name : String) : Except String String :=
  match value with
  | none => .error ("durable ledger row is missing " ++ name)
  | some s =>
    if s = "" then .error ("durable ledger row is missing " ++ name)
    else .ok (Text.upper (Text.strip s))

/-- A member of an enumeration. -/
def member {E : Type} (value : Option E) (message : String) : Except String E :=
  match value with
  | some e => .ok e
  | none => .error message

/-- `_parse_time_in_force` -/
def parseTimeInForce (value : String) : Except String TimeInForce :=
  if value = "GTX" then .ok .postOnly
  else member (TimeInForce.ofValue value)
    ("durable ledger row has unsupported time_in_force: " ++ value)

/-- `_parse_position_side` -/
def parsePositionSide (value : String) : Except String PositionSide :=
  member (PositionSide.ofValue value)
    ("durable ledger row has unsupported position_side: " ++ value)

/-- The value of a time column in a record. -/
def timestamp (t : ℤ) : Json := .str (toString t)

/-- `_check_scope` -/
def checkScope (rowSymbol : Option String) (rowVenue symbol venue : String) :
    Except String Unit := do
  let rowSymbol ← requiredText rowSymbol "symbol"
  let rowVenue ← requiredText (some rowVenue) "venue"
  if Text.upper rowSymbol ≠ symbol ∨ Text.upper rowVenue ≠ venue then
    throw "durable ledger row escaped the requested exchange scope"

/-! ### Rows -/

/-- The statuses a durable order may have. -/
def durableStatuses : List String :=
  ["PENDING", "SUBMITTED", "NEW", "PARTIALLY_FILLED", "FILLED", "CANCELLED", "CANCELED", "REJECTED",
    "EXPIRED"]

/-- The price of a durable order: only a market order may do without. -/
def durablePrice (orderType : String) (price : Option Decimal) : Except String Decimal :=
  match price with
  | none =>
    if orderType = "MARKET" then .ok (Decimal.ofNat 0)
    else .error "durable ledger row is missing price"
  | some d =>
    if orderType ≠ "MARKET" ∧ !d.isPos then .error "durable non-market order has unusable price"
    else .ok d

/-- `_order_from_row` -/
def orderFromRow (row : OrderRow) (symbol venue : String) : Except String ExecutionOrder := do
  checkScope row.symbol row.venue symbol venue
  let sideText ← enumText (some row.side) "side"
  let side ← member (OrderSide.ofValue sideText)
      ("durable order has unsupported side: " ++ sideText)
  let orderType ← enumText (some row.orderType) "order_type"
  let price ← durablePrice orderType row.price
  if !row.quantity.isPos then throw "durable order has unusable quantity"
  let status ← Text.upper <$> requiredText (some row.status) "status"
  if !durableStatuses.contains status then
    throw ("durable order has unsupported status: " ++ status)
  let clientOrderId ← requiredText (some row.clientOrderId) "client_order_id"
  let positionSide ← enumText (some row.positionSide) "position_side" >>= parsePositionSide
  let timeInForce ← enumText row.timeInForce "time_in_force" >>= parseTimeInForce
  if h : clientOrderId ≠ "" then
    return {
      symbol, side, quantity := row.quantity, price, orderType, clientOrderId := ⟨clientOrderId, h⟩,
      status, exchangeOrderId :=
    (row.exchangeOrderId.filter (· != "")).map Text.strip, positionSide,
      reduceOnly := false, timeInForce, riskClass := .noop }
  else throw "durable ledger row is missing client_order_id"

/-- `_fill_from_row` -/
def fillFromRow (row : FillRow) (symbol venue : String) : Except String ExchangeFill := do
  checkScope row.symbol row.venue symbol venue
  let sideText ← enumText (some row.side) "side"
  let side ← member (OrderSide.ofValue sideText) "durable fill has unsupported side"
  if !row.quantity.isPos || !row.price.isPos then
    throw "durable fill has unusable quantity or price"
  if row.fee.isNeg then throw "durable fill has unusable fee"
  let exchangeTradeId ← requiredText (some row.exchangeTradeId) "exchange_trade_id"
  let exchangeOrderId ← requiredText row.exchangeOrderId "exchange_order_id"
  let clientOrderId ← requiredText row.clientOrderId "client_order_id"
  let positionSide ← enumText (some row.positionSide) "position_side" >>= parsePositionSide
  let commissionAsset ← requiredText (some row.feeAsset) "fee_asset"
  let maker ← member row.isMaker "durable ledger row has invalid is_maker"
  return {
    exchangeTradeId, exchangeOrderId, clientOrderId, symbol, side, positionSide,
    quantity := row.quantity, price := row.price, commission := row.fee, commissionAsset,
    realizedPnl := Decimal.ofNat 0, maker, eventTime := timestamp row.executedAt,
    transactionTime := timestamp row.executedAt, source := venue }

/-- `value or Decimal("0")` -/
def orZero (d : Decimal) : Decimal := if d.isZero then Decimal.ofNat 0 else d

/-- `_position_from_row` -/
def positionFromRow (row : PositionRow) (symbol venue : String) :
    Except String ExchangePosition := do
  checkScope row.symbol row.venue symbol venue
  let quantity := orZero row.quantity
  if !quantity.isZero && !row.markPrice.isPos then
    throw "active durable position has unusable mark_price"
  if !quantity.isZero && (!row.entryPrice.isPos || !row.leverage.isPos) then
    throw "active durable position has incomplete entry or leverage"
  let positionSide ← enumText (some row.positionSide) "position_side" >>= parsePositionSide
  let marginType ← Text.upper <$> requiredText row.marginType "margin_type"
  return {
    symbol, positionSide, quantity, entryPrice := orZero row.entryPrice,
    markPrice := some row.markPrice, unrealizedPnl := orZero row.unrealizedPnl,
    liquidationPrice := row.liquidationPrice, leverage := orZero row.leverage, marginType,
    eventTime := timestamp row.updatedAt, source := venue }

/-! ### Loading -/

/-- `ORDER BY` a time, then a text. -/
def ByTime {R : Type} (time : R → ℤ) (text : R → String) (a b : R) : Prop :=
  time a < time b ∨ time a = time b ∧ text a ≤ text b

instance {R : Type} (time : R → ℤ) (text : R → String) : DecidableRel (ByTime time text) :=
  fun a b => inferInstanceAs (Decidable (time a < time b ∨ time a = time b ∧ text a ≤ text b))

/-- The rows of a scope: `WHERE UPPER(symbol) = $1 AND UPPER(venue) = $2`. -/
def inScope {R : Type} (rowSymbol : R → Option String) (rowVenue : R → String)
    (symbol venue : String) (rows : List R) : List R :=
  rows.filter fun r =>
    (rowSymbol r).map Text.upper == some symbol && Text.upper (rowVenue r) == venue

/-- The selected orders. -/
def selectOrders (symbol venue : String) (t : Database) : List OrderRow :=
  (inScope OrderRow.symbol OrderRow.venue symbol venue t.orders).insertionSort
    (ByTime OrderRow.createdAt OrderRow.clientOrderId)

/-- The selected fills. -/
def selectFills (symbol venue : String) (t : Database) : List FillRow :=
  (inScope FillRow.symbol FillRow.venue symbol venue t.fills).insertionSort
    (ByTime FillRow.executedAt FillRow.fillId)

/-- The selected positions. -/
def selectPositions (symbol venue : String) (t : Database) : List PositionRow :=
  (inScope PositionRow.symbol PositionRow.venue symbol venue t.positions).insertionSort
    fun a b => a.positionSide ≤ b.positionSide

/-- One round of the loop over the orders. -/
def loadOrder (symbol venue : String) (l : InMemoryLedger) (row : OrderRow) :
    Except String InMemoryLedger := do
  let order ← orderFromRow row symbol venue
  return upsertOrder order l

/-- One round of the loop over the fills: a second row of one trade stops it. -/
def loadFill (symbol venue : String) (l : InMemoryLedger) (row : FillRow) :
    Except String InMemoryLedger := do
  let fill ← fillFromRow row symbol venue
  if hasFill l (venue ++ ":" ++ fill.symbol ++ ":" ++ fill.exchangeTradeId) then
    throw "durable ledger contains duplicate fill identity"
  return { l with
    fills := l.fills ++ [fill]
    fillKeys := l.fillKeys ++ [fillKey fill]
    indexed := by rw [l.indexed, List.map_append]; rfl }

/-- One round of the loop over the positions. -/
def loadPosition (symbol venue : String) (l : InMemoryLedger) (row : PositionRow) :
    Except String InMemoryLedger := do
  let position ← positionFromRow row symbol venue
  return { l with positions := placePosition position l.positions, version := l.version + 1 }

/-- `_validate_lineage` -/
def validateLineage (l : InMemoryLedger) : Except String Unit :=
  if l.fills.all fun f => l.orders.any fun o =>
      o.clientOrderId.1 == f.clientOrderId ||
        (o.exchangeOrderId.getD "" != "" && o.exchangeOrderId == some f.exchangeOrderId) then .ok ()
  else .error "durable fill has no matching order lineage"

/-- The ledger of the selected rows. -/
def ledgerOf (symbol venue : String) (orders : List OrderRow) (fills : List FillRow)
    (positions : List PositionRow) : Except String InMemoryLedger := do
  let l ← orders.foldlM (loadOrder symbol venue) empty
  let l ← fills.foldlM (loadFill symbol venue) l
  let l ← positions.foldlM (loadPosition symbol venue) l
  validateLineage l
  return { l with initialized := true }

/-- `PostgresExecutionLedger.load` -/
def load (symbol venue : String) (t : Database) : Except String InMemoryLedger :=
  let symbol := Text.upper (Text.strip symbol)
  let venue := Text.upper (Text.strip venue)
  if symbol = "" ∨ venue = "" then .error "durable ledger scope is incomplete"
  else ledgerOf symbol venue (selectOrders symbol venue t) (selectFills symbol venue t)
    (selectPositions symbol venue t)

end Blessing.Persistence.Load
