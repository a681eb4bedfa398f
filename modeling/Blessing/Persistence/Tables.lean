import Blessing.Binance.Models
import Blessing.Lib.Table

/-! # The durable tables

The tables `orders`, `fills` and `positions` and the statements of
`persistence/postgres/repositories.py` that write them. A statement that violates a constraint fails
and leaves every table as it was. A time is a number of microseconds since 1970; what the program
makes of an exchange time is a parameter. Of the instruments only the symbols are kept, which the
other tables refer to. -/

namespace Blessing.Persistence.Tables

open Blessing.Lib Blessing.Lib.Values Blessing.Lib.Table
open Blessing.Binance.Models

/-- Exchange-derived instrument metadata. -/
structure Instrument where
  symbol : String
  venue : String
  tickSize : Decimal
  stepSize : Decimal
  minNotional : Decimal
  isTradingEnabled : Bool := true
  deriving DecidableEq

/-- A row of `orders`. -/
structure OrderRow where
  clientOrderId : String
  exchangeOrderId : Option String
  symbol : Option String
  venue : String
  side : String
  orderType : String
  orderRole : String
  price : Option Decimal
  quantity : Decimal
  status : String
  timeInForce : Option String
  positionSide : String
  createdAt : ℤ
  updatedAt : ℤ
  deriving DecidableEq

/-- A row of `fills`. -/
structure FillRow where
  fillId : String
  clientOrderId : Option String
  exchangeOrderId : Option String
  exchangeTradeId : String
  symbol : Option String
  venue : String
  side : String
  positionSide : String
  price : Decimal
  quantity : Decimal
  fee : Decimal
  feeAsset : String
  isMaker : Option Bool
  executedAt : ℤ
  deriving DecidableEq

/-- A row of `positions`. -/
structure PositionRow where
  venue : String
  symbol : Option String
  positionSide : String
  direction : String
  quantity : Decimal
  entryPrice : Decimal
  markPrice : Decimal
  liquidationPrice : Option Decimal
  unrealizedPnl : Decimal
  leverage : Decimal
  marginType : Option String
  updatedAt : ℤ
  deriving DecidableEq

/-- The durable tables. -/
structure Database where
  instruments : List String
  orders : List OrderRow
  fills : List FillRow
  positions : List PositionRow
  deriving DecidableEq

/-- The tables of a new database. -/
def Database.empty : Database := ⟨[], [], [], []⟩

/-- What a write raises. -/
inductive Failure where
  /-- `InstrumentRulesUnavailable` -/
  | instrumentRulesUnavailable (message : String)
  /-- the value does not fit its column -/
  | outOfRange (column : String)
  /-- the row refers to one that is not there -/
  | foreignKey (column : String)
  /-- another row has the key -/
  | unique (key : String)
  /-- `ValueError` -/
  | value (message : String)
  deriving DecidableEq

/-! ### Columns -/

/-- A value of a column `VARCHAR(n)`. Only spaces are cut off. -/
def varchar (n : ℕ) (column s : String) : Except Failure String :=
  if s.length ≤ n then .ok s
  else if (s.toList.drop n).all (· == ' ') then .ok (String.ofList (s.toList.take n))
  else .error (.outOfRange column)

/-- The integer `d * 10 ^ scale`, ties away from zero. -/
def atScale (scale : ℕ) (d : Decimal) : ℕ :=
  let exp := d.exp + scale
  if 0 ≤ exp then d.coeff * 10 ^ exp.toNat
  else (2 * d.coeff + 10 ^ (-exp).toNat) / (2 * 10 ^ (-exp).toNat)

/-- A value of a column `NUMERIC(precision, scale)`. -/
def numeric (precision scale : ℕ) (column : String) (d : Decimal) : Except Failure Decimal :=
  let coeff := atScale scale d
  if coeff < 10 ^ precision then .ok ⟨d.neg && coeff != 0, coeff, -scale⟩
  else .error (.outOfRange column)

/-- The amount columns. -/
abbrev amount (column : String) (d : Decimal) : Except Failure Decimal := numeric 28 10 column d

/-- `str(_utc_datetime(value))` -/
def timeOf (instant : Json → Option ℤ) (v : Json) : Except Failure ℤ :=
  match instant v with
  | some t => .ok t
  | none => .error (.value "invalid persistence timestamp")

/-- A reference to a row of another table. -/
def refers (column : String) (key : String) (keys : List String) : Except Failure Unit :=
  if keys.contains key then .ok () else .error (.foreignKey column)

/-! ### Statements -/

/-- `_ensure_instrument` -/
def ensureInstrument (instrument : Instrument) (t : Database) : Except Failure Database := do
  if !instrument.isTradingEnabled then
    throw (.instrumentRulesUnavailable
      ("instrument rules for " ++ instrument.symbol ++ " are not enabled for trading"))
  if [instrument.tickSize, instrument.stepSize, instrument.minNotional].any fun v => !v.isPos then
    throw (.instrumentRulesUnavailable
      ("instrument rules for " ++ instrument.symbol ++ " are incomplete"))
  return { t with instruments := upsert id instrument.symbol t.instruments }

/-- The row of an order. -/
def orderRow (order : ExecutionOrder) (timestamp : ℤ) (instrument : Instrument) :
    Except Failure OrderRow := do
  let clientOrderId ← varchar 64 "client_order_id" order.clientOrderId.1
  let exchangeOrderId ← order.exchangeOrderId.mapM (varchar 64 "exchange_order_id")
  let symbol ← varchar 32 "symbol" order.symbol
  let venue ← varchar 32 "venue" instrument.venue
  let orderType ← varchar 16 "order_type" order.orderType
  let price ← amount "price" order.price
  let quantity ← amount "quantity" order.quantity
  let status ← varchar 24 "status" order.status
  let timeInForce ← varchar 8 "time_in_force" order.timeInForce.value
  return {
    clientOrderId, exchangeOrderId, symbol := some symbol, venue, side := order.side.value,
    orderType, orderRole := "SYSTEM_ORDER", price := some price, quantity, status,
    timeInForce := some timeInForce, positionSide := order.positionSide.value,
    createdAt := timestamp, updatedAt := timestamp }

/-- `INSERT INTO orders … ON CONFLICT (client_order_id) DO UPDATE` -/
def upsertOrderRow (row : OrderRow) (orders : List OrderRow) : List OrderRow :=
  match lookup OrderRow.clientOrderId row.clientOrderId orders with
  | none => orders ++ [row]
  | some _ => update (fun r => r.clientOrderId == row.clientOrderId)
    (fun r => { r with
      exchangeOrderId := row.exchangeOrderId, venue := row.venue, status := row.status,
      price := row.price, quantity := row.quantity, timeInForce := row.timeInForce,
      positionSide := row.positionSide, updatedAt := row.updatedAt }) orders

/-- `save_order` -/
def saveOrder (order : ExecutionOrder) (timestamp : ℤ) (instrument : Instrument) (t : Database) :
    Except Failure Database := do
  let t ← ensureInstrument instrument t
  let row ← orderRow order timestamp instrument
  refers "symbol" (row.symbol.getD "") t.instruments
  return { t with orders := upsertOrderRow row t.orders }

section

variable (sha256 : String → String)

/-- The identity of a fill, for its storage id and its outbox event. -/
def fillIdentity (fill : ExchangeFill) (instrument : Instrument) : String :=
  instrument.venue ++ ":" ++ Text.upper fill.symbol ++ ":" ++ fill.exchangeTradeId

/-- `_fill_storage_id`; `sha256` is the digest of a text in hexadecimal digits. -/
def fillStorageId (fill : ExchangeFill) (instrument : Instrument) : String :=
  sha256 (fillIdentity fill instrument)

/-- The time of a fill. -/
def executedAt (instant : Json → Option ℤ) (fill : ExchangeFill) : Except Failure ℤ :=
  timeOf instant (if fill.eventTime.truthy then fill.eventTime else fill.transactionTime)

/-- The row of a fill. -/
def fillRow (instant : Json → Option ℤ) (fill : ExchangeFill) (instrument : Instrument) :
    Except Failure FillRow := do
  let fillId ← varchar 64 "fill_id" (fillStorageId sha256 fill instrument)
  let clientOrderId ← varchar 64 "client_order_id" fill.clientOrderId
  let exchangeOrderId ← varchar 64 "exchange_order_id" fill.exchangeOrderId
  let exchangeTradeId ← varchar 64 "exchange_trade_id" fill.exchangeTradeId
  let symbol ← varchar 32 "symbol" fill.symbol
  let venue ← varchar 32 "venue" instrument.venue
  let price ← amount "price" fill.price
  let quantity ← amount "quantity" fill.quantity
  let fee ← amount "fee" fill.commission
  let feeAsset ← varchar 16 "fee_asset" fill.commissionAsset
  let executedAt ← executedAt instant fill
  return {
    fillId, clientOrderId := some clientOrderId, exchangeOrderId := some exchangeOrderId,
    exchangeTradeId, symbol := some symbol, venue, side := fill.side.value,
    positionSide := fill.positionSide.value, price, quantity, fee, feeAsset,
    isMaker := some fill.maker, executedAt }

/-- The conflict target of `fills`. -/
def FillRow.target (r : FillRow) : String × String := (r.venue, r.exchangeTradeId)

/-- `INSERT INTO fills … ON CONFLICT (venue, exchange_trade_id) DO UPDATE`. Another row with the
storage id is an error. -/
def upsertFillRow (row : FillRow) (fills : List FillRow) : Except Failure (List FillRow) :=
  match lookup FillRow.target row.target fills with
  | some _ => .ok (update (fun r => r.target == row.target)
    (fun r => { r with
      clientOrderId := row.clientOrderId, exchangeOrderId := row.exchangeOrderId,
      exchangeTradeId := row.exchangeTradeId, venue := row.venue, positionSide := row.positionSide,
      price := row.price, quantity := row.quantity, fee := row.fee, feeAsset := row.feeAsset,
      isMaker := row.isMaker, executedAt := row.executedAt }) fills)
  | none =>
    if (lookup FillRow.fillId row.fillId fills).isSome then .error (.unique "fill_id")
    else .ok (fills ++ [row])

/-- `save_fill` -/
def saveFill (instant : Json → Option ℤ) (fill : ExchangeFill) (instrument : Instrument)
    (t : Database) : Except Failure Database := do
  let t ← ensureInstrument instrument t
  let row ← fillRow sha256 instant fill instrument
  let fills ← upsertFillRow row t.fills
  refers "client_order_id" (row.clientOrderId.getD "") (t.orders.map OrderRow.clientOrderId)
  refers "symbol" (row.symbol.getD "") t.instruments
  return { t with fills }

end

/-- The direction of a quantity. -/
def directionOf (quantity : Decimal) : String :=
  if quantity.isPos then "LONG" else if quantity.isNeg then "SHORT" else "FLAT"

/-- The mark price column: `position.mark_price or Decimal("0")` -/
def markPriceOf (position : ExchangePosition) : Decimal :=
  match position.markPrice with
  | some d => if d.isZero then Decimal.ofNat 0 else d
  | none => Decimal.ofNat 0

/-- The row of a position. -/
def positionRow (instant : Json → Option ℤ) (position : ExchangePosition)
    (instrument : Instrument) : Except Failure PositionRow := do
  let venue ← varchar 32 "venue" instrument.venue
  let symbol ← varchar 32 "symbol" position.symbol
  let quantity ← amount "quantity" position.quantity
  let entryPrice ← amount "entry_price" position.entryPrice
  let markPrice ← amount "mark_price" (markPriceOf position)
  let liquidationPrice ← position.liquidationPrice.mapM (amount "liquidation_price")
  let unrealizedPnl ← amount "unrealized_pnl" position.unrealizedPnl
  let leverage ← numeric 6 2 "leverage" position.leverage
  let marginType ← varchar 16 "margin_type" position.marginType
  let updatedAt ← timeOf instant position.eventTime
  return {
    venue, symbol := some symbol, positionSide := position.positionSide.value,
    direction := directionOf position.quantity, quantity, entryPrice, markPrice, liquidationPrice,
    unrealizedPnl, leverage, marginType := some marginType, updatedAt }

/-- The conflict target of `positions`. -/
def PositionRow.target (r : PositionRow) : String × Option String × String :=
  (r.venue, r.symbol, r.positionSide)

/-- `INSERT INTO positions … ON CONFLICT (venue, symbol, position_side) DO UPDATE` -/
def upsertPositionRow (row : PositionRow) (positions : List PositionRow) : List PositionRow :=
  match lookup PositionRow.target row.target positions with
  | none => positions ++ [row]
  | some _ => update (fun r => r.target == row.target)
    (fun r => { r with
      direction := row.direction, quantity := row.quantity, entryPrice := row.entryPrice,
      markPrice := row.markPrice, liquidationPrice := row.liquidationPrice,
      unrealizedPnl := row.unrealizedPnl, leverage := row.leverage, marginType := row.marginType,
      updatedAt := row.updatedAt }) positions

/-- `save_position` -/
def savePosition (instant : Json → Option ℤ) (position : ExchangePosition) (instrument : Instrument)
    (t : Database) : Except Failure Database := do
  let t ← ensureInstrument instrument t
  let row ← positionRow instant position instrument
  refers "symbol" (row.symbol.getD "") t.instruments
  return { t with positions := upsertPositionRow row t.positions }

end Blessing.Persistence.Tables
