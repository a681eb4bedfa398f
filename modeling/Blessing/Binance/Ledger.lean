import Blessing.Binance.AccountGate
import Blessing.Lib.Table

/-! # The execution ledger

`InMemoryLedger` of `venues/binance/ledger.py`. The orders are a dictionary by client order id, the
set of fill keys follows the list of fills; the callbacks that mirror changes elsewhere are left
out. -/

namespace Blessing.Binance.Ledger

open Blessing.Lib Blessing.Lib.Values Blessing.Lib.Table
open Blessing.Binance.Models Blessing.Binance.AccountGate

/-- `_get_fill_key` without the trade: the venue of a source. -/
def venueOf (source : String) : String :=
  let source := Text.upper (Text.strip source)
  let source := if source = "" then "UNKNOWN" else source
  (["BINANCE_TESTNET", "BINANCE_MAINNET"].find? fun label =>
    source == label || (label ++ "_").toList.isPrefixOf source.toList).getD source

/-- `_get_fill_key` -/
def fillKey (fill : ExchangeFill) : String :=
  venueOf fill.source ++ ":" ++ Text.upper fill.symbol ++ ":" ++ fill.exchangeTradeId

/-- The state of the ledger. -/
structure InMemoryLedger where
  orders : List ExecutionOrder
  fills : List ExchangeFill
  fillKeys : List String
  positions : List ExchangePosition
  version : ℕ
  initialized : Bool
  walletBalance : ℚ
  marginBalance : ℚ
  accountSnapshot : Option ExchangeAccountSnapshot
  /-- a dictionary has a key once -/
  keyed : (orders.map ExecutionOrder.clientOrderId).Nodup
  /-- every fill is indexed, and nothing else -/
  indexed : fillKeys = fills.map fillKey

/-- A new ledger. -/
def empty : InMemoryLedger where
  orders := []
  fills := []
  fillKeys := []
  positions := []
  version := 0
  initialized := false
  walletBalance := 0
  marginBalance := 0
  accountSnapshot := none
  keyed := by simp
  indexed := rfl

/-! ### Orders -/

/-- `upsert_order` -/
def upsertOrder (order : ExecutionOrder) (l : InMemoryLedger) : InMemoryLedger :=
  { l with
    orders := upsert ExecutionOrder.clientOrderId order l.orders
    keyed := nodup_upsert l.keyed order }

/-- `get_order_by_client_id` -/
def getOrderByClientId (l : InMemoryLedger) (clientOrderId : String) : Option ExecutionOrder :=
  l.orders.find? fun o => o.clientOrderId.1 == clientOrderId

/-- `str(order.exchange_order_id)` -/
def exchangeIdText (order : ExecutionOrder) : String := order.exchangeOrderId.getD "None"

/-- `get_order_by_exchange_id` -/
def getOrderByExchangeId (l : InMemoryLedger) (exchangeOrderId : String) : Option ExecutionOrder :=
  l.orders.find? fun o => exchangeIdText o == exchangeOrderId

/-- The text of a field a model declares as one. -/
def textField (v : Json) (name : String) : Except Exn String :=
  match v with
  | .str s => .ok s
  | _ => .error (.value ("Input should be a valid string: " ++ name))

/-- `Decimal(str(value))` of a field a model declares as finite. -/
def decimalField (v : Json) (name : String) : Except Exn Decimal :=
  match decimalOf v with
  | some (.finite d) => .ok d
  | _ => .error (.value ("Input should be a valid decimal: " ++ name))

/-- The value of an enumeration. -/
def memberField {E : Type} (member : Option E) (message : String) : Except Exn E :=
  match member with
  | some e => .ok e
  | none => .error (.value message)

/-- `TimeInForce` of an exchange order. -/
def timeInForceOf (raw : Json) : Except Exn TimeInForce :=
  let text := upperOf raw
  if text = "GTX" then .ok .postOnly
  else memberField (TimeInForce.ofValue text) (text ++ " is not a valid TimeInForce")

/-- `v.get(k, default)` -/
def getOr (payload : Json) (k : String) (default : Json) : Json := (payload.get? k).getD default

/-- The order `upsert_raw_exchange_order` builds. The lineage of a known order is kept. -/
def orderOfRaw (l : InMemoryLedger) (raw : Json) : Except Exn ExecutionOrder := do
  let absent := missing ["symbol", "clientOrderId", "status", "side", "origQty", "orderId"] raw
  if !absent.isEmpty then
    throw (.value ("Exchange order is missing required fields: " ++ Text.join ", " absent))
  let side ← memberField (OrderSide.ofValue (raw.get "side").toStr)
    ("Unsupported exchange order side: " ++ (raw.get "side").toStr)
  let timeInForce ← timeInForceOf (getOr raw "timeInForce" (.str "GTC"))
  let quantity ← decimalField (raw.get "origQty") "quantity"
  let price ← decimalField (getOr raw "price" (.str "0")) "price"
  let orderType ← textField (getOr raw "type" (.str "LIMIT")) "order_type"
  let clientOid ← textField (raw.get "clientOrderId") "client_order_id"
  let status ← textField (raw.get "status") "status"
  let positionSide ← memberField
    (PositionSide.ofValue (upperOf (getOr raw "positionSide" (.str "BOTH"))))
    (upperOf (getOr raw "positionSide" (.str "BOTH")) ++ " is not a valid PositionSide")
  if h : clientOid ≠ "" then
    let known := getOrderByClientId l clientOid
    return {
      symbol := upperOf (raw.get "symbol"), side, quantity, price, orderType,
      clientOrderId := ⟨clientOid, h⟩, status, exchangeOrderId := some (raw.get "orderId").toStr,
      positionSide, reduceOnly := exchangeBool (getOr raw "reduceOnly" (.bool false)), timeInForce,
      strategyId := (known.map ExecutionOrder.strategyId).getD "portfolio",
      decisionId := known.bind ExecutionOrder.decisionId,
      targetExposureId := known.bind ExecutionOrder.targetExposureId,
      sourceIntentIds := (known.map ExecutionOrder.sourceIntentIds).getD [],
      riskClass := (known.map ExecutionOrder.riskClass).getD .noop }
  else throw (.value "Exchange order is missing required fields: clientOrderId")

/-- `upsert_raw_exchange_order` -/
def upsertRawExchangeOrder (raw : Json) (l : InMemoryLedger) : Except Exn InMemoryLedger := do
  let order ← orderOfRaw l raw
  return { upsertOrder order l with version := l.version + 1 }

/-! ### Fills -/

/-- `text.split(sep, count)` -/
def splitMax (sep : Char) : ℕ → List Char → List (List Char)
  | 0, cs => [cs]
  | _ + 1, [] => [[]]
  | count + 1, c :: cs =>
    if c = sep then [] :: splitMax sep count cs
    else match splitMax sep (count + 1) cs with
      | [] => [[c]]
      | part :: parts => (c :: part) :: parts

/-- `has_fill` -/
def hasFill (l : InMemoryLedger) (deduplicationKey : String) : Bool :=
  l.fillKeys.contains deduplicationKey ||
    match (splitMax ':' 2 deduplicationKey.toList).map String.ofList with
    | [source, symbol, tradeId] => l.fills.any fun f =>
        String.ofList (((splitMax ':' 1 (fillKey f).toList).head?).getD []) == Text.upper source &&
          Text.upper f.symbol == Text.upper symbol && f.exchangeTradeId == tradeId
    | [symbol, tradeId] => l.fills.any fun f =>
        Text.upper f.symbol == Text.upper symbol && f.exchangeTradeId == tradeId
    | _ => l.fills.any fun f => f.exchangeTradeId == deduplicationKey

/-- `append_fill` -/
def appendFill (fill : ExchangeFill) (l : InMemoryLedger) : InMemoryLedger :=
  if l.fillKeys.contains (fillKey fill) || hasFill l (fillKey fill) then l
  else
    { l with
      fills := l.fills ++ [fill]
      fillKeys := l.fillKeys ++ [fillKey fill]
      version := l.version + 1
      indexed := by rw [l.indexed, List.map_append]; rfl }

/-! ### Positions -/

/-- The field checks of `_to_exchange_position`. -/
structure Bounds where
  default : Option Decimal := none
  positive : Bool := false
  nonnegative : Bool := false

/-- `parse_decimal` of `_to_exchange_position` -/
def parseDecimal (pos : Json) (name : String) (bounds : Bounds) : Except Exn Decimal :=
  if (pos.get name).isBlank then
    match bounds.default with
    | some d => .ok d
    | none => .error (.value ("Exchange position is missing required field: " ++ name))
  else
    match decimalOf (pos.get name) with
    | none => .error (.value ("Exchange position has invalid " ++ name))
    | some (.finite d) =>
      if bounds.positive && !d.isPos then
        .error (.value ("Exchange position has unusable " ++ name))
      else if bounds.nonnegative && d.isNeg then
        .error (.value ("Exchange position has negative " ++ name))
      else .ok d
    | some _ => .error (.value ("Exchange position has non-finite " ++ name))

/-- The amount of `_to_exchange_position`. -/
def positionQuantity (pos : Json) : Except Exn Decimal :=
  if !(missing ["symbol", "positionAmt"] pos).isEmpty then
    .error (.value ("Exchange position is missing required fields: " ++
      Text.join ", " (missing ["symbol", "positionAmt"] pos)))
  else
    match decimalOf (pos.get "positionAmt") with
    | none => .error (.value "Exchange position has an invalid positionAmt")
    | some (.finite d) => .ok d
    | some _ => .error (.value "Exchange position has a non-finite positionAmt")

/-- The margin type: unknown where the exchange does not say. -/
def marginTypeOf (raw : Json) : Except Exn String :=
  if raw.isBlank then .ok "UNKNOWN"
  else match raw with
    | .str s => if Text.strip s = "" then
        .error (.value "Exchange position has invalid marginType") else .ok s
    | _ => .error (.value "Exchange position has invalid marginType")

/-- `_to_exchange_position` of a payload. -/
def toExchangePosition (pos : Json) : Except Exn ExchangePosition := do
  if !pos.isObj then throw (.value "Exchange position must be an object")
  let quantity ← positionQuantity pos
  let isActive := !quantity.isZero
  if isActive && !(missing ["positionSide", "markPrice"] pos).isEmpty then
    throw (.value ("Active exchange position is missing required fields: " ++
      Text.join ", " (missing ["positionSide", "markPrice"] pos)))
  let side := upperOf (getOr pos "positionSide" (.str "BOTH"))
  let positionSide ← memberField (PositionSide.ofValue side)
    ("Unsupported exchange position side: " ++ side)
  let zero := some (Decimal.ofNat 0)
  let entryPrice ← parseDecimal pos "entryPrice" { default := zero, positive := isActive }
  let markPrice ← if (pos.get "markPrice").isBlank && !isActive then pure none
    else some <$> parseDecimal pos "markPrice" { positive := isActive, nonnegative := !isActive }
  let unrealizedPnl ← parseDecimal pos "unRealizedProfit" { default := zero }
  let marginType ← marginTypeOf (pos.get "marginType")
  let leverage ← parseDecimal pos "leverage"
    { default := zero, positive := isActive, nonnegative := true }
  let liquidationPrice ← if (pos.get "liquidationPrice").isBlank then pure none
    else (fun d => if d.isPos then some d else none) <$>
      parseDecimal pos "liquidationPrice" { nonnegative := true }
  let source ← textField (getOr pos "source" (.str "UNKNOWN")) "source"
  return {
    symbol := upperOf (pos.get "symbol"), positionSide, quantity, entryPrice, markPrice,
    unrealizedPnl, liquidationPrice, leverage, marginType, eventTime :=
    pos.get "eventTime", source }

/-- `replace_positions` without the marking as initialized. -/
def replacePositions (raw : List Json) (l : InMemoryLedger) : Except Exn InMemoryLedger := do
  let positions ← raw.mapM toExchangePosition
  return { l with positions }

/-- Replace the first position of the same symbol and side, or add it. -/
def placePosition (p : ExchangePosition) : List ExchangePosition → List ExchangePosition
  | [] => [p]
  | q :: qs =>
    if q.symbol = p.symbol ∧ q.positionSide = p.positionSide then p :: qs
      else q :: placePosition p qs

/-- `upsert_position` -/
def upsertPosition (raw : Json) (l : InMemoryLedger) : Except Exn InMemoryLedger := do
  let p ← toExchangePosition raw
  return { l with positions := placePosition p l.positions, version := l.version + 1 }

/-- `clear_positions_for_symbol` -/
def clearPositionsForSymbol (symbol : String) (l : InMemoryLedger) : InMemoryLedger :=
  { l with
    positions := l.positions.filter fun p => Text.upper p.symbol != Text.upper symbol
    version := l.version + 1 }

end Blessing.Binance.Ledger
