import Blessing.Binance.Recovery

/-! # Reconciliation

`BinanceReconciliation` of `venues/binance/reconciliation.py`: the ledger is compared with the
answers of the exchange, in three passes over orders, positions and fills that also bring the ledger
up to date. `IN_SYNC` is the absence of differences. -/

namespace Blessing.Binance.Reconciliation

open Blessing.Lib Blessing.Lib.Values Blessing.Lib.Table Blessing.Lib.Effects
open Blessing.Binance.Models Blessing.Binance.Ledger Blessing.Binance.Account
open Blessing.Binance.AccountGate (ExchangeAccountSnapshot)
open Blessing.Binance.RestClient Blessing.Binance.Recovery

/-! ### Comparing an order -/

/-- `add` of `_compare_open_order`: a difference unless the texts agree. -/
def differs (code : DiffCode) (symbol localText exchangeText : String) : List Diff :=
  if localText = exchangeText then []
  else [⟨code, some symbol, some (.str localText), some (.str exchangeText)⟩]

/-- The comparison of a positive number: unknown, different or the same. -/
def compareNumber (unknown mismatch : DiffCode) (symbol : String) (localNumber : Decimal)
    (raw : Json) : List Diff :=
  match decimalOf raw with
  | some (.finite d) =>
    if !d.isPos then
      [⟨unknown, some symbol, some (.str localNumber.toStr), some (.str raw.toStr)⟩]
    else if localNumber.eqv d then []
    else [⟨mismatch, some symbol, some (.str localNumber.toStr), some (.str d.toStr)⟩]
  | _ => [⟨unknown, some symbol, some (.str localNumber.toStr), some (.str raw.toStr)⟩]

/-- `str(b)` -/
def boolText (b : Bool) : String := if b then "True" else "False"

/-- `_compare_open_order` -/
def compareOpenOrder (order : ExecutionOrder) (row : Json) : List Diff :=
  let symbol := upperOf (getOr row "symbol" (.str order.symbol))
  differs .orderStatusMismatch symbol (Text.upper order.status)
      (upperOf (getOr row "status" (.str "UNKNOWN"))) ++
    differs .orderSideMismatch symbol order.side.value
      (upperOf (getOr row "side" (.str "UNKNOWN"))) ++
    differs .orderPositionSideMismatch symbol order.positionSide.value
      (upperOf (getOr row "positionSide" (.str "BOTH"))) ++
    differs .orderReduceOnlyMismatch symbol (boolText order.reduceOnly)
      (boolText (exchangeBool (getOr row "reduceOnly" (.bool false)))) ++
    compareNumber .orderQuantityUnknown .orderQuantityMismatch symbol order.quantity
      (row.get "origQty") ++
    (if upperOf (getOr row "type" (.str order.orderType)) = "MARKET" then []
      else compareNumber .orderPriceUnknown .orderPriceMismatch symbol order.price
        (row.get "price")) ++
    (if hasExchangeId order && exchangeIdText order != (row.get "orderId").toStr then
      [⟨.orderExchangeIdMismatch, some symbol, some (.str (exchangeIdText order)),
        some (.str (row.get "orderId").toStr)⟩] else []) ++
    if order.clientOrderId.1 != "" && (row.get "clientOrderId").truthy &&
        order.clientOrderId.1 != (row.get "clientOrderId").toStr then
      [⟨.orderClientIdMismatch, some symbol, some (.str order.clientOrderId.1),
        some (.str (row.get "clientOrderId").toStr)⟩] else []

/-! ### The order pass -/

/-- The fields every open order must have. -/
def openOrderFields : List String :=
  ["symbol", "orderId", "clientOrderId", "status", "side", "origQty"]

/-- The check of the open orders in front of `_collect_diffs`. -/
def checkOpenOrder (row : Json) : Except Exn Unit :=
  if !row.isObj then .error (.value "Binance open order entry is invalid")
  else if !(missing openOrderFields row).isEmpty then
    .error (.value ("Binance open order is missing required fields: " ++
      Text.join ", " (missing openOrderFields row)))
  else .ok ()

/-- A dictionary made from rows: a later row replaces an earlier one. -/
def dictBy {R : Type} (key : R → String) (rows : List R) : List (String × R) :=
  rows.foldl (fun d row => upsert Prod.fst (key row, row) d) []

/-- `d.get(k)` -/
def dictGet {R : Type} (d : List (String × R)) (k : String) : Option R :=
  (lookup Prod.fst k d).map Prod.snd

/-- `exchange_order_ids` -/
def exchangeOrderIds (rows : List Json) : List (String × Json) :=
  dictBy (fun row => (row.get "orderId").toStr) rows

/-- `exchange_client_ids` -/
def exchangeClientIds (rows : List Json) : List (String × Json) :=
  dictBy (fun row => (row.get "clientOrderId").toStr)
    (rows.filter fun row => (row.get "clientOrderId").truthy)

/-- The open order of a local order: by the exchange's identifier, then by the client's. -/
def openMatch (rows : List Json) (order : ExecutionOrder) : Option Json :=
  (if hasExchangeId order then dictGet (exchangeOrderIds rows) (exchangeIdText order) else none).or
    (if order.clientOrderId.1 ≠ "" then dictGet (exchangeClientIds rows) order.clientOrderId.1
      else none)

/-- The variables of `_collect_diffs` that the order pass changes. -/
structure Acc where
  diffs : List Diff
  positionSymbols : List String := []
  reductionSymbols : List String := []

/-- More differences. -/
def Acc.add (acc : Acc) (diffs : List Diff) : Acc := { acc with diffs := acc.diffs ++ diffs }

/-- `local_status in {"NEW", "PARTIALLY_FILLED"}` -/
def isActive (status : String) : Bool := status == "NEW" || status == "PARTIALLY_FILLED"

/-- `local_status in {"FILLED", "PARTIALLY_FILLED"}` -/
def isExecuted (status : String) : Bool := status == "FILLED" || status == "PARTIALLY_FILLED"

/-- `client_order_id or exchange_order_id` -/
def orderLabel (order : ExecutionOrder) : Option Json :=
  if order.clientOrderId.1 ≠ "" then some (.str order.clientOrderId.1)
  else order.exchangeOrderId.map Json.str

/-- The difference for fills that could not be recovered. -/
def recoveryFailed (order : ExecutionOrder) (orderStatus : Json) : Diff :=
  ⟨.fillRecoveryFailed, some order.symbol, some (.str order.clientOrderId.1),
    some (.str (getOr orderStatus "orderId" (.str "")).toStr)⟩

/-- Recover the fills; false if that failed. Only a failed authentication is passed on. -/
def tryRecovery (client : Client) (order : ExecutionOrder) (orderStatus : Json) : M Bool :=
  tryCatch
    (do
      let _ ← recoverOrderFills client order orderStatus
      return true)
    fun e => if e.isAuthentication then throw e else return false

/-- Recover the fills of an open order, and say so if that failed. -/
def recoverOpen (client : Client) (order : ExecutionOrder) (row : Json) (acc : Acc) : M Acc := do
  let recovered ← tryRecovery client order row
  return if recovered then acc else acc.add [recoveryFailed order row]

/-- A local order with an open match. -/
def collectOpen (client : Client) (order : ExecutionOrder) (row : Json) (acc : Acc) : M Acc := do
  let acc := acc.add (compareOpenOrder order row)
  let unknown : Diff :=
    ⟨.partialExecutedQtyUnknown, some order.symbol, some (.str order.clientOrderId.1), none⟩
  if Text.upper order.status = "PARTIALLY_FILLED" then
    match decimalOf (getOr row "executedQty" (.str "0")) with
    | none => return acc.add [unknown]
    | some .nan => throw (.value "[<class 'decimal.InvalidOperation'>]")
    | some (.inf neg) => if neg then return acc.add [unknown] else recoverOpen client order row acc
    | some (.finite d) =>
      if d.isNeg then return acc.add [unknown]
      else if d.isPos then recoverOpen client order row acc
      else return acc
  else if Text.upper order.status = "FILLED" then recoverOpen client order row acc
  else return acc

/-- The query for an order. -/
def orderQuery (client : Client) (order : ExecutionOrder) : Request :=
  ⟨orderPath client, ("symbol", .str order.symbol) ::
    if order.clientOrderId.1 ≠ "" then [("origClientOrderId", .str order.clientOrderId.1)]
    else if hasExchangeId order then [("orderId", .str (exchangeIdText order))] else []⟩

/-- The answer to the query for an order; nothing if it failed. -/
def queryOrder (client : Client) (order : ExecutionOrder) : M (Option Json) :=
  tryCatch
    (do
      let answer ← request client (orderQuery client order)
      return some answer)
    fun e => if e.isAuthentication then throw e else return none

/-- The classes of orders that take risk off. -/
def isReduction (order : ExecutionOrder) : Bool :=
  order.reduceOnly ||
    [EconomicRiskClass.reduceRisk, .recovery, .close, .emergency].contains order.riskClass

/-- `order_status.get("orderId") or local_order.exchange_order_id or ""` -/
def resolvedId (order : ExecutionOrder) (orderStatus : Json) : String :=
  textOr (orderStatus.get "orderId") (order.exchangeOrderId.getD "")

/-- The status of a queried order. -/
def queriedStatus (orderStatus : Json) : String :=
  upperOf (getOr orderStatus "status" (.str "UNKNOWN"))

/-- A local order with the answer of its query. -/
def collectQueried (client : Client) (order : ExecutionOrder) (orderStatus : Json) (acc : Acc) :
    M Acc := do
  let status := queriedStatus orderStatus
  let localStatus := Text.upper order.status
  if isExecuted status then
    let recovered ← tryRecovery client order orderStatus
    if recovered then
      modifyLedger (upsertOrder { order with
        status := status, exchangeOrderId := some (resolvedId order orderStatus) })
      return { acc with
        positionSymbols := acc.positionSymbols.insert (Text.upper order.symbol)
        reductionSymbols := if isReduction order then
          acc.reductionSymbols.insert (Text.upper order.symbol) else acc.reductionSymbols }
    else return acc.add [recoveryFailed order orderStatus]
  else if ["CANCELED", "CANCELLED", "EXPIRED", "REJECTED"].contains status then
    if isExecuted localStatus then
      return acc.add [⟨.terminalOrderStatusMismatch, some order.symbol, some (.str localStatus),
        some (.str status)⟩]
    else if isActive localStatus then
      modifyLedger (upsertOrder { order with status })
      return acc
    else return acc
  else
    return acc.add [⟨.localOpenOrderMissingOnExchange, some order.symbol, orderLabel order,
      some (.str status)⟩]

/-- A local order that has to be queried. -/
def collectQuery (client : Client) (order : ExecutionOrder) (acc : Acc) : M Acc := do
  let answer ← queryOrder client order
  match answer with
  | none => return acc.add [⟨.localOpenOrderStatusUnknown, some order.symbol,
      some (.str order.clientOrderId.1), none⟩]
  | some orderStatus =>
    if orderStatus.isObj then collectQueried client order orderStatus acc
    else return acc.add [⟨.localOrderStatusUnknown, some order.symbol, orderLabel order, none⟩]

/-- One local order of `_collect_diffs`. -/
def collectOrder (client : Client) (rows : List Json) (acc : Acc) (order : ExecutionOrder) :
    M Acc := do
  match openMatch rows order with
  | some row =>
    let acc ← collectOpen client order row acc
    if isActive (Text.upper order.status) || isExecuted (Text.upper order.status) then return acc
    else collectQuery client order acc
  | none => collectQuery client order acc

/-- The differences without the foreign fills whose identifier was recovered. -/
def dropRecovered (ids : List String) (diffs : List Diff) : List Diff :=
  diffs.filter fun d =>
    !(d.code == .exchangeFillUnknownLocally &&
      ids.contains ((d.exchangeValue.map Json.toStr).getD "None"))

/-! ### The exchange's open orders -/

/-- The symbol of a difference must be a text. -/
def diffSymbol (v : Json) : Except Exn (Option String) :=
  match v with
  | .null => .ok none
  | .str s => .ok (some s)
  | _ => .error (.value "Input should be a valid string: symbol")

/-- The local order of an open order: by the client's identifier, then by the exchange's. -/
def localMatch (l : InMemoryLedger) (exchangeOrderId : String) (row : Json) :
    Option ExecutionOrder :=
  (if (row.get "clientOrderId").truthy then
    getOrderByClientId l (row.get "clientOrderId").toStr else none).or
    (getOrderByExchangeId l exchangeOrderId)

/-- The differences of one open order of the exchange. -/
def exchangeOrderDiffs (l : InMemoryLedger) (entry : String × Json) : Except Exn (List Diff) :=
  match localMatch l entry.1 entry.2 with
  | none => do
    let symbol ← diffSymbol (entry.2.get "symbol")
    return [⟨.exchangeOpenOrderUnknownLocally, symbol, none, some (.str entry.1)⟩]
  | some order =>
    if isActive (Text.upper order.status) then .ok [] else .ok (compareOpenOrder order entry.2)

/-! ### Positions -/

/-- A symbol and a side. -/
abbrev PositionKey := String × String

/-- An entry of `_active_position_map`; nothing for a flat position. -/
def activeEntry (position : Json) : Except Exn (Option (PositionKey × Decimal)) := do
  let amount ← positionAmount position
  if amount.isZero then return none
  let rawSide := position.get "positionSide"
  if rawSide.isBlank then throw (.value "Active position is missing positionSide")
  if !(position.get "symbol").truthy then throw (.value "Active position is missing symbol")
  if (PositionSide.ofValue (upperOf rawSide)).isNone then
    throw (.value ("Active position has unsupported positionSide: " ++ upperOf rawSide))
  return some ((upperOf (position.get "symbol"), upperOf rawSide), amount)

/-- `_active_position_map` -/
def activePositionMap (positions : List Json) : Except Exn (List (PositionKey × Decimal)) :=
  positions.foldlM (fun d position => do
    let entry ← activeEntry position
    return match entry with
      | none => d
      | some entry => upsert Prod.fst entry d) []

/-- `local_position_map` -/
def localPositionMap (positions : List ExchangePosition) : List (PositionKey × Decimal) :=
  positions.foldl (fun d p =>
    if p.quantity.isZero then d
    else upsert Prod.fst ((Text.upper p.symbol, p.positionSide.value), p.quantity) d) []

/-- The amount of a symbol and side. -/
def amountAt (d : List (PositionKey × Decimal)) (key : PositionKey) : Option Decimal :=
  (lookup Prod.fst key d).map Prod.snd

/-- The differences of two position maps. -/
def positionDiffs (localMap exchangeMap : List (PositionKey × Decimal)) : List Diff :=
  (localMap.flatMap fun (key, amount) =>
    match amountAt exchangeMap key with
    | none => [⟨.localPositionMissingOnExchange, some key.1, some (.str amount.toStr),
        some (.str "0")⟩]
    | some exchangeAmount =>
      if exchangeAmount.eqv amount then []
      else [⟨.positionQtyMismatch, some key.1, some (.str amount.toStr),
        some (.str exchangeAmount.toStr)⟩]) ++
  exchangeMap.flatMap fun (key, amount) =>
    if (amountAt localMap key).isSome then []
    else [⟨.exchangePositionUnknownLocally, some key.1, some (.str "0"), some (.str amount.toStr)⟩]

/-- The positions of the symbols whose fills were recovered are taken over. -/
def seedPosition (symbols : List String) (position : Json) : M Unit := do
  if !position.isObj then throw (.value "object has no attribute 'get'")
  if symbols.contains (upperOf (getOr position "symbol" (.str ""))) then
    updateLedger (upsertPosition position)

/-- The position pass of `_collect_diffs`. -/
def collectPositions (positions : List Json) (acc : Acc) : M (List Diff) := do
  forEach (seedPosition acc.positionSymbols) positions
  let exchangeMap ← lift (activePositionMap positions)
  forEach (fun symbol => do
    if !(exchangeMap.any fun entry => entry.1.1 == symbol) then
      modifyLedger (clearPositionsForSymbol symbol)) acc.reductionSymbols
  let s ← get
  return positionDiffs (localPositionMap s.ledger.positions) exchangeMap

/-! ### Fills -/

/-- The fill belongs to the order. -/
def linked (order : ExecutionOrder) (fill : ExchangeFill) : Bool :=
  (hasExchangeId order && fill.exchangeOrderId == exchangeIdText order) ||
    (order.clientOrderId.1 != "" && fill.clientOrderId == order.clientOrderId.1)

/-- The filled quantity of an order. -/
def filledQuantity (fills : List ExchangeFill) (order : ExecutionOrder) : Decimal :=
  Decimal.sum ((fills.filter (linked order)).map ExchangeFill.quantity)

/-- The differences of the fills of one order. -/
def fillDiffs (fills : List ExchangeFill) (order : ExecutionOrder) : List Diff :=
  let status := Text.upper order.status
  let symbol := Text.upper order.symbol
  let recovered := filledQuantity fills order
  if !isExecuted status then []
  else if !fills.any (linked order) then
    [⟨.terminalOrderFillMissing, some symbol, orderLabel order, none⟩]
  else if status = "FILLED" ∧ !recovered.eqv order.quantity then
    [⟨.fillQuantityMismatch, some symbol, some (.str order.quantity.toStr),
      some (.str recovered.toStr)⟩]
  else if status = "PARTIALLY_FILLED" ∧ (!recovered.isPos || order.quantity.lt recovered) then
    [⟨.partialFillQuantityInvalid, some symbol, some (.str order.quantity.toStr),
      some (.str recovered.toStr)⟩]
  else []

/-- `_collect_diffs`. The list of all orders holds the objects of the ledger, so the fill pass sees
them as the order pass left them. -/
def collectDiffs (client : Client) (positions openOrders : List Json) : M (List Diff) := do
  lift (openOrders.forM checkOpenOrder)
  let s ← get
  let acc ← s.ledger.orders.foldlM (collectOrder client openOrders)
      { diffs := s.unattributedFillDiffs }
  let s ← get
  let diffs := dropRecovered s.recoveredTradeIds acc.diffs
  let unknown ← lift ((exchangeOrderIds openOrders).mapM (exchangeOrderDiffs s.ledger))
  let moved ← collectPositions positions acc
  let s ← get
  return diffs ++ unknown.flatten ++ moved ++ s.ledger.orders.flatMap (fillDiffs s.ledger.fills)

/-! ### Runs -/

/-- `_set_status` -/
def setStatus (status : Status) (diffs : List Diff) : M Unit :=
  modify fun s => { s with lastStatus := status, lastDiffs := diffs }

/-- The snapshot of a run. -/
def snapshotOf (client : Client) (account : Json) (positions : List Json) :
    M ExchangeAccountSnapshot := do
  let (pnl, known) ← dailyRealizedPnl client
  let s ← get
  let built := buildAccountSnapshot .default account positions client.env
    { realizedPnl := pnl.map Decimal.toRat, known
      asset := if client.env = .mainnet then "USDC" else "UNKNOWN"
      includesFees := known && client.env == .mainnet
      includesFunding := known && client.env == .mainnet
      windowStart := s.dailyLossWindow.map (⟨·.1, some 0⟩)
      windowEnd := s.dailyLossWindow.map (⟨·.2, some 0⟩) }
    "ETHUSDC" ⟨client.now, some 0⟩
  lift (built.mapError Failure.exn)

/-- The symbols whose trades are read: of active positions, of open orders and of local orders. -/
def symbolsOf (positions openOrders : List Json) (orders : List ExecutionOrder) :
    Except Exn (List String) := do
  let active ← positions.filterM fun position => do
    let symbol ← field position "symbol"
    if symbol.truthy then return !(← positionAmount position).isZero
    return false
  let opened ← openOrders.filterM fun row => return (← field row "symbol").truthy
  return active.map (fun p => (p.get "symbol").toStr) ++
    opened.map (fun o => (o.get "symbol").toStr) ++
    (orders.filter fun o => o.symbol ≠ "").map ExecutionOrder.symbol

/-- The part of `reconcile` and `bootstrap` from the local orders to the differences. -/
def compare (client : Client) (positions openOrders : List Json) : M (List Diff) := do
  let s ← get
  let symbols ← lift (symbolsOf positions openOrders s.ledger.orders)
  resolveMissingExchangeOrderIds client s.ledger.orders
  recoverRecentTrades client symbols
  collectDiffs client positions openOrders

/-- The body of `reconcile` inside its `try`. -/
def reconcileBody (client : Client) : M Unit := do
  let (account, positions, openOrders) ← fetchSnapshotInputs client
  lift (validateMainnetScope client.env positions openOrders)
  let snapshot ← snapshotOf client account positions
  let diffs ← compare client positions openOrders
  if !diffs.isEmpty then setStatus .mismatch diffs
  else
    updateLedger (replacePositions positions)
    modifyLedger fun l => { l with
      walletBalance := snapshot.walletBalance, marginBalance := snapshot.marginBalance,
      accountSnapshot := some snapshot }
    setStatus .inSync []

/-- A run that failed. -/
def failed (authentication other : DiffCode) (e : Exn) : M Unit := do
  if e.isAuthentication then modify fun s => { s with authenticationFailed := true }
  setStatus .unknown
    [{ code := if e.isAuthentication then authentication else other,
       exchangeValue := some (.str e.text) }]

/-- The body of `bootstrap` inside its `try`. -/
def bootstrapBody (client : Client) : M Unit := do
  let (account, positions, openOrders) ← fetchSnapshotInputs client
  lift (validateMainnetScope client.env positions openOrders)
  let snapshot ← snapshotOf client account positions
  let active ← lift (positions.filterM fun p => return !(← positionAmount p).isZero)
  let s ← get
  let owned := !s.ledger.orders.isEmpty || !s.ledger.fills.isEmpty ||
    s.ledger.positions.any fun p => !p.quantity.isZero
  modifyLedger fun l => { l with accountSnapshot := none }
  if !owned && (!active.isEmpty || !openOrders.isEmpty) then
    setStatus .unknown [⟨.exchangeStateUnowned, none, some (.str "EMPTY_LEDGER"),
      some (.obj [("active_positions", .int active.length),
        ("open_orders", .int openOrders.length)])⟩]
  else
    let diffs ← compare client positions openOrders
    if !diffs.isEmpty then setStatus .mismatch diffs
    else
      updateLedger (replacePositions active)
      forEach (fun row => updateLedger (upsertRawExchangeOrder row)) openOrders
      modifyLedger fun l => { l with accountSnapshot := some snapshot, initialized := true }
      setStatus .inSync []

/-- `bootstrap` -/
def bootstrap (client : Client) : M Unit := do
  modify fun s => { s with authenticationFailed := false, unattributedFillDiffs := [] }
  setStatus .reconciling []
  tryCatch (bootstrapBody client)
    (failed .bootstrapAuthenticationFailed .bootstrapVerificationFailed)

/-- `reconcile` of an initialized ledger. -/
def reconcileInitialized (client : Client) : M Unit := do
  modify fun s => { s with unattributedFillDiffs := [] }
  setStatus .reconciling []
  tryCatch (reconcileBody client)
    (failed .reconciliationAuthenticationFailed .reconciliationFailed)

/-- `reconcile` -/
def reconcile (client : Client) : M Status := do
  modify fun s => { s with authenticationFailed := false }
  let s ← get
  if s.ledger.initialized then reconcileInitialized client else bootstrap client
  return (← get).lastStatus

end Blessing.Binance.Reconciliation
