import Blessing.Binance.Account
import Blessing.Binance.Ledger
import Blessing.Binance.RestClient
import Blessing.Lib.Effects
import Mathlib.Data.List.Dedup
import Mathlib.Data.List.Sort

/-! # Recovering exchange state

The parts of `BinanceReconciliation` that ask the exchange: the inputs of a reconciliation, the
income of the day, the identifiers of orders, and the fills of a symbol or an order. The ledger
holds the very objects the loops run over, so what a loop does to an order is seen in the ledger at
once. -/

namespace Blessing.Binance.Recovery

open Blessing.Lib Blessing.Lib.Values Blessing.Lib.Effects
open Blessing.Binance.Models Blessing.Binance.Ledger Blessing.Binance.Account
open Blessing.Binance.RestClient

/-! ### Differences and state -/

/-- The codes of `ReconciliationDiff`. -/
inductive DiffCode where
  | exchangeFillUnknownLocally
  | orderStatusMismatch
  | orderSideMismatch
  | orderPositionSideMismatch
  | orderReduceOnlyMismatch
  | orderQuantityUnknown
  | orderQuantityMismatch
  | orderPriceUnknown
  | orderPriceMismatch
  | orderExchangeIdMismatch
  | orderClientIdMismatch
  | partialExecutedQtyUnknown
  | fillRecoveryFailed
  | localOpenOrderStatusUnknown
  | localOrderStatusUnknown
  | terminalOrderStatusMismatch
  | localOpenOrderMissingOnExchange
  | exchangeOpenOrderUnknownLocally
  | localPositionMissingOnExchange
  | positionQtyMismatch
  | exchangePositionUnknownLocally
  | terminalOrderFillMissing
  | fillQuantityMismatch
  | partialFillQuantityInvalid
  | exchangeStateUnowned
  | bootstrapAuthenticationFailed
  | bootstrapVerificationFailed
  | reconciliationAuthenticationFailed
  | reconciliationFailed
  | exchangeOrderEventUnknownLocally
  | accountUpdateInvalid
  | accountPositionUpdateInvalid
  | accountPositionUpdateIncomplete
  | accountBalanceUpdateInvalid
  | accountBalanceUpdateIncomplete
  deriving DecidableEq

/-- `ReconciliationDiff` -/
structure Diff where
  code : DiffCode
  symbol : Option String := none
  localValue : Option Json := none
  exchangeValue : Option Json := none
  deriving DecidableEq

/-- The values of `last_status`. -/
inductive Status where
  | unknown
  | reconciling
  | mismatch
  | inSync
  deriving DecidableEq, Repr

/-- The attributes of `BinanceReconciliation`, and the requests made so far with their answers. -/
structure State where
  ledger : InMemoryLedger
  log : List (Request × Except Exn Json) := []
  lastDiffs : List Diff := []
  lastStatus : Status := .unknown
  authenticationFailed : Bool := false
  unattributedFillDiffs : List Diff := []
  recoveredTradeIds : List String := []
  dailyLossWindow : Option (ℤ × ℤ) := none

/-- A method of `BinanceReconciliation`. -/
abbrev M := EStateM Exn State

/-- `rest_client.request` -/
def request (client : Client) (r : Request) : M Json := do
  let s ← get
  let answer := client.answer s.log.length r
  set { s with log := s.log ++ [(r, answer)] }
  lift answer

/-- Change the ledger. -/
def modifyLedger (f : InMemoryLedger → InMemoryLedger) : M Unit :=
  modify fun s => { s with ledger := f s.ledger }

/-- Change the ledger by an operation that may raise. -/
def updateLedger (f : InMemoryLedger → Except Exn InMemoryLedger) : M Unit := do
  let s ← get
  let ledger ← lift (f s.ledger)
  set { s with ledger }

/-! ### The inputs of a reconciliation -/

/-- The items a loop over the value sees that could be objects. -/
def items (v : Json) : Except Exn (List Json) :=
  match v with
  | .arr xs => .ok xs
  | .obj _ | .str _ => .ok []
  | _ => .error (.value "object is not iterable")

/-- `next((x for x in xs if isinstance(x, dict) and x.get("asset") == "USDC"), {})` -/
def usdcOf (xs : List Json) : Json :=
  (xs.find? fun x => x.isObj && x.get "asset" == .str "USDC").getD (.obj [])

/-- `Decimal(str(v or "0"))` -/
def decimalOrZero (v : Json) : Except Exn Decimal :=
  match decimalOf (if v.truthy then v else .str "0") with
  | some (.finite d) => .ok d
  | _ => .error (.value "[<class 'decimal.InvalidOperation'>]")

/-- The account payload made up from the portfolio-margin answers. -/
def portfolioAccount (balances : List Json) (umAssets : List Json) : Except Exn Json := do
  let balance := usdcOf balances
  let um := usdcOf umAssets
  let crossAsset := getOr balance "crossMarginAsset" (.str "0")
  let unrealizedPnl := getOr balance "umUnrealizedPNL" (.str "0")
  let cross ← decimalOrZero crossAsset
  let pnl ← decimalOrZero unrealizedPnl
  let margin (name : String) : Json := .str (getOr um name (.str "0")).toStr
  return .obj [
    ("assets", .arr [.obj [("asset", .str "USDC"), ("walletBalance", .str crossAsset.toStr),
      ("marginBalance", .str (cross.add pnl).toStr),
      ("availableBalance", .str (getOr balance "crossMarginFree" (.str "0")).toStr),
      ("unrealizedProfit", .str unrealizedPnl.toStr), ("initialMargin", margin "initialMargin"),
      ("maintMargin", margin "maintMargin"),
      ("positionInitialMargin", margin "positionInitialMargin")]]),
    ("multiAssetsMargin", .bool false), ("portfolioMargin", .bool true)]

/-- The positions of the account that `positionRisk` does not list, one for each symbol. -/
def mergePositions : List Json → List Json → List Json
  | positions, [] => positions
  | positions, p :: ps =>
    let symbol := upperOf (getOr p "symbol" (.str ""))
    if p.isObj && symbol != "" &&
        !(positions.any fun q => q.isObj && upperOf (getOr q "symbol" (.str "")) == symbol) then
      mergePositions (positions ++ [p]) ps
    else mergePositions positions ps

/-- `_fetch_reconciliation_snapshot_inputs` -/
def fetchSnapshotInputs (client : Client) : M (Json × List Json × List Json) := do
  if client.portfolioMargin then
    let positions ← request client ⟨"/papi/v1/um/positionRisk", []⟩
    let openOrders ← request client ⟨"/papi/v1/um/openOrders", []⟩
    let balances ← request client ⟨"/papi/v1/balance", []⟩
    let umAccount ← request client ⟨"/papi/v1/um/account", []⟩
    match positions, openOrders, balances, umAccount with
    | .arr positions, .arr openOrders, .arr balances, .obj umAccount =>
      let umAssets ← lift (items (getOr (.obj umAccount) "assets" (.arr [])))
      let account ← lift (portfolioAccount balances umAssets)
      let extra ← lift (items (getOr (.obj umAccount) "positions" (.arr [])))
      return (account, mergePositions positions extra, openOrders)
    | _, _, _, _ =>
      throw (.value "Binance Portfolio Margin reconciliation response is invalid")
  else
    let positions ← request client ⟨"/fapi/v2/positionRisk", []⟩
    let openOrders ← request client ⟨"/fapi/v1/openOrders", []⟩
    let account ← request client ⟨"/fapi/v2/account", []⟩
    match positions, openOrders with
    | .arr positions, .arr openOrders => return (account, positions, openOrders)
    | _, _ => throw (.value "Binance bootstrap response is invalid")

/-- The symbol of a payload on Mainnet must be `ETHUSDC`. -/
def checkScope (kind : String) (payload : Json) : Except Exn Unit := do
  let raw ← field payload "symbol"
  let symbol := if (payload.get? "symbol").isSome then normalized raw else ""
  if symbol ≠ "ETHUSDC" then
    throw (.value ("Mainnet " ++ kind ++ " is outside the configured symbol ETHUSDC: " ++
      if symbol = "" then "UNKNOWN" else symbol))

/-- `_validate_mainnet_scope` -/
def validateMainnetScope (env : BinanceEnvironment) (positions openOrders : List Json) :
    Except Exn Unit := do
  if env = .mainnet then
    openOrders.forM (checkScope "open order")
    positions.forM fun position => do
      let amount ← positionAmount position
      if !amount.isZero then checkScope "position" position

/-! ### The income of the day -/

/-- Add the rows of a page; nothing if the sum is not known any more. -/
def addIncome : Decimal → List Json → Option Decimal
  | total, [] => some total
  | total, item :: rest =>
    if !item.isObj then none
    else if normalized (getOr item "asset" (.str "")) ≠ "USDC" ∨
        normalized (getOr item "symbol" (.str "")) ≠ "ETHUSDC" then addIncome total rest
    else if ¬ ["REALIZED_PNL", "COMMISSION", "FUNDING_FEE"].contains
        (normalized (getOr item "incomeType" (.str ""))) then addIncome total rest
    else if (item.get "income").isBlank then none
    else
      match decimalOf (item.get "income") with
      | some (.finite d) => addIncome (total.add d) rest
      | _ => none

/-- The pages of the income endpoint, at most `fuel` of them; a short page is the last one. -/
def incomePages (client : Client) (start : ℤ) : ℕ → ℕ → Decimal → M (Option Decimal)
  | 0, _, _ => pure none
  | fuel + 1, page, total => do
    let payload ← request client ⟨incomePath client,
      [("symbol", .str "ETHUSDC"), ("startTime", .int (start / 1000)),
        ("endTime", .int (client.now / 1000)), ("page", .int page), ("limit", .int 1000)]⟩
    match payload with
    | .arr rows =>
      match addIncome total rows with
      | none => pure none
      | some total =>
        if rows.length < 1000 then pure (some total)
        else incomePages client start fuel (page + 1) total
    | _ => pure none

/-- `_daily_realized_pnl` -/
def dailyRealizedPnl (client : Client) : M (Option Decimal × Bool) := do
  if client.env ≠ .mainnet then return (none, true)
  let day : ℤ := 86400000000
  let start := client.now - client.now % day
  modify fun s => { s with dailyLossWindow := some (start, start + day) }
  tryCatch
    (do
      let total ← incomePages client start 100 1 (.ofNat 0)
      return (total, total.isSome))
    fun _ => return (none, false)

/-! ### Order identifiers -/

/-- `bool(order.exchange_order_id)` -/
def hasExchangeId (order : ExecutionOrder) : Bool := order.exchangeOrderId.any (· ≠ "")

/-- The order of `_resolve_missing_exchange_order_ids`. -/
def resolveOrderId (client : Client) (order : ExecutionOrder) : M Unit := do
  if order.clientOrderId.1 ≠ "" ∧ ¬ hasExchangeId order then
    tryCatch
      (do
        let info ← request client ⟨orderPath client, [("symbol", .str order.symbol),
          ("origClientOrderId", .str order.clientOrderId.1)]⟩
        if info.isObj && (info.get "orderId").truthy then
          modifyLedger
            (upsertOrder { order with exchangeOrderId := some (info.get "orderId").toStr }))
      fun _ => pure ()

/-- `_resolve_missing_exchange_order_ids` -/
def resolveMissingExchangeOrderIds (client : Client) (orders : List ExecutionOrder) : M Unit :=
  forEach (resolveOrderId client) orders

/-! ### Fills -/

/-- The fields of a trade that must be there. -/
def tradeFields : List String :=
  ["id", "orderId", "symbol", "side", "positionSide", "qty", "price", "commission",
    "commissionAsset", "realizedPnl", "maker", "time"]

/-- `v or default` of a payload value and a text, as a text. -/
def textOr (v : Json) (default : String) : String := if v.truthy then v.toStr else default

/-- `_exchange_fill_from_trade` for a trade of a local order. -/
def exchangeFillFromTrade (trade : Json) (order : ExecutionOrder) (source : String) :
    Except Exn ExchangeFill := do
  let absent := missing tradeFields trade
  if !absent.isEmpty then
    throw (.fillRecovery ("Trade is missing required fields: " ++ Text.join ", " absent))
  let symbol := Text.upper (textOr (trade.get "symbol") order.symbol)
  let clientOrderId := textOr (trade.get "clientOrderId") order.clientOrderId.1
  if symbol = "" ∨ clientOrderId = "" then
    throw (.fillRecovery "Trade is missing symbol or clientOrderId")
  if symbol ≠ Text.upper order.symbol then
    throw (.fillRecovery "Trade symbol does not match the local order")
  if hasExchangeId order ∧ (trade.get "orderId").toStr ≠ exchangeIdText order then
    throw (.fillRecovery "Trade order ID does not match the local order")
  if (trade.get "clientOrderId").truthy ∧
      (trade.get "clientOrderId").toStr ≠ order.clientOrderId.1 then
    throw (.fillRecovery "Trade clientOrderId does not match the local order")
  let side := OrderSide.ofValue (textOr (trade.get "side") order.side.value)
  let positionSide :=
    PositionSide.ofValue (Text.upper (textOr (trade.get "positionSide") order.positionSide.value))
  match side, positionSide, decimalOf (trade.get "qty"), decimalOf (trade.get "price"),
      decimalOf (trade.get "commission"), decimalOf (trade.get "realizedPnl") with
  | some side, some positionSide, some quantity, some price, some commission, some realizedPnl =>
    if side ≠ order.side then throw (.fillRecovery "Trade side does not match the local order")
    if positionSide ≠ order.positionSide then
      throw (.fillRecovery "Trade positionSide does not match the local order")
    match quantity, price, commission, realizedPnl with
    | .finite quantity, .finite price, .finite commission, .finite realizedPnl =>
      if !quantity.isPos || !price.isPos || commission.isNeg ||
          (trade.get "commissionAsset").toStr == "" then
        throw (.fillRecovery "Trade contains unusable fill economics")
      return {
        exchangeTradeId := (trade.get "id").toStr, exchangeOrderId := (trade.get "orderId").toStr,
        clientOrderId, symbol, side, positionSide, quantity, price, commission,
        commissionAsset := (trade.get "commissionAsset").toStr, realizedPnl,
        maker := exchangeBool (trade.get "maker"), eventTime := trade.get "time",
        transactionTime := trade.get "time", source, strategyId := order.strategyId,
        decisionId := order.decisionId, targetExposureId := order.targetExposureId,
        sourceIntentIds := order.sourceIntentIds }
    | _, _, _, _ => throw (.fillRecovery "Trade contains non-finite fill fields")
  | _, _, _, _, _, _ => throw (.fillRecovery "Trade contains invalid fill fields")

/-- The local order of a trade: by the exchange's identifier, then by the client's. -/
def lineage (l : InMemoryLedger) (trade : Json) : Option ExecutionOrder :=
  (getOrderByExchangeId l (trade.get "orderId").toStr).or
    (if (trade.get "clientOrderId").truthy then
      getOrderByClientId l (trade.get "clientOrderId").toStr else none)

/-- The identifier of a trade in the report of a foreign fill. -/
def tradeIdentifier (trade : Json) : String :=
  textOr (trade.get "id") (textOr (trade.get "orderId") "UNKNOWN")

/-- One trade of `_recover_recent_trades`. -/
def recoverTrade (client : Client) (symbol : String) (diffs : List Diff) (trade : Json) :
    M (List Diff) := do
  if !trade.isObj then throw (.value "object has no attribute 'get'")
  let s ← get
  match lineage s.ledger trade with
  | none => return diffs ++ [{
      code := .exchangeFillUnknownLocally
      symbol := some (Text.upper (textOr (trade.get "symbol") symbol))
      exchangeValue := some (.str (tradeIdentifier trade)) }]
  | some order =>
    let fill ← lift (exchangeFillFromTrade trade order (client.env.label ++ "_BOOTSTRAP"))
    modifyLedger (appendFill fill)
    return diffs

/-- The request for the trades of a symbol. -/
def tradesRequest (client : Client) (symbol : String) : Request :=
  ⟨userTradesPath client, [("symbol", .str symbol), ("limit", .int 1000)]⟩

/-- The trades of one symbol in `_recover_recent_trades`. -/
def recoverSymbol (client : Client) (diffs : List Diff) (symbol : String) : M (List Diff) := do
  let answer ← request client (tradesRequest client symbol)
  match answer with
  | .arr trades => trades.foldlM (recoverTrade client symbol) diffs
  | _ => throw (.fillRecovery ("userTrades response for " ++ symbol ++ " is invalid"))

/-- `sorted({str(item).upper() for item in symbols if item})` -/
def sortedSymbols (symbols : List String) : List String :=
  (((symbols.filter (· ≠ "")).map Text.upper).dedup).insertionSort (· ≤ ·)

/-- `_recover_recent_trades` -/
def recoverRecentTrades (client : Client) (symbols : List String) : M Unit := do
  let diffs ← (sortedSymbols symbols).foldlM (recoverSymbol client) []
  modify fun s => { s with unattributedFillDiffs := diffs }

/-- `str(trade[k])` for the identifiers of a trade that are there. -/
def tradeIds (trade : Json) : List String :=
  (["id", "orderId"].filter fun k => !(trade.get k).isBlank).map fun k => (trade.get k).toStr

/-- One trade of `_recover_order_fills`: its identifiers are noted before it is read. -/
def recoverFill (client : Client) (order : ExecutionOrder) (fills : List ExchangeFill)
    (trade : Json) : M (List ExchangeFill) := do
  modify fun s => { s with recoveredTradeIds := s.recoveredTradeIds ∪ tradeIds trade }
  let fill ← lift (exchangeFillFromTrade trade order (client.env.label ++ "_RECOVERY"))
  return fills ++ [fill]

/-- The trades with the order's identifier. -/
def matchingTrades (orderId : String) (trades : List Json) : Except Exn (List Json) :=
  if trades.all Json.isObj then .ok (trades.filter fun t => (t.get "orderId").toStr == orderId)
  else .error (.value "object has no attribute 'get'")

/-- The quantity checks of `_recover_order_fills`. -/
def checkRecovered (order : ExecutionOrder) (orderStatus : Json) (fills : List ExchangeFill) :
    Except Exn Unit := do
  let recovered := Decimal.sum (fills.map ExchangeFill.quantity)
  let expected := orderStatus.get "executedQty"
  if !expected.isBlank then
    match decimalOf expected with
    | none => throw (.fillRecovery "Order executedQty is invalid")
    | some (.finite d) =>
      if d.isNeg || !recovered.eqv d then
        throw (.fillRecovery "Recovered fill quantity does not match exchange executedQty")
    | some _ => throw (.fillRecovery "Recovered fill quantity does not match exchange executedQty")
  if upperOf (getOr orderStatus "status" (.str "")) = "FILLED" then
    if !recovered.eqv order.quantity then
      throw (.fillRecovery "FILLED order recovered fill quantity does not match origQty")
  else if !recovered.isPos || order.quantity.lt recovered then
    throw (.fillRecovery "PARTIALLY_FILLED order has invalid recovered fill quantity")

/-- The order id of `_recover_order_fills`. -/
def recoveryOrderId (order : ExecutionOrder) (orderStatus : Json) : Except Exn Json :=
  if (orderStatus.get "orderId").truthy then .ok (orderStatus.get "orderId")
  else if hasExchangeId order then .ok (.str (exchangeIdText order))
  else .error (.fillRecovery "Filled order has no exchange order ID")

/-- `_recover_order_fills` -/
def recoverOrderFills (client : Client) (order : ExecutionOrder) (orderStatus : Json) : M ℕ := do
  let orderId ← lift (recoveryOrderId order orderStatus)
  let answer ← request client ⟨userTradesPath client,
    [("symbol", .str order.symbol), ("orderId", orderId), ("limit", .int 1000)]⟩
  match answer with
  | .arr trades =>
    let trades ← lift (matchingTrades orderId.toStr trades)
    if trades.isEmpty then
      throw (.fillRecovery ("No fills recovered for exchange order " ++ orderId.toStr ++
        " reported " ++ (orderStatus.get "status").toStr))
    let fills ← trades.foldlM (recoverFill client order) []
    lift (checkRecovered order orderStatus fills)
    forEach (fun fill => modifyLedger (appendFill fill)) fills
    return fills.length
  | _ => throw (.fillRecovery "userTrades recovery response is invalid")

end Blessing.Binance.Recovery
