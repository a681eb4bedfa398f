import Blessing.Binance.Emergency
import Blessing.Lib.Coroutine

/-! # The execution adapter

The methods of `BinanceExecutionAdapter` of `venues/binance/execution.py` as programs. What a method
reads or waits for is asked of the environment: the attributes of the adapter and of the Worker, the
ledger, the reconciliation, the callbacks and the exchange. The requests that change an order are
messages. The verdict of the gates is asked for too; the program of the order gate has the market
data requests it makes. -/

namespace Blessing.Binance.Adapter

open Blessing.Lib Blessing.Lib.Values Blessing.Lib.Coroutine Blessing.Lib.Effects
open Blessing.Binance.Models Blessing.Binance.Ledger Blessing.Binance.Recovery
open Blessing.Binance.RestClient Blessing.Binance.Orders Blessing.Binance.Emergency

/-- The parts of the adapter that never change; `digest` is the first twelve digits of a SHA-256. -/
structure Config where
  env : BinanceEnvironment
  portfolioMargin : Bool
  digest : String → String

/-- A request to the order endpoint that changes an order. -/
structure Mutation where
  method : Method
  path : String
  params : List (String × String)

/-- How far the order gate comes without a market data request. -/
inductive GatePlan where
  | blocked
  | allowed (prepared : PreparedOrder)
  /-- a `MARKET` order needs an executable price -/
  | executable
  /-- the percent-price filter needs a mark price -/
  | mark

/-- A check of the order gate. -/
structure GateQuery where
  intent : OrderIntent
  riskClass : EconomicRiskClass
  reservedOpenOrders : ℕ := 0
  reservedNotional : Decimal := .ofNat 0
  excludeClientOrderId : Option String := none
  requireReduceOnly : Bool := true
  allowEmergencyFallback : Bool := false

/-- What a method asks its environment. -/
inductive Ask where
  | preflightOnly
  | workerAuthorized
  | gateCallable
  /-- the verdict of the Worker's gate apart from the kill switch -/
  | workerGate (decision : ExecutionDecision)
  | state
  | setState (state : ConnectionState)
  | privateStreamHealthy
  | authenticated
  | invalidateAuthentication
  | setLastStatusUnknown
  | reconciliationAuthenticationFailed
  | reconcile
  | recoverOrderFills (order : ExecutionOrder) (response : Json)
  | request (request : Request)
  | gate (query : GateQuery)
  | gatePriced (query : GateQuery) (price : Option Decimal)
  | cachedPrice (symbol : String) (side : Option OrderSide)
  | recordSample (symbol : String) (price : Decimal) (payload : Json)
  | hedgeMode
  | barrierInstalled
  | barrier (order : ExecutionOrder)
  | executionLease (riskClass : EconomicRiskClass)
  | notify (order : ExecutionOrder) (notice : Notice)
  | upsertOrder (order : ExecutionOrder)
  | orderByClientId (clientOrderId : String)
  | replacePositions (positions : List Json)
  | sleep
  | initSession
  | clearCapabilities
  | parseRules (exchangeInfo : Json)
  | setAuthenticated (authenticated : Bool)
  | listenKey
  | connectStream
  | close

/-- The answers. -/
abbrev Ask.Answer : Ask → Type
  | .preflightOnly | .workerAuthorized | .gateCallable | .workerGate _ => Bool
  | .state => ConnectionState
  | .privateStreamHealthy | .authenticated | .reconciliationAuthenticationFailed => Bool
  | .setState _ | .invalidateAuthentication | .setLastStatusUnknown | .upsertOrder _ | .sleep =>
    Unit
  | .clearCapabilities | .setAuthenticated _ => Unit
  | .reconcile => Except Exn Status
  | .recoverOrderFills .. | .executionLease _ | .notify .. | .replacePositions _ => Except Exn Unit
  | .request _ | .listenKey => Except Exn Json
  | .gate _ => Except Exn GatePlan
  | .gatePriced .. => Except Exn (Option PreparedOrder)
  | .cachedPrice .. => Option (Option Decimal)
  | .recordSample .. | .hedgeMode | .barrierInstalled | .connectStream => Bool
  | .barrier _ | .parseRules _ => Except Exn Bool
  | .orderByClientId _ => Option ExecutionOrder
  | .initSession | .close => Except Exn Unit

/-- A method of the adapter. -/
abbrev Prog := Task Ask Ask.Answer Mutation (Except Exn Json) Exn

/-! ### The environment -/

/-- What the environment answers. -/
def query (q : Ask) : Prog q.Answer := ask q

def preflightOnly : Prog Bool := query .preflightOnly

def workerAuthorized : Prog Bool := query .workerAuthorized

def state : Prog ConnectionState := query .state

def setState (s : ConnectionState) : Prog Unit := query (.setState s)

def privateStreamHealthy : Prog Bool := query .privateStreamHealthy

def authenticated : Prog Bool := query .authenticated

def invalidateAuthentication : Prog Unit := query .invalidateAuthentication

def setLastStatusUnknown : Prog Unit := query .setLastStatusUnknown

/-- `reconciliation.reconcile()` -/
def reconcile : Prog Status := do raising (← query .reconcile)

/-- `reconciliation._recover_order_fills` -/
def recoverFills (order : ExecutionOrder) (response : Json) : Prog Unit := do
  raising (← query (.recoverOrderFills order response))

/-- `rest_client.request("GET", …)` -/
def get (request : Request) : Prog Json := do raising (← query (.request request))

/-- `rest_client.request` of the order endpoint. -/
def mutate (m : Mutation) : Prog Json := do raising (← send m)

def upsertOrder (order : ExecutionOrder) : Prog Unit := query (.upsertOrder order)

def orderByClientId (clientOrderId : String) : Prog (Option ExecutionOrder) :=
  query (.orderByClientId clientOrderId)

/-- `_assert_execution_lease` -/
def assertExecutionLease (riskClass : EconomicRiskClass) : Prog Unit := do
  if riskClass.isRiskIncreasing then raising (← query (.executionLease riskClass))

/-- `_notify_order_submission_result`: a callback that fails leaves the adapter degraded. -/
def notify (order : ExecutionOrder) (notice : Notice) : Prog Unit := do
  match ← query (.notify order notice) with
  | .ok () => pure ()
  | .error _ =>
    setState .degraded
    setLastStatusUnknown

/-- `_evaluate_execution_gate` of the Worker: nothing passes once the kill switch is active. -/
def evaluateExecutionGate (decision : ExecutionDecision) : Prog Bool := do
  if ← readFlag then return false
  query (.workerGate decision)

/-- `getattr(authority, "kill_switch_active", False)` -/
def killSwitchActive : Prog Bool := testFlag

/-! ### Market data -/

/-- The handlers of the market data requests. -/
def marketDataFailed : Exn → Prog Unit
  | .authentication .. => do
    invalidateAuthentication
    setLastStatusUnknown
  | _ => do
    setState .degraded
    setLastStatusUnknown

/-- `Decimal(str(value))`, or its exception. -/
def decimal (v : Json) : Except Exn Decimal.Number :=
  match decimalOf v with
  | some d => .ok d
  | none => .error (.value "[<class 'decimal.ConversionSyntax'>]")

/-- A finite positive number. -/
def positive : Decimal.Number → Option Decimal
  | .finite d => if d.isPos then some d else none
  | _ => none

/-- The quote of a book ticker payload; nothing if it is of no use. -/
def quoteOf (symbol : String) (payload : Json) : Except Exn (Option (Decimal × Decimal)) := do
  if !payload.isObj || upperOf (getOr payload "symbol" (.str "")) != symbol then return none
  let bid ← decimal (payload.get "bidPrice")
  let offer ← decimal (payload.get "askPrice")
  match positive bid, positive offer, (decimalOf (payload.get "bidQty")).bind positive,
      (decimalOf (payload.get "askQty")).bind positive with
  | some bid, some offer, some _, some _ => return if offer.lt bid then none else some (bid, offer)
  | _, _, _, _ => return none

/-- `get_best_bid_ask` -/
def getBestBidAsk (symbol : String) : Prog (Option (Decimal × Decimal)) := do
  let symbol := Text.upper symbol
  let result ← attempt do
    let payload ← get ⟨"/fapi/v1/ticker/bookTicker", [("symbol", .str symbol)]⟩
    match ← raising (quoteOf symbol payload) with
    | none => return none
    | some (bid, offer) =>
      match (bid.add offer).div (.ofNat 2) with
      | none => return none
      | some price =>
        if ← query (.recordSample symbol price payload) then return some (bid, offer)
          else return none
  match result with
  | .ok quote => return quote
  | .error e =>
    marketDataFailed e
    return none

/-- The price of a mark price payload; nothing if it is of no use. -/
def markPriceOf (symbol : String) (payload : Json) : Except Exn (Option Decimal) := do
  if !payload.isObj || upperOf (getOr payload "symbol" (.str "")) != symbol then return none
  return positive (← decimal (payload.get "markPrice"))

/-- `get_fresh_market_price` -/
def getFreshMarketPrice (symbol : String) (side : Option OrderSide) : Prog (Option Decimal) := do
  let symbol := Text.upper symbol
  match ← query (.cachedPrice symbol side) with
  | some cached => return cached
  | none =>
    let result ← attempt do
      match side with
      | some side =>
        let quote ← getBestBidAsk symbol
        return quote.map fun (bid, offer) => if side = .buy then offer else bid
      | none =>
        let payload ← get ⟨"/fapi/v1/premiumIndex", [("symbol", .str symbol)]⟩
        match ← raising (markPriceOf symbol payload) with
        | none => return none
        | some price =>
          if ← query (.recordSample symbol price payload) then return some price else return none
    match result with
    | .ok price => return price
    | .error e =>
      marketDataFailed e
      return none

/-- `emergency_fallback` of the order gate -/
def GateQuery.emergencyFallback (q : GateQuery) : Bool :=
  q.allowEmergencyFallback && q.riskClass == .emergency

/-- The checks of an order, and the price they need. -/
def prepareOrder (q : GateQuery) : Prog (Option PreparedOrder) := do
  match ← raising (← query (.gate q)) with
  | .blocked => return none
  | .allowed prepared => return some prepared
  | .executable =>
    match ← getFreshMarketPrice q.intent.symbol (some q.intent.side) with
    | none => return none
    | some price => raising (← query (.gatePriced q (some price)))
  | .mark =>
    let price ← getFreshMarketPrice q.intent.symbol none
    raising (← query (.gatePriced q price))

/-- `order_gate.check`: the prepared order if the order is allowed. -/
def checkOrder (q : GateQuery) : Prog (Option PreparedOrder) := do
  if !q.emergencyFallback then
    if (← state) ≠ .ready then return none
  if !(← authenticated) then return none
  prepareOrder q

/-! ### Verification -/

/-- `sync_result == "IN_SYNC" and self.private_stream_healthy and self.authenticated` -/
def verified (sync : Status) : Prog Bool := do
  if sync ≠ .inSync then return false
  if !(← privateStreamHealthy) then return false
  authenticated

/-- The result of a reconciliation, which is unknown if it raises. -/
def reconcileOrUnknown : Prog Status := do
  match ← attempt reconcile with
  | .ok status => return status
  | .error _ => return .unknown

/-- `READY` if verified, else `DEGRADED`. -/
def settle (ready : Bool) : Prog Unit := setState (if ready then .ready else .degraded)

/-- A status of an order that was executed at least in part. -/
def isFilled (order : ExecutionOrder) : Bool :=
  ["FILLED", "PARTIALLY_FILLED"].contains (Text.upper order.status)

/-- `_post_mutation_reconcile` -/
def postMutationReconcile (order : ExecutionOrder) (response : Json) : Prog Bool := do
  setLastStatusUnknown
  let result ← attempt do
    if isFilled order then recoverFills order response
    reconcile
  match result with
  | .ok sync =>
    let ready ← verified sync
    settle ready
    return ready
  | .error (.authentication ..) =>
    invalidateAuthentication
    return false
  | .error _ =>
    setLastStatusUnknown
    setState .degraded
    return false

section Orders

variable (c : Config)

/-- `_order_path` -/
def orderPath : String := if c.portfolioMargin then "/papi/v1/um/order" else "/fapi/v1/order"

/-- The query for an order. -/
def orderRequest (symbol clientOrderId : String) : Request :=
  ⟨orderPath c, [("symbol", .str symbol), ("origClientOrderId", .str clientOrderId)]⟩

/-- What the polling of `_resolve_ambiguous_order` found. -/
structure Poll where
  recovered : Option ExecutionOrder
  orderStatusKnown : Bool
  fillRecoveryVerified : Bool

/-- A recovered order, and its fills if it has any. -/
def recoverPolled (order : ExecutionOrder) (response : Json) : Prog (Option Poll) := do
  if isFilled order then
    match ← attempt (recoverFills order response) with
    | .ok () => return some ⟨some order, true, true⟩
    | .error (.authentication ..) =>
      invalidateAuthentication
      return none
    | .error _ =>
      setLastStatusUnknown
      return some ⟨some order, true, false⟩
  else return some ⟨some order, true, true⟩

/-- One attempt of the polling; `again` follows if the order is not known yet. -/
def pollOnce (s : Submission) (again : Prog (Option Poll)) : Prog (Option Poll) := do
  let result ← attempt do
    let response ← get (orderRequest c s.prepared.symbol s.clientOrderId.1)
    let order ← raising
      (orderFromResponse s.intent response s.prepared s.clientOrderId s.decision true)
    upsertOrder order
    return (order, response)
  match result with
  | .ok (order, response) => recoverPolled order response
  | .error (.authentication ..) =>
    invalidateAuthentication
    return none
  | .error (.definitiveRejection code _) =>
    if code = -2013 then again else return some ⟨none, false, true⟩
  | .error _ => return some ⟨none, false, true⟩

/-- The polling of `_resolve_ambiguous_order` with the attempts that are left after the first;
nothing if the authentication failed. -/
def pollOrder (s : Submission) : ℕ → Prog (Option Poll)
  | 0 => pollOnce c s (return some ⟨none, true, true⟩)
  | attempts + 1 => pollOnce c s do
    query .sleep
    pollOrder s attempts

/-- `_resolve_ambiguous_order` -/
def resolveAmbiguousOrder (s : Submission) : Prog (Option ExecutionOrder) := do
  setState .reconciling
  match ← pollOrder c s 2 with
  | none => return none
  | some poll =>
    let sync ← reconcileOrUnknown
    let ready ← verified sync
    settle (ready && poll.orderStatusKnown && poll.fillRecoveryVerified)
    if (← state) = .ready then return poll.recovered else return none

/-! ### Submission -/

/-- The parameters of a new order. -/
def orderParams (hedgeMode : Bool) (s : Submission) : List (String × String) :=
  [("symbol", s.prepared.symbol), ("side", s.intent.side.value), ("type", s.prepared.orderType),
    ("quantity", s.prepared.quantity.toStr), ("newClientOrderId", s.clientOrderId.1)] ++
  (match s.prepared.price with
    | some price => [("price", price.toStr), ("timeInForce",
        if s.intent.postOnly || s.intent.timeInForce == .postOnly then "GTX"
        else Text.upper s.intent.timeInForce.value)]
    | none => []) ++
  (if hedgeMode then [("positionSide", s.intent.positionSide.value)] else []) ++
  if s.intent.reduceOnly && !hedgeMode then [("reduceOnly", "true")] else []

/-- The record of a rejected order. -/
def rejectedOrder (s : Submission) : ExecutionOrder where
  symbol := s.prepared.symbol
  side := s.intent.side
  quantity := s.prepared.quantity
  price := s.prepared.price.getD s.prepared.estimatedPrice
  orderType := s.prepared.orderType
  clientOrderId := s.clientOrderId
  status := "REJECTED"
  strategyId := s.intent.strategyId
  decisionId := some s.decision.decisionId
  targetExposureId := s.decision.targetExposureId
  sourceIntentIds := if s.decision.sourceIntentIds.isEmpty then s.intent.sourceIntentIds
    else s.decision.sourceIntentIds
  riskClass := s.decision.riskClass

/-- `_execute_decision` in front of the request: the durable barrier, the record in the ledger and
the lease. The order is skipped if the barrier does not acknowledge it. -/
def beforeRequest (s : Submission) : Prog Bool := do
  if ← query .barrierInstalled then
    let durable ← raising (← query (.barrier (planned s)))
    if !durable && s.decision.riskClass.isRiskIncreasing then
      setState .degraded
      return false
  else if c.env = .mainnet ∧ s.decision.riskClass.isRiskIncreasing then
    throw (.leaseLost "Mainnet risk-increasing order requires a durable outbox barrier")
  upsertOrder (planned s)
  assertExecutionLease s.decision.riskClass
  return true

/-- An order that was executed; `working` if it rests on the book. -/
structure Executed where
  order : ExecutionOrder
  working : Bool

/-- `_execute_decision` from the request on. -/
def postOrder (s : Submission) : Prog (Option Executed) := do
  let hedgeMode ← query .hedgeMode
  let response ← mutate ⟨.post, orderPath c, orderParams hedgeMode s⟩
  if !response.isObj then throw (.transportAmbiguity "Binance order response is invalid")
  let order ← raising
    (orderFromResponse s.intent response s.prepared s.clientOrderId s.decision false)
  upsertOrder order
  if !(← postMutationReconcile order response) then
    notify order .ambiguous
    return none
  notify order .confirmed
  return some ⟨order, order.status = "NEW" ∨ order.status = "PARTIALLY_FILLED"⟩

/-- The handlers of `_execute_decision`. -/
def submissionFailed (s : Submission) (submissionAttempted : Bool) :
    Exn → Prog (Option Executed)
  | .authentication .. => do
    invalidateAuthentication
    notify (planned s) (if submissionAttempted then .ambiguous else .rejected)
    return none
  | .rateLimit .. | .timestamp .. => do
    notify (planned s) (if submissionAttempted then .ambiguous else .rejected)
    setState .degraded
    return none
  | .definitiveRejection .. => do
    upsertOrder (rejectedOrder s)
    notify (rejectedOrder s) .rejected
    return none
  | .leaseLost _ => do
    notify (planned s) .rejected
    setState .degraded
    return none
  | .transportAmbiguity _ => do
    notify (planned s) .ambiguous
    match ← resolveAmbiguousOrder c s with
    | none => return none
    | some recovered =>
      notify recovered .confirmed
      return some ⟨recovered, false⟩
  | _ => do
    notify (planned s) (if submissionAttempted then .ambiguous else .rejected)
    setState .degraded
    return none

/-- One order of `_execute_decision`. -/
def submitOrder (s : Submission) : Prog (Option Executed) := do
  match ← attempt (beforeRequest c s) with
  | .error e => submissionFailed c s false e
  | .ok false => return none
  | .ok true =>
    match ← attempt (postOrder c s) with
    | .error e => submissionFailed c s true e
    | .ok executed => return executed

theorem bareId_ne : "BAI" ≠ "" := by decide

/-- The client order id of an order. -/
def clientOrderId (decision : ExecutionDecision) (intent : OrderIntent) (prepared : PreparedOrder)
    (index : ℕ) : ClientOrderId :=
  let id := clientOrderIdFor c.digest c.env decision.decisionId intent prepared index
  if h : id ≠ "" then ⟨id, h⟩ else ⟨"BAI", bareId_ne⟩

/-- What the orders so far keep reserved. -/
structure Reserved where
  openOrders : ℕ := 0
  notional : Decimal := .ofNat 0

/-- The loop of `_execute_decision`. -/
def submitOrders (emergency : Bool) (decision : ExecutionDecision) :
    ℕ → Reserved → List OrderIntent → Prog (List ExecutionOrder)
  | _, _, [] => return []
  | index, reserved, intent :: rest => do
    if !emergency then
      if ← killSwitchActive then
        setState .degraded
        return []
    match ← checkOrder {
        intent, riskClass := decision.riskClass, reservedOpenOrders := reserved.openOrders
        reservedNotional := reserved.notional, allowEmergencyFallback := emergency } with
    | none => submitOrders emergency decision (index + 1) reserved rest
    | some prepared =>
      let s : Submission :=
        ⟨intent, prepared, clientOrderId c decision intent prepared index, decision⟩
      match ← submitOrder c s with
      | none => submitOrders emergency decision (index + 1) reserved rest
      | some executed =>
        let reserved : Reserved := if executed.working then
            ⟨reserved.openOrders + 1, reserved.notional.add prepared.notional⟩ else reserved
        let orders ← submitOrders emergency decision (index + 1) reserved rest
        return executed.order :: orders

/-- `_execute_decision` -/
def executeOrders (emergency : Bool) (decision : ExecutionDecision) :
    Prog (List ExecutionOrder) := do
  if ← preflightOnly then return []
  if !(← workerAuthorized) then return []
  if !emergency then
    if (← state) ≠ .ready ∨ decision.action = "NOOP" then return []
  if decision.action = "NOOP" then return []
  submitOrders c emergency decision 0 {} decision.orders

/-- `execute_decision` -/
def executeDecision (decision : ExecutionDecision) : Prog (List ExecutionOrder) := do
  if ← preflightOnly then return []
  if !(← workerAuthorized) then return []
  if !(← query .gateCallable) then return []
  if !(← evaluateExecutionGate decision) then return []
  withLock do
    if !(← evaluateExecutionGate decision) then return []
    executeOrders c false decision

/-! ### Cancelling -/

/-- The answer to `query_order`: nothing if the exchange does not know the order. -/
def queryOrder (symbol id : String) : Prog (Option Json) := do
  match ← attempt (get (orderRequest c (Text.upper symbol) id)) with
  | .ok response => return some response
  | .error (.definitiveRejection code message) =>
    if code = -2013 then return none else throw (.definitiveRejection code message)
  | .error e => throw e

/-- The status of a query is taken over by the local order. -/
def adoptStatus (id : String) (response : Json) : Prog Unit := do
  match ← orderByClientId id with
  | none => pure ()
  | some order =>
    let status ← raising (field response "status")
    if status.truthy then
      upsertOrder { order with
        status := status.toStr
        exchangeOrderId := if response.get "orderId" = .null then order.exchangeOrderId
          else some (response.get "orderId").toStr }

/-- `_resolve_ambiguous_cancel` -/
def resolveAmbiguousCancel (symbol id : String) : Prog (Option Json) := do
  setState .reconciling
  match ← attempt (queryOrder c symbol id) with
  | .error (.authentication ..) =>
    invalidateAuthentication
    return none
  | .error _ =>
    let sync ← reconcileOrUnknown
    let _ ← verified sync
    setState .degraded
    return none
  | .ok response =>
    match response with
    | some response =>
      -- an answer that is no object is kept, but not taken over
      let _ ← attempt (adoptStatus id response)
    | none => pure ()
    let sync ← reconcileOrUnknown
    let ready ← verified sync
    settle ready
    return response

/-- `value in {"CANCELED", "CANCELLED"}` -/
def isCanceled (status : Json) : Except Exn Bool :=
  match status with
  | .arr _ | .obj _ => .error (.value "unhashable type")
  | status => .ok (status == .str "CANCELED" || status == .str "CANCELLED")

/-- The result of a cancellation that had to be resolved. -/
def resolvedCancel (symbol id : String) : Prog Bool := do
  let resolved ← resolveAmbiguousCancel c symbol id
  if (← state) ≠ .ready then return false
  match resolved with
  | none => return false
  | some resolved => raising (do isCanceled (← field resolved "status"))

/-- The response names the order that was to be cancelled, and says that it is. -/
def confirmsCancel (id : String) (response : Json) : Bool :=
  response.isObj && response.get "status" == .str "CANCELED" &&
    ((response.get "clientOrderId").isBlank || response.get "clientOrderId" == .str id) &&
    !((response.get "clientOrderId").isBlank && (response.get "orderId").isBlank)

/-- The request of `_cancel_order` and what follows. -/
def deleteOrder (symbol id : String) : Prog Bool := do
  let response ← mutate ⟨.delete, orderPath c,
    [("symbol", Text.upper symbol), ("origClientOrderId", id)]⟩
  if !confirmsCancel id response then resolvedCancel c symbol id
  else
    match ← orderByClientId id with
    | some order => upsertOrder { order with status := "CANCELED" }
    | none => pure ()
    setLastStatusUnknown
    let sync ← reconcileOrUnknown
    let ready ← verified sync
    settle ready
    return ready

/-- `_cancel_order` -/
def cancelLocked (symbol id : String) : Prog Bool := do
  if ← preflightOnly then return false
  if !(← workerAuthorized) then return false
  if (← state) ≠ .ready then return false
  match ← attempt (deleteOrder c symbol id) with
  | .ok canceled => return canceled
  | .error (.authentication ..) =>
    invalidateAuthentication
    return false
  | .error (.definitiveRejection ..) => resolvedCancel c symbol id
  | .error (.transportAmbiguity _) => resolvedCancel c symbol id
  | .error _ =>
    setState .degraded
    return false

/-- `cancel_order` -/
def cancelOrder (symbol id : String) : Prog Bool := do
  if ← preflightOnly then return false
  if !(← workerAuthorized) then return false
  withLock do
    if ← killSwitchActive then return false
    cancelLocked c symbol id

/-! ### Amending -/

/-- An amendment: the arguments of `modify_order`. -/
structure Amendment where
  symbol : String
  clientOrderId : String
  newPrice : Decimal.Number
  newQty : Decimal.Number
  side : String

/-- The order an amendment asks for; nothing if the amendment is invalid. The intent is validated by
its model: the numbers are finite there. -/
def amendedIntent (a : Amendment) (existing : ExecutionOrder) :
    Option (OrderIntent × EconomicRiskClass) :=
  if !(["NEW", "PARTIALLY_FILLED"].contains (Text.upper existing.status)) then none
  else if OrderSide.ofValue a.side ≠ some existing.side then none
  else
    match positive a.newQty, positive a.newPrice with
    | some quantity, some price =>
      if !existing.quantity.isPos || !existing.price.isPos then none
      else
        let increases := (existing.quantity.mul existing.price).lt (quantity.mul price)
        some ({
          clientOrderId := a.clientOrderId, symbol := Text.upper a.symbol, side := existing.side
          positionSide := existing.positionSide, orderType := "LIMIT"
          timeInForce := existing.timeInForce, quantity, price := some price
          reduceOnly := existing.reduceOnly, strategyId := existing.strategyId
          sourceIntentIds := existing.sourceIntentIds },
          if increases then .increaseRisk else .recovery)
    | _, _ => none

/-- The decision of an amendment. -/
def amendmentDecision (existing : ExecutionOrder) (intent : OrderIntent) (prepared : PreparedOrder)
    (risk : EconomicRiskClass) : ExecutionDecision where
  decisionId := match existing.decisionId with
    | some id => if id ≠ "" then id else "AMEND-" ++ intent.clientOrderId
    | none => "AMEND-" ++ intent.clientOrderId
  symbol := prepared.symbol
  action := "AMEND_ORDER"
  riskClass := risk
  orders := [intent]
  targetExposureId := existing.targetExposureId
  sourceIntentIds := existing.sourceIntentIds

/-- The parameters of an amendment. -/
def amendmentParams (hedgeMode : Bool) (s : Submission) : List (String × String) :=
  [("symbol", s.prepared.symbol), ("origClientOrderId", s.clientOrderId.1),
    ("side", s.intent.side.value), ("quantity", s.prepared.quantity.toStr),
    ("price", (s.prepared.price.map Decimal.toStr).getD "None"),
    ("timeInForce",
      if s.intent.timeInForce == .postOnly then "GTX" else s.intent.timeInForce.value)] ++
  (if hedgeMode then [("positionSide", s.intent.positionSide.value)] else []) ++
  if s.intent.reduceOnly && !hedgeMode then [("reduceOnly", "true")] else []

/-- The request of `_modify_order` and what follows. -/
def putOrder (s : Submission) : Prog (Option ExecutionOrder) := do
  let hedgeMode ← query .hedgeMode
  assertExecutionLease s.decision.riskClass
  let response ← mutate ⟨.put, orderPath c, amendmentParams hedgeMode s⟩
  if !response.isObj then throw (.transportAmbiguity "Binance amendment response is invalid")
  let amended ← raising
    (orderFromResponse s.intent response s.prepared s.clientOrderId s.decision false)
  upsertOrder amended
  if ← postMutationReconcile amended response then return some amended else return none

/-- An amendment that passed the order gate. -/
def submitAmendment (s : Submission) : Prog (Option ExecutionOrder) := do
  if !(← query .gateCallable) then return none
  if !(← evaluateExecutionGate s.decision) then return none
  match ← attempt (putOrder c s) with
  | .ok amended => return amended
  | .error (.authentication ..) =>
    invalidateAuthentication
    return none
  | .error (.definitiveRejection ..) => return none
  | .error (.rateLimit ..) => return none
  | .error (.timestamp ..) => return none
  | .error (.transportAmbiguity _) => resolveAmbiguousOrder c s
  | .error _ =>
    setState .degraded
    return none

/-- `_modify_order` -/
def modifyLocked (a : Amendment) : Prog (Option ExecutionOrder) := do
  if ← preflightOnly then return none
  if !(← workerAuthorized) then return none
  if (← state) ≠ .ready then return none
  match ← orderByClientId a.clientOrderId with
  | none => return none
  | some existing =>
    match amendedIntent a existing with
    | none => return none
    | some (intent, risk) =>
      match ← checkOrder {
          intent, riskClass := risk, excludeClientOrderId := some a.clientOrderId
          requireReduceOnly := existing.reduceOnly } with
      | none => return none
      | some prepared =>
        submitAmendment c ⟨intent, prepared, existing.clientOrderId,
          amendmentDecision existing intent prepared risk⟩

/-- `modify_order` -/
def modifyOrder (a : Amendment) : Prog (Option ExecutionOrder) := do
  if ← preflightOnly then return none
  if !(← workerAuthorized) then return none
  withLock do
    if ← killSwitchActive then return none
    modifyLocked c a

/-! ### Emergency flattening -/

/-- The loop of `_emergency_flatten`: the orders and the number of positions; no number if it met a
position it cannot read. -/
def flattenPositions (symbol : Option String) :
    ℕ → List Json → Prog (List ExecutionOrder × Option ℕ)
  | attempted, [] => return ([], some attempted)
  | attempted, position :: rest => do
    if !position.isObj then throw (.value "object has no attribute 'get'")
    let currentSymbol := upperOf (getOr position "symbol" (.str ""))
    match decimalOf (getOr position "positionAmt" (.str "0")),
        PositionSide.ofValue (upperOf (getOr position "positionSide" (.str "BOTH"))) with
    | some (.finite amount), some positionSide =>
      if currentSymbol = "" || amount.isZero || !selected symbol currentSymbol then
        flattenPositions symbol attempted rest
      else
        let orders ← executeOrders c true
          (emergencyDecision (emergencyIntent c.digest currentSymbol amount positionSide
            (attempted + 1)))
        let (more, attempted) ← flattenPositions symbol (attempted + 1) rest
        return (orders ++ more, attempted)
    | some _, some _ => throw (.value "Input should be a finite number")
    | _, _ => return ([], none)

theorem clientOrderId_emergency (p : Posted) : clientOrderId c p.decision p.intent p.prepared 0 =
    (p.submission c.digest c.env).clientOrderId := rfl

/-- The decisions of emergency orders, one after the other. -/
def executeEmergencies : List (ℕ × OrderIntent) → Prog (List ExecutionOrder)
  | [] => return []
  | (_, intent) :: rest => do
    let orders ← executeOrders c true (emergencyDecision intent)
    let more ← executeEmergencies rest
    return orders ++ more

theorem positionQuantity_ok {position : Json} {d : Decimal}
    (h : positionQuantity position = .ok d) :
    decimalOf (position.get "positionAmt") = some (.finite d) := by
  unfold positionQuantity at h
  split_ifs at h
  split at h
  case h_1 => cases h
  case h_2 hfinite =>
    cases h
    exact hfinite
  case h_3 => cases h

/-- A position the ledger takes is an object with a finite amount. -/
theorem toExchangePosition_readable {position : Json} {p : ExchangePosition}
    (h : toExchangePosition position = .ok p) : position.isObj = true ∧
      ∃ amount, decimalOf (getOr position "positionAmt" (.str "0")) = some (.finite amount) := by
  unfold toExchangePosition at h
  obtain ⟨hobj, h⟩ := except_guard_ok.mp h
  obtain ⟨amount, hamount, -⟩ := except_bind_ok.mp h
  have hread := positionQuantity_ok hamount
  refine ⟨by simpa using hobj, amount, ?_⟩
  unfold Json.get at hread
  unfold getOr
  cases hfield : position.get? "positionAmt" with
  | none =>
    rw [hfield] at hread
    cases hread
  | some v =>
    rw [hfield] at hread
    exact hread

/-- **The loop of `_emergency_flatten`**: it executes the decisions of its orders. -/
theorem flattenPositions_orders (symbol : Option String) (attempted : ℕ) {positions : List Json}
    {parsed : List ExchangePosition} (h : positions.mapM toExchangePosition = .ok parsed) :
    Prod.fst <$> flattenPositions c symbol attempted positions =
      executeEmergencies c (emergencyOrders c.digest symbol attempted positions) := by
  induction positions generalizing attempted parsed with
  | nil => rfl
  | cons position rest ih =>
    rw [List.mapM_cons] at h
    obtain ⟨p, hp, h⟩ := except_bind_ok.mp h
    obtain ⟨ps, hps, -⟩ := except_bind_ok.mp h
    obtain ⟨hobj, amount, hamount⟩ := toExchangePosition_readable hp
    simp only [flattenPositions, emergencyOrders, hobj, hamount, Bool.not_true,
      Bool.false_eq_true, if_false]
    cases hside : PositionSide.ofValue (upperOf (getOr position "positionSide" (.str "BOTH"))) with
    | none => rfl
    | some positionSide =>
      dsimp only
      split_ifs with hskipped
      · exact ih attempted hps
      · rw [executeEmergencies, ← ih (attempted + 1) hps]
        simp only [map_bind, map_pure, bind_map_left]

/-- `_position_risk_path` -/
def positionRiskPath : String :=
  if c.portfolioMargin then "/papi/v1/um/positionRisk" else "/fapi/v2/positionRisk"

/-- `_emergency_flatten` behind the answer to the position request. -/
def flattenAnswered (symbol : Option String) (answer : Json) : Prog (List ExecutionOrder) := do
  match answer with
  | .arr positions =>
    match ← query (.replacePositions positions) with
    | .error _ =>
      setLastStatusUnknown
      setState .degraded
      return []
    | .ok () =>
      let (flattened, attempted) ← flattenPositions c symbol 0 positions
      match attempted with
      | none => return flattened
      | some attempted =>
        let sync ← reconcileOrUnknown
        let ready ← verified sync
        if ready && attempted ≤ flattened.length then setState .ready
        else if !flattened.isEmpty || attempted ≠ 0 then setState .degraded
        return flattened
  | _ => return []

/-- `_emergency_flatten` -/
def flattenLocked (symbol : Option String) : Prog (List ExecutionOrder) := do
  if ← preflightOnly then return []
  if !(← workerAuthorized) then return []
  match ← attempt (get ⟨positionRiskPath c, []⟩) with
  | .ok answer => flattenAnswered c symbol answer
  | .error (.authentication ..) =>
    invalidateAuthentication
    return []
  | .error _ => return []

/-- `emergency_flatten` -/
def emergencyFlatten (symbol : Option String) : Prog (List ExecutionOrder) := do
  if ← preflightOnly then return []
  if !(← workerAuthorized) then return []
  withLock (flattenLocked c symbol)

/-! ### The connection -/

/-- The account request of `discover`: whether trading is authorized. -/
def discoverAccount : Prog Bool := do
  if c.portfolioMargin then
    let account ← get ⟨"/papi/v1/account", []⟩
    if !account.isObj || account.get "accountStatus" != .str "NORMAL" then
      throw (.value "Portfolio Margin account is not NORMAL or valid")
    let mode ← get ⟨"/papi/v1/um/positionSide/dual", []⟩
    if (mode.get? "dualSidePosition").isNone then throw (.value "Position mode response is invalid")
    return true
  else
    let account ← get ⟨"/fapi/v2/account", []⟩
    let hasAssets := match account.get "assets" with
      | .arr _ => true
      | _ => false
    if !hasAssets || (account.get? "canTrade").isNone then
      throw (.value "Signed account response is missing explicit assets or canTrade")
    let mode ← get ⟨"/fapi/v1/positionSide/dual", []⟩
    if (mode.get? "dualSidePosition").isNone then throw (.value "Position mode response is invalid")
    return exchangeBool (account.get "canTrade")

/-- `capabilities.discover` -/
def discover : Prog Bool := do
  query .clearCapabilities
  let result ← attempt do
    let tradeAuthorized ← discoverAccount c
    let exchangeInfo ← get ⟨"/fapi/v1/exchangeInfo", []⟩
    let hasRules ← raising (← query (.parseRules exchangeInfo))
    query (.setAuthenticated hasRules)
    return hasRules && tradeAuthorized
  match result with
  | .ok discovered => return discovered
  | .error _ =>
    query .clearCapabilities
    return false

/-- `user_stream.start` -/
def startStream : Prog Bool := do
  match ← attempt (do raising (← query .listenKey)) with
  | .ok data =>
    if data.isObj && (data.get "listenKey").truthy then query .connectStream else return false
  | .error (.authentication ..) =>
    invalidateAuthentication
    return false
  | .error _ => return false

/-- The end of `connect` and of a reconnection. -/
def synchronize : Prog Bool := do
  setState .syncing
  let sync ← reconcile
  if ← query .reconciliationAuthenticationFailed then invalidateAuthentication
  let ready ← verified sync
  settle ready
  return ready

/-- `connect` -/
def connect : Prog Bool := do
  setState .connecting
  let result ← attempt do
    raising (← query .initSession)
    setState .authenticating
    if !(← discover c) then
      setState .degraded
      return false
    setState .streamStarting
    if !(← startStream) then
      setState .degraded
      return false
    synchronize
  match result with
  | .ok connected => return connected
  | .error _ =>
    invalidateAuthentication
    return false

/-- `_on_user_stream_disconnect` -/
def onUserStreamDisconnect : Prog Unit := do
  setState .degraded
  let _ ← attempt do
    let _ ← reconcile
    if ← query .reconciliationAuthenticationFailed then invalidateAuthentication

/-- `_on_user_stream_reconnected` -/
def onUserStreamReconnected : Prog Unit := do
  let _ ← synchronize

/-- `refresh_market_data` -/
def refreshMarketData : List String → Prog Unit
  | [] => return ()
  | symbol :: symbols => do
    let _ ← getBestBidAsk symbol
    refreshMarketData symbols

/-- `close` -/
def close : Prog Unit := do
  raising (← query .close)
  query .clearCapabilities
  setState .disconnected

end Orders

end Blessing.Binance.Adapter
