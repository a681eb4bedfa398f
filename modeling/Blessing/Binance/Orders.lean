import Blessing.Binance.Recovery
import Blessing.Lib.Effects

/-! # Submitted orders

What `BinanceExecutionAdapter` of `venues/binance/execution.py` makes of an order it has submitted:
the response to a request must be the order that was asked for, and one that already ended is a
rejection. `noticesOf` is the part of `_execute_decision` that turns the answer to a `POST` into the
outcomes the Worker is told. -/

namespace Blessing.Binance.Orders

open Blessing.Lib Blessing.Lib.Values Blessing.Lib.Effects
open Blessing.Binance.Models Blessing.Binance.Ledger Blessing.Binance.Recovery

/-- An order of a decision; the order type is a text as in the prepared order. -/
structure OrderIntent where
  clientOrderId : String
  symbol : String
  side : OrderSide
  positionSide : PositionSide
  orderType : String
  timeInForce : TimeInForce
  quantity : Decimal
  price : Option Decimal := none
  reduceOnly : Bool := false
  postOnly : Bool := false
  strategyId : String := "portfolio"
  sourceIntentIds : List String := []
  deriving DecidableEq

/-- The order as the final gate lets it through. -/
structure PreparedOrder where
  symbol : String
  orderType : String
  quantity : Decimal
  price : Option Decimal
  estimatedPrice : Decimal
  notional : Decimal
  deriving DecidableEq

structure ExecutionDecision where
  decisionId : String
  symbol : String
  action : String
  riskClass : EconomicRiskClass
  orders : List OrderIntent
  targetExposureId : Option String := none
  sourceIntentIds : List String := []
  deriving DecidableEq

/-! ### Responses -/

/-- `str(response[k]).upper()` of a field that may be missing agrees with the submitted value. -/
def agrees (response : Json) (k expected : String) : Bool :=
  (response.get k).isBlank || upperOf (response.get k) == Text.upper expected

/-- `value in (None, "", "0", 0)` -/
def isZeroText (v : Json) : Bool :=
  v.isBlank || v == .str "0" || v == .int 0 || v == .bool false ||
    match v with
    | .float r => Json.zeroTexts.contains r
    | _ => false

/-- The price of a response: the first positive one of its fields, if any. -/
def responsePrice (response : Json) : List String → Except Exn (Option Decimal)
  | [] => .ok none
  | k :: ks =>
    if isZeroText (response.get k) then responsePrice response ks
    else
      match decimalOf (response.get k) with
      | none => .error (.transportAmbiguity "Binance order response price is invalid")
      | some (.finite d) => if d.isPos then .ok (some d) else responsePrice response ks
      | some _ => responsePrice response ks

/-- The quantity of a response must be the prepared one. -/
def checkQuantity (response : Json) (prepared : PreparedOrder) : Except Exn Unit :=
  if (response.get "origQty").isBlank then
    .error (.transportAmbiguity "Binance order response did not contain origQty")
  else
    match decimalOf (response.get "origQty") with
    | none => .error (.transportAmbiguity "Binance order response origQty is invalid")
    | some (.finite d) =>
      if !d.isPos || !d.eqv prepared.quantity then
        .error (.transportAmbiguity
          "Binance order response quantity does not match the normalized intent")
      else .ok ()
    | some _ => .error (.transportAmbiguity
        "Binance order response quantity does not match the normalized intent")

/-- The statuses of orders that have ended without being filled. -/
def terminalStatuses : List String := ["CANCELED", "CANCELLED", "EXPIRED", "REJECTED"]

/-- The price of the order: that of the response if it has one. -/
def executionPrice (response : Json) (prepared : PreparedOrder) : Except Exn Decimal := do
  let parsed ← responsePrice response ["price", "avgPrice"]
  let price := parsed.getD prepared.estimatedPrice
  if parsed.isSome && prepared.price.any fun p => !price.eqv p then
    throw (.transportAmbiguity "Binance order response price does not match the normalized intent")
  if !price.isPos then
    throw (.transportAmbiguity "Binance order response has no usable execution price")
  return price

/-- `_order_from_response`; every caller passes a decision. -/
def orderFromResponse (intent : OrderIntent) (response : Json) (prepared : PreparedOrder)
    (clientOrderId : ClientOrderId) (decision : ExecutionDecision) (allowTerminalStatus : Bool) :
    Except Exn ExecutionOrder := do
  if !response.isObj then throw (.transportAmbiguity "Binance order response is not an object")
  if (response.get "orderId").isBlank || (response.get "status").isBlank then
    throw (.transportAmbiguity "Binance order response did not contain orderId/status")
  if (response.get "symbol").isBlank || !agrees response "symbol" prepared.symbol then
    throw (.transportAmbiguity "Binance order response symbol does not match the submitted intent")
  if !(response.get "clientOrderId").isBlank &&
      (response.get "clientOrderId").toStr != clientOrderId.1 then
    throw (.transportAmbiguity
      "Binance order response clientOrderId does not match the submitted intent")
  if !agrees response "side" intent.side.value then
    throw (.transportAmbiguity "Binance order response side does not match the submitted intent")
  if !agrees response "positionSide" intent.positionSide.value then
    throw (.transportAmbiguity
      "Binance order response positionSide does not match the submitted intent")
  checkQuantity response prepared
  let status := upperOf (response.get "status")
  if !(["NEW", "PARTIALLY_FILLED", "FILLED"] ++ terminalStatuses).contains status then
    throw (.transportAmbiguity
      ("Binance order response contains an unknown status: " ++ (response.get "status").toStr))
  if !allowTerminalStatus && terminalStatuses.contains status then
    throw (.definitiveRejection (-2010) ("Binance returned terminal order status " ++ status))
  let price ← executionPrice response prepared
  if (response.get? "reduceOnly").any fun v => exchangeBool v != intent.reduceOnly then
    throw (.transportAmbiguity
      "Binance order response reduceOnly does not match the submitted intent")
  return {
    symbol := prepared.symbol, side := intent.side, quantity := prepared.quantity, price,
    orderType := prepared.orderType, clientOrderId, status,
    exchangeOrderId := some (response.get "orderId").toStr, positionSide := intent.positionSide,
    reduceOnly := intent.reduceOnly, timeInForce := intent.timeInForce,
    strategyId := intent.strategyId, decisionId := some decision.decisionId,
    targetExposureId := decision.targetExposureId, sourceIntentIds := decision.sourceIntentIds,
    riskClass := decision.riskClass }

section

variable {intent : OrderIntent} {response : Json} {prepared : PreparedOrder}
  {clientOrderId : ClientOrderId} {decision : ExecutionDecision} {order : ExecutionOrder}

theorem orderFromResponse_id {allowTerminalStatus : Bool}
    (h : orderFromResponse intent response prepared clientOrderId decision allowTerminalStatus =
      .ok order) :
    order.clientOrderId = clientOrderId := by
  unfold orderFromResponse at h
  simp only [except_guard_ok, except_bind_ok] at h
  obtain ⟨-, -, -, -, -, -, -, -, -, -, price, -, -, h⟩ := h
  cases h
  rfl

theorem orderFromResponse_exchangeId {allowTerminalStatus : Bool}
    (h : orderFromResponse intent response prepared clientOrderId decision allowTerminalStatus =
      .ok order) :
    order.exchangeOrderId = some (response.get "orderId").toStr := by
  unfold orderFromResponse at h
  simp only [except_guard_ok, except_bind_ok] at h
  obtain ⟨-, -, -, -, -, -, -, -, -, -, price, -, -, h⟩ := h
  cases h
  rfl

/-- A response that is accepted with terminal statuses is accepted without them, unless it has
one. -/
theorem orderFromResponse_direct
    (h : orderFromResponse intent response prepared clientOrderId decision true = .ok order) :
    orderFromResponse intent response prepared clientOrderId decision false =
      if terminalStatuses.contains order.status then
        .error (.definitiveRejection (-2010)
          ("Binance returned terminal order status " ++ order.status))
      else .ok order := by
  unfold orderFromResponse at h ⊢
  simp only [except_guard_ok, except_bind_ok] at h
  obtain ⟨h₁, h₂, h₃, h₄, h₅, h₆, ⟨⟩, h₇, h₈, -, price, hprice, hreduce, h⟩ := h
  cases h
  rw [if_neg h₁, if_neg h₂, if_neg h₃, if_neg h₄, if_neg h₅, if_neg h₆, h₇]
  dsimp only [bind, Except.bind]
  rw [if_neg h₈]
  split_ifs with hdirect hterminal hterminal
  · rfl
  · exact absurd hdirect hterminal
  · exact absurd hterminal hdirect
  · rw [hprice]
    rfl

end

/-! ### Outcomes -/

/-- The outcomes `_notify_order_submission_result` passes on. -/
inductive Notice where
  | confirmed
  | ambiguous
  | rejected
  deriving DecidableEq, Repr

/-- The order that was submitted. -/
structure Submission where
  intent : OrderIntent
  prepared : PreparedOrder
  clientOrderId : ClientOrderId
  decision : ExecutionDecision

/-- The order `_execute_decision` plans in front of the request. -/
def planned (s : Submission) : ExecutionOrder where
  symbol := s.prepared.symbol
  side := s.intent.side
  quantity := s.prepared.quantity
  price := s.prepared.price.getD s.prepared.estimatedPrice
  orderType := s.prepared.orderType
  clientOrderId := s.clientOrderId
  status := "PENDING"
  positionSide := s.intent.positionSide
  reduceOnly := s.intent.reduceOnly
  timeInForce := s.intent.timeInForce
  strategyId := s.intent.strategyId
  decisionId := some s.decision.decisionId
  targetExposureId := s.decision.targetExposureId
  sourceIntentIds := if s.decision.sourceIntentIds.isEmpty then s.intent.sourceIntentIds
    else s.decision.sourceIntentIds
  riskClass := s.decision.riskClass

/-- The handlers of `_execute_decision` behind a `POST`; `resolved` tells whether
`_resolve_ambiguous_order` returned the order. -/
def noticesOfError (resolved : Bool) : Exn → List Notice
  | .definitiveRejection _ _ => [.rejected]
  | .transportAmbiguity _ => if resolved then [.ambiguous, .confirmed] else [.ambiguous]
  | _ => [.ambiguous]

/-- What the Worker is told about the answer to a `POST`; `verified` is the result of
`_post_mutation_reconcile`. -/
def noticesOf (s : Submission) (answer : Except Exn Json) (verified resolved : Bool) :
    List Notice :=
  match answer.bind fun r =>
    orderFromResponse s.intent r s.prepared s.clientOrderId s.decision false with
  | .ok _ => if verified then [.confirmed] else [.ambiguous]
  | .error e => noticesOfError resolved e

end Blessing.Binance.Orders
