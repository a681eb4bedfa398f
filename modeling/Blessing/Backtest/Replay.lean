import Blessing.Backtest.Economic
import Blessing.Engines.Governor
import Mathlib

/-! # The deterministic replay

`DeterministicReplay.run` of `backtest/replay.py`: recorded events go through the allocator, the
recovery engine and the governor, and the orders of a decision are filled against the recorded top
of book. What the strategy engines answer to an event is given with the event. Besides what it
returns, a run keeps a history, which no step reads: the funding it applied, and its fills with the
positions around them. -/

namespace Blessing.Backtest.Replay

open Blessing.Lib Blessing.Lib.Rounding Blessing.Lib.Effects
open Blessing.Binance.Models (OrderSide PositionSide EconomicRiskClass Exn)
open Blessing.Engines.Intents Blessing.Engines.ExposureRecovery Blessing.Engines.Governor
open Blessing.Backtest.Economic

/-! ### Records -/

/-- `HistoricalMarketEvent` -/
structure HistoricalMarketEvent where
  eventId : String
  eventTime : ℤ
  symbol : String
  venue : String
  marketType : MarketType
  bestBid : ℚ
  bestAsk : ℚ
  bidQty : ℚ
  askQty : ℚ
  markPrice : ℚ
  fundingRate : Option ℚ := none
  fundingEvent : Bool := false
  dataSource : String
  /-- what the constructor checks -/
  positive : 0 < bestBid ∧ 0 < bidQty ∧ 0 < askQty ∧ 0 < markPrice
  uncrossed : bestBid ≤ bestAsk
  settled : fundingRate.isSome = fundingEvent := by rfl

/-- `ReplaySymbolRules` -/
structure ReplaySymbolRules where
  symbol : String
  stepSize : ℚ
  minQuantity : ℚ
  maxQuantity : Option ℚ := none
  minNotional : ℚ
  maxNotional : Option ℚ := none
  /-- what the constructor checks -/
  positive : 0 < stepSize ∧ 0 < minQuantity ∧ 0 < minNotional

/-- `ReplayExecutionConfig` -/
structure ReplayExecutionConfig where
  initialCapital : ℚ
  costModel : EconomicCostModel
  marketSlippageBps : ℚ
  fundingIntervalSec : ℕ
  symbolRules : List ReplaySymbolRules
  maxSingleOrderNotional : ℚ := 100
  maxTotalOpenNotional : ℚ := 100
  maxActiveExposureChains : ℕ := 1
  maxTargetGrossQty : ℚ := 2
  maxLeverage : ℚ := 2
  maxDrawdownPct : ℚ := 6
  maxMarginUtilizationPct : ℚ := 70
  requireFundingEvents : Bool := true
  forceCloseAtEnd : Bool := true
  /-- what the constructor checks -/
  positive : 0 < initialCapital ∧ 0 ≤ marketSlippageBps ∧ 0 < maxTargetGrossQty ∧ 0 < maxLeverage

/-- `rules_for` -/
def ReplayExecutionConfig.rulesFor (config : ReplayExecutionConfig) (symbol : String) :
    Except Failure ReplaySymbolRules :=
  match config.symbolRules.find? fun rule => rule.symbol = normalized symbol with
  | some rule => .ok rule
  | none => .error (.validation ("no captured exchange rules for " ++ normalized symbol))

/-- `_PositionState` -/
structure PositionState where
  signedQty : ℚ
  referenceEntryPrice : ℚ
  entryTime : ℤ
  entryNotional : ℚ
  entrySpreadBps : ℚ
  entrySlippageBps : ℚ
  strategyId : String
  regime : String
  sourceIntentIds : List String
  fundingPnl : ℚ := 0

/-- Why an order was filled or not. -/
inductive Reason where
  | text (t : String)
  | decision (r : Rational)
  deriving DecidableEq, Repr

/-- `ReplayOrderRecord` -/
structure ReplayOrderRecord where
  eventId : String
  timestamp : ℤ
  decisionId : String
  clientOrderId : Option String := none
  riskClass : EconomicRiskClass
  accepted : Bool
  reason : Reason
  exchangeOrderId : Option String := none

/-- `ReplayEquityPoint` -/
structure ReplayEquityPoint where
  eventId : String
  timestamp : ℤ
  positionQty : ℚ
  unrealizedPnl : ℚ
  openFundingPnl : ℚ
  equity : ℚ

/-- `ExchangeFill` of a replay. -/
structure ExchangeFill where
  exchangeTradeId : String
  exchangeOrderId : String
  clientOrderId : String
  symbol : String
  side : OrderSide
  positionSide : PositionSide
  quantity : ℚ
  price : ℚ
  commission : ℚ
  commissionAsset : String := "USDT"
  realizedPnl : ℚ
  maker : Bool := false
  eventTime : ℤ
  transactionTime : ℤ
  source : String := "RESEARCH_REPLAY"
  strategyId : String
  decisionId : Option String
  targetExposureId : Option String
  sourceIntentIds : List String

/-- What the engines in front of the allocator make of an event. -/
structure Analysis where
  /-- the primary regime of the market state -/
  regime : String
  /-- `_strategy_intents`, given the grid depth it passes on -/
  intents : ℕ → List StrategyIntent

/-- An event and its analysis, none where the price action has no state yet. -/
structure Observed where
  event : HistoricalMarketEvent
  analysis : Option Analysis

/-- How the replay prints a time and hashes a target. -/
structure Platform where
  stamp : Instant → String
  digest : String → Instant → List String → String

/-! ### State -/

/-- The runtime of a `DeterministicReplay`. -/
structure DeterministicReplay where
  position : Option PositionState := none
  realizedNetPnl : ℚ := 0
  peakEquity : ℚ
  activeExposureChains : ℕ := 0
  lastFundingAt : Option ℤ := none
  fundingEventSeen : Bool := false
  gridDepth : ℕ := 0
  tradeSequence : ℕ := 0
  fillSequence : ℕ := 0
  /-- of the recovery engine -/
  states : States := fun _ => none
  /-- of the governor -/
  sequence : ℕ := 0

/-- A fill that was applied. -/
structure Applied where
  before : Option PositionState
  after : Option PositionState
  fill : ExchangeFill
  event : HistoricalMarketEvent
  /-- an intent of the grid was among those of the decision -/
  grid : Bool

/-- A run so far: the runtime, what it has recorded, and its history. -/
structure Run where
  replay : DeterministicReplay
  strategyIntents : List StrategyIntent := []
  targetExposures : List TargetExposure := []
  riskSnapshots : List RiskSnapshot := []
  executionDecisions : List ExecutionDecision := []
  decisions : List ReplayOrderRecord := []
  fills : List ExchangeFill := []
  trades : List BacktestTrade := []
  equityCurve : List ReplayEquityPoint := []
  /-- history: the funding applied -/
  fundings : List ℚ := []
  /-- history: the fills -/
  applied : List Applied := []

/-- `self._position.signed_qty if self._position else Decimal(0)` -/
def DeterministicReplay.signedQty (s : DeterministicReplay) : ℚ :=
  (s.position.map PositionState.signedQty).getD 0

/-- The funding of the open position. -/
def DeterministicReplay.openFunding (s : DeterministicReplay) : ℚ :=
  (s.position.map PositionState.fundingPnl).getD 0

section

variable (c : Context) (config : ReplayExecutionConfig)

/-! ### Equity, risk and funding -/

/-- `_current_unrealized` -/
def currentUnrealized (s : DeterministicReplay) (markPrice : ℚ) : ℚ :=
  match s.position with
  | none => 0
  | some p => c.mul (c.sub markPrice p.referenceEntryPrice) p.signedQty

/-- `_current_equity` -/
def currentEquity (s : DeterministicReplay) (markPrice : ℚ) : ℚ :=
  c.add (c.add (c.add config.initialCapital s.realizedNetPnl) s.openFunding)
    (currentUnrealized c s markPrice)

/-- `_equity_point` -/
def equityPoint (s : DeterministicReplay) (event : HistoricalMarketEvent) : ReplayEquityPoint :=
  ⟨event.eventId, event.eventTime, s.signedQty, currentUnrealized c s event.markPrice,
    s.openFunding, currentEquity c config s event.markPrice⟩

/-- `_risk_snapshot`, with the new peak. -/
def riskSnapshot (s : DeterministicReplay) (event : HistoricalMarketEvent) :
    RiskSnapshot × DeterministicReplay :=
  let equity := currentEquity c config s event.markPrice
  let peakEquity := max s.peakEquity equity
  let notional := c.mul (c.magnitude s.signedQty) event.markPrice
  let effectiveLeverage := if 0 < equity then some (c.div notional equity) else none
  let marginUtilization :=
    match effectiveLeverage with
    | some leverage => c.div (c.mul 100 leverage) config.maxLeverage
    | none => 100
  let riskState :=
    if equity ≤ 0 then .emergency else if s.position.isSome then .noNewRisk else .normal
  ({ portfolioEquity := equity
     unrealizedPnl := currentUnrealized c s event.markPrice
     realizedPnl24h := s.realizedNetPnl
     marginUtilizationPct := max 0 marginUtilization
     effectiveLeverage := max 0 (effectiveLeverage.getD 0)
     currentDrawdownPct := max 0 (drawdownPct c peakEquity equity)
     liquidationDistancePct := none
     riskState }, { s with peakEquity })

/-- The part of `_apply_funding` for an event that settles: the funding of the position. -/
def settlement (p : PositionState) (event : HistoricalMarketEvent) (seen : Bool)
    (elapsed interval : ℤ) : Except Failure ℚ :=
  match event.fundingRate with
  | none => .error (.validation ("funding event " ++ event.eventId ++ " has no rate"))
  | some rate => do
    if config.requireFundingEvents ∧ seen ∧ elapsed < interval then
      throw (.validation
        ("funding event " ++ event.eventId ++ " arrived before its configured interval"))
    if config.requireFundingEvents ∧ interval < elapsed then
      throw (.validation
        ("funding event gap before " ++ event.eventId ++ " exceeds the configured interval"))
    return c.mul (c.mul (c.minus p.signedQty) event.markPrice) rate

/-- `_apply_funding`: the funding applied, and the runtime after it. -/
def applyFunding (s : DeterministicReplay) (event : HistoricalMarketEvent) :
    Except Failure (Option ℚ × DeterministicReplay) :=
  match s.position with
  | none => .ok (none, s)
  | some p => do
    let lastFundingAt := s.lastFundingAt.getD p.entryTime
    let elapsed := event.eventTime - lastFundingAt
    let interval : ℤ := config.fundingIntervalSec * 1000000
    if config.requireFundingEvents ∧ interval ≤ elapsed ∧ ¬ event.fundingEvent then
      throw (.validation ("missing funding event before " ++ event.eventId ++
        " for " ++ event.symbol))
    if event.fundingEvent then do
      let fundingPnl ← settlement c config p event s.fundingEventSeen elapsed interval
      return (some fundingPnl, { s with
        position := some { p with fundingPnl := c.add p.fundingPnl fundingPnl }
        lastFundingAt := some event.eventTime
        fundingEventSeen := true })
    else return (none, { s with lastFundingAt := some lastFundingAt })

/-! ### The order gate -/

/-- `to_integral_value(rounding=ROUND_DOWN)` -/
def truncate (x : ℚ) : ℤ := if 0 ≤ x then ⌊x⌋ else ⌈x⌉

/-- `_normalise_quantity` -/
def normaliseQuantity (quantity stepSize : ℚ) : ℚ :=
  c.mul (truncate (c.div quantity stepSize)) stepSize

/-- `_market_fill_price` -/
def marketFillPrice (side : OrderSide) (event : HistoricalMarketEvent) : ℚ :=
  match side with
  | .buy => c.mul event.bestAsk (c.add 1 (c.div config.marketSlippageBps 10000))
  | .sell => c.mul event.bestBid (c.sub 1 (c.div config.marketSlippageBps 10000))

/-- The checks of `_order_gate` on the kind of the order. -/
def gateKind (order : OrderIntent) (event : HistoricalMarketEvent) : Except String Unit := do
  if order.symbol ≠ event.symbol then throw "order symbol does not match event symbol"
  if order.marketType ≠ .usdmFutures then throw "order market type is not USDⓈ-M futures"
  if order.orderType ≠ .market then throw "replay supports only the existing market-order pipeline"
  if order.positionSide ≠ .both then throw "replay does not support hedge-mode position legs"
  if order.price.isSome then throw "market order must not carry a synthetic price"
  if order.postOnly then throw "market order cannot be post-only"
  if order.quantity ≤ 0 then throw "order quantity must be finite and positive"

/-- The recorded depth on the side an order takes from. -/
def availableDepth (side : OrderSide) (event : HistoricalMarketEvent) : ℚ :=
  match side with
  | .buy => event.askQty
  | .sell => event.bidQty

/-- The checks of `_order_gate` on the normalized quantity and its price. -/
def gateFill (rules : ReplaySymbolRules) (order : OrderIntent) (event : HistoricalMarketEvent) :
    Except String (ℚ × ℚ) := do
  let quantity := normaliseQuantity c order.quantity rules.stepSize
  if quantity < rules.minQuantity ∨ quantity ≤ 0 then
    throw "normalized quantity is below the captured minimum"
  if rules.maxQuantity.any fun maxQuantity => maxQuantity < quantity then
    throw "normalized quantity exceeds the captured maximum"
  let fillPrice := marketFillPrice c config order.side event
  let notional := c.mul quantity fillPrice
  if notional < rules.minNotional then
    throw "simulated order notional is below the captured minimum"
  if rules.maxNotional.any fun maxNotional => maxNotional < notional then
    throw "simulated order notional exceeds the captured maximum"
  if availableDepth order.side event < quantity then
    throw "recorded top-of-book depth cannot fill the order"
  return (quantity, fillPrice)

/-- `quantity if order.side == OrderSide.BUY else -quantity` -/
def signedOrderQty (side : OrderSide) (quantity : ℚ) : ℚ :=
  match side with
  | .buy => quantity
  | .sell => c.minus quantity

/-- The two quantities differ in their direction. -/
def opposite (currentQty signedQty : ℚ) : Prop := ¬ (0 < currentQty ↔ 0 < signedQty)

instance (currentQty signedQty : ℚ) : Decidable (opposite currentQty signedQty) :=
  inferInstanceAs (Decidable (¬ (0 < currentQty ↔ 0 < signedQty)))

/-- `is_reducing` -/
def isReducing (currentQty : ℚ) (side : OrderSide) (quantity : ℚ) : Bool :=
  currentQty ≠ 0 ∧ signedOrderQty c side quantity ≠ 0 ∧
    opposite currentQty (signedOrderQty c side quantity) ∧ quantity ≤ c.magnitude currentQty

/-- The checks of `_order_gate` on the exposure. -/
def gateExposure (s : DeterministicReplay) (order : OrderIntent) (riskClass : EconomicRiskClass)
    (event : HistoricalMarketEvent) (quantity fillPrice : ℚ) : Except String Unit := do
  let signedQty := signedOrderQty c order.side quantity
  let reducing := isReducing c s.signedQty order.side quantity
  if order.reduceOnly ∧ ¬ reducing then
    throw "reduce-only order does not reduce the authoritative simulated position"
  if ¬ order.reduceOnly ∧ s.signedQty ≠ 0 ∧ opposite s.signedQty signedQty then
    throw "risk-increasing order would cross through zero"
  if (riskClass = .newRisk ∨ riskClass = .increaseRisk) ∧ reducing then
    throw "risk class conflicts with reducing order semantics"
  if (riskClass = .newRisk ∨ riskClass = .increaseRisk) ∧
      config.maxSingleOrderNotional < c.mul quantity fillPrice then
    throw "order exceeds the configured replay launch cap"
  if (riskClass = .newRisk ∨ riskClass = .increaseRisk) ∧
      config.maxTotalOpenNotional <
        c.mul (c.magnitude (c.add s.signedQty signedQty)) event.markPrice then
    throw "total open notional exceeds the configured replay launch cap"
  if (riskClass = .newRisk ∨ riskClass = .increaseRisk) ∧ s.signedQty = 0 ∧
      config.maxActiveExposureChains ≤ s.activeExposureChains then
    throw "active exposure-chain limit is reached"

/-- `_order_gate`: the normalized order and its price, or the reason against it. -/
def orderGate (s : DeterministicReplay) (order : OrderIntent) (riskClass : EconomicRiskClass)
    (event : HistoricalMarketEvent) : Except Failure (Except String (OrderIntent × ℚ)) :=
  match gateKind order event with
  | .error reason => .ok (.error reason)
  | .ok _ => do
    let rules ← config.rulesFor event.symbol
    return do
      let filled ← gateFill c config rules order event
      gateExposure c config s order riskClass event filled.1 filled.2
      return ({ order with quantity := filled.1 }, filled.2)

/-! ### Fills -/

/-- `_spread_bps` -/
def spreadBps (event : HistoricalMarketEvent) : ℚ :=
  let midpoint := c.div (c.add event.bestBid event.bestAsk) 2
  if 0 < midpoint then c.mul (c.div (c.sub event.bestAsk event.bestBid) midpoint) 10000 else 0

/-- `_append_trade_for_reduction` of an open position: the trade, and the runtime after it. -/
def appendTradeForReduction (s : DeterministicReplay) (position : PositionState)
    (quantity exitMid exitFillPrice : ℚ) (event : HistoricalMarketEvent) :
    Except Failure (BacktestTrade × DeterministicReplay) := do
  let oldAbsQty := c.magnitude position.signedQty
  let fundingShare := c.div (c.mul position.fundingPnl quantity) oldAbsQty
  let grossPnl :=
    c.mul (c.sub exitMid position.referenceEntryPrice)
      (if 0 < position.signedQty then quantity else c.minus quantity)
  let entryNotional := c.div (c.mul position.entryNotional quantity) oldAbsQty
  let tradeSequence := s.tradeSequence + 1
  let trade ← newTrade {
    tradeId := "REPLAY-TRADE-" ++ padded tradeSequence
    timestamp := event.eventTime
    symbol := event.symbol
    strategyId := position.strategyId
    dataSource := event.dataSource
    regime := position.regime
    grossPnl
    fundingPnl := fundingShare
    entryNotional
    exitNotional := c.mul quantity exitFillPrice
    entrySpreadBps := position.entrySpreadBps
    exitSpreadBps := spreadBps c event
    entrySlippageBps := position.entrySlippageBps
    exitSlippageBps := config.marketSlippageBps }
  return (trade, { s with
    tradeSequence
    realizedNetPnl := c.add s.realizedNetPnl (costTrade c config.costModel trade).netPnl })

/-- The position an order opens. -/
def openedPosition (order : OrderIntent) (fillPrice : ℚ) (event : HistoricalMarketEvent)
    (strategyId regime : String) : PositionState where
  signedQty := signedOrderQty c order.side order.quantity
  referenceEntryPrice := c.div (c.add event.bestBid event.bestAsk) 2
  entryTime := event.eventTime
  entryNotional := c.mul order.quantity fillPrice
  entrySpreadBps := spreadBps c event
  entrySlippageBps := config.marketSlippageBps
  strategyId
  regime
  sourceIntentIds := order.sourceIntentIds

/-- The position after an order in its direction. -/
def increasedPosition (p : PositionState) (order : OrderIntent) (fillPrice : ℚ)
    (event : HistoricalMarketEvent) : PositionState :=
  let midpoint := c.div (c.add event.bestBid event.bestAsk) 2
  let notional := c.mul order.quantity fillPrice
  let oldQty := c.magnitude p.signedQty
  let newQty := c.add oldQty order.quantity
  let entryNotional := c.add p.entryNotional notional
  { p with
    referenceEntryPrice :=
      c.div (c.add (c.mul p.referenceEntryPrice oldQty) (c.mul midpoint order.quantity)) newQty
    entryNotional
    entrySpreadBps :=
      c.div (c.add (c.mul p.entrySpreadBps p.entryNotional) (c.mul (spreadBps c event) notional))
        entryNotional
    signedQty := c.add p.signedQty (signedOrderQty c order.side order.quantity)
    sourceIntentIds := (p.sourceIntentIds ++ order.sourceIntentIds).eraseDups }

/-- The position after an order against it. -/
def reducedPosition (p : PositionState) (order : OrderIntent) : PositionState :=
  let oldQty := c.magnitude p.signedQty
  { p with
    fundingPnl := c.sub p.fundingPnl (c.div (c.mul p.fundingPnl order.quantity) oldQty)
    entryNotional := c.sub p.entryNotional (c.div (c.mul p.entryNotional order.quantity) oldQty)
    signedQty := c.add p.signedQty (signedOrderQty c order.side order.quantity) }

/-- The runtime with the position after a reduction. -/
def DeterministicReplay.reduceTo (s : DeterministicReplay) (p : PositionState) :
    DeterministicReplay :=
  if p.signedQty = 0 then
    { s with
      position := none
      activeExposureChains := s.activeExposureChains - 1
      lastFundingAt := none
      fundingEventSeen := false }
  else { s with position := some p }

/-- What a fill does to the position: a trade if it reduces, and the runtime after it. -/
def fillPosition (s : DeterministicReplay) (order : OrderIntent) (fillPrice : ℚ)
    (event : HistoricalMarketEvent) (strategyId regime : String) :
    Except Failure (Option BacktestTrade × DeterministicReplay) :=
  match s.position with
  | none =>
    .ok (none, { s with
      position := some (openedPosition c config order fillPrice event strategyId regime)
      activeExposureChains := s.activeExposureChains + 1
      lastFundingAt := some event.eventTime
      fundingEventSeen := false })
  | some p =>
    if opposite p.signedQty (signedOrderQty c order.side order.quantity) then do
      let midpoint := c.div (c.add event.bestBid event.bestAsk) 2
      let reduced ← appendTradeForReduction c config s p order.quantity midpoint fillPrice event
      return (some reduced.1, reduced.2.reduceTo (reducedPosition c p order))
    else .ok (none, { s with position := some (increasedPosition c p order fillPrice event) })

/-- `_apply_fill` -/
def applyFill (s : DeterministicReplay) (order : OrderIntent) (fillPrice : ℚ)
    (event : HistoricalMarketEvent) (strategyId regime : String)
    (decisionId targetExposureId : Option String) :
    Except Failure (ExchangeFill × Option BacktestTrade × DeterministicReplay) := do
  let notional := c.mul order.quantity fillPrice
  let fillSequence := s.fillSequence + 1
  let filled ← fillPosition c config { s with fillSequence } order fillPrice event strategyId regime
  return ({
    exchangeTradeId := "REPLAY-FILL-" ++ padded fillSequence
    exchangeOrderId := "REPLAY-ORDER-" ++ padded fillSequence
    clientOrderId := order.clientOrderId
    symbol := order.symbol
    side := order.side
    positionSide := order.positionSide
    quantity := order.quantity
    price := fillPrice
    commission := c.mul notional config.costModel.takerFeeRate
    realizedPnl := (filled.1.map BacktestTrade.grossPnl).getD 0
    eventTime := event.eventTime
    transactionTime := event.eventTime
    strategyId
    decisionId
    targetExposureId
    sourceIntentIds := order.sourceIntentIds }, filled.1, filled.2)

/-! ### A run -/

/-- `equity_curve.append(self._equity_point(event))` -/
def Run.point (r : Run) (event : HistoricalMarketEvent) : Run :=
  { r with equityCurve := r.equityCurve ++ [equityPoint c config r.replay event] }

/-- The run with an order applied and recorded. -/
def Run.fill (r : Run) (order : OrderIntent) (fillPrice : ℚ) (event : HistoricalMarketEvent)
    (strategyId regime : String) (decisionId targetExposureId : Option String) (grid : Bool) :
    Except Failure (ExchangeFill × Run) := do
  let filled ← applyFill c config r.replay order fillPrice event strategyId regime decisionId
    targetExposureId
  return (filled.1, { r with
    replay := filled.2.2
    fills := r.fills ++ [filled.1]
    trades := r.trades ++ filled.2.1.toList
    applied := r.applied ++ [⟨r.replay.position, filled.2.2.position, filled.1, event, grid⟩] })

/-- `any("grid" in intent.strategy_id.lower() for intent in intents)` -/
def anyGrid (intents : List StrategyIntent) : Bool :=
  intents.any fun intent => "grid".toList <:+: (Text.lower intent.strategyId).toList

/-- `"+".join(sorted({intent.strategy_id for intent in intents}))` -/
def joinedStrategies (intents : List StrategyIntent) : String :=
  Text.join "+" ((intents.map StrategyIntent.strategyId).eraseDups.insertionSort (· ≤ ·))

/-- An order of a decision in the loop over its orders. -/
def onOrder (event : HistoricalMarketEvent) (decision : ExecutionDecision) (exposureId : String)
    (intents : List StrategyIntent) (regime : String) (r : Run) (order : OrderIntent) :
    Except Failure Run := do
  let record : ReplayOrderRecord :=
    { eventId := event.eventId
      timestamp := event.eventTime
      decisionId := decision.decisionId
      clientOrderId := some order.clientOrderId
      riskClass := decision.riskClass
      accepted := false
      reason := .text "" }
  match ← orderGate c config r.replay order decision.riskClass event with
  | .error reason =>
    return { r with decisions := r.decisions ++ [{ record with reason := .text reason }] }
  | .ok (normalized, fillPrice) =>
    let filled ← r.fill c config normalized fillPrice event (joinedStrategies intents) regime
      (some decision.decisionId) (some exposureId) (anyGrid intents)
    let s := filled.2.replay
    return { filled.2 with
      replay := if anyGrid intents then { s with gridDepth := s.gridDepth + 1 } else s
      decisions := r.decisions ++ [{ record with
        accepted := true
        reason := .text "simulated market fill"
        exchangeOrderId := some filled.1.exchangeOrderId }] }

/-- The governor of a run. -/
def governor : RiskGovernor where
  maxLeverage := config.maxLeverage
  maxDrawdownPct := config.maxDrawdownPct
  maxMarginUtilizationPct := config.maxMarginUtilizationPct

variable (platform : Platform)

/-- `_target_with_stable_id` -/
def targetWithStableId (target : TargetExposure) : TargetExposure :=
  { target with
    exposureId :=
      "EXP-REPLAY-" ++ platform.digest target.symbol target.createdAt target.sourceIntentIds }

/-- What an event leads to when there are intents: the decision, and the run with it recorded. -/
def decideOn (event : HistoricalMarketEvent) (intents : List StrategyIntent) (r : Run) :
    Except Failure (ExecutionDecision × String × Run) := do
  let allocator : MetaAllocator := ⟨config.maxTargetGrossQty, config.positive.2.2.1⟩
  let now : Instant := ⟨event.eventTime, true⟩
  let allocated ← (allocator.allocate c now.micros "" intents event.symbol).mapError Failure.engine
  let snapshot := riskSnapshot c config r.replay event
  let recovered := ExposureRecoveryEngine.process c {} now r.replay.states
    (targetWithStableId platform allocated) snapshot.1 r.replay.signedQty
  let evaluated := (governor config).evaluate c platform.stamp now r.replay.sequence recovered.1
    snapshot.1 r.replay.signedQty
  return (evaluated.1, recovered.1.exposureId, { r with
    replay := { snapshot.2 with states := recovered.2, sequence := evaluated.2 }
    strategyIntents := r.strategyIntents ++ intents
    targetExposures := r.targetExposures ++ [recovered.1]
    riskSnapshots := r.riskSnapshots ++ [snapshot.1]
    executionDecisions := r.executionDecisions ++ [evaluated.1] })

/-- The part of the loop over the events behind the funding. -/
def onAnalysis (event : HistoricalMarketEvent) (analysis : Option Analysis) (r : Run) :
    Except Failure Run :=
  match analysis with
  | none => .ok (r.point c config event)
  | some analysis =>
    let intents := analysis.intents r.replay.gridDepth
    if intents = [] then .ok (r.point c config event)
    else do
      let decided ← decideOn c config platform event intents r
      let decision := decided.1
      if decision.orders = [] then
        return Run.point c config { decided.2.2 with
          decisions := decided.2.2.decisions ++ [
            { eventId := event.eventId
              timestamp := event.eventTime
              decisionId := decision.decisionId
              riskClass := decision.riskClass
              accepted := false
              reason := .decision decision.rational }] } event
      else do
        let filled ← decision.orders.foldlM
          (onOrder c config event decision decided.2.1 intents analysis.regime) decided.2.2
        return filled.point c config event

/-- The body of the loop over the events. -/
def onEvent (r : Run) (o : Observed) : Except Failure Run := do
  let funded ← applyFunding c config r.replay o.event
  onAnalysis c config platform o.event o.analysis
    { r with replay := funded.2, fundings := r.fundings ++ funded.1.toList }

/-- `_reset_runtime` -/
def start : Run where
  replay := { peakEquity := config.initialCapital }

/-- The run after a list of events. -/
def replayed (events : List Observed) : Except Failure Run :=
  events.foldlM (onEvent c config platform) (start config)

/-- The order of `_force_close`. -/
def closingOrder (event : HistoricalMarketEvent) (p : PositionState) : OrderIntent where
  clientOrderId := "REPLAY-END-CLOSE-" ++ event.eventId
  symbol := event.symbol
  marketType := .usdmFutures
  side := if 0 < p.signedQty then .sell else .buy
  positionSide := .both
  orderType := .market
  timeInForce := .gtc
  quantity := c.magnitude p.signedQty
  reduceOnly := true
  strategyId := p.strategyId
  sourceIntentIds := p.sourceIntentIds
  createdAt := ⟨event.eventTime, true⟩

/-- The decision of `_force_close`. -/
def closingDecision (event : HistoricalMarketEvent) (p : PositionState) : ExecutionDecision where
  decisionId := "REPLAY-END-CLOSE-DECISION-" ++ event.eventId
  symbol := event.symbol
  action := "REDUCE_POSITION"
  riskClass := .close
  orders := [closingOrder c event p]
  rational := .endOfSample
  netExposureDelta := c.minus p.signedQty
  timestamp := ⟨event.eventTime, true⟩
  targetExposureId := some ("REPLAY-END-CLOSE-TARGET-" ++ event.eventId)
  sourceIntentIds := p.sourceIntentIds

/-- `_force_close` of an open position -/
def forceClose (event : HistoricalMarketEvent) (p : PositionState) (r : Run) :
    Except Failure Run := do
  let order := closingOrder c event p
  let decision := closingDecision c event p
  let r := { r with executionDecisions := r.executionDecisions ++ [decision] }
  match ← orderGate c config r.replay order decision.riskClass event with
  | .error reason => throw (.execution ("explicit end-of-sample close failed: " ++ reason))
  | .ok (normalized, fillPrice) =>
    let filled ← r.fill c config normalized fillPrice event order.strategyId "END_OF_SAMPLE"
      (some decision.decisionId) decision.targetExposureId false
    return { filled.2 with
      decisions := r.decisions ++ [
        { eventId := event.eventId
          timestamp := event.eventTime
          decisionId := decision.decisionId
          clientOrderId := some order.clientOrderId
          riskClass := .close
          accepted := true
          reason := .text "explicit end-of-sample close filled"
          exchangeOrderId := some filled.1.exchangeOrderId }] }

/-- The end of the loop: the end-of-sample close at the last event. -/
def finish (last : HistoricalMarketEvent) (r : Run) : Except Failure Run :=
  match r.replay.position with
  | none => .ok r
  | some p =>
    if config.forceCloseAtEnd then do
      let snapshot := riskSnapshot c config r.replay last
      let closed ← forceClose c config last p
        { r with replay := snapshot.2, riskSnapshots := r.riskSnapshots ++ [snapshot.1] }
      return { closed with
        equityCurve :=
          if closed.equityCurve.isEmpty then []
          else closed.equityCurve.dropLast ++ [equityPoint c config closed.replay last] }
    else .ok r

/-- `_validate_event_sequence` -/
def validateEventSequence (events : List HistoricalMarketEvent) : Except Failure Unit := do
  match events with
  | [] => throw (.validation "replay requires at least one historical event")
  | first :: rest =>
    if ¬ (first :: rest).IsChain
        (fun previous current => previous.eventTime < current.eventTime) then
      throw (.validation "historical events must be strictly chronological")
    checkEvents first [] (first :: rest)
where
  /-- the loop over the events -/
  checkEvents (first : HistoricalMarketEvent) : List String → List HistoricalMarketEvent →
      Except Failure Unit
    | _, [] => .ok ()
    | eventIds, event :: events => do
      if event.eventId ∈ eventIds then
        throw (.validation ("duplicate historical event_id: " ++ event.eventId))
      if event.symbol ≠ first.symbol then
        throw (.validation "one replay must contain one symbol")
      if event.venue ≠ first.venue ∨ event.marketType ≠ first.marketType then
        throw (.validation "replay events must use one venue and market type")
      if event.dataSource ≠ first.dataSource then
        throw (.validation "replay events must use one data_source")
      checkEvents first (event.eventId :: eventIds) events

/-- The economic result of a run, none without a trade. -/
def economics (trades : List BacktestTrade) : Except Failure (Option EconomicBacktestResult) :=
  if trades = [] then .ok none
  else (evaluateTrades c trades config.initialCapital config.costModel).map some

/-- `ReplayResult`: what the run has recorded, and its totals. -/
structure ReplayResult where
  eventCount : ℕ
  startTime : ℤ
  endTime : ℤ
  recorded : Run
  economicResult : Option EconomicBacktestResult
  finalPositionQty : ℚ
  finalEquity : ℚ

/-- `run` -/
def run (events : List Observed) : Except Failure ReplayResult := do
  validateEventSequence (events.map Observed.event)
  if events.any fun o =>
      !(config.symbolRules.map ReplaySymbolRules.symbol).contains o.event.symbol then
    throw (.validation "every event symbol must have captured exchange rules")
  match events.head?, events.getLast? with
  | some first, some last =>
    let r ← replayed c config platform events
    let r ← finish c config last.event r
    let economicResult ← economics c config r.trades
    return {
      eventCount := events.length
      startTime := first.event.eventTime
      endTime := last.event.eventTime
      recorded := r
      economicResult
      finalPositionQty := r.replay.signedQty
      finalEquity := currentEquity c config r.replay last.event.markPrice }
  | _, _ => throw (.validation "replay requires at least one historical event")

end

end Blessing.Backtest.Replay
