import Blessing.Binance.AccountGate
import Blessing.Binance.SymbolRules
import Blessing.Engines.Governor

/-! # The order gate

`OrderExecutionGate.check` of `venues/binance/gates.py`, in its order: the connection, the account
of a risk-increasing order, the order itself, its quantity, its price, the market, the notional, the
exposure a reduction can close, and the caps. -/

namespace Blessing.Binance.OrderGate

open Blessing.Lib Blessing.Lib.Rounding Blessing.Lib.Effects
open Blessing.Binance.Models
open Blessing.Binance.AccountGate Blessing.Binance.SymbolRules
open Blessing.Engines.Governor (OrderIntent)

/-- `OrderType(...).value` -/
def typeValue : Engines.Governor.OrderType → String
  | .limit => "LIMIT"
  | .market => "MARKET"
  | .stop => "STOP"
  | .stopMarket => "STOP_MARKET"
  | .takeProfit => "TAKE_PROFIT"
  | .takeProfitMarket => "TAKE_PROFIT_MARKET"

/-- `_is_risk_reducing` -/
def isRiskReducing : EconomicRiskClass → Bool
  | .reduceRisk | .recovery | .close | .emergency => true
  | _ => false

/-- Why an order is not allowed; a text may print two numbers. -/
inductive Reason where
  | text (message : String)
  | bound (what : String) (value : ℚ) (relation : String) (limit : ℚ)
  deriving DecidableEq

/-- `PreparedOrder` -/
structure PreparedOrder where
  symbol : String
  orderType : Engines.Governor.OrderType
  quantity : ℚ
  price : Option ℚ
  estimatedPrice : ℚ
  notional : ℚ
  deriving DecidableEq

/-- What the gate reads of the adapter, every answer as of the time it is asked for. The ledger is
asked for its positions up to three times. -/
structure AdapterView where
  surroundings : Surroundings
  connectionState : ConnectionState
  authenticated : Bool
  tradeAuthorized : Bool
  hedgeMode : Bool
  privateStreamHealthy : Bool
  lastStatus : String
  accountSnapshot : Option ExchangeAccountSnapshot
  symbolRules : String → Option SymbolTradingRules
  getFreshMarketPrice : String → Option OrderSide → Option ℚ
  getMarketReferencePrice : String → Option ℚ
  hasAuthoritativeMarketSample : String → Bool
  /-- `_age_seconds(last_market_event_at.get(symbol))` -/
  marketEventAge : String → Option ℚ
  maxMarketDataAge : ℚ
  lastMarketAskQty : String → Option ℚ
  lastMarketBidQty : String → Option ℚ
  openOrders : List ExecutionOrder
  reduciblePositions : List ExchangePosition
  positions : List ExchangePosition
  activePositions : List ExchangePosition

/-- `_venue_label` -/
def AdapterView.label (a : AdapterView) : String := a.surroundings.env.label

/-- The keyword arguments of `check`. -/
structure CheckOptions where
  reservedOpenOrders : ℕ := 0
  reservedNotional : ℚ := 0
  excludeClientOrderId : Option String := none
  requireReduceOnlyForRiskReduction : Bool := true
  allowEmergencyFallback : Bool := false

/-- `emergency_fallback` -/
def CheckOptions.emergencyFallback (o : CheckOptions) (risk : EconomicRiskClass) : Bool :=
  o.allowEmergencyFallback && risk == .emergency

/-- Checks that are only made under a condition. -/
def onlyIf (b : Bool) (checks : Except Reason Unit) : Except Reason Unit :=
  if b then checks else .ok ()

/-! ### The connection and the account -/

/-- The checks of the connection. -/
def connectionChecks (a : AdapterView) (risk : EconomicRiskClass) (emergencyFallback : Bool) :
    Except Reason Unit := do
  if risk = .noop then throw (.text "Invalid economic risk class")
  if emergencyFallback = false ∧ a.connectionState ≠ .ready then throw (.text "Adapter not READY")
  if a.authenticated = false then throw (.text "Adapter is not authenticated")
  if a.tradeAuthorized = false then throw (.text (a.label ++ " trade permission is not verified"))
  if a.surroundings.env = .mainnet ∧ emergencyFallback = false ∧
      (a.surroundings.environ "MAINNET_LIVE_APPROVED").any isOn = false then
    throw (.text "MAINNET_LIVE_APPROVED is not enabled")
  if emergencyFallback = false ∧ a.privateStreamHealthy = false then
    throw (.text "Private stream disconnected")
  if emergencyFallback = false ∧ a.lastStatus ≠ "IN_SYNC" then
    throw (.text "Reconciliation not IN_SYNC")

variable (c : Context)

/-- The account checks, which only an order that increases risk has to pass. -/
def accountChecks (a : AdapterView) (risk : EconomicRiskClass) : Except Reason Unit :=
  onlyIf risk.isRiskIncreasing
    ((accountSection c a.surroundings a.accountSnapshot).mapError .text)

/-! ### The order -/

/-- The rules of a symbol that are complete for an order type. -/
def rulesFor (a : AdapterView) (symbol : String) (orderType : Engines.Governor.OrderType) :
    Except Reason SymbolTradingRules :=
  match (a.symbolRules symbol).filter (·.isReadyFor (typeValue orderType)) with
  | some rules => .ok rules
  | none => .error (.text ("Trading rules are unavailable or symbol is not TRADING: " ++ symbol))

/-- The checks of what kind of order it is, with the rules of its symbol. -/
def orderChecks (a : AdapterView) (intent : OrderIntent) : Except Reason SymbolTradingRules := do
  let symbol := Text.upper intent.symbol
  if symbol ∉ a.surroundings.limits.allowedSymbols then
    throw (.text ("Symbol " ++ symbol ++ " is not allowed by " ++ a.label ++ " limits"))
  if intent.marketType ≠ .usdmFutures then
    throw (.text "Only USDⓈ-M Futures intents are supported")
  if intent.orderType ≠ .limit ∧ intent.orderType ≠ .market then
    throw (.text ("Unsupported order type " ++ typeValue intent.orderType))
  let rules ← rulesFor a symbol intent.orderType
  if a.hedgeMode = true ∧ intent.positionSide = .both then
    throw (.text "Hedge Mode requires LONG or SHORT positionSide")
  if a.hedgeMode = false ∧ intent.positionSide ≠ .both then
    throw (.text "One-Way Mode requires BOTH positionSide")
  if intent.postOnly = true ∧ intent.orderType ≠ .limit then
    throw (.text "post_only is supported only for LIMIT orders")
  if intent.postOnly = true ∧ intent.timeInForce ≠ .gtc ∧ intent.timeInForce ≠ .postOnly then
    throw (.text "post_only LIMIT orders require GTC or POST_ONLY timeInForce")
  return rules

/-- `order_type == OrderType.MARKET.value` -/
def isMarket (intent : OrderIntent) : Bool := intent.orderType == .market

/-- The quantity on the step of the symbol and within its bounds. -/
def preparedQuantity (rules : SymbolTradingRules) (intent : OrderIntent) : Except Reason ℚ := do
  if intent.quantity ≤ 0 then throw (.text "Quantity must be positive and finite")
  let quantity := rules.normalizeQuantity c intent.quantity (isMarket intent)
  if quantity ≤ 0 then
    throw (.text "Quantity becomes zero after exchange step normalization")
  let minQty := sizeFor (isMarket intent) rules.marketMinQty rules.minQty
  let maxQty := sizeFor (isMarket intent) rules.marketMaxQty rules.maxQty
  if quantity < minQty then throw (.bound "Quantity" quantity "is below minimum" minQty)
  if 0 < maxQty ∧ maxQty < quantity then throw (.bound "Quantity" quantity "exceeds maximum" maxQty)
  return quantity

/-- The price of a limit order, on the tick of the symbol and within its bounds. All times in force
of the model are supported. -/
def limitPrice (rules : SymbolTradingRules) (intent : OrderIntent) : Except Reason ℚ :=
  match intent.price with
  | none => throw (.text "LIMIT order requires a price")
  | some requested => do
    let price := rules.normalizePrice c requested (intent.side == .sell)
    if price ≤ 0 then throw (.text "Limit price must be positive and finite")
    if rules.parsedFromExchangeInfo = true ∧
        (price < rules.minPrice.toRat ∨ rules.maxPrice.toRat < price) then
      throw (.text "Limit price is outside the exchange price bounds")
    return price

/-- The executable price a market order is estimated with. -/
def marketPrice (a : AdapterView) (intent : OrderIntent) : Except Reason ℚ := do
  if intent.timeInForce ≠ .gtc then throw (.text "MARKET orders do not support this timeInForce")
  if intent.price ≠ none then throw (.text "MARKET order must not provide a limit price")
  match a.getFreshMarketPrice (Text.upper intent.symbol) (some intent.side) with
  | some price => return price
  | none => throw (.text ("Fresh market price unavailable for " ++ Text.upper intent.symbol))

/-- `reference_price` -/
def referencePrice (a : AdapterView) (rules : SymbolTradingRules) (symbol : String) : Option ℚ :=
  match a.getMarketReferencePrice symbol with
  | some price => some price
  | none => if rules.hasPercentPriceFilter then a.getFreshMarketPrice symbol none else none

/-- The percent-price filters, which a limit price has to pass. -/
def percentPriceChecks (a : AdapterView) (rules : SymbolTradingRules) (intent : OrderIntent)
    (price : ℚ) : Except Reason Unit :=
  (rules.validatePercentPrice c price intent.side
      (referencePrice a rules (Text.upper intent.symbol))).mapError fun reason =>
    .text ("Binance percent-price filter rejected order: " ++ reason)

/-- The price of the order, if it has one, and the price its notional is estimated with. -/
def prices (a : AdapterView) (rules : SymbolTradingRules) (intent : OrderIntent) :
    Except Reason (Option ℚ × ℚ) :=
  if intent.orderType = .limit then do
    let price ← limitPrice c rules intent
    percentPriceChecks c a rules intent price
    return (some price, price)
  else do
    let price ← marketPrice a intent
    return (none, price)

/-! ### The market -/

/-- The quantity at the top of the book on the side the order takes. -/
def depth (a : AdapterView) (intent : OrderIntent) : Option ℚ :=
  match intent.side with
  | .buy => a.lastMarketAskQty (Text.upper intent.symbol)
  | .sell => a.lastMarketBidQty (Text.upper intent.symbol)

/-- The depth a market order needs. -/
def depthChecks (a : AdapterView) (intent : OrderIntent) (quantity : ℚ) : Except Reason Unit :=
  match (depth a intent).filter (0 < ·) with
  | none => .error (.text ("Top-of-book depth is unknown for " ++ Text.upper intent.symbol))
  | some depth =>
    if depth < quantity then .error (.text
      ("Market quantity exceeds available top-of-book depth for " ++ Text.upper intent.symbol))
    else .ok ()

/-- The sample of the market is authoritative and fresh. -/
def isMarketFresh (a : AdapterView) (symbol : String) : Bool :=
  (a.marketEventAge symbol).any fun age => 0 ≤ age && age ≤ a.maxMarketDataAge

/-- The market checks of an order that increases risk. -/
def marketChecks (a : AdapterView) (intent : OrderIntent) (quantity : ℚ) : Except Reason Unit := do
  let symbol := Text.upper intent.symbol
  if a.hasAuthoritativeMarketSample symbol = false then
    throw (.text ("Authoritative " ++ a.label ++ " market sample unavailable for " ++ symbol))
  if isMarketFresh a symbol = false then throw (.text ("Market data stale for " ++ symbol))
  if isMarket intent then depthChecks a intent quantity

/-! ### The notional -/

/-- The bounds of the notional. -/
def notionalChecks (rules : SymbolTradingRules) (orderType : Engines.Governor.OrderType)
    (notional : ℚ) : Except Reason Unit := do
  if notional ≤ 0 then throw (.text "Order notional is invalid")
  let minNotional := rules.minNotionalFor (typeValue orderType)
  if 0 < minNotional ∧ notional < minNotional then
    throw (.bound "Notional" notional "is below minimum" minNotional)
  let maxNotional := rules.maxNotionalFor (typeValue orderType)
  if 0 < maxNotional ∧ maxNotional < notional then
    throw (.bound "Notional" notional "exceeds maximum" maxNotional)

/-! ### Reductions -/

/-- The order of this side reduces the position. -/
def reduces (intent : OrderIntent) (p : ExchangePosition) : Bool :=
  p.symbol == Text.upper intent.symbol &&
    (intent.positionSide == .both || p.positionSide == intent.positionSide ||
      p.positionSide == .both) &&
    (intent.side == .sell && 0 < p.quantity.toRat || intent.side == .buy && p.quantity.toRat < 0)

/-- `reducible_exposure` -/
def reducibleExposure (a : AdapterView) (intent : OrderIntent) : ℚ :=
  c.sum ((a.reduciblePositions.filter (reduces intent)).map fun p => c.magnitude p.quantity.toRat)

/-- The checks of `reduceOnly` against the class of the order and the known exposure. -/
def reduceOnlyChecks (a : AdapterView) (risk : EconomicRiskClass) (o : CheckOptions)
    (intent : OrderIntent) (quantity : ℚ) : Except Reason Unit := do
  if intent.reduceOnly = true ∧ risk.isRiskIncreasing = true then
    throw (.text "reduceOnly order cannot be classified as risk increasing")
  if o.requireReduceOnlyForRiskReduction = true ∧ isRiskReducing risk = true ∧
      intent.reduceOnly = false then
    throw (.text "Risk-reducing and emergency orders must be reduceOnly")
  if intent.reduceOnly = true ∧ isRiskReducing risk = true ∧
      reducibleExposure c a intent < quantity then
    throw (.text ("reduceOnly side or quantity exceeds known " ++ a.label ++ " exposure"))

/-! ### The caps -/

/-- `current_open_orders` -/
def currentOpenOrders (a : AdapterView) (o : CheckOptions) : List ExecutionOrder :=
  a.openOrders.filter fun order => some order.clientOrderId.val ≠ o.excludeClientOrderId

/-- One order more of the existing notional. -/
def addOrder (total : ℚ) (order : ExecutionOrder) : Except Reason ℚ :=
  if order.price.toRat ≤ 0 then .error (.text "Existing open-order notional is unknown")
  else .ok (c.add total (c.magnitude (c.mul order.quantity.toRat order.price.toRat)))

/-- One position more of the existing notional. -/
def addPosition (total : ℚ) (p : ExchangePosition) : Except Reason ℚ :=
  if p.quantity.toRat = 0 then .ok total
  else
    match p.markPrice.filter (0 < ·.toRat) with
    | none => .error (.text "Existing position notional is unknown")
    | some mark => .ok (c.add total (c.magnitude (c.mul p.quantity.toRat mark.toRat)))

/-- `existing_notional` -/
def existingNotional (a : AdapterView) (o : CheckOptions) : Except Reason ℚ := do
  let total ← (currentOpenOrders a o).foldlM (addOrder c) 0
  a.positions.foldlM (addPosition c) total

/-- `active_symbols` -/
def activeSymbols (a : AdapterView) (o : CheckOptions) : List String :=
  ((currentOpenOrders a o).map (·.symbol) ++
    (a.activePositions.filter (·.quantity.toRat ≠ 0)).map (·.symbol)).dedup

/-- The caps an order that increases risk is held to. -/
def capChecks (a : AdapterView) (o : CheckOptions) (symbol : String) (notional : ℚ) :
    Except Reason Unit := do
  let limits := a.surroundings.limits
  if limits.maxOpenOrders ≤ (currentOpenOrders a o).length + o.reservedOpenOrders then
    throw (.text ("Maximum " ++ a.label ++ " open-order count reached"))
  let existing ← existingNotional c a o
  if limits.maxTotalOpenNotional < c.add (c.add existing o.reservedNotional) notional then
    throw (.text ("Maximum " ++ a.label ++ " total open notional exceeded"))
  if limits.maxSingleOrderNotional < notional then
    throw (.text ("Maximum " ++ a.label ++ " single-order notional exceeded"))
  if symbol ∉ activeSymbols a o ∧ limits.maxActiveExposureChains ≤ (activeSymbols a o).length then
    throw (.text ("Maximum " ++ a.label ++ " active exposure chains exceeded"))

/-! ### The gate -/

/-- `OrderExecutionGate.check` -/
def check (a : AdapterView) (intent : OrderIntent) (risk : EconomicRiskClass) (o : CheckOptions) :
    Except Reason PreparedOrder := do
  connectionChecks a risk (o.emergencyFallback risk)
  accountChecks c a risk
  let rules ← orderChecks a intent
  let quantity ← preparedQuantity c rules intent
  let priced ← prices c a rules intent
  onlyIf risk.isRiskIncreasing (marketChecks a intent quantity)
  let notional := c.mul quantity priced.2
  notionalChecks rules intent.orderType notional
  reduceOnlyChecks c a risk o intent quantity
  onlyIf risk.isRiskIncreasing (capChecks c a o (Text.upper intent.symbol) notional)
  return {
    symbol := Text.upper intent.symbol, orderType := intent.orderType
    quantity, price := priced.1, estimatedPrice := priced.2, notional }

/-! ### Orders that pass -/

variable {c} {a : AdapterView} {intent : OrderIntent} {risk : EconomicRiskClass} {o : CheckOptions}
  {p : PreparedOrder}

/-- What every stage of the gate made of an order that passes. -/
structure Passed (c : Context) (a : AdapterView) (intent : OrderIntent) (risk : EconomicRiskClass)
    (o : CheckOptions) (rules : SymbolTradingRules) (p : PreparedOrder) : Prop where
  symbol : p.symbol = Text.upper intent.symbol
  orderType : p.orderType = intent.orderType
  connection : connectionChecks a risk (o.emergencyFallback risk) = .ok ()
  account : accountChecks c a risk = .ok ()
  order : orderChecks a intent = .ok rules
  quantity : preparedQuantity c rules intent = .ok p.quantity
  prices : prices c a rules intent = .ok (p.price, p.estimatedPrice)
  market : risk.isRiskIncreasing = true → marketChecks a intent p.quantity = .ok ()
  notional : p.notional = c.mul p.quantity p.estimatedPrice
  bounds : notionalChecks rules intent.orderType p.notional = .ok ()
  reduceOnly : reduceOnlyChecks c a risk o intent p.quantity = .ok ()
  caps : risk.isRiskIncreasing = true → capChecks c a o (Text.upper intent.symbol) p.notional =
    .ok ()

theorem onlyIf_ok {b : Bool} {checks : Except Reason Unit} :
    onlyIf b checks = .ok () ↔ (b = true → checks = .ok ()) := by
  cases b with
  | true => exact ⟨fun h _ => h, fun h => h rfl⟩
  | false => exact ⟨fun _ h => (nomatch h), fun _ => rfl⟩

theorem check_ok (h : check c a intent risk o = .ok p) :
    ∃ rules, Passed c a intent risk o rules p := by
  unfold check at h
  obtain ⟨⟨⟩, hconnection, h⟩ := except_bind_ok.mp h
  obtain ⟨⟨⟩, haccount, h⟩ := except_bind_ok.mp h
  obtain ⟨rules, horder, h⟩ := except_bind_ok.mp h
  obtain ⟨quantity, hquantity, h⟩ := except_bind_ok.mp h
  obtain ⟨priced, hprices, h⟩ := except_bind_ok.mp h
  obtain ⟨⟨⟩, hmarket, h⟩ := except_bind_ok.mp h
  obtain ⟨⟨⟩, hbounds, h⟩ := except_bind_ok.mp h
  obtain ⟨⟨⟩, hreduceOnly, h⟩ := except_bind_ok.mp h
  obtain ⟨⟨⟩, hcaps, h⟩ := except_bind_ok.mp h
  cases h
  exact ⟨rules, {
    symbol := rfl, orderType := rfl, connection := hconnection, account := haccount, order := horder
    quantity := hquantity, prices := hprices, market := onlyIf_ok.mp hmarket, notional := rfl
    bounds := hbounds, reduceOnly := hreduceOnly, caps := onlyIf_ok.mp hcaps }⟩

variable {rules : SymbolTradingRules}

/-- The rules of an order that passes are the symbol's, complete for its type. -/
theorem orderChecks_ok (h : orderChecks a intent = .ok rules) :
    a.symbolRules (Text.upper intent.symbol) = some rules ∧
      rules.isReadyFor (typeValue intent.orderType) = true ∧
      (intent.orderType = .limit ∨ intent.orderType = .market) := by
  unfold orderChecks at h
  obtain ⟨-, h⟩ := except_guard_ok.mp h
  obtain ⟨-, h⟩ := except_guard_ok.mp h
  obtain ⟨htype, h⟩ := except_guard_ok.mp h
  obtain ⟨found, hfound, h⟩ := except_bind_ok.mp h
  obtain ⟨-, h⟩ := except_guard_ok.mp h
  obtain ⟨-, h⟩ := except_guard_ok.mp h
  obtain ⟨-, h⟩ := except_guard_ok.mp h
  obtain ⟨-, h⟩ := except_guard_ok.mp h
  cases h
  refine ⟨?_, ?_, by tauto⟩
  all_goals
    unfold rulesFor at hfound
    split at hfound
    case h_1 hsome =>
      cases hfound
      have hfilter := Option.filter_eq_some_iff.mp hsome
      first | exact hfilter.1 | exact hfilter.2
    case h_2 => cases hfound

theorem preparedQuantity_ok {quantity : ℚ} (h : preparedQuantity c rules intent = .ok quantity) :
    0 < intent.quantity ∧ 0 < quantity ∧
      quantity = rules.normalizeQuantity c intent.quantity (isMarket intent) ∧
      sizeFor (isMarket intent) rules.marketMinQty rules.minQty ≤ quantity ∧
      (0 < sizeFor (isMarket intent) rules.marketMaxQty rules.maxQty →
        quantity ≤ sizeFor (isMarket intent) rules.marketMaxQty rules.maxQty) := by
  unfold preparedQuantity at h
  obtain ⟨hrequested, h⟩ := except_guard_ok.mp h
  obtain ⟨hpos, h⟩ := except_guard_ok.mp h
  obtain ⟨hmin, h⟩ := except_guard_ok.mp h
  obtain ⟨hmax, h⟩ := except_guard_ok.mp h
  cases h
  push Not at hmax
  exact ⟨not_le.mp hrequested, not_le.mp hpos, rfl, not_lt.mp hmin, hmax⟩

theorem limitPrice_ok {price : ℚ} (h : limitPrice c rules intent = .ok price) :
    ∃ requested, intent.price = some requested ∧ 0 < price ∧
      price = rules.normalizePrice c requested (intent.side == .sell) ∧
      (rules.parsedFromExchangeInfo = true →
        rules.minPrice.toRat ≤ price ∧ price ≤ rules.maxPrice.toRat) := by
  unfold limitPrice at h
  cases hprice : intent.price with
  | none =>
    rw [hprice] at h
    cases h
  | some requested =>
    rw [hprice] at h
    obtain ⟨hpos, h⟩ := except_guard_ok.mp h
    obtain ⟨hbounds, h⟩ := except_guard_ok.mp h
    cases h
    push Not at hbounds
    exact ⟨requested, rfl, not_le.mp hpos, rfl, hbounds⟩

theorem prices_limit {priced : Option ℚ × ℚ} (h : prices c a rules intent = .ok priced)
    (hlimit : intent.orderType = .limit) :
    ∃ price, priced = (some price, price) ∧ limitPrice c rules intent = .ok price ∧
      rules.validatePercentPrice c price intent.side
        (referencePrice a rules (Text.upper intent.symbol)) = .ok () := by
  unfold prices at h
  rw [if_pos hlimit] at h
  obtain ⟨price, hprice, h⟩ := except_bind_ok.mp h
  obtain ⟨⟨⟩, hpercent, h⟩ := except_bind_ok.mp h
  cases h
  refine ⟨price, rfl, hprice, ?_⟩
  unfold percentPriceChecks at hpercent
  cases hvalid : rules.validatePercentPrice c price intent.side
      (referencePrice a rules (Text.upper intent.symbol)) with
  | ok u => rfl
  | error reason =>
    rw [hvalid] at hpercent
    cases hpercent

theorem notionalChecks_ok {orderType : Engines.Governor.OrderType} {notional : ℚ}
    (h : notionalChecks rules orderType notional = .ok ()) :
    0 < notional ∧ rules.minNotionalFor (typeValue orderType) ≤ notional ∧
      (0 < rules.maxNotionalFor (typeValue orderType) →
        notional ≤ rules.maxNotionalFor (typeValue orderType)) := by
  unfold notionalChecks at h
  obtain ⟨hpos, h⟩ := except_guard_ok.mp h
  obtain ⟨hmin, h⟩ := except_guard_ok.mp h
  have hmax := except_check_ok.mp h
  push Not at hpos hmin hmax
  refine ⟨hpos, ?_, hmax⟩
  by_cases hminimum : 0 < rules.minNotionalFor (typeValue orderType)
  · exact hmin hminimum
  · exact (not_lt.mp hminimum).trans hpos.le

/-- A connected adapter on the testnet with a flat, funded account and a mark price of 100. -/
def sampleView (rules : SymbolTradingRules) : AdapterView where
  surroundings := {
    env := .testnet, environ := fun _ => none, maxAge := some 30, now := 0
    limits := .fromEnvironment (fun _ => none) .testnet }
  connectionState := .ready
  authenticated := true
  tradeAuthorized := true
  hedgeMode := false
  privateStreamHealthy := true
  lastStatus := "IN_SYNC"
  accountSnapshot := some {
    walletBalance := 100, marginBalance := 100, availableBalance := 100, unrealizedPnl := 0
    totalInitialMargin := 0, totalMaintMargin := 0, positionInitialMargin := 0
    totalPositionNotional := 0, effectiveLeverage := 0, marginUtilizationPct := 0
    liquidationSafety := "KNOWN", exchangeEnvironment := "BINANCE_TESTNET", valid := true
    timestamp := ⟨0, some 0⟩ }
  symbolRules := fun symbol => if symbol = "BTCUSDT" then some rules else none
  getFreshMarketPrice := fun _ _ => some 100
  getMarketReferencePrice := fun _ => some 100
  hasAuthoritativeMarketSample := fun _ => true
  marketEventAge := fun _ => some 1
  maxMarketDataAge := 3
  lastMarketAskQty := fun _ => some 10
  lastMarketBidQty := fun _ => some 10
  openOrders := []
  reduciblePositions := []
  positions := []
  activePositions := []

end Blessing.Binance.OrderGate
