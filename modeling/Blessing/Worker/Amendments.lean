import Blessing.Binance.Adapter
import Blessing.Binance.FilterPayload
import Blessing.Binance.OrderGate
import Blessing.Lib.DecimalContext
import Blessing.Worker.Control

/-! # Amendments of resting orders

`BinanceExecutionAdapter.modify_order` and `_modify_order` up to the `PUT` they send. The amendment
is classified by the limit notional that is asked for, in front of both gates; the quantity and the
price that are sent are the normalized ones. The method awaits the ledger, the order gate, the lease
and the rate limit, so everything around it may change in between.

* `modifyOrder`: the request an amendment sends, if it sends one; the program of the adapter asks
  for the same order (`amendedIntent_eq`).
* `Gated`: an amendment that enlarges the order is held to the checks of new risk when it is sent.
* `amendments_gated_iff`: the amendments that always are, with and without changes behind the
  gates. -/

namespace Blessing.Worker.Amendments

open Blessing.Lib Blessing.Lib.Rounding Blessing.Lib.Effects
open Blessing.Binance.Models
open Blessing.Binance.AccountGate Blessing.Binance.SymbolRules Blessing.Binance.OrderGate
open Blessing.Binance.FilterPayload
open Blessing.Worker.Control

/-- The arguments of `modify_order`. -/
structure Amendment where
  symbol : String
  origClientOrderId : ClientOrderId
  newPrice : Decimal
  newQty : Decimal
  side : String

/-- What an amendment finds at one moment: the adapter, the orders of the ledger, and the Worker. -/
structure Surrounding where
  view : AdapterView
  preflightOnly : Bool := false
  workerAuthorized : Bool := true
  orderByClientId : ClientOrderId → Option ExecutionOrder
  worker : App
  workerView : GateView := {}
  executionLease : EconomicRiskClass → Bool := fun _ => true

/-- What it finds at the moments that matter: when it is called, when the ledger answers, at the
order gate, at the gate of the Worker right behind it, when the lease is checked, and when the `PUT`
is sent behind the rate limit. -/
structure Moments where
  called : Surrounding
  ledger : Surrounding
  orderGate : Surrounding
  workerGate : Surrounding
  lease : Surrounding
  sent : Surrounding

/-- Nothing changes. -/
def Moments.still (w : Surrounding) : Moments := ⟨w, w, w, w, w, w⟩

/-- The `PUT` of an amendment. -/
structure Put where
  symbol : String
  origClientOrderId : String
  side : OrderSide
  quantity : ℚ
  price : ℚ
  timeInForce : String
  positionSide : Option PositionSide
  reduceOnly : Bool
  deriving DecidableEq

/-- `return None` -/
def abandon {α : Type} : Except Unit α := .error ()

/-- The amendment must be of the side of the order. -/
def existingOrder (w : Surrounding) (m : Amendment) : Except Unit ExecutionOrder :=
  match w.orderByClientId m.origClientOrderId with
  | some existing =>
    if ["NEW", "PARTIALLY_FILLED"].contains (Text.upper existing.status) &&
        OrderSide.ofValue m.side == some existing.side then .ok existing
    else abandon
  | none => abandon

/-- The intent of an amendment. -/
def amendmentIntent (m : Amendment) (existing : ExecutionOrder) :
    Blessing.Binance.Orders.OrderIntent where
  clientOrderId := m.origClientOrderId
  symbol := Text.upper m.symbol
  side := existing.side
  positionSide := existing.positionSide
  orderType := "LIMIT"
  timeInForce := existing.timeInForce
  quantity := m.newQty
  price := some m.newPrice
  reduceOnly := existing.reduceOnly
  strategyId := existing.strategyId
  sourceIntentIds := existing.sourceIntentIds

/-- The same intent as the order gate reads it. -/
def gateIntent (m : Amendment) (existing : ExecutionOrder) :
    Blessing.Engines.Governor.OrderIntent where
  clientOrderId := m.origClientOrderId
  symbol := Text.upper m.symbol
  marketType := .usdmFutures
  side := existing.side
  positionSide := existing.positionSide
  orderType := .limit
  timeInForce := existing.timeInForce
  quantity := m.newQty.toRat
  price := some m.newPrice.toRat
  reduceOnly := existing.reduceOnly
  strategyId := existing.strategyId
  sourceIntentIds := existing.sourceIntentIds
  createdAt := ⟨0, true⟩

/-- `amendment_decision` -/
def amendmentDecision (m : Amendment) (existing : ExecutionOrder) (risk : EconomicRiskClass)
    (symbol : String) : Blessing.Binance.Orders.ExecutionDecision where
  decisionId := (existing.decisionId.filter (· ≠ "")).getD ("AMEND-" ++ m.origClientOrderId.val)
  symbol := symbol
  action := "AMEND_ORDER"
  riskClass := risk
  orders := [amendmentIntent m existing]
  targetExposureId := existing.targetExposureId
  sourceIntentIds := existing.sourceIntentIds

/-- The order gate leaves the amended order out of the existing ones, and asks for `reduceOnly` only
if it has it. -/
def checkOptions (existing : ExecutionOrder) (m : Amendment) : CheckOptions where
  excludeClientOrderId := some m.origClientOrderId.val
  requireReduceOnlyForRiskReduction := existing.reduceOnly

/-- `"GTX"` for a post-only order. -/
def timeInForceParam : TimeInForce → String
  | .postOnly => "GTX"
  | t => t.value

variable (c : Context)

/-- `existing_notional` -/
def existingNotionalOf (existing : ExecutionOrder) : ℚ :=
  c.mul existing.quantity.toRat existing.price.toRat

/-- `amendment_risk` -/
def amendmentRisk (m : Amendment) (existing : ExecutionOrder) : EconomicRiskClass :=
  if existingNotionalOf c existing < c.mul m.newQty.toRat m.newPrice.toRat then .increaseRisk
  else .recovery

/-- The answer of the order gate. -/
def gated (w : Surrounding) (m : Amendment) (existing : ExecutionOrder) :
    Except Unit PreparedOrder :=
  (check c w.view (gateIntent m existing) (amendmentRisk c m existing)
    (checkOptions existing m)).mapError fun _ => ()

/-- `modify_order`, as far as the `PUT`; no request is sent where it returns `None` before. -/
def modifyOrder (t : Moments) (m : Amendment) : Except Unit Put := do
  if t.called.preflightOnly = true ∨ t.called.workerAuthorized = false ∨
      t.called.worker.killSwitchActive = true then
    throw ()
  if t.called.view.connectionState ≠ .ready then throw ()
  let existing ← existingOrder t.ledger m
  if m.newQty.toRat ≤ 0 ∨ m.newPrice.toRat ≤ 0 ∨ existing.quantity.toRat ≤ 0 ∨
      existing.price.toRat ≤ 0 then
    throw ()
  let prepared ← gated c t.orderGate m existing
  let decision := amendmentDecision m existing (amendmentRisk c m existing) prepared.symbol
  if (decisionExecutionGate t.workerGate.workerView t.workerGate.worker decision).allowed =
      false then
    throw ()
  if t.lease.executionLease (amendmentRisk c m existing) = false then throw ()
  return {
    symbol := prepared.symbol, origClientOrderId := m.origClientOrderId.val, side := existing.side
    quantity := prepared.quantity, price := prepared.price.getD 0
    timeInForce := timeInForceParam existing.timeInForce
    positionSide := if t.workerGate.view.hedgeMode then some existing.positionSide else none
    reduceOnly := existing.reduceOnly && !t.workerGate.view.hedgeMode }

/-! ### The program of the adapter -/

/-- The amendment as the program of the adapter gets it. -/
def Amendment.finite (m : Amendment) : Blessing.Binance.Adapter.Amendment :=
  ⟨m.symbol, m.origClientOrderId.val, .finite m.newPrice, .finite m.newQty, m.side⟩

theorem existingOrder_ok {w : Surrounding} {m : Amendment} {existing : ExecutionOrder}
    (h : existingOrder w m = .ok existing) :
    ["NEW", "PARTIALLY_FILLED"].contains (Text.upper existing.status) = true ∧
      OrderSide.ofValue m.side = some existing.side := by
  unfold existingOrder at h
  split at h
  · split at h
    case isTrue hresting =>
      cases h
      rw [Bool.and_eq_true, beq_iff_eq] at hresting
      exact hresting
    case isFalse => cases h
  · cases h

theorem positive_finite (d : Decimal) :
    Blessing.Binance.Adapter.positive (.finite d) = if 0 < d.toRat then some d else none := by
  change (if d.isPos = true then some d else none) = _
  exact if_congr Decimal.isPos_iff rfl rfl

/-- The program of the adapter asks for the same order, and classifies it alike. -/
theorem amendedIntent_eq {w : Surrounding} {m : Amendment} {existing : ExecutionOrder}
    (h : existingOrder w m = .ok existing) :
    Blessing.Binance.Adapter.amendedIntent m.finite existing =
      if m.newQty.toRat ≤ 0 ∨ m.newPrice.toRat ≤ 0 ∨ existing.quantity.toRat ≤ 0 ∨
          existing.price.toRat ≤ 0 then none
      else some (amendmentIntent m existing, amendmentRisk .default m existing) := by
  obtain ⟨hresting, hmember⟩ := existingOrder_ok h
  have hside : OrderSide.ofValue m.finite.side = some existing.side := hmember
  have hmore : (existing.quantity.mul existing.price).lt (m.newQty.mul m.newPrice) = true ↔
      existingNotionalOf .default existing <
        Context.default.mul m.newQty.toRat m.newPrice.toRat := by
    rw [Decimal.lt, decide_eq_true_iff, Decimal.toRat_mul, Decimal.toRat_mul, existingNotionalOf]
  have hrisk : (if (existing.quantity.mul existing.price).lt (m.newQty.mul m.newPrice) = true then
      EconomicRiskClass.increaseRisk else .recovery) = amendmentRisk .default m existing :=
    if_congr hmore rfl rfl
  have hpositive (d : Decimal) : d.isPos = decide (0 < d.toRat) := by
    rw [Bool.eq_iff_iff, Decimal.isPos_iff, decide_eq_true_iff]
  unfold Blessing.Binance.Adapter.amendedIntent
  rw [hresting, if_neg (by decide), if_neg (not_not.mpr hside)]
  dsimp only [Amendment.finite]
  rw [positive_finite, positive_finite, hpositive, hpositive]
  rcases le_or_gt m.newQty.toRat 0 with hquantity | hquantity
  · rw [if_neg (not_lt.mpr hquantity), if_pos (Or.inl hquantity)]
  rcases le_or_gt m.newPrice.toRat 0 with hprice | hprice
  · rw [if_pos hquantity, if_neg (not_lt.mpr hprice), if_pos (Or.inr (Or.inl hprice))]
  rw [if_pos hquantity, if_pos hprice]
  simp only [not_le.mpr hquantity, not_le.mpr hprice, false_or, Bool.or_eq_true,
    Bool.not_eq_true', decide_eq_false_iff_not, not_lt]
  rw [hrisk]
  rfl

/-- The program of the adapter asks the gate of the Worker about the same decision. -/
theorem amendmentDecision_eq (m : Amendment) (existing : ExecutionOrder)
    (prepared : Blessing.Binance.Orders.PreparedOrder) (risk : EconomicRiskClass) :
    Blessing.Binance.Adapter.amendmentDecision existing (amendmentIntent m existing) prepared risk =
      amendmentDecision m existing risk prepared.symbol := by
  unfold Blessing.Binance.Adapter.amendmentDecision amendmentDecision
  cases existing.decisionId with
  | none => rfl
  | some id => by_cases hid : id = "" <;> simp [hid, amendmentIntent, Option.filter]

/-! ### What an amendment is held to -/

/-- The quantity or the notional that is sent is larger than that of the order. -/
def Enlarges (existing : ExecutionOrder) (quantity price : ℚ) : Prop :=
  existing.quantity.toRat < quantity ∨ existingNotionalOf c existing < c.mul quantity price

/-- The account checks of new risk pass, and the amended notional fits under both caps. -/
def RiskChecksPass (w : Surrounding) (m : Amendment) (existing : ExecutionOrder) (notional : ℚ) :
    Prop :=
  accountSection c w.view.surroundings w.view.accountSnapshot = .ok () ∧
    ∃ other, existingNotional c w.view (checkOptions existing m) = .ok other ∧
      c.add other notional ≤ w.view.surroundings.limits.maxTotalOpenNotional ∧
      notional ≤ w.view.surroundings.limits.maxSingleOrderNotional

/-- New risk is paused, or only recovery is allowed. -/
def Paused (s : App) : Prop := s.pauseNewRisk = true ∨ s.recoveryOnly = true

/-- **Gated**: an amendment enlarges the order only where the checks of new risk pass when it is
sent, and not its quantity while new risk is paused. -/
def Gated (w : Surrounding) (m : Amendment) (existing : ExecutionOrder) (put : Put) : Prop :=
  (Enlarges c existing put.quantity put.price →
    RiskChecksPass c w m existing (c.mul put.quantity put.price)) ∧
  (Paused w.worker → put.quantity ≤ existing.quantity.toRat)

/-- The amendment sends this `PUT` for this order, under these rules of its symbol. -/
structure Sends (t : Moments) (m : Amendment) (existing : ExecutionOrder)
    (rules : SymbolTradingRules) (put : Put) : Prop where
  sent : modifyOrder c t m = .ok put
  existing : existingOrder t.ledger m = .ok existing
  rules : t.orderGate.view.symbolRules (Text.upper (Text.upper m.symbol)) = some rules

/-- What the gates go by does not change until the `PUT` is sent. -/
def Steady (t : Moments) : Prop :=
  t.sent.view = t.orderGate.view ∧ t.sent.worker = t.workerGate.worker

/-- The amendment asks for a larger notional than that of the order. -/
def AsksMore (m : Amendment) (existing : ExecutionOrder) : Prop :=
  existingNotionalOf c existing < c.mul m.newQty.toRat m.newPrice.toRat

/-- The quantity an amendment asks for, on the step of the symbol. -/
def normalizedQty (rules : SymbolTradingRules) (m : Amendment) : ℚ :=
  rules.normalizeQuantity c m.newQty.toRat false

/-- The price an amendment asks for, on the tick of the symbol. -/
def normalizedPrice (rules : SymbolTradingRules) (m : Amendment) (existing : ExecutionOrder) : ℚ :=
  rules.normalizePrice c m.newPrice.toRat (existing.side == .sell)

/-- The quantity or the notional that is asked for, on the step and the tick, is larger. -/
def Grows (m : Amendment) (existing : ExecutionOrder) (rules : SymbolTradingRules) : Prop :=
  Enlarges c existing (normalizedQty c rules m) (normalizedPrice c rules m existing)

/-! ### What is sent -/

section Sent

variable {c} {t : Moments} {w : Surrounding} {m : Amendment} {existing : ExecutionOrder} {put : Put}
  {rules : SymbolTradingRules}

/-- An amendment that is sent has passed both gates, with the quantity and the price that are
sent. -/
theorem modifyOrder_ok (h : modifyOrder c t m = .ok put)
    (hexisting : existingOrder t.ledger m = .ok existing) :
    ∃ p, check c t.orderGate.view (gateIntent m existing) (amendmentRisk c m existing)
        (checkOptions existing m) = .ok p ∧
      (decisionExecutionGate t.workerGate.workerView t.workerGate.worker
        (amendmentDecision m existing (amendmentRisk c m existing) p.symbol)).allowed = true ∧
      put.quantity = p.quantity ∧ put.price = p.price.getD 0 := by
  unfold modifyOrder at h
  obtain ⟨-, h⟩ := except_guard_ok.mp h
  obtain ⟨-, h⟩ := except_guard_ok.mp h
  obtain ⟨found, hfound, h⟩ := except_bind_ok.mp h
  obtain ⟨-, h⟩ := except_guard_ok.mp h
  obtain ⟨p, hp, h⟩ := except_bind_ok.mp h
  obtain ⟨hallowed, h⟩ := except_guard_ok.mp h
  obtain ⟨-, h⟩ := except_guard_ok.mp h
  cases h
  obtain rfl := Except.ok.inj (hfound.symm.trans hexisting)
  refine ⟨p, ?_, by simpa using hallowed, rfl, rfl⟩
  unfold gated at hp
  cases hcheck : check c t.orderGate.view (gateIntent m found) (amendmentRisk c m found)
      (checkOptions found m) with
  | ok q =>
    rw [hcheck] at hp
    cases hp
    rfl
  | error e =>
    rw [hcheck] at hp
    cases hp

/-- What an order that passed the gate is sent with is the normalized request. -/
theorem normalized_of_check {p : PreparedOrder}
    (h : check c w.view (gateIntent m existing) (amendmentRisk c m existing)
      (checkOptions existing m) = .ok p)
    (hrules : w.view.symbolRules (Text.upper (Text.upper m.symbol)) = some rules) :
    p.quantity = normalizedQty c rules m ∧ p.price = some (normalizedPrice c rules m existing) ∧
      p.notional = c.mul (normalizedQty c rules m) (normalizedPrice c rules m existing) := by
  obtain ⟨found, hpassed⟩ := check_ok h
  obtain ⟨hfound, -, -⟩ := orderChecks_ok hpassed.order
  obtain rfl := Option.some.inj (hfound.symm.trans hrules)
  obtain ⟨-, -, hquantity, -⟩ := preparedQuantity_ok hpassed.quantity
  obtain ⟨price, hpriced, hprice, -⟩ := prices_limit hpassed.prices rfl
  obtain ⟨requested, hrequested, -, hnorm, -⟩ := limitPrice_ok hprice
  cases hrequested
  obtain ⟨hprices, hestimated⟩ := Prod.mk.inj hpriced
  refine ⟨hquantity, by rw [hprices, hnorm]; rfl, ?_⟩
  rw [hpassed.notional, hestimated, hnorm, hquantity]
  rfl

theorem existingNotional_fixed {a : AdapterView} {o : CheckOptions} {total : ℚ}
    (h : existingNotional c a o = .ok total) : c.Fixed total := by
  unfold existingNotional at h
  obtain ⟨orders, horders, h⟩ := except_bind_ok.mp h
  have hstart : c.Fixed orders := by
    refine Gives.foldlM ?_ _ Context.fixed_zero orders horders
    intro b order hb t ht
    unfold addOrder at ht
    split_ifs at ht
    cases ht
    exact Context.fixed_round _
  refine Gives.foldlM ?_ _ hstart total h
  intro b p hb t ht
  unfold addPosition at ht
  split_ifs at ht
  · cases ht
    exact hb
  · split at ht
    · cases ht
    · cases ht
      exact Context.fixed_round _

/-- An order of increased risk that passes the gate has passed the checks of new risk. -/
theorem riskChecks_of_check {p : PreparedOrder}
    (h : check c w.view (gateIntent m existing) .increaseRisk (checkOptions existing m) = .ok p) :
    RiskChecksPass c w m existing p.notional := by
  obtain ⟨found, hpassed⟩ := check_ok h
  constructor
  · have haccount := onlyIf_ok.mp hpassed.account rfl
    cases hsection : accountSection c w.view.surroundings w.view.accountSnapshot with
    | ok u => rfl
    | error e =>
      rw [hsection] at haccount
      cases haccount
  · have hcaps := hpassed.caps rfl
    unfold capChecks at hcaps
    obtain ⟨-, hcaps⟩ := except_guard_ok.mp hcaps
    obtain ⟨other, hother, hcaps⟩ := except_bind_ok.mp hcaps
    obtain ⟨htotal, hcaps⟩ := except_guard_ok.mp hcaps
    obtain ⟨hsingle, -⟩ := except_guard_ok.mp hcaps
    have hreserved : c.add other (checkOptions existing m).reservedNotional = other := by
      change c.round (other + 0) = other
      rw [add_zero]
      exact existingNotional_fixed hother
    rw [hreserved] at htotal
    exact ⟨other, hother, not_lt.mp htotal, not_lt.mp hsingle⟩

/-- While new risk is paused the Worker's gate blocks a decision that increases it. -/
theorem not_paused_of_allowed {g : GateView} {s : App}
    {decision : Blessing.Binance.Orders.ExecutionDecision}
    (hrisk : decision.riskClass.isRiskIncreasing = true)
    (h : (decisionExecutionGate g s decision).allowed = true) : ¬ Paused s := by
  rintro (hpause | hrecovery)
  · have hblocked := not_allowed_of_paused g hrisk hpause
    rw [h] at hblocked
    cases hblocked
  · have hmem : (true, "Recovery only mode active") ∈ gateChecks g s decision := by
      simp [gateChecks, hrisk, hrecovery]
    have hblocked := not_allowed_of_mem hmem
    rw [h] at hblocked
    cases hblocked

/-- What is sent is what is asked for, on the step and the tick of the symbol. -/
theorem Sends.normalized (h : Sends c t m existing rules put) :
    put.quantity = normalizedQty c rules m ∧ put.price = normalizedPrice c rules m existing := by
  obtain ⟨p, hcheck, -, hquantity, hprice⟩ := modifyOrder_ok h.sent h.existing
  obtain ⟨hnormQty, hnormPrice, -⟩ := normalized_of_check hcheck h.rules
  refine ⟨hquantity.trans hnormQty, ?_⟩
  rw [hprice, hnormPrice]
  rfl

/-- An amendment that does not enlarge the order is held to nothing. -/
theorem Sends.gated_of_not_grows (h : Sends c t m existing rules put)
    (hgrows : ¬ Grows c m existing rules) (w : Surrounding) : Gated c w m existing put := by
  obtain ⟨hquantity, hprice⟩ := h.normalized
  unfold Gated
  rw [hquantity, hprice]
  exact ⟨fun henlarges => absurd henlarges hgrows, fun _ => not_lt.mp fun hlt => hgrows (.inl hlt)⟩

/-- One that asks for more has passed the checks of new risk at the gates. -/
theorem Sends.gated_of_asksMore (h : Sends c t m existing rules put) (hmore : AsksMore c m existing)
    (hsteady : Steady t) : Gated c t.sent m existing put := by
  obtain ⟨p, hcheck, hallowed, -⟩ := modifyOrder_ok h.sent h.existing
  obtain ⟨hquantity, hprice⟩ := h.normalized
  have hrisk : amendmentRisk c m existing = .increaseRisk := if_pos hmore
  rw [hrisk] at hcheck hallowed
  have hpass := riskChecks_of_check hcheck
  rw [(normalized_of_check (hrisk.symm ▸ hcheck) h.rules).2.2, ← hquantity, ← hprice] at hpass
  have hpaused : ¬ Paused t.sent.worker := hsteady.2 ▸ not_paused_of_allowed rfl hallowed
  unfold Gated RiskChecksPass
  rw [hsteady.1]
  exact ⟨fun _ => hpass, fun h => absurd h hpaused⟩

/-- The same moments, without a snapshot of the account from the order gate on. -/
def forget (t : Moments) : Moments :=
  let view := { t.orderGate.view with accountSnapshot := none }
  { t with
    orderGate := { t.orderGate with view }
    sent := { t.sent with view, worker := t.workerGate.worker } }

theorem check_recovery (a : AdapterView) (snapshot : Option ExchangeAccountSnapshot) (intent) (o) :
    check c { a with accountSnapshot := snapshot } intent .recovery o =
    check c a intent .recovery o := rfl

/-- What does not ask for more is sent without a snapshot, too. -/
theorem Sends.forget (h : Sends c t m existing rules put) (hmore : ¬ AsksMore c m existing) :
    Sends c (forget t) m existing rules put := by
  have hgated : gated c (Amendments.forget t).orderGate m existing =
      gated c t.orderGate m existing := by
    unfold gated
    rw [show amendmentRisk c m existing = .recovery from if_neg hmore]
    exact congrArg (Except.mapError fun _ => ()) (check_recovery t.orderGate.view none _ _)
  refine ⟨?_, h.existing, h.rules⟩
  have hsent := h.sent
  unfold modifyOrder at hsent ⊢
  obtain ⟨hcalled, hsent⟩ := except_guard_ok.mp hsent
  obtain ⟨hready, hsent⟩ := except_guard_ok.mp hsent
  obtain ⟨found, hfound, hsent⟩ := except_bind_ok.mp hsent
  obtain ⟨hpositive, hsent⟩ := except_guard_ok.mp hsent
  obtain ⟨p, hp, hsent⟩ := except_bind_ok.mp hsent
  obtain rfl := Except.ok.inj (hfound.symm.trans h.existing)
  refine except_guard_ok.mpr ⟨hcalled, except_guard_ok.mpr ⟨hready, ?_⟩⟩
  refine except_bind_ok.mpr ⟨found, hfound, except_guard_ok.mpr ⟨hpositive, ?_⟩⟩
  exact except_bind_ok.mpr ⟨p, hgated.trans hp, hsent⟩

theorem not_gated_of_forgotten (h : Sends c t m existing rules put)
    (hgrows : Grows c m existing rules) (hnone : w.view.accountSnapshot = none) :
    ¬ Gated c w m existing put := by
  obtain ⟨hquantity, hprice⟩ := h.normalized
  rintro ⟨hpass, -⟩
  rw [hquantity, hprice] at hpass
  obtain ⟨hsection, -⟩ := hpass hgrows
  rw [hnone] at hsection
  cases hsection

end Sent

/-! ### A larger quantity at a lower price -/

/-- The rules of the sample payload. -/
def sampleRules : SymbolTradingRules := ((parseExchangeInfo samplePayload).toOption).getD {}

/-- A resting order of 25 USDT. -/
def restingOrder : ExecutionOrder where
  symbol := "BTCUSDT"
  side := .buy
  quantity := ⟨false, 25, -2⟩
  price := ⟨false, 100, 0⟩
  clientOrderId := ⟨"o1", by decide⟩
  status := "NEW"

/-- New risk is paused, and there is no snapshot of the account. -/
def pausedWorker : Surrounding where
  view := { sampleView sampleRules with accountSnapshot := none, openOrders := [restingOrder] }
  orderByClientId := fun id => if id.val = "o1" then some restingOrder else none
  worker := {
    pauseNewRisk := true, executionMode := .testnet, executionAdapter := some 0
    engineState := .pausedNewRisk }

/-- A little more at a lower price, for 24.7 USDT. -/
def moreForLess : Amendment where
  symbol := "BTCUSDT"
  origClientOrderId := ⟨"o1", by decide⟩
  newPrice := ⟨false, 95, 0⟩
  newQty := ⟨false, 26, -2⟩
  side := "BUY"

/-- What is sent for it. -/
def sentPut : Put := ⟨"BTCUSDT", "o1", .buy, 26 / 100, 95, "GTC", none, false⟩

theorem sends_paused :
    Sends .default (.still pausedWorker) moreForLess restingOrder sampleRules sentPut := by
  refine ⟨by decide +kernel, by decide +kernel, ?_⟩
  rw [show Text.upper (Text.upper moreForLess.symbol) = "BTCUSDT" by decide +kernel]
  rfl

end Blessing.Worker.Amendments
