import Blessing.Engines.ExposureRecovery

/-! # The risk governor

`RiskGovernor.evaluate` turns a target into a decision with at most one order. A rejection says why;
its text prints the numbers of the snapshot. -/

namespace Blessing.Engines.Governor

open Blessing.Lib.Rounding
open Blessing.Binance.Models (OrderSide PositionSide TimeInForce EconomicRiskClass)
open Blessing.Engines.Intents

inductive OrderType where
  | limit
  | market
  | stop
  | stopMarket
  | takeProfit
  | takeProfitMarket
  deriving DecidableEq, Repr

structure OrderIntent where
  clientOrderId : String
  symbol : String
  marketType : MarketType
  side : OrderSide
  positionSide : PositionSide
  orderType : OrderType
  timeInForce : TimeInForce
  quantity : ℚ
  price : Option ℚ := none
  reduceOnly : Bool := false
  postOnly : Bool := false
  strategyId : String := "portfolio"
  sourceIntentIds : List String := []
  createdAt : Instant
  deriving DecidableEq, Repr

/-- Why a decision is what it is. -/
inductive Rational where
  | expired
  | unknownState
  | invalidField (field : String)
  | riskOff (state : RiskState)
  | drawdown (value limit : ℚ)
  | leverage (value limit : ℚ)
  | marginUtilization (value limit : ℚ)
  | belowThreshold
  | crossing
  | approved (delta : ℚ)
  | endOfSample
  deriving DecidableEq, Repr

/-- The text of a risk state. -/
def stateText : RiskState → String
  | .normal => "NORMAL"
  | .caution => "CAUTION"
  | .noNewRisk => "NO_NEW_RISK"
  | .recoveryOnly => "RECOVERY_ONLY"
  | .deleverage => "DELEVERAGE"
  | .liquidating => "LIQUIDATING"
  | .emergency => "EMERGENCY"

/-- The text, given how a number is printed. -/
def Rational.text (str : ℚ → String) : Rational → String
  | .expired => "Target exposure is expired or has no timezone"
  | .unknownState => "Risk state is unknown; new risk is blocked"
  | .invalidField field => "Risk snapshot field is invalid: " ++ field
  | .riskOff state => "Risk state is " ++ stateText state ++ "; new or increased risk is blocked."
  | .drawdown value limit => "Drawdown (" ++ str value ++ "%) exceeds limit (" ++ str limit ++ "%)."
  | .leverage value limit =>
    "Leverage (" ++ str value ++ "x) exceeds limit (" ++ str limit ++
      "x). Cannot increase exposure."
  | .marginUtilization value limit =>
    "Margin utilization (" ++ str value ++ "%) exceeds limit (" ++ str limit ++
      "%). Cannot increase exposure."
  | .belowThreshold => "Net delta is below minimum threshold."
  | .crossing => "Requested delta would cross through zero and create a new exposure; " ++
      "close and reopen must be separate decisions."
  | .approved delta => "Approved relative target delta of " ++ str delta ++ " after risk checks."
  | .endOfSample => "Explicit end-of-sample flatten for a research replay."

structure ExecutionDecision where
  decisionId : String
  symbol : String
  action : String
  riskClass : EconomicRiskClass := .noop
  orders : List OrderIntent := []
  rational : Rational
  netExposureDelta : ℚ := 0
  timestamp : Instant
  targetExposureId : Option String := none
  sourceIntentIds : List String := []
  deriving DecidableEq, Repr

/-- `RiskGovernor` -/
structure RiskGovernor where
  maxLeverage : ℚ := 2
  maxDrawdownPct : ℚ := 6
  hedgeMode : Bool := false
  maxMarginUtilizationPct : ℚ := 70

/-- `_RISK_OFF_STATES` -/
def riskOffStates : List RiskState :=
  [.noNewRisk, .recoveryOnly, .deleverage, .liquidating, .emergency]

/-- `{n:06d}` -/
def padded (n : ℕ) : String :=
  String.ofList (List.replicate (6 - (toString n).length) '0' ++ (toString n).toList)

/-- `_next_id` with the sequence number; `stamp` prints a time. -/
def nextId (stamp : Instant → String) (front : String) (now : Instant) (sequence : ℕ) : String :=
  front ++ "-" ++ stamp now ++ "-" ++ padded sequence

section

variable (c : Context)

/-- `_classify_risk` -/
def classifyRisk (requiredDelta currentQty : ℚ) : Option EconomicRiskClass :=
  if currentQty = 0 then some .newRisk
  else if (0 < currentQty ∧ requiredDelta < 0) ∨ (currentQty < 0 ∧ 0 < requiredDelta) then
    if c.magnitude currentQty < c.magnitude requiredDelta then none
    else if c.magnitude requiredDelta = c.magnitude currentQty then some .close
    else some .reduceRisk
  else some .increaseRisk

/-- `_is_position_reduction` -/
def isPositionReduction (requiredDelta currentQty : ℚ) : Bool :=
  if 0 < currentQty then
    requiredDelta < 0 ∧ c.magnitude requiredDelta ≤ c.magnitude currentQty
  else if currentQty < 0 then
    0 < requiredDelta ∧ c.magnitude requiredDelta ≤ c.magnitude currentQty
  else false

/-- The class of a decision that makes a position smaller. -/
def reduces (riskClass : EconomicRiskClass) : Bool := riskClass = .reduceRisk ∨ riskClass = .close

/-- The first field of the snapshot that is no measure of risk. -/
def invalidField (risk : RiskSnapshot) : Option String :=
  if risk.currentDrawdownPct < 0 then some "current_drawdown_pct"
  else if risk.effectiveLeverage < 0 then some "effective_leverage"
  else if risk.marginUtilizationPct < 0 then some "margin_utilization_pct"
  else none

/-- The reason to reject a delta before its size and direction are looked at. -/
def RiskGovernor.blocked (g : RiskGovernor) (now : Instant) (target : TargetExposure)
    (risk : RiskSnapshot) (currentQty : ℚ) : Option Rational :=
  let isReducing := isPositionReduction c target.targetNetDeltaQty currentQty
  if !target.expiresAt.aware ∨ target.expiresAt.micros ≤ now.micros then some .expired
  else match invalidField risk with
  | some field => some (.invalidField field)
  | none =>
    if risk.riskState ∈ riskOffStates ∧ !isReducing then some (.riskOff risk.riskState)
    else if g.maxDrawdownPct ≤ risk.currentDrawdownPct ∧ !isReducing then
      some (.drawdown risk.currentDrawdownPct g.maxDrawdownPct)
    else if g.maxLeverage ≤ risk.effectiveLeverage ∧ !isReducing then
      some (.leverage risk.effectiveLeverage g.maxLeverage)
    else if g.maxMarginUtilizationPct ≤ risk.marginUtilizationPct ∧ !isReducing then
      some (.marginUtilization risk.marginUtilizationPct g.maxMarginUtilizationPct)
    else none

/-- `_reject`, and the decision for a delta below the threshold. -/
def noop (stamp : Instant → String) (now : Instant) (sequence : ℕ) (target : TargetExposure)
    (rational : Rational) : ExecutionDecision where
  decisionId := nextId stamp "DEC" now (sequence + 1)
  symbol := target.symbol
  action := "NOOP"
  rational
  timestamp := now
  targetExposureId := some target.exposureId
  sourceIntentIds := target.sourceIntentIds

/-- The position side of the order. -/
def RiskGovernor.positionSide (g : RiskGovernor) (riskClass : EconomicRiskClass)
    (requiredDelta currentQty : ℚ) : PositionSide :=
  if !g.hedgeMode then .both
  else if reduces riskClass then (if 0 < currentQty then .long else .short)
  else if 0 < requiredDelta then .long else .short

/-- The decision for an approved delta. -/
def RiskGovernor.submit (g : RiskGovernor) (stamp : Instant → String) (now : Instant) (sequence : ℕ)
    (target : TargetExposure) (currentQty : ℚ) (riskClass : EconomicRiskClass) :
    ExecutionDecision where
  decisionId := nextId stamp "DEC" now (sequence + 2)
  symbol := target.symbol
  action := "SUBMIT_ORDER"
  riskClass
  orders :=
    [{ clientOrderId := nextId stamp "B-SYS" now (sequence + 1)
       symbol := target.symbol
       marketType := target.marketType
       side := if 0 < target.targetNetDeltaQty then .buy else .sell
       positionSide := g.positionSide riskClass target.targetNetDeltaQty currentQty
       orderType := .market
       timeInForce := .gtc
       quantity := c.magnitude target.targetNetDeltaQty
       reduceOnly := reduces riskClass
       strategyId := "meta_allocator"
       sourceIntentIds := target.sourceIntentIds
       createdAt := now }]
  rational := .approved target.targetNetDeltaQty
  netExposureDelta := target.targetNetDeltaQty
  timestamp := now
  targetExposureId := some target.exposureId
  sourceIntentIds := target.sourceIntentIds

/-- The reason to reject a delta before its size and direction are looked at; a state that is not
known is none. An unknown state is no risk-off state, but lets only reductions through. -/
def RiskGovernor.refusal (g : RiskGovernor) (now : Instant) (target : TargetExposure)
    (risk : RiskSnapshot) (state : Option RiskState) (currentQty : ℚ) : Option Rational :=
  match state with
  | some riskState => g.blocked c now target { risk with riskState } currentQty
  | none =>
    if !target.expiresAt.aware ∨ target.expiresAt.micros ≤ now.micros then some .expired
    else if isPositionReduction c target.targetNetDeltaQty currentQty then
      g.blocked c now target { risk with riskState := .normal } currentQty
    else some .unknownState

/-- `evaluate`: the decision and the sequence number after it. The clock is read twice, `later`
being the reading of `_reject`. -/
def RiskGovernor.evaluateState (g : RiskGovernor) (stamp : Instant → String) (now later : Instant)
    (sequence : ℕ) (target : TargetExposure) (risk : RiskSnapshot) (state : Option RiskState)
    (currentQty : ℚ) : ExecutionDecision × ℕ :=
  match g.refusal c now target risk state currentQty with
  | some rational => (noop stamp later sequence target rational, sequence + 1)
  | none =>
    if c.magnitude target.targetNetDeltaQty < 1 / 1000 then
      (noop stamp now sequence target .belowThreshold, sequence + 1)
    else
      match classifyRisk c target.targetNetDeltaQty currentQty with
      | none => (noop stamp later sequence target .crossing, sequence + 1)
      | some riskClass => (g.submit c stamp now sequence target currentQty riskClass, sequence + 2)

/-- `evaluate` in a known state, while the clock stands still. -/
def RiskGovernor.evaluate (g : RiskGovernor) (stamp : Instant → String) (now : Instant)
    (sequence : ℕ) (target : TargetExposure) (risk : RiskSnapshot) (currentQty : ℚ) :
    ExecutionDecision × ℕ :=
  g.evaluateState c stamp now now sequence target risk (some risk.riskState) currentQty

theorem RiskGovernor.evaluate_eq (g : RiskGovernor) (stamp : Instant → String) (now : Instant)
    (sequence : ℕ) (target : TargetExposure) (risk : RiskSnapshot) (currentQty : ℚ) :
    g.evaluate c stamp now sequence target risk currentQty =
      match g.blocked c now target risk currentQty with
      | some rational => (noop stamp now sequence target rational, sequence + 1)
      | none =>
        if c.magnitude target.targetNetDeltaQty < 1 / 1000 then
          (noop stamp now sequence target .belowThreshold, sequence + 1)
        else
          match classifyRisk c target.targetNetDeltaQty currentQty with
          | none => (noop stamp now sequence target .crossing, sequence + 1)
          | some riskClass =>
            (g.submit c stamp now sequence target currentQty riskClass, sequence + 2) := rfl

end

/-! ### Identifiers -/

theorem padded_toList (n : ℕ) :
    (padded n).toList = List.replicate (6 - (toString n).length) '0' ++ Nat.toDigits 10 n := by
  rw [padded, String.toList_ofList, Nat.toString_eq_ofList_toDigits, String.toList_ofList]

theorem padded_inj {n m : ℕ} (h : padded n = padded m) : n = m := by
  have hlist := congrArg (fun s : String => Nat.ofDigitChars 10 s.toList 0) h
  simp only [padded_toList, Nat.ofDigitChars_append, Nat.ofDigitChars_replicate_zero, Nat.mul_zero,
    Nat.ofDigitChars_ten_toDigits] at hlist
  exact hlist

theorem hyphen_not_mem_padded (n : ℕ) : '-' ∉ (padded n).toList := by
  rw [padded_toList, List.mem_append, not_or]
  refine ⟨fun h => ?_, fun h => ?_⟩
  · exact absurd (List.eq_of_mem_replicate h) (by decide)
  · exact absurd (Nat.isDigit_of_mem_toDigits (by decide) (by decide) h) (by decide)

theorem takeWhile_behind_hyphen (xs ys : List Char) (h : '-' ∉ ys) :
    (xs ++ '-' :: ys).reverse.takeWhile (fun c => decide (c ≠ '-')) = ys.reverse := by
  rw [List.reverse_append, List.reverse_cons, List.append_assoc]
  rw [List.takeWhile_append_of_pos]
  · simp
  · intro c hc
    rw [List.mem_reverse] at hc
    exact decide_eq_true fun heq => h (heq ▸ hc)

/-- Two identifiers of different numbers differ, whatever their times are. -/
theorem nextId_inj {stamp : Instant → String} {front front' : String} {t t' : Instant} {n n' : ℕ}
    (h : nextId stamp front t n = nextId stamp front' t' n') : n = n' := by
  have hbehind (front : String) (t : Instant) (n : ℕ) :
      (nextId stamp front t n).toList.reverse.takeWhile (fun c => decide (c ≠ '-')) =
        (padded n).toList.reverse := by
    have hlist : (nextId stamp front t n).toList =
        (front.toList ++ '-' :: (stamp t).toList) ++ '-' :: (padded n).toList := by
      simp [nextId, String.toList_append]
    rw [hlist]
    exact takeWhile_behind_hyphen _ _ (hyphen_not_mem_padded n)
  have hlast := hbehind front t n
  rw [h, hbehind front' t' n'] at hlast
  exact (padded_inj (String.toList_inj.mp (List.reverse_injective hlast))).symm

end Blessing.Engines.Governor
