import Blessing.Binance.Models
import Blessing.Lib.Effects
import Blessing.Lib.Rounding
import Blessing.Lib.Table

/-! # Strategy intents and their allocation

The records of `domain/models.py` on the way from a strategy to an order, and `MetaAllocator`, which
puts the intents of one symbol together. Numbers are compared and computed by value, in the context
the interpreter computes in; a time is in microseconds and may lack a time zone. -/

namespace Blessing.Engines.Intents

open Blessing.Lib Blessing.Lib.Rounding Blessing.Lib.Table Blessing.Lib.Effects
open Blessing.Binance.Models (PositionSide Exn)

/-! ### Records -/

inductive MarketType where
  | spot
  | usdmFutures
  | coinmFutures
  deriving DecidableEq, Repr

inductive RiskState where
  | normal
  | caution
  | noNewRisk
  | recoveryOnly
  | deleverage
  | liquidating
  | emergency
  deriving DecidableEq, Repr

/-- `datetime` -/
structure Instant where
  micros : ℤ
  /-- `tzinfo is not None` -/
  aware : Bool := true
  deriving DecidableEq, Repr

/-- A minute later. -/
def Instant.addMinute (t : Instant) : Instant := { t with micros := t.micros + 60000000 }

structure StrategyIntent where
  intentId : String
  strategyId : String
  symbol : String
  marketType : MarketType
  direction : PositionSide
  desiredDeltaQty : ℚ
  opportunityScore : ℚ := 0
  confidence : ℚ := 0
  timestamp : Instant
  deriving DecidableEq, Repr

structure TargetExposure where
  symbol : String
  marketType : MarketType
  targetNetDeltaQty : ℚ
  targetGrossLimitQty : ℚ
  strategyAttributions : List (String × ℚ)
  createdAt : Instant
  expiresAt : Instant
  exposureId : String
  sourceIntentIds : List String := []
  deriving DecidableEq, Repr

structure RiskSnapshot where
  portfolioEquity : ℚ
  unrealizedPnl : ℚ
  realizedPnl24h : ℚ
  marginUtilizationPct : ℚ
  effectiveLeverage : ℚ
  currentDrawdownPct : ℚ
  liquidationDistancePct : Option ℚ
  riskState : RiskState
  deriving DecidableEq, Repr

/-! ### Allocation -/

/-- `MetaAllocator` -/
structure MetaAllocator where
  maxGrossExposureBtc : ℚ
  /-- the constructor refuses another limit -/
  positive : 0 < maxGrossExposureBtc

/-- What the loop over the intents has summed up. -/
structure Allocation where
  netDelta : ℚ := 0
  grossExposure : ℚ := 0
  attributions : List (String × ℚ) := []
  sourceIntentIds : List String := []

/-- The direction of an intent does not fit its delta. -/
def mismatched (intent : StrategyIntent) : Bool :=
  match intent.direction with
  | .long => intent.desiredDeltaQty < 0
  | .short => 0 < intent.desiredDeltaQty
  | .both => intent.desiredDeltaQty ≠ 0

/-- The symbol an intent or a call names. -/
def normalized (symbol : String) : String := Text.upper (Text.strip symbol)

section

variable (c : Context)

/-- One intent of the loop. -/
def allocateIntent (symbol : String) (marketType : MarketType) (a : Allocation)
    (intent : StrategyIntent) : Except Exn Allocation := do
  if normalized intent.symbol ≠ symbol then
    throw (.value ("strategy intent symbol '" ++ normalized intent.symbol ++
      "' does not match allocation symbol '" ++ symbol ++ "'"))
  if intent.marketType ≠ marketType then
    throw (.value "strategy intents must use one market type")
  if intent.intentId = "" ∨ intent.intentId ∈ a.sourceIntentIds then
    throw (.value "strategy intent IDs must be present and unique")
  let weight := c.mul intent.confidence intent.opportunityScore
  if mismatched intent then
    throw (.value "strategy intent direction does not match its signed delta")
  let effectiveDelta := c.mul intent.desiredDeltaQty weight
  let before := ((lookup Prod.fst intent.strategyId a.attributions).map Prod.snd).getD 0
  return {
    netDelta := c.add a.netDelta effectiveDelta
    grossExposure := c.add a.grossExposure (c.magnitude effectiveDelta)
    attributions := upsert Prod.fst (intent.strategyId, c.add before effectiveDelta) a.attributions
    sourceIntentIds := a.sourceIntentIds ++ [intent.intentId] }

/-- The sums within the limit on the gross exposure. -/
def MetaAllocator.scaled (m : MetaAllocator) (a : Allocation) : Allocation :=
  if m.maxGrossExposureBtc < a.grossExposure then
    let scaleFactor := c.div m.maxGrossExposureBtc a.grossExposure
    { a with
      netDelta := c.mul a.netDelta scaleFactor
      grossExposure := m.maxGrossExposureBtc
      attributions := a.attributions.map fun kv => (kv.1, c.mul kv.2 scaleFactor) }
  else a

/-- `allocate`; `now` is `utc_now()` and `exposureId` the default of the identifier. -/
def MetaAllocator.allocate (m : MetaAllocator) (now : ℤ) (exposureId : String)
    (intents : List StrategyIntent) (symbol : String) : Except Exn TargetExposure := do
  let symbol := normalized symbol
  if symbol = "" then throw (.value "allocation symbol must not be empty")
  match intents with
  | [] =>
    return {
      symbol, marketType := .usdmFutures, targetNetDeltaQty := 0, targetGrossLimitQty := 0
      strategyAttributions := [], createdAt := ⟨now, true⟩
      expiresAt := Instant.addMinute ⟨now, true⟩, exposureId }
  | first :: rest =>
    let sums ← (first :: rest).foldlM (allocateIntent c symbol first.marketType) {}
    let scaled := m.scaled c sums
    if (first :: rest).any fun intent => !intent.timestamp.aware then
      throw (.value "strategy intent timestamps must be timezone-aware")
    let asOf : Instant :=
      ⟨rest.foldl (fun t intent => max t intent.timestamp.micros) first.timestamp.micros, true⟩
    return {
      symbol, marketType := first.marketType, targetNetDeltaQty := scaled.netDelta
      targetGrossLimitQty := scaled.grossExposure, strategyAttributions := scaled.attributions
      createdAt := asOf, expiresAt := asOf.addMinute, exposureId
      sourceIntentIds := scaled.sourceIntentIds }

end

/-! ### What is allocated -/

variable {c : Context} {m : MetaAllocator} {now : ℤ} {exposureId symbol : String}
  {intents : List StrategyIntent} {target : TargetExposure}

theorem allocateIntent_fixed {marketType : MarketType} {a b : Allocation} {intent : StrategyIntent}
    (h : allocateIntent c symbol marketType a intent = .ok b) : c.Fixed b.netDelta := by
  simp only [allocateIntent, except_guard_ok] at h
  obtain ⟨-, -, -, -, h⟩ := h
  cases h
  exact Context.fixed_round _

theorem allocation_fixed {marketType : MarketType} {a b : Allocation} (ha : c.Fixed a.netDelta)
    (h : intents.foldlM (allocateIntent c symbol marketType) a = .ok b) : c.Fixed b.netDelta := by
  induction intents generalizing a with
  | nil =>
    cases h
    exact ha
  | cons intent intents ih =>
    rw [List.foldlM_cons] at h
    obtain ⟨next, hnext, hrest⟩ := except_bind_ok.mp h
    exact ih (allocateIntent_fixed hnext) hrest

theorem scaled_fixed {a : Allocation} (h : c.Fixed a.netDelta) :
    c.Fixed (m.scaled c a).netDelta := by
  unfold MetaAllocator.scaled
  split_ifs
  · exact Context.fixed_round _
  · exact h

theorem allocate_aware (h : m.allocate c now exposureId intents symbol = .ok target) :
    target.expiresAt.aware = true := by
  unfold MetaAllocator.allocate at h
  obtain ⟨-, h⟩ := except_guard_ok.mp h
  cases intents with
  | nil =>
    rw [← Except.ok.inj h]
    rfl
  | cons first rest =>
    obtain ⟨sums, -, h⟩ := except_bind_ok.mp h
    obtain ⟨-, h⟩ := except_guard_ok.mp h
    rw [← Except.ok.inj h]
    rfl

theorem allocate_fixed (h : m.allocate c now exposureId intents symbol = .ok target) :
    c.Fixed target.targetNetDeltaQty := by
  unfold MetaAllocator.allocate at h
  obtain ⟨-, h⟩ := except_guard_ok.mp h
  cases intents with
  | nil =>
    rw [← Except.ok.inj h]
    exact Context.fixed_zero
  | cons first rest =>
    obtain ⟨sums, hsums, h⟩ := except_bind_ok.mp h
    obtain ⟨-, h⟩ := except_guard_ok.mp h
    rw [← Except.ok.inj h]
    exact scaled_fixed (allocation_fixed Context.fixed_zero hsums)

end Blessing.Engines.Intents
