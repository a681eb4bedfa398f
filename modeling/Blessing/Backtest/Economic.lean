import Blessing.Engines.Intents

/-! # The economics of research trades

`backtest/economic.py`: a trade with its observations, its costs, and the aggregate of a list of
trades. -/

namespace Blessing.Backtest.Economic

open Blessing.Lib Blessing.Lib.Rounding Blessing.Lib.Effects
open Blessing.Binance.Models (Exn)
open Blessing.Engines.Intents (normalized)

/-- What a replay can raise. -/
inductive Failure where
  /-- `ReplayValidationError` -/
  | validation (text : String)
  /-- `ReplayExecutionError` -/
  | execution (text : String)
  /-- the `ValidationError` of a `BacktestTrade` -/
  | invalidTrade
  /-- a `ValueError` of this module -/
  | value (text : String)
  /-- an exception of an engine -/
  | engine (e : Exn)
  deriving DecidableEq

/-- `RESEARCH_DATA_SOURCES` -/
def researchDataSources : List String :=
  ["BINANCE_PUBLIC_MAINNET_READ_ONLY", "BINANCE_PUBLIC_TESTNET_READ_ONLY"]

/-- A fee rate the constructor accepts. -/
abbrev FeeRate := {r : ℚ // 0 ≤ r ∧ r ≤ 1}

/-- `EconomicCostModel` -/
structure EconomicCostModel where
  makerFeeRate : FeeRate
  takerFeeRate : FeeRate

/-- `fee_rate` -/
def EconomicCostModel.feeRate (m : EconomicCostModel) (maker : Bool) : ℚ :=
  if maker then m.makerFeeRate else m.takerFeeRate

/-- `BacktestTrade` -/
structure BacktestTrade where
  tradeId : String
  timestamp : ℤ
  symbol : String
  strategyId : String
  dataSource : String
  regime : String := "UNKNOWN"
  grossPnl : ℚ
  fundingPnl : ℚ
  entryNotional : ℚ
  exitNotional : ℚ
  entryMaker : Bool := false
  exitMaker : Bool := false
  entrySpreadBps : ℚ
  exitSpreadBps : ℚ
  entrySlippageBps : ℚ
  exitSlippageBps : ℚ
  deriving DecidableEq, Repr

/-- The constructor of `BacktestTrade`. -/
def newTrade (t : BacktestTrade) : Except Failure BacktestTrade := do
  let regime := normalized t.regime
  if t.tradeId = "" ∨ t.symbol.length < 2 ∨ normalized t.symbol = "" ∨ t.strategyId = "" ∨
      normalized t.dataSource ∉ researchDataSources then
    throw .invalidTrade
  if t.entryNotional ≤ 0 ∨ t.exitNotional ≤ 0 ∨ t.entrySpreadBps < 0 ∨ t.exitSpreadBps < 0 ∨
      t.entrySlippageBps < 0 ∨ t.exitSlippageBps < 0 then
    throw .invalidTrade
  return { t with
    symbol := normalized t.symbol
    dataSource := normalized t.dataSource
    regime := if regime = "" then "UNKNOWN" else regime }

/-- `CostedTrade` -/
structure CostedTrade where
  tradeId : String
  grossPnl : ℚ
  tradingFees : ℚ
  spreadCost : ℚ
  slippageCost : ℚ
  fundingPnl : ℚ
  netPnl : ℚ
  deriving DecidableEq, Repr

/-- `EconomicBacktestResult` -/
structure EconomicBacktestResult where
  dataSource : String
  initialCapital : ℚ
  tradeCount : ℕ
  grossPnl : ℚ
  tradingFees : ℚ
  spreadCost : ℚ
  slippageCost : ℚ
  fundingPnl : ℚ
  netPnl : ℚ
  netReturnPct : ℚ
  averageNetPnl : ℚ
  positiveNetExpectancy : Bool
  maxDrawdownPct : ℚ
  equityCurve : List ℚ
  deriving DecidableEq, Repr

section

variable (c : Context)

/-- `cost_trade` -/
def costTrade (m : EconomicCostModel) (t : BacktestTrade) : CostedTrade :=
  let entryFee := c.mul t.entryNotional (m.feeRate t.entryMaker)
  let exitFee := c.mul t.exitNotional (m.feeRate t.exitMaker)
  let tradingFees := c.add entryFee exitFee
  let spreadCost :=
    c.add (c.div (c.mul t.entryNotional t.entrySpreadBps) 20000)
      (c.div (c.mul t.exitNotional t.exitSpreadBps) 20000)
  let slippageCost :=
    c.add (c.div (c.mul t.entryNotional t.entrySlippageBps) 10000)
      (c.div (c.mul t.exitNotional t.exitSlippageBps) 10000)
  let netPnl :=
    c.add (c.sub (c.sub (c.sub t.grossPnl tradingFees) spreadCost) slippageCost) t.fundingPnl
  ⟨t.tradeId, t.grossPnl, tradingFees, spreadCost, slippageCost, t.fundingPnl, netPnl⟩

/-- `drawdown_pct` of an equity below its peak. -/
def drawdownPct (peak equity : ℚ) : ℚ :=
  if 0 < peak then c.div (c.mul 100 (c.sub peak equity)) peak else 100

/-- The equity, its peak, the largest drawdown and the curve so far. -/
structure Curve where
  equity : ℚ
  peak : ℚ
  maxDrawdownPct : ℚ := 0
  equityCurve : List ℚ := []

def Curve.extend (k : Curve) (t : CostedTrade) : Curve :=
  let equity := c.add k.equity t.netPnl
  let peak := max k.peak equity
  ⟨equity, peak, max k.maxDrawdownPct (drawdownPct c peak equity), k.equityCurve ++ [equity]⟩

/-- The loop of checks of `evaluate_trades` over the trades that are left. -/
def checkTrades (source : String) : List String → Option ℤ → List BacktestTrade →
    Except Failure Unit
  | _, _, [] => .ok ()
  | tradeIds, previous, t :: trades => do
    if t.dataSource ≠ source then throw (.value "all trades must use one consistent data_source")
    if t.tradeId ∈ tradeIds then throw (.value ("duplicate research trade_id: " ++ t.tradeId))
    if previous.any fun p => t.timestamp ≤ p then
      throw (.value "trades must be strictly ordered chronologically")
    checkTrades source (t.tradeId :: tradeIds) (some t.timestamp) trades

/-- `evaluate_trades` -/
def evaluateTrades (trades : List BacktestTrade) (initialCapital : ℚ) (m : EconomicCostModel) :
    Except Failure EconomicBacktestResult := do
  if initialCapital ≤ 0 then throw (.value "initial_capital must be positive")
  match trades with
  | [] => throw (.value "at least one research trade is required")
  | first :: rest =>
    checkTrades first.dataSource [] none (first :: rest)
    let costed := (first :: rest).map (costTrade c m)
    let netPnl := c.sum (costed.map CostedTrade.netPnl)
    let curve := costed.foldl (Curve.extend c) { equity := initialCapital, peak := initialCapital }
    let averageNetPnl := c.div netPnl costed.length
    return {
      dataSource := first.dataSource
      initialCapital
      tradeCount := costed.length
      grossPnl := c.sum (costed.map CostedTrade.grossPnl)
      tradingFees := c.sum (costed.map CostedTrade.tradingFees)
      spreadCost := c.sum (costed.map CostedTrade.spreadCost)
      slippageCost := c.sum (costed.map CostedTrade.slippageCost)
      fundingPnl := c.sum (costed.map CostedTrade.fundingPnl)
      netPnl
      netReturnPct := c.div (c.mul 100 netPnl) initialCapital
      averageNetPnl
      positiveNetExpectancy := 0 < averageNetPnl
      maxDrawdownPct := curve.maxDrawdownPct
      equityCurve := curve.equityCurve }

end

/-! ### What is evaluated -/

variable {c : Context} {m : EconomicCostModel}

theorem newTrade_ok {t t' : BacktestTrade} (h : newTrade t = .ok t') :
    t' = { t with symbol := t'.symbol, dataSource := t'.dataSource, regime := t'.regime } := by
  simp only [newTrade, except_guard_ok] at h
  obtain ⟨-, -, h⟩ := h
  rw [← Except.ok.inj h]

theorem evaluateTrades_ok {trades : List BacktestTrade} {initialCapital : ℚ}
    {result : EconomicBacktestResult} (h : evaluateTrades c trades initialCapital m = .ok result) :
    result.grossPnl = c.sum (trades.map fun t => (costTrade c m t).grossPnl) ∧
      result.tradingFees = c.sum (trades.map fun t => (costTrade c m t).tradingFees) ∧
      result.netPnl = c.sum (trades.map fun t => (costTrade c m t).netPnl) := by
  unfold evaluateTrades at h
  obtain ⟨-, h⟩ := except_guard_ok.mp h
  cases trades with
  | nil => cases h
  | cons first rest =>
    obtain ⟨-, -, h⟩ := except_bind_ok.mp h
    rw [← Except.ok.inj h]
    simp only [List.map_map]
    exact ⟨rfl, rfl, rfl⟩

end Blessing.Backtest.Economic
