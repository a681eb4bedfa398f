import Blessing.Backtest.Replay
import Blessing.Engines.Derisking

/-! # The account of a replay

An event changes the account of a run in two ways at most: it settles funding, and it fills one
order that has passed the gate. What passes the gate opens a position from flat or reduces the one
there is. -/

namespace Blessing.Backtest.Steps

open Blessing.Lib Blessing.Lib.Rounding Blessing.Lib.Effects
open Blessing.Binance.Models (OrderSide PositionSide EconomicRiskClass Exn)
open Blessing.Engines.Intents Blessing.Engines.ExposureRecovery Blessing.Engines.Governor
open Blessing.Engines.Derisking
open Blessing.Backtest.Economic Blessing.Backtest.Replay

/-- The part of a run the position and the money are in. -/
structure Account where
  position : Option PositionState
  realizedNetPnl : ℚ
  activeExposureChains : ℕ
  gridDepth : ℕ
  fills : List ExchangeFill
  trades : List BacktestTrade
  fundings : List ℚ
  applied : List Applied

/-- The account of a run. -/
def account (r : Run) : Account :=
  ⟨r.replay.position, r.replay.realizedNetPnl, r.replay.activeExposureChains, r.replay.gridDepth,
    r.fills, r.trades, r.fundings, r.applied⟩

/-- Funding is settled. -/
def Account.fund (c : Context) (a : Account) (funding : ℚ) : Account :=
  { a with
    position := a.position.map fun p => { p with fundingPnl := c.add p.fundingPnl funding }
    fundings := a.fundings ++ [funding] }

variable {c : Context} {config : ReplayExecutionConfig} {platform : Platform}

/-! ### Steps that leave the account alone -/

@[simp] theorem account_point (r : Run) (event : HistoricalMarketEvent) :
    account (r.point c config event) = account r := rfl

/-- `_apply_funding` settles at most once, and only for an open position. -/
theorem applyFunding_account {r : Run} {event : HistoricalMarketEvent} {funding : Option ℚ}
    {s : DeterministicReplay} (h : applyFunding c config r.replay event = .ok (funding, s)) :
    s.sequence = r.replay.sequence ∧
      (account { r with replay := s, fundings := r.fundings ++ funding.toList } = account r ∨
        ∃ p f, r.replay.position = some p ∧
          account { r with replay := s, fundings := r.fundings ++ funding.toList } =
            (account r).fund c f) := by
  unfold applyFunding at h
  cases hposition : r.replay.position with
  | none =>
    rw [hposition] at h
    cases h
    exact ⟨rfl, .inl (by simp [account])⟩
  | some p =>
    rw [hposition] at h
    obtain ⟨-, h⟩ := except_guard_ok.mp h
    split_ifs at h with hevent
    · obtain ⟨fundingPnl, -, h⟩ := except_bind_ok.mp h
      cases h
      exact ⟨rfl, .inr ⟨p, fundingPnl, rfl, by simp [account, Account.fund, hposition]⟩⟩
    · cases h
      exact ⟨rfl, .inl (by simp [account, hposition])⟩

/-! ### The gate -/

/-- An order of a normalized quantity that may be filled at a price. -/
structure Accepted (c : Context) (config : ReplayExecutionConfig) (position : Option PositionState)
    (event : HistoricalMarketEvent) (order : OrderIntent) (price : ℚ) : Prop where
  rules : ∃ rules, config.rulesFor event.symbol = .ok rules ∧
    (∃ units : ℤ, order.quantity = c.mul units rules.stepSize) ∧
    (rules.minQuantity ≤ order.quantity ∧ ∀ q ∈ rules.maxQuantity, order.quantity ≤ q) ∧
    rules.minNotional ≤ c.mul order.quantity price ∧
    ∀ n ∈ rules.maxNotional, c.mul order.quantity price ≤ n
  positive : 0 < order.quantity
  quoted : price = marketFillPrice c config order.side event
  depth : order.quantity ≤ availableDepth order.side event
  opening : position = none → c.mul order.quantity price ≤ config.maxSingleOrderNotional
  reducing : ∀ p, position = some p → isReducing c p.signedQty order.side order.quantity = true

theorem signedQty_of_flat {s : DeterministicReplay} (h : s.position = none) : s.signedQty = 0 := by
  rw [DeterministicReplay.signedQty, h]
  rfl

theorem signedQty_of_open {s : DeterministicReplay} {p : PositionState} (h : s.position = some p) :
    s.signedQty = p.signedQty := by
  rw [DeterministicReplay.signedQty, h]
  rfl

theorem not_lt_of_any_false {o : Option ℚ} {q : ℚ} (h : ¬ (o.any fun m => decide (m < q)) = true) :
    ∀ m ∈ o, q ≤ m := by
  intro m hm
  rw [Option.mem_def.mp hm] at h
  simpa using h

theorem gate_accepted {s : DeterministicReplay} {order : OrderIntent}
    {riskClass : EconomicRiskClass} {event : HistoricalMarketEvent} {normalized : OrderIntent}
    {price : ℚ} (h : orderGate c config s order riskClass event = .ok (.ok (normalized, price)))
    (hopening : s.position = none → riskClass = .newRisk)
    (hreducing : s.position ≠ none → order.reduceOnly = true) :
    normalized = { order with quantity := normalized.quantity } ∧
      Accepted c config s.position event normalized price := by
  unfold orderGate at h
  cases hkind : gateKind order event with
  | error reason =>
    rw [hkind] at h
    cases h
  | ok u =>
    rw [hkind] at h
    obtain ⟨rules, hrules, h⟩ := except_bind_ok.mp h
    obtain ⟨⟨quantity, fillPrice⟩, hfill, h⟩ := except_bind_ok.mp (Except.ok.inj h)
    obtain ⟨passed, hexposure, h⟩ := except_bind_ok.mp h
    cases h
    refine ⟨rfl, ?_⟩
    simp only [gateFill, except_guard_ok] at hfill
    obtain ⟨hmin, hmax, hminNotional, hmaxNotional, hdepth, hfill⟩ := hfill
    cases hfill
    simp only [gateExposure, except_guard_ok] at hexposure
    obtain ⟨hreduceOnly, -, -, hcap, -⟩ := hexposure
    obtain ⟨hmin, hpositive⟩ := not_or.mp hmin
    refine ⟨⟨rules, hrules, ⟨_, rfl⟩, ⟨not_lt.mp hmin, not_lt_of_any_false hmax⟩,
      not_lt.mp hminNotional,
      not_lt_of_any_false hmaxNotional⟩, not_le.mp hpositive, rfl, not_lt.mp hdepth,
      fun hflat => ?_, fun p hopen => ?_⟩
    · exact not_lt.mp fun hlt => hcap ⟨.inl (hopening hflat), hlt⟩
    · have hne : s.position ≠ none := by
        rw [hopen]
        exact Option.some_ne_none p
      rw [← signedQty_of_open hopen]
      by_contra hnot
      exact hreduceOnly ⟨hreducing hne, hnot⟩

/-! ### The decision -/

/-- Of an open position the snapshot lets only reductions happen. -/
theorem riskSnapshot_riskOff {s : DeterministicReplay} {event : HistoricalMarketEvent}
    (h : s.position ≠ none) : (riskSnapshot c config s event).1.riskState ∈ riskOffStates := by
  have hsome : s.position.isSome = true := Option.isSome_iff_ne_none.mpr h
  unfold riskSnapshot
  dsimp only
  rw [hsome, if_pos rfl]
  split_ifs
  · decide
  · decide

/-- A decision has one order at most; it opens if the position is flat, and only reduces if not. -/
theorem decideOn_ok {r r' : Run} {event : HistoricalMarketEvent} {intents : List StrategyIntent}
    {decision : ExecutionDecision} {exposureId : String}
    (h : decideOn c config platform event intents r = .ok (decision, exposureId, r')) :
    account r' = account r ∧ r.replay.sequence < r'.replay.sequence ∧
      (decision.orders = [] ∨ ∃ order, decision.orders = [order] ∧
        order.clientOrderId =
          nextId platform.stamp "B-SYS" ⟨event.eventTime, true⟩ (r.replay.sequence + 1) ∧
        (r.replay.position = none → decision.riskClass = .newRisk) ∧
        (r.replay.position ≠ none → order.reduceOnly = true)) := by
  unfold decideOn at h
  obtain ⟨allocated, -, h⟩ := except_bind_ok.mp h
  cases h
  set target := (ExposureRecoveryEngine.process c {} ⟨event.eventTime, true⟩ r.replay.states
    (targetWithStableId platform allocated) (riskSnapshot c config r.replay event).1
    r.replay.signedQty).1
  rcases evaluate_cases (governor config) platform.stamp ⟨event.eventTime,
    true⟩ r.replay.sequence target
    (riskSnapshot c config r.replay event).1 r.replay.signedQty with
    ⟨hnone, hsequence⟩ | ⟨riskClass, hblocked, hlarge, hclass, hsubmit⟩
  · refine ⟨rfl, ?_, .inl hnone⟩
    dsimp only
    rw [hsequence]
    exact Nat.lt_succ_self _
  · rw [hsubmit]
    refine ⟨rfl, Nat.lt_add_of_pos_right (by decide),
      .inr ⟨_, rfl, rfl, fun hflat => ?_, fun hopen => ?_⟩⟩
    · rw [signedQty_of_flat hflat] at hclass
      unfold classifyRisk at hclass
      rw [if_pos rfl] at hclass
      exact (Option.some.inj hclass).symm
    · obtain ⟨hagainst, hwithin⟩ := isPositionReduction_iff.mp
        (reduction_of_not_blocked hblocked (.inl (riskSnapshot_riskOff hopen)))
      exact reduces_of_within hagainst hwithin hclass

/-! ### Fills -/

/-- What the fill of an order says. -/
structure FillOf (c : Context) (config : ReplayExecutionConfig) (order : OrderIntent) (price : ℚ)
    (realizedPnl : ℚ) (fill : ExchangeFill) : Prop where
  clientOrderId : fill.clientOrderId = order.clientOrderId
  amount : fill.quantity = order.quantity ∧ fill.price = price ∧ fill.side = order.side
  commission : fill.commission = c.mul (c.mul order.quantity price) config.costModel.takerFeeRate
  realizedPnl : fill.realizedPnl = realizedPnl

/-- What the trade of a reduction says. -/
structure TradeOf (c : Context) (config : ReplayExecutionConfig) (p : PositionState)
    (order : OrderIntent) (price : ℚ) (event : HistoricalMarketEvent) (trade : BacktestTrade) :
    Prop where
  fundingPnl : trade.fundingPnl = c.div (c.mul p.fundingPnl order.quantity)
    (c.magnitude p.signedQty)
  grossPnl : trade.grossPnl =
    c.mul (c.sub (c.div (c.add event.bestBid event.bestAsk) 2) p.referenceEntryPrice)
      (if 0 < p.signedQty then order.quantity else c.minus order.quantity)
  entryNotional : trade.entryNotional =
    c.div (c.mul p.entryNotional order.quantity) (c.magnitude p.signedQty)
  exitNotional : trade.exitNotional = c.mul order.quantity price
  taker : trade.entryMaker = false ∧ trade.exitMaker = false
  entryFriction : trade.entrySpreadBps = p.entrySpreadBps ∧
    trade.entrySlippageBps = p.entrySlippageBps
  exitFriction : trade.exitSpreadBps = spreadBps c event ∧
    trade.exitSlippageBps = config.marketSlippageBps

/-- An accepted fill: it opens a position from flat, or it reduces the open one. -/
inductive Filled (c : Context) (config : ReplayExecutionConfig) (event : HistoricalMarketEvent)
    (order : OrderIntent) (price : ℚ) (grid : Bool) : Account → Account → Prop
  | opening (a : Account) (strategyId regime : String) (fill : ExchangeFill)
      (hflat : a.position = none) (hfill : FillOf c config order price 0 fill) :
      Filled c config event order price grid a
        { a with
          position := some (openedPosition c config order price event strategyId regime)
          activeExposureChains := a.activeExposureChains + 1
          fills := a.fills ++ [fill]
          applied :=
            a.applied ++ [⟨none, some (openedPosition c config order price event strategyId regime),
            fill, event, grid⟩] }
  | reducing (a : Account) (p : PositionState) (trade : BacktestTrade) (fill : ExchangeFill)
      (hopen : a.position = some p)
      (hopposite : opposite p.signedQty (signedOrderQty c order.side order.quantity))
      (htrade : TradeOf c config p order price event trade)
      (hfill : FillOf c config order price trade.grossPnl fill) (after : Option PositionState)
      (hafter : after =
        if (reducedPosition c p order).signedQty = 0 then none
        else some (reducedPosition c p order)) :
      Filled c config event order price grid a
        { a with
          position := after
          realizedNetPnl := c.add a.realizedNetPnl (costTrade c config.costModel trade).netPnl
          activeExposureChains :=
            if after.isNone then a.activeExposureChains - 1 else a.activeExposureChains
          fills := a.fills ++ [fill]
          trades := a.trades ++ [trade]
          applied := a.applied ++ [⟨some p, after, fill, event, grid⟩] }

theorem Filled.recorded {event : HistoricalMarketEvent} {order : OrderIntent} {price : ℚ}
    {grid : Bool} {a b : Account} (hfilled : Filled c config event order price grid a b)
    (h : a.applied.map Applied.fill = a.fills) : b.applied.map Applied.fill = b.fills := by
  cases hfilled with
  | opening strategyId regime fill hflat hfill =>
    rw [List.map_append, h]
    rfl
  | reducing p trade fill hopen hopposite htrade hfill after hafter =>
    rw [List.map_append, h]
    rfl

section

variable {s s' : DeterministicReplay} {order : OrderIntent} {price : ℚ}
    {event : HistoricalMarketEvent} {strategyId regime : String} {trade : Option BacktestTrade}

theorem opposite_of_reducing {q : ℚ} {side : OrderSide} {quantity : ℚ}
    (h : isReducing c q side quantity = true) : opposite q (signedOrderQty c side quantity) := by
  unfold isReducing at h
  exact (of_decide_eq_true h).2.2.1

theorem appendTradeForReduction_ok {p : PositionState} {quantity exitMid : ℚ} {made : BacktestTrade}
    (h : appendTradeForReduction c config s p quantity exitMid price event = .ok (made, s')) :
    made.fundingPnl = c.div (c.mul p.fundingPnl quantity) (c.magnitude p.signedQty) ∧
      made.grossPnl = c.mul (c.sub exitMid p.referenceEntryPrice)
        (if 0 < p.signedQty then quantity else c.minus quantity) ∧
      made.entryNotional = c.div (c.mul p.entryNotional quantity) (c.magnitude p.signedQty) ∧
      made.exitNotional = c.mul quantity price ∧
      (made.entryMaker = false ∧ made.exitMaker = false) ∧
      (made.entrySpreadBps = p.entrySpreadBps ∧ made.entrySlippageBps = p.entrySlippageBps) ∧
      (made.exitSpreadBps = spreadBps c event ∧ made.exitSlippageBps = config.marketSlippageBps) ∧
      s' = { s with
        tradeSequence := s.tradeSequence + 1
        realizedNetPnl := c.add s.realizedNetPnl (costTrade c config.costModel made).netPnl } := by
  unfold appendTradeForReduction at h
  obtain ⟨t, ht, h⟩ := except_bind_ok.mp h
  cases h
  rw [newTrade_ok ht]
  exact ⟨rfl, rfl, rfl, rfl, ⟨rfl, rfl⟩, ⟨rfl, rfl⟩, ⟨rfl, rfl⟩, rfl⟩

theorem fillPosition_flat (h : s.position = none) :
    fillPosition c config s order price event strategyId regime = .ok (none, { s with
      position := some (openedPosition c config order price event strategyId regime)
      activeExposureChains := s.activeExposureChains + 1
      lastFundingAt := some event.eventTime
      fundingEventSeen := false }) := by
  unfold fillPosition
  rw [h]

theorem reduceTo_spec (s : DeterministicReplay) (p : PositionState) :
    (s.reduceTo p).position = (if p.signedQty = 0 then none else some p) ∧
      (s.reduceTo p).sequence = s.sequence ∧ (s.reduceTo p).gridDepth = s.gridDepth ∧
      (s.reduceTo p).realizedNetPnl = s.realizedNetPnl ∧
      (s.reduceTo p).activeExposureChains =
        if (s.reduceTo p).position.isNone then s.activeExposureChains - 1
        else s.activeExposureChains := by
  unfold DeterministicReplay.reduceTo
  split_ifs with hzero hnone hsome
  · exact ⟨rfl, rfl, rfl, rfl, rfl⟩
  · exact absurd rfl hnone
  · cases hsome
  · exact ⟨rfl, rfl, rfl, rfl, rfl⟩

theorem fillPosition_open {p : PositionState} (h : s.position = some p)
    (hopposite : opposite p.signedQty (signedOrderQty c order.side order.quantity))
    (hfill : fillPosition c config s order price event strategyId regime = .ok (trade, s')) :
    ∃ made, trade = some made ∧ TradeOf c config p order price event made ∧
      s'.position = (if (reducedPosition c p order).signedQty = 0 then none
        else some (reducedPosition c p order)) ∧
      s'.sequence = s.sequence ∧ s'.gridDepth = s.gridDepth ∧
      s'.realizedNetPnl = c.add s.realizedNetPnl (costTrade c config.costModel made).netPnl ∧
      s'.activeExposureChains =
        if s'.position.isNone then s.activeExposureChains - 1 else s.activeExposureChains := by
  unfold fillPosition at hfill
  rw [h] at hfill
  dsimp only at hfill
  rw [if_pos hopposite] at hfill
  obtain ⟨⟨made, s₁⟩, hmade, hfill⟩ := except_bind_ok.mp hfill
  obtain ⟨hfunding, hgross, hentry, hexit, htaker, hentryFriction, hexitFriction, rfl⟩ :=
    appendTradeForReduction_ok hmade
  cases hfill
  exact ⟨made, rfl, ⟨hfunding, hgross, hentry, hexit, htaker, hentryFriction, hexitFriction⟩,
    reduceTo_spec _ _⟩

theorem applyFill_ok {fill : ExchangeFill} {decisionId targetExposureId : Option String}
    (h : applyFill c config s order price event strategyId regime decisionId targetExposureId =
      .ok (fill, trade, s')) :
    fillPosition c config { s with fillSequence := s.fillSequence + 1 } order price event strategyId
        regime = .ok (trade, s') ∧
      FillOf c config order price ((trade.map BacktestTrade.grossPnl).getD 0) fill := by
  unfold applyFill at h
  obtain ⟨⟨trade, s₁⟩, hposition, h⟩ := except_bind_ok.mp h
  cases h
  exact ⟨hposition, rfl, ⟨rfl, rfl, rfl⟩, rfl, rfl⟩

theorem fill_filled {r r' : Run} {fill : ExchangeFill} {decisionId targetExposureId : Option String}
    {grid : Bool} (haccepted : Accepted c config r.replay.position event order price)
    (h : r.fill c config order price event strategyId regime decisionId targetExposureId grid =
      .ok (fill, r')) :
    Filled c config event order price grid (account r) (account r') ∧
      r'.replay.sequence = r.replay.sequence := by
  unfold Run.fill at h
  obtain ⟨⟨filled, trade, s⟩, happly, h⟩ := except_bind_ok.mp h
  cases h
  obtain ⟨hposition, hfill⟩ := applyFill_ok happly
  generalize hs₀ : { r.replay with fillSequence := r.replay.fillSequence + 1 } = s₀ at hposition
  have hsame : s₀.position = r.replay.position := by rw [← hs₀]
  cases hr : r.replay.position with
  | none =>
    rw [fillPosition_flat (hsame.trans hr)] at hposition
    cases hposition
    subst hs₀
    refine ⟨?_, rfl⟩
    have hstep : Filled c config event order price grid _ _ :=
      .opening (account r) strategyId regime filled hr hfill
    simp only [account, hr, Option.toList_none, List.append_nil] at hstep ⊢
    exact hstep
  | some p =>
    have hopposite := opposite_of_reducing (haccepted.reducing p hr)
    obtain ⟨made, rfl, htrade, hafter, hsequence, hdepth, hrealized, hchains⟩ :=
      fillPosition_open (hsame.trans hr) hopposite hposition
    subst hs₀
    refine ⟨?_, hsequence⟩
    have hstep : Filled c config event order price grid _ _ :=
      .reducing (account r) p made filled hr hopposite htrade hfill _ hafter
    simp only [account, hr, hdepth, hrealized, hchains, Option.toList_some] at hstep ⊢
    exact hstep

end

/-! ### Events -/

/-- What the order of an event does to the account: nothing, or one accepted fill. The numbers are
the sequence numbers of the governor before and after it. -/
inductive Ordered (c : Context) (config : ReplayExecutionConfig) (platform : Platform)
    (event : HistoricalMarketEvent) : ℕ → ℕ → Account → Account → Prop
  | nothing {n n' : ℕ} (a : Account) (hle : n ≤ n') : Ordered c config platform event n n' a a
  | filled {n n' : ℕ} (a b : Account) (order : OrderIntent) (price : ℚ) (grid : Bool) (hlt : n < n')
      (hid : order.clientOrderId = nextId platform.stamp "B-SYS" ⟨event.eventTime, true⟩ (n + 1))
      (haccepted : Accepted c config a.position event order price)
      (hfilled : Filled c config event order price grid a b) :
      Ordered c config platform event n n' a
        { b with gridDepth := if grid then b.gridDepth + 1 else b.gridDepth }

theorem onOrder_ok {event : HistoricalMarketEvent} {decision : ExecutionDecision}
    {exposureId regime : String} {intents : List StrategyIntent} {r r' : Run} {order : OrderIntent}
    (h : onOrder c config event decision exposureId intents regime r order = .ok r')
    (hopening : r.replay.position = none → decision.riskClass = .newRisk)
    (hreducing : r.replay.position ≠ none → order.reduceOnly = true) :
    r'.replay.sequence = r.replay.sequence ∧
      (account r' = account r ∨ ∃ normalized price b,
        normalized.clientOrderId = order.clientOrderId ∧
        Accepted c config (account r).position event normalized price ∧
        Filled c config event normalized price (anyGrid intents) (account r) b ∧
        account r' =
          { b with gridDepth := if anyGrid intents then b.gridDepth + 1 else b.gridDepth }) := by
  unfold onOrder at h
  obtain ⟨gated, hgate, h⟩ := except_bind_ok.mp h
  cases gated with
  | error reason =>
    cases h
    exact ⟨rfl, .inl rfl⟩
  | ok accepted =>
    obtain ⟨normalized, price⟩ := accepted
    obtain ⟨⟨fill, filled⟩, hfill, h⟩ := except_bind_ok.mp h
    obtain ⟨hsame, haccepted⟩ := gate_accepted hgate hopening hreducing
    obtain ⟨hfilled, hsequence⟩ := fill_filled haccepted hfill
    cases h
    have hid : normalized.clientOrderId = order.clientOrderId := by rw [hsame]
    split_ifs
    · exact ⟨hsequence, .inr ⟨normalized, price, account filled, hid, haccepted, hfilled, rfl⟩⟩
    · exact ⟨hsequence, .inr ⟨normalized, price, account filled, hid, haccepted, hfilled, rfl⟩⟩

theorem onAnalysis_ok {event : HistoricalMarketEvent} {analysis : Option Analysis} {r r' : Run}
    (h : onAnalysis c config platform event analysis r = .ok r') :
    Ordered c config platform event r.replay.sequence r'.replay.sequence (account r)
      (account r') := by
  unfold onAnalysis at h
  cases analysis with
  | none =>
    cases h
    exact .nothing _ le_rfl
  | some analysis =>
    dsimp only at h
    split_ifs at h with hempty
    · cases h
      exact .nothing _ le_rfl
    · obtain ⟨⟨decision, exposureId, decided⟩, hdecided, h⟩ := except_bind_ok.mp h
      obtain ⟨haccount, hlt, horders⟩ := decideOn_ok hdecided
      dsimp only at h
      have hposition : decided.replay.position = r.replay.position :=
        congrArg Account.position haccount
      split_ifs at h with hnone
      · cases h
        rw [← haccount]
        exact .nothing (account decided) hlt.le
      · obtain ⟨order, horder, hid, hopening, hreducing⟩ := horders.resolve_left hnone
        obtain ⟨filled, hfilled, h⟩ := except_bind_ok.mp h
        rw [horder, List.foldlM_cons] at hfilled
        obtain ⟨next, hnext, hfilled⟩ := except_bind_ok.mp hfilled
        cases hfilled
        cases h
        rw [← hposition] at hopening hreducing
        obtain ⟨hsequence, hsame | ⟨normalized, price, b, hnormalized, haccepted, hfill, hb⟩⟩ :=
          onOrder_ok hnext hopening hreducing
        · rw [account_point, hsame, haccount]
          refine .nothing _ ?_
          exact hlt.le.trans hsequence.ge
        · rw [account_point, hb]
          rw [haccount] at haccepted hfill
          refine .filled _ b normalized price _ ?_ (hnormalized.trans hid) haccepted hfill
          exact hlt.trans_le hsequence.ge

/-- An event settles funding at most once, and then does what its order does. -/
theorem onEvent_ok {o : Observed} {r r' : Run} (h : onEvent c config platform r o = .ok r') :
    ∃ a, (a = account r ∨ ∃ p f, r.replay.position = some p ∧ a = (account r).fund c f) ∧
      Ordered c config platform o.event r.replay.sequence r'.replay.sequence a (account r') := by
  unfold onEvent at h
  obtain ⟨⟨funding, s⟩, hfunding, h⟩ := except_bind_ok.mp h
  obtain ⟨hsequence, haccount⟩ := applyFunding_account hfunding
  have hordered := onAnalysis_ok h
  dsimp only at hordered
  rw [hsequence] at hordered
  exact ⟨_, haccount, hordered⟩

theorem finish_ok {last : HistoricalMarketEvent} {r r' : Run}
    (h : finish c config last r = .ok r') :
    account r' = account r ∨ ∃ order price,
      Accepted c config r.replay.position last order price ∧
      Filled c config last order price false (account r) (account r') := by
  unfold finish at h
  cases hposition : r.replay.position with
  | none =>
    rw [hposition] at h
    cases h
    exact .inl rfl
  | some p =>
    rw [hposition] at h
    dsimp only at h
    split_ifs at h
    · obtain ⟨closed, hclosed, h⟩ := except_bind_ok.mp h
      cases h
      unfold forceClose at hclosed
      obtain ⟨gated, hgate, hclosed⟩ := except_bind_ok.mp hclosed
      cases gated with
      | error reason => cases hclosed
      | ok accepted =>
        obtain ⟨order, price⟩ := accepted
        obtain ⟨⟨fill, filled⟩, hfill, hclosed⟩ := except_bind_ok.mp hclosed
        cases hclosed
        have hopen : (riskSnapshot c config r.replay last).2.position = some p := hposition
        obtain ⟨-, haccepted⟩ := gate_accepted hgate
          (fun hflat => absurd (hflat.symm.trans hopen) (Option.some_ne_none p).symm) (fun _ => rfl)
        obtain ⟨hfilled, -⟩ := fill_filled haccepted hfill
        rw [← hposition]
        exact .inr ⟨order, price, haccepted, hfilled⟩
    · cases h
      exact .inl rfl

/-- **What holds along a replay**: whatever holds at the start and is kept by the funding of an open
position and by every accepted fill of an event. -/
theorem replayed_inv (P : ℕ → Account → Prop) {events : List Observed}
    (hstart : P 0 (account (start config))) (hmono : ∀ n n' a, n ≤ n' → P n a → P n' a)
    (hfund : ∀ n a p f, a.position = some p → P n a → P n (a.fund c f))
    (hfill : ∀ n a b order price grid, ∀ o ∈ events, P n a →
      order.clientOrderId = nextId platform.stamp "B-SYS" ⟨o.event.eventTime, true⟩ (n + 1) →
      Accepted c config a.position o.event order price →
      Filled c config o.event order price grid a b →
      P (n + 1) { b with gridDepth := if grid then b.gridDepth + 1 else b.gridDepth }) :
    Gives (fun r => P r.replay.sequence (account r)) (replayed c config platform events) := by
  refine Gives.foldlM_of_mem (fun r o ho hr r' hevent => ?_) hstart
  obtain ⟨a, hfunded, hordered⟩ := onEvent_ok hevent
  have ha : P r.replay.sequence a := by
    rcases hfunded with rfl | ⟨p, f, hopen, rfl⟩
    · exact hr
    · exact hfund _ _ p f hopen hr
  generalize account r' = b at hordered
  cases hordered with
  | nothing hle => exact hmono _ _ _ hle ha
  | filled b order price grid hlt hid haccepted hfilled =>
    exact hmono _ _ _ hlt (hfill _ a b order price grid o ho ha hid haccepted hfilled)

end Blessing.Backtest.Steps
