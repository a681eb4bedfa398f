import Blessing.Backtest.Steps

/-! # Conservation of money in a replay

In exact arithmetic the three accounts of a replay agree, whatever its events and strategies are:
the equity, the costed trades and the fills. Funding and the notional of the entry are split over
the trades of a position in proportion, and the trade that closes it takes what is left. -/

namespace Blessing.Backtest.Conservation

open Blessing.Lib Blessing.Lib.Rounding Blessing.Lib.Effects
open Blessing.Engines.Intents Blessing.Engines.Governor
open Blessing.Backtest.Economic Blessing.Backtest.Replay Blessing.Backtest.Steps

/-! ### Sums of an account -/

/-- The net results of the trades. -/
def netPnls (config : ReplayExecutionConfig) (trades : List BacktestTrade) : ℚ :=
  (trades.map fun t => (costTrade .exact config.costModel t).netPnl).sum

/-- The notionals of the fills that opened a position. -/
def openingNotionals (applied : List Applied) : ℚ :=
  ((applied.filter fun f => f.before.isNone).map fun f => f.fill.quantity * f.fill.price).sum

/-- The entry notional of the open position. -/
def openNotional (position : Option PositionState) : ℚ :=
  (position.map PositionState.entryNotional).getD 0

/-- The funding of the open position. -/
def openFunding (position : Option PositionState) : ℚ :=
  (position.map PositionState.fundingPnl).getD 0

/-- The fee rate of every fill. -/
def takerRate (config : ReplayExecutionConfig) : ℚ := config.costModel.takerFeeRate

/-- The accounts agree. -/
structure Balanced (config : ReplayExecutionConfig) (a : Account) : Prop where
  realized : a.realizedNetPnl = netPnls config a.trades
  funding : a.fundings.sum = (a.trades.map BacktestTrade.fundingPnl).sum + openFunding a.position
  entries : openingNotionals a.applied =
    (a.trades.map BacktestTrade.entryNotional).sum + openNotional a.position
  commissions : (a.fills.map ExchangeFill.commission).sum =
    (a.trades.map fun t => (costTrade .exact config.costModel t).tradingFees).sum +
      openNotional a.position * takerRate config
  gross : (a.fills.map ExchangeFill.realizedPnl).sum = (a.trades.map BacktestTrade.grossPnl).sum
  nonzero : ∀ p, a.position = some p → p.signedQty ≠ 0
  recorded : a.applied.map Applied.fill = a.fills

variable {config : ReplayExecutionConfig} {platform : Platform} {a b : Account}

theorem balanced_start : Balanced config (account (start config)) where
  realized := rfl
  funding := by simp [account, start, openFunding]
  entries := by simp [openingNotionals, account, start, openNotional]
  commissions := by simp [account, start, openNotional]
  gross := rfl
  nonzero := fun p hp => by cases hp
  recorded := rfl

theorem balanced_fund {p : PositionState} {f : ℚ} (hopen : a.position = some p)
    (h : Balanced config a) : Balanced config (a.fund .exact f) := by
  have hfunding := h.funding
  have hentries := h.entries
  have hcommissions := h.commissions
  rw [hopen] at hfunding hentries hcommissions
  refine ⟨h.realized, ?_, ?_, ?_, h.gross, fun p' hp => ?_, h.recorded⟩
  · simp only [Account.fund, hopen, List.sum_append, hfunding]
    simp [openFunding]
    ring
  · simp only [Account.fund, hopen]
    exact hentries
  · simp only [Account.fund, hopen]
    exact hcommissions
  · simp only [Account.fund, hopen, Option.map_some] at hp
    cases hp
    exact h.nonzero p hopen

/-! ### Fills -/

section

variable {event : HistoricalMarketEvent} {order : OrderIntent} {price : ℚ} {grid : Bool}

theorem tradingFees_eq {t : BacktestTrade} (htaker : t.entryMaker = false ∧ t.exitMaker = false) :
    (costTrade .exact config.costModel t).tradingFees =
      t.entryNotional * takerRate config + t.exitNotional * takerRate config := by
  simp [costTrade, htaker.1, htaker.2, EconomicCostModel.feeRate, takerRate]

theorem openingNotionals_append (applied : List Applied) (f : Applied) :
    openingNotionals (applied ++ [f]) = openingNotionals applied +
      if f.before.isNone then f.fill.quantity * f.fill.price else 0 := by
  unfold openingNotionals
  rw [List.filter_append, List.map_append, List.sum_append]
  congr 1
  cases hbefore : f.before with
  | none => simp [hbefore]
  | some p => simp [hbefore]

/-- What is left of an amount behind its share. -/
theorem rest_of_share (p : PositionState) (after : Option PositionState)
    (amount : PositionState → ℚ) (hne : p.signedQty ≠ 0)
    (hamount : amount (reducedPosition .exact p order) =
      amount p - amount p * order.quantity / |p.signedQty|) (hpositive : 0 < order.quantity)
    (hafter : after = if (reducedPosition .exact p order).signedQty = 0 then none
      else some (reducedPosition .exact p order)) :
    (after.map amount).getD 0 = amount p - amount p * order.quantity / |p.signedQty| := by
  rw [hafter]
  split_ifs with hzero
  · -- the trade that closes the position takes everything
    have hall : order.quantity = |p.signedQty| := by
      simp only [reducedPosition, Context.exact_add] at hzero
      cases hside : order.side with
      | buy =>
        rw [hside] at hzero
        simp only [signedOrderQty] at hzero
        rw [abs_of_neg (by linarith)]
        linarith
      | sell =>
        rw [hside] at hzero
        simp only [signedOrderQty, Context.exact_minus] at hzero
        rw [abs_of_pos (by linarith)]
        linarith
    rw [hall, mul_div_assoc, div_self (abs_ne_zero.mpr hne)]
    simp
  · rw [Option.map_some, Option.getD_some, hamount]

/-- **A fill conserves money.** -/
theorem balanced_filled (h : Balanced config a)
    (haccepted : Accepted .exact config a.position event order price)
    (hfilled : Filled .exact config event order price grid a b) : Balanced config b := by
  have hrecorded := hfilled.recorded h.recorded
  cases hfilled with
  | opening strategyId regime fill hflat hfill =>
    have hfunding := h.funding
    have hentries := h.entries
    have hcommissions := h.commissions
    rw [hflat] at hfunding hentries hcommissions
    obtain ⟨hquantity, hprice, -⟩ := hfill.amount
    refine ⟨h.realized, ?_, ?_, ?_, ?_, ?_, hrecorded⟩
    · rw [hfunding]
      rfl
    · rw [openingNotionals_append, hentries]
      simp [hquantity, hprice, openNotional, openedPosition]
    · rw [List.map_append, List.sum_append, hcommissions]
      simp [hfill.commission, openNotional, openedPosition, takerRate]
    · rw [List.map_append, List.sum_append, h.gross]
      simp [hfill.realizedPnl]
    · intro p hp
      cases hp
      have hpositive := haccepted.positive
      simp only [openedPosition]
      cases order.side with
      | buy => exact hpositive.ne'
      | sell => exact neg_ne_zero.mpr hpositive.ne'
  | reducing p trade fill hopen hopposite htrade hfill after hafter =>
    have hfunding := h.funding
    have hentries := h.entries
    have hcommissions := h.commissions
    rw [hopen] at hfunding hentries hcommissions
    have hne := h.nonzero p hopen
    have hpositive := haccepted.positive
    have hfundingLeft := rest_of_share p after PositionState.fundingPnl hne rfl hpositive hafter
    have hnotionalLeft := rest_of_share p after PositionState.entryNotional hne rfl hpositive hafter
    have htradeFunding := htrade.fundingPnl
    have htradeEntry := htrade.entryNotional
    have htradeExit := htrade.exitNotional
    simp only [Context.exact_div, Context.exact_mul, Context.exact_magnitude]
      at htradeFunding htradeEntry
    simp only [Context.exact_mul] at htradeExit
    refine ⟨?_, ?_, ?_, ?_, ?_, ?_, hrecorded⟩
    · rw [netPnls, List.map_append, List.sum_append, h.realized]
      simp [netPnls]
    · rw [hfunding, List.map_append, List.sum_append]
      simp only [openFunding] at hfundingLeft ⊢
      rw [hfundingLeft]
      simp [htradeFunding]
    · rw [openingNotionals_append, hentries, List.map_append, List.sum_append]
      simp only [openNotional] at hnotionalLeft ⊢
      rw [hnotionalLeft]
      simp [htradeEntry]
    · rw [List.map_append, List.sum_append, hcommissions, List.map_append, List.sum_append]
      simp only [openNotional] at hnotionalLeft ⊢
      rw [hnotionalLeft]
      simp [hfill.commission, tradingFees_eq htrade.taker, htradeEntry, htradeExit, takerRate]
      ring
    · rw [List.map_append, List.sum_append, h.gross, List.map_append, List.sum_append]
      simp [hfill.realizedPnl]
    · intro p' hp
      dsimp only at hp
      rw [hafter] at hp
      split_ifs at hp with hzero
      cases hp
      exact hzero

end

/-! ### Runs -/

/-- What a position is worth at a mark price, besides its funding. -/
def markedPnl (position : Option PositionState) (markPrice : ℚ) : ℚ :=
  (position.map fun p => (markPrice - p.referenceEntryPrice) * p.signedQty).getD 0

/-- The money of a run is where it should be. -/
structure Conserved (config : ReplayExecutionConfig) (r : Run) : Prop where
  /-- at every mark price -/
  equity : ∀ markPrice, currentEquity .exact config r.replay markPrice =
    config.initialCapital + netPnls config r.trades + openFunding r.replay.position +
      markedPnl r.replay.position markPrice
  funding : r.fundings.sum =
    (r.trades.map BacktestTrade.fundingPnl).sum + openFunding r.replay.position
  /-- the history has the fills of the run -/
  entries : r.applied.map Applied.fill = r.fills ∧ openingNotionals r.applied =
    (r.trades.map BacktestTrade.entryNotional).sum + openNotional r.replay.position

theorem Balanced.conserved {r : Run} (h : Balanced config (account r)) : Conserved config r := by
  refine ⟨fun markPrice => ?_, h.funding, h.recorded, h.entries⟩
  have hrealized : r.replay.realizedNetPnl = netPnls config r.trades := h.realized
  unfold currentEquity currentUnrealized DeterministicReplay.openFunding
  simp only [Context.exact_add, hrealized]
  congr 1
  cases hposition : r.replay.position with
  | none => simp [markedPnl]
  | some p => simp [markedPnl]

theorem replayed_balanced {events : List Observed} {r : Run}
    (h : replayed .exact config platform events = .ok r) : Balanced config (account r) := by
  refine replayed_inv (fun _ a => Balanced config a) balanced_start (fun _ _ _ _ => id)
    (fun _ _ _ _ hopen ha => balanced_fund hopen ha) ?_ r h
  intro n a b order price grid o _ ha _ haccepted hfilled
  have hb := balanced_filled ha haccepted hfilled
  exact ⟨hb.realized, hb.funding, hb.entries, hb.commissions, hb.gross, hb.nonzero, hb.recorded⟩

theorem finish_balanced {last : HistoricalMarketEvent} {r r' : Run}
    (hr : Balanced config (account r)) (h : finish .exact config last r = .ok r') :
    Balanced config (account r') := by
  rcases finish_ok h with hsame | ⟨order, price, haccepted, hfilled⟩
  · rw [hsame]
    exact hr
  · exact balanced_filled hr haccepted hfilled

/-- What a run returns is made of the run after the end-of-sample close. -/
theorem run_ok {c : Context} {events : List Observed} {result : ReplayResult}
    (h : run c config platform events = .ok result) : ∃ last r,
      events.getLast? = some last ∧ replayed c config platform events = .ok r ∧
      finish c config last.event r = .ok result.recorded ∧
      economics c config result.recorded.trades = .ok result.economicResult ∧
      result.finalPositionQty = result.recorded.replay.signedQty ∧
      result.finalEquity = currentEquity c config result.recorded.replay last.event.markPrice := by
  unfold run at h
  obtain ⟨-, -, h⟩ := except_bind_ok.mp h
  obtain ⟨-, h⟩ := except_guard_ok.mp h
  cases hfirst : events.head? with
  | none =>
    rw [hfirst] at h
    cases h
  | some first =>
    cases hlast : events.getLast? with
    | none =>
      rw [hfirst, hlast] at h
      cases h
    | some last =>
      rw [hfirst, hlast] at h
      obtain ⟨r, hr, h⟩ := except_bind_ok.mp h
      obtain ⟨r', hr', h⟩ := except_bind_ok.mp h
      obtain ⟨economicResult, heconomic, h⟩ := except_bind_ok.mp h
      cases h
      exact ⟨last, r, rfl, hr, hr', heconomic, rfl, rfl⟩

/-- **A replay conserves money**, after every event, after the end-of-sample close, and in what a
run that ends flat reports. -/
theorem replay_conserves (config : ReplayExecutionConfig) (platform : Platform)
    (events : List Observed) :
    (∀ front r, front <+: events → replayed .exact config platform front = .ok r →
      Conserved config r) ∧
      (∀ last r r', events.getLast? = some last → replayed .exact config platform events = .ok r →
        finish .exact config last.event r = .ok r' → Conserved config r') ∧
      ∀ result, run .exact config platform events = .ok result → result.finalPositionQty = 0 →
        result.finalEquity = config.initialCapital +
            (result.economicResult.map EconomicBacktestResult.netPnl).getD 0 ∧
          (result.economicResult.map EconomicBacktestResult.tradingFees).getD 0 =
            (result.recorded.fills.map ExchangeFill.commission).sum ∧
          (result.economicResult.map EconomicBacktestResult.grossPnl).getD 0 =
            (result.recorded.fills.map ExchangeFill.realizedPnl).sum := by
  refine ⟨fun front r _ h => (replayed_balanced h).conserved, fun last r r' _ h hfinish =>
    (finish_balanced (replayed_balanced h) hfinish).conserved, fun result h hflat => ?_⟩
  obtain ⟨last, r, -, hr, hr', heconomic, hqty, hequity⟩ := run_ok h
  have hbalanced := finish_balanced (replayed_balanced hr) hr'
  have hposition : result.recorded.replay.position = none := by
    cases hopen : result.recorded.replay.position with
    | none => rfl
    | some p =>
      have hp : p.signedQty = 0 := by
        rw [← signedQty_of_open hopen, ← hqty, hflat]
      exact absurd hp (hbalanced.nonzero p hopen)
  have hcommissions := hbalanced.commissions
  have hgross := hbalanced.gross
  have hconserved := hbalanced.conserved.equity last.event.markPrice
  simp only [account] at hcommissions hgross
  rw [hposition] at hcommissions hconserved
  simp only [openNotional, openFunding, markedPnl, Option.map_none, Option.getD_none, zero_mul,
    add_zero] at hcommissions hconserved
  rw [hequity, hconserved, hcommissions, hgross]
  unfold economics at heconomic
  split_ifs at heconomic with htrades
  · have hresult : result.economicResult = none := (Except.ok.inj heconomic).symm
    rw [htrades, hresult]
    exact ⟨rfl, rfl, rfl⟩
  · cases hevaluated : evaluateTrades .exact result.recorded.trades config.initialCapital
        config.costModel with
    | error e =>
      rw [hevaluated] at heconomic
      cases heconomic
    | ok economic =>
      rw [hevaluated] at heconomic
      have hresult : result.economicResult = some economic := (Except.ok.inj heconomic).symm
      obtain ⟨hgrossPnl, htradingFees, hnetPnl⟩ := evaluateTrades_ok hevaluated
      rw [hresult]
      simp only [Option.map_some, Option.getD_some, hgrossPnl, htradingFees, hnetPnl,
        Context.exact_sum]
      exact ⟨rfl, trivial, rfl⟩

end Blessing.Backtest.Conservation
