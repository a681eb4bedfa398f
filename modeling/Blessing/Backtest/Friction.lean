import Blessing.Backtest.Conservation
import Blessing.Backtest.Discipline

/-! # Friction in a replay

A replay books its profits at the midpoints and charges spread and slippage afterwards, in basis
points of the notional of a fill. In exact arithmetic the charge misses the way from the midpoint to
the price of the fill by a term of second order, to one side for a purchase and to the other for a
sale. -/

namespace Blessing.Backtest.Friction

open Blessing.Lib Blessing.Lib.Rounding Blessing.Lib.Effects
open Blessing.Binance.Models (OrderSide)
open Blessing.Engines.Intents Blessing.Engines.Governor
open Blessing.Backtest.Economic Blessing.Backtest.Replay Blessing.Backtest.Steps
    Blessing.Backtest.Conservation
open Blessing.Backtest.Discipline (samplePlatform sampleConfig sampleEvent sampleIntent)

/-! ### Relative distances -/

section Arithmetic

variable {q m h l : ℚ}

/-- A purchase at a half spread `h` and a slippage `l`: the charge is too high by a term of second
order. -/
theorem purchase_bounds (hq : 0 ≤ q) (hm : 0 ≤ m) (hh : 0 ≤ h) (hl : 0 ≤ l) :
    -(q * m * (h + l + h * l) ^ 2) ≤
        q * (m * (h + l + h * l)) - q * (m * (1 + (h + l + h * l))) * (h + l) ∧
      q * (m * (h + l + h * l)) - q * (m * (1 + (h + l + h * l))) * (h + l) ≤ 0 := by
  have hqm : 0 ≤ q * m := mul_nonneg hq hm
  have hlower : 0 ≤ h * l * ((1 + h) * (1 + l)) := by positivity
  have hupper : 0 ≤ h ^ 2 + l ^ 2 + h * l + h ^ 2 * l + h * l ^ 2 := by positivity
  constructor
  · have hgap := mul_nonneg hqm hlower
    linarith [show q * (m * (h + l + h * l)) - q * (m * (1 + (h + l + h * l))) * (h + l) +
      q * m * (h + l + h * l) ^ 2 = q * m * (h * l * ((1 + h) * (1 + l))) by ring]
  · have hgap := mul_nonneg hqm hupper
    linarith [show q * (m * (h + l + h * l)) - q * (m * (1 + (h + l + h * l))) * (h + l) =
      -(q * m * (h ^ 2 + l ^ 2 + h * l + h ^ 2 * l + h * l ^ 2)) by ring]

/-- A sale: the charge is too low by a term of second order. -/
theorem sale_bounds (hq : 0 ≤ q) (hm : 0 ≤ m) (hh : 0 ≤ h) (hl : 0 ≤ l) (hh' : h ≤ 1)
    (hl' : l ≤ 1) :
    0 ≤ q * (m * (h + l - h * l)) - q * (m * (1 - (h + l - h * l))) * (h + l) ∧
      q * (m * (h + l - h * l)) - q * (m * (1 - (h + l - h * l))) * (h + l) ≤
        q * m * (h + l - h * l) ^ 2 := by
  have hqm : 0 ≤ q * m := mul_nonneg hq hm
  have hh₁ : 0 ≤ 1 - h := sub_nonneg.mpr hh'
  have hl₁ : 0 ≤ 1 - l := sub_nonneg.mpr hl'
  have hupper : 0 ≤ h * l * ((1 - h) * (1 - l)) := by positivity
  have hlower : 0 ≤ h ^ 2 * (1 - l) + l ^ 2 * (1 - h) + h * l := by positivity
  constructor
  · have hgap := mul_nonneg hqm hlower
    linarith [show q * (m * (h + l - h * l)) - q * (m * (1 - (h + l - h * l))) * (h + l) =
      q * m * (h ^ 2 * (1 - l) + l ^ 2 * (1 - h) + h * l) by ring]
  · have hgap := mul_nonneg hqm hupper
    linarith [show q * m * (h + l - h * l) ^ 2 - (q * (m * (h + l - h * l)) -
      q * (m * (1 - (h + l - h * l))) * (h + l)) = q * m * (h * l * ((1 - h) * (1 - l))) by ring]

end Arithmetic

/-! ### Fills -/

/-- The midpoint of the quotes of an event. -/
def midpoint (event : HistoricalMarketEvent) : ℚ := (event.bestBid + event.bestAsk) / 2

/-- The quantity of a fill, negative for a sale. -/
def signedFill (fill : ExchangeFill) : ℚ := signedOrderQty .exact fill.side fill.quantity

/-- The cash flow of the fills: what they cost, their commissions, and the funding. -/
def cashFlow (a : Account) : ℚ :=
  -(a.fills.map fun fill => signedFill fill * fill.price).sum -
  (a.fills.map ExchangeFill.commission).sum +
    a.fundings.sum

/-- How far the price of a fill is from the midpoint, relative to it. -/
def distance (f : Applied) : ℚ := |f.fill.price - midpoint f.event| / midpoint f.event

/-- The term of second order of a fill. -/
def secondOrder (f : Applied) : ℚ := f.fill.quantity * midpoint f.event * distance f ^ 2

/-- The terms of the fills of a side. -/
def secondOrders (side : OrderSide) (applied : List Applied) : ℚ :=
  ((applied.filter fun f => f.fill.side = side).map secondOrder).sum

/-- What is charged for spread and slippage of an amount. -/
def charge (notional spread slippage : ℚ) : ℚ :=
  notional * spread / 20000 + notional * slippage / 10000

/-- What is charged for a fill. -/
def friction (config : ReplayExecutionConfig) (f : Applied) : ℚ :=
  charge (f.fill.quantity * f.fill.price) (spreadBps .exact f.event) config.marketSlippageBps

/-- A fill at the price of the market. -/
structure Quoted (config : ReplayExecutionConfig) (f : Applied) : Prop where
  quantity : 0 < f.fill.quantity
  positive : 0 < f.fill.price
  price : f.fill.price = marketFillPrice .exact config f.fill.side f.event

section Fills

variable {config : ReplayExecutionConfig} {f : Applied}

theorem midpoint_pos (event : HistoricalMarketEvent) : 0 < midpoint event := by
  have hbid := event.positive.1
  have hspread := event.uncrossed
  unfold midpoint
  linarith

/-- The half spread of an event, relative to the midpoint. -/
def halfSpread (event : HistoricalMarketEvent) : ℚ :=
  (event.bestAsk - event.bestBid) / 2 / midpoint event

theorem spreadBps_eq (event : HistoricalMarketEvent) :
    spreadBps .exact event = halfSpread event * 20000 := by
  have hmid : 0 < Context.exact.div (Context.exact.add event.bestBid event.bestAsk) 2 :=
    midpoint_pos event
  unfold spreadBps halfSpread midpoint
  dsimp only
  rw [if_pos hmid]
  simp only [Context.exact_add, Context.exact_sub, Context.exact_mul, Context.exact_div]
  ring

theorem halfSpread_bounds (event : HistoricalMarketEvent) :
    0 ≤ halfSpread event ∧ halfSpread event ≤ 1 := by
  have hbid := event.positive.1
  have hspread := event.uncrossed
  have hmid := midpoint_pos event
  refine ⟨div_nonneg (by linarith) hmid.le, ?_⟩
  rw [halfSpread, div_le_one hmid, midpoint]
  linarith

theorem quotes_eq (event : HistoricalMarketEvent) :
    event.bestAsk = midpoint event * (1 + halfSpread event) ∧
      event.bestBid = midpoint event * (1 - halfSpread event) := by
  have hmid := (midpoint_pos event).ne'
  have hhalf : midpoint event * halfSpread event = (event.bestAsk - event.bestBid) / 2 := by
    rw [halfSpread]
    field_simp
  constructor
  · rw [mul_add, hhalf, midpoint]
    ring
  · rw [mul_sub, hhalf, midpoint]
    ring

/-- What the charge of a fill misses. -/
def deviation (config : ReplayExecutionConfig) (f : Applied) : ℚ :=
  signedFill f.fill * (f.fill.price - midpoint f.event) - friction config f

theorem distance_eq {x : ℚ} (h : |f.fill.price - midpoint f.event| = midpoint f.event * x) :
    distance f = x := by
  rw [distance, h, mul_div_cancel_left₀ _ (midpoint_pos f.event).ne']

/-- **A fill**: the charge misses its way from the midpoint by a term of second order. -/
theorem deviation_bounds (hf : Quoted config f) :
    (f.fill.side = .buy → -secondOrder f ≤ deviation config f ∧ deviation config f ≤ 0) ∧
      (f.fill.side = .sell → 0 ≤ deviation config f ∧ deviation config f ≤ secondOrder f) := by
  have hmid := midpoint_pos f.event
  obtain ⟨hhalf, hhalf'⟩ := halfSpread_bounds f.event
  obtain ⟨hask, hbid⟩ := quotes_eq f.event
  have hslip : 0 ≤ config.marketSlippageBps / 10000 := div_nonneg config.positive.2.1 (by norm_num)
  have hprice := hf.price
  have hpositive := hf.positive
  set m := midpoint f.event
  set h := halfSpread f.event
  set l := config.marketSlippageBps / 10000 with hl
  have hcharge : friction config f = f.fill.quantity * f.fill.price * (h + l) := by
    rw [friction, charge, spreadBps_eq, hl]
    ring
  refine ⟨fun hbuy => ?_, fun hsell => ?_⟩
  · have hbounds := purchase_bounds hf.quantity.le hmid.le hhalf hslip
    have hp : f.fill.price = m * (1 + (h + l + h * l)) := by
      rw [hprice, hbuy]
      simp only [marketFillPrice, Context.exact_add, Context.exact_mul, Context.exact_div]
      rw [hask, ← hl]
      ring
    have hway : f.fill.price - m = m * (h + l + h * l) := by
      rw [hp]
      ring
    have hdistance : distance f = h + l + h * l := by
      refine distance_eq ?_
      rw [hway]
      exact abs_of_nonneg (by positivity)
    have hdeviation : deviation config f = f.fill.quantity * (m * (h + l + h * l)) -
        f.fill.quantity * (m * (1 + (h + l + h * l))) * (h + l) := by
      rw [deviation, hcharge, signedFill, hbuy, ← hway, hp]
      rfl
    rw [hdeviation, secondOrder, hdistance]
    exact hbounds
  · have hp : f.fill.price = m * (1 - (h + l - h * l)) := by
      rw [hprice, hsell]
      simp only [marketFillPrice, Context.exact_sub, Context.exact_mul, Context.exact_div]
      rw [hbid, ← hl]
      ring
    -- a price above zero bounds the slippage
    have hslip' : l ≤ 1 := by
      by_contra hlarge
      have hfactor : m * (1 - (h + l - h * l)) = m * ((1 - h) * (1 - l)) := by ring
      have hnonpos : m * ((1 - h) * (1 - l)) ≤ 0 :=
        mul_nonpos_of_nonneg_of_nonpos hmid.le
          (mul_nonpos_of_nonneg_of_nonpos (sub_nonneg.mpr hhalf') (by linarith))
      rw [hp, hfactor] at hpositive
      exact absurd hpositive (not_lt.mpr hnonpos)
    have hbounds := sale_bounds hf.quantity.le hmid.le hhalf hslip hhalf' hslip'
    have hx : 0 ≤ h + l - h * l := by nlinarith
    have hway : f.fill.price - m = -(m * (h + l - h * l)) := by
      rw [hp]
      ring
    have hdistance : distance f = h + l - h * l := by
      refine distance_eq ?_
      rw [hway, abs_neg]
      exact abs_of_nonneg (mul_nonneg hmid.le hx)
    have hdeviation : deviation config f = f.fill.quantity * (m * (h + l - h * l)) -
        f.fill.quantity * (m * (1 - (h + l - h * l))) * (h + l) := by
      have hsigned : signedFill f.fill = -f.fill.quantity := by
        rw [signedFill, hsell]
        rfl
      rw [deviation, hcharge, hsigned, hway, hp]
      ring
    rw [hdeviation, secondOrder, hdistance]
    exact hbounds

/-- A purchase is filled above the midpoint and a sale below it. -/
theorem way_eq (hf : Quoted config f) : signedFill f.fill * (f.fill.price - midpoint f.event) =
    f.fill.quantity * |f.fill.price - midpoint f.event| := by
  have hbid := f.event.positive.1
  have hspread := f.event.uncrossed
  have hslip : 0 ≤ config.marketSlippageBps / 10000 := div_nonneg config.positive.2.1 (by norm_num)
  have hprice := hf.price
  cases hside : f.fill.side with
  | buy =>
    rw [hside] at hprice
    simp only [marketFillPrice, Context.exact_add, Context.exact_mul, Context.exact_div] at hprice
    have hextra := mul_nonneg (hbid.le.trans hspread) hslip
    have habove : 0 ≤ f.fill.price - midpoint f.event := by
      rw [hprice, midpoint]
      linarith
    rw [abs_of_nonneg habove, signedFill, hside]
    rfl
  | sell =>
    rw [hside] at hprice
    simp only [marketFillPrice, Context.exact_sub, Context.exact_mul, Context.exact_div] at hprice
    have hextra := mul_nonneg hbid.le hslip
    have hbelow : f.fill.price - midpoint f.event ≤ 0 := by
      rw [hprice, midpoint]
      linarith
    have hsigned : signedFill f.fill = -f.fill.quantity := by
      rw [signedFill, hside]
      rfl
    rw [abs_of_nonpos hbelow, hsigned]
    ring

/-- Without spread and slippage nothing is charged, and nothing is missed. -/
theorem deviation_zero (hf : Quoted config f) (hspread : f.event.bestBid = f.event.bestAsk)
    (hslip : config.marketSlippageBps = 0) : deviation config f = 0 := by
  have hmid : midpoint f.event = f.event.bestAsk := by
    rw [midpoint, hspread]
    ring
  have hhalf : spreadBps .exact f.event = 0 := by
    rw [spreadBps_eq, halfSpread, hspread]
    simp
  have hprice : f.fill.price = f.event.bestAsk := by
    rw [hf.price]
    cases f.fill.side with
    | buy => simp [marketFillPrice, hslip]
    | sell => simp [marketFillPrice, hslip, hspread]
  rw [deviation, friction, charge, hmid, hprice, hhalf, hslip]
  ring

end Fills

/-! ### The account -/

/-- What the open position has cost at the midpoint of its entry. -/
def openValue (position : Option PositionState) : ℚ :=
  (position.map fun p => p.signedQty * p.referenceEntryPrice).getD 0

/-- What is left to charge for the entry of the open position. -/
def openFriction (position : Option PositionState) : ℚ :=
  (position.map fun p => charge p.entryNotional p.entrySpreadBps p.entrySlippageBps).getD 0

/-- What a trade is charged for spread and slippage. -/
def tradeFriction (config : ReplayExecutionConfig) (t : BacktestTrade) : ℚ :=
  (costTrade .exact config.costModel t).spreadCost +
  (costTrade .exact config.costModel t).slippageCost

/-- The trades and the fills agree: on the money at the midpoints, and on the charges. -/
structure Charged (config : ReplayExecutionConfig) (a : Account) : Prop where
  balanced : Balanced config a
  gross : (a.trades.map BacktestTrade.grossPnl).sum - openValue a.position =
    -(a.applied.map fun f => signedFill f.fill * midpoint f.event).sum
  frictions : (a.trades.map (tradeFriction config)).sum + openFriction a.position =
    (a.applied.map (friction config)).sum
  quoted : ∀ f ∈ a.applied, Quoted config f

section Account

variable {config : ReplayExecutionConfig} {platform : Platform} {a b : Account}

theorem charged_start : Charged config (account (start config)) where
  balanced := balanced_start
  gross := by simp [account, start, openValue]
  frictions := by simp [account, start, openFriction]
  quoted := fun f hf => absurd hf List.not_mem_nil

theorem charged_fund {p : PositionState} {f : ℚ} (hopen : a.position = some p)
    (h : Charged config a) : Charged config (a.fund .exact f) := by
  have hgross := h.gross
  have hfrictions := h.frictions
  rw [hopen] at hgross hfrictions
  refine ⟨balanced_fund hopen h.balanced, ?_, ?_, h.quoted⟩
  · simp only [Account.fund, hopen]
    exact hgross
  · simp only [Account.fund, hopen]
    exact hfrictions

variable {event : HistoricalMarketEvent} {order : OrderIntent} {price : ℚ} {grid : Bool}

theorem tradeFriction_eq (t : BacktestTrade) : tradeFriction config t =
    charge t.entryNotional t.entrySpreadBps t.entrySlippageBps +
      charge t.exitNotional t.exitSpreadBps t.exitSlippageBps := by
  simp only [tradeFriction, costTrade, charge, Context.exact_add, Context.exact_mul,
    Context.exact_div]
  ring

theorem quoted_of_accepted {position before after : Option PositionState} {realizedPnl : ℚ}
    {fill : ExchangeFill} (haccepted : Accepted .exact config position event order price)
    (hfill : FillOf .exact config order price realizedPnl fill) :
    Quoted config ⟨before, after, fill, event, grid⟩ := by
  obtain ⟨hquantity, hprice, hside⟩ := hfill.amount
  obtain ⟨rules, -, -, -, hnotional, -⟩ := haccepted.rules
  have hpositive : 0 < order.quantity * price := rules.positive.2.2.trans_le hnotional
  refine ⟨?_, ?_, ?_⟩
  · rw [hquantity]
    exact haccepted.positive
  · rw [hprice]
    exact (mul_pos_iff_of_pos_left haccepted.positive).mp hpositive
  · rw [hprice, hside]
    exact haccepted.quoted

theorem towards_zero {p : PositionState} (hpositive : 0 < order.quantity)
    (hopposite : opposite p.signedQty (signedOrderQty .exact order.side order.quantity)) :
    (if 0 < p.signedQty then order.quantity else -order.quantity) =
      -signedOrderQty .exact order.side order.quantity := by
  unfold opposite at hopposite
  cases hside : order.side with
  | buy =>
    rw [hside] at hopposite
    have hshort : ¬ 0 < p.signedQty := fun hlong => hopposite ⟨fun _ => hpositive, fun _ => hlong⟩
    rw [if_neg hshort]
    rfl
  | sell =>
    rw [hside] at hopposite
    have hsold : ¬ 0 < signedOrderQty .exact .sell order.quantity := by
      simp only [signedOrderQty, Context.exact_minus]
      linarith
    have hlong : 0 < p.signedQty := by
      by_contra hshort
      exact hopposite ⟨fun hlong => absurd hlong hshort, fun hbought => absurd hbought hsold⟩
    rw [if_pos hlong]
    simp [signedOrderQty]

/-- **A fill is charged once**: its part of the trades, and the rest with the open position. -/
theorem charged_filled (h : Charged config a)
    (haccepted : Accepted .exact config a.position event order price)
    (hfilled : Filled .exact config event order price grid a b) : Charged config b := by
  have hbalanced := balanced_filled h.balanced haccepted hfilled
  have hgross := h.gross
  have hfrictions := h.frictions
  cases hfilled with
  | opening strategyId regime fill hflat hfill =>
    rw [hflat] at hgross hfrictions
    obtain ⟨hquantity, hprice, hside⟩ := hfill.amount
    refine ⟨hbalanced, ?_, ?_, ?_⟩
    · rw [List.map_append, List.sum_append, neg_add, ← hgross]
      simp [openValue, openedPosition, signedFill, hquantity, hside, midpoint]
      ring
    · rw [List.map_append, List.sum_append, ← hfrictions]
      simp [openFriction, openedPosition, friction, charge, hquantity, hprice]
    · intro f hf
      rcases List.mem_append.mp hf with hf | hf
      · exact h.quoted f hf
      · rw [List.mem_singleton.mp hf]
        exact quoted_of_accepted haccepted hfill
  | reducing p trade fill hopen hopposite htrade hfill after hafter =>
    rw [hopen] at hgross hfrictions
    obtain ⟨hquantity, hprice, hside⟩ := hfill.amount
    have hpositive := haccepted.positive
    have htowards := towards_zero hpositive hopposite
    refine ⟨hbalanced, ?_, ?_, ?_⟩
    · have hleft : openValue after =
          (p.signedQty + signedOrderQty .exact order.side order.quantity) *
          p.referenceEntryPrice := by
        rw [hafter]
        split_ifs with hzero
        · have hnone : p.signedQty + signedOrderQty .exact order.side order.quantity = 0 := hzero
          rw [hnone, zero_mul]
          rfl
        · rfl
      have hbooked : trade.grossPnl = (midpoint event - p.referenceEntryPrice) *
          -signedOrderQty .exact order.side order.quantity := by
        rw [htrade.grossPnl, ← htowards]
        rfl
      have hsigned : signedFill fill = signedOrderQty .exact order.side order.quantity := by
        rw [signedFill, hquantity, hside]
      simp only [openValue, Option.map_some, Option.getD_some] at hgross
      simp only [List.map_append, List.sum_append, List.map_singleton, List.sum_singleton]
      rw [hleft, hbooked, hsigned]
      linarith
    · have hleft :=
        rest_of_share p after (fun p => charge p.entryNotional p.entrySpreadBps p.entrySlippageBps)
        (h.balanced.nonzero p hopen)
        (show _ = _ by
          simp only [reducedPosition, charge, Context.exact_sub, Context.exact_div,
            Context.exact_mul,
          Context.exact_magnitude]; ring) hpositive hafter
      have hentry := htrade.entryNotional
      have hexit := htrade.exitNotional
      simp only [Context.exact_div, Context.exact_mul, Context.exact_magnitude] at hentry hexit
      simp only [openFriction, Option.map_some, Option.getD_some] at hfrictions hleft ⊢
      simp only [List.map_append, List.sum_append, List.map_singleton, List.sum_singleton]
      rw [hleft, tradeFriction_eq, htrade.entryFriction.1, htrade.entryFriction.2,
        htrade.exitFriction.1, htrade.exitFriction.2, hentry, hexit, ← hfrictions]
      simp only [friction, charge, hquantity, hprice]
      ring
    · intro f hf
      rcases List.mem_append.mp hf with hf | hf
      · exact h.quoted f hf
      · rw [List.mem_singleton.mp hf]
        exact quoted_of_accepted haccepted hfill

theorem netPnls_eq (trades : List BacktestTrade) : netPnls config trades =
    (trades.map BacktestTrade.grossPnl).sum -
      (trades.map fun t => (costTrade .exact config.costModel t).tradingFees).sum -
      (trades.map (tradeFriction config)).sum + (trades.map BacktestTrade.fundingPnl).sum := by
  unfold netPnls
  induction trades with
  | nil => simp
  | cons t trades ih =>
    have hnet : (costTrade .exact config.costModel t).netPnl = t.grossPnl -
        (costTrade .exact config.costModel t).tradingFees - tradeFriction config t +
        t.fundingPnl := by
      simp only [tradeFriction, costTrade, Context.exact_add, Context.exact_sub]
      ring
    simp only [List.map_cons, List.sum_cons, ih, hnet]
    ring

theorem sum_deviations (applied : List Applied) : (applied.map (deviation config)).sum =
    (applied.map fun f => signedFill f.fill * f.fill.price).sum -
      (applied.map fun f => signedFill f.fill * midpoint f.event).sum -
      (applied.map (friction config)).sum := by
  induction applied with
  | nil => simp
  | cons f applied ih =>
    simp only [List.map_cons, List.sum_cons, ih, deviation]
    ring

/-- A flat account has earned its cash flow but for the deviations of its fills. -/
theorem Charged.drift (h : Charged config a) (hflat : a.position = none) :
    a.realizedNetPnl - cashFlow a = (a.applied.map (deviation config)).sum := by
  have hgross := h.gross
  have hfrictions := h.frictions
  have hfunding := h.balanced.funding
  have hcommissions := h.balanced.commissions
  rw [hflat] at hgross hfrictions hfunding hcommissions
  simp only [openValue, openFriction, openFunding, openNotional, Option.map_none,
    Option.getD_none, sub_zero, add_zero, zero_mul] at hgross hfrictions hfunding hcommissions
  have hprices : (a.fills.map fun fill => signedFill fill * fill.price).sum =
      (a.applied.map fun f => signedFill f.fill * f.fill.price).sum := by
    rw [← h.balanced.recorded, List.map_map]
    rfl
  rw [h.balanced.realized, netPnls_eq, cashFlow, hprices, hcommissions, hfunding, sum_deviations,
    hgross, hfrictions]
  ring

theorem secondOrders_cons (side : OrderSide) (f : Applied) (applied : List Applied) :
    secondOrders side (f :: applied) = (if f.fill.side = side then secondOrder f else 0) +
      secondOrders side applied := by
  unfold secondOrders
  by_cases hside : f.fill.side = side
  · rw [if_pos hside, List.filter_cons_of_pos (by simpa using hside), List.map_cons, List.sum_cons]
  · rw [if_neg hside, List.filter_cons_of_neg (by simpa using hside), zero_add]

/-- The deviations add up to what the purchases and the sales allow. -/
theorem sum_deviations_bounds {applied : List Applied} (h : ∀ f ∈ applied, Quoted config f) :
    -secondOrders .buy applied ≤ (applied.map (deviation config)).sum ∧
      (applied.map (deviation config)).sum ≤ secondOrders .sell applied := by
  induction applied with
  | nil => simp [secondOrders]
  | cons f applied ih =>
    obtain ⟨hf, hrest⟩ := List.forall_mem_cons.mp h
    obtain ⟨hlower, hupper⟩ := ih hrest
    obtain ⟨hbuy, hsell⟩ := deviation_bounds hf
    rw [List.map_cons, List.sum_cons, secondOrders_cons, secondOrders_cons]
    cases hside : f.fill.side with
    | buy =>
      obtain ⟨hlow, hhigh⟩ := hbuy hside
      rw [if_pos rfl, if_neg (by decide)]
      constructor <;> linarith
    | sell =>
      obtain ⟨hlow, hhigh⟩ := hsell hside
      rw [if_neg (by decide), if_pos rfl]
      constructor <;> linarith

/-! ### Runs -/

theorem replayed_charged {events : List Observed} {r : Run}
    (h : replayed .exact config platform events = .ok r) : Charged config (account r) := by
  refine replayed_inv (fun _ a => Charged config a) charged_start (fun _ _ _ _ => id)
    (fun _ _ _ _ hopen ha => charged_fund hopen ha) ?_ r h
  intro n a b order price grid o _ ha _ haccepted hfilled
  have hb := charged_filled ha haccepted hfilled
  have hbalanced := hb.balanced
  exact ⟨⟨hbalanced.realized, hbalanced.funding, hbalanced.entries, hbalanced.commissions,
    hbalanced.gross, hbalanced.nonzero, hbalanced.recorded⟩, hb.gross, hb.frictions, hb.quoted⟩

theorem finish_charged {last : HistoricalMarketEvent} {r r' : Run} (hr : Charged config (account r))
    (h : finish .exact config last r = .ok r') : Charged config (account r') := by
  rcases finish_ok h with hsame | ⟨order, price, haccepted, hfilled⟩
  · rw [hsame]
    exact hr
  · exact charged_filled hr haccepted hfilled

theorem run_flat {events : List Observed} {result : ReplayResult}
    (h : run .exact config platform events = .ok result) (hflat : result.finalPositionQty = 0) :
    Charged config (account result.recorded) ∧ result.recorded.replay.position = none ∧
      result.finalEquity = config.initialCapital + result.recorded.replay.realizedNetPnl := by
  obtain ⟨last, r, -, hr, hr', -, hqty, hequity⟩ := run_ok h
  have hcharged := finish_charged (replayed_charged hr) hr'
  have hposition : result.recorded.replay.position = none := by
    cases hopen : result.recorded.replay.position with
    | none => rfl
    | some p =>
      have hp : p.signedQty = 0 := by
        rw [← signedQty_of_open hopen, ← hqty, hflat]
      exact absurd hp (hcharged.balanced.nonzero p hopen)
  refine ⟨hcharged, hposition, ?_⟩
  rw [hequity, currentEquity, DeterministicReplay.openFunding, currentUnrealized, hposition]
  simp

end Account

/-- **Replay economics are those of the fills up to second order**: a run that ends flat misses the
cash flow of its fills by no more than the terms of second order, which the purchases cost and the
sales spare; without spread and slippage it misses nothing. -/
theorem replay_second_order (config : ReplayExecutionConfig) (platform : Platform)
    (events : List Observed) (result : ReplayResult)
    (hrun : run .exact config platform events = .ok result) (hflat : result.finalPositionQty = 0) :
    result.recorded.applied.map Applied.fill = result.recorded.fills ∧
      -secondOrders .buy result.recorded.applied ≤
        result.finalEquity - config.initialCapital - cashFlow (account result.recorded) ∧
      result.finalEquity - config.initialCapital - cashFlow (account result.recorded) ≤
        secondOrders .sell result.recorded.applied ∧
      ((∀ f ∈ result.recorded.applied, f.event.bestBid = f.event.bestAsk) →
        config.marketSlippageBps = 0 →
        result.finalEquity - config.initialCapital = cashFlow (account result.recorded)) ∧
      (result.recorded.trades.map (tradeFriction config)).sum =
        (result.recorded.applied.map (friction config)).sum ∧
      ∀ f ∈ result.recorded.applied,
        (f.fill.side = .buy → f.fill.quantity * |f.fill.price - midpoint f.event| ≤
          friction config f) ∧
        (f.fill.side = .sell → friction config f ≤ f.fill.quantity * |f.fill.price -
          midpoint f.event|) := by
  obtain ⟨hcharged, hposition, hequity⟩ := run_flat hrun hflat
  have hdrift : result.recorded.replay.realizedNetPnl - cashFlow (account result.recorded) =
      (result.recorded.applied.map (deviation config)).sum := hcharged.drift hposition
  have hquoted : ∀ f ∈ result.recorded.applied, Quoted config f := hcharged.quoted
  have hmissed : result.finalEquity - config.initialCapital - cashFlow (account result.recorded) =
      (result.recorded.applied.map (deviation config)).sum := by
    rw [← hdrift, hequity]
    ring
  obtain ⟨hlower, hupper⟩ := sum_deviations_bounds hquoted
  refine ⟨hcharged.balanced.recorded, ?_, ?_, ?_, ?_, ?_⟩
  · rw [hmissed]
    exact hlower
  · rw [hmissed]
    exact hupper
  · intro hspread hslip
    have hzero : (result.recorded.applied.map (deviation config)).sum = 0 := by
      refine List.sum_eq_zero fun d hd => ?_
      obtain ⟨f, hf, rfl⟩ := List.mem_map.mp hd
      exact deviation_zero (hquoted f hf) (hspread f hf) hslip
    rw [hzero] at hmissed
    linarith
  · have hfrictions := hcharged.frictions
    simp only [account, hposition, openFriction, Option.map_none, Option.getD_none,
      add_zero] at hfrictions
    exact hfrictions
  · intro f hf
    obtain ⟨hbuy, hsell⟩ := deviation_bounds (hquoted f hf)
    have hway := way_eq (hquoted f hf)
    rw [deviation, hway] at hbuy hsell
    exact ⟨fun hside => by linarith [(hbuy hside).2], fun hside => by linarith [(hsell hside).1]⟩

/-! ### A purchase that is closed at the end -/

/-- Ten basis points of slippage and four of fees. -/
def frictionConfig : ReplayExecutionConfig :=
  { sampleConfig (1 / 1000) (by norm_num) with
    costModel := ⟨⟨2 / 10000, by norm_num⟩, ⟨4 / 10000, by norm_num⟩⟩
    marketSlippageBps := 10
    positive := by norm_num [sampleConfig] }

/-- An event with a spread behind one at which the price action has no state yet. -/
def spreadObserved : List Observed :=
  [⟨sampleEvent, none⟩, ⟨{ sampleEvent with
    eventId := "event-2"
    eventTime := 120000000
    bestAsk := 1001 / 100
    positive := by norm_num [sampleEvent]
    uncrossed := by norm_num [sampleEvent] }, some ⟨"R0", fun _ => [sampleIntent]⟩⟩]

theorem replay_second_order_sample : ∃ result,
    run .exact frictionConfig samplePlatform spreadObserved = .ok result ∧
      result.recorded.fills.length = 2 ∧
      -secondOrders .buy result.recorded.applied ≤
        result.finalEquity - frictionConfig.initialCapital - cashFlow (account result.recorded) ∧
      result.finalEquity - frictionConfig.initialCapital - cashFlow (account result.recorded) ≤
        secondOrders .sell result.recorded.applied := by
  have hsummary : (run .exact frictionConfig samplePlatform spreadObserved).toOption.map
      (fun result => (result.finalPositionQty, result.recorded.fills.length)) = some (0, 2) := by
    decide +kernel
  cases hrun : run .exact frictionConfig samplePlatform spreadObserved with
  | error e =>
    rw [hrun] at hsummary
    cases hsummary
  | ok result =>
    rw [hrun] at hsummary
    obtain ⟨hflat, hfills⟩ := Prod.mk.inj (Option.some.inj hsummary)
    obtain ⟨-, hlower, hupper, -⟩ :=
      replay_second_order frictionConfig samplePlatform spreadObserved result hrun hflat
    exact ⟨result, rfl, hfills, hlower, hupper⟩

end Blessing.Backtest.Friction
