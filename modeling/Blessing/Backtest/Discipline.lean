import Blessing.Backtest.Steps

/-! # The discipline of the positions

A replay opens a position from flat and then only reduces it. That the position stays a multiple of
the step size, and shrinks with every fill, needs an arithmetic in which the multiples of the step
size are numbers: exact arithmetic, or 28 digits as long as the recorded depth has no more of them
at the last place of the step size. -/

namespace Blessing.Backtest.Discipline

open Blessing.Lib Blessing.Lib.Rounding Blessing.Lib.Effects
open Blessing.Binance.Models (OrderSide EconomicRiskClass)
open Blessing.Engines.Intents Blessing.Engines.Governor
open Blessing.Backtest.Economic Blessing.Backtest.Replay Blessing.Backtest.Steps

/-! ### Multiples of the step size -/

/-- No multiple of the step size within the depth is rounded. -/
def Exactly (c : Context) (step depth : ℚ) : Prop :=
  ∀ n : ℤ, |c.round (n * step)| ≤ depth → c.Fixed (n * step)

/-- With digits for the depth at the last place of the step size. -/
theorem exactly_of_short {c : Context} {m e : ℤ} {depth : ℚ} (h : depth < 10 ^ (28 : ℕ) * 10 ^ e) :
    Exactly c (m * 10 ^ e) depth := by
  intro n hn
  have hassoc : (n : ℚ) * (m * 10 ^ e) = ((n * m : ℤ) : ℚ) * 10 ^ e := by
    push_cast
    ring
  rw [hassoc] at hn ⊢
  refine Context.fixed_short _ _ ?_
  by_contra hlong
  have hpow : (10 : ℚ) ^ (28 : ℕ) * 10 ^ e ≤ |((n * m : ℤ) : ℚ) * 10 ^ e| := by
    rw [abs_mul, abs_of_pos (tenPow_pos e)]
    refine mul_le_mul_of_nonneg_right ?_ (tenPow_pos e).le
    exact_mod_cast (not_le.mp hlong).le
  have hfixed : c.Fixed (10 ^ (28 : ℕ) * 10 ^ e) := by
    have hshort := Context.fixed_short (c := c) (10 ^ 28) e (le_of_eq (abs_of_pos (by norm_num)))
    exact_mod_cast hshort
  rw [Context.abs_round] at hn
  exact absurd ((Context.le_round hfixed hpow).trans hn) h.not_ge

/-- The multiples up to one of them are numbers of the arithmetic. -/
def FixedUpTo (c : Context) (step : ℚ) (n : ℤ) : Prop := ∀ m : ℤ, |m| ≤ |n| → c.Fixed (m * step)

theorem fixedUpTo_of_exactly {c : Context} {step depth : ℚ} (hstep : 0 < step)
    (hexact : Exactly c step depth) {n : ℤ} (h : |c.round (n * step)| ≤ depth) :
    FixedUpTo c step n := by
  intro m hm
  refine hexact m (le_trans ?_ h)
  rw [Context.abs_round, Context.abs_round]
  refine c.mono ?_
  rw [abs_mul, abs_mul, abs_of_pos hstep]
  exact mul_le_mul_of_nonneg_right (by exact_mod_cast hm) hstep.le

/-! ### The invariant -/

/-- The quantity of the position there may be. -/
def positionQty (position : Option PositionState) : ℚ :=
  (position.map PositionState.signedQty).getD 0

/-- A fill as it should be. -/
structure Allowed (c : Context) (config : ReplayExecutionConfig) (f : Applied) : Prop where
  depth : f.fill.quantity ≤ availableDepth f.fill.side f.event
  rules : ∃ rules, config.rulesFor f.event.symbol = .ok rules ∧
    (rules.minQuantity ≤ f.fill.quantity ∧ ∀ q ∈ rules.maxQuantity, f.fill.quantity ≤ q) ∧
    rules.minNotional ≤ c.mul f.fill.quantity f.fill.price ∧
    ∀ n ∈ rules.maxNotional, c.mul f.fill.quantity f.fill.price ≤ n
  /-- from flat, within the limit on an order -/
  opening : f.before = none →
    f.after ≠ none ∧ c.mul f.fill.quantity f.fill.price ≤ config.maxSingleOrderNotional
  /-- or strictly smaller, on the same side -/
  reducing : ∀ p, f.before = some p → |positionQty f.after| < |p.signedQty| ∧
    (0 < p.signedQty → 0 ≤ positionQty f.after) ∧ (p.signedQty < 0 → positionQty f.after ≤ 0)

/-- The position and the count of the exposure chains: none and zero, or one and a multiple of the
step size that is not zero. -/
def Chained (c : Context) (step : ℚ) : Option PositionState → ℕ → Prop
  | none, chains => chains = 0
  | some p, chains =>
    chains = 1 ∧ p.signedQty ≠ 0 ∧ ∃ n : ℤ, p.signedQty = n * step ∧ FixedUpTo c step n

/-- The invariant of a replay. -/
structure Disciplined (c : Context) (config : ReplayExecutionConfig) (step : ℚ) (a : Account) :
    Prop where
  chained : Chained c step a.position a.activeExposureChains
  recorded : a.applied.map Applied.fill = a.fills
  allowed : ∀ f ∈ a.applied, Allowed c config f

variable {c : Context} {config : ReplayExecutionConfig} {platform : Platform} {step : ℚ}
    {a b : Account}

theorem disciplined_start : Disciplined c config step (account (start config)) :=
  ⟨rfl, rfl, fun _ hf => absurd hf List.not_mem_nil⟩

theorem disciplined_fund {f : ℚ} (h : Disciplined c config step a) :
    Disciplined c config step (a.fund c f) := by
  refine ⟨?_, h.recorded, h.allowed⟩
  have hchained := h.chained
  unfold Account.fund
  cases hposition : a.position with
  | none =>
    rw [hposition] at hchained
    exact hchained
  | some p =>
    rw [hposition] at hchained
    exact hchained

/-! ### Fills -/

section

variable {event : HistoricalMarketEvent} {order : OrderIntent} {price : ℚ} {grid : Bool}
  {rules : ReplaySymbolRules}

/-- The quantity of an accepted order is a multiple of the step size. -/
theorem quantity_units {position : Option PositionState}
    (h : Accepted c config position event order price)
    (hrules : config.rulesFor event.symbol = .ok rules)
    (hexact : Exactly c rules.stepSize (availableDepth order.side event)) :
    ∃ units : ℤ, 0 < units ∧ order.quantity = units * rules.stepSize ∧
      FixedUpTo c rules.stepSize units := by
  obtain ⟨rules', hrules', ⟨units, hunits⟩, -⟩ := h.rules
  cases hrules.symm.trans hrules'
  have hstep := rules.positive.1
  have hround : c.round (units * rules.stepSize) = order.quantity := hunits.symm
  have hdepth : |c.round (units * rules.stepSize)| ≤ availableDepth order.side event := by
    rw [hround, abs_of_pos h.positive]
    exact h.depth
  have hquantity : order.quantity = units * rules.stepSize :=
    hround.symm.trans (hexact units hdepth)
  refine ⟨units, ?_, hquantity, fixedUpTo_of_exactly hstep hexact hdepth⟩
  have hpos := h.positive
  rw [hquantity] at hpos
  exact_mod_cast (pos_iff_pos_of_mul_pos hpos).mpr hstep

/-- The signed quantity of an order, given the units of its quantity. -/
theorem signedOrderQty_units (side : OrderSide) {units : ℤ} (h : FixedUpTo c step units) :
    ∃ n : ℤ, |n| = |units| ∧ signedOrderQty c side (units * step) = n * step ∧
      (side = .buy ∧ n = units ∨ side = .sell ∧ n = -units) := by
  cases side with
  | buy => exact ⟨units, rfl, rfl, .inl ⟨rfl, rfl⟩⟩
  | sell =>
    refine ⟨-units, abs_neg units, ?_, .inr ⟨rfl, rfl⟩⟩
    simp only [signedOrderQty]
    rw [Context.minus_eq (h units le_rfl)]
    push_cast
    ring

/-- The fill of an accepted order is as it should be if the positions around it are. -/
theorem allowed_of_accepted {before after : Option PositionState} {realizedPnl : ℚ}
    {fill : ExchangeFill} (h : Accepted c config before event order price)
    (hfill : FillOf c config order price realizedPnl fill) (hopening : before = none → after ≠ none)
    (hreducing : ∀ p, before = some p → |positionQty after| < |p.signedQty| ∧
      (0 < p.signedQty → 0 ≤ positionQty after) ∧ (p.signedQty < 0 → positionQty after ≤ 0)) :
    Allowed c config ⟨before, after, fill, event, grid⟩ := by
  obtain ⟨hquantity, hprice, hside⟩ := hfill.amount
  obtain ⟨rules, hrules, -, hwithin⟩ := h.rules
  refine ⟨?_, ⟨rules, hrules, ?_⟩, fun hflat => ⟨hopening hflat, ?_⟩, hreducing⟩
  · simp only [hquantity, hside]
    exact h.depth
  · simp only [hquantity, hprice]
    exact hwithin
  · simp only [hquantity, hprice]
    exact h.opening hflat

theorem chained_opened {strategyId regime : String} (h : Accepted c config none event order price)
    (hrules : config.rulesFor event.symbol = .ok rules)
    (hexact : Exactly c rules.stepSize (availableDepth order.side event)) :
    Chained c rules.stepSize
      (some (openedPosition c config order price event strategyId regime)) 1 := by
  obtain ⟨units, hpos, hquantity, hfixed⟩ := quantity_units h hrules hexact
  obtain ⟨n, habs, hsigned, hside⟩ := signedOrderQty_units order.side hfixed
  have hqty : (openedPosition c config order price event strategyId regime).signedQty =
      n * rules.stepSize := by
    rw [← hsigned, ← hquantity]
    rfl
  refine ⟨rfl, ?_, n, hqty, fun m hm => hfixed m (hm.trans habs.le)⟩
  rw [hqty]
  have hn : n ≠ 0 := by
    rcases hside with ⟨-, rfl⟩ | ⟨-, rfl⟩ <;> omega
  exact mul_ne_zero (by exact_mod_cast hn) rules.positive.1.ne'

/-- Two whole numbers of different signs, the second no larger than the first. -/
theorem abs_add_lt {k n : ℤ} (hk : k ≠ 0) (hn : n ≠ 0) (hopposite : ¬ (0 < k ↔ 0 < n))
    (hle : |n| ≤ |k|) : |k + n| < |k| ∧ (0 < k → 0 ≤ k + n) ∧ (k < 0 → k + n ≤ 0) := by
  rcases hk.lt_or_gt with hneg | hpos
  · have hn' : 0 < n := by
      by_contra hnot
      exact hopposite ⟨fun h => absurd h hneg.not_gt, fun h => absurd h hnot⟩
    rw [abs_of_pos hn', abs_of_neg hneg] at hle
    rw [abs_of_nonpos (by omega : k + n ≤ 0), abs_of_neg hneg]
    omega
  · have hn' : n < 0 := by
      refine lt_of_le_of_ne (not_lt.mp fun h => hopposite ⟨fun _ => h, fun _ => hpos⟩) hn
    rw [abs_of_neg hn', abs_of_pos hpos] at hle
    rw [abs_of_nonneg (by omega : 0 ≤ k + n), abs_of_pos hpos]
    omega

/-- Reducing a position leaves a multiple of the step size on its side, strictly smaller. -/
theorem reduced_units {p : PositionState} (h : Accepted c config (some p) event order price)
    (hrules : config.rulesFor event.symbol = .ok rules)
    (hexact : Exactly c rules.stepSize (availableDepth order.side event)) {k : ℤ}
    (hne : p.signedQty ≠ 0) (hk : p.signedQty = k * rules.stepSize)
    (hfixed : FixedUpTo c rules.stepSize k) :
    ∃ l : ℤ, (reducedPosition c p order).signedQty = l * rules.stepSize ∧ |l| < |k| ∧
      (0 < k → 0 ≤ l) ∧ (k < 0 → l ≤ 0) := by
  have hstep := rules.positive.1
  obtain ⟨units, hpos, hquantity, hunits⟩ := quantity_units h hrules hexact
  obtain ⟨n, habs, hsigned, hside⟩ := signedOrderQty_units order.side hunits
  have hreducing := h.reducing p rfl
  unfold isReducing at hreducing
  obtain ⟨-, -, hopposite, hle⟩ := of_decide_eq_true hreducing
  rw [hquantity, hsigned, hk] at hopposite
  have hk0 : k ≠ 0 := by
    rintro rfl
    rw [Int.cast_zero, zero_mul] at hk
    exact hne hk
  have hn0 : n ≠ 0 := by
    rcases hside with ⟨-, rfl⟩ | ⟨-, rfl⟩ <;> omega
  have hsign (m : ℤ) : 0 < (m : ℚ) * rules.stepSize ↔ 0 < m := by
    rw [mul_pos_iff_of_pos_right hstep]
    exact Int.cast_pos
  unfold opposite at hopposite
  rw [hsign, hsign] at hopposite
  have hle' : |n| ≤ |k| := by
    rw [hquantity, hk, Context.magnitude_eq (hfixed k le_rfl), abs_mul, abs_of_pos hstep] at hle
    have hcast := le_of_mul_le_mul_right hle hstep
    rw [habs, abs_of_pos hpos]
    exact_mod_cast hcast
  obtain ⟨hlt, hlong, hshort⟩ := abs_add_lt hk0 hn0 hopposite hle'
  refine ⟨k + n, ?_, hlt, hlong, hshort⟩
  have hsum : (k : ℚ) * rules.stepSize + n * rules.stepSize =
      ((k + n : ℤ) : ℚ) * rules.stepSize := by
    push_cast
    ring
  simp only [reducedPosition]
  rw [hquantity, hsigned, hk, Context.add, hsum]
  exact hfixed _ hlt.le

/-- **A fill keeps the discipline.** -/
theorem disciplined_filled (h : Disciplined c config rules.stepSize a)
    (haccepted : Accepted c config a.position event order price)
    (hfilled : Filled c config event order price grid a b)
    (hrules : config.rulesFor event.symbol = .ok rules)
    (hexact : Exactly c rules.stepSize (availableDepth order.side event)) :
    Disciplined c config rules.stepSize b := by
  have hstep := rules.positive.1
  have hrecorded := hfilled.recorded h.recorded
  cases hfilled with
  | opening strategyId regime fill hflat hfill =>
    have hchained := h.chained
    rw [hflat] at haccepted hchained
    have hzero : a.activeExposureChains = 0 := hchained
    refine ⟨?_, hrecorded, fun f hf => ?_⟩
    · simp only [hzero]
      exact chained_opened haccepted hrules hexact
    · rcases List.mem_append.mp hf with hold | hnew
      · exact h.allowed f hold
      · rw [List.mem_singleton.mp hnew]
        refine allowed_of_accepted haccepted hfill (fun _ => Option.some_ne_none _) fun p hp => ?_
        cases hp
  | reducing p trade fill hopen hopposite htrade hfill after hafter =>
    have hchained := h.chained
    rw [hopen] at haccepted hchained
    obtain ⟨hone, hne, k, hk, hfixed⟩ := hchained
    obtain ⟨l, hl, hlt, hlong, hshort⟩ := reduced_units haccepted hrules hexact hne hk hfixed
    have hqty : positionQty after = l * rules.stepSize := by
      rw [hafter, ← hl]
      split_ifs with hzero
      · exact hzero.symm
      · rfl
    refine ⟨?_, hrecorded, fun f hf => ?_⟩
    · dsimp only
      rw [hafter, hone]
      by_cases hzero : (reducedPosition c p order).signedQty = 0
      · rw [if_pos hzero]
        rfl
      · rw [if_neg hzero]
        exact ⟨rfl, hzero, l, hl, fun m hm => hfixed m (hm.trans hlt.le)⟩
    · rcases List.mem_append.mp hf with hold | hnew
      · exact h.allowed f hold
      · rw [List.mem_singleton.mp hnew]
        refine allowed_of_accepted haccepted hfill (fun hp => ?_) fun p' hp => ?_
        · cases hp
        · cases hp
          rw [hqty, hk, abs_mul, abs_mul, abs_of_pos hstep]
          refine ⟨mul_lt_mul_of_pos_right (by exact_mod_cast hlt) hstep, fun hpos => ?_,
            fun hneg => ?_⟩
          · have hk0 : 0 < k := by exact_mod_cast (pos_iff_pos_of_mul_pos hpos).mpr hstep
            exact mul_nonneg (by exact_mod_cast hlong hk0) hstep.le
          · have hk0 : k < 0 := by
              by_contra hnot
              exact absurd (mul_nonneg (by exact_mod_cast not_lt.mp hnot) hstep.le) hneg.not_ge
            exact mul_nonpos_of_nonpos_of_nonneg (by exact_mod_cast hshort hk0) hstep.le

end

/-! ### Runs -/

theorem checkEvents_same {first : HistoricalMarketEvent} {eventIds : List String}
    {events : List HistoricalMarketEvent}
    (h : validateEventSequence.checkEvents first eventIds events = .ok ()) :
    ∀ e ∈ events, e.symbol = first.symbol ∧ e.dataSource = first.dataSource := by
  induction events generalizing eventIds with
  | nil => exact fun e he => absurd he List.not_mem_nil
  | cons event events ih =>
    unfold validateEventSequence.checkEvents at h
    simp only [except_guard_ok] at h
    obtain ⟨-, hsymbol, -, hsource, hrest⟩ := h
    intro e he
    rcases List.mem_cons.mp he with rfl | he
    · exact ⟨not_not.mp hsymbol, not_not.mp hsource⟩
    · exact ih hrest e he

/-- The events of a validated sequence are of one symbol and from one source. -/
theorem validate_same {events : List HistoricalMarketEvent}
    (h : validateEventSequence events = .ok ()) {e e' : HistoricalMarketEvent} (he : e ∈ events)
    (he' : e' ∈ events) :
    e.symbol = e'.symbol ∧ e.dataSource = e'.dataSource := by
  unfold validateEventSequence at h
  cases events with
  | nil => exact absurd he List.not_mem_nil
  | cons first rest =>
    obtain ⟨-, h⟩ := except_guard_ok.mp h
    obtain ⟨hsymbol, hsource⟩ := checkEvents_same h e he
    obtain ⟨hsymbol', hsource'⟩ := checkEvents_same h e' he'
    exact ⟨hsymbol.trans hsymbol'.symm, hsource.trans hsource'.symm⟩

/-- The discipline of an account: one chain of exposure exactly while there is a position, a
position that is a multiple of the step size and not zero, and only fills as they should be. -/
structure PositionDiscipline (c : Context) (config : ReplayExecutionConfig) (step : ℚ)
    (a : Account) :
    Prop where
  flat : a.position = none ↔ a.activeExposureChains = 0
  opened : a.position ≠ none → a.activeExposureChains = 1
  multiple : ∀ p, a.position = some p → p.signedQty ≠ 0 ∧ ∃ n : ℤ, p.signedQty = n * step
  /-- the history has the fills of the run -/
  recorded : a.applied.map Applied.fill = a.fills
  allowed : ∀ f ∈ a.applied, Allowed c config f

theorem Disciplined.discipline (h : Disciplined c config step a) :
    PositionDiscipline c config step a := by
  have hchained := h.chained
  cases hposition : a.position with
  | none =>
    rw [hposition] at hchained
    have hzero : a.activeExposureChains = 0 := hchained
    refine ⟨⟨fun _ => hzero, fun _ => hposition⟩, fun hne => absurd hposition hne, fun p hp => ?_,
      h.recorded, h.allowed⟩
    rw [hposition] at hp
    cases hp
  | some p =>
    rw [hposition] at hchained
    obtain ⟨hone, hne, n, hn, -⟩ := hchained
    refine ⟨⟨fun hnone => ?_, fun hzero => ?_⟩, fun _ => hone, fun p' hp => ?_, h.recorded,
      h.allowed⟩
    · rw [hposition] at hnone
      cases hnone
    · rw [hone] at hzero
      cases hzero
    · rw [hposition] at hp
      cases hp
      exact ⟨hne, n, hn⟩

/-- The invariant holds after every event of a validated sequence. -/
theorem replayed_disciplined {events front : List Observed} {rules : ReplaySymbolRules} {r : Run}
    (hfront : front <+: events)
    (hrules : ∀ o ∈ events, config.rulesFor o.event.symbol = .ok rules)
    (hexact : ∀ o ∈ events, ∀ side, Exactly c rules.stepSize (availableDepth side o.event))
    (h : replayed c config platform front = .ok r) :
    Disciplined c config rules.stepSize (account r) := by
  refine replayed_inv (fun _ a => Disciplined c config rules.stepSize a) disciplined_start
    (fun _ _ _ _ => id) (fun _ _ _ _ _ => disciplined_fund) ?_ r h
  intro n a b order price grid o ho ha _ haccepted hfilled
  have hmem := hfront.subset ho
  have hb := disciplined_filled ha haccepted hfilled (hrules o hmem) (hexact o hmem order.side)
  exact ⟨hb.chained, hb.recorded, hb.allowed⟩

/-- **Positions are only opened from flat and then reduced**, after every event and after the
end-of-sample close: whatever the strategies want, and with any validated events and configuration
for which no multiple of the step size within a recorded depth is rounded. -/
theorem replay_disciplined {events : List Observed} {rules : ReplaySymbolRules}
    (hvalid : validateEventSequence (events.map Observed.event) = .ok ())
    (hrules : ∃ o ∈ events, config.rulesFor o.event.symbol = .ok rules)
    (hexact : ∀ o ∈ events, ∀ side, Exactly c rules.stepSize (availableDepth side o.event)) :
    (∀ front r, front <+: events → replayed c config platform front = .ok r →
        PositionDiscipline c config rules.stepSize (account r)) ∧
      ∀ last r r', events.getLast? = some last → replayed c config platform events = .ok r →
        finish c config last.event r = .ok r' →
        PositionDiscipline c config rules.stepSize (account r') := by
  have hall : ∀ o ∈ events, config.rulesFor o.event.symbol = .ok rules := by
    obtain ⟨first, hfirst, hfirstRules⟩ := hrules
    intro o ho
    rw [(validate_same hvalid (List.mem_map_of_mem ho) (List.mem_map_of_mem hfirst)).1]
    exact hfirstRules
  refine ⟨fun front r hfront h => (replayed_disciplined hfront hall hexact h).discipline, ?_⟩
  intro last r r' hlast h hfinish
  have hmem : last ∈ events := List.mem_of_getLast? hlast
  have hr := replayed_disciplined List.prefix_rfl hall hexact h
  rcases finish_ok hfinish with hsame | ⟨order, price, haccepted, hfilled⟩
  · rw [hsame]
    exact hr.discipline
  · exact (disciplined_filled hr haccepted hfilled (hall last hmem) (hexact last hmem _)).discipline

/-! ### A step size of 28 digits -/

def samplePlatform : Platform := ⟨fun _ => "19700101T000000000000Z", fun _ _ _ => "digest"⟩

def sampleRules (step : ℚ) (hstep : 0 < step) : ReplaySymbolRules where
  symbol := "BTCUSDT"
  stepSize := step
  minQuantity := 1 / 1000
  minNotional := 1
  positive := ⟨hstep, by norm_num, by norm_num⟩

theorem no_fee : (0 : ℚ) ≤ 0 ∧ (0 : ℚ) ≤ 1 := by norm_num

theorem tick_pos : (0 : ℚ) < 1 / 1000 := by norm_num

def sampleConfig (step : ℚ) (hstep : 0 < step) : ReplayExecutionConfig where
  initialCapital := 1000
  costModel := ⟨⟨0, no_fee⟩, ⟨0, no_fee⟩⟩
  marketSlippageBps := 0
  fundingIntervalSec := 28800
  symbolRules := [sampleRules step hstep]
  positive := by norm_num

def sampleEvent : HistoricalMarketEvent where
  eventId := "event-1"
  eventTime := 60000000
  symbol := "BTCUSDT"
  venue := "BINANCE_MAINNET"
  marketType := .usdmFutures
  bestBid := 10
  bestAsk := 10
  bidQty := 100
  askQty := 100
  markPrice := 10
  dataSource := "BINANCE_PUBLIC_MAINNET_READ_ONLY"
  positive := by norm_num
  uncrossed := le_rfl

def sampleIntent : StrategyIntent where
  intentId := "TREND-1"
  strategyId := "Trend"
  symbol := "BTCUSDT"
  marketType := .usdmFutures
  direction := .long
  desiredDeltaQty := 2
  opportunityScore := 1
  confidence := 1
  timestamp := ⟨120000000, true⟩

/-- Two minutes: at the first the price action has no state yet, at the second a strategy wants to
buy two. -/
def sampleObserved : List Observed :=
  [⟨sampleEvent, none⟩, ⟨{ sampleEvent with eventId := "event-2", eventTime := 120000000 },
    some ⟨"R0", fun _ => [sampleIntent]⟩⟩]

theorem sampleObserved_depth {o : Observed} (ho : o ∈ sampleObserved) (side : OrderSide) :
    availableDepth side o.event = 100 := by
  have hall : ∀ o ∈ sampleObserved, availableDepth side o.event = 100 := by
    cases side <;> simp [sampleObserved, sampleEvent, availableDepth]
  exact hall o ho

theorem sampleConfig_rulesFor (step : ℚ) (hstep : 0 < step) :
    (sampleConfig step hstep).rulesFor "BTCUSDT" = .ok (sampleRules step hstep) := by
  have hsymbol : normalized "BTCUSDT" = "BTCUSDT" := by decide +kernel
  simp [ReplayExecutionConfig.rulesFor, sampleConfig, sampleRules, hsymbol]

/-- A third in 28 digits. -/
def longStep : ℚ := 3333333333333333333333333333 / 10000000000000000000000000000

theorem longStep_pos : 0 < longStep := by norm_num [longStep]

/-- The six steps that fit into two are rounded up to it, which is no multiple of the step size. -/
theorem rounded_quantity_off_grid : ¬ ∀ (config : ReplayExecutionConfig) (platform : Platform)
    (events : List Observed) (rules : ReplaySymbolRules),
    validateEventSequence (events.map Observed.event) = .ok () →
    (∃ o ∈ events, config.rulesFor o.event.symbol = .ok rules) →
    ∀ front r, front <+: events → replayed .default config platform front = .ok r →
      PositionDiscipline .default config rules.stepSize (account r) := by
  intro hclaim
  have hquantity :
      (replayed .default (sampleConfig _ longStep_pos) samplePlatform sampleObserved).toOption.map
      (fun r => positionQty r.replay.position) = some 2 := by decide +kernel
  cases hreplayed :
    replayed .default (sampleConfig _ longStep_pos) samplePlatform sampleObserved with
  | error e =>
    rw [hreplayed] at hquantity
    cases hquantity
  | ok r =>
    rw [hreplayed] at hquantity
    have htwo : positionQty r.replay.position = 2 := Option.some.inj hquantity
    have hdiscipline := hclaim (sampleConfig _ longStep_pos) samplePlatform sampleObserved
      (sampleRules _ longStep_pos)
      rfl ⟨_, List.mem_cons_self, sampleConfig_rulesFor _ _⟩ sampleObserved r
      List.prefix_rfl hreplayed
    cases hposition : r.replay.position with
    | none =>
      rw [hposition] at htwo
      norm_num [positionQty] at htwo
    | some p =>
      obtain ⟨-, n, hn⟩ := hdiscipline.multiple p hposition
      rw [hposition] at htwo
      have hp : p.signedQty = 2 := htwo
      rw [hp] at hn
      simp only [sampleRules, longStep] at hn
      have hcast : (20000000000000000000000000000 : ℚ) =
          ((n * 3333333333333333333333333333 : ℤ) : ℚ) := by
        push_cast
        linarith
      have hint : (20000000000000000000000000000 : ℤ) = n * 3333333333333333333333333333 := by
        exact_mod_cast hcast
      omega

/-- A step size of a thousandth is kept. -/
theorem replay_disciplined_thousandth : ∃ r,
    replayed .default (sampleConfig (1 / 1000) (by norm_num)) samplePlatform sampleObserved =
    .ok r ∧
      r.fills ≠ [] ∧
      PositionDiscipline .default (sampleConfig (1 / 1000) (by norm_num)) (1 / 1000)
        (account r) := by
  have hfills : (replayed .default (sampleConfig (1 / 1000) (by norm_num)) samplePlatform
      sampleObserved).toOption.map (fun r => r.fills.length) = some 1 := by decide +kernel
  have hexact : Exactly .default (sampleRules (1 / 1000) (by norm_num)).stepSize 100 := by
    have hstep : (sampleRules (1 / 1000) (by norm_num)).stepSize =
        ((1 : ℤ) : ℚ) * 10 ^ (-3 : ℤ) := by
      norm_num [sampleRules]
    rw [hstep]
    exact exactly_of_short (by norm_num)
  cases hreplayed : replayed .default (sampleConfig (1 / 1000) (by norm_num)) samplePlatform
      sampleObserved with
  | error e =>
    rw [hreplayed] at hfills
    cases hfills
  | ok r =>
    rw [hreplayed] at hfills
    have hone : r.fills.length = 1 := Option.some.inj hfills
    refine ⟨r, rfl, List.ne_nil_of_length_pos (by omega), ?_⟩
    refine (replay_disciplined rfl ⟨_, List.mem_cons_self, sampleConfig_rulesFor _ _⟩
      fun o ho side => ?_).1 sampleObserved r List.prefix_rfl hreplayed
    rw [sampleObserved_depth ho]
    exact hexact

end Blessing.Backtest.Discipline
