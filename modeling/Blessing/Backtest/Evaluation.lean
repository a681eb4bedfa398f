import Blessing.Backtest.Conservation
import Blessing.Backtest.WalkForwardReplay

/-! # Evaluation of a completed replay

`evaluate_trades` takes trades of one data source, without a repeated id and in strict order of
time. An event records one trade at most, and the end-of-sample close records one more at the time
of the last event. -/

namespace Blessing.Backtest.Evaluation

open Blessing.Lib Blessing.Lib.Rounding Blessing.Lib.Effects
open Blessing.Binance.Models (PositionSide)
open Blessing.Engines.Intents Blessing.Engines.Governor
open Blessing.Backtest.Economic Blessing.Backtest.Replay Blessing.Backtest.Steps
    Blessing.Backtest.Discipline
open Blessing.Backtest.Conservation (run_ok)
open Blessing.Backtest.WalkForward Blessing.Backtest.WalkForwardReplay

variable {c : Context} {config : ReplayExecutionConfig} {platform : Platform}

/-! ### What can be evaluated -/

/-- What `evaluate_trades` demands of trades. -/
structure Evaluable (trades : List BacktestTrade) : Prop where
  source : ∀ t ∈ trades, ∀ u ∈ trades, t.dataSource = u.dataSource
  ids : (trades.map BacktestTrade.tradeId).Nodup
  times : (trades.map BacktestTrade.timestamp).Pairwise (· < ·)

theorem checkTrades_ok_iff {source : String} {tradeIds : List String} {previous : Option ℤ}
    {trades : List BacktestTrade} : checkTrades source tradeIds previous trades = .ok () ↔
      (∀ t ∈ trades, t.dataSource = source) ∧
      ((∀ t ∈ trades, t.tradeId ∉ tradeIds) ∧ (trades.map BacktestTrade.tradeId).Nodup) ∧
      (∀ p ∈ previous, ∀ t ∈ trades, p < t.timestamp) ∧
        (trades.map BacktestTrade.timestamp).Pairwise (· < ·) := by
  induction trades generalizing tradeIds previous with
  | nil => simp [checkTrades]
  | cons t trades ih =>
    rw [checkTrades]
    simp only [except_guard_ok, ih, List.map_cons, List.nodup_cons, List.pairwise_cons,
      List.forall_mem_cons, List.forall_mem_map]
    constructor
    · rintro ⟨hsource, hid, hprevious, hsources, ⟨hids, hnodup⟩, hlater, htimes⟩
      have hbefore : ∀ p ∈ previous, p < t.timestamp := by
        intro p hp
        rw [Option.mem_def.mp hp] at hprevious
        simpa using hprevious
      refine ⟨⟨not_not.mp hsource, hsources⟩, ⟨⟨hid, ?_⟩, ?_, hnodup⟩, ?_, hlater _ rfl, htimes⟩
      · exact fun u hu hmem => hids u hu (List.mem_cons_of_mem _ hmem)
      · intro hmem
        obtain ⟨u, hu, hsame⟩ := List.mem_map.mp hmem
        exact hids u hu (List.mem_cons.mpr (.inl hsame))
      · exact fun p hp => ⟨hbefore p hp, fun u hu => (hbefore p hp).trans (hlater _ rfl u hu)⟩
    · rintro ⟨⟨hsource, hsources⟩, ⟨⟨hid, hids⟩, hfresh, hnodup⟩, hprevious, hlater, htimes⟩
      refine ⟨not_not.mpr hsource, hid, ?_, hsources, ⟨?_, hnodup⟩, ?_, htimes⟩
      · intro hany
        obtain ⟨p, hp, hle⟩ := (Option.any_eq_true _ _).mp hany
        exact absurd (hprevious p hp).1 (not_lt.mpr (of_decide_eq_true hle))
      · intro u hu hmem
        rcases List.mem_cons.mp hmem with hsame | hmem
        · exact hfresh (List.mem_map.mpr ⟨u, hu, hsame⟩)
        · exact hids u hu hmem
      · intro p hp
        rw [← Option.some.inj hp]
        exact hlater

/-- The capital of a configuration is positive: the trades decide. -/
theorem economics_ok_iff {trades : List BacktestTrade} :
    (∃ result, economics c config trades = .ok result) ↔ Evaluable trades := by
  unfold economics
  by_cases hnone : trades = []
  · rw [if_pos hnone, hnone]
    exact ⟨fun _ => ⟨fun t ht => absurd ht List.not_mem_nil, List.nodup_nil, .nil⟩,
      fun _ => ⟨none, rfl⟩⟩
  · rw [if_neg hnone]
    obtain ⟨first, rest, rfl⟩ := List.exists_cons_of_ne_nil hnone
    have hchecked :
        (∃ result, (evaluateTrades c (first :: rest) config.initialCapital config.costModel).map
        some = .ok result) ↔ checkTrades first.dataSource [] none (first :: rest) = .ok () := by
      unfold evaluateTrades
      constructor
      · rintro ⟨result, h⟩
        cases hrun : checkTrades first.dataSource [] none (first :: rest) with
        | ok u => rfl
        | error e =>
          rw [if_neg (not_le.mpr config.positive.1)] at h
          simp only [hrun] at h
          cases h
      · intro h
        rw [if_neg (not_le.mpr config.positive.1)]
        simp only [h]
        exact ⟨_, rfl⟩
    rw [hchecked, checkTrades_ok_iff]
    constructor
    · rintro ⟨hsource, ⟨-, hids⟩, -, htimes⟩
      exact ⟨fun t ht u hu => (hsource t ht).trans (hsource u hu).symm, hids, htimes⟩
    · rintro ⟨hsource, hids, htimes⟩
      refine ⟨fun t ht => hsource t ht first (List.mem_cons_self ..),
        ⟨fun t _ => List.not_mem_nil, hids⟩, fun p hp => absurd hp (by simp), htimes⟩

/-! ### What a step records -/

/-- A trade that an event records. -/
structure TradeAt (event : HistoricalMarketEvent) (sequence : ℕ) (t : BacktestTrade) : Prop where
  timestamp : t.timestamp = event.eventTime
  tradeId : t.tradeId = "REPLAY-TRADE-" ++ padded sequence
  dataSource : t.dataSource = normalized event.dataSource

/-- One trade at most is recorded. -/
def Recorded (event : HistoricalMarketEvent) (r r' : Run) : Prop :=
  ∃ made : Option BacktestTrade, r'.trades = r.trades ++ made.toList ∧
    r'.replay.tradeSequence = r.replay.tradeSequence + made.toList.length ∧
    ∀ t ∈ made, TradeAt event r'.replay.tradeSequence t

section Step

variable {event : HistoricalMarketEvent} {s s' : DeterministicReplay} {r r' : Run}
    {order : OrderIntent} {price : ℚ} {strategyId regime : String}

theorem Recorded.nothing (htrades : r'.trades = r.trades)
    (hsequence : r'.replay.tradeSequence = r.replay.tradeSequence) : Recorded event r r' :=
  ⟨none, by simpa using htrades, hsequence, fun t ht => by cases ht⟩

theorem newTrade_identity {t t' : BacktestTrade} (h : newTrade t = .ok t') :
    t'.timestamp = t.timestamp ∧ t'.tradeId = t.tradeId ∧
    t'.dataSource = normalized t.dataSource := by
  simp only [newTrade, except_guard_ok] at h
  obtain ⟨-, -, h⟩ := h
  rw [← Except.ok.inj h]
  exact ⟨rfl, rfl, rfl⟩

theorem reduceTo_tradeSequence (s : DeterministicReplay) (p : PositionState) :
    (s.reduceTo p).tradeSequence = s.tradeSequence := by
  unfold DeterministicReplay.reduceTo
  split_ifs
  · rfl
  · rfl

theorem fillPosition_recorded {trade : Option BacktestTrade}
    (h : fillPosition c config s order price event strategyId regime = .ok (trade, s')) :
    s'.tradeSequence = s.tradeSequence + trade.toList.length ∧
    ∀ t ∈ trade, TradeAt event s'.tradeSequence t := by
  unfold fillPosition at h
  cases hposition : s.position with
  | none =>
    rw [hposition] at h
    cases h
    exact ⟨rfl, fun t ht => by cases ht⟩
  | some p =>
    rw [hposition] at h
    dsimp only at h
    split_ifs at h
    · obtain ⟨⟨made, s₁⟩, hmade, h⟩ := except_bind_ok.mp h
      cases h
      unfold appendTradeForReduction at hmade
      obtain ⟨t, ht, hmade⟩ := except_bind_ok.mp hmade
      cases hmade
      obtain ⟨htime, hid, hsource⟩ := newTrade_identity ht
      rw [reduceTo_tradeSequence]
      refine ⟨rfl, fun u hu => ?_⟩
      obtain rfl := Option.some.inj hu
      exact ⟨htime, hid, hsource⟩
    · cases h
      exact ⟨rfl, fun t ht => by cases ht⟩

theorem fill_recorded {fill : ExchangeFill} {decisionId targetExposureId : Option String}
    {grid : Bool}
    (h : r.fill c config order price event strategyId regime decisionId targetExposureId grid =
      .ok (fill, r')) :
    Recorded event r r' := by
  unfold Run.fill at h
  obtain ⟨⟨filled, trade, s⟩, happly, h⟩ := except_bind_ok.mp h
  cases h
  obtain ⟨hsequence, htrade⟩ := fillPosition_recorded (applyFill_ok happly).1
  exact ⟨trade, rfl, hsequence, htrade⟩

theorem onOrder_recorded {decision : ExecutionDecision} {exposureId : String}
    {intents : List StrategyIntent}
    (h : onOrder c config event decision exposureId intents regime r order = .ok r') :
    Recorded event r r' := by
  unfold onOrder at h
  obtain ⟨gated, -, h⟩ := except_bind_ok.mp h
  cases gated with
  | error reason =>
    cases h
    exact .nothing rfl rfl
  | ok accepted =>
    obtain ⟨⟨fill, filled⟩, hfill, h⟩ := except_bind_ok.mp h
    cases h
    obtain ⟨made, htrades, hsequence, hmade⟩ := fill_recorded hfill
    split_ifs
    · exact ⟨made, htrades, hsequence, hmade⟩
    · exact ⟨made, htrades, hsequence, hmade⟩

theorem decideOn_tradeSequence {intents : List StrategyIntent} {decision : ExecutionDecision}
    {exposureId : String}
    (h : decideOn c config platform event intents r = .ok (decision, exposureId, r')) :
    r'.trades = r.trades ∧ r'.replay.tradeSequence = r.replay.tradeSequence := by
  unfold decideOn at h
  obtain ⟨allocated, -, h⟩ := except_bind_ok.mp h
  cases h
  exact ⟨rfl, rfl⟩

/-- A decision has one order at most, so the loop over its orders records one trade at most. -/
theorem onAnalysis_recorded {analysis : Option Analysis}
    (h : onAnalysis c config platform event analysis r = .ok r') : Recorded event r r' := by
  unfold onAnalysis at h
  cases analysis with
  | none =>
    cases h
    exact .nothing rfl rfl
  | some analysis =>
    dsimp only at h
    split_ifs at h with hempty
    · cases h
      exact .nothing rfl rfl
    · obtain ⟨⟨decision, exposureId, decided⟩, hdecided, h⟩ := except_bind_ok.mp h
      obtain ⟨htrades, hsequence⟩ := decideOn_tradeSequence hdecided
      obtain ⟨-, -, horders⟩ := decideOn_ok hdecided
      dsimp only at h
      split_ifs at h with hnone
      · cases h
        exact .nothing htrades hsequence
      · obtain ⟨order, horder, -⟩ := horders.resolve_left hnone
        obtain ⟨filled, hfilled, h⟩ := except_bind_ok.mp h
        rw [horder, List.foldlM_cons] at hfilled
        obtain ⟨next, hnext, hfilled⟩ := except_bind_ok.mp hfilled
        cases hfilled
        cases h
        obtain ⟨made, hmade, hnumber, hat⟩ := onOrder_recorded hnext
        refine ⟨made, ?_, ?_, hat⟩
        · rw [← htrades]
          exact hmade
        · rw [← hsequence]
          exact hnumber

theorem applyFunding_tradeSequence {funding : Option ℚ}
    (h : applyFunding c config s event = .ok (funding, s')) :
    s'.tradeSequence = s.tradeSequence := by
  unfold applyFunding at h
  cases hposition : s.position with
  | none =>
    rw [hposition] at h
    cases h
    rfl
  | some p =>
    rw [hposition] at h
    obtain ⟨-, h⟩ := except_guard_ok.mp h
    split_ifs at h
    · obtain ⟨fundingPnl, -, h⟩ := except_bind_ok.mp h
      cases h
      rfl
    · cases h
      rfl

/-- **Step**: an event records one trade at most. -/
theorem onEvent_recorded {o : Observed} (h : onEvent c config platform r o = .ok r') :
    Recorded o.event r r' := by
  unfold onEvent at h
  obtain ⟨⟨funding, s⟩, hfunding, h⟩ := except_bind_ok.mp h
  obtain ⟨made, htrades, hsequence, hmade⟩ := onAnalysis_recorded h
  dsimp only at htrades hsequence
  rw [applyFunding_tradeSequence hfunding] at hsequence
  exact ⟨made, htrades, hsequence, hmade⟩

theorem trades_of_open {grid : Bool} {a b : Account}
    (h : Filled c config event order price grid a b) (hopen : a.position ≠ none) :
    b.trades.length = a.trades.length + 1 := by
  cases h with
  | opening strategyId regime fill hflat hfill => exact absurd hflat hopen
  | reducing p trade fill hposition hopposite htrade hfill after hafter =>
    exact List.length_append

/-- The end-of-sample close of an open position records a trade; without one nothing is recorded. -/
theorem finish_recorded {last : HistoricalMarketEvent} (h : finish c config last r = .ok r') :
    if config.forceCloseAtEnd = true ∧ r.replay.position ≠ none then
      ∃ t, r'.trades = r.trades ++ [t] ∧ r'.replay.tradeSequence = r.replay.tradeSequence + 1 ∧
        TradeAt last r'.replay.tradeSequence t
    else r' = r := by
  unfold finish at h
  cases hposition : r.replay.position with
  | none =>
    rw [hposition] at h
    cases h
    rw [if_neg fun hopen => hopen.2 rfl]
  | some p =>
    rw [hposition] at h
    dsimp only at h
    by_cases hforce : config.forceCloseAtEnd = true
    · rw [if_pos ⟨hforce, Option.some_ne_none p⟩]
      rw [if_pos hforce] at h
      obtain ⟨closed, hclosed, h⟩ := except_bind_ok.mp h
      cases h
      unfold forceClose at hclosed
      obtain ⟨gated, hgate, hclosed⟩ := except_bind_ok.mp hclosed
      cases gated with
      | error reason => cases hclosed
      | ok accepted =>
        obtain ⟨order, price⟩ := accepted
        obtain ⟨⟨fill, filled⟩, hfill, hclosed⟩ := except_bind_ok.mp hclosed
        cases hclosed
        have hopen : (riskSnapshot c config r.replay last).2.position = some p := hposition
        obtain ⟨-, haccepted⟩ := gate_accepted hgate
          (fun hflat => absurd (hflat.symm.trans hopen) (Option.some_ne_none p).symm) (fun _ => rfl)
        obtain ⟨made, htrades, hsequence, hmade⟩ := fill_recorded hfill
        have hlength :=
          trades_of_open (fill_filled haccepted hfill).1 (hopen.trans_ne (Option.some_ne_none p))
        cases made with
        | none =>
          rw [show (account filled).trades = filled.trades from rfl, htrades] at hlength
          simp [account] at hlength
        | some t => exact ⟨t, htrades, hsequence, hmade t rfl⟩
    · rw [if_neg fun hopen => hforce hopen.1]
      rw [if_neg hforce] at h
      cases h
      rfl

end Step

/-! ### What a run records -/

/-- The trades of a run so far: numbered, from one source, and at times of its events. -/
structure Booked (source : String) (times : List ℤ) (r : Run) : Prop where
  ids : r.trades.map BacktestTrade.tradeId =
    (List.range r.replay.tradeSequence).map fun n => "REPLAY-TRADE-" ++ padded (n + 1)
  source : ∀ t ∈ r.trades, t.dataSource = source
  times : (r.trades.map BacktestTrade.timestamp).Sublist times

section Runs

variable {source : String} {times : List ℤ} {r r' : Run} {events : List Observed}

theorem booked_start (config : ReplayExecutionConfig) (source : String) :
    Booked source [] (start config) where
  ids := rfl
  source := fun _ ht => absurd ht List.not_mem_nil
  times := .slnil

/-- **Step**: one trade more at most, with the next number and the time of the event. -/
theorem booked_recorded {event : HistoricalMarketEvent} (h : Booked source times r)
    (hrecorded : Recorded event r r') (hsource : normalized event.dataSource = source) :
    Booked source (times ++ [event.eventTime]) r' := by
  obtain ⟨made, htrades, hsequence, hmade⟩ := hrecorded
  cases made with
  | none =>
    rw [Option.toList_none, List.append_nil] at htrades
    refine ⟨?_, ?_, ?_⟩
    · rw [htrades, hsequence]
      exact h.ids
    · rw [htrades]
      exact h.source
    · rw [htrades]
      exact h.times.trans (List.sublist_append_left _ _)
  | some t =>
    obtain ⟨htime, hid, hdata⟩ := hmade t rfl
    rw [Option.toList_some] at htrades hsequence
    rw [hsequence] at hid
    refine ⟨?_, ?_, ?_⟩
    · rw [htrades, hsequence, List.length_singleton, List.range_succ, List.map_append,
        List.map_append, h.ids]
      simp only [List.map_cons, List.map_nil, hid, List.length_singleton]
    · intro u hu
      rw [htrades] at hu
      rcases List.mem_append.mp hu with hu | hu
      · exact h.source u hu
      · rw [List.mem_singleton.mp hu, hdata, hsource]
    · rw [htrades, List.map_append]
      refine h.times.append ?_
      rw [List.map_singleton, htime]

/-- **Run**: the trades are at times of the events, in their order. -/
theorem booked_run (h : Booked source times r)
    (hsource : ∀ o ∈ events, normalized o.event.dataSource = source)
    (hrun : events.foldlM (onEvent c config platform) r = .ok r') :
    Booked source (times ++ events.map fun o => o.event.eventTime) r' := by
  induction events generalizing times r with
  | nil =>
    cases hrun
    simpa using h
  | cons o events ih =>
    rw [List.foldlM_cons] at hrun
    obtain ⟨next, hnext, hrun⟩ := except_bind_ok.mp hrun
    have hone := booked_recorded h (onEvent_recorded hnext) (hsource o (List.mem_cons_self ..))
    have hrest := ih hone (fun o ho => hsource o (List.mem_cons_of_mem _ ho)) hrun
    simpa using hrest

theorem Booked.evaluable (h : Booked source times r)
    (htimes : (r.trades.map BacktestTrade.timestamp).Pairwise (· < ·)) : Evaluable r.trades where
  source := fun t ht u hu => (h.source t ht).trans (h.source u hu).symm
  ids := by
    rw [h.ids]
    refine List.Nodup.map (fun n m hnm => ?_) List.nodup_range
    have hpadded : padded (n + 1) = padded (m + 1) := String.append_right_inj _ |>.mp hnm
    have hsame := padded_inj hpadded
    omega
  times := htimes

/-- A valid sequence of events: their times, their source, and the last of them. -/
theorem valid_events {last : Observed}
    (hvalid : validateEventSequence (events.map Observed.event) = .ok ())
    (hlast : events.getLast? = some last) :
    (events.map fun o => o.event.eventTime).Pairwise (· < ·) ∧
      (∀ o ∈ events, normalized o.event.dataSource = normalized last.event.dataSource) ∧
      ∀ o ∈ events, o.event.eventTime ≤ last.event.eventTime := by
  have hchrono := checked_chrono hvalid
  rw [List.map_map] at hchrono
  refine ⟨hchrono, ?_, ?_⟩
  · intro o ho
    have hmem := List.mem_map_of_mem (f := Observed.event) (List.mem_of_getLast? hlast)
    rw [(validate_same hvalid (List.mem_map_of_mem ho) hmem).2]
  · obtain ⟨front, rfl⟩ := List.getLast?_eq_some_iff.mp hlast
    rw [List.map_append, List.pairwise_append] at hchrono
    intro o ho
    rcases List.mem_append.mp ho with ho | ho
    · exact (hchrono.2.2 _ (List.mem_map_of_mem ho) _ (List.mem_singleton_self _)).le
    · rw [List.mem_singleton.mp ho]

theorem replayed_booked {last : Observed}
    (hvalid : validateEventSequence (events.map Observed.event) = .ok ())
    (hlast : events.getLast? = some last) (hr : replayed c config platform events = .ok r) :
    Booked (normalized last.event.dataSource) (events.map fun o => o.event.eventTime) r :=
  booked_run (booked_start config _) (valid_events hvalid hlast).2.1 hr

theorem finish_booked {last : HistoricalMarketEvent}
    (h : Booked (normalized last.dataSource) times r) (hfinish : finish c config last r = .ok r') :
    Booked (normalized last.dataSource) (times ++ [last.eventTime]) r' := by
  have hrecorded := finish_recorded hfinish
  split_ifs at hrecorded
  · obtain ⟨t, htrades, hsequence, ht⟩ := hrecorded
    refine booked_recorded h ⟨some t, htrades, hsequence, fun u hu => ?_⟩ rfl
    rw [← Option.some.inj hu]
    exact ht
  · exact booked_recorded h (.nothing (by rw [hrecorded]) (by rw [hrecorded])) rfl

/-- The trades can be evaluated unless the close comes on top of a trade of the last event. -/
theorem finish_evaluable {last : Observed}
    (hvalid : validateEventSequence (events.map Observed.event) = .ok ())
    (hlast : events.getLast? = some last) (hr : replayed c config platform events = .ok r)
    (hfinish : finish c config last.event r = .ok r') :
    Evaluable r'.trades ↔ ¬ (config.forceCloseAtEnd = true ∧ r.replay.position ≠ none ∧
      ∃ t ∈ r.trades, t.timestamp = last.event.eventTime) := by
  obtain ⟨hchrono, -, hle⟩ := valid_events hvalid hlast
  have hbooked := replayed_booked hvalid hlast hr
  have hsorted := hchrono.sublist hbooked.times
  have hrecorded := finish_recorded hfinish
  by_cases hclose : config.forceCloseAtEnd = true ∧ r.replay.position ≠ none
  · rw [if_pos hclose] at hrecorded
    obtain ⟨t, htrades, -, ht⟩ := hrecorded
    have htimes : r'.trades.map BacktestTrade.timestamp =
        r.trades.map BacktestTrade.timestamp ++ [last.event.eventTime] := by
      rw [htrades, List.map_append, List.map_singleton, ht.timestamp]
    constructor
    · rintro hevaluable ⟨-, -, u, hu, hsame⟩
      have hbefore := hevaluable.times
      rw [htimes, List.pairwise_append] at hbefore
      exact absurd hsame (hbefore.2.2 _ (List.mem_map_of_mem hu) _ (List.mem_singleton_self _)).ne
    · intro hnone
      refine (finish_booked hbooked hfinish).evaluable ?_
      rw [htimes, List.pairwise_append]
      refine ⟨hsorted, List.pairwise_singleton _ _, ?_⟩
      intro time htime bound hbound
      rw [List.mem_singleton.mp hbound]
      obtain ⟨u, hu, rfl⟩ := List.mem_map.mp htime
      obtain ⟨o, ho, hat⟩ := List.mem_map.mp (hbooked.times.subset htime)
      refine lt_of_le_of_ne (hat ▸ hle o ho) fun hsame => ?_
      exact hnone ⟨hclose.1, hclose.2, u, hu, hsame⟩
  · rw [if_neg hclose] at hrecorded
    rw [hrecorded]
    refine ⟨fun _ h => hclose ⟨h.1, h.2.1⟩, fun _ => hbooked.evaluable hsorted⟩

/-- A run whose loop and close have returned returns a result if its trades can be evaluated. -/
theorem run_returns_iff {last : Observed}
    (hvalid : validateEventSequence (events.map Observed.event) = .ok ())
    (hrules : ∀ o ∈ events, o.event.symbol ∈ config.symbolRules.map ReplaySymbolRules.symbol)
    (hlast : events.getLast? = some last) (hr : replayed c config platform events = .ok r)
    (hfinish : finish c config last.event r = .ok r') :
    (∃ result, run c config platform events = .ok result) ↔ Evaluable r'.trades := by
  rw [← @economics_ok_iff c config]
  constructor
  · rintro ⟨result, h⟩
    obtain ⟨last', r₁, hlast', hr₁, hfinish', heconomic, -⟩ := run_ok h
    obtain rfl := Option.some.inj (hlast.symm.trans hlast')
    obtain rfl := Except.ok.inj (hr.symm.trans hr₁)
    obtain rfl := Except.ok.inj (hfinish.symm.trans hfinish')
    exact ⟨_, heconomic⟩
  · rintro ⟨economicResult, heconomic⟩
    obtain ⟨first, hfirst⟩ : ∃ first, events.head? = some first :=
      ⟨events.head (List.ne_nil_of_mem (List.mem_of_getLast? hlast)), List.head?_eq_some_head _⟩
    refine ⟨⟨events.length, first.event.eventTime, last.event.eventTime, r', economicResult,
      r'.replay.signedQty, currentEquity c config r'.replay last.event.markPrice⟩, ?_⟩
    unfold run
    refine except_bind_ok.mpr ⟨(), hvalid, except_guard_ok.mpr ⟨?_, ?_⟩⟩
    · intro hany
      obtain ⟨o, ho, hmissing⟩ := List.any_eq_true.mp hany
      simp [hrules o ho] at hmissing
    · rw [hfirst, hlast]
      exact except_bind_ok.mpr ⟨r, hr, except_bind_ok.mpr ⟨r', hfinish,
        except_bind_ok.mpr ⟨_, heconomic, rfl⟩⟩⟩

theorem run_valid {result : ReplayResult} (h : run c config platform events = .ok result) :
    validateEventSequence (events.map Observed.event) = .ok () := by
  unfold run at h
  obtain ⟨u, hvalid, -⟩ := except_bind_ok.mp h
  exact hvalid

theorem run_trades {result : ReplayResult} (h : run c config platform events = .ok result)
    (hsource : ∀ o ∈ events, normalized o.event.dataSource = source) :
    Evaluable result.recorded.trades ∧ ∀ t ∈ result.recorded.trades,
      t.dataSource = source ∧ ∃ o ∈ events, o.event.eventTime = t.timestamp := by
  have hvalid := run_valid h
  obtain ⟨last, r, hlast, hr, hfinish, heconomic, -⟩ := run_ok h
  have hmem : last ∈ events := List.mem_of_getLast? hlast
  have hbooked := finish_booked (replayed_booked hvalid hlast hr) hfinish
  refine ⟨economics_ok_iff.mp ⟨_, heconomic⟩, fun t ht => ⟨?_, ?_⟩⟩
  · rw [hbooked.source t ht]
    exact hsource last hmem
  · rcases List.mem_append.mp (hbooked.times.subset (List.mem_map_of_mem ht)) with htime | htime
    · exact List.mem_map.mp htime
    · exact ⟨last, hmem, (List.mem_singleton.mp htime).symm⟩

end Runs

/-! ### The folds together -/

section Folds

variable {source : String} {events : List HistoricalMarketEvent} {K K' I I' : Set ℕ}
    {xs ys : List BacktestTrade}

/-- Trades of some folds, at some of the events. -/
structure Tested (source : String) (events : List HistoricalMarketEvent) (K I : Set ℕ)
    (trades : List BacktestTrade) :
    Prop where
  evaluable : Evaluable trades
  source : ∀ t ∈ trades, t.dataSource = source
  named : ∀ t ∈ trades, ∃ k ∈ K, ∃ rest, t.tradeId = "WF" ++ toString k ++ "-" ++ rest
  timed : ∀ t ∈ trades, ∃ i ∈ I, (events.map HistoricalMarketEvent.eventTime)[i]? = some t.timestamp

theorem toString_toList (k : ℕ) : (toString k).toList = Nat.toDigits 10 k := by
  rw [Nat.toString_eq_ofList_toDigits, String.toList_ofList]

/-- A fold is known from the ids of its trades. -/
theorem fold_of_id {k m : ℕ} {rest rest' : String}
    (h : "WF" ++ toString k ++ "-" ++ rest = "WF" ++ toString m ++ "-" ++ rest') : k = m := by
  have hdigits (k : ℕ) (rest : String) :
      (("WF" ++ toString k ++ "-" ++ rest).toList.drop 2).takeWhile (fun c => decide (c ≠ '-')) =
        Nat.toDigits 10 k := by
    have hlist : ("WF" ++ toString k ++ "-" ++ rest).toList.drop 2 =
        Nat.toDigits 10 k ++ '-' :: rest.toList := by
      simp only [String.toList_append, toString_toList, List.append_assoc]
      rfl
    rw [hlist, List.takeWhile_append_of_pos]
    · simp
    · intro d hd
      have hdigit := Nat.isDigit_of_mem_toDigits (by decide) (by decide) hd
      refine decide_eq_true fun hhyphen => ?_
      rw [hhyphen] at hdigit
      exact absurd hdigit (by decide)
  have hsame := hdigits k rest
  rw [h, hdigits m rest'] at hsame
  have hvalue := congrArg (fun ds => Nat.ofDigitChars 10 ds 0) hsame
  simp only [Nat.ofDigitChars_ten_toDigits] at hvalue
  exact hvalue.symm

theorem Tested.mono (h : Tested source events K I xs) (hK : K ⊆ K') (hI : I ⊆ I') :
    Tested source events K' I' xs where
  evaluable := h.evaluable
  source := h.source
  named := fun t ht => (h.named t ht).imp fun _ hk => ⟨hK hk.1, hk.2⟩
  timed := fun t ht => (h.timed t ht).imp fun _ hi => ⟨hI hi.1, hi.2⟩

theorem Evaluable.renamed (h : Evaluable xs) (front : String) :
    Evaluable (xs.map fun t => { t with tradeId := front ++ t.tradeId }) where
  source := by
    intro t ht u hu
    obtain ⟨t', ht', rfl⟩ := List.mem_map.mp ht
    obtain ⟨u', hu', rfl⟩ := List.mem_map.mp hu
    exact h.source t' ht' u' hu'
  ids := by
    have hids := h.ids.map (fun _ _ hid => (String.append_right_inj front).mp hid)
    rw [List.map_map] at hids ⊢
    exact hids
  times := by
    have htimes := h.times
    rw [List.map_map]
    exact htimes

/-- **Step**: trades of a fold in front of trades of later folds. -/
theorem Tested.append (hchrono : (events.map HistoricalMarketEvent.eventTime).Pairwise (· < ·))
    (hx : Tested source events K I xs) (hy : Tested source events K' I' ys)
    (hK : ∀ k ∈ K, ∀ k' ∈ K', k < k') (hI : ∀ i ∈ I, ∀ i' ∈ I', i < i') :
    Tested source events (K ∪ K') (I ∪ I') (xs ++ ys) := by
  have hall {P : BacktestTrade → Prop} (hx : ∀ t ∈ xs, P t) (hy : ∀ t ∈ ys, P t) :
      ∀ t ∈ xs ++ ys, P t :=
    fun t ht => (List.mem_append.mp ht).elim (hx t) (hy t)
  have hsource := hall hx.source hy.source
  refine ⟨⟨fun t ht u hu => (hsource t ht).trans (hsource u hu).symm, ?_, ?_⟩, hsource, ?_, ?_⟩
  · rw [List.map_append]
    refine hx.evaluable.ids.append hy.evaluable.ids fun id hid hid' => ?_
    obtain ⟨t, ht, rfl⟩ := List.mem_map.mp hid
    obtain ⟨u, hu, hsame⟩ := List.mem_map.mp hid'
    obtain ⟨k, hk, rest, hname⟩ := hx.named t ht
    obtain ⟨k', hk', rest', hname'⟩ := hy.named u hu
    rw [hname, hname'] at hsame
    exact absurd (fold_of_id hsame) (hK k hk k' hk').ne'
  · rw [List.map_append, List.pairwise_append]
    refine ⟨hx.evaluable.times, hy.evaluable.times, fun time htime time' htime' => ?_⟩
    obtain ⟨t, ht, rfl⟩ := List.mem_map.mp htime
    obtain ⟨u, hu, rfl⟩ := List.mem_map.mp htime'
    obtain ⟨i, hi, hat⟩ := hx.timed t ht
    obtain ⟨i', hi', hat'⟩ := hy.timed u hu
    refine not_le.mp fun hle => ?_
    exact absurd ((le_iff_of_index hchrono hat' hat).mpr hle) (not_le.mpr (hI i hi i' hi'))
  · exact hall (fun t ht => (hx.named t ht).imp fun _ hk => ⟨.inl hk.1, hk.2⟩)
      fun t ht => (hy.named t ht).imp fun _ hk => ⟨.inr hk.1, hk.2⟩
  · exact hall (fun t ht => (hx.timed t ht).imp fun _ hi => ⟨.inl hi.1, hi.2⟩)
      fun t ht => (hy.timed t ht).imp fun _ hi => ⟨.inr hi.1, hi.2⟩

theorem observe_events (engines : Engines) (config : ReplayExecutionConfig)
    (seen events : List HistoricalMarketEvent) :
    (observe engines config seen events).map Observed.event = events := by
  induction events generalizing seen with
  | nil => rfl
  | cons event events ih => rw [observe, List.map_cons, ih]

theorem mem_window {start stop : ℕ} {e : HistoricalMarketEvent} (h : e ∈ window events start stop) :
    ∃ i, start ≤ i ∧ i < stop ∧ events[i]? = some e := by
  obtain ⟨i, hi, rfl⟩ := List.getElem_of_mem h
  have hlength : i < (window events start stop).length := hi
  simp only [window, List.length_drop, List.length_take] at hlength
  refine ⟨start + i, by omega, by omega, ?_⟩
  simp only [window, List.getElem_drop, List.getElem_take]
  exact List.getElem?_eq_getElem _

variable {engines : Engines} {hashes : Hashes} {variants : List ReplayParameterVariant}

theorem onFold_tested {fold : EventWalkForwardFold}
    {r : ReplayWalkForwardFoldResult × List BacktestTrade}
    (h : onFold c platform engines hashes events variants fold = .ok r)
    (hsource : ∀ e ∈ events, normalized e.dataSource = source) :
    Tested source events {fold.foldIndex} (Set.Ico fold.testStart fold.testEnd) r.2 := by
  unfold onFold at h
  obtain ⟨selection, -, h⟩ := except_bind_ok.mp h
  split at h
  · cases h
  · next variant hvariant =>
    obtain ⟨result, hresult, h⟩ := except_bind_ok.mp h
    cases h
    have hwindow : ∀ o ∈ observe engines variant.config []
        (window events fold.testStart fold.testEnd),
        ∃ i, fold.testStart ≤ i ∧ i < fold.testEnd ∧ events[i]? = some o.event := by
      intro o ho
      have hmem := List.mem_map_of_mem (f := Observed.event) ho
      rw [observe_events] at hmem
      exact mem_window hmem
    have hfrom : ∀ o ∈ observe engines variant.config []
        (window events fold.testStart fold.testEnd),
        normalized o.event.dataSource = source := by
      intro o ho
      obtain ⟨i, -, -, hi⟩ := hwindow o ho
      exact hsource _ (List.mem_of_getElem? hi)
    obtain ⟨hevaluable, htrades⟩ := run_trades hresult hfrom
    refine ⟨hevaluable.renamed _, ?_, ?_, ?_⟩
    · intro t ht
      obtain ⟨u, hu, rfl⟩ := List.mem_map.mp ht
      exact (htrades u hu).1
    · intro t ht
      obtain ⟨u, -, rfl⟩ := List.mem_map.mp ht
      exact ⟨_, rfl, u.tradeId, rfl⟩
    · intro t ht
      obtain ⟨u, hu, rfl⟩ := List.mem_map.mp ht
      obtain ⟨-, o, ho, htime⟩ := htrades u hu
      obtain ⟨i, hstart, hstop, hi⟩ := hwindow o ho
      refine ⟨i, ⟨hstart, hstop⟩, ?_⟩
      rw [List.getElem?_map, hi, ← htime]
      rfl

/-- **Run**: the trades of all folds. -/
theorem rounds_tested {windowConfig : EventWalkForwardConfig} {cursor foldIndex : ℕ}
    {folds : List EventWalkForwardFold}
    {results : List (ReplayWalkForwardFoldResult × List BacktestTrade)}
    (hchrono : (events.map HistoricalMarketEvent.eventTime).Pairwise (· < ·))
    (hsource : ∀ e ∈ events, normalized e.dataSource = source)
    (hrounds : Rounds windowConfig (events.map HistoricalMarketEvent.eventTime) cursor
      foldIndex folds) (hresults : List.Forall₂ (fun fold r =>
      onFold c platform engines hashes events variants fold = .ok r)
      folds results) :
    Tested source events (Set.Ici foldIndex) (Set.Ici cursor) (results.flatMap Prod.snd) := by
  induction hrounds generalizing results with
  | stop =>
    cases hresults
    exact ⟨⟨fun t ht => absurd ht List.not_mem_nil, List.nodup_nil, .nil⟩,
      fun t ht => absurd ht List.not_mem_nil,
      fun t ht => absurd ht List.not_mem_nil, fun t ht => absurd ht List.not_mem_nil⟩
  | fold hnext hrest ih =>
    cases hresults with
    | cons hfold hresults =>
      obtain ⟨hcausal, hstart, hindex, hle, -, -⟩ := nextFold_spec hchrono hnext
      have htrain := hcausal.train
      have hapart := hcausal.apart
      rw [List.flatMap_cons]
      refine ((onFold_tested hfold hsource).append hchrono (ih hresults) ?_ ?_).mono ?_ ?_
      · rintro k rfl k' hk'
        rw [Set.mem_Ici] at hk'
        omega
      · rintro i ⟨-, hi⟩ i' hi'
        rw [Set.mem_Ici] at hi'
        omega
      · rintro k (rfl | hk)
        · exact hindex.ge
        · rw [Set.mem_Ici] at hk ⊢
          omega
      · rintro i (⟨hi, -⟩ | hi)
        · rw [Set.mem_Ici]
          omega
        · rw [Set.mem_Ici] at hi ⊢
          have htest := hcausal.test
          omega

end Folds

/-- **A completed replay is evaluated** exactly if its end-of-sample close does not come on top of a
trade of the last event; and once the replays of all folds have returned, their trades are evaluated
together. -/
theorem completed_replay_evaluates (c : Context) (platform : Platform) :
    (∀ (config : ReplayExecutionConfig) (events : List Observed) (last : Observed) (r r' : Run),
      validateEventSequence (events.map Observed.event) = .ok () →
      (∀ o ∈ events, o.event.symbol ∈ config.symbolRules.map ReplaySymbolRules.symbol) →
      events.getLast? = some last → replayed c config platform events = .ok r →
      finish c config last.event r = .ok r' →
      (((∃ economicResult, economics c config r'.trades = .ok economicResult) ∧
          ∃ result, run c config platform events = .ok result) ↔
        ¬ (config.forceCloseAtEnd = true ∧ r.replay.position ≠ none ∧
          ∃ t ∈ r.trades, t.timestamp = last.event.eventTime))) ∧
    ∀ (engines : Engines) (hashes : Hashes) (events : List HistoricalMarketEvent)
      (first : ReplayParameterVariant) (rest : List ReplayParameterVariant)
      (windowConfig : EventWalkForwardConfig) (folds : List EventWalkForwardFold)
      (results : List (ReplayWalkForwardFoldResult × List BacktestTrade)),
      validateEventSequence events = .ok () →
      walkForwardEventSplits events windowConfig = .ok folds →
      folds.mapM (onFold c platform engines hashes events (first :: rest)) = .ok results →
      ∃ economicResult, economics c first.config (results.flatMap Prod.snd) =
      .ok economicResult := by
  constructor
  · intro config events last r r' hvalid hrules hlast hr hfinish
    rw [run_returns_iff hvalid hrules hlast hr hfinish, economics_ok_iff, and_self]
    exact finish_evaluable hvalid hlast hr hfinish
  · intro engines hashes events first rest windowConfig folds results hvalid hfolds hresults
    obtain ⟨hchrono, hrounds⟩ := splits_rounds hfolds
    obtain ⟨head, hhead⟩ : ∃ head, head ∈ events := by
      cases events with
      | nil => cases hvalid
      | cons head tail => exact ⟨head, List.mem_cons_self ..⟩
    have hsource : ∀ e ∈ events, normalized e.dataSource = normalized head.dataSource := by
      intro e he
      rw [(validate_same hvalid he hhead).2]
    have htested := rounds_tested hchrono hsource hrounds (except_mapM_ok.mp hresults)
    exact economics_ok_iff.mpr htested.evaluable

/-! ### A reduction at the last event -/

/-- A strategy wants to trade at a minute. -/
def tradeAt (minute : ℕ) (direction : PositionSide) (quantity : ℚ) : Observed :=
  ⟨minuteEvent minute, some ⟨"R0", fun _ => [{ sampleIntent with
    direction
    desiredDeltaQty := quantity
    timestamp := ⟨minute * 60000000, true⟩ }]⟩⟩

/-- Two are bought and one is sold again, and the events end here. -/
def reducedAtEnd : List Observed :=
  [⟨minuteEvent 1, none⟩, tradeAt 2 .long 2, tradeAt 3 .short (-1)]

/-- One more event without a trade. -/
def reducedBefore : List Observed := reducedAtEnd ++ [⟨minuteEvent 4, some ⟨"R0", fun _ => []⟩⟩]

abbrev evaluationConfig : ReplayExecutionConfig := sampleConfig (1 / 1000) tick_pos

theorem completed (events : List Observed) (last : Observed)
    (h : (replayed .default evaluationConfig samplePlatform events >>=
      finish .default evaluationConfig last.event).toBool = true) :
    ∃ r r', replayed .default evaluationConfig samplePlatform events = .ok r ∧
      finish .default evaluationConfig last.event r = .ok r' := by
  obtain ⟨r', hr'⟩ := exists_of_toBool h
  obtain ⟨r, hr, hfinish⟩ := except_bind_ok.mp hr'
  exact ⟨r, r', hr, hfinish⟩

/-- With an event behind the reduction the run returns, and so do two folds. -/
theorem completed_replay_evaluates_sample :
    (∃ r result, replayed .default evaluationConfig samplePlatform reducedBefore = .ok r ∧
      r.replay.position ≠ none ∧ run .default evaluationConfig samplePlatform reducedBefore =
      .ok result) ∧
    ∃ folds results economicResult, walkForwardEventSplits sampleEvents sampleWindows = .ok folds ∧
      folds.mapM
        (onFold .default samplePlatform sampleEngines sampleHashes sampleEvents sampleVariants) =
        .ok results ∧
      economics .default evaluationConfig (results.flatMap Prod.snd) = .ok economicResult := by
  obtain ⟨hreplay, hfolds⟩ := completed_replay_evaluates .default samplePlatform
  constructor
  · obtain ⟨r, r', hr, hr'⟩ :=
      completed reducedBefore ⟨minuteEvent 4, some ⟨"R0", fun _ => []⟩⟩ (by decide +kernel)
    have hstate : (replayed .default evaluationConfig samplePlatform reducedBefore).toOption.map
        (fun r => (r.trades.map BacktestTrade.timestamp, r.replay.position.isSome)) =
        some ([180000000], true) := by
      decide +kernel
    rw [hr] at hstate
    obtain ⟨htimes, hopen⟩ := Prod.mk.inj (Option.some.inj hstate)
    have hreturns :=
      (hreplay evaluationConfig reducedBefore ⟨minuteEvent 4, some ⟨"R0", fun _ => []⟩⟩ r r'
        (by rfl) (by decide +kernel)
      rfl hr hr').mpr
    obtain ⟨-, result, hresult⟩ := hreturns fun hclose => by
      obtain ⟨-, -, t, ht, htime⟩ := hclose
      have hmem := List.mem_map_of_mem (f := BacktestTrade.timestamp) ht
      rw [htimes, htime] at hmem
      exact absurd hmem (by decide)
    exact ⟨r, result, hr, Option.isSome_iff_ne_none.mp hopen, hresult⟩
  · obtain ⟨result, -, hresult, -⟩ := result_of_selections
      (show selections sampleEvents = some ["V", "V"] by decide +kernel)
    obtain ⟨folds, results, hsplit, hresults, -⟩ := folds_ok hresult
    obtain ⟨economicResult, heconomic⟩ := hfolds sampleEngines sampleHashes sampleEvents
      ⟨"V", sampleConfig (1 / 1000) (by norm_num), by decide⟩ [] sampleWindows folds results
        (by rfl) hsplit
      (except_mapM_ok.mpr hresults)
    exact ⟨folds, results, economicResult, hsplit, except_mapM_ok.mpr hresults, heconomic⟩

/-- The reduction and the close have one time, which `evaluate_trades` rejects. -/
theorem reduced_at_end_fails : ¬ ∀ (config : ReplayExecutionConfig) (platform : Platform)
    (events : List Observed) (last : Observed) (r r' : Run),
    validateEventSequence (events.map Observed.event) = .ok () →
    (∀ o ∈ events, o.event.symbol ∈ config.symbolRules.map ReplaySymbolRules.symbol) →
    events.getLast? = some last → replayed .default config platform events = .ok r →
    finish .default config last.event r = .ok r' →
    (∃ economicResult, economics .default config r'.trades = .ok economicResult) ∧
      ∃ result, run .default config platform events = .ok result := by
  intro hclaim
  obtain ⟨r, r', hr, hr'⟩ := completed reducedAtEnd (tradeAt 3 .short (-1)) (by decide +kernel)
  obtain ⟨-, result, hresult⟩ :=
    hclaim evaluationConfig samplePlatform reducedAtEnd (tradeAt 3 .short (-1)) r r'
    (by rfl) (by decide +kernel) rfl hr hr'
  have hfails : (run .default evaluationConfig samplePlatform reducedAtEnd).toBool = false := by
    decide +kernel
  rw [hresult] at hfails
  cases hfails

end Blessing.Backtest.Evaluation
