import Blessing.Backtest.Discipline
import Blessing.Backtest.WalkForward

/-! # The walk-forward replay

`run_walk_forward_replay` of `backtest/replay.py`: in every fold a variant is selected by its replay
of the training events and then replays the untouched test events. What the engines in front of the
allocator make of an event depends on the configuration and on the events of the window so far; the
hashes are functions of what is hashed. -/

namespace Blessing.Backtest.WalkForwardReplay

open Blessing.Lib Blessing.Lib.Rounding Blessing.Lib.Effects
open Blessing.Backtest.Economic Blessing.Backtest.Replay Blessing.Backtest.Discipline
open Blessing.Backtest.WalkForward

/-! ### Variants -/

deriving instance DecidableEq for EconomicCostModel

/-- `ReplayParameterVariant` -/
structure ReplayParameterVariant where
  variantId : String
  config : ReplayExecutionConfig
  /-- what the constructor checks -/
  named : variantId ≠ ""

/-- What is hashed for the selection of a fold. -/
structure SelectionArtifact where
  foldIndex : ℕ
  trainEventIds : List String
  trainDatasetSha256 : String
  variantConfigSha256 : List (String × String)
  trainNetPnlByVariant : List (String × Option ℚ)
  selectedVariantId : String

/-- `_canonical_hash` of events, of a configuration and of a selection. -/
structure Hashes where
  events : List HistoricalMarketEvent → String
  config : ReplayExecutionConfig → String
  selection : SelectionArtifact → String

/-- What a fresh set of engines makes of an event behind the earlier events of its window. -/
abbrev Engines := ReplayExecutionConfig → List HistoricalMarketEvent → HistoricalMarketEvent →
  Option Analysis

/-- `ReplayWalkForwardFoldResult` -/
structure ReplayWalkForwardFoldResult where
  foldIndex : ℕ
  trainStart : ℕ
  trainEnd : ℕ
  testStart : ℕ
  testEnd : ℕ
  selectedVariantId : String
  trainNetPnlByVariant : List (String × Option ℚ)
  selectionArtifactSha256 : String
  testTradeCount : ℕ
  testNetPnl : Option ℚ

/-- `ReplayWalkForwardResult` -/
structure ReplayWalkForwardResult where
  datasetSha256 : String
  variantIds : List String
  folds : List ReplayWalkForwardFoldResult
  oosTrades : List BacktestTrade
  oosEconomicResult : Option EconomicBacktestResult

/-- The order of `min(eligible, key=lambda item: (-item[1], item[0]))`. -/
def Better (c : Context) (a b : String × ℚ) : Prop :=
  c.minus a.2 < c.minus b.2 ∨ c.minus a.2 = c.minus b.2 ∧ a.1 < b.1

instance (c : Context) (a b : String × ℚ) : Decidable (Better c a b) :=
  inferInstanceAs (Decidable (_ ∨ _ ∧ _))

/-- The first of the best ones. -/
def best (c : Context) : List (String × ℚ) → Option (String × ℚ)
  | [] => none
  | item :: items =>
    some (items.foldl (fun best item => if Better c item best then item else best) item)

/-! ### A run -/

section

variable (c : Context) (platform : Platform) (engines : Engines) (hashes : Hashes)

/-- The events of a window with what the engines make of them. -/
def observe (config : ReplayExecutionConfig) :
    List HistoricalMarketEvent → List HistoricalMarketEvent → List Observed
  | _, [] => []
  | seen, event :: events =>
    ⟨event, engines config seen event⟩ :: observe config (seen ++ [event]) events

/-- `run_replay` -/
def runReplay (events : List HistoricalMarketEvent) (config : ReplayExecutionConfig) :
    Except Failure ReplayResult :=
  run c config platform (observe engines config [] events)

/-- The selection of a fold, from its training events only. -/
def selectVariant (variants : List ReplayParameterVariant) (foldIndex : ℕ)
    (trainEvents : List HistoricalMarketEvent) : Except Failure SelectionArtifact := do
  let trainScores ← variants.mapM fun variant => do
    let trainResult ← runReplay c platform engines trainEvents variant.config
    return (variant.variantId, trainResult.economicResult.map EconomicBacktestResult.netPnl)
  match best c (trainScores.filterMap fun score => score.2.map fun netPnl => (score.1, netPnl)) with
  | none =>
    throw (.validation ("walk-forward fold " ++ toString foldIndex ++
      " has no train replay economics"))
  | some selected =>
    return {
      foldIndex
      trainEventIds := trainEvents.map HistoricalMarketEvent.eventId
      trainDatasetSha256 := hashes.events trainEvents
      variantConfigSha256 :=
        variants.map fun variant => (variant.variantId, hashes.config variant.config)
      trainNetPnlByVariant := trainScores
      selectedVariantId := selected.1 }

/-- `normalized_events[start:end]` -/
def window (events : List HistoricalMarketEvent) (start stop : ℕ) : List HistoricalMarketEvent :=
  (events.take stop).drop start

/-- The body of the loop over the folds: the result of the fold and its trades. -/
def onFold (events : List HistoricalMarketEvent) (variants : List ReplayParameterVariant)
    (fold : EventWalkForwardFold) :
    Except Failure (ReplayWalkForwardFoldResult × List BacktestTrade) := do
  let selection ← selectVariant c platform engines hashes variants fold.foldIndex
    (window events fold.trainStart fold.trainEnd)
  match variants.find? fun variant => variant.variantId = selection.selectedVariantId with
  | none => throw (.value "StopIteration")
  | some variant =>
    let testResult ← runReplay c platform engines
        (window events fold.testStart fold.testEnd) variant.config
    let testTrades := testResult.recorded.trades.map fun trade =>
      { trade with tradeId := "WF" ++ toString fold.foldIndex ++ "-" ++ trade.tradeId }
    return ({
      foldIndex := fold.foldIndex
      trainStart := fold.trainStart
      trainEnd := fold.trainEnd
      testStart := fold.testStart
      testEnd := fold.testEnd
      selectedVariantId := selection.selectedVariantId
      trainNetPnlByVariant := selection.trainNetPnlByVariant
      selectionArtifactSha256 := hashes.selection selection
      testTradeCount := testTrades.length
      testNetPnl := testResult.economicResult.map EconomicBacktestResult.netPnl }, testTrades)

/-- `run_walk_forward_replay` -/
def runWalkForwardReplay (events : List HistoricalMarketEvent)
    (variants : List ReplayParameterVariant) (windowConfig : EventWalkForwardConfig) :
    Except Failure ReplayWalkForwardResult := do
  validateEventSequence events
  match variants with
  | [] => throw (.validation "walk-forward replay requires at least one parameter variant")
  | first :: rest =>
    let variantIds := (first :: rest).map ReplayParameterVariant.variantId
    if ¬ variantIds.Nodup then throw (.validation "walk-forward variant IDs must be unique")
    if ∃ variant ∈ rest, variant.config.initialCapital ≠ first.config.initialCapital ∨
        variant.config.costModel ≠ first.config.costModel then
      throw (.validation "walk-forward variants must share initial capital and economic cost model")
    let folds ← walkForwardEventSplits events windowConfig
    let results ← folds.mapM (onFold c platform engines hashes events (first :: rest))
    let oosTrades := results.flatMap Prod.snd
    let oosEconomicResult ← economics c first.config oosTrades
    return {
      datasetSha256 := hashes.events events
      variantIds
      folds := results.map Prod.fst
      oosTrades
      oosEconomicResult }

end

/-! ### Selection without leakage -/

section Selection

variable {c : Context} {platform : Platform} {engines : Engines} {hashes : Hashes}
  {events events' : List HistoricalMarketEvent} {variants : List ReplayParameterVariant}
  {windowConfig : EventWalkForwardConfig}

theorem checked_chrono (h : validateEventSequence events = .ok ()) :
    (events.map HistoricalMarketEvent.eventTime).Pairwise (· < ·) := by
  unfold validateEventSequence at h
  cases events with
  | nil => exact .nil
  | cons first rest =>
    obtain ⟨hchain, -⟩ := except_guard_ok.mp h
    have htimes : ((first :: rest).map HistoricalMarketEvent.eventTime).IsChain (· < ·) :=
      (List.isChain_map _).mpr (not_not.mp hchain)
    exact List.isChain_iff_pairwise.mp htimes

theorem splits_rounds {folds : List EventWalkForwardFold}
    (h : walkForwardEventSplits events windowConfig = .ok folds) :
    (events.map HistoricalMarketEvent.eventTime).Pairwise (· < ·) ∧
      Rounds windowConfig (events.map HistoricalMarketEvent.eventTime) 0 0 folds := by
  unfold walkForwardEventSplits at h
  obtain ⟨u, hvalid, h⟩ := except_bind_ok.mp h
  refine ⟨checked_chrono hvalid, ?_⟩
  split at h
  · next fold rest hfolds =>
    cases h
    exact eventFolds_rounds hfolds
  · cases h
  · cases h

/-- The folds of a result are those of the split, each with its selection. -/
theorem folds_ok {result : ReplayWalkForwardResult}
    (h : runWalkForwardReplay c platform engines hashes events variants windowConfig = .ok result) :
    ∃ folds results, walkForwardEventSplits events windowConfig = .ok folds ∧
      List.Forall₂ (fun fold r => onFold c platform engines hashes events variants fold =
        .ok r) folds results ∧
      result.folds = results.map Prod.fst ∧ result.oosTrades = results.flatMap Prod.snd := by
  unfold runWalkForwardReplay at h
  obtain ⟨-, -, h⟩ := except_bind_ok.mp h
  cases variants with
  | nil => cases h
  | cons first rest =>
    obtain ⟨-, h⟩ := except_guard_ok.mp h
    obtain ⟨-, h⟩ := except_guard_ok.mp h
    obtain ⟨folds, hfolds, h⟩ := except_bind_ok.mp h
    obtain ⟨results, hresults, h⟩ := except_bind_ok.mp h
    obtain ⟨oos, -, h⟩ := except_bind_ok.mp h
    cases h
    exact ⟨folds, results, hfolds, except_mapM_ok.mp hresults, rfl, rfl⟩

theorem onFold_selection {fold : EventWalkForwardFold}
    {r : ReplayWalkForwardFoldResult × List BacktestTrade}
    (h : onFold c platform engines hashes events variants fold = .ok r) :
    ∃ selection, selectVariant c platform engines hashes variants fold.foldIndex
        (window events fold.trainStart fold.trainEnd) = .ok selection ∧
      r.1.selectedVariantId = selection.selectedVariantId ∧
      r.1.selectionArtifactSha256 = hashes.selection selection := by
  unfold onFold at h
  obtain ⟨selection, hselection, h⟩ := except_bind_ok.mp h
  refine ⟨selection, hselection, ?_⟩
  split at h
  · cases h
  · obtain ⟨test, -, h⟩ := except_bind_ok.mp h
    cases h
    exact ⟨rfl, rfl⟩

theorem forall₂_getElem {α β : Type} {R : α → β → Prop} {as : List α} {bs : List β}
    (h : List.Forall₂ R as bs) {k : ℕ} {a : α} {b : β} (ha : as[k]? = some a)
    (hb : bs[k]? = some b) : R a b := by
  obtain ⟨ha', rfl⟩ := List.getElem?_eq_some_iff.mp ha
  obtain ⟨hb', rfl⟩ := List.getElem?_eq_some_iff.mp hb
  exact h.get ha' hb'

/-- Two runs select alike in a fold if they agree on the events before the end of its training. -/
theorem selection_agrees {result result' : ReplayWalkForwardResult}
    (h : runWalkForwardReplay c platform engines hashes events variants windowConfig = .ok result)
    (h' : runWalkForwardReplay c platform engines hashes events' variants windowConfig =
      .ok result') {folds : List EventWalkForwardFold}
    (hsplit : walkForwardEventSplits events windowConfig = .ok folds) {k : ℕ}
    {fold : EventWalkForwardFold} (hfold : folds[k]? = some fold)
    (hagree : (events.filter fun e => e.eventTime < fold.trainEndTime) =
      events'.filter fun e => e.eventTime < fold.trainEndTime) {r r' : ReplayWalkForwardFoldResult}
    (hr : result.folds[k]? = some r) (hr' : result'.folds[k]? = some r') :
    r.selectedVariantId = r'.selectedVariantId ∧
    r.selectionArtifactSha256 = r'.selectionArtifactSha256 := by
  obtain ⟨folds₁, results, hfolds, hresults, hresult, -⟩ := folds_ok h
  obtain ⟨folds', results', hfolds', hresults', hresult', -⟩ := folds_ok h'
  obtain rfl : folds₁ = folds := Except.ok.inj (hfolds.symm.trans hsplit)
  obtain ⟨hchrono, hrounds⟩ := splits_rounds hfolds
  obtain ⟨hchrono', hrounds'⟩ := splits_rounds hfolds'
  -- the fold of the second run
  rw [hresult, List.getElem?_map] at hr
  rw [hresult', List.getElem?_map] at hr'
  obtain ⟨pair, hpair, rfl⟩ := Option.map_eq_some_iff.mp hr
  obtain ⟨pair', hpair', rfl⟩ := Option.map_eq_some_iff.mp hr'
  have hlength : k < folds'.length :=
    hresults'.length_eq ▸ (List.getElem?_eq_some_iff.mp hpair').1
  have hfold' := List.getElem?_eq_getElem hlength
  obtain ⟨n, hcommon, htake⟩ := common_of_filter hchrono hchrono' hagree
  obtain ⟨hindex, hstart, hend, hend'⟩ :=
    rounds_agree hchrono hchrono' hcommon hrounds hrounds' hfold hfold' rfl
  obtain ⟨selection, hselection, hid, hhash⟩ :=
    onFold_selection (forall₂_getElem hresults hfold hpair)
  obtain ⟨selection', hselection', hid', hhash'⟩ :=
    onFold_selection (forall₂_getElem hresults' hfold' hpair')
  have hsame : selection = selection' := by
    rw [hindex, hstart, hend', window, ← htake] at hselection'
    rw [hend, window] at hselection
    exact Except.ok.inj (hselection.symm.trans hselection')
  rw [hid, hid', hhash, hhash', hsame]
  exact ⟨rfl, rfl⟩

end Selection

/-- **Walk-forward splits never leak**: the loops end, the windows of all folds are in order, and
what is selected in a fold depends on the events before the end of its training only. -/
theorem walk_forward_never_leaks (c : Context) (platform : Platform) (engines : Engines)
    (hashes : Hashes) :
    (∀ (events : List HistoricalMarketEvent) (config : EventWalkForwardConfig),
      validateEventSequence events = .ok () →
      ∃ folds, eventFolds config (events.map HistoricalMarketEvent.eventTime)
        (events.length + 1) 0 0 =
        some folds) ∧
    (∀ events config folds, walkForwardEventSplits events config = .ok folds →
      NoLeak config (events.map HistoricalMarketEvent.eventTime) folds) ∧
    (∀ (config : WalkForwardConfig) (count : ℕ), ∃ folds,
      recordFolds config count (count + 1) 0 0 = some folds) ∧
    (∀ records config folds, walkForwardSplits records config = .ok folds →
      NoLeakRecords config records.length folds) ∧
    ∀ (events events' : List HistoricalMarketEvent) (variants : List ReplayParameterVariant)
      (windowConfig : EventWalkForwardConfig) (result result' : ReplayWalkForwardResult)
      (folds : List EventWalkForwardFold) (k : ℕ) (fold : EventWalkForwardFold)
      (r r' : ReplayWalkForwardFoldResult),
      runWalkForwardReplay c platform engines hashes events variants windowConfig = .ok result →
      runWalkForwardReplay c platform engines hashes events' variants windowConfig = .ok result' →
      walkForwardEventSplits events windowConfig = .ok folds → folds[k]? = some fold →
      ((events.filter fun e => e.eventTime < fold.trainEndTime) =
        events'.filter fun e => e.eventTime < fold.trainEndTime) →
      result.folds[k]? = some r → result'.folds[k]? = some r' →
      r.selectedVariantId = r'.selectedVariantId ∧
      r.selectionArtifactSha256 = r'.selectionArtifactSha256 := by
  refine ⟨?_, ?_, ?_, ?_, ?_⟩
  · intro events config hvalid
    exact eventFolds_total (checked_chrono hvalid) (Nat.zero_le _) (by rw [List.length_map]; omega)
  · intro events config folds h
    obtain ⟨hchrono, hrounds⟩ := splits_rounds h
    exact rounds_noLeak hchrono hrounds
  · intro config count
    exact recordFolds_total (by omega) (by omega)
  · intro records config folds h
    unfold walkForwardSplits at h
    obtain ⟨-, h⟩ := except_guard_ok.mp h
    split at h
    · cases h
    · obtain ⟨-, h⟩ := except_guard_ok.mp h
      split at h
      · next fold rest hfolds =>
        cases h
        exact recordFolds_noLeak hfolds
      · cases h
      · cases h
  · intro events events' variants windowConfig result result' folds k fold r r' h h' hsplit
      hfold hagree hr hr'
    exact selection_agrees h h' hsplit hfold hagree hr hr'

/-! ### Two folds -/

/-- An event at a minute. -/
def minuteEvent (minute : ℕ) : HistoricalMarketEvent :=
  { sampleEvent with eventId := "event-" ++ toString minute, eventTime := minute * 60000000 }

/-- In every window the second event makes a strategy buy; at the first one the price action has no
state yet. -/
def sampleEngines : Engines := fun _ seen event =>
  if seen.length = 1 then
    some ⟨"R0", fun _ => [{ sampleIntent with timestamp := ⟨event.eventTime, true⟩ }]⟩
  else none

def sampleHashes : Hashes :=
  ⟨fun events => toString events.length, fun _ => "config", fun s => s.selectedVariantId⟩

def sampleVariants : List ReplayParameterVariant :=
  [⟨"V", sampleConfig (1 / 1000) tick_pos, by decide⟩]

/-- Two minutes of training, two of testing. -/
def sampleWindows : EventWalkForwardConfig where
  trainDurationSec := 120
  testDurationSec := 120
  positive := by decide

def sampleEvents : List HistoricalMarketEvent := (List.range 8).map minuteEvent

/-- The last event is a later one. -/
def otherEvents : List HistoricalMarketEvent := (List.range 7).map minuteEvent ++ [minuteEvent 9]

/-- What is selected in the folds of a run. -/
def selections (events : List HistoricalMarketEvent) : Option (List String) :=
  (runWalkForwardReplay .default samplePlatform sampleEngines sampleHashes events sampleVariants
    sampleWindows).toOption.map fun result =>
      result.folds.map ReplayWalkForwardFoldResult.selectedVariantId

theorem result_of_selections {events : List HistoricalMarketEvent} {v w : String}
    (h : selections events = some [v, w]) : ∃ result r,
      runWalkForwardReplay .default samplePlatform sampleEngines sampleHashes events sampleVariants
        sampleWindows = .ok result ∧ result.folds[1]? = some r := by
  unfold selections at h
  cases hrun :
    runWalkForwardReplay .default samplePlatform sampleEngines sampleHashes events sampleVariants
      sampleWindows with
  | error e =>
    rw [hrun] at h
    cases h
  | ok result =>
    rw [hrun] at h
    have hids : result.folds.map ReplayWalkForwardFoldResult.selectedVariantId = [v, w] :=
      Option.some.inj h
    have hlength : result.folds.length = 2 := by
      rw [← List.length_map ReplayWalkForwardFoldResult.selectedVariantId, hids]
      rfl
    exact ⟨result, result.folds[1], rfl, List.getElem?_eq_getElem (by omega)⟩

/-- The second fold of two runs that agree on its past. -/
theorem walk_forward_never_leaks_sample : ∃ folds result result' r r',
    walkForwardEventSplits sampleEvents sampleWindows = .ok folds ∧
    NoLeak sampleWindows (sampleEvents.map HistoricalMarketEvent.eventTime) folds ∧
    runWalkForwardReplay .default samplePlatform sampleEngines sampleHashes
      sampleEvents sampleVariants
      sampleWindows = .ok result ∧
    runWalkForwardReplay .default samplePlatform sampleEngines sampleHashes
      otherEvents sampleVariants
      sampleWindows = .ok result' ∧
    result.folds[1]? = some r ∧ result'.folds[1]? = some r' ∧
    r.selectedVariantId = r'.selectedVariantId := by
  obtain ⟨-, hnoLeak, -, -, hselects⟩ :=
    walk_forward_never_leaks .default samplePlatform sampleEngines sampleHashes
  obtain ⟨result, r, hresult, hr⟩ := result_of_selections
    (show selections sampleEvents = some ["V", "V"] by decide +kernel)
  obtain ⟨result', r', hresult', hr'⟩ := result_of_selections
    (show selections otherEvents = some ["V", "V"] by decide +kernel)
  obtain ⟨folds, results, hfolds, -⟩ := folds_ok hresult
  have hend : folds[1]?.map EventWalkForwardFold.trainEndTime = some 360000000 := by
    have hsplit : (walkForwardEventSplits sampleEvents sampleWindows).toOption.map
        (fun folds => folds[1]?.map EventWalkForwardFold.trainEndTime) = some (some 360000000) := by
      decide +kernel
    rw [hfolds] at hsplit
    exact Option.some.inj hsplit
  obtain ⟨fold, hfold, hend⟩ := Option.map_eq_some_iff.mp hend
  have hselected :=
    hselects sampleEvents otherEvents sampleVariants sampleWindows result result' folds 1 fold r r'
    hresult hresult' hfolds hfold (by rw [hend]; rfl) hr hr'
  exact ⟨folds, result, result', r, r', hfolds, hnoLeak _ _ _ hfolds, hresult, hresult', hr,
    hr', hselected.1⟩

end Blessing.Backtest.WalkForwardReplay
