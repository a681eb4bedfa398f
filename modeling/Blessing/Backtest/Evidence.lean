import Blessing.Backtest.WalkForward
import Mathlib.Data.List.Dedup

/-! # Walk-forward evidence

`backtest/evidence.py`: the verdict on research trades. The trades in the test windows are evaluated
fold by fold and together, and the verdict is passed only if the result is positive, enough folds
are, all regimes are known and the required ones occur, the neighbouring parameter variants form a
plateau on all folds, and every fold has its record of a selection on the training window.

* `evaluation_ok`: what an evaluation that returns has computed.
* `testTrades_eq`: the trades of the folds are those whose index is in a test window.
* `passing_verdict_backed_iff`: what a passing verdict is backed by.
* `verdict_perm`: the order of the variants and of the selection records does not matter. -/

namespace Blessing.Backtest.Evidence

open Blessing.Lib Blessing.Lib.Rounding Blessing.Lib.Effects
open Blessing.Engines.Intents (normalized)
open Blessing.Backtest.Economic Blessing.Backtest.WalkForward

/-! ### Records -/

/-- `ParameterVariantResult` -/
structure ParameterVariantResult where
  variantId : String
  oosNetReturnPct : ℚ
  oosAverageNetPnl : ℚ
  maxDrawdownPct : ℚ
  oosTradeCount : ℕ
  adjacentToBaseline : Bool := true
  evaluatedOosFoldIndices : List ℕ := []
  /-- what the constructor checks -/
  valid : variantId ≠ "" ∧ 0 ≤ maxDrawdownPct ∧ 0 < oosTradeCount ∧ evaluatedOosFoldIndices.Nodup
  deriving DecidableEq

/-- A hexadecimal digit of either case. -/
def isHexDigit (ch : Char) : Bool :=
  ('0' ≤ ch && ch ≤ '9') || ('a' ≤ ch && ch ≤ 'f') || ('A' ≤ ch && ch ≤ 'F')

/-- `WalkForwardSelectionEvidence` -/
structure WalkForwardSelectionEvidence where
  foldIndex : ℕ
  trainStart : ℕ
  trainEnd : ℕ
  selectedVariantId : String
  selectionArtifactSha256 : String
  /-- what the constructor checks -/
  valid : 0 < trainEnd ∧ selectedVariantId ≠ "" ∧ selectionArtifactSha256.length = 64 ∧
    selectionArtifactSha256.toList.all isHexDigit = true
  deriving DecidableEq

/-- `WalkForwardFoldEvidence` -/
structure WalkForwardFoldEvidence where
  foldIndex : ℕ
  trainStart : ℕ
  trainEnd : ℕ
  testStart : ℕ
  testEnd : ℕ
  oosTradeCount : ℕ
  oosNetPnl : ℚ
  oosNetReturnPct : ℚ
  positiveNetExpectancy : Bool
  deriving DecidableEq

/-- `WalkForwardEvidence` -/
structure WalkForwardEvidence where
  strategyId : String
  symbol : String
  dataSource : String
  initialCapital : ℚ
  foldCount : ℕ
  oosTradeCount : ℕ
  oosNetPnl : ℚ
  oosNetReturnPct : ℚ
  oosAverageNetPnl : ℚ
  positiveOosExpectancy : Bool
  positiveFoldCount : ℕ
  positiveFoldRatio : ℚ
  maxOosDrawdownPct : ℚ
  observedRegimes : List String
  unknownOosTradeCount : ℕ
  requiredRegimes : List String
  regimeCoveragePassed : Bool
  parameterPlateauPassed : Bool
  parameterOosCoveragePassed : Bool
  selectionEvidenceVerified : Bool
  researchQualityPassed : Bool
  folds : List WalkForwardFoldEvidence
  parameterVariants : List ParameterVariantResult
  selectionEvidence : List WalkForwardSelectionEvidence

/-- The arguments of `evaluate_walk_forward_evidence`. -/
structure Request where
  trades : List BacktestTrade
  config : WalkForwardConfig
  initialCapital : ℚ
  costModel : EconomicCostModel
  requiredRegimes : List String
  parameterVariants : List ParameterVariantResult
  selectionEvidence : List WalkForwardSelectionEvidence := []
  minFolds : ℤ := 3
  minPositiveFoldRatio : ℚ := 67 / 100
  minPlateauVariants : ℤ := 3
  maxPlateauReturnSpreadPct : ℚ := 5

/-! ### The plateau of the parameters -/

section

variable (c : Context)

/-- The variants next to the baseline. -/
def adjacentVariants (variants : List ParameterVariantResult) : List ParameterVariantResult :=
  variants.filter (·.adjacentToBaseline)

/-- The variants with a positive average. -/
def positiveVariants (variants : List ParameterVariantResult) : List ParameterVariantResult :=
  variants.filter fun v => 0 < v.oosAverageNetPnl

/-- `max(returns) - min(returns)` -/
def returnSpread (variants : List ParameterVariantResult) : ℚ :=
  let returns := variants.map ParameterVariantResult.oosNetReturnPct
  c.sub (returns.max?.getD 0) (returns.min?.getD 0)

/-- `parameter_plateau_passes` -/
def parameterPlateauPasses (variants : List ParameterVariantResult) (minVariants : ℤ)
    (minPositiveRatio maxReturnSpreadPct : ℚ) : Except Failure Bool := do
  if minVariants < 1 then throw (.value "min_variants must be positive")
  if ¬ (0 < minPositiveRatio ∧ minPositiveRatio ≤ 1) then
    throw (.value "min_positive_ratio must be in (0, 1]")
  if maxReturnSpreadPct < 0 then throw (.value "max_return_spread_pct must be non-negative")
  let adjacent := adjacentVariants variants
  if adjacent.length < minVariants then return false
  if c.div (positiveVariants adjacent).length adjacent.length < minPositiveRatio then return false
  return returnSpread c adjacent ≤ maxReturnSpreadPct

/-! ### The verdict -/

/-- The loop over the folds: the trades in the test window of a fold, and their evaluation. -/
def onFold (r : Request) (fold : WalkForwardFold) :
    Except Failure (List BacktestTrade × WalkForwardFoldEvidence) := do
  let foldTrades := (r.trades.take fold.testEnd).drop fold.testStart
  if foldTrades = [] then
    throw (.value ("walk-forward fold " ++ toString fold.foldIndex ++ " has no OOS trades"))
  let foldResult ← evaluateTrades c foldTrades r.initialCapital r.costModel
  return (foldTrades,
    { foldIndex := fold.foldIndex
      trainStart := fold.trainStart
      trainEnd := fold.trainEnd
      testStart := fold.testStart
      testEnd := fold.testEnd
      oosTradeCount := foldResult.tradeCount
      oosNetPnl := foldResult.netPnl
      oosNetReturnPct := foldResult.netReturnPct
      positiveNetExpectancy := foldResult.positiveNetExpectancy })

/-- `selection_by_fold[index]`: of several records of one fold the last one. -/
def selectionByFold (selectionEvidence : List WalkForwardSelectionEvidence) (index : ℕ) :
    Option WalkForwardSelectionEvidence :=
  selectionEvidence.reverse.find? fun s => s.foldIndex == index

/-- `selection_evidence_verified` -/
def selectionEvidenceVerified (variants : List ParameterVariantResult)
    (selectionEvidence : List WalkForwardSelectionEvidence) (folds : List WalkForwardFold) : Bool :=
  let keys := (selectionEvidence.map WalkForwardSelectionEvidence.foldIndex).dedup
  keys.length == selectionEvidence.length && selectionEvidence.length == folds.length &&
    (keys.all fun k => k < folds.length) &&
    ((List.range folds.length).all fun k => keys.contains k) &&
    folds.zipIdx.all fun p =>
      (selectionByFold selectionEvidence p.2).any fun s =>
        variants.any (fun v => v.variantId == s.selectedVariantId) &&
          s.trainStart == p.1.trainStart &&
          s.trainEnd == p.1.trainEnd

/-- `parameter_oos_coverage_passed`: the fold indices of every adjacent variant, sorted, count the
folds. -/
def parameterOosCoveragePassed (variants : List ParameterVariantResult) (foldCount : ℕ) : Bool :=
  !(adjacentVariants variants).isEmpty &&
    (adjacentVariants variants).all fun v =>
      v.evaluatedOosFoldIndices.mergeSort == List.range foldCount

/-- `evaluate_walk_forward_evidence` -/
def evaluateWalkForwardEvidence (r : Request) : Except Failure WalkForwardEvidence := do
  if r.minFolds < 1 then throw (.value "min_folds must be positive")
  if ¬ (0 < r.minPositiveFoldRatio ∧ r.minPositiveFoldRatio ≤ 1) then
    throw (.value "min_positive_fold_ratio must be in (0, 1]")
  let normalizedRegimes := (r.requiredRegimes.map normalized).eraseDups
  if normalizedRegimes = [] ∨ "" ∈ normalizedRegimes then
    throw (.value "required_regimes must contain at least one named regime")
  match r.trades with
  | [] => throw (.value "at least one research trade is required")
  | first :: _ =>
    if ¬ ∀ t ∈ r.trades, t.strategyId = first.strategyId ∧ t.symbol = first.symbol ∧
        t.dataSource = first.dataSource then
      throw (.value "walk-forward evidence requires one strategy, symbol, and data source")
    let folds ← walkForwardSplits (r.trades.map fun t => some t.timestamp) r.config
    if folds.length < r.minFolds then
      throw (.value ("at least " ++ toString r.minFolds ++ " walk-forward folds are required"))
    let results ← folds.mapM (onFold c r)
    let oosTrades := results.flatMap (·.1)
    let foldEvidence := results.map (·.2)
    let oosResult ← evaluateTrades c oosTrades r.initialCapital r.costModel
    let positiveFoldCount := foldEvidence.countP (·.positiveNetExpectancy)
    let positiveFoldRatio := c.div positiveFoldCount foldEvidence.length
    let observedRegimes :=
      ((oosTrades.map BacktestTrade.regime).filter (· ≠ "UNKNOWN")).dedup.mergeSort
    let unknownOosTradeCount := oosTrades.countP fun t => t.regime = "UNKNOWN"
    let regimeCoveragePassed := normalizedRegimes.all observedRegimes.contains
    let plateauPassed ← parameterPlateauPasses c r.parameterVariants r.minPlateauVariants (67 / 100)
      r.maxPlateauReturnSpreadPct
    let coveragePassed := parameterOosCoveragePassed r.parameterVariants foldEvidence.length
    let selectionVerified := selectionEvidenceVerified r.parameterVariants r.selectionEvidence folds
    return {
      strategyId := first.strategyId
      symbol := first.symbol
      dataSource := oosResult.dataSource
      initialCapital := oosResult.initialCapital
      foldCount := foldEvidence.length
      oosTradeCount := oosResult.tradeCount
      oosNetPnl := oosResult.netPnl
      oosNetReturnPct := oosResult.netReturnPct
      oosAverageNetPnl := oosResult.averageNetPnl
      positiveOosExpectancy := oosResult.positiveNetExpectancy
      positiveFoldCount
      positiveFoldRatio
      maxOosDrawdownPct := oosResult.maxDrawdownPct
      observedRegimes
      unknownOosTradeCount
      requiredRegimes := normalizedRegimes
      regimeCoveragePassed
      parameterPlateauPassed := plateauPassed
      parameterOosCoveragePassed := coveragePassed
      selectionEvidenceVerified := selectionVerified
      researchQualityPassed :=
        oosResult.positiveNetExpectancy && r.minPositiveFoldRatio ≤ positiveFoldRatio &&
          unknownOosTradeCount == 0 && regimeCoveragePassed && plateauPassed && coveragePassed &&
          selectionVerified
      folds := foldEvidence
      parameterVariants := r.parameterVariants
      selectionEvidence := r.selectionEvidence }

end

/-! ### What has been evaluated -/

variable {c : Context} {r : Request} {ev : WalkForwardEvidence}

theorem positiveNetExpectancy_iff {trades : List BacktestTrade} {capital : ℚ}
    {m : EconomicCostModel} {result : EconomicBacktestResult}
    (h : evaluateTrades .exact trades capital m = .ok result) :
    result.positiveNetExpectancy = true ↔ 0 < result.netPnl := by
  unfold evaluateTrades at h
  obtain ⟨-, h⟩ := except_guard_ok.mp h
  cases trades with
  | nil => cases h
  | cons first rest =>
    obtain ⟨-, -, h⟩ := except_bind_ok.mp h
    rw [← Except.ok.inj h]
    have hlength : (0 : ℚ) < ((first :: rest).map (costTrade .exact m)).length := by
      rw [List.length_map, List.length_cons]
      positivity
    exact decide_eq_true_iff.trans (div_pos_iff_of_pos_right hlength)

theorem onFold_ok {fold : WalkForwardFold} {p : List BacktestTrade × WalkForwardFoldEvidence}
    (h : onFold c r fold = .ok p) :
    p.1 = (r.trades.take fold.testEnd).drop fold.testStart ∧ p.1 ≠ [] ∧
    (p.2.foldIndex = fold.foldIndex ∧ p.2.trainStart = fold.trainStart ∧
      p.2.trainEnd = fold.trainEnd ∧
      p.2.testStart = fold.testStart ∧ p.2.testEnd = fold.testEnd) ∧
    ∃ result, evaluateTrades c p.1 r.initialCapital r.costModel = .ok result ∧
      p.2.oosNetPnl = result.netPnl ∧ p.2.positiveNetExpectancy = result.positiveNetExpectancy := by
  unfold onFold at h
  obtain ⟨hne, h⟩ := except_guard_ok.mp h
  obtain ⟨result, hresult, h⟩ := except_bind_ok.mp h
  cases h
  exact ⟨rfl, hne, ⟨rfl, rfl, rfl, rfl, rfl⟩, result, hresult, rfl, rfl⟩

theorem walkForwardSplits_ok {records : List (Option ℤ)} {config : WalkForwardConfig}
    {folds : List WalkForwardFold} (h : walkForwardSplits records config = .ok folds) :
    NoLeakRecords config records.length folds ∧ folds ≠ [] := by
  unfold walkForwardSplits at h
  obtain ⟨-, h⟩ := except_guard_ok.mp h
  split at h
  · cases h
  · obtain ⟨-, h⟩ := except_guard_ok.mp h
    split at h
    · next hfolds =>
      cases h
      exact ⟨recordFolds_noLeak hfolds, List.cons_ne_nil _ _⟩
    · cases h
    · cases h

theorem regimes_covered_iff {trades : List BacktestTrade} {requiredRegimes : List String} :
    ((requiredRegimes.map normalized).eraseDups.all
        (((trades.map BacktestTrade.regime).filter (· ≠ "UNKNOWN")).dedup.mergeSort).contains) =
        true ↔
      ∀ regime ∈ requiredRegimes, ∃ t ∈ trades, t.regime = normalized regime ∧
      t.regime ≠ "UNKNOWN" := by
  simp only [List.all_eq_true, List.contains_iff_mem, List.mem_mergeSort, List.mem_dedup,
    List.mem_filter,
    List.mem_map, List.mem_eraseDups, decide_eq_true_eq, forall_exists_index, and_imp,
    forall_apply_eq_imp_iff₂]
  constructor
  · intro h regime hregime
    obtain ⟨⟨t, ht, heq⟩, hne⟩ := h regime hregime
    exact ⟨t, ht, heq, heq ▸ hne⟩
  · intro h regime hregime
    obtain ⟨t, ht, heq, hne⟩ := h regime hregime
    exact ⟨⟨t, ht, heq⟩, heq ▸ hne⟩

/-- **The evaluation**: the folds, what they give, the evaluation of all their trades and the
plateau, and the verdict made of them. -/
theorem evaluation_ok (h : evaluateWalkForwardEvidence c r = .ok ev) :
    ∃ folds results oosResult plateau,
      walkForwardSplits (r.trades.map fun t => some t.timestamp) r.config = .ok folds ∧
      List.Forall₂ (fun fold p => onFold c r fold = .ok p) folds results ∧
      evaluateTrades c (results.flatMap (·.1)) r.initialCapital r.costModel = .ok oosResult ∧
      parameterPlateauPasses c r.parameterVariants r.minPlateauVariants (67 / 100)
        r.maxPlateauReturnSpreadPct = .ok plateau ∧
      ev.folds = results.map (·.2) ∧ ev.oosNetPnl = oosResult.netPnl ∧
      (ev.researchQualityPassed = true ↔
        oosResult.positiveNetExpectancy = true ∧
        r.minPositiveFoldRatio ≤
          c.div ((results.map (·.2)).countP (·.positiveNetExpectancy)) (results.map (·.2)).length ∧
        (∀ t ∈ results.flatMap (·.1), t.regime ≠ "UNKNOWN") ∧
        (∀ regime ∈ r.requiredRegimes, ∃ t ∈ results.flatMap (·.1), t.regime = normalized regime) ∧
        plateau = true ∧
        parameterOosCoveragePassed r.parameterVariants (results.map (·.2)).length = true ∧
        selectionEvidenceVerified r.parameterVariants r.selectionEvidence folds = true) := by
  unfold evaluateWalkForwardEvidence at h
  obtain ⟨-, h⟩ := except_guard_ok.mp h
  obtain ⟨-, h⟩ := except_guard_ok.mp h
  obtain ⟨-, h⟩ := except_guard_ok.mp h
  split at h
  · cases h
  · obtain ⟨-, h⟩ := except_guard_ok.mp h
    obtain ⟨folds, hfolds, h⟩ := except_bind_ok.mp h
    obtain ⟨-, h⟩ := except_guard_ok.mp h
    obtain ⟨results, hresults, h⟩ := except_bind_ok.mp h
    obtain ⟨oosResult, hoos, h⟩ := except_bind_ok.mp h
    obtain ⟨plateau, hplateau, h⟩ := except_bind_ok.mp h
    cases h
    refine ⟨folds, results, oosResult, plateau, hfolds, except_mapM_ok.mp hresults, hoos, hplateau,
      rfl, rfl, ?_⟩
    simp only [Bool.and_eq_true, decide_eq_true_eq, beq_iff_eq, regimes_covered_iff,
      List.countP_eq_zero]
    constructor
    · rintro ⟨⟨⟨⟨⟨⟨hpositive, hratio⟩, hknown⟩, hregimes⟩, hplateau⟩, hcoverage⟩, hselection⟩
      refine ⟨hpositive, hratio, hknown, fun regime hregime => ?_, hplateau, hcoverage, hselection⟩
      obtain ⟨t, ht, heq, -⟩ := hregimes regime hregime
      exact ⟨t, ht, heq⟩
    · rintro ⟨hpositive, hratio, hknown, hregimes, hplateau, hcoverage, hselection⟩
      refine ⟨⟨⟨⟨⟨⟨hpositive, hratio⟩, hknown⟩, fun regime hregime => ?_⟩, hplateau⟩, hcoverage⟩,
        hselection⟩
      obtain ⟨t, ht, heq⟩ := hregimes regime hregime
      exact ⟨t, ht, heq, hknown t ht⟩

/-! ### The trades in the test windows -/

/-- The index is in one of the windows. -/
def inside (windows : List (ℕ × ℕ)) (i : ℕ) : Bool := windows.any fun w => w.1 ≤ i && i < w.2

/-- The trades whose index is in the test window of a fold. -/
def testTrades (trades : List BacktestTrade) (folds : List WalkForwardFoldEvidence) :
    List BacktestTrade :=
  (trades.zipIdx.filter fun p => inside (folds.map fun f => (f.testStart, f.testEnd)) p.2).map (·.1)

theorem filter_from {α : Type} (l : List α) (k a : ℕ) :
    ((l.zipIdx k).filter fun p => a ≤ p.2).map (·.1) = l.drop (a - k) := by
  induction l generalizing k with
  | nil => simp
  | cons x l ih =>
    rw [List.zipIdx_cons, List.filter_cons]
    by_cases ha : a ≤ k
    · have hall : ∀ p ∈ l.zipIdx (k + 1), decide (a ≤ p.2) = true := by
        intro p hp
        have := List.le_snd_of_mem_zipIdx hp
        exact decide_eq_true (by omega)
      rw [if_pos (decide_eq_true ha), List.filter_eq_self.mpr hall, Nat.sub_eq_zero_of_le ha,
        List.drop_zero, List.map_cons]
      exact congrArg (x :: ·) (List.zipIdx_map_fst (k + 1) l)
    · rw [if_neg (by simpa using ha), ih, show a - k = a - (k + 1) + 1 by omega,
        List.drop_succ_cons]

/-- Windows one after the other take the elements whose index is in one of them. -/
theorem windows_eq {α : Type} {windows : List (ℕ × ℕ)} (hordered : Ordered windows) (l : List α)
    (k : ℕ) (hbounds : ∀ w ∈ windows, k ≤ w.1 ∧ w.1 ≤ w.2 ∧ w.2 ≤ k + l.length) :
    windows.flatMap (fun w => (l.take (w.2 - k)).drop (w.1 - k)) =
      ((l.zipIdx k).filter fun p => inside windows p.2).map (·.1) := by
  induction windows generalizing l k with
  | nil => simp [inside]
  | cons w ws ih =>
    obtain ⟨hafter, hordered⟩ := List.pairwise_cons.mp hordered
    obtain ⟨hstart, hw, hend⟩ := hbounds w List.mem_cons_self
    have hlength : (l.take (w.2 - k)).length = w.2 - k := List.length_take_of_le (by omega)
    have hsplit : l.zipIdx k = (l.take (w.2 - k)).zipIdx k ++ (l.drop (w.2 - k)).zipIdx w.2 := by
      conv_lhs => rw [← List.take_append_drop (w.2 - k) l, List.zipIdx_append, hlength]
      rw [show k + (w.2 - k) = w.2 by omega]
    -- before the end of the first window only this window counts, behind it only the others
    have hbefore : ((l.take (w.2 - k)).zipIdx k).filter (fun p => inside (w :: ws) p.2) =
        ((l.take (w.2 - k)).zipIdx k).filter fun p => w.1 ≤ p.2 := by
      refine List.filter_congr fun p hp => ?_
      have hlt := List.snd_lt_add_of_mem_zipIdx hp
      rw [hlength] at hlt
      have hothers : inside ws p.2 = false := by
        rw [inside, List.any_eq_false]
        intro v hv
        have := hafter v hv
        simp only [Bool.and_eq_true, decide_eq_true_eq]
        omega
      have hfirst : decide (p.2 < w.2) = true := decide_eq_true (by omega)
      rw [inside, List.any_cons, hfirst, Bool.and_true]
      exact (congrArg (_ || ·) hothers).trans (Bool.or_false _)
    have hbehind : ((l.drop (w.2 - k)).zipIdx w.2).filter (fun p => inside (w :: ws) p.2) =
        ((l.drop (w.2 - k)).zipIdx w.2).filter fun p => inside ws p.2 := by
      refine List.filter_congr fun p hp => ?_
      have hge := List.le_snd_of_mem_zipIdx hp
      have hfirst : decide (p.2 < w.2) = false := decide_eq_false (by omega)
      rw [inside, List.any_cons, hfirst, Bool.and_false, Bool.false_or]
      rfl
    have hrest : ws.flatMap (fun v => (l.take (v.2 - k)).drop (v.1 - k)) =
        ws.flatMap fun v => ((l.drop (w.2 - k)).take (v.2 - w.2)).drop (v.1 - w.2) := by
      refine List.flatMap_congr fun v hv => ?_
      have hv₁ := hafter v hv
      have hv₂ := hbounds v (List.mem_cons_of_mem _ hv)
      rw [List.take_drop, List.drop_drop]
      congr 2 <;> omega
    rw [List.flatMap_cons, hsplit, List.filter_append, List.map_append, hbefore, hbehind,
      filter_from, hrest]
    refine congrArg₂ (· ++ ·) rfl (ih hordered _ _ fun v hv => ?_)
    have hv₁ := hafter v hv
    have hv₂ := hbounds v (List.mem_cons_of_mem _ hv)
    rw [List.length_drop]
    omega

/-! ### The plateau -/

section

variable {variants variants' : List ParameterVariantResult} {minVariants : ℤ} {ratio spread : ℚ}

/-- Of variants with one key the last one. -/
def distinctBy {κ : Type} [DecidableEq κ] (key : ParameterVariantResult → κ)
    (variants : List ParameterVariantResult) : List ParameterVariantResult :=
  variants.pwFilter fun v w => key v ≠ key w

/-- The distinct variants are among the variants, have distinct keys, and have every key. -/
theorem distinctBy_spec {κ : Type} [DecidableEq κ] (key : ParameterVariantResult → κ)
    (variants : List ParameterVariantResult) :
    (∀ v ∈ distinctBy key variants, v ∈ variants) ∧
      (distinctBy key variants).Pairwise (fun v w => key v ≠ key w) ∧
      ∀ v ∈ variants, ∃ w ∈ distinctBy key variants, key w = key v := by
  refine ⟨fun v hv => List.pwFilter_subset _ hv, List.pairwise_pwFilter _, fun v hv => ?_⟩
  by_contra hnone
  push Not at hnone
  have hall : ∀ w ∈ distinctBy key variants, key v ≠ key w := fun w hw h => hnone w hw h.symm
  have htrans : ∀ {x y z : ParameterVariantResult}, key x ≠ key z → key x ≠ key y ∨
      key y ≠ key z := by
    intro x y z h
    by_contra hno
    push Not at hno
    exact h (hno.1.trans hno.2)
  exact (List.forall_mem_pwFilter (R := fun v w => key v ≠ key w) (fun {x y z} => @htrans x y z) v
    variants).mp hall v hv rfl

theorem adjacentVariants_distinctBy {κ : Type} [DecidableEq κ] (key : ParameterVariantResult → κ)
    (variants : List ParameterVariantResult) :
    adjacentVariants (distinctBy key (adjacentVariants variants)) =
      distinctBy key (adjacentVariants variants) := by
  refine List.filter_eq_self.mpr fun v hv => ?_
  exact (List.mem_filter.mp ((distinctBy_spec key _).1 v hv)).2

theorem returnSpread_le_iff (hne : variants ≠ []) : returnSpread .exact variants ≤ spread ↔
    ∀ v ∈ variants, ∀ w ∈ variants, v.oosNetReturnPct - w.oosNetReturnPct ≤ spread := by
  obtain ⟨u, hu⟩ := List.exists_mem_of_ne_nil variants hne
  have hmem := List.mem_map_of_mem (f := ParameterVariantResult.oosNetReturnPct) hu
  obtain ⟨top, htop⟩ := Option.isSome_iff_exists.mp (List.isSome_max?_of_mem hmem)
  obtain ⟨low, hlow⟩ := Option.isSome_iff_exists.mp (List.isSome_min?_of_mem hmem)
  obtain ⟨htopmem, htople⟩ := List.max?_eq_some_iff.mp htop
  obtain ⟨hlowmem, hlowle⟩ := List.min?_eq_some_iff.mp hlow
  unfold returnSpread
  dsimp only
  rw [htop, hlow, Context.exact_sub, Option.getD_some, Option.getD_some]
  constructor
  · intro h v hv w hw
    have hv := htople _ (List.mem_map_of_mem hv)
    have hw := hlowle _ (List.mem_map_of_mem hw)
    linarith
  · intro h
    obtain ⟨v, hv, rfl⟩ := List.mem_map.mp htopmem
    obtain ⟨w, hw, rfl⟩ := List.mem_map.mp hlowmem
    exact h v hv w hw

theorem parameterPlateauPasses_iff :
    parameterPlateauPasses c variants minVariants ratio spread = .ok true ↔
    1 ≤ minVariants ∧ (0 < ratio ∧ ratio ≤ 1) ∧ 0 ≤ spread ∧
      minVariants ≤ (adjacentVariants variants).length ∧
      ratio ≤ c.div (positiveVariants (adjacentVariants variants)).length
        (adjacentVariants variants).length ∧
      returnSpread c (adjacentVariants variants) ≤ spread := by
  unfold parameterPlateauPasses
  simp only [except_guard_ok, not_lt, not_not]
  refine and_congr Iff.rfl (and_congr Iff.rfl (and_congr Iff.rfl ?_))
  by_cases hcount : ((adjacentVariants variants).length : ℤ) < minVariants
  · rw [if_pos hcount]
    exact ⟨fun h => absurd (Except.ok.inj h) (by decide), fun h => absurd hcount (not_lt.mpr h.1)⟩
  · rw [if_neg hcount]
    by_cases hratio : c.div (positiveVariants (adjacentVariants variants)).length
        (adjacentVariants variants).length < ratio
    · rw [if_pos hratio]
      exact ⟨fun h => absurd (Except.ok.inj h) (by decide),
        fun h => absurd hratio (not_lt.mpr h.2.1)⟩
    · rw [if_neg hratio]
      constructor
      · intro h
        exact ⟨not_lt.mp hcount, not_lt.mp hratio, of_decide_eq_true (Except.ok.inj h)⟩
      · intro h
        exact congrArg Except.ok (decide_eq_true h.2.2)

end

/-! ### The records of the selection -/

section

variable {variants : List ParameterVariantResult} {selection : List WalkForwardSelectionEvidence}
  {folds : List WalkForwardFold}

/-- Every fold has exactly one record, on its training window, of a variant of the list. -/
structure Selected (variants : List ParameterVariantResult)
    (selection : List WalkForwardSelectionEvidence) (folds : List WalkForwardFold) : Prop where
  distinct : (selection.map WalkForwardSelectionEvidence.foldIndex).Nodup
  count : selection.length = folds.length
  record : ∀ p ∈ folds.zipIdx, ∃ s ∈ selection, s.foldIndex = p.2 ∧
    (∃ v ∈ variants, v.variantId = s.selectedVariantId) ∧ s.trainStart = p.1.trainStart ∧
      s.trainEnd = p.1.trainEnd

theorem selectionByFold_eq_some
    (hdistinct : (selection.map WalkForwardSelectionEvidence.foldIndex).Nodup) {index : ℕ}
    {s : WalkForwardSelectionEvidence} :
    selectionByFold selection index = some s ↔ s ∈ selection ∧ s.foldIndex = index := by
  unfold selectionByFold
  constructor
  · intro h
    exact ⟨List.mem_reverse.mp (List.mem_of_find?_eq_some h), by simpa using List.find?_some h⟩
  · rintro ⟨hmem, hindex⟩
    cases hfind : selection.reverse.find? fun s => s.foldIndex == index with
    | none =>
      have hnot := List.find?_eq_none.mp hfind s (List.mem_reverse.mpr hmem)
      exact absurd hindex (by simpa using hnot)
    | some s' =>
      have hmem' := List.mem_reverse.mp (List.mem_of_find?_eq_some hfind)
      have hindex' : s'.foldIndex = index := by simpa using List.find?_some hfind
      exact congrArg some (List.inj_on_of_nodup_map hdistinct hmem' hmem
        (hindex'.trans hindex.symm))

theorem selectionEvidenceVerified_iff :
    selectionEvidenceVerified variants selection folds = true ↔
    Selected variants selection folds := by
  unfold selectionEvidenceVerified
  simp only [Bool.and_eq_true, beq_iff_eq, List.all_eq_true, List.mem_dedup, decide_eq_true_eq,
    List.mem_range, List.contains_iff_mem, Option.any_eq_true, List.any_eq_true]
  constructor
  · rintro ⟨⟨⟨⟨hkeys, hcount⟩, hrange⟩, hall⟩, hrecord⟩
    have hdistinct : (selection.map WalkForwardSelectionEvidence.foldIndex).Nodup := by
      rw [← List.dedup_eq_self]
      refine List.Sublist.eq_of_length (List.dedup_sublist _) ?_
      rw [hkeys, List.length_map]
    refine ⟨hdistinct, hcount, fun p hp => ?_⟩
    obtain ⟨s, hs, ⟨hvariant, hstart⟩, hend⟩ := hrecord p hp
    obtain ⟨hmem, hindex⟩ := (selectionByFold_eq_some hdistinct).mp hs
    exact ⟨s, hmem, hindex, hvariant, hstart, hend⟩
  · rintro ⟨hdistinct, hcount, hrecord⟩
    -- distinct indices, one for each fold, are all the indices of the folds
    have hsubset :
        List.range folds.length ⊆ selection.map WalkForwardSelectionEvidence.foldIndex := by
      intro k hk
      rw [List.mem_range] at hk
      obtain ⟨s, hs, hindex, -⟩ :=
        hrecord (folds[k], k) (List.mem_zipIdx_iff_getElem?.mpr (by simp [hk]))
      exact List.mem_map.mpr ⟨s, hs, hindex⟩
    have hperm := (List.subperm_of_subset List.nodup_range hsubset).perm_of_length_le
      (by rw [List.length_map, List.length_range, hcount])
    refine ⟨⟨⟨⟨?_, hcount⟩, ?_⟩, ?_⟩, ?_⟩
    · rw [hdistinct.dedup, List.length_map]
    · intro k hk
      exact List.mem_range.mp (hperm.mem_iff.mpr hk)
    · intro k hk
      exact hperm.mem_iff.mp (List.mem_range.mpr hk)
    · intro p hp
      obtain ⟨s, hs, hindex, hvariant, hstart, hend⟩ := hrecord p hp
      exact ⟨s, (selectionByFold_eq_some hdistinct).mpr ⟨hs, hindex⟩, ⟨hvariant, hstart⟩, hend⟩

/-- The fold indices of every adjacent variant are those of all folds. -/
theorem parameterOosCoverage_mem {foldCount : ℕ}
    (h : parameterOosCoveragePassed variants foldCount = true) :
    adjacentVariants variants ≠ [] ∧
      ∀ v ∈ adjacentVariants variants, ∀ i, i ∈ v.evaluatedOosFoldIndices ↔ i < foldCount := by
  unfold parameterOosCoveragePassed at h
  simp only [Bool.and_eq_true, Bool.not_eq_true', List.isEmpty_eq_false_iff, List.all_eq_true,
    beq_iff_eq] at h
  refine ⟨h.1, fun v hv i => ?_⟩
  rw [← List.mem_range, ← h.2 v hv, List.mem_mergeSort]

end

/-! ### What backs a verdict -/

section

variable {folds : List WalkForwardFold}
    {results : List (List BacktestTrade × WalkForwardFoldEvidence)}

/-- The window of a fold's evidence. -/
def WalkForwardFoldEvidence.fold (f : WalkForwardFoldEvidence) : WalkForwardFold :=
  ⟨f.foldIndex, f.trainStart, f.trainEnd, f.testStart, f.testEnd⟩

/-- The net result of a trade, in exact arithmetic. -/
def net (r : Request) (t : BacktestTrade) : ℚ := (costTrade .exact r.costModel t).netPnl

theorem results_folds (h : List.Forall₂ (fun fold p => onFold c r fold = .ok p) folds results) :
    (results.map (·.2)).map WalkForwardFoldEvidence.fold = folds ∧
      results.flatMap (·.1) = folds.flatMap fun fold =>
        (r.trades.take fold.testEnd).drop fold.testStart := by
  induction h with
  | nil => exact ⟨rfl, rfl⟩
  | @cons fold p folds results hfold _ ih =>
    obtain ⟨htrades, -, ⟨hindex, htrain, htrainEnd, htest, htestEnd⟩, -⟩ := onFold_ok hfold
    constructor
    · rw [List.map_cons, List.map_cons, ih.1, WalkForwardFoldEvidence.fold, hindex, htrain,
        htrainEnd, htest, htestEnd]
    · rw [List.flatMap_cons, List.flatMap_cons, ih.2, htrades]

theorem results_net (h : List.Forall₂ (fun fold p => onFold .exact r fold = .ok p) folds results) :
    ((results.map (·.2)).map WalkForwardFoldEvidence.oosNetPnl).sum =
        ((results.flatMap (·.1)).map (net r)).sum ∧
      ∀ f ∈ results.map (·.2), f.positiveNetExpectancy = true ↔ 0 < f.oosNetPnl := by
  induction h with
  | nil => exact ⟨rfl, fun f hf => absurd hf List.not_mem_nil⟩
  | @cons fold p folds results hfold _ ih =>
    obtain ⟨-, -, -, result, hresult, hnet, hpositive⟩ := onFold_ok hfold
    have htotal : p.2.oosNetPnl = (p.1.map (net r)).sum := by
      rw [hnet, (evaluateTrades_ok hresult).2.2, Context.exact_sum]
      rfl
    constructor
    · rw [List.map_cons, List.map_cons, List.sum_cons, ih.1, List.flatMap_cons, List.map_append,
        List.sum_append, htotal]
    · rw [List.map_cons, List.forall_mem_cons]
      refine ⟨?_, ih.2⟩
      rw [hpositive, hnet]
      exact positiveNetExpectancy_iff hresult

theorem testTrades_eq
    (hsplits : walkForwardSplits (r.trades.map fun t => some t.timestamp) r.config = .ok folds)
    (h : List.Forall₂ (fun fold p => onFold c r fold = .ok p) folds results) :
    testTrades r.trades (results.map (·.2)) = results.flatMap (·.1) := by
  obtain ⟨hnoLeak, -⟩ := walkForwardSplits_ok hsplits
  obtain ⟨hfolds, htrades⟩ := results_folds h
  have hwindows : (results.map (·.2)).map (fun f => (f.testStart, f.testEnd)) =
      folds.map fun fold => (fold.testStart, fold.testEnd) := by
    rw [← hfolds]
    simp only [List.map_map]
    rfl
  have hordered : Ordered (folds.map fun fold => (fold.testStart, fold.testEnd)) := by
    have hpairs := (List.pairwise_flatMap.mp hnoLeak.disjoint).2
    refine List.pairwise_map.mpr (hpairs.imp fun h => ?_)
    exact h _ (by simp) _ (by simp)
  have hbounds : ∀ w ∈ folds.map (fun fold => (fold.testStart, fold.testEnd)),
      0 ≤ w.1 ∧ w.1 ≤ w.2 ∧ w.2 ≤ 0 + r.trades.length := by
    intro w hw
    obtain ⟨fold, hfold, rfl⟩ := List.mem_map.mp hw
    have hsizes := hnoLeak.sizes fold hfold
    rw [List.length_map] at hsizes
    dsimp only
    omega
  rw [testTrades, hwindows, ← windows_eq hordered r.trades 0 hbounds, List.flatMap_map, htrades]
  rfl

end

/-- What a verdict claims of the variants, each key counted once. -/
structure Plateau {κ : Type} [DecidableEq κ] (key : ParameterVariantResult → κ) (r : Request)
    (foldCount : ℕ) : Prop where
  enough : r.minPlateauVariants ≤ (distinctBy key (adjacentVariants r.parameterVariants)).length
  covered : ∀ v ∈ distinctBy key (adjacentVariants r.parameterVariants), ∀ i,
    i ∈ v.evaluatedOosFoldIndices ↔ i < foldCount
  positive : (67 / 100 : ℚ) * (distinctBy key (adjacentVariants r.parameterVariants)).length ≤
    (positiveVariants (distinctBy key (adjacentVariants r.parameterVariants))).length
  spread : ∀ v ∈ distinctBy key (adjacentVariants r.parameterVariants),
    ∀ w ∈ distinctBy key (adjacentVariants r.parameterVariants),
      v.oosNetReturnPct - w.oosNetReturnPct ≤ r.maxPlateauReturnSpreadPct

/-- **What a passing verdict claims**: the result is that of the trades in the test windows, and
positive; their regimes are known and the required ones among them; enough folds are positive; the
distinct variants form a plateau on all folds; and every fold has exactly one record of its
selection. -/
structure Backed {κ : Type} [DecidableEq κ] (key : ParameterVariantResult → κ) (r : Request)
    (ev : WalkForwardEvidence) : Prop where
  windows : walkForwardSplits (r.trades.map fun t => some t.timestamp) r.config =
    .ok (ev.folds.map WalkForwardFoldEvidence.fold)
  netOfFolds : ev.oosNetPnl = (ev.folds.map WalkForwardFoldEvidence.oosNetPnl).sum
  netOfTrades : ev.oosNetPnl = ((testTrades r.trades ev.folds).map (net r)).sum
  positive : 0 < ev.oosNetPnl
  regimes : ∀ regime ∈ r.requiredRegimes, ∃ t ∈ testTrades r.trades ev.folds,
    t.regime = normalized regime
  known : ∀ t ∈ testTrades r.trades ev.folds, t.regime ≠ "UNKNOWN"
  positiveFolds : r.minPositiveFoldRatio * ev.folds.length ≤ ev.folds.countP
    fun f => 0 < f.oosNetPnl
  plateau : Plateau key r ev.folds.length
  selected : ∀ f ∈ ev.folds, (r.selectionEvidence.countP fun s => s.foldIndex = f.foldIndex) = 1 ∧
    ∃ s ∈ r.selectionEvidence, s.foldIndex = f.foldIndex ∧ s.trainStart = f.trainStart ∧
      s.trainEnd = f.trainEnd ∧ ∃ v ∈ r.parameterVariants, v.variantId = s.selectedVariantId

section

variable {κ : Type} [DecidableEq κ] (key : ParameterVariantResult → κ)

/-- The plateau of the variants, each counted once, if all of them cover the folds. -/
theorem plateau_iff {foldCount : ℕ} (hmin : 1 ≤ r.minPlateauVariants)
    (hspread : 0 ≤ r.maxPlateauReturnSpreadPct)
    (hcovered : ∀ v ∈ adjacentVariants r.parameterVariants, ∀ i,
      i ∈ v.evaluatedOosFoldIndices ↔ i < foldCount) :
    Plateau key r foldCount ↔
      parameterPlateauPasses .exact (distinctBy key (adjacentVariants r.parameterVariants))
        r.minPlateauVariants (67 / 100) r.maxPlateauReturnSpreadPct = .ok true := by
  rw [parameterPlateauPasses_iff, adjacentVariants_distinctBy]
  have hsub := (distinctBy_spec key (adjacentVariants r.parameterVariants)).1
  constructor
  · rintro ⟨henough, -, hpositive, hreturns⟩
    have hlength : 0 < (distinctBy key (adjacentVariants r.parameterVariants)).length := by omega
    have hcast : (0 : ℚ) < (distinctBy key (adjacentVariants r.parameterVariants)).length := by
      exact_mod_cast hlength
    refine ⟨hmin, by norm_num, hspread, henough, ?_, ?_⟩
    · rwa [Context.exact_div, le_div_iff₀ hcast]
    · exact (returnSpread_le_iff (List.ne_nil_of_length_pos hlength)).mpr hreturns
  · rintro ⟨-, -, -, henough, hpositive, hreturns⟩
    have hlength : 0 < (distinctBy key (adjacentVariants r.parameterVariants)).length := by omega
    have hcast : (0 : ℚ) < (distinctBy key (adjacentVariants r.parameterVariants)).length := by
      exact_mod_cast hlength
    refine ⟨henough, fun v hv => hcovered v (hsub v hv), ?_, ?_⟩
    · rwa [Context.exact_div, le_div_iff₀ hcast] at hpositive
    · exact (returnSpread_le_iff (List.ne_nil_of_length_pos hlength)).mp hreturns

/-- A list with distinct keys has one member of a key that occurs. -/
theorem countP_eq_one {selection : List WalkForwardSelectionEvidence}
    (hdistinct : (selection.map WalkForwardSelectionEvidence.foldIndex).Nodup)
    {s : WalkForwardSelectionEvidence} (hs : s ∈ selection) :
    (selection.countP fun s' => s'.foldIndex = s.foldIndex) = 1 := by
  have hcount := List.count_eq_one_of_mem hdistinct
    (List.mem_map_of_mem (f := WalkForwardSelectionEvidence.foldIndex) hs)
  rw [List.count, List.countP_map] at hcount
  rw [← hcount]
  exact List.countP_congr fun s' _ => by simp

/-- A passing verdict claims what holds, exactly if the distinct adjacent variants form a
plateau. -/
theorem backed_iff (h : evaluateWalkForwardEvidence .exact r = .ok ev)
    (hpassed : ev.researchQualityPassed = true) :
    Backed key r ev ↔
      parameterPlateauPasses .exact (distinctBy key (adjacentVariants r.parameterVariants))
        r.minPlateauVariants (67 / 100) r.maxPlateauReturnSpreadPct = .ok true := by
  obtain ⟨folds, results, oosResult, plateau, hsplits, hresults, hoos, hplateau,
      hfolds, hnet, hiff⟩ :=
    evaluation_ok h
  obtain ⟨hpositive, hratio, hknown, hregimes, hpassing, hcoverage, hselected⟩ := hiff.mp hpassed
  obtain ⟨hwindows, -⟩ := results_folds hresults
  obtain ⟨hsum, hflags⟩ := results_net hresults
  have htest := testTrades_eq hsplits hresults
  obtain ⟨hnoLeak, hne⟩ := walkForwardSplits_ok hsplits
  rw [hpassing] at hplateau
  obtain ⟨hmin, -, hspread, -⟩ := parameterPlateauPasses_iff.mp hplateau
  rw [← hfolds] at hratio hcoverage hwindows hflags hsum htest
  have hcovered := (parameterOosCoverage_mem hcoverage).2
  have hselected := selectionEvidenceVerified_iff.mp hselected
  have htotal : ev.oosNetPnl = ((results.flatMap (·.1)).map (net r)).sum := by
    rw [hnet, (evaluateTrades_ok hoos).2.2, Context.exact_sum]
    rfl
  rw [← plateau_iff key hmin hspread hcovered]
  refine ⟨fun hbacked => hbacked.plateau, fun hdistinct => ?_⟩
  constructor
  case windows => rw [hwindows, hsplits]
  case netOfFolds => rw [hsum, htotal]
  case netOfTrades => rw [htest, htotal]
  case positive =>
    rw [hnet]
    exact (positiveNetExpectancy_iff hoos).mp hpositive
  case regimes => rwa [htest]
  case known => rwa [htest]
  case positiveFolds =>
    have hlength : (0 : ℚ) < ev.folds.length := by
      have hpos : 0 < ev.folds.length := by
        rw [← List.length_map (f := WalkForwardFoldEvidence.fold), hwindows]
        exact List.length_pos_iff.mpr hne
      exact_mod_cast hpos
    rw [Context.exact_div, le_div_iff₀ hlength] at hratio
    rwa [List.countP_congr fun f hf => (hflags f hf).trans decide_eq_true_iff.symm] at hratio
  case plateau => exact hdistinct
  case selected =>
    intro f hf
    have hfold : f.fold ∈ folds := hwindows ▸ List.mem_map_of_mem hf
    obtain ⟨i, hi, hget⟩ := List.getElem_of_mem hfold
    have hindex : f.foldIndex = i := by
      have hindices := congrArg (·[i]?) hnoLeak.indices
      simp only [List.getElem?_map, List.getElem?_eq_getElem hi, hget, Option.map_some,
        List.getElem?_range hi] at hindices
      exact Option.some.inj hindices
    obtain ⟨s, hs, hsindex, hvariant, hstart, hend⟩ :=
      hselected.record (f.fold, i) (List.mem_zipIdx_iff_getElem?.mpr (by simp [hi, hget]))
    dsimp only at hsindex hstart hend
    refine ⟨?_, s, hs, hsindex.trans hindex.symm, hstart, hend, hvariant⟩
    rw [hindex, ← hsindex]
    exact countP_eq_one hselected.distinct hs

end

/-! ### The order of the lists -/

section

variable {variants variants' : List ParameterVariantResult}
  {selection selection' : List WalkForwardSelectionEvidence}

theorem max?_perm {xs ys : List ℚ} (h : xs.Perm ys) : xs.max? = ys.max? := by
  refine Option.ext fun top => ?_
  rw [List.max?_eq_some_iff, List.max?_eq_some_iff]
  simp only [h.mem_iff]

theorem min?_perm {xs ys : List ℚ} (h : xs.Perm ys) : xs.min? = ys.min? := by
  refine Option.ext fun low => ?_
  rw [List.min?_eq_some_iff, List.min?_eq_some_iff]
  simp only [h.mem_iff]

theorem adjacentVariants_perm (h : variants.Perm variants') :
    (adjacentVariants variants).Perm (adjacentVariants variants') := h.filter _

theorem parameterPlateauPasses_perm (h : variants.Perm variants') (minVariants : ℤ)
    (ratio spread : ℚ) :
    parameterPlateauPasses c variants minVariants ratio spread =
      parameterPlateauPasses c variants' minVariants ratio spread := by
  have hadjacent := adjacentVariants_perm h
  have hreturns := hadjacent.map ParameterVariantResult.oosNetReturnPct
  have hpositive : (positiveVariants (adjacentVariants variants)).length =
      (positiveVariants (adjacentVariants variants')).length := (hadjacent.filter _).length_eq
  have hspread : returnSpread c (adjacentVariants variants) = returnSpread c
      (adjacentVariants variants') := by
    unfold returnSpread
    dsimp only
    rw [max?_perm hreturns, min?_perm hreturns]
  unfold parameterPlateauPasses
  dsimp only
  rw [hadjacent.length_eq, hpositive, hspread]

theorem parameterOosCoveragePassed_perm (h : variants.Perm variants') (foldCount : ℕ) :
    parameterOosCoveragePassed variants foldCount =
    parameterOosCoveragePassed variants' foldCount := by
  have hadjacent := adjacentVariants_perm h
  rw [Bool.eq_iff_iff]
  simp only [parameterOosCoveragePassed, Bool.and_eq_true, Bool.not_eq_true',
    List.isEmpty_eq_false_iff,
    List.all_eq_true, hadjacent.mem_iff, ← List.length_pos_iff, hadjacent.length_eq]

theorem selected_perm (hvariants : variants.Perm variants') (hselection : selection.Perm selection')
    {folds : List WalkForwardFold} (h : Selected variants selection folds) :
    Selected variants' selection' folds where
  distinct := (hselection.map _).nodup_iff.mp h.distinct
  count := hselection.length_eq.symm.trans h.count
  record p hp := by
    obtain ⟨s, hs, hindex, ⟨v, hv, hid⟩, hwindow⟩ := h.record p hp
    exact ⟨s, hselection.mem_iff.mp hs, hindex, ⟨v, hvariants.mem_iff.mp hv, hid⟩, hwindow⟩

theorem selectionEvidenceVerified_perm (hvariants : variants.Perm variants')
    (hselection : selection.Perm selection') (folds : List WalkForwardFold) :
    selectionEvidenceVerified variants selection folds =
      selectionEvidenceVerified variants' selection' folds := by
  rw [Bool.eq_iff_iff, selectionEvidenceVerified_iff, selectionEvidenceVerified_iff]
  exact ⟨selected_perm hvariants hselection, selected_perm hvariants.symm hselection.symm⟩

/-- Two computations that make the same checks give the same part of a result. -/
theorem map_guard {α β ε : Type} {p : Prop} [Decidable p] {e : ε} {k k' : PUnit → Except ε α}
    {g : α → β} (h : ∀ u, (k u).map g = (k' u).map g) :
    Except.map g (if p then throw e >>= k else k ⟨⟩) = Except.map g (if p then throw e >>= k'
    else k' ⟨⟩) := by
  by_cases hp : p
  · rw [if_pos hp, if_pos hp]
    rfl
  · rw [if_neg hp, if_neg hp, h]

theorem map_bind {α β γ ε : Type} (x : Except ε γ) {k k' : γ → Except ε α} {g : α → β}
    (h : ∀ a, (k a).map g = (k' a).map g) : Except.map g (x >>= k) = Except.map g (x >>= k') := by
  cases x with
  | error e => rfl
  | ok a => exact h a

/-- **The verdict does not depend on the order** of the variants and of the selection records. -/
theorem verdict_perm (hvariants : r.parameterVariants.Perm variants')
    (hselection : r.selectionEvidence.Perm selection') :
    (evaluateWalkForwardEvidence c
        { r with parameterVariants := variants', selectionEvidence := selection' }).map
        WalkForwardEvidence.researchQualityPassed =
      (evaluateWalkForwardEvidence c r).map WalkForwardEvidence.researchQualityPassed := by
  unfold evaluateWalkForwardEvidence
  refine map_guard fun _ => map_guard fun _ => map_guard fun _ => ?_
  dsimp only
  split
  · rfl
  · refine map_guard fun _ => map_bind _ fun folds => map_guard fun _ => map_bind _ fun results =>
      map_bind _ fun oosResult => ?_
    rw [← parameterPlateauPasses_perm hvariants]
    refine map_bind _ fun plateau => ?_
    rw [← parameterOosCoveragePassed_perm hvariants,
      ← selectionEvidenceVerified_perm hvariants hselection]
    rfl

/-- **A passing verdict is backed by the evidence it claims**, exactly if the adjacent variants,
each counted once, form a plateau; and the verdict does not depend on the order of the variants and
of the selection records. -/
theorem passing_verdict_backed_iff {κ : Type} [DecidableEq κ] (key : ParameterVariantResult → κ)
    (r : Request) :
    (∀ ev, evaluateWalkForwardEvidence .exact r = .ok ev → ev.researchQualityPassed = true →
      (Backed key r ev ↔
        parameterPlateauPasses .exact (distinctBy key (adjacentVariants r.parameterVariants))
          r.minPlateauVariants (67 / 100) r.maxPlateauReturnSpreadPct = .ok true)) ∧
    ∀ variants' selection', r.parameterVariants.Perm variants' →
    r.selectionEvidence.Perm selection' →
      (evaluateWalkForwardEvidence .exact
          { r with parameterVariants := variants', selectionEvidence := selection' }).map
          WalkForwardEvidence.researchQualityPassed =
        (evaluateWalkForwardEvidence .exact r).map WalkForwardEvidence.researchQualityPassed :=
  ⟨fun _ h hpassed => backed_iff key h hpassed, fun _ _ hvariants hselection =>
    verdict_perm hvariants hselection⟩

end

/-! ### One variant three times -/

/-- A trade of the minute `n` that gains 1, without costs. -/
def sampleTrade (n : ℕ) : BacktestTrade :=
  { tradeId := "trade-" ++ toString n
    timestamp := n * 60000000
    symbol := "ETHUSDC"
    strategyId := "trend"
    dataSource := "BINANCE_PUBLIC_MAINNET_READ_ONLY"
    regime := "TREND"
    grossPnl := 1
    fundingPnl := 0
    entryNotional := 100
    exitNotional := 100
    entrySpreadBps := 0
    exitSpreadBps := 0
    entrySlippageBps := 0
    exitSlippageBps := 0 }

/-- A variant with this name that gained on all three folds. -/
def sampleVariant (name : String) (h : name ≠ "") : ParameterVariantResult where
  variantId := name
  oosNetReturnPct := 1
  oosAverageNetPnl := 1
  maxDrawdownPct := 0
  oosTradeCount := 3
  evaluatedOosFoldIndices := [0, 1, 2]
  valid := ⟨h, by decide⟩

/-- The record of the fold `n`, which trains on the trade `2 * n`. -/
def sampleSelection (n : ℕ) : WalkForwardSelectionEvidence where
  foldIndex := n
  trainStart := 2 * n
  trainEnd := 2 * n + 1
  selectedVariantId := "a"
  selectionArtifactSha256 := String.ofList (List.replicate 64 '0')
  valid := ⟨Nat.succ_pos _, by decide, by decide +kernel⟩

/-- Six trades in three folds, and these variants. -/
def sampleRequest (variants : List ParameterVariantResult) : Request where
  trades := (List.range 6).map sampleTrade
  config := { trainSize := 1, testSize := 1, positive := by decide }
  initialCapital := 1000
  costModel := ⟨⟨0, by norm_num⟩, ⟨0, by norm_num⟩⟩
  requiredRegimes := ["trend"]
  parameterVariants := variants
  selectionEvidence := (List.range 3).map sampleSelection

/-- The windows of the six trades. -/
def sampleFolds : List WalkForwardFold :=
  (List.range 3).map fun n => ⟨n, 2 * n, 2 * n + 1, 2 * n + 1, 2 * n + 2⟩

/-- Every window has one trade, which gains 1. -/
def sampleResults : List (List BacktestTrade × WalkForwardFoldEvidence) :=
  (List.range 3).map fun n => ([sampleTrade (2 * n + 1)],
    { foldIndex := n
      trainStart := 2 * n
      trainEnd := 2 * n + 1
      testStart := 2 * n + 1
      testEnd := 2 * n + 2
      oosTradeCount := 1
      oosNetPnl := 1
      oosNetReturnPct := 1 / 10
      positiveNetExpectancy := true })

theorem sampleResults_eq :
    walkForwardSplits (((List.range 6).map sampleTrade).map fun t => some t.timestamp)
      { trainSize := 1, testSize := 1, positive := by decide } = .ok sampleFolds ∧
    sampleFolds.mapM (onFold .exact (sampleRequest [])) = .ok sampleResults ∧
    (evaluateTrades .exact (sampleResults.flatMap (·.1)) (sampleRequest []).initialCapital
      (sampleRequest []).costModel).map EconomicBacktestResult.positiveNetExpectancy =
      .ok true := by
  decide +kernel

theorem sample_passed (variants : List ParameterVariantResult)
    (hok : (evaluateWalkForwardEvidence .exact (sampleRequest variants)).isOk = true)
    (hplateau : parameterPlateauPasses .exact variants 3 (67 / 100) 5 = .ok true)
    (hcoverage : ∀ v ∈ variants, v.evaluatedOosFoldIndices = [0, 1, 2])
    (hadjacent : (adjacentVariants variants).isEmpty = false)
    (hselected : selectionEvidenceVerified variants
      ((List.range 3).map sampleSelection) sampleFolds = true) :
    ∃ ev, evaluateWalkForwardEvidence .exact (sampleRequest variants) = .ok ev ∧
      ev.researchQualityPassed = true := by
  rcases hev : evaluateWalkForwardEvidence .exact (sampleRequest variants) with e | ev
  · rw [hev] at hok
    cases hok
  · refine ⟨ev, rfl, ?_⟩
    obtain ⟨hsplits, hmapM, htotal⟩ := sampleResults_eq
    obtain ⟨folds, results, oosResult, plateau, hfolds, hresults, hoos, hpassed, -, -, hiff⟩ :=
      evaluation_ok hev
    have hsame : folds = sampleFolds := Except.ok.inj (hfolds.symm.trans hsplits)
    subst hsame
    have hsame : results = sampleResults :=
      Except.ok.inj ((except_mapM_ok.mpr hresults).symm.trans hmapM)
    subst hsame
    have hpositive : oosResult.positiveNetExpectancy = true := by
      have hsum : evaluateTrades .exact (sampleResults.flatMap (·.1))
          (sampleRequest []).initialCapital
        (sampleRequest []).costModel = .ok oosResult := hoos
      rw [hsum] at htotal
      exact Except.ok.inj htotal
    have hindices : ([0, 1, 2] : List ℕ).mergeSort = List.range 3 :=
      List.mergeSort_of_pairwise (by decide)
    have hratio : (67 / 100 : ℚ) ≤ Context.exact.div
        ((sampleResults.map (·.2)).countP (·.positiveNetExpectancy))
          (sampleResults.map (·.2)).length := by
      decide +kernel
    refine hiff.mpr ⟨hpositive, hratio, by decide +kernel, ?_, ?_, ?_, hselected⟩
    · intro regime hregime
      obtain rfl : regime = "trend" := List.mem_singleton.mp hregime
      exact ⟨sampleTrade 1, by decide +kernel, by decide +kernel⟩
    · exact Except.ok.inj (hpassed.symm.trans hplateau)
    · change (!(adjacentVariants variants).isEmpty && _) = true
      rw [hadjacent, Bool.not_false, Bool.true_and, List.all_eq_true]
      intro v hv
      rw [hcoverage v (List.mem_of_mem_filter hv), hindices]
      exact beq_self_eq_true _

/-- Three variants of different names. -/
def threeVariants : List ParameterVariantResult :=
  [sampleVariant "a" (by decide), sampleVariant "b" (by decide), sampleVariant "c" (by decide)]

theorem passing_verdict_backed_three :
    ∃ ev, evaluateWalkForwardEvidence .exact (sampleRequest threeVariants) = .ok ev ∧
      Backed ParameterVariantResult.variantId (sampleRequest threeVariants) ev := by
  obtain ⟨ev, hev, hpassed⟩ := sample_passed threeVariants (by decide +kernel) (by decide +kernel)
    (by decide +kernel) (by decide +kernel) (by decide +kernel)
  have hbacked := (passing_verdict_backed_iff ParameterVariantResult.variantId
    (sampleRequest threeVariants)).1 ev hev hpassed
  exact ⟨ev, hev, hbacked.mpr (by decide +kernel)⟩

/-- **One variant three times is a plateau**: with three folds and `min_plateau_variants` 3 the list
`[a, a, a]` passes, and there is one distinct variant. -/
theorem single_variant_not_backed :
    ∃ ev, evaluateWalkForwardEvidence .exact
        (sampleRequest (List.replicate 3 (sampleVariant "a" (by decide)))) = .ok ev ∧
      ev.researchQualityPassed = true ∧
      ¬ Backed id (sampleRequest (List.replicate 3 (sampleVariant "a" (by decide)))) ev := by
  obtain ⟨ev, hev, hpassed⟩ := sample_passed (List.replicate 3 (sampleVariant "a" (by decide)))
    (by decide +kernel) (by decide +kernel) (by decide +kernel) (by decide +kernel)
      (by decide +kernel)
  refine ⟨ev, hev, hpassed, fun hbacked => ?_⟩
  have henough := hbacked.plateau.enough
  exact absurd henough (by decide +kernel)

end Blessing.Backtest.Evidence
