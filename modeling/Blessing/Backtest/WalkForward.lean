import Blessing.Backtest.Replay
import Blessing.Lib.Bisect
import Mathlib.Data.List.Chain

/-! # Walk-forward splits

`walk_forward_event_splits` of `backtest/replay.py` and `walk_forward_splits` of
`backtest/economic.py`: rolling windows for training and testing, with a purge gap between the two
of a fold and an embargo gap before the next fold. -/

namespace Blessing.Backtest.WalkForward

open Blessing.Lib Blessing.Lib.Effects
open Blessing.Backtest.Economic Blessing.Backtest.Replay

/-! ### Windows of event time -/

/-- `EventWalkForwardConfig` -/
structure EventWalkForwardConfig where
  trainDurationSec : ℕ
  testDurationSec : ℕ
  purgeDurationSec : ℕ := 0
  embargoDurationSec : ℕ := 0
  /-- what the constructor checks -/
  positive : 0 < trainDurationSec ∧ 0 < testDurationSec

/-- `EventWalkForwardFold` -/
structure EventWalkForwardFold where
  foldIndex : ℕ
  trainStart : ℕ
  trainEnd : ℕ
  testStart : ℕ
  testEnd : ℕ
  trainStartTime : ℤ
  trainEndTime : ℤ
  testStartTime : ℤ
  testEndTime : ℤ
  deriving DecidableEq

/-- `timedelta(seconds=n)` -/
def seconds (n : ℕ) : ℤ := n * 1000000

/-- The first index from `start` on whose time is not before `bound`, or the default. -/
def firstFrom (timestamps : List ℤ) (start : ℕ) (bound : ℤ) (default : ℕ) : ℕ :=
  match (timestamps.drop start).findIdx? (bound ≤ ·) with
  | some i => start + i
  | none => default

section

variable (config : EventWalkForwardConfig) (timestamps : List ℤ)

/-- The body of the loop of `walk_forward_event_splits`: the fold and the next cursor; nothing where
the loop breaks. -/
def nextFold (cursor foldIndex : ℕ) : Option (EventWalkForwardFold × ℕ) :=
  match timestamps[cursor]? with
  | none => none
  | some trainStartTime =>
    let trainEndTime := trainStartTime + seconds config.trainDurationSec
    let purgeEndTime := trainEndTime + seconds config.purgeDurationSec
    let testStart := firstFrom timestamps 0 purgeEndTime timestamps.length
    match timestamps[testStart]? with
    | none => none
    | some testStartTime =>
      let testEndTime := testStartTime + seconds config.testDurationSec
      let testEnd := firstFrom timestamps testStart testEndTime timestamps.length
      let trainEnd := firstFrom timestamps 0 trainEndTime testStart
      let embargoEndTime := testEndTime + seconds config.embargoDurationSec
      if testEnd ≤ testStart then none
      else if trainEnd ≤ cursor then none
      else some ({ foldIndex, trainStart := cursor, trainEnd, testStart, testEnd, trainStartTime,
                   trainEndTime, testStartTime, testEndTime },
        firstFrom timestamps testEnd embargoEndTime timestamps.length)

/-- The loop of `walk_forward_event_splits`; nothing if it does not end within `fuel` rounds. -/
def eventFolds : ℕ → ℕ → ℕ → Option (List EventWalkForwardFold)
  | 0, _, _ => none
  | fuel + 1, cursor, foldIndex =>
    match nextFold config timestamps cursor foldIndex with
    | none => some []
    | some (fold, next) => (eventFolds fuel next (foldIndex + 1)).map (fold :: ·)

end

/-- `walk_forward_event_splits`. There is no run without an end, see `eventFolds_total`. -/
def walkForwardEventSplits (events : List HistoricalMarketEvent) (config : EventWalkForwardConfig) :
    Except Failure (List EventWalkForwardFold) := do
  validateEventSequence events
  match eventFolds config (events.map HistoricalMarketEvent.eventTime) (events.length + 1) 0 0 with
  | some (fold :: folds) => return fold :: folds
  | some [] => throw (.validation "events are insufficient for one event-time walk-forward fold")
  | none => throw (.value "endless loop")

/-! ### Windows of records -/

/-- `WalkForwardConfig` -/
structure WalkForwardConfig where
  trainSize : ℕ
  testSize : ℕ
  purgeSize : ℕ := 0
  embargoSize : ℕ := 0
  /-- what the constructor checks -/
  positive : 0 < trainSize ∧ 0 < testSize

/-- `WalkForwardFold` -/
structure WalkForwardFold where
  foldIndex : ℕ
  trainStart : ℕ
  trainEnd : ℕ
  testStart : ℕ
  testEnd : ℕ
  deriving DecidableEq

/-- The loop of `walk_forward_splits`; nothing if it does not end within `fuel` rounds. -/
def recordFolds (config : WalkForwardConfig) (count : ℕ) : ℕ → ℕ → ℕ → Option (List WalkForwardFold)
  | 0, _, _ => none
  | fuel + 1, trainStart, foldIndex =>
    let trainEnd := trainStart + config.trainSize
    let testStart := trainEnd + config.purgeSize
    let testEnd := testStart + config.testSize
    if count < testEnd then some []
    else (recordFolds config count fuel (testEnd + config.embargoSize) (foldIndex + 1)).map
      ({ foldIndex, trainStart, trainEnd, testStart, testEnd } :: ·)

/-- `walk_forward_splits`, given the times of the records; a record may have none, or one without a
time zone. There is no run without an end, see `recordFolds_total`. -/
def walkForwardSplits (records : List (Option ℤ)) (config : WalkForwardConfig) :
    Except Failure (List WalkForwardFold) := do
  if records = [] then throw (.value "walk-forward records must not be empty")
  match records.mapM id with
  | none => throw (.value "walk-forward records require timezone-aware timestamps")
  | some timestamps =>
    if ¬ timestamps.IsChain (· < ·) then
      throw (.value "walk-forward records must be strictly ordered chronologically")
    match recordFolds config records.length (records.length + 1) 0 0 with
    | some (fold :: folds) => return fold :: folds
    | some [] => throw (.value "records are insufficient for one walk-forward fold")
    | none => throw (.value "endless loop")

/-! ### The search for an index -/

section Search

variable {timestamps : List ℤ} {start default : ℕ} (bound : ℤ)

theorem firstFrom_spec (hstart : start ≤ timestamps.length) :
    start ≤ firstFrom timestamps start bound timestamps.length ∧
    firstFrom timestamps start bound timestamps.length ≤ timestamps.length ∧
    (∀ i t, start ≤ i → i < firstFrom timestamps start bound timestamps.length →
      timestamps[i]? = some t →
      t < bound) ∧
    ∀ t, timestamps[firstFrom timestamps start bound timestamps.length]? = some t → bound ≤ t := by
  unfold firstFrom
  cases hfind : (timestamps.drop start).findIdx? (bound ≤ ·) with
  | none =>
    have hnone := List.findIdx?_eq_none_iff.mp hfind
    refine ⟨hstart, le_rfl, ?_, ?_⟩
    · intro i t hle _ ht
      have hmem : t ∈ timestamps.drop start := by
        refine List.mem_of_getElem? (i := i - start) ?_
        rw [List.getElem?_drop, Nat.add_sub_cancel' hle]
        exact ht
      simpa using hnone t hmem
    · intro t ht
      rw [List.getElem?_eq_none le_rfl] at ht
      cases ht
  | some k =>
    obtain ⟨hk, hfound, hbefore⟩ := List.findIdx?_eq_some_iff_getElem.mp hfind
    have hlength : (timestamps.drop start).length = timestamps.length - start := List.length_drop
    dsimp only
    refine ⟨Nat.le_add_right _ _, by omega, ?_, ?_⟩
    · intro i t hle hlt ht
      have hi := hbefore (i - start) (by omega)
      rw [List.getElem_drop] at hi
      have hat : timestamps[start + (i - start)]? = some t := by rw [Nat.add_sub_cancel' hle, ht]
      rw [List.getElem?_eq_some_iff] at hat
      obtain ⟨_, hat⟩ := hat
      rw [hat] at hi
      simpa using hi
    · intro t ht
      rw [List.getElem_drop] at hfound
      rw [List.getElem?_eq_some_iff] at ht
      obtain ⟨_, ht⟩ := ht
      rw [ht] at hfound
      simpa using hfound

variable {bound} in
/-- The default is only taken where no time is late enough. -/
theorem firstFrom_default {i : ℕ} {t : ℤ} (hi : start ≤ i) (ht : timestamps[i]? = some t)
    (hbound : bound ≤ t) :
    firstFrom timestamps start bound default =
    firstFrom timestamps start bound timestamps.length := by
  unfold firstFrom
  cases hfind : (timestamps.drop start).findIdx? (bound ≤ ·) with
  | none =>
    have hmem : t ∈ timestamps.drop start := by
      refine List.mem_of_getElem? (i := i - start) ?_
      rw [List.getElem?_drop, Nat.add_sub_cancel' hi]
      exact ht
    have hlate := List.findIdx?_eq_none_iff.mp hfind t hmem
    simp only [decide_eq_false_iff_not] at hlate
    exact absurd hbound hlate
  | some k => rfl

theorem le_iff_of_index {i j : ℕ} {t u : ℤ} (hchrono : timestamps.Pairwise (· < ·))
    (hi : timestamps[i]? = some t) (hj : timestamps[j]? = some u) : i ≤ j ↔ t ≤ u := by
  obtain ⟨hi', rfl⟩ := List.getElem?_eq_some_iff.mp hi
  obtain ⟨hj', rfl⟩ := List.getElem?_eq_some_iff.mp hj
  have hmono := List.pairwise_iff_getElem.mp hchrono
  constructor
  · intro hle
    rcases Nat.lt_or_eq_of_le hle with hlt | rfl
    · exact (hmono i j hi' hj' hlt).le
    · exact le_rfl
  · intro hle
    by_contra hlt
    exact absurd hle (not_le.mpr (hmono j i hj' hi' (not_le.mp hlt)))

/-- In a chronological list the times before the bound are in front of the index. -/
theorem lt_firstFrom {i : ℕ} {t : ℤ} (hchrono : timestamps.Pairwise (· < ·))
    (ht : timestamps[i]? = some t) :
    i < firstFrom timestamps 0 bound timestamps.length ↔ t < bound := by
  obtain ⟨-, hlength, hbefore, hat⟩ := firstFrom_spec bound (Nat.zero_le timestamps.length)
  refine ⟨fun hlt => hbefore i t (Nat.zero_le i) hlt ht, fun hlt => ?_⟩
  by_contra hle
  have hinside : firstFrom timestamps 0 bound timestamps.length < timestamps.length :=
    lt_of_le_of_lt (not_lt.mp hle) (List.getElem?_eq_some_iff.mp ht).1
  have hfound := List.getElem?_eq_getElem hinside
  have hlate := (le_iff_of_index hchrono hfound ht).mp (not_lt.mp hle)
  exact absurd ((hat _ hfound).trans hlate) (not_le.mpr hlt)

end Search

/-! ### One fold -/

section Fold

variable {config : EventWalkForwardConfig} {timestamps : List ℤ} {cursor foldIndex next : ℕ}
  {fold : EventWalkForwardFold}

/-- A window of the fold: the times that fall into it are those of its indices. -/
structure Causal (config : EventWalkForwardConfig) (timestamps : List ℤ)
    (fold : EventWalkForwardFold) :
    Prop where
  train : fold.trainStart < fold.trainEnd
  apart : fold.trainEnd ≤ fold.testStart
  test : fold.testStart < fold.testEnd
  inside : fold.testEnd ≤ timestamps.length
  trainStartTime : timestamps[fold.trainStart]? = some fold.trainStartTime
  trainEndTime : fold.trainEndTime = fold.trainStartTime + seconds config.trainDurationSec
  testStartTime : timestamps[fold.testStart]? = some fold.testStartTime
  testEndTime : fold.testEndTime = fold.testStartTime + seconds config.testDurationSec
  trained : ∀ i t, timestamps[i]? = some t →
    (fold.trainStart ≤ i ∧ i < fold.trainEnd ↔ fold.trainStartTime ≤ t ∧ t < fold.trainEndTime)
  tested : ∀ i t, timestamps[i]? = some t → fold.testStart ≤ i → i < fold.testEnd →
    fold.trainEndTime + seconds config.purgeDurationSec ≤ t ∧
      t < fold.testStartTime + seconds config.testDurationSec

/-- **Step**: what a round of the loop gives. -/
theorem nextFold_spec (hchrono : timestamps.Pairwise (· < ·))
    (h : nextFold config timestamps cursor foldIndex = some (fold, next)) :
    Causal config timestamps fold ∧ fold.trainStart = cursor ∧ fold.foldIndex = foldIndex ∧
      fold.testEnd ≤ next ∧ next ≤ timestamps.length ∧
      ∀ t, timestamps[next]? = some t → fold.testEndTime + seconds config.embargoDurationSec ≤
      t := by
  unfold nextFold at h
  cases hcursor : timestamps[cursor]? with
  | none =>
    rw [hcursor] at h
    cases h
  | some trainStartTime =>
    rw [hcursor] at h
    dsimp only at h
    generalize hpurged : firstFrom timestamps 0 (trainStartTime + seconds config.trainDurationSec +
      seconds config.purgeDurationSec) timestamps.length = testStart at h
    cases htest : timestamps[testStart]? with
    | none =>
      rw [htest] at h
      cases h
    | some testStartTime =>
      rw [htest] at h
      dsimp only at h
      have hpurge : trainStartTime + seconds config.trainDurationSec +
          seconds config.purgeDurationSec ≤
          testStartTime := by
        have hat := (firstFrom_spec (trainStartTime + seconds config.trainDurationSec +
          seconds config.purgeDurationSec) (Nat.zero_le timestamps.length)).2.2.2
        rw [hpurged] at hat
        exact hat testStartTime htest
      have hlate : trainStartTime + seconds config.trainDurationSec ≤ testStartTime := by
        have hnonneg : 0 ≤ seconds config.purgeDurationSec := by
          unfold seconds
          positivity
        omega
      have hinside : testStart < timestamps.length := (List.getElem?_eq_some_iff.mp htest).1
      generalize htested :
        firstFrom timestamps testStart (testStartTime + seconds config.testDurationSec)
        timestamps.length = testEnd at h
      obtain ⟨-, htestLength, htestBefore, -⟩ :=
        firstFrom_spec (testStartTime + seconds config.testDurationSec) hinside.le
      rw [htested] at htestLength htestBefore
      rw [firstFrom_default (Nat.zero_le testStart) htest hlate] at h
      have htrained := fun i t (ht : timestamps[i]? = some t) =>
        lt_firstFrom (trainStartTime + seconds config.trainDurationSec) hchrono ht
      split_ifs at h with hempty hnone
      cases h
      obtain ⟨hnextLe, hnextLength, -, hnextAt⟩ :=
        firstFrom_spec (testStartTime + seconds config.testDurationSec +
          seconds config.embargoDurationSec)
          htestLength
      refine ⟨⟨not_le.mp hnone, ?_, not_le.mp hempty, htestLength, hcursor, rfl, htest, rfl,
        ?_, ?_⟩, rfl, rfl, hnextLe, hnextLength, hnextAt⟩
      · exact not_lt.mp fun hlt => absurd ((htrained _ _ htest).mp hlt) (not_lt.mpr hlate)
      · intro i t ht
        exact and_congr (le_iff_of_index hchrono hcursor ht) (htrained i t ht)
      · intro i t ht hle hlt
        exact ⟨hpurge.trans ((le_iff_of_index hchrono htest ht).mp hle), htestBefore i t hle hlt ht⟩

end Fold

/-! ### The loops -/

/-- Windows of indices, one behind the other. -/
def Ordered (windows : List (ℕ × ℕ)) : Prop := windows.Pairwise fun v w => v.2 ≤ w.1

theorem ordered_windows {F : Type} {train test : F → ℕ × ℕ} {folds : List F}
    (hfold : ∀ f ∈ folds, (train f).1 < (train f).2 ∧ (train f).2 ≤ (test f).1 ∧
      (test f).1 < (test f).2) (hchain : folds.IsChain fun f g => (test f).2 ≤ (train g).1) :
    Ordered (folds.flatMap fun f => [train f, test f]) := by
  have hbehind : ∀ (bound : ℕ) (folds : List F), (∀ f ∈ folds, (train f).1 < (train f).2 ∧
      (train f).2 ≤ (test f).1 ∧ (test f).1 < (test f).2) →
      folds.IsChain (fun f g => (test f).2 ≤ (train g).1) →
      (∀ f, folds.head? = some f → bound ≤ (train f).1) →
      Ordered (folds.flatMap fun f => [train f, test f]) ∧
        ∀ w ∈ folds.flatMap (fun f => [train f, test f]), bound ≤ w.1 := by
    intro bound folds hfold hchain hhead
    induction folds generalizing bound with
    | nil => exact ⟨List.Pairwise.nil, fun w hw => by cases hw⟩
    | cons f folds ih =>
      obtain ⟨⟨htrain, hgap, htest⟩, hrest⟩ := List.forall_mem_cons.mp hfold
      obtain ⟨hnext, hchain⟩ := List.isChain_cons.mp hchain
      obtain ⟨hordered, hafter⟩ := ih (test f).2 hrest hchain fun g hg => hnext g hg
      have hbound := hhead f rfl
      rw [List.flatMap_cons]
      refine ⟨?_, ?_⟩
      · refine List.pairwise_cons.mpr ⟨?_, List.pairwise_cons.mpr ⟨hafter, hordered⟩⟩
        intro w hw
        rcases List.mem_cons.mp hw with rfl | hw
        · exact hgap
        · have hw' := hafter w hw
          omega
      · intro w hw
        rcases List.mem_cons.mp hw with rfl | hw
        · exact hbound
        · rcases List.mem_cons.mp hw with rfl | hw
          · omega
          · have hw' := hafter w hw
            omega
  exact (hbehind 0 folds hfold hchain fun _ _ => Nat.zero_le _).1

section Loop

variable {config : EventWalkForwardConfig} {timestamps : List ℤ} {cursor foldIndex : ℕ}
  {folds : List EventWalkForwardFold}

/-- The rounds of the loop. -/
inductive Rounds (config : EventWalkForwardConfig) (timestamps : List ℤ) :
    ℕ → ℕ → List EventWalkForwardFold → Prop where
  | stop {cursor foldIndex : ℕ} (hbreak : nextFold config timestamps cursor foldIndex = none) :
      Rounds config timestamps cursor foldIndex []
  | fold {cursor foldIndex next : ℕ} {fold : EventWalkForwardFold}
    {folds : List EventWalkForwardFold}
      (hfold : nextFold config timestamps cursor foldIndex = some (fold, next))
      (hrest : Rounds config timestamps next (foldIndex + 1) folds) :
      Rounds config timestamps cursor foldIndex (fold :: folds)

theorem eventFolds_rounds {fuel : ℕ}
    (h : eventFolds config timestamps fuel cursor foldIndex = some folds) :
    Rounds config timestamps cursor foldIndex folds := by
  induction fuel generalizing cursor foldIndex folds with
  | zero => cases h
  | succ fuel ih =>
    rw [eventFolds] at h
    cases hnext : nextFold config timestamps cursor foldIndex with
    | none =>
      rw [hnext] at h
      cases h
      exact .stop hnext
    | some found =>
      rw [hnext] at h
      obtain ⟨rest, hrest, rfl⟩ := Option.map_eq_some_iff.mp h
      exact .fold hnext (ih hrest)

/-- **The loop ends**: every round moves the cursor. -/
theorem eventFolds_total (hchrono : timestamps.Pairwise (· < ·)) {fuel : ℕ}
    (hcursor : cursor ≤ timestamps.length) (hfuel : timestamps.length < cursor + fuel) :
    ∃ folds, eventFolds config timestamps fuel cursor foldIndex = some folds := by
  induction fuel generalizing cursor foldIndex with
  | zero => omega
  | succ fuel ih =>
    rw [eventFolds]
    cases hnext : nextFold config timestamps cursor foldIndex with
    | none => exact ⟨[], rfl⟩
    | some found =>
      obtain ⟨fold, next⟩ := found
      obtain ⟨hcausal, hstart, -, hle, hlength, -⟩ := nextFold_spec hchrono hnext
      have htrain := hcausal.train
      have hapart := hcausal.apart
      have htest := hcausal.test
      have hrest : ∃ folds, eventFolds config timestamps fuel next (foldIndex + 1) = some folds :=
        ih hlength (by omega)
      obtain ⟨folds, hfolds⟩ := hrest
      exact ⟨fold :: folds, by dsimp only; rw [hfolds]; rfl⟩

/-- The train and the test window of a fold. -/
def EventWalkForwardFold.windows (fold : EventWalkForwardFold) : List (ℕ × ℕ) :=
  [(fold.trainStart, fold.trainEnd), (fold.testStart, fold.testEnd)]

/-- What holds of the folds of a chronological list. -/
structure NoLeak (config : EventWalkForwardConfig) (timestamps : List ℤ)
    (folds : List EventWalkForwardFold) :
    Prop where
  indices : folds.map EventWalkForwardFold.foldIndex = List.range folds.length
  causal : ∀ fold ∈ folds, Causal config timestamps fold
  embargoed : folds.IsChain fun fold next =>
    fold.testEndTime + seconds config.embargoDurationSec ≤ next.trainStartTime
  disjoint : Ordered (folds.flatMap EventWalkForwardFold.windows)

theorem rounds_head (hchrono : timestamps.Pairwise (· < ·))
    (h : Rounds config timestamps cursor foldIndex folds) :
    ∀ fold, folds.head? = some fold → fold.trainStart = cursor ∧ Causal config timestamps fold := by
  cases h with
  | stop => exact fun fold hfold => by cases hfold
  | fold hnext =>
    intro fold hfold
    cases hfold
    obtain ⟨hcausal, hstart, -⟩ := nextFold_spec hchrono hnext
    exact ⟨hstart, hcausal⟩

theorem rounds_spec (hchrono : timestamps.Pairwise (· < ·))
    (h : Rounds config timestamps cursor foldIndex folds) :
    folds.map EventWalkForwardFold.foldIndex = List.range' foldIndex folds.length ∧
      (∀ fold ∈ folds, Causal config timestamps fold) ∧
      folds.IsChain fun fold next => fold.testEnd ≤ next.trainStart ∧
        fold.testEndTime + seconds config.embargoDurationSec ≤ next.trainStartTime := by
  induction h with
  | stop => exact ⟨rfl, fun fold hfold => absurd hfold List.not_mem_nil, .nil⟩
  | fold hnext hrest ih =>
    obtain ⟨hindices, hcausals, hchain⟩ := ih
    obtain ⟨hcausal, -, hindex, hle, -, hembargo⟩ := nextFold_spec hchrono hnext
    refine ⟨?_, List.forall_mem_cons.mpr ⟨hcausal, hcausals⟩, List.isChain_cons.mpr ⟨?_, hchain⟩⟩
    · rw [List.map_cons, hindices, hindex, List.length_cons, List.range'_succ]
    · intro g hg
      obtain ⟨hstart, hg⟩ := rounds_head hchrono hrest g hg
      have htime := hg.trainStartTime
      rw [hstart] at htime
      exact ⟨hstart ▸ hle, hembargo _ htime⟩

theorem rounds_start (hchrono : timestamps.Pairwise (· < ·))
    (h : Rounds config timestamps cursor foldIndex folds) :
    ∀ fold ∈ folds, cursor ≤ fold.trainStart := by
  induction h with
  | stop => exact fun fold hfold => absurd hfold List.not_mem_nil
  | fold hnext hrest ih =>
    obtain ⟨hcausal, hstart, -, hle, -, -⟩ := nextFold_spec hchrono hnext
    have htrain := hcausal.train
    have hapart := hcausal.apart
    have htest := hcausal.test
    refine List.forall_mem_cons.mpr ⟨hstart.ge, fun fold hfold => ?_⟩
    have hfold' := ih fold hfold
    omega

/-- **The folds never leak.** -/
theorem rounds_noLeak (hchrono : timestamps.Pairwise (· < ·))
    (h : Rounds config timestamps 0 0 folds) : NoLeak config timestamps folds := by
  obtain ⟨hindices, hcausal, hchain⟩ := rounds_spec hchrono h
  refine ⟨by rw [hindices, List.range_eq_range'], hcausal, hchain.imp fun _ _ h => h.2, ?_⟩
  exact ordered_windows (fun fold hfold => ⟨(hcausal fold hfold).train, (hcausal fold hfold).apart,
    (hcausal fold hfold).test⟩) (hchain.imp fun _ _ h => h.1)

end Loop

section Records

variable {config : WalkForwardConfig} {count trainStart foldIndex : ℕ}
    {folds : List WalkForwardFold}

/-- What holds of the folds of a number of records. -/
structure NoLeakRecords (config : WalkForwardConfig) (count : ℕ) (folds : List WalkForwardFold) :
    Prop where
  indices : folds.map WalkForwardFold.foldIndex = List.range folds.length
  sizes : ∀ fold ∈ folds, fold.trainEnd = fold.trainStart + config.trainSize ∧
    fold.testStart = fold.trainEnd + config.purgeSize ∧
    fold.testEnd = fold.testStart + config.testSize ∧
    fold.trainStart < fold.trainEnd ∧ fold.trainEnd ≤ fold.testStart ∧
    fold.testStart < fold.testEnd ∧
    fold.testEnd ≤ count
  embargoed : folds.IsChain fun fold next => next.trainStart = fold.testEnd + config.embargoSize
  disjoint : Ordered (folds.flatMap fun fold =>
    [(fold.trainStart, fold.trainEnd), (fold.testStart, fold.testEnd)])

theorem recordFolds_total {fuel : ℕ} (hfuel : count < trainStart + fuel) (hpositive : 0 < fuel) :
    ∃ folds, recordFolds config count fuel trainStart foldIndex = some folds := by
  induction fuel generalizing trainStart foldIndex with
  | zero => omega
  | succ fuel ih =>
    rw [recordFolds]
    have htrain := config.positive.1
    split_ifs with hend
    · exact ⟨[], rfl⟩
    · have hrest : ∃ folds, recordFolds config count fuel
          (trainStart + config.trainSize + config.purgeSize +
          config.testSize + config.embargoSize) (foldIndex + 1) = some folds :=
        ih (by omega) (by omega)
      obtain ⟨folds, hfolds⟩ := hrest
      exact ⟨_, by rw [hfolds]; rfl⟩

theorem recordFolds_spec {fuel : ℕ}
    (h : recordFolds config count fuel trainStart foldIndex = some folds) :
    folds.map WalkForwardFold.foldIndex = List.range' foldIndex folds.length ∧
      (∀ fold ∈ folds, fold.trainEnd = fold.trainStart + config.trainSize ∧
        fold.testStart = fold.trainEnd + config.purgeSize ∧
        fold.testEnd = fold.testStart + config.testSize ∧
        fold.trainStart < fold.trainEnd ∧ fold.trainEnd ≤ fold.testStart ∧
        fold.testStart < fold.testEnd ∧
        fold.testEnd ≤ count) ∧
      (∀ fold, folds.head? = some fold → fold.trainStart = trainStart) ∧
      folds.IsChain fun fold next => next.trainStart = fold.testEnd + config.embargoSize := by
  obtain ⟨htrain, htest⟩ := config.positive
  induction fuel generalizing trainStart foldIndex folds with
  | zero => cases h
  | succ fuel ih =>
    rw [recordFolds] at h
    split_ifs at h with hend
    · cases h
      exact ⟨rfl, fun fold hfold => absurd hfold List.not_mem_nil,
        fun fold hfold => absurd hfold (by simp), .nil⟩
    · obtain ⟨rest, hrest, rfl⟩ := Option.map_eq_some_iff.mp h
      obtain ⟨hindices, hsizes, hhead, hchain⟩ := ih hrest
      refine ⟨?_, List.forall_mem_cons.mpr ⟨?_, hsizes⟩, ?_, List.isChain_cons.mpr ⟨hhead, hchain⟩⟩
      · rw [List.map_cons, hindices, List.length_cons, List.range'_succ]
      · dsimp only
        refine ⟨rfl, rfl, rfl, ?_, ?_, ?_, ?_⟩ <;> omega
      · intro fold hfold
        cases hfold
        rfl

theorem recordFolds_noLeak {fuel : ℕ} (h : recordFolds config count fuel 0 0 = some folds) :
    NoLeakRecords config count folds := by
  obtain ⟨hindices, hsizes, -, hchain⟩ := recordFolds_spec h
  refine ⟨by rw [hindices, List.range_eq_range'], hsizes, hchain, ?_⟩
  refine ordered_windows (fun fold hfold => (hsizes fold hfold).2.2.2.imp_right
    fun h => ⟨h.1, h.2.1⟩) ?_
  exact hchain.imp fun _ _ h => by omega

end Records

/-! ### Two lists with a common beginning -/

section Agree

variable {config : EventWalkForwardConfig} {timestamps timestamps' : List ℤ} {n : ℕ}

/-- The lists agree on their first `n` times. -/
def Agree (n : ℕ) (timestamps timestamps' : List ℤ) : Prop :=
  ∀ i < n, timestamps[i]? = timestamps'[i]?

theorem firstFrom_eq {start i default : ℕ} {bound t : ℤ} (hstart : start ≤ i)
    (ht : timestamps[i]? = some t) (hbound : bound ≤ t)
    (hbefore : ∀ j u, start ≤ j → j < i → timestamps[j]? = some u → u < bound) :
    firstFrom timestamps start bound default = i := by
  rw [firstFrom_default hstart ht hbound]
  have hinside := (List.getElem?_eq_some_iff.mp ht).1
  obtain ⟨hle, -, hearlier, hat⟩ := firstFrom_spec bound (hstart.trans hinside.le)
  rcases lt_trichotomy (firstFrom timestamps start bound timestamps.length) i with hlt | heq | hlt
  · have hfound := List.getElem?_eq_getElem (hlt.trans hinside)
    exact absurd (hat _ hfound) (not_le.mpr (hbefore _ _ hle hlt hfound))
  · exact heq
  · exact absurd hbound (not_le.mpr (hearlier i t hstart hlt ht))

/-- A search that ends within the common beginning ends at the same place in both. -/
theorem firstFrom_agree (hagree : Agree n timestamps timestamps') {start : ℕ} {bound : ℤ}
    (hstart : start ≤ timestamps.length)
    (hlt : firstFrom timestamps start bound timestamps.length < n)
    (hinside : firstFrom timestamps start bound timestamps.length < timestamps.length)
    (default : ℕ) :
    firstFrom timestamps' start bound default =
    firstFrom timestamps start bound timestamps.length := by
  obtain ⟨hle, -, hbefore, hat⟩ := firstFrom_spec bound hstart
  have hfound := List.getElem?_eq_getElem hinside
  refine firstFrom_eq hle ((hagree _ hlt).symm.trans hfound) (hat _ hfound) ?_
  intro j u hj hji hu
  exact hbefore j u hj hji ((hagree j (hji.trans hlt)).trans hu)

/-- A round that leads into the common beginning is the same in both lists. -/
theorem nextFold_agree (hchrono : timestamps.Pairwise (· < ·))
    (hagree : Agree n timestamps timestamps') {cursor foldIndex next : ℕ}
    {fold : EventWalkForwardFold}
    (h : nextFold config timestamps cursor foldIndex = some (fold, next)) (hnext : next < n)
    (hinside : next < timestamps.length) :
    nextFold config timestamps' cursor foldIndex = some (fold, next) := by
  obtain ⟨hcausal, hstart, -, hle, -, -⟩ := nextFold_spec hchrono h
  have htrain := hcausal.train
  have hapart := hcausal.apart
  have htest := hcausal.test
  unfold nextFold at h ⊢
  rw [← hagree cursor (by omega)]
  cases hcursor : timestamps[cursor]? with
  | none =>
    rw [hcursor] at h
    cases h
  | some trainStartTime =>
    rw [hcursor] at h
    dsimp only at h ⊢
    cases htestAt :
      timestamps[firstFrom timestamps 0 (trainStartTime + seconds config.trainDurationSec +
        seconds config.purgeDurationSec) timestamps.length]? with
    | none =>
      rw [htestAt] at h
      cases h
    | some testStartTime =>
      rw [htestAt] at h
      dsimp only at h
      have hpurge := (firstFrom_spec (trainStartTime + seconds config.trainDurationSec +
        seconds config.purgeDurationSec) (Nat.zero_le timestamps.length)).2.2.2 _ htestAt
      have hnonneg : 0 ≤ seconds config.purgeDurationSec := by
        unfold seconds
        positivity
      have hdefault : firstFrom timestamps 0 (trainStartTime + seconds config.trainDurationSec)
          (firstFrom timestamps 0 (trainStartTime + seconds config.trainDurationSec +
            seconds config.purgeDurationSec) timestamps.length) =
          firstFrom timestamps 0 (trainStartTime + seconds config.trainDurationSec)
            timestamps.length :=
        firstFrom_default (Nat.zero_le _) htestAt (by omega)
      rw [hdefault] at h
      have htestInside := (List.getElem?_eq_some_iff.mp htestAt).1
      split_ifs at h with hempty hnone
      cases h
      dsimp only at hstart htrain hapart htest hle
      rw [firstFrom_agree hagree (Nat.zero_le _) (by omega) htestInside,
        ← hagree _ (by omega), htestAt]
      dsimp only
      rw [firstFrom_agree hagree htestInside.le (by omega) (by omega),
        firstFrom_agree hagree (Nat.zero_le _) (by omega) (by omega),
        firstFrom_agree hagree (by omega) (by omega) (by omega), if_neg hempty, if_neg hnone]

/-- The common beginning are the times before `time`. -/
structure Common (time : ℤ) (n : ℕ) (timestamps timestamps' : List ℤ) : Prop where
  agree : Agree n timestamps timestamps'
  left : ∀ i t, timestamps[i]? = some t → (i < n ↔ t < time)
  right : ∀ i t, timestamps'[i]? = some t → (i < n ↔ t < time)
  inside : n ≤ timestamps.length ∧ n ≤ timestamps'.length

theorem trainEnd_eq (hchrono : timestamps.Pairwise (· < ·)) {time : ℤ} {fold : EventWalkForwardFold}
    (hfold : Causal config timestamps fold)
    (hend : fold.trainEndTime = time) (hplace : ∀ i t, timestamps[i]? = some t → (i < n ↔ t < time))
    (hinside : n ≤ timestamps.length) : fold.trainEnd = n := by
  have htrain := hfold.train
  have hapart := hfold.apart
  have htest := hfold.test
  have hlength := hfold.inside
  have hstartTime : fold.trainStartTime < time := by
    have hpositive : 0 < seconds config.trainDurationSec := by
      have hconfig := config.positive.1
      unfold seconds
      positivity
    rw [← hend, hfold.trainEndTime]
    omega
  have hstart : fold.trainStart < n := (hplace _ _ hfold.trainStartTime).mpr hstartTime
  -- an index in front of the end is trained exactly if its time is before the end
  have htrained : ∀ i, i < timestamps.length → fold.trainStart ≤ i →
      (i < fold.trainEnd ↔ i < n) := by
    intro i hi hle
    have hat := List.getElem?_eq_getElem hi
    have hwindow := hfold.trained i _ hat
    have htime := hplace i _ hat
    rw [hend] at hwindow
    constructor
    · intro hlt
      exact htime.mpr (hwindow.mp ⟨hle, hlt⟩).2
    · intro hlt
      exact (hwindow.mpr ⟨(le_iff_of_index hchrono hfold.trainStartTime hat).mp hle,
        htime.mp hlt⟩).2
  rcases lt_trichotomy fold.trainEnd n with hlt | heq | hlt
  · exact absurd ((htrained fold.trainEnd (by omega) htrain.le).mpr hlt) (lt_irrefl _)
  · exact heq
  · exact absurd ((htrained n (by omega) hstart.le).mp hlt) (lt_irrefl _)

/-- A fold that starts within the common beginning starts and trains alike in both lists. -/
theorem rounds_agree (hchrono : timestamps.Pairwise (· < ·))
    (hchrono' : timestamps'.Pairwise (· < ·)) {time : ℤ}
    (hcommon : Common time n timestamps timestamps') {cursor foldIndex k : ℕ}
    {folds folds' : List EventWalkForwardFold} (h : Rounds config timestamps cursor foldIndex folds)
    (h' : Rounds config timestamps' cursor foldIndex folds') {fold fold' : EventWalkForwardFold}
    (hfold : folds[k]? = some fold) (hfold' : folds'[k]? = some fold')
    (hend : fold.trainEndTime = time) :
    fold'.foldIndex = fold.foldIndex ∧ fold'.trainStart = fold.trainStart ∧ fold.trainEnd = n ∧
      fold'.trainEnd = n := by
  induction k generalizing cursor foldIndex folds folds' with
  | zero =>
    cases h with
    | stop => cases hfold
    | fold hround hrest =>
      cases h' with
      | stop => cases hfold'
      | fold hround' hrest' =>
        cases hfold
        cases hfold'
        obtain ⟨hcausal, hstart, hindex, -⟩ := nextFold_spec hchrono hround
        obtain ⟨hcausal', hstart', hindex', -⟩ := nextFold_spec hchrono' hround'
        have htrained := trainEnd_eq hchrono hcausal hend hcommon.left hcommon.inside.1
        -- both trainings start at the same time, so they end at the same time
        have hsame : fold'.trainStartTime = fold.trainStartTime := by
          have htrain := hcausal.train
          have hleft := hcausal.trainStartTime
          have hright := hcausal'.trainStartTime
          rw [hstart] at hleft htrain
          rw [hstart', ← hcommon.agree cursor (by omega), hleft] at hright
          exact (Option.some.inj hright).symm
        have hend' : fold'.trainEndTime = time := by
          rw [hcausal'.trainEndTime, hsame, ← hcausal.trainEndTime, hend]
        exact ⟨hindex'.trans hindex.symm, hstart'.trans hstart.symm, htrained,
          trainEnd_eq hchrono' hcausal' hend' hcommon.right hcommon.inside.2⟩
  | succ k ih =>
    cases h with
    | stop => cases hfold
    | @fold _ _ next first folds hround hrest =>
      have hnext : next < n ∧ next < timestamps.length := by
        obtain ⟨-, hcausals, -⟩ := rounds_spec hchrono hrest
        have hcausal := hcausals fold (List.mem_of_getElem? hfold)
        have hle := rounds_start hchrono hrest fold (List.mem_of_getElem? hfold)
        have htrained := trainEnd_eq hchrono hcausal hend hcommon.left hcommon.inside.1
        have htrain := hcausal.train
        have hinside := hcommon.inside.1
        omega
      have hround' := nextFold_agree hchrono hcommon.agree hround hnext.1 hnext.2
      cases h' with
      | stop hbreak =>
        rw [hround'] at hbreak
        cases hbreak
      | fold hother hrest' =>
        rw [hround'] at hother
        cases hother
        exact ih hrest hrest' hfold hfold'

/-- The events before a time are the common beginning of two lists that agree on them. -/
theorem common_of_filter {events events' : List HistoricalMarketEvent} {time : ℤ}
    (hchrono : (events.map HistoricalMarketEvent.eventTime).Pairwise (· < ·))
    (hchrono' : (events'.map HistoricalMarketEvent.eventTime).Pairwise (· < ·))
    (h : (events.filter fun e => e.eventTime < time) = events'.filter fun e => e.eventTime < time) :
    ∃ n, Common time n (events.map HistoricalMarketEvent.eventTime)
      (events'.map HistoricalMarketEvent.eventTime) ∧ events.take n = events'.take n := by
  have hfront : ∀ {events : List HistoricalMarketEvent},
      (events.map HistoricalMarketEvent.eventTime).Pairwise (· < ·) →
      ∃ n, n ≤ events.length ∧ (events.filter fun e => e.eventTime < time) = events.take n ∧
        ∀ i t, (events.map HistoricalMarketEvent.eventTime)[i]? = some t → (i < n ↔ t < time) := by
    intro events hchrono
    have hplace := fun i t (ht : (events.map HistoricalMarketEvent.eventTime)[i]? = some t) =>
      lt_firstFrom time hchrono ht
    have hlength := (firstFrom_spec time
      (Nat.zero_le (events.map HistoricalMarketEvent.eventTime).length)).2.1
    refine ⟨_, hlength.trans_eq (List.length_map _), Bisect.filter_of_front fun i e he => ?_,
      hplace⟩
    exact (hplace i e.eventTime (by rw [List.getElem?_map, he]; rfl)).symm
  obtain ⟨n, hn, hfilter, hplace⟩ := hfront hchrono
  obtain ⟨n', hn', hfilter', hplace'⟩ := hfront hchrono'
  have htake : events.take n = events'.take n' := by rw [← hfilter, ← hfilter', h]
  have hsame : n = n' := by
    have hlength := congrArg List.length htake
    rw [List.length_take, List.length_take, Nat.min_eq_left hn, Nat.min_eq_left hn'] at hlength
    exact hlength
  subst hsame
  refine ⟨n, ⟨fun i hi => ?_, hplace, hplace', ?_⟩, htake⟩
  · have hat : (events.take n)[i]? = (events'.take n)[i]? := by rw [htake]
    rw [List.getElem?_take_of_lt hi, List.getElem?_take_of_lt hi] at hat
    rw [List.getElem?_map, List.getElem?_map, hat]
  · rw [List.length_map, List.length_map]
    exact ⟨hn, hn'⟩

end Agree

end Blessing.Backtest.WalkForward
