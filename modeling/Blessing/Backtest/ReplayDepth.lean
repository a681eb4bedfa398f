import Blessing.Backtest.Discipline
import Blessing.Engines.GridStrategy
import Mathlib.Data.List.Dedup

/-! # The grid depth of a replay

A replay counts the fills of decisions with an intent of the grid and never counts down. The worker
takes the depth from the position and the filled orders, and every order of the pipeline has a name
that counts as one of the grid. The two agree as long as no fill closes the position and exactly the
first five fills come with an intent of the grid. -/

namespace Blessing.Backtest.ReplayDepth

open Blessing.Lib Blessing.Lib.Rounding Blessing.Lib.Effects
open Blessing.Binance.Models (OrderSide)
open Blessing.Engines.Intents Blessing.Engines.Governor Blessing.Engines.GridStrategy
open Blessing.Backtest.Economic Blessing.Backtest.Replay Blessing.Backtest.Steps
open Blessing.Backtest.Discipline (positionQty)

/-! ### The depth the worker would observe -/

/-- The distinct filled orders that count as ones of the grid, as `_observed_grid_depth` finds
them. -/
def filledGridOrders (fills : List ExchangeFill) : ℕ :=
  ((fills.filter fun f => hasGridLineage f.sourceIntentIds f.clientOrderId ||
    isGridStrategy f.strategyId).map
    ExchangeFill.clientOrderId).dedup.length

/-- `observed_depth` of a position and fills, without an open order. -/
def liveDepth (position : Option PositionState) (fills : List ExchangeFill) : Option ℕ :=
  defaultEngine.observedDepth |positionQty position| 0 (filledGridOrders fills)

/-- The counter of a replay is the depth the worker would observe. -/
def Follows (a : Account) : Prop := liveDepth a.position a.fills = some a.gridDepth

/-- No fill has closed the position, and the first five had an intent of the grid, and no later
one. -/
def Expanding (applied : List Applied) : Prop :=
  ∀ i f, applied[i]? = some f → f.after ≠ none ∧ (f.grid = true ↔ i < 5)

/-! ### The fills of a run -/

/-- The names of the fills, with numbers up to one. -/
structure Numbered (platform : Platform) (n : ℕ) (fills : List ExchangeFill) : Prop where
  named : ∀ f ∈ fills, ∃ t k, k ≤ n ∧ f.clientOrderId = nextId platform.stamp "B-SYS" t k
  distinct : (fills.map ExchangeFill.clientOrderId).Nodup

theorem hasGridLineage_nextId (stamp : Instant → String) (t : Instant) (n : ℕ) (ids : List String) :
    hasGridLineage ids (nextId stamp "B-SYS" t n) = true := by
  have hmark : "B-".toList.isPrefixOf (Text.upper (nextId stamp "B-SYS" t n)).toList = true := by
    have hfront : Text.upper "B-SYS-" = "B-SYS-" := by decide +kernel
    simp [nextId, hfront, Text.upper_append, String.toList_append]
  rw [hasGridLineage, List.any_cons, List.any_cons, hmark, Bool.true_or, Bool.or_true, Bool.or_true]

theorem filledGridOrders_eq {platform : Platform} {n : ℕ} {fills : List ExchangeFill}
    (h : Numbered platform n fills) : filledGridOrders fills = fills.length := by
  have hall : (fills.filter fun f => hasGridLineage f.sourceIntentIds f.clientOrderId ||
      isGridStrategy f.strategyId) = fills := by
    refine List.filter_eq_self.mpr fun f hf => ?_
    obtain ⟨t, k, -, hid⟩ := h.named f hf
    rw [hid, hasGridLineage_nextId, Bool.true_or]
  rw [filledGridOrders, hall, List.Nodup.dedup h.distinct, List.length_map]

/-- What holds of a replay, however its depth is. -/
structure Counted (platform : Platform) (n : ℕ) (a : Account) : Prop where
  numbered : Numbered platform n a.fills
  recorded : a.applied.map Applied.fill = a.fills
  counter : a.gridDepth = a.applied.countP Applied.grid
  latest : a.position.isNone = (a.applied.getLast?.all fun f => f.after.isNone)
  nonzero : ∀ p, a.position = some p → p.signedQty ≠ 0

variable {c : Context} {config : ReplayExecutionConfig} {platform : Platform} {n : ℕ}
    {a b : Account}

theorem counted_start : Counted platform 0 (account (start config)) where
  numbered := ⟨fun _ hf => absurd hf List.not_mem_nil, List.nodup_nil⟩
  recorded := rfl
  counter := rfl
  latest := rfl
  nonzero := fun p hp => by cases hp

theorem counted_mono {n' : ℕ} (hle : n ≤ n') (h : Counted platform n a) :
    Counted platform n' a := by
  refine ⟨⟨fun f hf => ?_, h.numbered.distinct⟩, h.recorded, h.counter, h.latest, h.nonzero⟩
  obtain ⟨t, k, hk, hid⟩ := h.numbered.named f hf
  exact ⟨t, k, hk.trans hle, hid⟩

theorem counted_fund {p : PositionState} {f : ℚ} (hopen : a.position = some p)
    (h : Counted platform n a) : Counted platform n (a.fund c f) := by
  have hlatest := h.latest
  rw [hopen] at hlatest
  refine ⟨h.numbered, h.recorded, h.counter, ?_, fun p' hp => ?_⟩
  · simp only [Account.fund, hopen]
    exact hlatest
  · simp only [Account.fund, hopen, Option.map_some] at hp
    cases hp
    exact h.nonzero p hopen

theorem numbered_snoc {fills : List ExchangeFill} {fill : ExchangeFill} {t : Instant}
    (h : Numbered platform n fills)
    (hid : fill.clientOrderId = nextId platform.stamp "B-SYS" t (n + 1)) :
    Numbered platform (n + 1) (fills ++ [fill]) := by
  refine ⟨fun f hf => ?_, ?_⟩
  · rcases List.mem_append.mp hf with hold | hnew
    · obtain ⟨t', k, hk, hid'⟩ := h.named f hold
      exact ⟨t', k, hk.trans (Nat.le_succ n), hid'⟩
    · rw [List.mem_singleton.mp hnew]
      exact ⟨t, n + 1, le_rfl, hid⟩
  · rw [List.map_append, List.map_singleton, List.nodup_append]
    refine ⟨h.distinct, List.nodup_singleton _, ?_⟩
    intro id hold id' hnew heq
    rw [List.mem_singleton.mp hnew] at heq
    obtain ⟨f, hf, rfl⟩ := List.mem_map.mp hold
    obtain ⟨t', k, hk, hid'⟩ := h.named f hf
    rw [hid', hid] at heq
    have := nextId_inj heq
    omega

/-- The quantity of an accepted order is a number of the arithmetic. -/
theorem quantity_fixed {position : Option PositionState} {event : HistoricalMarketEvent}
    {order : OrderIntent} {price : ℚ} (h : Accepted c config position event order price) :
    c.Fixed order.quantity := by
  obtain ⟨rules, -, ⟨units, hunits⟩, -⟩ := h.rules
  rw [hunits]
  exact Context.fixed_round _

theorem counted_filled {event : HistoricalMarketEvent} {order : OrderIntent}
    {price : ℚ} {grid : Bool} {t : Instant} (h : Counted platform n a)
    (hid : order.clientOrderId = nextId platform.stamp "B-SYS" t (n + 1))
    (haccepted : Accepted c config a.position event order price)
    (hfilled : Filled c config event order price grid a b) :
    Counted platform (n + 1)
      { b with gridDepth := if grid then b.gridDepth + 1 else b.gridDepth } := by
  have hrecorded := hfilled.recorded h.recorded
  have hcounter (f : Applied) (hf : f.grid = grid) :
      (if grid = true then a.gridDepth + 1 else a.gridDepth) =
      (a.applied ++ [f]).countP Applied.grid := by
    rw [List.countP_append, ← h.counter, List.countP_singleton, hf]
    split_ifs <;> rfl
  cases hfilled with
  | opening strategyId regime fill hflat hfill =>
    refine ⟨numbered_snoc h.numbered (hfill.clientOrderId.trans hid), hrecorded,
      hcounter _ rfl, ?_, ?_⟩
    · simp
    · intro p hp
      cases hp
      have hpositive := haccepted.positive
      simp only [openedPosition]
      cases order.side with
      | buy => exact hpositive.ne'
      | sell =>
        simp only [signedOrderQty]
        rw [Context.minus_eq (quantity_fixed haccepted)]
        exact neg_ne_zero.mpr hpositive.ne'
  | reducing p trade fill hopen hopposite htrade hfill after hafter =>
    refine ⟨numbered_snoc h.numbered (hfill.clientOrderId.trans hid), hrecorded,
      hcounter _ rfl, ?_, ?_⟩
    · simp
    · intro p' hp
      dsimp only at hp
      rw [hafter] at hp
      split_ifs at hp with hzero
      cases hp
      exact hzero

theorem replayed_counted {events : List Observed} {r : Run}
    (h : replayed c config platform events = .ok r) :
    Counted platform r.replay.sequence (account r) :=
  replayed_inv (fun n a => Counted platform n a) counted_start
    (fun _ _ _ hle h => counted_mono hle h)
    (fun _ _ _ _ hopen h => counted_fund hopen h)
    (fun _ _ _ _ _ _ _ _ ha hid haccepted hfilled => counted_filled ha hid haccepted hfilled) r h

/-! ### When the counter follows -/

theorem expanding_nil : Expanding [] := by
  intro i f hf
  rw [List.getElem?_nil] at hf
  cases hf

theorem expanding_snoc {xs : List Applied} {x : Applied} : Expanding (xs ++ [x]) ↔
    Expanding xs ∧ x.after ≠ none ∧ (x.grid = true ↔ xs.length < 5) := by
  constructor
  · intro h
    refine ⟨fun i f hf => h i f ?_, h xs.length x List.getElem?_concat_length⟩
    obtain ⟨hlt, -⟩ := List.getElem?_eq_some_iff.mp hf
    rw [List.getElem?_append_left hlt]
    exact hf
  · rintro ⟨hxs, hafter, hgrid⟩ i f hf
    rcases lt_trichotomy i xs.length with hlt | rfl | hgt
    · rw [List.getElem?_append_left hlt] at hf
      exact hxs i f hf
    · rw [List.getElem?_concat_length] at hf
      cases hf
      exact ⟨hafter, hgrid⟩
    · rw [List.getElem?_eq_none (by rw [List.length_append]; exact hgt)] at hf
      cases hf

theorem countP_expanding {xs : List Applied} (h : Expanding xs) :
    xs.countP Applied.grid = min 5 xs.length := by
  induction xs using List.reverseRecOn with
  | nil => rfl
  | append_singleton xs x ih =>
    obtain ⟨hxs, -, hgrid⟩ := expanding_snoc.mp h
    rw [List.countP_append, ih hxs, List.countP_singleton, List.length_append,
      List.length_singleton]
    split_ifs with hx
    · have := hgrid.mp hx
      omega
    · have := mt hgrid.mpr hx
      omega

theorem liveDepth_flat (fills : List ExchangeFill) : liveDepth none fills = some 0 := by
  have hzero : |positionQty none| = 0 := abs_zero
  rw [liveDepth, hzero, GridStrategyEngine.observedDepth, if_neg (lt_irrefl 0), if_pos ⟨rfl, rfl⟩]

theorem liveDepth_open {p : PositionState} {fills : List ExchangeFill} (hne : p.signedQty ≠ 0)
    (hnumbered : Numbered platform n fills) (hfills : fills ≠ []) :
    liveDepth (some p) fills = some (min 5 fills.length) := by
  have hpos : 0 < |positionQty (some p)| := abs_pos.mpr hne
  have hlength := List.length_pos_of_ne_nil hfills
  unfold liveDepth GridStrategyEngine.observedDepth
  rw [filledGridOrders_eq hnumbered, if_neg hpos.not_gt, if_neg fun h => hpos.ne' h.1,
    if_neg fun h => by omega, Nat.zero_add]
  rfl

theorem Counted.applied_ne_nil (h : Counted platform n a) {p : PositionState}
    (hopen : a.position = some p) : a.applied ≠ [] := by
  intro hnil
  have hlatest := h.latest
  rw [hopen, hnil] at hlatest
  cases hlatest

theorem follows_iff (h : Counted platform n a) : Follows a ↔
    a.gridDepth = if a.position.isNone then 0 else min 5 a.applied.length := by
  unfold Follows
  cases hposition : a.position with
  | none =>
    rw [liveDepth_flat, Option.some_inj, eq_comm]
    rfl
  | some p =>
    have hlength : a.fills.length = a.applied.length := by rw [← h.recorded, List.length_map]
    have hfills : a.fills ≠ [] := by
      intro hnil
      rw [hnil, List.length_nil] at hlength
      exact h.applied_ne_nil hposition (List.length_eq_zero_iff.mp hlength.symm)
    rw [liveDepth_open (h.nonzero p hposition) h.numbered hfills, Option.some_inj, eq_comm, hlength]
    rfl

theorem follows_of_expanding (h : Counted platform n a) (hexpanding : Expanding a.applied) :
    Follows a := by
  rw [follows_iff h, h.counter, countP_expanding hexpanding]
  cases hposition : a.position with
  | some p => rfl
  | none =>
    have hlatest := h.latest
    rw [hposition] at hlatest
    cases hlast : a.applied.getLast? with
    | none =>
      rw [List.getLast?_eq_none_iff.mp hlast]
      rfl
    | some f =>
      rw [hlast] at hlatest
      have hmem : f ∈ a.applied := List.mem_of_getLast? hlast
      obtain ⟨i, hi⟩ := List.mem_iff_getElem?.mp hmem
      have hnone : f.after = none := Option.isNone_iff_eq_none.mp hlatest.symm
      exact absurd hnone (hexpanding i f hi).1

/-- A fill after which the counter is the observed depth keeps the run expanding. -/
theorem expanding_filled {event : HistoricalMarketEvent} {order : OrderIntent} {price : ℚ}
    {grid : Bool} (hexpanding : Expanding a.applied) (hdepth : a.gridDepth = min 5 a.applied.length)
    (hopened : a.position ≠ none → a.applied ≠ [])
    (hfilled : Filled c config event order price grid a b)
    (hfollows : (if grid then b.gridDepth + 1 else b.gridDepth) =
      if b.position.isNone then 0 else min 5 b.applied.length) : Expanding b.applied := by
  cases hfilled with
  | opening strategyId regime fill hflat hfill =>
    simp only [Option.isNone_some, List.length_append, List.length_singleton, hdepth] at hfollows
    refine expanding_snoc.mpr ⟨hexpanding, Option.some_ne_none _, ?_⟩
    cases grid with
    | true => simp at hfollows ⊢; omega
    | false => simp at hfollows ⊢; omega
  | reducing p trade fill hopen hopposite htrade hfill after hafter =>
    have hlength := List.length_pos_of_ne_nil (hopened (by rw [hopen]; exact Option.some_ne_none p))
    simp only [List.length_append, List.length_singleton, hdepth] at hfollows
    cases after with
    | none =>
      -- a closed position has no depth, but there has been a fill
      simp only [Option.isNone_none, if_true] at hfollows
      split_ifs at hfollows
      omega
    | some p' =>
      simp only [Option.isNone_some] at hfollows
      refine expanding_snoc.mpr ⟨hexpanding, Option.some_ne_none _, ?_⟩
      cases grid with
      | true => simp at hfollows ⊢; omega
      | false => simp at hfollows ⊢; omega

/-- An event after which the counter is the observed depth keeps the run expanding. -/
theorem expanding_step {o : Observed} {r r' : Run}
    (hr : Counted platform r.replay.sequence (account r))
    (hr' : Counted platform r'.replay.sequence (account r')) (hexpanding : Expanding r.applied)
    (h : onEvent c config platform r o = .ok r') (hfollows : Follows (account r')) :
    Expanding r'.applied := by
  obtain ⟨a, hfunded, hordered⟩ := onEvent_ok h
  have hsame : a.applied = r.applied ∧ a.gridDepth = r.replay.gridDepth ∧
      a.position.isNone = r.replay.position.isNone := by
    rcases hfunded with rfl | ⟨p, f, hopen, rfl⟩
    · exact ⟨rfl, rfl, rfl⟩
    · refine ⟨rfl, rfl, ?_⟩
      simp [Account.fund, account]
  obtain ⟨happlied, hdepth, hposition⟩ := hsame
  rw [follows_iff hr'] at hfollows
  have hcount : r.replay.gridDepth = min 5 r.applied.length :=
    hr.counter.trans (countP_expanding hexpanding)
  rw [← happlied] at hexpanding
  rw [← happlied, ← hdepth] at hcount
  have hopened : a.position ≠ none → a.applied ≠ [] := by
    intro hne
    rw [happlied]
    cases hr₀ : r.replay.position with
    | none =>
      rw [hr₀] at hposition
      exact absurd (Option.isNone_iff_eq_none.mp hposition) hne
    | some q => exact hr.applied_ne_nil hr₀
  change Expanding (account r').applied
  generalize account r' = b at hordered hfollows ⊢
  cases hordered with
  | nothing hle => exact hexpanding
  | filled b order price grid hlt hid haccepted hfilled =>
    dsimp only at hfollows ⊢
    exact expanding_filled hexpanding hcount hopened hfilled hfollows

/-! ### Runs -/

theorem replayed_snoc {front : List Observed} {o : Observed} {r' : Run}
    (h : replayed c config platform (front ++ [o]) = .ok r') :
    ∃ r, replayed c config platform front = .ok r ∧ onEvent c config platform r o = .ok r' := by
  unfold replayed at h
  rw [List.foldlM_append] at h
  obtain ⟨r, hr, h⟩ := except_bind_ok.mp h
  rw [List.foldlM_cons] at h
  obtain ⟨next, hnext, h⟩ := except_bind_ok.mp h
  cases h
  exact ⟨r, hr, hnext⟩

/-- While the counter is the observed depth after every event, the run is expanding. -/
theorem expanding_of_follows {front : List Observed}
    (h : ∀ before r, before <+: front → replayed c config platform before = .ok r →
      Follows (account r)) :
    ∀ r, replayed c config platform front = .ok r → Expanding r.applied := by
  induction front using List.reverseRecOn with
  | nil =>
    intro r hr
    cases hr
    exact expanding_nil
  | append_singleton front o ih =>
    intro r' hr'
    obtain ⟨r, hr, hevent⟩ := replayed_snoc hr'
    have hexpanding :=
      ih (fun before r hbefore => h before r (hbefore.trans (List.prefix_append _ _))) r hr
    exact expanding_step (replayed_counted hr) (replayed_counted hr') hexpanding hevent
      (h _ r' List.prefix_rfl hr')

/-- **When a replay uses the live grid depth**: at every event the depth it passes on is the one the
worker would observe if and only if at every event the run so far is expanding. -/
theorem depth_observed_iff (c : Context) (config : ReplayExecutionConfig) (platform : Platform)
    (events : List Observed) :
    (∀ front o r, front ++ [o] <+: events → replayed c config platform front = .ok r →
        Follows (account r)) ↔
      ∀ front o r, front ++ [o] <+: events → replayed c config platform front = .ok r →
        Expanding r.applied := by
  constructor
  · intro h front o r hfront hr
    refine expanding_of_follows (fun before r' hbefore hr' => ?_) r hr
    obtain ⟨rest, rfl⟩ := hbefore
    cases rest with
    | nil =>
      rw [List.append_nil] at hfront
      exact h before o r' hfront hr'
    | cons o' rest =>
      refine h before o' r' (List.IsPrefix.trans ?_ hfront) hr'
      exact ⟨rest ++ [o], by simp⟩
  · intro h front o r hfront hr
    exact follows_of_expanding (replayed_counted hr) (h front o r hfront hr)

/-! ### A position that is flat again -/

open Blessing.Backtest.Discipline (sampleConfig samplePlatform sampleEvent sampleIntent)

/-- The first event, at which the price action has no state yet. -/
def first : Observed := ⟨sampleEvent, none⟩

/-- A minute later the grid buys two. -/
def opening : Observed where
  event := { sampleEvent with eventId := "event-2", eventTime := 120000000 }
  analysis := some ⟨"R0", fun _ => [{ sampleIntent with strategyId := "Structural Grid" }]⟩

/-- A minute later the trend sells them. -/
def closing : Observed where
  event := { sampleEvent with eventId := "event-3", eventTime := 180000000 }
  analysis := some ⟨"R2", fun _ =>
    [{ sampleIntent with
      direction := .short
      desiredDeltaQty := -2
      timestamp := ⟨180000000, true⟩ }]⟩

/-- A minute later the strategies are asked, with a depth, and want nothing. -/
def asked : Observed where
  event := { sampleEvent with eventId := "event-4", eventTime := 240000000 }
  analysis := some ⟨"R0", fun _ => []⟩

/-- The replay passes on a depth of one where the worker would observe none. -/
theorem closed_grid_keeps_depth : ¬ ∀ (config : ReplayExecutionConfig) (platform : Platform)
    (events : List Observed), validateEventSequence (events.map Observed.event) = .ok () →
    ∀ front o r, front ++ [o] <+: events → replayed .default config platform front = .ok r →
      Follows (account r) := by
  intro hclaim
  have hdepth : (replayed .default (sampleConfig (1 / 1000) (by norm_num)) samplePlatform
      [first, opening, closing]).toOption.map
        (fun r => (r.replay.gridDepth, liveDepth r.replay.position r.fills)) =
        some (1, some 0) := by
    decide +kernel
  cases hr : replayed .default (sampleConfig (1 / 1000) (by norm_num)) samplePlatform
      [first, opening, closing] with
  | error e =>
    rw [hr] at hdepth
    cases hdepth
  | ok r =>
    rw [hr] at hdepth
    obtain ⟨hcounter, hlive⟩ := Prod.mk.inj (Option.some.inj hdepth)
    have hfollows : liveDepth r.replay.position r.fills = some r.replay.gridDepth :=
      hclaim (sampleConfig (1 / 1000) (by norm_num)) samplePlatform [first, opening,
        closing, asked] rfl
        [first, opening, closing] asked r List.prefix_rfl hr
    rw [hcounter, hlive] at hfollows
    cases hfollows

end Blessing.Backtest.ReplayDepth
