import Blessing.Engines.Governor

/-! # De-risking

Allocation, recovery and governor one after the other, as `handle_market_event` runs them. Under a
toxic drawdown, in a risk-off state or at a limit the pipeline can only make the position smaller.
That it does so under a toxic drawdown has one exception: a strategy's own target against the
position is handed on as it is, and the governor drops it when it is below the threshold or would
cross zero. -/

namespace Blessing.Engines.Derisking

open Blessing.Lib Blessing.Lib.Rounding Blessing.Lib.Effects
open Blessing.Binance.Models (OrderSide EconomicRiskClass Exn)
open Blessing.Engines.Intents Blessing.Engines.ExposureRecovery Blessing.Engines.Governor

/-- The engines of the pipeline. -/
structure Pipeline where
  allocator : MetaAllocator
  recovery : ExposureRecoveryEngine := {}
  governor : RiskGovernor := {}

/-- The moments and names a decision is made with. -/
structure Clock where
  /-- `utc_now()` of the allocation -/
  allocated : ℤ
  exposureId : String
  /-- the clock of the recovery engine -/
  recovered : Instant
  /-- the clock of the governor -/
  evaluated : Instant
  stamp : Instant → String

/-- What the engines remember. -/
structure Memory where
  states : States
  sequence : ℕ

/-- `process`, then `evaluate`. -/
def Pipeline.follow (c : Context) (pipeline : Pipeline) (clock : Clock) (memory : Memory)
    (raw : TargetExposure) (risk : RiskSnapshot) (currentQty : ℚ) : ExecutionDecision × Memory :=
  let recovered := pipeline.recovery.process c clock.recovered memory.states raw risk currentQty
  let evaluated :=
    pipeline.governor.evaluate c clock.stamp clock.evaluated memory.sequence recovered.1
    risk currentQty
  (evaluated.1, ⟨recovered.2, evaluated.2⟩)

/-- The pipeline of `handle_market_event`: `allocate`, `process`, `evaluate`. -/
def Pipeline.decide (c : Context) (pipeline : Pipeline) (clock : Clock) (memory : Memory)
    (intents : List StrategyIntent) (symbol : String) (risk : RiskSnapshot) (currentQty : ℚ) :
    Except Exn (ExecutionDecision × Memory) := do
  let raw ← pipeline.allocator.allocate c clock.allocated clock.exposureId intents symbol
  return pipeline.follow c clock memory raw risk currentQty

/-! ### Orders that reduce -/

/-- The signed quantity of an order. -/
def signedQuantity (order : OrderIntent) : ℚ :=
  match order.side with
  | .buy => order.quantity
  | .sell => -order.quantity

/-- The order can do nothing but make the position smaller. -/
structure Reducing (q : ℚ) (order : OrderIntent) : Prop where
  reduceOnly : order.reduceOnly = true
  opposite : (0 < q ∧ order.side = .sell) ∨ (q < 0 ∧ order.side = .buy)
  within : order.quantity ≤ |q|
  smaller : |q + signedQuantity order| < |q|
  sameSign : (0 < q → 0 ≤ q + signedQuantity order) ∧ (q < 0 → q + signedQuantity order ≤ 0)

/-- The delta points against the position. -/
def Against (q delta : ℚ) : Prop := (0 < q ∧ delta < 0) ∨ (q < 0 ∧ 0 < delta)

variable {c : Context}

/-! ### The governor -/

section

variable {g : RiskGovernor} {stamp : Instant → String} {now : Instant} {sequence : ℕ}
  {target : TargetExposure} {risk : RiskSnapshot} {q : ℚ}

/-- What a decision can be: nothing, or one order for a delta of a known class. -/
theorem evaluate_cases (g : RiskGovernor) (stamp : Instant → String) (now : Instant) (sequence : ℕ)
    (target : TargetExposure) (risk : RiskSnapshot) (q : ℚ) :
    ((g.evaluate c stamp now sequence target risk q).1.orders = [] ∧
        (g.evaluate c stamp now sequence target risk q).2 = sequence + 1) ∨
      ∃ riskClass, g.blocked c now target risk q = none ∧
        1 / 1000 ≤ c.magnitude target.targetNetDeltaQty ∧
        classifyRisk c target.targetNetDeltaQty q = some riskClass ∧
        g.evaluate c stamp now sequence target risk q =
          (g.submit c stamp now sequence target q riskClass, sequence + 2) := by
  rw [RiskGovernor.evaluate_eq]
  cases g.blocked c now target risk q with
  | some rational => exact .inl ⟨rfl, rfl⟩
  | none =>
    dsimp only
    split_ifs with hsmall
    · exact .inl ⟨rfl, rfl⟩
    · cases classifyRisk c target.targetNetDeltaQty q with
      | none => exact .inl ⟨rfl, rfl⟩
      | some riskClass => exact .inr ⟨riskClass, rfl, not_lt.mp hsmall, rfl, rfl⟩

/-- A delta against the position is classified by its size. -/
theorem classifyRisk_against {delta : ℚ} (h : Against q delta) : classifyRisk c delta q =
    if c.magnitude q < c.magnitude delta then none
    else if c.magnitude delta = c.magnitude q then some .close else some .reduceRisk := by
  have hq : q ≠ 0 := by
    rcases h with ⟨h, -⟩ | ⟨h, -⟩
    · exact h.ne'
    · exact h.ne
  rw [classifyRisk, if_neg hq, if_pos (show 0 < q ∧ delta < 0 ∨ q < 0 ∧ 0 < delta from h)]

/-- Only a delta against the position is classified as a reduction. -/
theorem against_of_reduces {delta : ℚ} {riskClass : EconomicRiskClass}
    (hclass : classifyRisk c delta q = some riskClass) (hreduces : reduces riskClass = true) :
    Against q delta := by
  by_contra hagainst
  unfold classifyRisk at hclass
  split_ifs at hclass with hflat hopposite
  · cases hclass
    cases hreduces
  · exact hagainst hopposite
  · exact hagainst hopposite
  · cases hclass
    cases hreduces

theorem isPositionReduction_iff {delta : ℚ} : isPositionReduction c delta q = true ↔
    Against q delta ∧ c.magnitude delta ≤ c.magnitude q := by
  unfold isPositionReduction Against
  rcases lt_trichotomy q 0 with hq | rfl | hq
  · simp [hq, hq.not_gt]
  · simp
  · simp [hq, hq.not_gt]

/-- A delta against the position, no larger than it, reduces. -/
theorem reduces_of_within {delta : ℚ} {riskClass : EconomicRiskClass} (hagainst : Against q delta)
    (hwithin : c.magnitude delta ≤ c.magnitude q)
    (hclass : classifyRisk c delta q = some riskClass) :
    reduces riskClass = true := by
  rw [classifyRisk_against hagainst, if_neg hwithin.not_gt] at hclass
  split_ifs at hclass
  · cases hclass
    rfl
  · cases hclass
    rfl

/-- So does its order. -/
theorem reducing_submit (hq : c.Fixed q) (hagainst : Against q target.targetNetDeltaQty)
    (hlarge : 1 / 1000 ≤ c.magnitude target.targetNetDeltaQty)
    (hwithin : c.magnitude target.targetNetDeltaQty ≤ c.magnitude q) {riskClass : EconomicRiskClass}
    (hclass : classifyRisk c target.targetNetDeltaQty q = some riskClass) :
    ∀ order ∈ (g.submit c stamp now sequence target q riskClass).orders, Reducing q order := by
  have hreduces := reduces_of_within hagainst hwithin hclass
  intro order horder
  rw [RiskGovernor.submit, List.mem_singleton] at horder
  subst horder
  rw [Context.magnitude_eq hq] at hwithin
  rcases hagainst with ⟨hpos, hneg⟩ | ⟨hneg, hpos⟩
  · rw [abs_of_pos hpos] at hwithin
    have hside : ¬ 0 < target.targetNetDeltaQty := not_lt.mpr hneg.le
    refine ⟨hreduces, .inl ⟨hpos, if_neg hside⟩, ?_, ?_, fun _ => ?_, fun h => absurd h hpos.not_gt⟩
    · rwa [abs_of_pos hpos]
    · simp only [signedQuantity, if_neg hside]
      rw [abs_of_pos hpos, abs_of_nonneg (by linarith)]
      linarith
    · simp only [signedQuantity, if_neg hside]
      linarith
  · rw [abs_of_neg hneg] at hwithin
    refine ⟨hreduces, .inr ⟨hneg, if_pos hpos⟩, ?_, ?_, fun h => absurd h hneg.not_gt, fun _ => ?_⟩
    · rwa [abs_of_neg hneg]
    · simp only [signedQuantity, if_pos hpos]
      rw [abs_of_neg hneg, abs_of_nonpos (by linarith)]
      linarith
    · simp only [signedQuantity, if_pos hpos]
      linarith

/-- At a limit or in a risk-off state only a reduction gets past the first checks. -/
theorem reduction_of_not_blocked (h : g.blocked c now target risk q = none)
    (hrisk : risk.riskState ∈ riskOffStates ∨ g.maxDrawdownPct ≤ risk.currentDrawdownPct ∨
      g.maxLeverage ≤ risk.effectiveLeverage ∨
      g.maxMarginUtilizationPct ≤ risk.marginUtilizationPct) :
    isPositionReduction c target.targetNetDeltaQty q = true := by
  by_contra hnot
  have hfalse : isPositionReduction c target.targetNetDeltaQty q = false :=
    Bool.eq_false_iff.mpr hnot
  unfold RiskGovernor.blocked at h
  rw [hfalse] at h
  cases hfield : invalidField risk with
  | some field =>
    simp only [hfield] at h
    split_ifs at h
  | none =>
    simp only [hfield, Bool.not_false, and_true] at h
    split_ifs at h with hexpired hstate hdrawdown hleverage hmargin
    rcases hrisk with h1 | h1 | h1 | h1
    · exact hstate h1
    · exact hdrawdown h1
    · exact hleverage h1
    · exact hmargin h1

end

/-! ### The recovery engine -/

/-- The delta does not point in the direction of the position. -/
def Unaligned (q delta : ℚ) : Prop := (0 < q → delta ≤ 0) ∧ (q < 0 → 0 ≤ delta)

section

variable {e : ExposureRecoveryEngine} {q delta volatilityFactor : ℚ}

theorem unaligned_of_pos {a : ℚ} (hq : 0 < q) (ha : a ≤ 0) : Unaligned q a :=
  ⟨fun _ => ha, fun h => absurd h hq.not_gt⟩

theorem unaligned_of_not_pos {a : ℚ} (hq : ¬ 0 < q) (ha : 0 ≤ a) : Unaligned q a :=
  ⟨fun h => absurd h hq, fun _ => ha⟩

/-- The brake lets no delta in the direction of the position through. -/
theorem unaligned_braked (q delta : ℚ) : Unaligned q (braked q delta) := by
  unfold braked
  split_ifs with hlong hshort
  · exact ⟨fun _ => le_rfl, fun _ => le_rfl⟩
  · exact ⟨fun _ => le_rfl, fun _ => le_rfl⟩
  · refine ⟨fun hq => ?_, fun hq => ?_⟩
    · by_contra hpos
      exact hlong ⟨hq, not_le.mp hpos⟩
    · by_contra hneg
      exact hshort ⟨hq, not_le.mp hneg⟩

/-- Nor does any action, whatever its ratios are. -/
theorem unaligned_adjusted (action : RecoveryActionType) (intensity : ℚ) (h : Unaligned q delta) :
    Unaligned q (e.adjusted c action intensity q delta volatilityFactor) := by
  cases action with
  | hold => exact h
  | reduceLong => exact h
  | harvestHedge => exact h
  | emergencyFlatten =>
    rcases lt_or_ge 0 q with hq | hq
    · exact unaligned_of_pos hq (Context.round_nonpos (neg_nonpos.mpr hq.le))
    · exact unaligned_of_not_pos hq.not_gt (Context.round_nonneg (neg_nonneg.mpr hq))
  | progressiveUnwind =>
    have hmagnitude (a : ℚ) : 0 ≤ c.magnitude a := Context.round_nonneg (abs_nonneg a)
    have hreduction : 0 ≤ c.mul (c.magnitude q) (c.magnitude intensity) :=
      Context.round_nonneg (mul_nonneg (hmagnitude q) (hmagnitude intensity))
    simp only [ExposureRecoveryEngine.adjusted]
    split_ifs with hq
    · exact unaligned_of_pos hq (Context.round_nonpos (neg_nonpos.mpr hreduction))
    · exact unaligned_of_not_pos hq hreduction
  | partialHedge =>
    simp only [ExposureRecoveryEngine.adjusted]
    split_ifs with hlong hhedge hhedge
    · rcases hhedge with ⟨-, hlt⟩ | ⟨hneg, -⟩
      · exact unaligned_of_pos hlong (hlt.le.trans (h.1 hlong))
      · exact absurd hneg hlong.not_gt
    · exact h
    · rcases hhedge with ⟨hpos, -⟩ | ⟨hneg, hlt⟩
      · exact absurd hpos hlong
      · exact unaligned_of_not_pos hlong ((h.2 hneg).trans hlt.le)
    · exact h

theorem against_of_unaligned (hq : q ≠ 0) (h : Unaligned q delta) (hne : delta ≠ 0) :
    Against q delta := by
  rcases hq.lt_or_gt with hneg | hpos
  · exact .inr ⟨hneg, lt_of_le_of_ne (h.2 hneg) hne.symm⟩
  · exact .inl ⟨hpos, lt_of_le_of_ne (h.1 hpos) hne⟩

/-- Under a toxic drawdown the delta is none or against the position. -/
theorem recoveredDelta_toxic {risk : RiskSnapshot} (hq : c.Fixed q)
    (htoxic : e.drawdownTriggerPct ≤ risk.currentDrawdownPct) :
    e.recoveredDelta c risk q delta volatilityFactor = 0 ∨
      Against q (e.recoveredDelta c risk q delta volatilityFactor) := by
  unfold ExposureRecoveryEngine.recoveredDelta
  rw [if_neg htoxic.not_gt]
  split_ifs with hflat
  · exact .inl rfl
  · have hne : q ≠ 0 := by
      rintro rfl
      rw [Context.magnitude_eq hq, abs_zero] at hflat
      exact hflat rfl
    rw [or_iff_not_imp_left]
    exact against_of_unaligned hne (unaligned_adjusted _ _ (unaligned_braked q delta))

end

/-! ### The pipeline -/

section

variable {pipeline : Pipeline} {clock : Clock} {memory after : Memory}
    {intents : List StrategyIntent} {symbol : String} {risk : RiskSnapshot} {q : ℚ}
    {decision : ExecutionDecision}

/-- The target the governor sees. -/
def recoveredTarget (c : Context) (e : ExposureRecoveryEngine) (raw : TargetExposure)
    (risk : RiskSnapshot) (q : ℚ) : TargetExposure :=
  { raw with targetNetDeltaQty := e.recoveredDelta c risk q raw.targetNetDeltaQty 1 }

theorem follow_decision (raw : TargetExposure) : (pipeline.follow c clock memory raw risk q).1 =
    (pipeline.governor.evaluate c clock.stamp clock.evaluated memory.sequence
      (recoveredTarget c pipeline.recovery raw risk q) risk q).1 := by
  rw [Pipeline.follow, process_target]
  rfl

theorem decide_ok
    (h : pipeline.decide c clock memory intents symbol risk q = .ok (decision, after)) :
    ∃ raw, pipeline.allocator.allocate c clock.allocated clock.exposureId intents symbol = .ok raw ∧
      decision = (pipeline.follow c clock memory raw risk q).1 := by
  unfold Pipeline.decide at h
  obtain ⟨raw, hraw, h⟩ := except_bind_ok.mp h
  exact ⟨raw, hraw, (congrArg Prod.fst (Except.ok.inj h)).symm⟩

/-- **De-risking is safe**: under a toxic drawdown, in a risk-off state or at a limit, an order of
the pipeline only makes the position smaller, whatever the strategies want and the engines remember;
a flat symbol gets none. The quantity is one the context leaves as it is, as a sum of the
caller's. -/
theorem decide_reducing (hq : c.Fixed q)
    (h : pipeline.decide c clock memory intents symbol risk q = .ok (decision, after))
    (hrisk : pipeline.recovery.drawdownTriggerPct ≤ risk.currentDrawdownPct ∨
      risk.riskState ∈ riskOffStates ∨
      pipeline.governor.maxDrawdownPct ≤ risk.currentDrawdownPct ∨
      pipeline.governor.maxLeverage ≤ risk.effectiveLeverage ∨
      pipeline.governor.maxMarginUtilizationPct ≤ risk.marginUtilizationPct) :
    (∀ order ∈ decision.orders, Reducing q order) ∧ (q = 0 → decision.orders = []) := by
  obtain ⟨raw, -, rfl⟩ := decide_ok h
  rw [follow_decision]
  set target := recoveredTarget c pipeline.recovery raw risk q
  rcases evaluate_cases pipeline.governor clock.stamp clock.evaluated memory.sequence
    target risk q with
    ⟨hnone, -⟩ | ⟨riskClass, hblocked, hlarge, hclass, hsubmit⟩
  · rw [hnone]
    exact ⟨fun order horder => absurd horder List.not_mem_nil, fun _ => rfl⟩
  have hagainst : Against q target.targetNetDeltaQty := by
    rcases hrisk with htoxic | hlimit
    · have hne : target.targetNetDeltaQty ≠ 0 := by
        intro hzero
        rw [hzero, Context.magnitude_eq Context.fixed_zero, abs_zero] at hlarge
        norm_num at hlarge
      exact (recoveredDelta_toxic hq htoxic).resolve_left hne
    · exact (isPositionReduction_iff.mp (reduction_of_not_blocked hblocked hlimit)).1
  have hwithin : c.magnitude target.targetNetDeltaQty ≤ c.magnitude q := by
    rw [classifyRisk_against hagainst] at hclass
    by_contra hcross
    rw [if_pos (not_le.mp hcross)] at hclass
    cases hclass
  rw [hsubmit]
  refine ⟨reducing_submit hq hagainst hlarge hwithin hclass, ?_⟩
  rintro rfl
  rcases hagainst with ⟨hpos, -⟩ | ⟨hneg, -⟩
  · exact absurd hpos (lt_irrefl 0)
  · exact absurd hneg (lt_irrefl 0)

/-- `current_position_qty`: the positions of the symbol, added up. -/
def currentPositionQty (c : Context) (positions : List (String × ℚ)) (symbol : String) : ℚ :=
  c.sum ((positions.filter fun p => Text.upper p.1 = Text.upper symbol).map Prod.snd)

/-- The quantity `handle_market_event` computes is one the context leaves as it is. -/
theorem fixed_currentPositionQty (positions : List (String × ℚ)) :
    c.Fixed (currentPositionQty c positions symbol) := Context.fixed_sum _

end

/-! ### Progress -/

section

variable {pipeline : Pipeline} {clock : Clock} {memory : Memory} {raw : TargetExposure}
  {risk : RiskSnapshot} {q delta : ℚ}

/-- A decision that makes the position smaller. -/
def Progress (decision : ExecutionDecision) : Prop :=
  decision.orders ≠ [] ∧ reduces decision.riskClass = true

/-- The strategies' own delta is against the position and of no use to the governor, and the
drawdown is not severe enough to replace it. -/
def Swallowed (c : Context) (trigger : ℚ) (risk : RiskSnapshot) (q delta : ℚ) : Prop :=
  risk.currentDrawdownPct < c.mul trigger (5 / 2) ∧
  risk.currentDrawdownPct < c.mul trigger (3 / 2) ∧
    Against q delta ∧ (|delta| < 1 / 1000 ∨ |q| < |delta|)

/-- The governor lets exactly these deltas through as reductions. -/
theorem evaluate_progress_iff (g : RiskGovernor) (stamp : Instant → String) (now : Instant)
    (sequence : ℕ) (target : TargetExposure) (hq : c.Fixed q)
    (hdelta : c.Fixed target.targetNetDeltaQty) (haware : target.expiresAt.aware = true)
    (hfresh : now.micros < target.expiresAt.micros) (hvalid : invalidField risk = none) :
    Progress (g.evaluate c stamp now sequence target risk q).1 ↔
      Against q target.targetNetDeltaQty ∧ 1 / 1000 ≤ |target.targetNetDeltaQty| ∧
        |target.targetNetDeltaQty| ≤ |q| := by
  constructor
  · rintro ⟨horders, hreduces⟩
    rcases evaluate_cases g stamp now sequence target risk q with
      ⟨hnone, -⟩ | ⟨riskClass, hblocked, hlarge, hclass, hsubmit⟩
    · exact absurd hnone horders
    rw [hsubmit] at hreduces
    rw [Context.magnitude_eq hdelta] at hlarge
    have hagainst := against_of_reduces hclass hreduces
    refine ⟨hagainst, hlarge, ?_⟩
    rw [classifyRisk_against hagainst, Context.magnitude_eq hq, Context.magnitude_eq hdelta]
      at hclass
    by_contra hcross
    rw [if_pos (not_le.mp hcross)] at hclass
    cases hclass
  · rintro ⟨hagainst, hlarge, hwithin⟩
    rw [← Context.magnitude_eq hdelta] at hlarge
    rw [← Context.magnitude_eq hdelta, ← Context.magnitude_eq hq] at hwithin
    have hreducing := isPositionReduction_iff.mpr ⟨hagainst, hwithin⟩
    have hopen : g.blocked c now target risk q = none := by
      unfold RiskGovernor.blocked
      simp [hreducing, hvalid, haware, hfresh.not_ge]
    have hclass : ∃ riskClass, classifyRisk c target.targetNetDeltaQty q = some riskClass := by
      rw [classifyRisk_against hagainst, if_neg hwithin.not_gt]
      split_ifs
      · exact ⟨_, rfl⟩
      · exact ⟨_, rfl⟩
    obtain ⟨riskClass, hclass⟩ := hclass
    have hsubmit : (g.evaluate c stamp now sequence target risk q).1 =
        g.submit c stamp now sequence target q riskClass := by
      simp only [RiskGovernor.evaluate_eq, hopen, if_neg hlarge.not_gt, hclass]
    rw [hsubmit]
    exact ⟨List.cons_ne_nil _ _, reduces_of_within hagainst hwithin hclass⟩

theorem braked_of_against (h : Against q delta) : braked q delta = delta := by
  unfold braked
  rcases h with ⟨hpos, hneg⟩ | ⟨hneg, hpos⟩
  · rw [if_neg (fun h => absurd h.2 hneg.not_gt), if_neg (fun h => absurd h.1 hpos.not_gt)]
  · rw [if_neg (fun h => absurd h.1 hneg.not_gt), if_neg (fun h => absurd h.2 hpos.not_gt)]

/-- A delta that was not against the position is stopped. -/
theorem braked_of_not_against (hq : q ≠ 0) (h : ¬ Against q delta) : braked q delta = 0 := by
  unfold braked
  split_ifs with hlong hshort
  · rfl
  · rfl
  · by_contra hne
    rcases hq.lt_or_gt with hneg | hpos
    · exact h (.inr ⟨hneg, lt_of_le_of_ne (not_lt.mp fun hlt => hshort ⟨hneg, hlt⟩) (Ne.symm hne)⟩)
    · exact h (.inl ⟨hpos, lt_of_le_of_ne (not_lt.mp fun hlt => hlong ⟨hpos, hlt⟩) hne⟩)

theorem not_against_zero (q : ℚ) : ¬ Against q 0 := by
  rintro (⟨-, h⟩ | ⟨-, h⟩)
  · exact absurd h (lt_irrefl 0)
  · exact absurd h (lt_irrefl 0)

theorem against_braked_iff (hq : q ≠ 0) : Against q (braked q delta) ↔ Against q delta := by
  by_cases h : Against q delta
  · rw [braked_of_against h]
  · rw [braked_of_not_against hq h]
    exact ⟨fun hzero => absurd hzero (not_against_zero q), fun hdelta => absurd hdelta h⟩

/-- A share between a quarter and the whole of a position is a reduction the governor accepts. -/
theorem useful_share (hq : c.Fixed q) (hlarge : 4 / 1000 ≤ |q|) {share : ℚ}
    (hquarter : 1 / 4 ≤ share) (hwhole : share ≤ 1)
    (hdelta : delta = if 0 < q then c.minus (c.mul |q| share) else c.mul |q| share) :
    c.Fixed delta ∧ Against q delta ∧ 1 / 1000 ≤ |delta| ∧ |delta| ≤ |q| := by
  have hthousandth : c.Fixed (1 / 1000) := by
    have h := Context.fixed_short (c := c) 1 (-3) (by norm_num)
    norm_num at h
    exact h
  have hlow : 1 / 1000 ≤ c.mul |q| share := by
    refine Context.le_round hthousandth ?_
    calc (1 : ℚ) / 1000 = 4 / 1000 * (1 / 4) := by norm_num
      _ ≤ |q| * share := mul_le_mul hlarge hquarter (by norm_num) (abs_nonneg q)
  have hhigh : c.mul |q| share ≤ |q| :=
    Context.round_le hq.abs (mul_le_of_le_one_right (abs_nonneg q) hwhole)
  have hpos : 0 < c.mul |q| share := lt_of_lt_of_le (by norm_num) hlow
  have hfixed : c.Fixed (c.mul |q| share) := Context.fixed_round _
  rw [Context.minus_eq hfixed] at hdelta
  split_ifs at hdelta with hside
  · subst hdelta
    refine ⟨hfixed.neg, .inl ⟨hside, neg_neg_of_pos hpos⟩, ?_⟩
    rw [abs_neg, abs_of_pos hpos]
    exact ⟨hlow, hhigh⟩
  · subst hdelta
    have hne : q ≠ 0 := by
      rintro rfl
      norm_num at hlarge
    refine ⟨hfixed, .inr ⟨lt_of_le_of_ne (not_lt.mp hside) hne, hpos⟩, ?_⟩
    rw [abs_of_pos hpos]
    exact ⟨hlow, hhigh⟩

/-- The recovery engine leaves a useful delta unless it hands on a useless one of the strategies. -/
theorem recoveredDelta_useful_iff (e : ExposureRecoveryEngine) (hratio : 1 / 4 ≤ e.maxHedgeRatio)
    (hq : c.Fixed q) (hlarge : 4 / 1000 ≤ |q|) (hdelta : c.Fixed delta)
    (htoxic : e.drawdownTriggerPct ≤ risk.currentDrawdownPct) :
    c.Fixed (e.recoveredDelta c risk q delta 1) ∧
      (Against q (e.recoveredDelta c risk q delta 1) ∧
        1 / 1000 ≤ |e.recoveredDelta c risk q delta 1| ∧
          |e.recoveredDelta c risk q delta 1| ≤ |q| ↔
        ¬ Swallowed c e.drawdownTriggerPct risk q delta) := by
  have hpos : 0 < |q| := lt_of_lt_of_le (by norm_num) hlarge
  have hne : q ≠ 0 := abs_pos.mp hpos
  have hmagnitude := Context.magnitude_eq hq
  unfold ExposureRecoveryEngine.recoveredDelta
  rw [if_neg htoxic.not_gt, hmagnitude, if_neg hpos.ne']
  have hforced {d : ℚ} (share : ℚ) (hquarter : 1 / 4 ≤ share) (hwhole : share ≤ 1)
      (hd : d = if 0 < q then c.minus (c.mul |q| share) else c.mul |q| share)
      (hnot : ¬ Swallowed c e.drawdownTriggerPct risk q delta) :
      c.Fixed d ∧ (Against q d ∧ 1 / 1000 ≤ |d| ∧ |d| ≤ |q| ↔
        ¬ Swallowed c e.drawdownTriggerPct risk q delta) :=
    have h := useful_share hq hlarge hquarter hwhole hd
    ⟨h.1, fun _ => hnot, fun _ => h.2⟩
  unfold ExposureRecoveryEngine.determineAction
  split_ifs with hcatastrophic hsevere hharvest
  · -- flatten
    refine hforced 1 (by norm_num) le_rfl ?_ fun h => absurd h.1 hcatastrophic.not_gt
    have hone : c.mul |q| 1 = |q| := by
      rw [Context.mul, mul_one]
      exact hq.abs
    simp only [ExposureRecoveryEngine.adjusted, hone, Context.minus_eq hq, Context.minus_eq hq.abs]
    split_ifs with hside
    · rw [abs_of_pos hside]
    · rw [abs_of_nonpos (not_lt.mp hside)]
  · -- unwind a quarter
    refine hforced (1 / 4) le_rfl (by norm_num) ?_ fun h => absurd h.2.1 hsevere.not_gt
    have hquarter : c.magnitude (-1 / 4) = 1 / 4 := by
      have h := (Context.fixed_short (c := c) 25 (-2) (by norm_num)).abs
      norm_num at h
      rw [Context.magnitude, show |(-1 / 4 : ℚ)| = 1 / 4 by norm_num]
      exact h
    simp only [ExposureRecoveryEngine.adjusted, hmagnitude, hquarter]
  · -- hand the strategies' delta on
    have hagainst := (against_braked_iff hne).mp hharvest
    simp only [ExposureRecoveryEngine.adjusted, braked_of_against hagainst]
    refine ⟨hdelta, ?_, ?_⟩
    · rintro ⟨-, hlow, hhigh⟩ ⟨-, -, -, hsmall | hcross⟩
      · exact absurd hsmall hlow.not_gt
      · exact absurd hcross hhigh.not_gt
    · intro hnot
      refine ⟨hagainst, not_lt.mp fun hsmall => hnot ?_, not_lt.mp fun hcross => hnot ?_⟩
      · exact ⟨not_le.mp hcatastrophic, not_le.mp hsevere, hagainst, .inl hsmall⟩
      · exact ⟨not_le.mp hcatastrophic, not_le.mp hsevere, hagainst, .inr hcross⟩
  · -- hedge three tenths
    have hnot : ¬ Against q delta := fun h => hharvest ((against_braked_iff hne).mpr h)
    have hthree : c.Fixed (3 / 10) := by
      have h := Context.fixed_short (c := c) 3 (-1) (by norm_num)
      norm_num at h
      exact h
    have hintensity : c.mul (c.magnitude (3 / 10)) 1 = 3 / 10 := by
      rw [Context.magnitude_eq hthree, Context.mul, mul_one, abs_of_pos (by norm_num)]
      exact hthree
    have hquarter : 1 / 4 ≤ min e.maxHedgeRatio (3 / 10) := le_min hratio (by norm_num)
    have hwhole : min e.maxHedgeRatio (3 / 10) ≤ 1 := (min_le_right _ _).trans (by norm_num)
    refine hforced _ hquarter hwhole ?_ fun h => hnot h.2.2.1
    have hhedge := useful_share hq hlarge hquarter hwhole rfl
    simp only [ExposureRecoveryEngine.adjusted, hmagnitude, hintensity,
      braked_of_not_against hne hnot]
    refine if_pos ?_
    rcases hhedge.2.1 with ⟨hpos, hneg⟩ | ⟨hneg, hpos⟩
    · exact .inl ⟨hpos, hneg⟩
    · exact .inr ⟨hneg, hpos⟩

/-- Whether the decision on an allocated target makes progress. -/
theorem progress_iff {pipeline : Pipeline} {clock : Clock} {memory : Memory} {raw : TargetExposure}
    (hratio : 1 / 4 ≤ pipeline.recovery.maxHedgeRatio) (hq : c.Fixed q) (hlarge : 4 / 1000 ≤ |q|)
    (hdelta : c.Fixed raw.targetNetDeltaQty) (haware : raw.expiresAt.aware = true)
    (hfresh : clock.evaluated.micros < raw.expiresAt.micros) (hvalid : invalidField risk = none)
    (htoxic : pipeline.recovery.drawdownTriggerPct ≤ risk.currentDrawdownPct) :
    Progress (pipeline.follow c clock memory raw risk q).1 ↔
      ¬ Swallowed c pipeline.recovery.drawdownTriggerPct risk q raw.targetNetDeltaQty := by
  obtain ⟨hfixed, huseful⟩ :=
    recoveredDelta_useful_iff pipeline.recovery hratio hq hlarge hdelta htoxic
  rw [follow_decision, ← huseful]
  exact evaluate_progress_iff _ _ _ _ _ hq hfixed haware hfresh hvalid

/-- **When de-risking makes progress**: on an accepted, unexpired list of intents and a snapshot
without negative fields, from any state of the engines, a toxic drawdown makes the position smaller
if and only if no target of the strategies is swallowed. -/
theorem follow_progress_iff {pipeline : Pipeline} {clock : Clock} {memory : Memory}
    {symbol : String} {intents : List StrategyIntent} {raw : TargetExposure}
    (hratio : 1 / 4 ≤ pipeline.recovery.maxHedgeRatio) (hq : c.Fixed q) (hlarge : 4 / 1000 ≤ |q|)
    (hraw : pipeline.allocator.allocate c clock.allocated clock.exposureId intents symbol = .ok raw)
    (hfresh : clock.evaluated.micros < raw.expiresAt.micros)
    (hdrawdown : 0 ≤ risk.currentDrawdownPct) (hleverage : 0 ≤ risk.effectiveLeverage)
    (hmargin : 0 ≤ risk.marginUtilizationPct)
    (htoxic : pipeline.recovery.drawdownTriggerPct ≤ risk.currentDrawdownPct) :
    Progress (pipeline.follow c clock memory raw risk q).1 ↔
      ¬ Swallowed c pipeline.recovery.drawdownTriggerPct risk q raw.targetNetDeltaQty := by
  have hvalid : invalidField risk = none := by
    rw [invalidField, if_neg hdrawdown.not_gt, if_neg hleverage.not_gt, if_neg hmargin.not_gt]
  exact progress_iff hratio hq hlarge (allocate_fixed hraw)
    (allocate_aware hraw) hfresh hvalid htoxic

end

/-! ### A position of one coin under a drawdown of the trigger -/

def samplePipeline : Pipeline where
  allocator := ⟨1, by norm_num⟩
  recovery := {}
  governor := {}

def sampleClock : Clock := ⟨0, "exposure", ⟨0, true⟩, ⟨0, true⟩, fun _ => "19700101T000000000000Z"⟩

def sampleRisk : RiskSnapshot := ⟨100, 0, 0, 5, 1 / 2, 2, none, .normal⟩

def sampleTarget : TargetExposure where
  symbol := "BTCUSDT"
  marketType := .usdmFutures
  targetNetDeltaQty := 0
  targetGrossLimitQty := 0
  strategyAttributions := []
  createdAt := ⟨0, true⟩
  expiresAt := ⟨60000000, true⟩
  exposureId := "exposure"

/-- No strategy wants anything: three tenths of the position are sold. -/
theorem decide_reducing_hedge :
    ∃ result, samplePipeline.decide .exact sampleClock ⟨fun _ => none, 0⟩ []
      "BTCUSDT" sampleRisk 1 =
        .ok result ∧ result.1.orders ≠ [] ∧
      (∀ order ∈ result.1.orders, Reducing 1 order) ∧ ((1 : ℚ) = 0 → result.1.orders = []) := by
  have hraw : ∃ raw, samplePipeline.allocator.allocate .exact 0 "exposure" [] "BTCUSDT" = .ok raw ∧
      (samplePipeline.follow .exact sampleClock ⟨fun _ => none, 0⟩ raw sampleRisk 1).1.orders ≠
      [] :=
    ⟨_, rfl, by decide +kernel⟩
  obtain ⟨raw, hraw, horders⟩ := hraw
  have hdecide : samplePipeline.decide .exact sampleClock ⟨fun _ => none, 0⟩ []
      "BTCUSDT" sampleRisk 1 =
      .ok (samplePipeline.follow .exact sampleClock ⟨fun _ => none, 0⟩ raw sampleRisk 1) :=
    except_bind_ok.mpr ⟨raw, hraw, rfl⟩
  have htoxic : samplePipeline.recovery.drawdownTriggerPct ≤ sampleRisk.currentDrawdownPct := by
    norm_num [samplePipeline, sampleRisk]
  exact ⟨_, hdecide, horders, decide_reducing (Context.exact_fixed 1) hdecide (.inl htoxic)⟩

/-- A coin, but for half a unit of its twenty-ninth digit. -/
def almostOne : ℚ := 1 - 1 / (2 * 10 ^ 28)

def severeRisk : RiskSnapshot := { sampleRisk with currentDrawdownPct := 6 }

/-- A severe drawdown closes the position. Its negation has 28 digits and is a whole coin. -/
theorem rounded_position_is_crossed : ¬ ∀ (pipeline : Pipeline) (clock : Clock)
    (memory after : Memory) (intents : List StrategyIntent) (symbol : String) (risk : RiskSnapshot)
    (q : ℚ) (decision : ExecutionDecision),
    pipeline.decide .default clock memory intents symbol risk q = .ok (decision, after) →
    (pipeline.recovery.drawdownTriggerPct ≤ risk.currentDrawdownPct ∨
      risk.riskState ∈ riskOffStates ∨
      pipeline.governor.maxDrawdownPct ≤ risk.currentDrawdownPct ∨
      pipeline.governor.maxLeverage ≤ risk.effectiveLeverage ∨
      pipeline.governor.maxMarginUtilizationPct ≤ risk.marginUtilizationPct) →
    (∀ order ∈ decision.orders, Reducing q order) ∧ (q = 0 → decision.orders = []) := by
  intro hclaim
  have hallocated : samplePipeline.allocator.allocate .default 0 "exposure" [] "BTCUSDT" =
      .ok sampleTarget := rfl
  have hdecide : samplePipeline.decide .default sampleClock ⟨fun _ => none, 0⟩ [] "BTCUSDT"
      severeRisk almostOne = .ok (samplePipeline.follow .default sampleClock ⟨fun _ => none, 0⟩
        sampleTarget severeRisk almostOne) := by
    unfold Pipeline.decide
    rw [show samplePipeline.allocator.allocate .default sampleClock.allocated
      sampleClock.exposureId [] "BTCUSDT" = .ok sampleTarget from hallocated]
    rfl
  have hsold :
      (samplePipeline.follow .default sampleClock ⟨fun _ => none, 0⟩ sampleTarget severeRisk
      almostOne).1.orders.map (·.quantity) = [1] := by decide +kernel
  have htoxic : samplePipeline.recovery.drawdownTriggerPct ≤ severeRisk.currentDrawdownPct := by
    norm_num [samplePipeline, severeRisk]
  obtain ⟨order, horder, hone⟩ := List.mem_map.mp (hsold ▸ List.mem_singleton_self (1 : ℚ))
  have hreducing := (hclaim _ _ _ _ _ _ _ _ _ hdecide (.inl htoxic)).1 order horder
  have hwithin := hreducing.within
  rw [hone] at hwithin
  norm_num [almostOne, abs_of_pos] at hwithin

/-- A wish to sell. -/
def sellIntent (size : ℚ) : StrategyIntent where
  intentId := "intent"
  strategyId := "grid"
  symbol := "BTCUSDT"
  marketType := .usdmFutures
  direction := .short
  desiredDeltaQty := -size
  opportunityScore := 1
  confidence := 1
  timestamp := ⟨0, true⟩

def sellTarget (size : ℚ) : TargetExposure where
  symbol := "BTCUSDT"
  marketType := .usdmFutures
  targetNetDeltaQty := -size
  targetGrossLimitQty := size
  strategyAttributions := [("grid", -size)]
  createdAt := ⟨0, true⟩
  expiresAt := ⟨60000000, true⟩
  exposureId := "exposure"
  sourceIntentIds := ["intent"]

theorem allocate_sell {size : ℚ} (hsize : c.Fixed size) (hpos : 0 < size) (hle : size ≤ 1) :
    samplePipeline.allocator.allocate c 0 "exposure" [sellIntent size] "BTCUSDT" =
      .ok (sellTarget size) := by
  have hone : c.Fixed 1 := by
    have h := Context.fixed_short (c := c) 1 0 (by norm_num)
    norm_num at h
    exact h
  have hsymbol : normalized "BTCUSDT" = "BTCUSDT" := by decide +kernel
  have hweight : c.mul 1 1 = 1 := by
    rw [Context.mul, mul_one]
    exact hone
  have hdelta : c.mul (-size) 1 = -size := by
    rw [Context.mul, mul_one]
    exact hsize.neg
  have hnet : c.add 0 (-size) = -size := by
    rw [Context.add, zero_add]
    exact hsize.neg
  have hgross : c.add 0 (c.magnitude (-size)) = size := by
    rw [Context.magnitude_eq hsize.neg, abs_neg, abs_of_pos hpos, Context.add, zero_add]
    exact hsize
  have hmatches : mismatched (sellIntent size) = false := by
    simp [mismatched, sellIntent, hpos.le]
  have hstep : allocateIntent c "BTCUSDT" .usdmFutures {} (sellIntent size) =
      .ok ⟨-size, size, [("grid", -size)], ["intent"]⟩ := by
    simp only [allocateIntent, except_guard_ok, hmatches]
    refine ⟨not_not.mpr hsymbol, not_not.mpr rfl, by simp [sellIntent], Bool.false_ne_true, ?_⟩
    have hbefore :
        ((Lib.Table.lookup Prod.fst "grid" ([] : List (String × ℚ))).map Prod.snd).getD 0 = 0 :=
      rfl
    simp only [sellIntent, hweight, hdelta, hbefore, hnet, hgross]
    rfl
  have hwithin : samplePipeline.allocator.scaled c ⟨-size, size, [("grid", -size)], ["intent"]⟩ =
      ⟨-size, size, [("grid", -size)], ["intent"]⟩ := if_neg (not_lt.mpr hle)
  unfold MetaAllocator.allocate
  rw [hsymbol]
  refine except_guard_ok.mpr
    ⟨by decide, except_bind_ok.mpr ⟨_, except_bind_ok.mpr ⟨_, hstep, rfl⟩, ?_⟩⟩
  rw [hwithin]
  exact except_guard_ok.mpr ⟨by simp [sellIntent], rfl⟩

/-- A strategy that wants to sell a tenth of the coin sells it. -/
theorem follow_progress_hedge : Progress
    (samplePipeline.follow .exact sampleClock ⟨fun _ => none, 0⟩
      (sellTarget (1 / 10)) sampleRisk 1).1 := by
  have hraw : samplePipeline.allocator.allocate .exact sampleClock.allocated sampleClock.exposureId
      [sellIntent (1 / 10)] "BTCUSDT" = .ok (sellTarget (1 / 10)) :=
    allocate_sell (Context.exact_fixed _) (by norm_num) (by norm_num)
  have hswallowed : ¬ Swallowed .exact samplePipeline.recovery.drawdownTriggerPct sampleRisk 1
      (sellTarget (1 / 10)).targetNetDeltaQty := by
    rintro ⟨-, -, -, hsmall | hlarge⟩
    · norm_num [sellTarget, abs_of_neg] at hsmall
    · norm_num [sellTarget, abs_of_neg] at hlarge
  exact (follow_progress_iff (by norm_num [samplePipeline]) (Context.exact_fixed 1) (by norm_num)
    hraw (by decide) (by norm_num [sampleRisk]) (by norm_num [sampleRisk])
    (by norm_num [sampleRisk]) (by norm_num [samplePipeline, sampleRisk])).mpr hswallowed

/-- A strategy that wants to sell half a thousandth of a coin itself keeps three tenths from being
sold. -/
theorem own_reduction_is_swallowed : ¬ ∀ (clock : Clock) (memory : Memory)
    (intents : List StrategyIntent)
    (symbol : String) (raw : TargetExposure) (risk : RiskSnapshot) (q : ℚ),
    Context.default.Fixed q →
    4 / 1000 ≤ |q| →
    samplePipeline.allocator.allocate .default clock.allocated clock.exposureId intents symbol =
    .ok raw →
    clock.evaluated.micros < raw.expiresAt.micros → 0 ≤ risk.currentDrawdownPct →
    0 ≤ risk.effectiveLeverage → 0 ≤ risk.marginUtilizationPct →
    samplePipeline.recovery.drawdownTriggerPct ≤ risk.currentDrawdownPct →
    Progress (samplePipeline.follow .default clock memory raw risk q).1 := by
  intro hclaim
  have hfixed {a : ℚ} (n e : ℤ) (hn : |n| ≤ 10 ^ 28) (ha : (n : ℚ) * 10 ^ e = a) :
      Context.default.Fixed a := ha ▸ Context.fixed_short n e hn
  have hone : Context.default.Fixed 1 := hfixed 1 0 (by norm_num) (by norm_num)
  have hsmall : Context.default.Fixed (1 / 2000) := hfixed 5 (-4) (by norm_num) (by norm_num)
  have hraw :
      samplePipeline.allocator.allocate .default sampleClock.allocated sampleClock.exposureId
      [sellIntent (1 / 2000)] "BTCUSDT" = .ok (sellTarget (1 / 2000)) :=
    allocate_sell hsmall (by norm_num) (by norm_num)
  have hdelta : Context.default.Fixed (sellTarget (1 / 2000)).targetNetDeltaQty := by
    rw [sellTarget]
    exact hsmall.neg
  have hprogress := hclaim sampleClock ⟨fun _ => none, 0⟩ _ _ _ sampleRisk 1 hone (by norm_num) hraw
    (by decide) (by norm_num [sampleRisk]) (by norm_num [sampleRisk]) (by norm_num [sampleRisk])
    (by norm_num [samplePipeline, sampleRisk])
  rw [progress_iff (by norm_num [samplePipeline]) hone (by norm_num) hdelta rfl (by decide)
    (by decide +kernel) (by norm_num [samplePipeline, sampleRisk])] at hprogress
  refine hprogress ⟨?_, ?_, .inl ⟨by norm_num, by norm_num [sellTarget]⟩, .inl ?_⟩
  · have hfive : Context.default.mul 2 (5 / 2) = 5 := by
      rw [Context.mul, show (2 : ℚ) * (5 / 2) = 5 by norm_num]
      exact hfixed 5 0 (by norm_num) (by norm_num)
    norm_num [samplePipeline, sampleRisk, hfive]
  · have hthree : Context.default.mul 2 (3 / 2) = 3 := by
      rw [Context.mul, show (2 : ℚ) * (3 / 2) = 3 by norm_num]
      exact hfixed 3 0 (by norm_num) (by norm_num)
    norm_num [samplePipeline, sampleRisk, hthree]
  · norm_num [sellTarget, abs_of_neg]

end Blessing.Engines.Derisking
