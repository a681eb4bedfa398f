import Blessing.Engines.Derisking

/-! # When the governor approves

`RiskGovernor.evaluate` with every risk state, an unknown one included, and with every clock: a
rejection reads it a second time. Its two sign analyses, its limits and its three kinds of rejection
compose to one condition on the delta and the position. -/

namespace Blessing.Engines.Approval

open Blessing.Lib.Rounding
open Blessing.Binance.Models (OrderSide EconomicRiskClass)
open Blessing.Engines.Intents Blessing.Engines.Governor Blessing.Engines.Derisking

variable {c : Context} {g : RiskGovernor} {stamp : Instant → String} {now later : Instant}
    {sequence : ℕ} {target : TargetExposure} {risk : RiskSnapshot} {state : Option RiskState}
    {q d : ℚ}

/-! ### The condition -/

/-- The target has not expired. -/
def Unexpired (target : TargetExposure) (now : Instant) : Prop :=
  target.expiresAt.aware = true ∧ now.micros < target.expiresAt.micros

/-- The delta does not carry the position through zero. -/
def KeepsSide (q d : ℚ) : Prop := q = 0 ∨ 0 < q * d ∨ |d| ≤ |q|

/-- New risk is allowed: the state is known and no risk-off state, and no limit is reached. -/
def NewRiskAllowed (g : RiskGovernor) (risk : RiskSnapshot) (state : Option RiskState) : Prop :=
  (∃ riskState, state = some riskState ∧ riskState ∉ riskOffStates) ∧
    risk.currentDrawdownPct < g.maxDrawdownPct ∧ risk.effectiveLeverage < g.maxLeverage ∧
    risk.marginUtilizationPct < g.maxMarginUtilizationPct

/-- The measures of risk are no negative numbers. -/
def Measured (risk : RiskSnapshot) : Prop :=
  0 ≤ risk.currentDrawdownPct ∧ 0 ≤ risk.effectiveLeverage ∧ 0 ≤ risk.marginUtilizationPct

theorem Measured.invalidField (h : Measured risk) : invalidField risk = none := by
  unfold Governor.invalidField
  rw [if_neg (not_lt.mpr h.1), if_neg (not_lt.mpr h.2.1), if_neg (not_lt.mpr h.2.2)]

/-! ### Signs -/

/-- A delta makes the position smaller if it points against it and does not exceed it twice. -/
theorem smaller_iff (hd : d ≠ 0) : |q + d| < |q| ↔ Against q d ∧ |d| < 2 * |q| := by
  unfold Against
  rcases lt_trichotomy q 0 with hq | rfl | hq
  · rcases lt_or_gt_of_ne hd with hneg | hpos
    · rw [abs_of_neg hq, abs_of_neg hneg, abs_of_neg (add_neg hq hneg)]
      constructor
      · intro h
        linarith
      · rintro ⟨⟨h, -⟩ | ⟨-, h⟩, -⟩
        · linarith
        · linarith
    · rw [abs_of_neg hq, abs_of_pos hpos, abs_lt]
      constructor
      · exact fun h => ⟨.inr ⟨hq, hpos⟩, by linarith [h.2]⟩
      · exact fun h => ⟨by linarith, by linarith [h.2]⟩
  · simp
  · rcases lt_or_gt_of_ne hd with hneg | hpos
    · rw [abs_of_pos hq, abs_of_neg hneg, abs_lt]
      constructor
      · exact fun h => ⟨.inl ⟨hq, hneg⟩, by linarith [h.1]⟩
      · exact fun h => ⟨by linarith [h.2], by linarith⟩
    · rw [abs_of_pos hq, abs_of_pos hpos, abs_of_pos (add_pos hq hpos)]
      constructor
      · intro h
        linarith
      · rintro ⟨⟨-, h⟩ | ⟨h, -⟩, -⟩
        · linarith
        · linarith

/-- A delta that keeps the side of the position makes it smaller if it points against it. -/
theorem smaller_iff_against (hside : KeepsSide q d) (hd : d ≠ 0) : |q + d| < |q| ↔ Against q d := by
  rw [smaller_iff hd]
  refine ⟨fun h => h.1, fun h => ⟨h, ?_⟩⟩
  have hq : 0 < |q| := by
    rcases h with ⟨h, -⟩ | ⟨h, -⟩
    · exact abs_pos.mpr h.ne'
    · exact abs_pos.mpr h.ne
  rcases hside with hzero | hsame | hle
  · exact absurd hzero (abs_pos.mp hq)
  · rcases h with ⟨hpos, hneg⟩ | ⟨hneg, hpos⟩
    · exact absurd (mul_neg_of_pos_of_neg hpos hneg) hsame.not_gt
    · exact absurd (mul_neg_of_neg_of_pos hneg hpos) hsame.not_gt
  · linarith

/-- A delta points against the position, or along it, or there is none. -/
theorem keepsSide_iff (hd : d ≠ 0) : KeepsSide q d ↔ (Against q d → |d| ≤ |q|) := by
  unfold KeepsSide
  constructor
  · rintro (rfl | hsame | hle) hagainst
    · rcases hagainst with ⟨h, -⟩ | ⟨h, -⟩
      · exact absurd h (lt_irrefl 0)
      · exact absurd h (lt_irrefl 0)
    · rcases hagainst with ⟨hpos, hneg⟩ | ⟨hneg, hpos⟩
      · exact absurd (mul_neg_of_pos_of_neg hpos hneg) hsame.not_gt
      · exact absurd (mul_neg_of_neg_of_pos hneg hpos) hsame.not_gt
    · exact hle
  · intro h
    rcases lt_trichotomy q 0 with hq | hq | hq
    · rcases lt_or_gt_of_ne hd with hneg | hpos
      · exact .inr (.inl (mul_pos_of_neg_of_neg hq hneg))
      · exact .inr (.inr (h (.inr ⟨hq, hpos⟩)))
    · exact .inl hq
    · rcases lt_or_gt_of_ne hd with hneg | hpos
      · exact .inr (.inr (h (.inl ⟨hq, hneg⟩)))
      · exact .inr (.inl (mul_pos hq hpos))

theorem closes_iff (hagainst : Against q d) : q + d = 0 ↔ |d| = |q| := by
  rcases hagainst with ⟨hpos, hneg⟩ | ⟨hneg, hpos⟩
  · rw [abs_of_pos hpos, abs_of_neg hneg]
    constructor <;> intro h <;> linarith
  · rw [abs_of_neg hneg, abs_of_pos hpos]
    constructor <;> intro h <;> linarith

/-! ### The stages of the rejection -/

theorem isPositionReduction_iff_smaller (hd : c.Fixed d) (hq : c.Fixed q) (hne : d ≠ 0)
    (hside : KeepsSide q d) : isPositionReduction c d q = true ↔ |q + d| < |q| := by
  rw [isPositionReduction_iff, Context.magnitude_eq hd, Context.magnitude_eq hq,
    smaller_iff_against hside hne]
  exact ⟨fun h => h.1, fun h => ⟨h, (keepsSide_iff hne).mp hside h⟩⟩

theorem reject_eq_none {p : Prop} [Decidable p] {r : Rational} {rest : Option Rational} :
    (if p then some r else rest) = none ↔ ¬ p ∧ rest = none := by
  by_cases hp : p
  · simp [hp]
  · simp [hp]

theorem blocked_eq_none_iff (hmeasured : Measured risk) : g.blocked c now target risk q = none ↔
    Unexpired target now ∧ (isPositionReduction c target.targetNetDeltaQty q = true ∨
      NewRiskAllowed g risk (some risk.riskState)) := by
  unfold RiskGovernor.blocked Unexpired NewRiskAllowed
  rw [hmeasured.invalidField]
  cases isPositionReduction c target.targetNetDeltaQty q with
  | true => cases target.expiresAt.aware <;> simp
  | false =>
    cases target.expiresAt.aware with
    | false => simp
    | true => simp [reject_eq_none]

/-- What comes through before the size and the direction of the delta are looked at. -/
theorem refusal_eq_none_iff (hmeasured : Measured risk) :
    g.refusal c now target risk state q = none ↔
    Unexpired target now ∧ (isPositionReduction c target.targetNetDeltaQty q = true ∨
      NewRiskAllowed g risk state) := by
  cases state with
  | some riskState => exact @blocked_eq_none_iff c g now target { risk with riskState } q hmeasured
  | none =>
    have hnone : ¬ NewRiskAllowed g risk none := by
      rintro ⟨⟨riskState, h, -⟩, -⟩
      cases h
    unfold RiskGovernor.refusal
    dsimp only
    split_ifs with hexpired hreduces
    · have hnot : ¬ Unexpired target now := by
        rintro ⟨haware, hlt⟩
        rcases hexpired with h | h
        · simp [haware] at h
        · exact absurd h hlt.not_ge
      simp [hnot]
    · rw [@blocked_eq_none_iff c g now target { risk with riskState := .normal } q hmeasured]
      simp [hreduces]
    · simp [hreduces, hnone]

/-- The class of a delta. -/
def classOf (q d : ℚ) : EconomicRiskClass :=
  if q = 0 then .newRisk
  else if q + d = 0 then .close
  else if |q + d| < |q| then .reduceRisk
  else .increaseRisk

/-- Exactly the deltas that keep the side of the position are classified. -/
theorem classifyRisk_eq (hd : c.Fixed d) (hq : c.Fixed q) (hne : d ≠ 0) :
    (KeepsSide q d → classifyRisk c d q = some (classOf q d)) ∧
      (¬ KeepsSide q d → classifyRisk c d q = none) := by
  by_cases hagainst : Against q d
  · have hflat : q ≠ 0 := by
      rcases hagainst with ⟨h, -⟩ | ⟨h, -⟩
      · exact h.ne'
      · exact h.ne
    rw [classifyRisk_against hagainst, Context.magnitude_eq hd, Context.magnitude_eq hq]
    constructor
    · intro hside
      have hle := (keepsSide_iff hne).mp hside hagainst
      have hsmaller := (smaller_iff_against hside hne).mpr hagainst
      unfold classOf
      rw [if_neg hle.not_gt, if_neg hflat, if_pos hsmaller]
      simp only [closes_iff hagainst]
      split_ifs <;> rfl
    · intro hside
      rw [keepsSide_iff hne] at hside
      rw [if_pos (not_le.mp fun hle => hside fun _ => hle)]
  · have hside : KeepsSide q d := (keepsSide_iff hne).mpr fun h => absurd h hagainst
    refine ⟨fun _ => ?_, fun h => absurd hside h⟩
    have hsmaller : ¬ |q + d| < |q| := fun h => hagainst ((smaller_iff_against hside hne).mp h)
    unfold classifyRisk classOf
    rw [if_neg (show ¬ ((0 < q ∧ d < 0) ∨ (q < 0 ∧ 0 < d)) from hagainst), if_neg hsmaller]
    split_ifs with hflat hzero
    · rfl
    · rw [hzero, abs_zero] at hsmaller
      exact absurd (abs_pos.mpr hflat) hsmaller
    · rfl

/-! ### The decision -/

theorem evaluateState_cases (g : RiskGovernor) (stamp : Instant → String) (now later : Instant)
    (sequence : ℕ) (target : TargetExposure) (hmeasured : Measured risk) (state : Option RiskState)
    (hd : c.Fixed target.targetNetDeltaQty) (hq : c.Fixed q) :
    let d := target.targetNetDeltaQty
    let decision := (g.evaluateState c stamp now later sequence target risk state q).1
    let approved := Unexpired target now ∧ 1 / 1000 ≤ |d| ∧ KeepsSide q d ∧
      (|q + d| < |q| ∨ NewRiskAllowed g risk state)
    (approved ∧ decision = g.submit c stamp now sequence target q (classOf q d)) ∨
      (¬ approved ∧ decision.orders = []) := by
  intro d decision approved
  have hpos (h : 1 / 1000 ≤ |d|) : d ≠ 0 := by
    rintro hzero
    rw [hzero, abs_zero] at h
    norm_num at h
  have hrefusal : g.refusal c now target risk state q = none ↔ _ := refusal_eq_none_iff hmeasured
  cases hrefused : g.refusal c now target risk state q with
  | some rational =>
    refine .inr ⟨?_, by simp [decision, RiskGovernor.evaluateState, hrefused, noop]⟩
    rintro ⟨hfresh, hlarge, hside, hrisk⟩
    rw [← isPositionReduction_iff_smaller hd hq (hpos hlarge) hside] at hrisk
    have hnone := hrefusal.mpr ⟨hfresh, hrisk⟩
    rw [hrefused] at hnone
    cases hnone
  | none =>
    obtain ⟨hfresh, hrisk⟩ := hrefusal.mp hrefused
    by_cases hlarge : 1 / 1000 ≤ |d|
    · have hne := hpos hlarge
      have hsize : ¬ c.magnitude d < 1 / 1000 := by
        rw [Context.magnitude_eq hd]
        exact hlarge.not_gt
      by_cases hside : KeepsSide q d
      · have hclass := (classifyRisk_eq hd hq hne).1 hside
        rw [isPositionReduction_iff_smaller hd hq hne hside] at hrisk
        refine .inl ⟨⟨hfresh, hlarge, hside, hrisk⟩, ?_⟩
        simp only [decision, RiskGovernor.evaluateState, hrefused, if_neg hsize, hclass, d]
      · have hclass := (classifyRisk_eq hd hq hne).2 hside
        refine .inr ⟨fun h => hside h.2.2.1, ?_⟩
        simp only [decision, RiskGovernor.evaluateState, hrefused, if_neg hsize, hclass, noop, d]
    · have hsize : c.magnitude d < 1 / 1000 := by
        rw [Context.magnitude_eq hd]
        exact not_le.mp hlarge
      refine .inr ⟨fun h => hlarge h.2.1, ?_⟩
      simp only [decision, RiskGovernor.evaluateState, hrefused, if_pos hsize, noop, d]

/-- What the decision for a target has to be: one order exactly if the target has not expired, the
delta reaches the threshold and keeps the side of the position, and either makes the position
smaller or is allowed as new risk. The order is that of the delta, and its class says what it does
to the position. -/
def Approves (c : Context) (g : RiskGovernor) (stamp : Instant → String) (now later : Instant)
    (sequence : ℕ) (target : TargetExposure) (risk : RiskSnapshot) (state : Option RiskState)
    (q : ℚ) : Prop :=
  let d := target.targetNetDeltaQty
  let decision := (g.evaluateState c stamp now later sequence target risk state q).1
  (decision.orders.length = 1 ↔ Unexpired target now ∧ 1 / 1000 ≤ |d| ∧ KeepsSide q d ∧
    (|q + d| < |q| ∨ NewRiskAllowed g risk state)) ∧
  decision.orders.length ≤ 1 ∧
  ∀ order ∈ decision.orders, order.quantity = |d| ∧ order.side = (if 0 < d then .buy else .sell) ∧
  d ≠ 0 ∧
    (order.reduceOnly = true ↔ |q + d| < |q|) ∧
    (decision.riskClass = .close ↔ q + d = 0) ∧
    (decision.riskClass = .reduceRisk ↔ 0 < |q + d| ∧ |q + d| < |q|) ∧
    (decision.riskClass = .newRisk ↔ q = 0) ∧
    (decision.riskClass = .increaseRisk ↔ q ≠ 0 ∧ |q| ≤ |q + d|)

/-- **The governor approves exactly one condition**, with every risk state and every clock. -/
theorem governor_approves (g : RiskGovernor) (stamp : Instant → String) (now later : Instant)
    (sequence : ℕ) (target : TargetExposure) (hmeasured : Measured risk) (state : Option RiskState)
    (hd : c.Fixed target.targetNetDeltaQty) (hq : c.Fixed q) :
    Approves c g stamp now later sequence target risk state q := by
  unfold Approves
  intro d decision
  rcases evaluateState_cases g stamp now later sequence target hmeasured state hd hq with
    ⟨happroved, hsubmit⟩ | ⟨hnot, hnone⟩
  · have hdecision : decision = g.submit c stamp now sequence target q (classOf q d) := hsubmit
    have hne : d ≠ 0 := by
      intro hzero
      have hlarge := happroved.2.1
      rw [show target.targetNetDeltaQty = 0 from hzero, abs_zero] at hlarge
      norm_num at hlarge
    rw [hdecision]
    refine ⟨⟨fun _ => happroved, fun _ => rfl⟩, le_rfl, fun order horder => ?_⟩
    obtain rfl := List.mem_singleton.mp horder
    refine ⟨Context.magnitude_eq hd, rfl, hne, ?_⟩
    have hflat : q = 0 → ¬ |q + d| < |q| := by
      rintro rfl
      simp
    have hclosed : q + d = 0 → q ≠ 0 := by
      rintro hzero rfl
      exact hne (by simpa using hzero)
    have hclass : (g.submit c stamp now sequence target q (classOf q d)).riskClass = classOf q d :=
      rfl
    rw [hclass]
    change (reduces (classOf q d) = true ↔ _) ∧ _
    unfold classOf reduces
    split_ifs with hzero hclose hsmaller
    · simp [hzero, hne]
    · have hq0 : q ≠ 0 := hclosed hclose
      simp [hclose, hq0]
    · simp [hclose, hsmaller, hzero]
    · simp [hclose, hsmaller, hzero, not_lt.mp hsmaller]
  · have hempty : decision.orders = [] := hnone
    rw [hempty]
    exact ⟨⟨fun h => absurd h (by simp), fun h => absurd h hnot⟩, Nat.zero_le 1, by simp⟩

/-- A snapshot without losses. -/
def sampleRisk : RiskSnapshot := ⟨1000, 0, 0, 0, 0, 0, none, .normal⟩

/-- A target for a delta, which expires after a minute. -/
def sampleTarget (delta : ℚ) : TargetExposure where
  symbol := "ETHUSDC"
  marketType := .usdmFutures
  targetNetDeltaQty := delta
  targetGrossLimitQty := 5
  strategyAttributions := []
  createdAt := ⟨0, true⟩
  expiresAt := ⟨60000000, true⟩
  exposureId := "EXP-1"

theorem governor_approves_unknown : Approves .default {} (fun _ => "T") ⟨0, true⟩ ⟨1, true⟩ 0
    (sampleTarget (-1 / 2)) sampleRisk none 1 := by
  have hmeasured : Measured sampleRisk := ⟨le_rfl, le_rfl, le_rfl⟩
  refine governor_approves {} _ _ _ 0 (sampleTarget (-1 / 2)) hmeasured none ?_ ?_
  · have hhalf : (sampleTarget (-1 / 2)).targetNetDeltaQty = ((-5 : ℤ) : ℚ) * 10 ^ (-1 : ℤ) := by
      norm_num [sampleTarget]
    rw [hhalf]
    exact Context.fixed_short (-5) (-1) (by norm_num)
  · have hone := Context.fixed_short (c := .default) 1 0 (by norm_num)
    simpa using hone

/-- In 28 digits a delta can carry a position through zero. -/
theorem crossing_rounded : ¬ ∀ (g : RiskGovernor) (stamp : Instant → String) (now later : Instant)
    (sequence : ℕ) (target : TargetExposure) (risk : RiskSnapshot)
    (state : Option RiskState) (q : ℚ),
    Measured risk → Approves .default g stamp now later sequence target risk state q := by
  intro hall
  have happroves :=
    hall {} (fun _ => "T") ⟨0, true⟩ ⟨1, true⟩ 0 (sampleTarget (1 + 1 / 10 ^ 30)) sampleRisk
    none (-1) ⟨le_rfl, le_rfl, le_rfl⟩
  have hone : (RiskGovernor.evaluateState .default {} (fun _ => "T") ⟨0, true⟩ ⟨1, true⟩ 0
      (sampleTarget (1 + 1 / 10 ^ 30)) sampleRisk none (-1)).1.orders.length = 1 := by
    decide +kernel
  obtain ⟨-, -, hside, -⟩ := happroves.1.mp hone
  revert hside
  unfold KeepsSide sampleTarget
  norm_num [abs_of_pos]

end Blessing.Engines.Approval
