import Blessing.Engines.Intents

/-! # Exposure recovery

`ExposureRecoveryEngine`: once the drawdown has reached the trigger, the target of a symbol is
replaced by a reduction of the position, until the drawdown is below the trigger again. -/

namespace Blessing.Engines.ExposureRecovery

open Blessing.Lib.Rounding
open Blessing.Engines.Intents

inductive RecoveryActionType where
  | hold
  | partialHedge
  | reduceLong
  | harvestHedge
  | progressiveUnwind
  | emergencyFlatten
  deriving DecidableEq, Repr

/-- `RecoveryState` of a symbol. -/
structure RecoveryState where
  isActive : Bool := false
  actionType : RecoveryActionType := .hold
  hedgeRatio : ℚ := 0
  lastUpdate : Instant
  lockedToxicityLevel : ℚ := 0

/-- `reset` -/
def RecoveryState.reset (s : RecoveryState) : RecoveryState :=
  { s with isActive := false, actionType := .hold, hedgeRatio := 0, lockedToxicityLevel := 0 }

/-- `ExposureRecoveryEngine` -/
structure ExposureRecoveryEngine where
  drawdownTriggerPct : ℚ := 2
  maxHedgeRatio : ℚ := 8 / 10

/-- The states of the symbols seen so far. -/
abbrev States := String → Option RecoveryState

section

variable (c : Context) (e : ExposureRecoveryEngine)

/-- `_determine_action`: the action and its intensity. -/
def ExposureRecoveryEngine.determineAction (risk : RiskSnapshot) (currentQty targetDelta : ℚ) :
    RecoveryActionType × ℚ :=
  if c.mul e.drawdownTriggerPct (5 / 2) ≤ risk.currentDrawdownPct then (.emergencyFlatten, -1)
  else if c.mul e.drawdownTriggerPct (3 / 2) ≤ risk.currentDrawdownPct then
    (.progressiveUnwind, -1 / 4)
  else if (0 < currentQty ∧ targetDelta < 0) ∨ (currentQty < 0 ∧ 0 < targetDelta) then
    (.harvestHedge, targetDelta)
  else (.partialHedge, 3 / 10)

/-- The delta an action makes of the target's, for a position that is not flat. -/
def ExposureRecoveryEngine.adjusted (action : RecoveryActionType)
    (intensity currentQty newTargetDelta volatilityFactor : ℚ) : ℚ :=
  let absQty := c.magnitude currentQty
  match action with
  | .emergencyFlatten => c.minus currentQty
  | .progressiveUnwind =>
    let reduction := c.mul absQty (c.magnitude intensity)
    if 0 < currentQty then c.minus reduction else reduction
  | .partialHedge =>
    let requiredHedgeRatio := min e.maxHedgeRatio (c.mul (c.magnitude intensity) volatilityFactor)
    let requiredHedgeQty := c.mul absQty requiredHedgeRatio
    let hedgeDelta := if 0 < currentQty then c.minus requiredHedgeQty else requiredHedgeQty
    if (0 < currentQty ∧ hedgeDelta < newTargetDelta) ∨
      (currentQty < 0 ∧ newTargetDelta < hedgeDelta)
    then hedgeDelta else newTargetDelta
  | _ => newTargetDelta

/-- The grid brake: no delta in the direction of the position. -/
def braked (currentQty delta : ℚ) : ℚ :=
  if 0 < currentQty ∧ 0 < delta then 0
  else if currentQty < 0 ∧ delta < 0 then 0
  else delta

/-- `process`: the target after recovery and the states; `now` is the clock. -/
def ExposureRecoveryEngine.process (now : Instant) (states : States) (target : TargetExposure)
    (risk : RiskSnapshot) (currentPositionQty : ℚ) (volatilityFactor : ℚ := 1) :
    TargetExposure × States :=
  let state := (states target.symbol).getD { lastUpdate := now }
  let isToxic := e.drawdownTriggerPct ≤ risk.currentDrawdownPct
  let storing (s : RecoveryState) : States := fun symbol =>
    if symbol = target.symbol then some s else states symbol
  if ¬ isToxic ∧ ¬ state.isActive then (target, storing state)
  else if ¬ isToxic then (target, storing state.reset)
  else
    let state :=
      if state.isActive then state
      else { state with isActive := true, lockedToxicityLevel := risk.currentDrawdownPct }
    let state := { state with lastUpdate := now }
    if c.magnitude currentPositionQty = 0 then
      ({ target with targetNetDeltaQty := 0 }, storing { state with actionType := .hold })
    else
      let newTargetDelta := braked currentPositionQty target.targetNetDeltaQty
      let (action, intensity) := e.determineAction c risk currentPositionQty newTargetDelta
      ({ target with
          targetNetDeltaQty :=
            e.adjusted c action intensity currentPositionQty newTargetDelta volatilityFactor },
        storing { state with actionType := action })

end

/-! ### The delta of the target -/

variable (c : Context) (e : ExposureRecoveryEngine)

/-- The delta `process` leaves: the target's own below the trigger, none of a flat symbol, else what
the action makes of the braked one. -/
def ExposureRecoveryEngine.recoveredDelta (risk : RiskSnapshot) (currentQty delta
    volatilityFactor : ℚ) : ℚ :=
  if risk.currentDrawdownPct < e.drawdownTriggerPct then delta
  else if c.magnitude currentQty = 0 then 0
  else
    let action := e.determineAction c risk currentQty (braked currentQty delta)
    e.adjusted c action.1 action.2 currentQty (braked currentQty delta) volatilityFactor

/-- Whatever happened before, `process` changes nothing of the target but the delta. -/
theorem process_target (now : Instant) (states : States) (target : TargetExposure)
    (risk : RiskSnapshot) (currentQty volatilityFactor : ℚ) :
    (e.process c now states target risk currentQty volatilityFactor).1 =
      { target with
        targetNetDeltaQty :=
          e.recoveredDelta c risk currentQty target.targetNetDeltaQty volatilityFactor } := by
  unfold ExposureRecoveryEngine.process ExposureRecoveryEngine.recoveredDelta
  by_cases htoxic : e.drawdownTriggerPct ≤ risk.currentDrawdownPct
  · have hnot : ¬ risk.currentDrawdownPct < e.drawdownTriggerPct := not_lt.mpr htoxic
    simp only [htoxic, hnot, not_true_eq_false, false_and, if_false]
    split_ifs <;> rfl
  · have hlt : risk.currentDrawdownPct < e.drawdownTriggerPct := lt_of_not_ge htoxic
    simp only [htoxic, hlt, not_false_eq_true, true_and, if_true]
    split_ifs <;> rfl

end Blessing.Engines.ExposureRecovery
