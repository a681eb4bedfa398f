import Blessing.Worker.Control

/-! # Who leaves the switches alone

What an activation and a pause carry on, every method carries on that assigns the switches in no
other way. -/

namespace Blessing.Worker.Switches

open Blessing.Lib.EventLoop
open Blessing.Binance.Models Blessing.Binance.Orders
open Blessing.Worker.Control

/-- A relation between the switches at the beginning of a turn and those it has written so far. -/
structure TurnRel where
  rel : Log Ask Answer → Control.Switches → Control.Switches → Prop
  refl : ∀ log x, rel log x x

/-- The relation of two states. -/
abbrev across (T : TurnRel) (log : Log Ask Answer) (s₀ s : App) : Prop :=
  T.rel log s₀.toSwitches s.toSwitches

/-- A measure of the switches does not fall. -/
def rises {M : Type} [Preorder M] (ν : Control.Switches → M) : TurnRel where
  rel _ x₀ x := ν x₀ ≤ ν x
  refl _ _ := le_rfl

theorem rises_trans {M : Type} [Preorder M] {ν : Control.Switches → M} {g : App → App}
    (h : ∀ s, ν s.toSwitches ≤ ν (g s).toSwitches) (log : Log Ask Answer) (s₀ s : App)
    (hs : across (rises ν) log s₀ s) : across (rises ν) log s₀ (g s) := le_trans hs (h s)

@[simp] theorem runtime_switches (f : Runtime → Runtime) (s : App) :
    (s.runtime f).toSwitches = s.toSwitches := rfl

@[simp] theorem refreshEngineState_switches (s : App) :
    s.refreshEngineState.toSwitches = s.toSwitches := rfl

@[simp] theorem syncAdapterState_switches (s : App) :
    s.syncAdapterState.toSwitches = s.toSwitches := by
  unfold App.syncAdapterState
  cases s.executionAdapter <;> rfl

theorem runs_request_bind {B : Type} {G : Log Ask Answer → App → App → Prop} {log : Log Ask Answer}
    {s₀ s : App} {q : Ask} {f : Value q → Prog B}
    {P : Log Ask Answer → App → App → Except Exn B → Prop} (hG : G log s₀ s)
    (hok : ∀ v s', Runs G (f v) (log ++ [⟨q, .ok v⟩]) s' s' P)
    (herror : ∀ e s', P (log ++ [⟨q, .error e⟩]) s' s' (.error e)) :
    Runs G (request q >>= f) log s₀ s P := by
  refine .bind (.await_bind hG fun answer s' => ?_)
  cases answer with
  | ok v => exact hok v s'
  | error e => exact herror e s'

section Any

variable {T : TurnRel}

theorem carries_request (q : Ask) : Carries (across T) (request q) :=
  .bind (.await (fun log s => T.refl log s.toSwitches) q) fun _ => .raising _

theorem carries_alter (f : Runtime → Runtime) : Carries (across T) (alter f) :=
  .modify fun _ _ _ h => h

theorem carries_refreshEngineState : Carries (across T) refreshEngineState :=
  .modify fun _ _ _ h => h

theorem carries_syncAdapterState : Carries (across T) (modify App.syncAdapterState : Prog Unit) :=
  .modify fun log s₀ s h => by rwa [across, syncAdapterState_switches]

theorem carries_triggerReconciliation : Carries (across T) triggerReconciliation := by
  unfold triggerReconciliation
  refine .bind .get fun s => ?_
  split
  · refine .bind (carries_request _) fun res => .bind carries_syncAdapterState
      fun _ => .bind .get fun s =>
      .ite ?_ (.pure _)
    split
    · refine .bind (.attempt (.bind (carries_request _) fun _ => .bind .get fun s => ?_))
        fun _ => .pure _
      exact .bind (carries_request _) fun session => carries_alter _
    · exact .pure _
  · exact .ite (.bind (carries_alter _) fun _ => .pure _) (.bind (carries_alter _) fun _ => .pure _)

theorem carries_fenceAutonomousLaunch : Carries (across T) fenceAutonomousLaunch := by
  unfold fenceAutonomousLaunch
  refine .bind .get fun s => .ite (.pure _) (.bind (.attempt ?_) fun fenced => ?_)
  · refine .bind (carries_request _) fun _ => .bind (carries_request _) fun session => ?_
    exact .ite (.bind (.throw _) fun _ => carries_alter _) (carries_alter _)
  · split
    · exact .pure _
    · exact .bind (carries_alter _) fun _ => .pure _

theorem carries_reconcileOrUnknown (a : ℕ) : Carries (across T) (reconcileOrUnknown a) := by
  unfold reconcileOrUnknown
  refine .bind (.attempt carries_triggerReconciliation) fun result => ?_
  split
  · exact .pure _
  · exact .ite (.bind (carries_alter _) fun _ => .pure _) (.pure _)

theorem carries_releaseFailed (a : ℕ) (e : Exn) : Carries (across T) (releaseFailed a e) := by
  unfold releaseFailed
  exact .ite (.bind (carries_alter _) fun _ => .bind .get fun _ => .pure _) (.pure _)

theorem carries_snapshotAfterReconcile (event : MarketEvent) (a : ℕ) :
    Carries (across T) (snapshotAfterReconcile event a) := by
  unfold snapshotAfterReconcile
  refine .bind (.attempt (.bind (carries_request _) fun res => .ite ?_ (.pure _))) fun renewed => ?_
  · exact .bind (carries_alter _) fun _ => carries_request _
  · split
    · exact .pure _
    · exact .pure _

theorem carries_usableSnapshot (event : MarketEvent) (a : ℕ) :
    Carries (across T) (usableSnapshot event a) :=
  .bind (carries_request _) fun _ => .ite (.pure _) (carries_snapshotAfterReconcile _ _)

end Any

section Guarded

variable {T : TurnRel} (hactivate : ∀ log s₀ s, across T log s₀ s → across T log s₀ s.activate)
  (hpause : ∀ log s₀ s, across T log s₀ s → across T log s₀ (s.pause true))

include hpause in
theorem carries_setPause : Carries (across T) (setPause true) :=
  .bind (.modify hpause) fun _ => carries_refreshEngineState

include hpause in
theorem carries_emergencyFlatten (symbol : Option String) :
    Carries (across T) (emergencyFlatten symbol) := by
  have hrest (a : ℕ) : Carries (across T) (do
      setPause true
      request (.emergencyFlatten a symbol) : Prog Unit) :=
    .bind (carries_setPause hpause) fun _ => carries_request _
  unfold emergencyFlatten
  refine .bind .get fun s => ?_
  split
  · exact .throw _
  · exact .ite (.bind (.throw _) fun _ => hrest _) (hrest _)

include hpause in
theorem carries_beforeOrderSubmission (order : ExecutionOrder) :
    Carries (across T) (beforeOrderSubmission order) := by
  have hblocked : Carries (across T) blocked := .bind (carries_setPause hpause) fun _ => .pure _
  unfold beforeOrderSubmission
  refine .bind (carries_request _) fun durable => .bind .get fun s =>
    .ite (.pure _) (.ite hblocked ?_)
  split
  · exact hblocked
  · refine .ite hblocked (.bind (.attempt (carries_request _)) fun reserved => ?_)
    split
    · exact .pure _
    · exact hblocked

include hactivate hpause

theorem carries_activateKillSwitch : Carries (across T) activateKillSwitch := by
  unfold activateKillSwitch
  refine .bind (.modify hactivate) fun _ => .bind (.modify hpause) fun _ =>
    .bind (carries_alter _) fun _ =>
    .bind carries_fenceAutonomousLaunch fun _ => .bind .get fun s => ?_
  have hrest (a : ℕ) : Carries (across T) (do
      alter (·.setAdapter a fun x => { x with lastStatus := "UNKNOWN" })
      request (.clearAccountSnapshot a)
      let cancellation ← request (.cancelAllOpenOrders a)
      let reconciliation ← reconcileOrUnknown a
      if cancellation.status ≠ "CONFIRMED" then return { cancellation with reconciliation }
      if reconciliation ≠ "IN_SYNC" ∨ !(← get).verified a then
        return { status := "PARTIAL", reconciliation }
      return { status := "CONFIRMED", remainingOrders := some 0 } : Prog Reply) :=
    .bind (carries_alter _) fun _ => .bind (carries_request _) fun _ =>
      .bind (carries_request _) fun _ =>
      .bind (carries_reconcileOrUnknown _) fun _ =>
        .ite (.pure _) (.bind .get fun _ => .ite (.pure _) (.pure _))
  split
  · exact .ite (.pure _) (.pure _)
  · exact .ite (.pure _) (hrest _)

theorem carries_killSwitchOrFlag : Carries (across T) killSwitchOrFlag := by
  unfold killSwitchOrFlag setKillSwitch
  refine .bind (.attempt (carries_activateKillSwitch hactivate hpause)) fun result => ?_
  split
  · exact .pure _
  · exact .bind (.modify hactivate) fun _ => .bind .get fun _ => .pure _

theorem carries_failClosed : Carries (across T) failClosedAfterAutonomousExecutionError := by
  have hclose : Carries (across T) (do
      let result ← killSwitchOrFlag
      modify App.activate
      refreshEngineState
      return result : Prog Reply) :=
    .bind (carries_killSwitchOrFlag hactivate hpause) fun _ => .bind (.modify hactivate) fun _ =>
      .bind carries_refreshEngineState fun _ => .pure _
  unfold failClosedAfterAutonomousExecutionError
  refine .bind (.modify hpause) fun _ => .bind (carries_alter _) fun _ => .bind .get fun s => ?_
  split
  · exact .bind (carries_alter _) fun _ => .bind (.attempt (carries_request _)) fun _ => hclose
  · exact hclose

theorem carries_executeManualDecision (g : GateView) (decision : ExecutionDecision) :
    Carries (across T) (executeManualDecision g decision) := by
  have hrest (a : ℕ) : Carries (across T) (do
      request (.executeDecision a decision)
      let s ← get
      if (s.adapters a).state ≠ .ready ∨ (s.adapters a).lastStatus ≠ "IN_SYNC" then
        let _ ← failClosedAfterAutonomousExecutionError : Prog Unit) :=
    .bind (carries_request _) fun _ => .bind .get fun s =>
      .ite (.bind (carries_failClosed hactivate hpause) fun _ => .pure _) (.pure _)
  unfold executeManualDecision
  refine .bind .get fun s => ?_
  dsimp only
  split
  · exact .throw _
  · exact .ite (.bind (.throw _) fun _ => hrest _) (hrest _)

theorem carries_execute (event : MarketEvent) (decision : ExecutionDecision) :
    Carries (across T) (execute event decision) := by
  unfold execute
  refine .bind .get fun s => .ite (.ite ?_ (.pure _)) (.pure _)
  refine .bind (.attempt (carries_executeManualDecision hactivate hpause _ _)) fun result => ?_
  split
  · exact .pure _
  · exact .bind (carries_failClosed hactivate hpause) fun _ => .pure _

omit hactivate in
theorem carries_accountKnown (event : MarketEvent) (a : ℕ) :
    Carries (across T) (accountKnown event a) := by
  unfold accountKnown
  refine .bind (carries_usableSnapshot _ _) fun usable =>
    .ite (.bind (carries_request _) fun _ => .pure _) ?_
  exact .bind (carries_alter _) fun _ => .bind (carries_setPause hpause) fun _ => .pure _

omit hactivate in
theorem carries_accountOf (event : MarketEvent) : Carries (across T) (accountOf event) := by
  unfold accountOf
  refine .bind .get fun s => .ite (.pure _) ?_
  split
  · exact .bind (carries_alter _) fun _ => .bind (carries_setPause hpause) fun _ => .pure _
  · refine .bind (.attempt (carries_accountKnown hpause _ _)) fun result => ?_
    split
    · exact .pure _
    · exact .bind (carries_alter _) fun _ => .bind (carries_setPause hpause) fun _ => .pure _

theorem carries_decide (event : MarketEvent) : Carries (across T) (do
    if !(← accountOf event) then return
    match event.decision with
    | none => if (← get).onExchange then setPause true
    | some decision => execute event decision : Prog Unit) := by
  refine .bind (carries_accountOf hpause _) fun known => .ite (.pure _) ?_
  split
  · exact .bind .get fun s => .ite (carries_setPause hpause) (.pure _)
  · exact carries_execute hactivate hpause _ _

theorem carries_handleMarketEvent (event : MarketEvent) :
    Carries (across T) (handleMarketEvent event) := by
  have hdecide := carries_decide hactivate hpause event
  have hpriced : Carries (across T) (do
      if !event.priced || !(← get).activeConfiguration then return
      if event.gridEnabled then request (.observedGridDepth event.symbol)
      if !(← accountOf event) then return
      match event.decision with
      | none => if (← get).onExchange then setPause true
      | some decision => execute event decision : Prog Unit) :=
    .bind .get fun s => .ite (.pure _) (.ite (.bind (carries_request _) fun _ => hdecide) hdecide)
  unfold handleMarketEvent
  exact .ite (.pure _) (.ite (.bind (carries_alter _) fun _ => hpriced) hpriced)

end Guarded

/-! ### Methods that lift a pause -/

section Lifting

variable {T : TurnRel}
    (hany : ∀ (active : Bool) log s₀ s, across T log s₀ s → across T log s₀ (s.pause active))

include hany

theorem carries_setPauseNewRisk (active : Bool) : Carries (across T) (setPauseNewRisk active) := by
  have hset (active : Bool) : Carries (across T) (setPause active) :=
    .bind (.modify (hany active)) fun _ => carries_refreshEngineState
  have hrest : Carries (across T) (do
      setPause active
      return true : Prog Bool) := .bind (hset active) fun _ => .pure _
  unfold setPauseNewRisk
  exact .bind .get fun s => .ite (.bind (hset true) fun _ => .pure _) hrest

theorem carries_orderBooked (launchId : String) : Carries (across T) (orderBooked launchId) := by
  unfold orderBooked
  refine .bind .get fun s =>
    .ite ?_ (.bind (.modify (hany false)) fun _ => carries_refreshEngineState)
  refine .bind (.modify (hany true)) fun _ =>
    .bind (.attempt (.bind (carries_request _) fun session => ?_))
    fun _ => carries_refreshEngineState
  split
  · exact carries_alter _
  · exact .pure _

theorem carries_resetAfterFailedExchangeArm : Carries (across T) resetAfterFailedExchangeArm := by
  have hreset : Carries (across T) (do
      alter fun r => Runtime.setSession { r with
        connectionState := .disconnected
        executionMode := .paper
        marketDataHealthy := false
        privateStreamHealthy := false
        authenticated := false
        reconciliationStatus := "UNKNOWN"
        activeConfiguration := false } none
      modify (App.pause false)
      alter fun r => { r with recoveryOnly := false, engineState := .disarmed } : Prog Unit) :=
    .bind (carries_alter _) fun _ => .bind (.modify (hany false)) fun _ => carries_alter _
  unfold resetAfterFailedExchangeArm
  refine .bind (carries_request _) fun _ => .bind .get fun s => ?_
  split
  · exact .bind (.attempt (carries_request _)) fun _ => .bind (carries_alter _) fun _ => hreset
  · exact hreset

theorem carries_resetAfterFailedContinuation : Carries (across T) resetAfterFailedContinuation := by
  have hreset : Carries (across T) (do
      alter fun r => { r with
        executionMode := .live
        connectionState := .disconnected
        marketDataHealthy := false
        privateStreamHealthy := false
        authenticated := false
        reconciliationStatus := "UNKNOWN"
        activeConfiguration := false }
      modify (App.pause false)
      alter fun r => { r with recoveryOnly := false, engineState := .disarmed } : Prog Unit) :=
    .bind (carries_alter _) fun _ => .bind (.modify (hany false)) fun _ => carries_alter _
  unfold resetAfterFailedContinuation
  refine .bind carries_fenceAutonomousLaunch fun _ => .bind (carries_request _)
    fun _ => .bind .get fun s => ?_
  split
  · exact .bind (.attempt (carries_request _)) fun _ => .bind (carries_alter _) fun _ => hreset
  · exact hreset

theorem carries_disarm : Carries (across T) disarm := by
  have hreset : Carries (across T) (do
      alter fun r => { r with
        connectionState := .disconnected
        marketDataHealthy := false
        privateStreamHealthy := false
        authenticated := false
        reconciliationStatus := "DISCONNECTED"
        activeConfiguration := false
        launchId := none }
      modify (App.pause false)
      let emergency := (← get).killSwitchActive
      alter fun r => { r with
        recoveryOnly := false
        engineState := if emergency then .emergency else .disarmed } : Prog Unit) :=
    .bind (carries_alter _) fun _ => .bind (.modify (hany false)) fun _ =>
      .bind .get fun _ => carries_alter _
  unfold disarm
  refine .bind carries_fenceAutonomousLaunch fun _ => .bind .get fun s => ?_
  split
  · exact .bind (.attempt (carries_request _)) fun _ => .bind (carries_alter _) fun _ => hreset
  · exact hreset

theorem carries_reset : Carries (across T) (do
    resetAfterFailedContinuation
    return false : Prog Bool) := .bind (carries_resetAfterFailedContinuation hany) fun _ => .pure _

theorem carries_continued (activated : Launch.Repository.Session) :
    Carries (across T) (continued activated) := by
  unfold continued
  refine .bind (carries_alter _) fun _ => .bind (.modify (hany false)) fun _ =>
    .bind (carries_alter _) fun _ => .bind carries_refreshEngineState fun _ => .bind .get fun s =>
      .ite (carries_reset hany) (.pure _)

theorem carries_activated (c : ContinuationRequest) : Carries (across T) (do
    match ← attempt (request (.activateAutonomous c.launchId)) with
    | .ok (some activated) => continued activated
    | _ =>
      resetAfterFailedContinuation
      return false : Prog Bool) := by
  refine .bind (.attempt (carries_request _)) fun activated => ?_
  split
  · exact carries_continued hany _
  · exact carries_reset hany

theorem carries_continueAutonomous (c : ContinuationRequest) :
    Carries (across T) (continueAutonomous c) := by
  have hreset := carries_reset hany
  have hactivate : Carries (across T) (activateContinuation c) := by
    unfold activateContinuation
    exact .bind (carries_request _) fun ready => .ite hreset (carries_activated hany c)
  have hensure : Carries (across T) (ensureLiveRuntimeForContinuation c) := by
    unfold ensureLiveRuntimeForContinuation
    refine .ite (.pure _) (.bind (carries_alter _) fun _ => .bind (.attempt (carries_request _))
      fun ready => ?_)
    split
    · exact .pure _
    · exact hreset
  unfold continueAutonomous
  refine .bind .get fun s => .ite (.pure _) (.bind (.attempt (carries_request _)) fun session => ?_)
  split
  · refine .bind (carries_alter _) fun _ => .ite (.pure _) (.bind .get fun s => .ite hactivate ?_)
    exact .bind hensure fun ready => .ite hactivate (.pure _)
  · exact .pure _

end Lifting

/-! ### Methods that lift a pause and activate, or release -/

variable {T : TurnRel}

/-- The callback may also activate. -/
theorem carries_onOrderSubmissionResult
    (hactivate : ∀ log s₀ s, across T log s₀ s → across T log s₀ s.activate)
    (hany : ∀ (active : Bool) log s₀ s, across T log s₀ s → across T log s₀ (s.pause active))
    (order : ExecutionOrder) (outcome : Notice) :
    Carries (across T) (onOrderSubmissionResult order outcome) := by
  have hpaused : Carries (across T) (do
      modify (App.pause true)
      alter fun r => { r with connectionState := .degraded, reconciliationStatus := "UNKNOWN" } :
        Prog Unit) :=
    .bind (.modify (hany true)) fun _ => carries_alter _
  unfold onOrderSubmissionResult
  refine .bind .get fun s => .ite (.pure _) ?_
  split
  · cases outcome with
    | rejected => exact .bind (carries_request _) fun _ => .pure _
    | confirmed =>
      refine .bind (carries_request _) fun marked => .ite ?_ (carries_orderBooked hany _)
      exact .bind (.modify hactivate) fun _ => carries_alter _
    | ambiguous => exact .bind (carries_request _) fun _ => hpaused
  · exact .pure _

theorem carries_deactivateKillSwitch
    (hrelease : ∀ log s₀ s, across T log s₀ s → across T log s₀ s.release) :
    Carries (across T) deactivateKillSwitch := by
  have hverified (a : ℕ) (reconciliation : String) :
      Carries (across T) (releaseVerified a reconciliation) := by
    unfold releaseVerified
    refine .bind .get fun s => .ite (.pure _) ?_
    exact .bind (.modify hrelease) fun _ => .bind carries_refreshEngineState fun _ => .pure _
  have hreleaseSwitch (a : ℕ) : Carries (across T) (releaseKillSwitch a) := by
    unfold releaseKillSwitch
    refine .bind (carries_request _) fun orders => ?_
    split
    · exact .bind carries_triggerReconciliation fun _ => hverified _ _
    · exact .bind .get fun _ => .pure _
    · exact .pure _
  unfold deactivateKillSwitch
  refine .bind .get fun s => .ite (.bind carries_refreshEngineState fun _ => .pure _) ?_
  split
  · refine .ite ?_ (.pure _)
    exact .bind (.modify hrelease) fun _ => .bind carries_refreshEngineState fun _ => .pure _
  · refine .ite (.pure _) (.bind (.attempt (hreleaseSwitch _)) fun result => ?_)
    split
    · exact .pure _
    · exact carries_releaseFailed _ _

/-! ### All calls -/

/-- What an activation and any change of the pause carry on is carried on by every call but a
release, and by that if it carries it on. -/
theorem keeps_program (hactivate : ∀ log s₀ s, across T log s₀ s → across T log s₀ s.activate)
    (hany : ∀ (active : Bool) log s₀ s, across T log s₀ s → across T log s₀ (s.pause active))
    {call : Call} (hcall : call ≠ .setKillSwitch false ∨ ∀ log s₀ s, across T log s₀ s →
      across T log s₀ s.release) {G : Log Ask Answer → App → App → Prop}
    (hG : ∀ log s₀ s, across T log s₀ s → G log s₀ s) (s : App) :
    call.program.Keeps G [] s s fun log s₀ s _ => G log s₀ s := by
  have hpause := hany true
  have hT (log : Log Ask Answer) (s : App) : across T log s s := T.refl log _
  cases call with
  | setPauseNewRisk active => exact (carries_setPauseNewRisk hany active).keeps hT hG s
  | setKillSwitch active =>
    cases active with
    | true => exact (carries_activateKillSwitch hactivate hpause).keeps hT hG s
    | false =>
      rcases hcall with hcall | hrelease
      · exact absurd rfl hcall
      · exact (carries_deactivateKillSwitch hrelease).keeps hT hG s
  | emergencyFlatten symbol => exact (carries_emergencyFlatten hpause symbol).keeps hT hG s
  | failClosedAfterAutonomousExecutionError =>
    exact (carries_failClosed hactivate hpause).keeps hT hG s
  | beforeOrderSubmission order => exact (carries_beforeOrderSubmission hpause order).keeps hT hG s
  | onOrderSubmissionResult order outcome =>
    exact (carries_onOrderSubmissionResult hactivate hany order outcome).keeps hT hG s
  | handleMarketEvent event =>
    exact (carries_handleMarketEvent hactivate hpause event).keeps hT hG s
  | triggerReconciliation => exact carries_triggerReconciliation.keeps hT hG s
  | continueAutonomous c => exact (carries_continueAutonomous hany c).keeps hT hG s
  | disarm => exact (carries_disarm hany).keeps hT hG s
  | resetAfterFailedExchangeArm => exact (carries_resetAfterFailedExchangeArm hany).keeps hT hG s
  | resetAfterFailedContinuation => exact (carries_resetAfterFailedContinuation hany).keeps hT hG s

end Blessing.Worker.Switches
