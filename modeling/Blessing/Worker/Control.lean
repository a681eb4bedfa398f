import Blessing.Launch.Submission
import Blessing.Lib.EventLoop

/-! # The controls of the Worker

The kill switch and the pause of new risk of `TradingWorkerApp` in `main.py`, with every method that
assigns them: the operator's requests, the callbacks of an order, the handler of market events, and
the ways in and out of a launch. The methods share the attributes of the Worker and interleave where
they await the exchange or the database.

Of the adapter there is what the Worker reads from it; whatever else changes there, and whatever
arming and the market stream do, is done by the surroundings. `activations` counts the assignments
`kill_switch_active = True`: the code has no such counter. -/

namespace Blessing.Worker.Control

open Blessing.Lib.Values Blessing.Lib.EventLoop
open Blessing.Binance.Models Blessing.Binance.Orders
open Blessing.Launch.Repository Blessing.Launch.Submission

/-! ### The Worker -/

/-- `WorkerEngineState` -/
inductive EngineState where
  | disarmed
  | arming
  | armed
  | pausedNewRisk
  | recoveryOnly
  | degraded
  | emergency
  deriving DecidableEq, Repr

/-- What the Worker reads from an exchange adapter. -/
structure Adapter where
  environment : BinanceEnvironment := .mainnet
  state : ConnectionState := .ready
  authenticated : Bool := true
  tradeAuthorized : Bool := true
  privateStreamHealthy : Bool := true
  lastStatus : String := "IN_SYNC"
  authenticationFailed : Bool := false

/-- `invalidate_authentication` -/
def Adapter.invalidated (a : Adapter) : Adapter :=
  { a with authenticated := false, tradeAuthorized := false, state := .degraded }

/-- The switches an operator controls. -/
structure Switches where
  killSwitchActive : Bool := false
  pauseNewRisk : Bool := false
  activations : ℕ := 0
  deriving DecidableEq

/-- The other attributes. Adapters are known by their identity. -/
structure Runtime where
  executionMode : ExecutionMode := .paper
  adapters : ℕ → Adapter := fun _ => {}
  executionAdapter : Option ℕ := none
  launchId : Option String := none
  launchSession : Option Session := none
  activeConfiguration : Bool := false
  recoveryOnly : Bool := false
  engineState : EngineState := .disarmed
  connectionState : ConnectionState := .disconnected
  reconciliationStatus : String := "UNKNOWN"
  authenticated : Bool := false
  privateStreamHealthy : Bool := false
  marketDataHealthy : Bool := false

/-- The Worker. -/
structure App extends Switches, Runtime

/-- The mode is one of an exchange. -/
def Runtime.onExchange (s : Runtime) : Bool := s.executionMode = .testnet ∨ s.executionMode = .live

/-- `_current_exchange_environment` -/
def Runtime.exchangeEnvironment (s : Runtime) : BinanceEnvironment :=
  if s.executionMode = .live then .mainnet else .testnet

/-- `_current_exchange_label` -/
def Runtime.exchangeLabel (s : Runtime) : String := s.exchangeEnvironment.label

/-- `_set_mainnet_launch_session` -/
def Runtime.setSession (s : Runtime) (session : Option Session) : Runtime :=
  { s with
    launchSession := session
    launchId := (session.map Session.launchId).filter (· ≠ "") }

/-- `_launch_session_value("policy", MAINNET_LAUNCH_STAGED)` -/
def Runtime.policy (s : Runtime) : Policy :=
  (s.launchSession.map Session.policy).getD .stagedFirstOrder

/-- The session has a policy and a state. -/
def Runtime.hasSession (s : Runtime) (policy : Policy) (state : SessionState) : Bool :=
  s.launchSession.any fun r => r.policy = policy ∧ r.state = state

/-- `_adapter_trade_authorized` -/
def Runtime.tradeAuthorized (s : Runtime) : Bool :=
  s.executionAdapter.any fun a => (s.adapters a).tradeAuthorized

/-- Change an adapter. -/
def Runtime.setAdapter (s : Runtime) (a : ℕ) (f : Adapter → Adapter) : Runtime :=
  { s with adapters := Function.update s.adapters a (f (s.adapters a)) }

/-- Change the other attributes. -/
def App.runtime (f : Runtime → Runtime) (s : App) : App := { s with toRuntime := f s.toRuntime }

/-- `kill_switch_active = True` -/
def App.activate (s : App) : App :=
  { s with killSwitchActive := true, activations := s.activations + 1 }

/-- `kill_switch_active = False` -/
def App.release (s : App) : App := { s with killSwitchActive := false }

/-- `pause_new_risk = active` -/
def App.pause (active : Bool) (s : App) : App := { s with pauseNewRisk := active }

/-- `_refresh_engine_state` -/
def App.refreshed (s : App) : EngineState :=
  if s.killSwitchActive then .emergency
  else if !s.activeConfiguration then .disarmed
  else if s.onExchange && (s.connectionState != .ready || !s.authenticated || !s.tradeAuthorized ||
      !s.privateStreamHealthy || s.reconciliationStatus != "IN_SYNC") then .degraded
  else if s.recoveryOnly then .recoveryOnly
  else if s.pauseNewRisk then .pausedNewRisk
  else .armed

/-- `_refresh_engine_state` -/
def App.refreshEngineState (s : App) : App :=
  s.runtime fun r => { r with engineState := s.refreshed }

/-- `_sync_adapter_state` -/
def App.syncAdapterState (s : App) : App :=
  match s.executionAdapter with
  | none => s
  | some a =>
    let r :=
      if (s.adapters a).authenticationFailed then s.toRuntime.setAdapter a Adapter.invalidated
      else s.toRuntime
    App.refreshEngineState { s with
      toRuntime := { r with
        connectionState := (r.adapters a).state
        authenticated := (r.adapters a).authenticated
        privateStreamHealthy := (r.adapters a).privateStreamHealthy
        reconciliationStatus := (r.adapters a).lastStatus } }

/-! ### What the methods await -/

/-- What `set_kill_switch` returns. -/
structure Reply where
  status : String
  reason : Option String := none
  environment : Option String := none
  remainingOrders : Option ℕ := none
  reconciliation : Option String := none
  deriving DecidableEq

/-- The calls a method awaits. An adapter is asked by its identity. -/
inductive Ask where
  | openOrders (adapter : ℕ)
  | reconcile (adapter : ℕ)
  | clearAccountSnapshot (adapter : ℕ)
  | accountSnapshotUsable (adapter : ℕ)
  | positionsOpposed (adapter : ℕ)
  | cancelAllOpenOrders (adapter : ℕ)
  | executeDecision (adapter : ℕ) (decision : ExecutionDecision)
  | emergencyFlatten (adapter : ℕ) (symbol : Option String)
  | closeAdapter (adapter : ℕ)
  | stopPublicMarketStream
  | observedGridDepth (symbol : String)
  | ensureOrderDurable (order : ExecutionOrder)
  | reserve (launchId : String)
  | releaseReservation (launchId : String)
  | markSubmitted (launchId : String)
  | markReconciliationRequired (launchId : String)
  | markReconciled (launchId : String)
  | markReauthRequired
  | launchSession (launchId : Option String)
  | ensureLiveRuntime
  | continuationReady
  | activateAutonomous (launchId : String)

/-- What is returned to them. `accountSnapshotUsable` is `get_account_snapshot` with the checks of
the snapshot behind it, `positionsOpposed` is `get_positions` with the check of the legs. -/
abbrev Value : Ask → Type
  | .openOrders _ => Json
  | .reconcile _ => String
  | .cancelAllOpenOrders _ => Reply
  | .launchSession _ | .activateAutonomous _ => Option Session
  | .accountSnapshotUsable _ | .positionsOpposed _ | .ensureOrderDurable _ | .reserve _
  | .releaseReservation _ | .markSubmitted _ | .markReconciliationRequired _ | .markReconciled _
  | .ensureLiveRuntime | .continuationReady => Bool
  | .clearAccountSnapshot _ | .executeDecision _ _ | .emergencyFlatten _ _ | .closeAdapter _
  | .stopPublicMarketStream | .observedGridDepth _ | .markReauthRequired => Unit

/-- A call returns or raises. -/
abbrev Answer (q : Ask) : Type := Except Exn (Value q)

/-- A method. -/
abbrev Prog := Task App Ask Answer Exn

/-- `await` a call. -/
def request (q : Ask) : Prog (Value q) := do raising (← await q)

/-- Change the other attributes. -/
def alter (f : Runtime → Runtime) : Prog Unit := modify (App.runtime f)

/-- `_refresh_engine_state` -/
def refreshEngineState : Prog Unit := modify App.refreshEngineState

/-- `pause_new_risk = active`, and the state of the engine with it. -/
def setPause (active : Bool) : Prog Unit := do
  modify (App.pause active)
  refreshEngineState

/-! ### Reconciliation and fences -/

/-- `trigger_reconciliation` -/
def triggerReconciliation : Prog String := do
  let s ← get
  match s.executionAdapter with
  | some a =>
    let res ← request (.reconcile a)
    modify App.syncAdapterState
    let s ← get
    if res = "IN_SYNC" then
      if let some launchId := s.launchId then
        let _ ← attempt do
          let _ ← request (.markReconciled launchId)
          let session ← request (.launchSession (← get).launchId)
          alter (·.setSession session)
    return res
  | none =>
    if s.onExchange then
      alter fun r => { r with
        authenticated := false
        privateStreamHealthy := false
        reconciliationStatus := "UNKNOWN"
        connectionState := .disconnected }
      return "UNKNOWN"
    else
      alter fun r => { r with
        reconciliationStatus := "SIMULATED_SYNC"
        connectionState := .ready
        privateStreamHealthy := false
        authenticated := false }
      return "SIMULATED_SYNC"

/-- `_fence_autonomous_launch` -/
def fenceAutonomousLaunch : Prog Bool := do
  let s ← get
  if !(s.executionMode = .live ∧ s.hasSession .autonomousAfterReview .autonomousActive) then
    return true
  let fenced ← attempt do
    request .markReauthRequired
    let session ← request (.launchSession s.launchId)
    if session.all (·.state ≠ .reauthRequired) then
      throw (.value "durable launch fence was not read back as REAUTH_REQUIRED")
    alter (·.setSession session)
  match fenced with
  | .ok _ => return true
  | .error _ =>
    alter (·.setSession none)
    return false

/-! ### The operator's requests -/

/-- `set_pause_new_risk(False)` is accepted. -/
def App.mayResume (s : App) : Bool :=
  s.executionMode ≠ .live ∨ s.hasSession .autonomousAfterReview .autonomousActive ∨
    s.hasSession .stagedFirstOrder .active ∧ s.launchSession.all (·.submittedOrders = 0)

/-- `set_pause_new_risk` -/
def setPauseNewRisk (active : Bool) : Prog Bool := do
  if !active && !(← get).mayResume then
    setPause true
    return false
  setPause active
  return true

/-- The stream and the authentication of an adapter are in order. -/
def App.verified (s : App) (a : ℕ) : Bool :=
  (s.adapters a).privateStreamHealthy ∧ (s.adapters a).authenticated

/-- The release behind the reconciliation. -/
def releaseVerified (a : ℕ) (reconciliation : String) : Prog Reply := do
  if reconciliation ≠ "IN_SYNC" ∨ !(← get).verified a then
    return { status := "PARTIAL", reconciliation, reason :=
      "Kill switch remains active until stream, authentication, and reconciliation are verified." }
  else
    modify App.release
    refreshEngineState
    return { status := "CONFIRMED", remainingOrders := some 0 }

/-- The checks in front of the release. -/
def releaseKillSwitch (a : ℕ) : Prog Reply := do
  match ← request (.openOrders a) with
  | .arr [] => releaseVerified a (← triggerReconciliation)
  | .arr orders =>
    return { status := "PARTIAL", remainingOrders := orders.length, reason :=
      "Kill switch remains active while " ++ (← get).exchangeLabel ++ " open orders exist." }
  | _ => return { status := "UNKNOWN", reason := "Authoritative openOrders response is invalid." }

/-- The release cannot be verified here. -/
def unverifiable (s : App) : Reply where
  status := "UNKNOWN"
  reason := "Kill switch remains active until a verified " ++ s.exchangeLabel ++
    " restart/reconciliation."

/-- The handlers around the release. -/
def releaseFailed (a : ℕ) (e : Exn) : Prog Reply := do
  if e.isAuthentication then
    alter (·.setAdapter a Adapter.invalidated)
    return { status := "UNKNOWN", reason :=
      (← get).exchangeLabel ++ " authentication failed; kill switch remains active." }
  else
    return { status := "UNKNOWN", reason :=
      "Kill switch remains active because exchange release could not be verified." }

/-- `set_kill_switch(False)` -/
def deactivateKillSwitch : Prog Reply := do
  let s ← get
  if !s.killSwitchActive then
    refreshEngineState
    return { status := "CONFIRMED" }
  else
    match s.executionAdapter with
    | none =>
      if s.executionMode = .paper then
        modify App.release
        refreshEngineState
        return { status := "CONFIRMED", environment := "PAPER" }
      else return unverifiable s
    | some a =>
      if !s.onExchange then return unverifiable s
      else
        match ← attempt (releaseKillSwitch a) with
        | .ok reply => return reply
        | .error e => releaseFailed a e

/-- The reconciliation behind the cancellation. -/
def reconcileOrUnknown (a : ℕ) : Prog String := do
  match ← attempt triggerReconciliation with
  | .ok reconciliation => return reconciliation
  | .error e =>
    if e.isAuthentication then alter (·.setAdapter a Adapter.invalidated)
    return "UNKNOWN"

/-- `set_kill_switch(True)` -/
def activateKillSwitch : Prog Reply := do
  modify App.activate
  modify (App.pause true)
  alter fun r => { r with engineState := .emergency }
  let _ ← fenceAutonomousLaunch
  let s ← get
  match s.executionAdapter with
  | none =>
    if s.executionMode = .paper then return { status := "CONFIRMED", environment := "PAPER" }
    else return { status := "UNKNOWN", reason := s.exchangeLabel ++
      " exchange adapter is unavailable." }
  | some a =>
    if !s.onExchange then
      return { status := "UNKNOWN", reason :=
        "Mutable cancellation is restricted to the fixed Binance execution environment." }
    alter (·.setAdapter a fun x => { x with lastStatus := "UNKNOWN" })
    request (.clearAccountSnapshot a)
    let cancellation ← request (.cancelAllOpenOrders a)
    let reconciliation ← reconcileOrUnknown a
    if cancellation.status ≠ "CONFIRMED" then return { cancellation with reconciliation }
    if reconciliation ≠ "IN_SYNC" ∨ !(← get).verified a then
      return { status := "PARTIAL", reconciliation }
    return { status := "CONFIRMED", remainingOrders := some 0 }

/-- `set_kill_switch` -/
def setKillSwitch (active : Bool) : Prog Reply :=
  if active then activateKillSwitch else deactivateKillSwitch

/-- `emergency_flatten` -/
def emergencyFlatten (symbol : Option String) : Prog Unit := do
  let s ← get
  match s.executionAdapter with
  | none => throw (.value "Emergency flatten is available only for an active Testnet adapter")
  | some a =>
    if !s.onExchange then
      throw (.value "Emergency flatten is available only for an active Testnet adapter")
    setPause true
    request (.emergencyFlatten a symbol)

/-- The kill switch, and its flag if the workflow behind it fails. -/
def killSwitchOrFlag : Prog Reply := do
  match ← attempt (setKillSwitch true) with
  | .ok result => return result
  | .error _ =>
    modify App.activate
    return { status := "UNKNOWN", reason := "Autonomous " ++ (← get).exchangeLabel ++
      " execution failed and kill-switch verification is unknown." }

/-- `_fail_closed_after_autonomous_execution_error` -/
def failClosedAfterAutonomousExecutionError : Prog Reply := do
  modify (App.pause true)
  alter fun r => { r with connectionState := .degraded, reconciliationStatus := "UNKNOWN" }
  if let some a := (← get).executionAdapter then
    alter (·.setAdapter a fun x => { x with state := .degraded, lastStatus := "UNKNOWN" })
    let _ ← attempt (request (.clearAccountSnapshot a))
  let result ← killSwitchOrFlag
  modify App.activate
  refreshEngineState
  return result

/-! ### The callbacks of an order -/

/-- The order is blocked. -/
def blocked : Prog Bool := do
  setPause true
  return false

/-- `_before_order_submission`. A policy other than the two is not in the table. -/
def beforeOrderSubmission (order : ExecutionOrder) : Prog Bool := do
  let durable ← request (.ensureOrderDurable order)
  let s ← get
  if !order.riskClass.isRiskIncreasing || s.executionMode ≠ .live then
    return durable || !order.riskClass.isRiskIncreasing
  if !durable then blocked
  else
    match s.launchId with
    | none => blocked
    | some launchId =>
      if s.policy = .autonomousAfterReview ∧ !s.launchSession.any (·.state = .autonomousActive) then
        blocked
      else
        match ← attempt (request (.reserve launchId)) with
        | .ok true => return true
        | _ => blocked

/-- The order of a session was booked. -/
def orderBooked (launchId : String) : Prog Unit := do
  if (← get).policy = .stagedFirstOrder then
    modify (App.pause true)
    let _ ← attempt do
      if let some session ← request (.launchSession (some launchId)) then
        alter (·.setSession (some session))
    refreshEngineState
  else setPause false

/-- `_on_order_submission_result` -/
def onOrderSubmissionResult (order : ExecutionOrder) (outcome : Notice) : Prog Unit := do
  let s ← get
  if s.executionMode ≠ .live || !order.riskClass.isRiskIncreasing then return
  let some launchId := s.launchId | return
  match outcome with
  | .rejected =>
    let _ ← request (.releaseReservation launchId)
  | .confirmed =>
    let marked ← request (.markSubmitted launchId)
    if !marked then
      modify App.activate
      alter fun r => { r with connectionState := .degraded, reconciliationStatus := "UNKNOWN" }
    else orderBooked launchId
  | .ambiguous =>
    let _ ← request (.markReconciliationRequired launchId)
    modify (App.pause true)
    alter fun r => { r with connectionState := .degraded, reconciliationStatus := "UNKNOWN" }

/-! ### In and out of a launch -/

/-- `_reset_after_failed_exchange_arm` -/
def resetAfterFailedExchangeArm : Prog Unit := do
  request .stopPublicMarketStream
  if let some a := (← get).executionAdapter then
    let _ ← attempt (request (.closeAdapter a))
    alter fun r => { r with executionAdapter := none }
  alter fun r => Runtime.setSession { r with
    connectionState := .disconnected
    executionMode := .paper
    marketDataHealthy := false
    privateStreamHealthy := false
    authenticated := false
    reconciliationStatus := "UNKNOWN"
    activeConfiguration := false } none
  modify (App.pause false)
  alter fun r => { r with recoveryOnly := false, engineState := .disarmed }

/-- `_reset_after_failed_continuation` -/
def resetAfterFailedContinuation : Prog Unit := do
  let _ ← fenceAutonomousLaunch
  request .stopPublicMarketStream
  if let some a := (← get).executionAdapter then
    let _ ← attempt (request (.closeAdapter a))
    alter fun r => { r with executionAdapter := none }
  alter fun r => { r with
    executionMode := .live
    connectionState := .disconnected
    marketDataHealthy := false
    privateStreamHealthy := false
    authenticated := false
    reconciliationStatus := "UNKNOWN"
    activeConfiguration := false }
  modify (App.pause false)
  alter fun r => { r with recoveryOnly := false, engineState := .disarmed }

/-- `disarm` -/
def disarm : Prog Unit := do
  let _ ← fenceAutonomousLaunch
  if let some a := (← get).executionAdapter then
    let _ ← attempt (request (.closeAdapter a))
    alter fun r => { r with executionAdapter := none }
  alter fun r => { r with
    connectionState := .disconnected
    marketDataHealthy := false
    privateStreamHealthy := false
    authenticated := false
    reconciliationStatus := "DISCONNECTED"
    activeConfiguration := false
    launchId := none }
  modify (App.pause false)
  let emergency := (← get).killSwitchActive
  alter fun r => { r with
    recoveryOnly := false
    engineState := if emergency then .emergency else .disarmed }

/-- A request to continue, with the checks that read neither the state of the Worker nor an answer:
`allowed` is the form of the request with the flags of the deployment, `bound` is the agreement of
the session with the image and the approvals, `configured` is `_mainnet_configured`. -/
structure ContinuationRequest where
  launchId : String
  allowed : Bool
  bound : Session → Bool
  configured : Bool

/-- The adapter is ready for a continuation. -/
def App.liveRuntimeReady (s : App) : Bool :=
  s.executionAdapter.any (fun a =>
    (s.adapters a).environment = .mainnet ∧ (s.adapters a).state = .ready) &&
    s.authenticated && s.privateStreamHealthy

/-- `_ensure_live_runtime_for_continuation` -/
def ensureLiveRuntimeForContinuation (c : ContinuationRequest) : Prog Bool := do
  if !c.configured then return false
  alter fun r => { r with executionMode := .live }
  match ← attempt (request .ensureLiveRuntime) with
  | .ok true => return true
  | _ =>
    resetAfterFailedContinuation
    return false

/-- The session was activated. -/
def continued (activated : Session) : Prog Bool := do
  alter fun r => { r.setSession (some activated) with activeConfiguration := true }
  modify (App.pause false)
  alter fun r => { r with recoveryOnly := false }
  refreshEngineState
  if (← get).engineState ≠ .armed then
    resetAfterFailedContinuation
    return false
  return true

/-- The session awaits a continuation. -/
def awaitsContinuation (session : Session) : Bool :=
  (session.policy = .stagedFirstOrder ∧ session.state = .pausedNewRisk ∨
    session.policy = .autonomousAfterReview ∧ session.state = .reauthRequired) ∧
  1 ≤ session.submittedOrders

/-- The last part of `continue_autonomous`. -/
def activateContinuation (c : ContinuationRequest) : Prog Bool := do
  if !(← request .continuationReady) then
    resetAfterFailedContinuation
    return false
  match ← attempt (request (.activateAutonomous c.launchId)) with
  | .ok (some activated) => continued activated
  | _ =>
    resetAfterFailedContinuation
    return false

/-- `continue_autonomous` -/
def continueAutonomous (c : ContinuationRequest) : Prog Bool := do
  if (← get).killSwitchActive || !c.allowed then return false
  match ← attempt (request (.launchSession (some c.launchId))) with
  | .ok (some session) =>
    alter (·.setSession (some session))
    if !awaitsContinuation session || !c.bound session then return false
    if (← get).liveRuntimeReady then activateContinuation c
    else if ← ensureLiveRuntimeForContinuation c then activateContinuation c
    else return false
  | _ => return false

/-! ### The gate of a decision -/

/-- What `DecisionExecutionGate` reads besides the Worker: the deployment, the account, the
market. -/
structure GateView where
  liveApproved : Bool := true
  configured : Bool := true
  disabledStrategyReason : Option String := none
  accountSnapshotReady : Bool := true
  availableBalancePositive : Bool := true
  marginUtilizationSafe : Bool := true
  liquidationSafetyKnown : Bool := true
  staleMarketReason : Option String := none

structure GateResult where
  allowed : Bool
  reason : String
  deriving DecidableEq

/-- The checks of `DecisionExecutionGate.check` in their order: what blocks a decision, and the
reason that is given. -/
def gateChecks (g : GateView) (s : App) (decision : ExecutionDecision) : List (Bool × String) :=
  let a := (s.executionAdapter.map s.adapters).getD {}
  let venue := a.environment.label
  let risky := decision.riskClass.isRiskIncreasing
  [(!s.onExchange, "Execution mode is not an exchange execution mode"),
    (s.executionMode = .live && !g.liveApproved, "MAINNET_LIVE_APPROVED is not enabled"),
    (!([EngineState.armed, .pausedNewRisk, .recoveryOnly].contains s.engineState),
      "Worker is not in an executable armed state"),
    (s.killSwitchActive, "Kill switch is active"),
    (!g.configured, s.exchangeLabel ++ " configuration is not verified"),
    (s.executionAdapter.isNone, "Execution adapter is unavailable"),
    (a.state ≠ .ready, "Adapter not READY"),
    (!a.authenticated, "Adapter is not authenticated"),
    (!a.tradeAuthorized, venue ++ " trade permission is not verified"),
    (!a.privateStreamHealthy, "Private stream disconnected"),
    (a.lastStatus ≠ "IN_SYNC", "Reconciliation not IN_SYNC"),
    (decision.riskClass = .noop, "Decision has no executable economic risk class"),
    (decision.orders.isEmpty, "Decision contains no orders"),
    (Blessing.Lib.Text.upper decision.action = "NOOP", "NOOP decisions cannot reach execution"),
    (risky && g.disabledStrategyReason.isSome, g.disabledStrategyReason.getD ""),
    (risky && (s.pauseNewRisk || s.engineState = .pausedNewRisk), "Paused new risk"),
    (risky && (s.recoveryOnly || s.engineState = .recoveryOnly), "Recovery only mode active"),
    (risky && !g.accountSnapshotReady,
      "Account snapshot is missing, stale, invalid, or not " ++ venue),
    (risky && !g.availableBalancePositive, "Available " ++ venue ++ " balance is not positive"),
    (risky && !g.marginUtilizationSafe,
      "Margin utilization is at or above the " ++ venue ++ " safety limit"),
    (risky && !g.liquidationSafetyKnown, "Liquidation safety is UNKNOWN"),
    (risky && !s.marketDataHealthy, "Market data is stale"),
    (risky && g.staleMarketReason.isSome, g.staleMarketReason.getD "")]

/-- `DecisionExecutionGate.check` -/
def decisionExecutionGate (g : GateView) (s : App) (decision : ExecutionDecision) : GateResult :=
  match (gateChecks g s decision).find? (·.1) with
  | some (_, reason) => ⟨false, reason⟩
  | none => ⟨true, "Passed"⟩

theorem not_allowed_of_mem {g : GateView} {s : App} {decision : ExecutionDecision} {reason : String}
    (h : (true, reason) ∈ gateChecks g s decision) :
    (decisionExecutionGate g s decision).allowed = false := by
  unfold decisionExecutionGate
  cases hfind : (gateChecks g s decision).find? (·.1) with
  | some c => rfl
  | none => exact absurd rfl (List.find?_eq_none.mp hfind _ h)

/-- **While new risk is paused the gate rejects every decision that increases it.** -/
theorem not_allowed_of_paused (g : GateView) {s : App} {decision : ExecutionDecision}
    (hrisk : decision.riskClass.isRiskIncreasing = true) (hpause : s.pauseNewRisk = true) :
    (decisionExecutionGate g s decision).allowed = false :=
  not_allowed_of_mem (by simp [gateChecks, hrisk, hpause] : (true, "Paused new risk") ∈ _)

/-! ### Market events -/

/-- A market event, with what the strategies and the risk engine make of it: whether the adapter and
the price action take it, whether the grid is enabled, and the decision, unless the intents
conflict. `snapshotHolds`: the snapshot at hand passes its checks behind a reconciliation that
brings no new one. -/
structure MarketEvent where
  symbol : String
  recorded : Bool
  activeInstrument : Bool
  priced : Bool
  gridEnabled : Bool
  snapshotHolds : Bool
  decision : Option ExecutionDecision
  launchReady : Bool
  gate : GateView

/-- `execute_manual_decision` -/
def executeManualDecision (g : GateView) (decision : ExecutionDecision) : Prog Unit := do
  let s ← get
  let result := decisionExecutionGate g s decision
  match s.executionAdapter with
  | none => throw (.value ("Decision execution gate blocked manual order: " ++ result.reason))
  | some a =>
    if !result.allowed then
      throw (.value ("Decision execution gate blocked manual order: " ++ result.reason))
    request (.executeDecision a decision)
    let s ← get
    if (s.adapters a).state ≠ .ready ∨ (s.adapters a).lastStatus ≠ "IN_SYNC" then
      let _ ← failClosedAfterAutonomousExecutionError

/-- The reconciliation of an event that finds no usable snapshot. -/
def snapshotAfterReconcile (event : MarketEvent) (a : ℕ) : Prog Bool := do
  let renewed ← attempt do
    let res ← request (.reconcile a)
    if res = "IN_SYNC" then
      alter fun r => { r with reconciliationStatus := "IN_SYNC" }
      request (.accountSnapshotUsable a)
    else return event.snapshotHolds
  match renewed with
  | .ok usable => return usable
  | .error _ => return event.snapshotHolds

/-- A usable snapshot, if need be by a reconciliation. -/
def usableSnapshot (event : MarketEvent) (a : ℕ) : Prog Bool := do
  if ← request (.accountSnapshotUsable a) then return true
  else snapshotAfterReconcile event a

/-- The account is known, or else new risk is paused; with opposed legs the event is dropped. -/
def accountKnown (event : MarketEvent) (a : ℕ) : Prog Bool := do
  if ← usableSnapshot event a then return !(← request (.positionsOpposed a))
  else
    alter fun r => { r with connectionState := .degraded }
    setPause true
    return false

/-- The launch admits the decision. -/
def App.launchAdmits (s : App) (event : MarketEvent) : Bool :=
  event.launchReady &&
    (s.executionMode ≠ .live || s.policy ≠ .stagedFirstOrder ||
      s.engineState = .armed && !s.pauseNewRisk)

/-- The end of `handle_market_event`: the decision goes to the adapter if the gate lets it
through. -/
def execute (event : MarketEvent) (decision : ExecutionDecision) : Prog Unit := do
  let s ← get
  if decision.action ≠ "NOOP" ∧ [EngineState.armed, .pausedNewRisk,
    .recoveryOnly].contains s.engineState then
    if s.onExchange ∧ s.executionAdapter.isSome ∧ s.launchAdmits event ∧
        (decisionExecutionGate event.gate s decision).allowed then
      match ← attempt (executeManualDecision event.gate decision) with
      | .ok _ => return
      | .error _ => let _ ← failClosedAfterAutonomousExecutionError

/-- The account behind an event, if the mode has one. -/
def accountOf (event : MarketEvent) : Prog Bool := do
  let s ← get
  if !s.onExchange then return true
  match s.executionAdapter with
  | none =>
    alter fun r => { r with
      connectionState := .disconnected
      privateStreamHealthy := false
      authenticated := false
      reconciliationStatus := "UNKNOWN" }
    setPause true
    return false
  | some a =>
    match ← attempt (accountKnown event a) with
    | .ok known => return known
    | .error _ =>
      alter fun r => { r with connectionState := .degraded }
      setPause true
      return false

/-- `handle_market_event` -/
def handleMarketEvent (event : MarketEvent) : Prog Unit := do
  if !event.recorded then return
  if event.activeInstrument then alter fun r => { r with marketDataHealthy := true }
  if !event.priced || !(← get).activeConfiguration then return
  if event.gridEnabled then request (.observedGridDepth event.symbol)
  if !(← accountOf event) then return
  match event.decision with
  | none => if (← get).onExchange then setPause true
  | some decision => execute event decision

/-! ### The event loop -/

/-- The calls. -/
inductive Call where
  | setPauseNewRisk (active : Bool)
  | setKillSwitch (active : Bool)
  | emergencyFlatten (symbol : Option String)
  | failClosedAfterAutonomousExecutionError
  | beforeOrderSubmission (order : ExecutionOrder)
  | onOrderSubmissionResult (order : ExecutionOrder) (outcome : Notice)
  | handleMarketEvent (event : MarketEvent)
  | triggerReconciliation
  | continueAutonomous (c : ContinuationRequest)
  | disarm
  | resetAfterFailedExchangeArm
  | resetAfterFailedContinuation

/-- Their programs. -/
def Call.program : Call → Flow App Ask Answer Unit
  | .setPauseNewRisk active => task (Control.setPauseNewRisk active)
  | .setKillSwitch active => task (Control.setKillSwitch active)
  | .emergencyFlatten symbol => task (Control.emergencyFlatten symbol)
  | .failClosedAfterAutonomousExecutionError => task Control.failClosedAfterAutonomousExecutionError
  | .beforeOrderSubmission order => task (Control.beforeOrderSubmission order)
  | .onOrderSubmissionResult order outcome => task (Control.onOrderSubmissionResult order outcome)
  | .handleMarketEvent event => task (Control.handleMarketEvent event)
  | .triggerReconciliation => task Control.triggerReconciliation
  | .continueAutonomous c => task (Control.continueAutonomous c)
  | .disarm => task Control.disarm
  | .resetAfterFailedExchangeArm => task Control.resetAfterFailedExchangeArm
  | .resetAfterFailedContinuation => task Control.resetAfterFailedContinuation

/-- The Worker: the surroundings change whatever they like but the switches. -/
def loop : Loop Call Runtime App Ask Answer where
  program := Call.program
  outside r s := { s with toRuntime := r }

end Blessing.Worker.Control
