import Blessing.Worker.Release

/-! # The pause of new risk

An operator's pause is one of many reasons to assign `pause_new_risk`. All assignments but one set
it, or belong to a request that is to lift it; the callback of a confirmed order clears it under
every policy but the staged one, whoever has set it. `pause_survives_iff`: along a run a pause lasts
until it is lifted if and only if no such callback comes while new risk is paused. -/

namespace Blessing.Worker.Pause

open Blessing.Lib Blessing.Lib.Values Blessing.Lib.EventLoop
open Blessing.Binance.Models Blessing.Binance.Orders
open Blessing.Launch.Repository
open Blessing.Worker.Control Blessing.Worker.Switches

/-! ### Who lifts a pause -/

/-- The last answer is that of the activation of a session, or the last one of a reset. -/
def endsLaunch (log : Log Ask Answer) : Bool :=
  match log.getLast? with
  | some ⟨.activateAutonomous _, .ok (some _)⟩ => true
  | some ⟨.stopPublicMarketStream, .ok _⟩ => true
  | some ⟨.closeAdapter _, _⟩ => true
  | _ => false

/-- A turn of a request that is to lift the pause: a resume that is accepted, a continuation that
has activated the session or resets, a disarm, a reset. -/
def Lifts (s₀ : App) (log : Log Ask Answer) : Call → Prop
  | .setPauseNewRisk false => s₀.mayResume = true
  | .continueAutonomous _ => endsLaunch log = true
  | .disarm | .resetAfterFailedExchangeArm | .resetAfterFailedContinuation => True
  | _ => False

/-- The last answer says that the order was booked. -/
def marked (log : Log Ask Answer) : Bool :=
  match log.getLast? with
  | some ⟨.markSubmitted _, .ok true⟩ => true
  | _ => false

/-- The callback of a booked order, under another policy than the staged one. -/
def Overwrites (s₀ : App) (log : Log Ask Answer) : Call → Prop
  | .onOrderSubmissionResult _ .confirmed => marked log = true ∧ s₀.policy ≠ .stagedFirstOrder
  | _ => False

/-- A turn that begins with new risk paused: it clears the pause only if it lifts or overwrites it,
and it does if it overwrites it. -/
def Turn (call : Call) (_ : App) (log : Log Ask Answer) (s₀ s : App) : Prop :=
  s₀.pauseNewRisk = true →
    (s.pauseNewRisk = false → Lifts s₀ log call ∨ Overwrites s₀ log call) ∧
    (Overwrites s₀ log call → s.pauseNewRisk = false)

/-! ### A continuation -/

/-- The pause stands, or the turn ends a launch. -/
def holding : TurnRel where
  rel log x₀ x := endsLaunch log = true ∨ x₀.pauseNewRisk ≤ x.pauseNewRisk
  refl _ _ := .inr le_rfl

theorem holding_of_endsLaunch {log : Log Ask Answer} (h : endsLaunch log = true) (s₀ s : App) :
    across holding log s₀ s := .inl h

theorem endsLaunch_stop (log : Log Ask Answer) :
    endsLaunch (log ++ [⟨.stopPublicMarketStream, .ok ()⟩]) = true := by
  simp [endsLaunch]

theorem endsLaunch_close (log : Log Ask Answer) (a : ℕ) (answer : Except Exn Unit) :
    endsLaunch (log ++ [⟨.closeAdapter a, answer⟩]) = true := by
  simp [endsLaunch]

theorem carries_resetAfterFailedContinuation :
    Carries (across holding) resetAfterFailedContinuation := by
  intro G log s₀ s P hG hs hP
  unfold resetAfterFailedContinuation
  refine .bind (carries_fenceAutonomousLaunch G log s₀ s _ hG hs fun log s₀ s r hs => ?_)
  cases r with
  | error e => exact hP log s₀ s _ hs
  | ok fenced =>
    refine runs_request_bind (hG _ _ _ hs) (fun _ s₁ => .get_bind ?_) fun e s₁ =>
      hP _ _ _ _ (holding.refl _ _)
    cases s₁.executionAdapter with
    | none => exact hP _ _ _ _ (holding_of_endsLaunch (endsLaunch_stop _) _ _)
    | some a =>
      have hstop := hG _ s₁ s₁ (holding_of_endsLaunch (endsLaunch_stop log) s₁ s₁)
      refine .bind (.attempt (.bind ⟨hstop, fun answer s₂ => ?_⟩))
      have hclose := holding_of_endsLaunch
        (endsLaunch_close (log ++ [⟨.stopPublicMarketStream, .ok ()⟩]) a answer)
      exact hP _ _ _ _ (hclose _ _)

theorem endsLaunch_activate (log : Log Ask Answer) (launchId : String) (r : Session) :
    endsLaunch (log ++ [⟨.activateAutonomous launchId, .ok (some r)⟩]) = true := by
  simp [endsLaunch]

theorem carries_reset : Carries (across holding) (do
    resetAfterFailedContinuation
    return false : Prog Bool) := .bind carries_resetAfterFailedContinuation fun _ => .pure _

theorem carries_activated (c : ContinuationRequest) : Carries (across holding) (do
    match ← attempt (request (.activateAutonomous c.launchId)) with
    | .ok (some activated) => continued activated
    | _ =>
      resetAfterFailedContinuation
      return false : Prog Bool) := by
  intro G log s₀ s P hG hs hP
  refine .bind (.attempt (.bind ⟨hG _ _ _ hs, fun answer s₁ => ?_⟩))
  cases answer with
  | error e => exact carries_reset G _ s₁ s₁ P hG (holding.refl _ _) hP
  | ok activated =>
    cases activated with
    | none => exact carries_reset G _ s₁ s₁ P hG (holding.refl _ _) hP
    | some r =>
      -- the turn that activates the session may clear the pause
      have hends := holding_of_endsLaunch (endsLaunch_activate log c.launchId r)
      unfold continued
      refine .modify_bind (.modify_bind (.modify_bind (.modify_bind (.get_bind (.ite (fun _ => ?_)
        fun _ => hP _ _ _ _ (hends _ _))))))
      exact carries_reset G _ _ _ P hG (hends _ _) hP

theorem carries_activateContinuation (c : ContinuationRequest) :
    Carries (across holding) (activateContinuation c) := by
  unfold activateContinuation
  exact .bind (carries_request _) fun ready => .ite carries_reset (carries_activated c)

theorem carries_continueAutonomous (c : ContinuationRequest) :
    Carries (across holding) (continueAutonomous c) := by
  have hensure : Carries (across holding) (ensureLiveRuntimeForContinuation c) := by
    unfold ensureLiveRuntimeForContinuation
    refine .ite (.pure _) (.bind (carries_alter _) fun _ => .bind (.attempt (carries_request _))
      fun ready => ?_)
    split
    · exact .pure _
    · exact carries_reset
  unfold continueAutonomous
  refine .bind .get fun s => .ite (.pure _) (.bind (.attempt (carries_request _)) fun session => ?_)
  split
  · refine .bind (carries_alter _) fun _ => .ite (.pure _) (.bind .get fun s => .ite
      (carries_activateContinuation c) ?_)
    exact .bind hensure fun ready => .ite (carries_activateContinuation c) (.pure _)
  · exact .pure _

/-! ### The callback of an order -/

section Callback

variable {order : ExecutionOrder} {outcome : Notice} (began : App) {log : Log Ask Answer}
    {s₀ s : App}

variable (s₀) in
/-- A turn that leaves the pause as it was, without the answer that the order was booked. -/
theorem turn_of_same (h : s.pauseNewRisk = s₀.pauseNewRisk) (hmarked : marked log = false) :
    Turn (.onOrderSubmissionResult order outcome) began log s₀ s := by
  intro hpaused
  rw [h, hpaused]
  refine ⟨fun hfalse => absurd hfalse (by decide), fun hover => ?_⟩
  cases outcome with
  | confirmed => exact absurd hover.1 (by simp [hmarked])
  | rejected => exact hover.elim
  | ambiguous => exact hover.elim

/-- A turn that ends with new risk paused, under the staged policy or without that answer. -/
theorem turn_of_paused (h : s.pauseNewRisk = true)
    (hstaged : marked log = false ∨ s₀.policy = .stagedFirstOrder) :
    Turn (.onOrderSubmissionResult order outcome) began log s₀ s := by
  intro _
  rw [h]
  refine ⟨fun hfalse => absurd hfalse (by decide), fun hover => ?_⟩
  cases outcome with
  | confirmed =>
    rcases hstaged with hmarked | hpolicy
    · exact absurd hover.1 (by simp [hmarked])
    · exact absurd hpolicy hover.2
  | rejected => exact hover.elim
  | ambiguous => exact hover.elim

theorem runs_onOrderSubmissionResult (order : ExecutionOrder) (outcome : Notice) (began : App) :
    Runs (Turn (.onOrderSubmissionResult order outcome) began)
      (onOrderSubmissionResult order outcome) []
      began began fun log s₀ s _ =>
        Turn (.onOrderSubmissionResult order outcome) began log s₀ s := by
  have hsame (log : Log Ask Answer) (s : App) (hlog : marked log = false) :
      Turn (.onOrderSubmissionResult order outcome) began log s s := turn_of_same began s rfl hlog
  unfold onOrderSubmissionResult
  refine .get_bind (.ite (fun _ => hsame _ _ rfl) fun _ => ?_)
  split
  · cases outcome with
    | rejected =>
      exact runs_request_bind (hsame _ _ rfl) (fun _ s₁ => hsame _ s₁ rfl)
        fun e s₁ => hsame _ s₁ rfl
    | confirmed =>
      refine runs_request_bind (hsame _ _ rfl) (fun booked s₁ => .ite (fun hbooked => ?_)
        fun hbooked => ?_)
        fun e s₁ => hsame _ s₁ rfl
      · refine .modify_bind (turn_of_same began s₁ rfl ?_)
        cases booked with
        | false => rfl
        | true => cases hbooked
      · have hbooked : booked = true := by simpa using hbooked
        subst hbooked
        unfold orderBooked
        refine .get_bind (.ite (fun hpolicy => .modify_bind (.bind (.attempt ?_)))
          fun hpolicy => ?_)
        · refine runs_request_bind (turn_of_paused began rfl (.inr hpolicy))
            (fun session s₂ => ?_) fun e s₂ => ?_
          · cases session with
            | none => exact hsame _ s₂ rfl
            | some r => exact turn_of_same began s₂ rfl rfl
          · exact hsame _ s₂ rfl
        · exact .modify_bind fun _ => ⟨fun _ => .inr ⟨rfl, hpolicy⟩, fun _ => rfl⟩
    | ambiguous =>
      refine runs_request_bind (hsame _ _ rfl) (fun _ s₁ => ?_) fun e s₁ => hsame _ s₁ rfl
      exact .modify_bind (turn_of_paused began rfl (.inl rfl))
  · exact hsame _ _ rfl

end Callback

/-! ### The turns of all calls -/

/-- A turn of another call that does not clear the pause, or lifts it. -/
theorem turn_of_le (call : Call) (began : App) {log : Log Ask Answer} {s₀ s : App}
    (hover : ¬ Overwrites s₀ log call) (h : Lifts s₀ log call ∨ s₀.pauseNewRisk ≤ s.pauseNewRisk) :
    Turn call began log s₀ s := by
  refine fun hpaused => ⟨fun hcleared => ?_, fun h => absurd h hover⟩
  rcases h with h | h
  · exact .inl h
  · rw [hpaused, hcleared] at h
    exact absurd h (by decide)

/-- Any turn at all. -/
def anything : TurnRel where
  rel _ _ _ := True
  refl _ _ := trivial

theorem keeps_of_carries {B : Type} (call : Call) {x : Prog B}
    (hx : Carries (across (rises Control.Switches.pauseNewRisk)) x)
    (hover : ∀ s₀ log, ¬ Overwrites s₀ log call) (began : App) :
    (task x).Keeps (Turn call began) [] began began fun log s₀ s _ => Turn call began log s₀ s :=
  hx.keeps (fun _ _ => le_rfl) (fun _ _ _ hle => turn_of_le call began (hover _ _) (.inr hle)) began

theorem runs_setPauseNewRisk (active : Bool) (began : App) :
    Runs (Turn (.setPauseNewRisk active) began) (setPauseNewRisk active) [] began began
      fun log s₀ s _ => Turn (.setPauseNewRisk active) began log s₀ s := by
  have hpaused (s : App) (h : s.pauseNewRisk = true) :
      Turn (.setPauseNewRisk active) began [] began s :=
    turn_of_le _ began (fun h => h.elim) (.inr (by rw [h]; exact le_top))
  unfold setPauseNewRisk
  cases active with
  | true =>
    exact .get_bind (.ite (fun h => by simp at h) fun _ => .bind (.modify_bind (hpaused _ rfl)))
  | false =>
    refine .get_bind (.ite (fun _ => .bind (.modify_bind (hpaused _ rfl))) fun hresume => ?_)
    have hresume : began.mayResume = true := by simpa using hresume
    exact .bind (.modify_bind (turn_of_le _ began (fun h => h.elim) (.inl hresume)))

theorem keeps_loop : loop.Keeps Turn := by
  have hactivate :=
    rises_trans (ν := Control.Switches.pauseNewRisk) (g := App.activate) fun _ => le_rfl
  have hpause :=
    rises_trans (ν := Control.Switches.pauseNewRisk) (g := App.pause true) fun _ => le_top
  have hrelease :=
    rises_trans (ν := Control.Switches.pauseNewRisk) (g := App.release) fun _ => le_rfl
  intro call began
  cases call with
  | setPauseNewRisk active =>
    exact (keeps_bind _ _ _ [] began began _).mpr (runs_setPauseNewRisk active began)
  | onOrderSubmissionResult order outcome =>
    exact (keeps_bind _ _ _ [] began began _).mpr (runs_onOrderSubmissionResult order outcome began)
  | setKillSwitch active =>
    cases active with
    | true =>
      exact keeps_of_carries (.setKillSwitch true) (carries_activateKillSwitch hactivate hpause)
        (fun _ _ h => h) began
    | false =>
      exact keeps_of_carries (.setKillSwitch false) (carries_deactivateKillSwitch hrelease)
        (fun _ _ h => h) began
  | emergencyFlatten symbol =>
    exact keeps_of_carries (.emergencyFlatten symbol) (carries_emergencyFlatten hpause symbol)
      (fun _ _ h => h) began
  | failClosedAfterAutonomousExecutionError =>
    exact keeps_of_carries .failClosedAfterAutonomousExecutionError
      (carries_failClosed hactivate hpause) (fun _ _ h => h) began
  | beforeOrderSubmission order =>
    exact keeps_of_carries (.beforeOrderSubmission order)
      (carries_beforeOrderSubmission hpause order) (fun _ _ h => h) began
  | handleMarketEvent event =>
    exact keeps_of_carries (.handleMarketEvent event)
      (carries_handleMarketEvent hactivate hpause event) (fun _ _ h => h) began
  | triggerReconciliation =>
    exact keeps_of_carries .triggerReconciliation carries_triggerReconciliation
      (fun _ _ h => h) began
  | continueAutonomous c =>
    exact (carries_continueAutonomous c).keeps (fun log s => holding.refl log s.toSwitches)
      (fun log s₀ s h => turn_of_le (.continueAutonomous c) began (fun h => h) h) began
  | disarm =>
    exact (carries_disarm fun _ _ _ _ _ => trivial).keeps (fun _ _ => trivial)
      (fun log s₀ s (_ : across anything log s₀ s) => turn_of_le .disarm began (fun h => h)
        (.inl trivial)) began
  | resetAfterFailedExchangeArm =>
    exact (carries_resetAfterFailedExchangeArm fun _ _ _ _ _ => trivial).keeps (fun _ _ => trivial)
      (fun log s₀ s (_ : across anything log s₀ s) =>
        turn_of_le .resetAfterFailedExchangeArm began (fun h => h) (.inl trivial)) began
  | resetAfterFailedContinuation =>
    exact (Switches.carries_resetAfterFailedContinuation fun _ _ _ _ _ => trivial).keeps
      (fun _ _ => trivial)
      (fun log s₀ s (_ : across anything log s₀ s) =>
        turn_of_le .resetAfterFailedContinuation began (fun h => h) (.inl trivial)) began

/-! ### Runs -/

/-- A pause lasts over a step, unless the step lifts it; and the gate rejects what increases
risk. -/
def Survives (w : World Call App Ask Answer) (a : Act Call Runtime Ask Answer) : Prop :=
  w.state.pauseNewRisk = true →
    ((loop.step w a).state.pauseNewRisk = true ∨
      ∃ r, mover w a = some r ∧ Lifts w.state r.log r.call) ∧
    ∀ g decision, decision.riskClass.isRiskIncreasing = true →
      (decisionExecutionGate g w.state decision).allowed = false

/-- While new risk is paused, no booked order is reported under another policy than the staged
one. -/
def Intact (w : World Call App Ask Answer) (a : Act Call Runtime Ask Answer) : Prop :=
  w.state.pauseNewRisk = true → ∀ r, mover w a = some r → ¬ Overwrites w.state r.log r.call

/-- No request that lifts a pause overwrites it. -/
theorem not_lifts_of_overwrites {s : App} {log : Log Ask Answer} {call : Call}
    (h : Overwrites s log call) : ¬ Lifts s log call := by
  unfold Overwrites at h
  split at h
  · exact fun hlifts => hlifts
  · exact h.elim

theorem survives_iff_intact {w : World Call App Ask Answer} (h : Kept Turn w)
    (a : Act Call Runtime Ask Answer) : Survives w a ↔ Intact w a := by
  constructor
  · intro hsurvives hpaused r hr hover
    rcases turn_of_step keeps_loop h a with ⟨r', hr', hturn⟩ | ⟨hnone, -⟩
    · rw [hr] at hr'
      cases hr'
      rcases (hsurvives hpaused).1 with hstill | ⟨r', hr', hlifts⟩
      · rw [(hturn hpaused).2 hover] at hstill
        cases hstill
      · rw [hr] at hr'
        cases hr'
        exact not_lifts_of_overwrites hover hlifts
    · rw [hr] at hnone
      cases hnone
  · intro hintact hpaused
    refine ⟨?_, fun g decision hrisk => not_allowed_of_paused g hrisk hpaused⟩
    rcases turn_of_step keeps_loop h a with ⟨r, hr, hturn⟩ | ⟨-, hsame | ⟨e, -, hsame⟩⟩
    · cases hafter : (loop.step w a).state.pauseNewRisk with
      | true => exact .inl rfl
      | false =>
        rcases (hturn hpaused).1 hafter with hlifts | hover
        · exact .inr ⟨r, hr, hlifts⟩
        · exact absurd hover (hintact hpaused r hr)
    · exact .inl (by rw [hsame, hpaused])
    · exact .inl (by rw [hsame]; exact hpaused)

/-- **When an operator's pause survives.** A request to pause leaves new risk paused. Along a run, a
pause lasts until a request lifts it, and the gate rejects what increases risk meanwhile, if and
only if no booked order is reported under another policy than the staged one while new risk is
paused. -/
theorem pause_survives_iff (s : App) (acts : List (Act Call Runtime Ask Answer)) :
    (∀ w : World Call App Ask Answer,
      (loop.step w (.start (.setPauseNewRisk true))).state.pauseNewRisk = true) ∧
    ((∀ w a, Machine.StepOf loop.machine ⟨s, []⟩ acts w a → Survives w a) ↔
      ∀ w a, Machine.StepOf loop.machine ⟨s, []⟩ acts w a → Intact w a) :=
  ⟨fun _ => rfl, forall_congr' fun _ => forall_congr' fun a => forall_congr' fun hstep =>
    survives_iff_intact (kept_of_run keeps_loop hstep) a⟩

/-! ### A pause that is overwritten -/

/-- An autonomous session. -/
def autonomous : Session where
  launchId := "launch"
  approvalId := "approval"
  imageDigest := "image@sha256:0"
  symbol := "ETHUSDC"
  policy := .autonomousAfterReview
  maxRiskIncreasingOrders := none
  reservedOrders := 1
  submittedOrders := 1
  state := .autonomousActive
  continuationApprovalId := some "continuation"

/-- An order that increases risk. -/
def order : ExecutionOrder where
  symbol := "ETHUSDC"
  side := .buy
  quantity := ⟨false, 1, 0⟩
  price := ⟨false, 3000, 0⟩
  clientOrderId := ⟨"order", by decide⟩
  status := "NEW"
  riskClass := .newRisk

/-- An order is reserved; while its confirmation is booked the operator pauses new risk. -/
def overwritten : List (Act Call Runtime Ask Answer) :=
  [.start (.beforeOrderSubmission order), .resume 0 Release.quietExchange,
    .resume 0 Release.quietExchange, .start (.onOrderSubmissionResult order .confirmed),
    .start (.setPauseNewRisk true), .resume 1 Release.quietExchange]

/-- **The confirmation clears the operator's pause.** -/
theorem overwritten_not_survives :
    ¬ ∀ s acts w a, Machine.StepOf loop.machine ⟨s, []⟩ acts w a → Survives w a := by
  intro h
  have hsurvives := h (Release.live.runtime (·.setSession (some autonomous))) overwritten _ _
    ⟨overwritten.take 5, [], rfl, rfl⟩
  rcases (hsurvives (by decide +kernel)).1 with hstill | ⟨r, hr, hlifts⟩
  · exact absurd hstill (by decide +kernel)
  · cases hr
    exact hlifts

end Blessing.Worker.Pause
