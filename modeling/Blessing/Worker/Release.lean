import Blessing.Worker.Switches

/-! # The release of the kill switch

A release reads the open orders and reconciles before it clears the flag, and the flag is a boolean:
an activation in between leaves no trace in it. `released_iff_current`: along a run the kill switch
is only ever released by a request that began after the last activation if and only if no request
whose checks come out well is overtaken by an activation. -/

namespace Blessing.Worker.Release

open Blessing.Lib Blessing.Lib.Values Blessing.Lib.EventLoop
open Blessing.Binance.Models Blessing.Binance.Orders
open Blessing.Launch.Repository
open Blessing.Worker.Control Blessing.Worker.Switches

/-! ### What a release has seen -/

/-- The reconciliation behind the open orders is through, and the stream and the authentication are
in order: without a launch it ends with the answer of `reconcile`, else with that of its fence. -/
def reconciled (s : App) (a : ℕ) : Log Ask Answer → Bool
  | [] => s.launchId.isNone && s.syncAdapterState.verified a
  | [⟨.markReconciled _, .error _⟩] => s.verified a
  | [⟨.markReconciled _, .ok _⟩, ⟨.launchSession _, _⟩] => s.verified a
  | _ => false

/-- The checks of a release came out well with the last answer, or it needs none. -/
def verified (s : App) : Log Ask Answer → Bool
  | [] => s.executionMode = .paper && s.executionAdapter.isNone
  | ⟨.openOrders a, .ok (.arr [])⟩ :: ⟨.reconcile _, .ok "IN_SYNC"⟩ :: log => reconciled s a log
  | _ => false

/-- A turn of a release that begins with the switch active clears it exactly when its checks came
out well; no other turn clears it. -/
def Turn (call : Call) (_ : App) (log : Log Ask Answer) (s₀ s : App) : Prop :=
  s₀.killSwitchActive = true →
    (s.killSwitchActive = false ↔ call = .setKillSwitch false ∧ verified s₀ log = true)

section Release

variable {began : App} {log : Log Ask Answer} {s₀ s : App}

/-- The turns of a release. -/
abbrev ReleaseTurn (log : Log Ask Answer) (s₀ s : App) : Prop :=
  s₀.killSwitchActive = true → (s.killSwitchActive = false ↔ verified s₀ log = true)

theorem runs_releaseFailed {a : ℕ} {e : Exn} (h : ReleaseTurn log s₀ s) :
    Runs ReleaseTurn (releaseFailed a e) log s₀ s fun log s₀ s _ => ReleaseTurn log s₀ s := by
  unfold releaseFailed
  exact .ite (fun _ => .modify_bind (.get_bind h)) fun _ => h

/-- The end of a release that is through with the reconciliation. -/
theorem runs_releaseVerified {a : ℕ} {reconciliation : String}
    (hs : s.killSwitchActive = s₀.killSwitchActive)
    (h : verified s₀ log = true ↔ reconciliation = "IN_SYNC" ∧ s.verified a = true) :
    Runs ReleaseTurn (releaseVerified a reconciliation) log s₀ s fun log s₀ s _ =>
      ReleaseTurn log s₀ s := by
  unfold releaseVerified
  refine .get_bind (.ite (fun hc => ?_) fun hc => ?_)
  · intro hactive
    rw [hs, hactive, h]
    simp only [Bool.true_eq_false, false_iff]
    rintro ⟨hsync, hverified⟩
    rcases hc with hc | hc
    · exact hc hsync
    · simp [hverified] at hc
  · refine .modify_bind (.modify_bind fun _ => ?_)
    rw [h]
    have : reconciliation = "IN_SYNC" ∧ s.verified a = true := by simpa using hc
    exact ⟨fun _ => this, fun _ => rfl⟩

@[simp] theorem setSession_verified (session : Option Session) (a : ℕ) :
    (s.runtime (·.setSession session)).verified a = s.verified a := rfl

@[simp] theorem syncAdapterState_launchId (s : App) : s.syncAdapterState.launchId = s.launchId := by
  unfold App.syncAdapterState
  cases s.executionAdapter with
  | none => rfl
  | some a => by_cases h : (s.adapters a).authenticationFailed <;> simp [h, App.refreshEngineState,
      App.runtime, Runtime.setAdapter]

theorem runs_reconcileAndRelease (a : ℕ) (s : App) :
    Runs ReleaseTurn (triggerReconciliation >>= releaseVerified a)
      [⟨.openOrders a, .ok (.arr [])⟩] s s
      fun log s₀ s _ => ReleaseTurn log s₀ s := by
  have hnone (f : Runtime → Runtime) (res : String) (hres : res ≠ "IN_SYNC") :
      Runs ReleaseTurn ((do alter f; return res : Prog String) >>= releaseVerified a)
        [⟨.openOrders a, .ok (.arr [])⟩] s s fun log s₀ s _ => ReleaseTurn log s₀ s :=
    .bind (.modify_bind (runs_releaseVerified rfl (by simp [verified, hres])))
  unfold triggerReconciliation
  refine .bind (.get_bind ?_)
  cases hadapter : s.executionAdapter with
  | none =>
    dsimp only
    exact .ite (fun _ => hnone _ _ (by decide)) fun _ => hnone _ _ (by decide)
  | some b =>
    refine runs_request_bind (fun hactive => by simp [hactive, verified]) (fun res s' => ?_)
      fun e s' hactive => by simp [hactive, verified]
    refine .modify_bind (.get_bind (.ite (fun hsync => ?_) fun hsync => ?_))
    · subst hsync
      cases hlaunch : s'.syncAdapterState.launchId with
      | none =>
        rw [syncAdapterState_launchId] at hlaunch
        exact runs_releaseVerified (by rw [syncAdapterState_switches])
          (by simp [verified, reconciled, hlaunch])
      | some launchId =>
        rw [syncAdapterState_launchId] at hlaunch
        refine .bind (.attempt (runs_request_bind ?_ (fun marked s₁ => ?_) fun e s₁ => ?_))
        · intro hactive
          simp [verified, reconciled, hlaunch, hactive]
        · refine .get_bind (runs_request_bind ?_ (fun session s₂ => ?_) fun e s₂ => ?_)
          · intro hactive
            simp [verified, reconciled, hactive]
          · exact runs_releaseVerified rfl (by simp [verified, reconciled])
          · exact runs_releaseVerified rfl (by simp [verified, reconciled])
        · exact runs_releaseVerified rfl (by simp [verified, reconciled])
    · exact runs_releaseVerified (by rw [syncAdapterState_switches]) (by simp [verified, hsync])

theorem runs_deactivateKillSwitch (s : App) :
    Runs ReleaseTurn deactivateKillSwitch [] s s fun log s₀ s _ => ReleaseTurn log s₀ s := by
  unfold deactivateKillSwitch
  refine .get_bind (.ite (fun hc => ?_) fun hc => ?_)
  · refine .modify_bind fun hactive => ?_
    simp [hactive] at hc
  · cases hadapter : s.executionAdapter with
    | none =>
      refine .ite (fun hpaper => .modify_bind (.modify_bind fun _ => ?_)) fun hpaper hactive => ?_
      · rw [show verified s [] = true by simp [verified, hpaper, hadapter]]
        exact ⟨fun _ => rfl, fun _ => rfl⟩
      · rw [show verified s [] = false by simp [verified, hpaper], hactive]
        decide
    | some a =>
      have hstart (s' : App) (hs : s'.killSwitchActive = s.killSwitchActive) :
          ReleaseTurn [] s s' := by
        intro hactive
        rw [show verified s [] = false by simp [verified, hadapter], hs, hactive]
        decide
      refine .ite (fun _ => hstart s rfl) fun _ => .bind (.attempt ?_)
      refine Runs.mono (P := fun log s₀ s _ => ReleaseTurn log s₀ s) ?_ fun log s₀ s r h => ?_
      · refine runs_request_bind (hstart s rfl) (fun orders s' => ?_) fun e s' hactive => ?_
        · have hblocked (x : Json) (hx : ∀ h : x = .arr [], False) :
              ReleaseTurn [⟨.openOrders a, .ok x⟩] s' s' := by
            intro hactive
            rw [hactive]
            cases x with
            | arr xs =>
              cases xs with
              | nil => exact (hx rfl).elim
              | cons x xs => simp [verified]
            | _ => simp [verified]
          cases orders with
          | arr xs =>
            cases xs with
            | nil => exact runs_reconcileAndRelease a s'
            | cons x xs => exact .get_bind (hblocked _ (by simp))
          | _ => exact hblocked _ (by simp)
        · simp [hactive, verified]
      · cases r with
        | ok reply => exact h
        | error e => exact runs_releaseFailed h

end Release

/-! ### The turns of all calls -/

theorem turn_of_rises {call : Call} (hcall : call ≠ .setKillSwitch false) (began : App)
    {log : Log Ask Answer} {s₀ s : App} (h : s₀.killSwitchActive ≤ s.killSwitchActive) :
    Turn call began log s₀ s := by
  intro hactive
  rw [hactive] at h
  have hstill : s.killSwitchActive = true := top_le_iff.mp h
  simp [hstill, hcall]

theorem keeps_loop : loop.Keeps Turn := by
  intro call began
  by_cases hcall : call = .setKillSwitch false
  · subst hcall
    have hturn (log : Log Ask Answer) (s₀ s : App) (h : ReleaseTurn log s₀ s) :
        Turn (.setKillSwitch false) began log s₀ s := fun hactive => by simp [h hactive]
    have hrun :=
      Flow.Keeps.mono (runs_deactivateKillSwitch began) hturn fun log s₀ s _ => hturn log s₀ s
    exact (keeps_bind _ deactivateKillSwitch.run _ [] began began _).mpr hrun
  · exact keeps_program (T := rises Control.Switches.killSwitchActive) (rises_trans fun _ => le_top)
      (fun _ => rises_trans fun _ => le_rfl) (.inl hcall)
      (fun _ _ _ hle => turn_of_rises hcall began hle) began

/-! ### The history variable -/

/-- A measure that no assignment of a switch decreases grows along a run. -/
theorem rises_step {ν : Control.Switches → ℕ}
    (hactivate : ∀ s : App, ν s.toSwitches ≤ ν s.activate.toSwitches)
    (hrelease : ∀ s : App, ν s.toSwitches ≤ ν s.release.toSwitches)
    (hany : ∀ (active : Bool) (s : App), ν s.toSwitches ≤ ν (s.pause active).toSwitches) {s : App}
    {acts : List (Act Call Runtime Ask Answer)} {w : World Call App Ask Answer}
    {a : Act Call Runtime Ask Answer} (h : Machine.StepOf loop.machine ⟨s, []⟩ acts w a) :
    ν w.state.toSwitches ≤ ν (loop.step w a).state.toSwitches := by
  have hkeeps : loop.Keeps fun _ _ log s₀ s => across (rises ν) log s₀ s := fun call began =>
    keeps_program (rises_trans hactivate) (fun active => rises_trans (hany active))
      (.inr (rises_trans hrelease)) (fun _ _ _ hle => hle) began
  rcases turn_of_step hkeeps (kept_of_run hkeeps h) a with ⟨r, -, hturn⟩ | ⟨-,
    hsame | ⟨e, -, hsame⟩⟩
  · exact hturn
  · rw [hsame]
  · rw [hsame]
    exact le_rfl

/-- **The activations are counted**: their number never falls, and it rises with every step that
makes the switch active. -/
theorem activations_step {s : App} {acts : List (Act Call Runtime Ask Answer)}
    {w : World Call App Ask Answer} {a : Act Call Runtime Ask Answer}
    (h : Machine.StepOf loop.machine ⟨s, []⟩ acts w a) :
    w.state.activations ≤ (loop.step w a).state.activations ∧
      (w.state.killSwitchActive = false → (loop.step w a).state.killSwitchActive = true →
        w.state.activations < (loop.step w a).state.activations) := by
  refine ⟨rises_step (ν := Control.Switches.activations) (fun _ => Nat.le_succ _) (fun _ => le_rfl)
    (fun _ _ => le_rfl) h, fun hbefore hafter => ?_⟩
  -- an inactive switch weighs as much as one activation
  have hle := rises_step (ν := fun x => x.activations + if x.killSwitchActive then 0 else 1)
    (fun s => by cases s.killSwitchActive <;> simp [App.activate])
    (fun s => by cases s.killSwitchActive <;> simp [App.release])
    (fun _ _ => le_rfl) h
  simp only [hbefore, hafter] at hle
  exact Nat.lt_of_succ_le (by simpa using hle)

/-! ### Runs -/

/-- What a release has to have seen: nothing without an exchange, else no open orders, a
reconciliation, and an adapter whose stream and authentication are in order. -/
def Observed (s : App) (log : Log Ask Answer) : Prop :=
  s.executionMode = .paper ∧ s.executionAdapter = none ∨
    ∃ a b, ⟨.openOrders a, .ok (.arr [])⟩ ∈ log ∧ ⟨.reconcile b, .ok "IN_SYNC"⟩ ∈ log ∧
      (s.adapters a).privateStreamHealthy = true ∧ (s.adapters a).authenticated = true

/-- The switch is cleared by nothing but a release that began after the last activation and has seen
what it has to. -/
def Sound (w : World Call App Ask Answer) (a : Act Call Runtime Ask Answer) : Prop :=
  w.state.killSwitchActive = true → (loop.step w a).state.killSwitchActive = false →
    ∃ r, mover w a = some r ∧ r.call = .setKillSwitch false ∧
      r.began.activations = w.state.activations ∧ Observed w.state r.log

/-- A release whose checks come out well while the switch is active was not overtaken by an
activation. -/
def Current (w : World Call App Ask Answer) (a : Act Call Runtime Ask Answer) : Prop :=
  ∀ r, mover w a = some r → r.call = .setKillSwitch false → w.state.killSwitchActive = true →
    verified w.state r.log = true → r.began.activations = w.state.activations

theorem verified_of_sync {s : App} {a : ℕ} (h : s.syncAdapterState.verified a = true) :
    s.verified a = true := by
  unfold App.syncAdapterState at h
  cases hadapter : s.executionAdapter with
  | none => simpa only [hadapter] using h
  | some b =>
    simp only [hadapter] at h
    by_cases hfailed : (s.adapters b).authenticationFailed = true
    · rw [if_pos hfailed] at h
      by_cases hab : a = b
      · subst hab
        simp [App.verified, App.refreshEngineState, App.runtime, Runtime.setAdapter,
          Adapter.invalidated] at h
      · simpa [App.verified, App.refreshEngineState, App.runtime, Runtime.setAdapter, hab] using h
    · rw [if_neg hfailed] at h
      exact h

theorem observed_of_verified {s : App} {log : Log Ask Answer} (h : verified s log = true) :
    Observed s log := by
  have hsome {a : ℕ} (hab : s.verified a = true) : (s.adapters a).privateStreamHealthy = true ∧
      (s.adapters a).authenticated = true := by simpa [App.verified] using hab
  unfold verified at h
  split at h
  · simpa [Observed] using h
  · rename_i a b log
    refine .inr ⟨a, b, by simp, by simp, hsome ?_⟩
    unfold reconciled at h
    split at h
    · simp only [Bool.and_eq_true] at h
      exact verified_of_sync h.2
    · exact h
    · exact h
    · cases h
  · cases h

theorem sound_iff_current {w : World Call App Ask Answer} (h : Kept Turn w)
    (a : Act Call Runtime Ask Answer) : Sound w a ↔ Current w a := by
  constructor
  · intro hsound r hr hcall hactive hverified
    rcases turn_of_step keeps_loop h a with ⟨r', hr', hturn⟩ | ⟨hnone, -⟩
    · rw [hr] at hr'
      cases hr'
      obtain ⟨r', hr', -, hbegan, -⟩ := hsound hactive ((hturn hactive).mpr ⟨hcall, hverified⟩)
      rw [hr] at hr'
      cases hr'
      exact hbegan
    · rw [hr] at hnone
      cases hnone
  · intro hcurrent hactive hcleared
    rcases turn_of_step keeps_loop h a with ⟨r, hr, hturn⟩ | ⟨-, hsame | ⟨e, -, hsame⟩⟩
    · obtain ⟨hcall, hverified⟩ := (hturn hactive).mp hcleared
      exact ⟨r, hr, hcall, hcurrent r hr hcall hactive hverified, observed_of_verified hverified⟩
    · rw [hsame, hactive] at hcleared
      cases hcleared
    · rw [hsame] at hcleared
      exact absurd hactive (by rw [show w.state.killSwitchActive = false from hcleared]; decide)

/-- **When the kill switch is released by no older request.** Along a run, every step that clears
the switch is one of a release that began after the last activation and has seen what it has to, if
and only if no release whose checks come out well was overtaken by an activation. -/
theorem released_iff_current (s : App) (acts : List (Act Call Runtime Ask Answer)) :
    (∀ w a, Machine.StepOf loop.machine ⟨s, []⟩ acts w a → Sound w a) ↔
      ∀ w a, Machine.StepOf loop.machine ⟨s, []⟩ acts w a → Current w a :=
  forall_congr' fun _ => forall_congr' fun a => forall_congr' fun hstep =>
    sound_iff_current (kept_of_run keeps_loop hstep) a

/-! ### A release that is overtaken -/

/-- A LIVE Worker with its adapter. -/
def live : App where
  executionMode := .live
  executionAdapter := some 0
  activeConfiguration := true
  connectionState := .ready
  reconciliationStatus := "IN_SYNC"
  authenticated := true
  privateStreamHealthy := true
  engineState := .armed

/-- An exchange without open orders that is in order. -/
def quietExchange : (q : Ask) → Answer q
  | .openOrders _ => .ok (.arr [])
  | .reconcile _ => .ok "IN_SYNC"
  | .cancelAllOpenOrders _ => .ok { status := "CONFIRMED" }
  | .launchSession _ | .activateAutonomous _ => .ok none
  | .accountSnapshotUsable _ | .positionsOpposed _ | .ensureOrderDurable _ | .reserve _
  | .releaseReservation _ | .markSubmitted _ | .markReconciliationRequired _ | .markReconciled _
  | .ensureLiveRuntime | .continuationReady => .ok true
  | .clearAccountSnapshot _ | .executeDecision _ _ | .emergencyFlatten _ _ | .closeAdapter _
  | .stopPublicMarketStream | .observedGridDepth _ | .markReauthRequired => .ok ()

/-- The switch is set, a release reads the open orders, the switch is set again, and the release
gets the answer of the reconciliation. -/
def overtaken : List (Act Call Runtime Ask Answer) :=
  [.start (.setKillSwitch true), .start (.setKillSwitch false), .resume 1 quietExchange,
    .start (.setKillSwitch true), .resume 1 quietExchange]

/-- **The older release clears the flag of the newer activation.** -/
theorem overtaken_not_sound :
    ¬ ∀ s acts w a, Machine.StepOf loop.machine ⟨s, []⟩ acts w a → Sound w a := by
  intro h
  have hsound := h live overtaken _ _ ⟨overtaken.take 4, [], rfl, rfl⟩
  obtain ⟨r, hr, -, hbegan, -⟩ := hsound (by decide +kernel) (by decide +kernel)
  cases hr
  exact absurd hbegan (by decide +kernel)

end Blessing.Worker.Release
