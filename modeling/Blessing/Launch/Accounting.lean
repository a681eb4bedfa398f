import Blessing.Launch.Submission

/-! # The account of a resolved ambiguity

An order whose submission was unclear is reported twice: as ambiguous, and as confirmed once it was
read back. The first report fences the session, and the statement of the second one only books
orders of sessions that are not fenced. So the order is booked only if the session was activated
again in between; otherwise the confirmation itself sets the kill switch. -/

namespace Blessing.Launch.Accounting

open Blessing.Lib Blessing.Lib.Machine
open Blessing.Binance.Models Blessing.Binance.Orders
open Blessing.Launch.Repository Blessing.Launch.Lifecycle Blessing.Launch.Submission

/-- The submission of an order that was unclear and then resolved: the operations before it, the
Worker and its order, and the operations of others in front of each of the two reports. -/
structure Episode where
  history : List Event
  worker : Worker
  launchId : String
  order : ExecutionOrder
  before : List Event
  between : List Event

namespace Episode

variable (e : Episode)

/-- Run operations of others. -/
def others (s : Runtime) (events : List Event) : Runtime :=
  { s with world := (run step s.world events).2 }

/-- The reservation. -/
def reservation : Bool × Runtime :=
  beforeOrderSubmission true e.order ⟨(run step start e.history).2, e.worker⟩

/-- In front of the report that the order is ambiguous. -/
def unclear : Runtime := others e.reservation.2 e.before

/-- Behind it. -/
def fenced : Runtime := onOrderSubmissionResult e.order .ambiguous e.unclear

/-- In front of the report that the order is confirmed. -/
def resolved : Runtime := others e.fenced e.between

/-- Behind it. -/
def booked : Runtime := onOrderSubmissionResult e.order .confirmed e.resolved

/-- A risk-increasing order of a LIVE Worker that got a reservation of its launch. -/
structure Reserved : Prop where
  live : e.worker.executionMode = .live
  launch : e.worker.launchId = some e.launchId
  risk : e.order.riskClass.isRiskIncreasing = true
  reserved : e.reservation.1 = true

/-- The two reports count the order once, do not set the kill switch, and leave no fence that the
next reconciliation does not lift. -/
structure Accounted : Prop where
  counted : ∃ r₁ r₂ r₃ r₄, e.unclear.world.sessions.get e.launchId = some r₁ ∧
    e.fenced.world.sessions.get e.launchId = some r₂ ∧
    e.resolved.world.sessions.get e.launchId = some r₃ ∧
    e.booked.world.sessions.get e.launchId = some r₄ ∧
    (r₂.submittedOrders - r₁.submittedOrders) + (r₄.submittedOrders - r₃.submittedOrders) = 1 ∧
    r₄.submittedOrders ≤ r₄.reservedOrders
  quiet : e.booked.worker.killSwitchActive = e.worker.killSwitchActive
  lifted : ∀ r, e.booked.world.sessions.get e.launchId = some r →
    r.state = .reconciliationRequired →
    ∃ r', (triggerReconciliation true e.booked).world.sessions.get e.launchId = some r' ∧
      r'.state ≠ .reconciliationRequired

/-- The session is active again, with a reservation to book, when the order is confirmed. -/
def Reactivated : Prop :=
  ∃ r, e.resolved.world.sessions.get e.launchId = some r ∧ r.state = .autonomousActive ∧
    r.submittedOrders < r.reservedOrders

end Episode

variable {e : Episode}

/-! ### The reservation -/

theorem reservation_ok (h : e.Reserved) :
    e.reservation.2.worker = e.worker ∧
      ∃ r, e.reservation.2.world.sessions.get e.launchId = some r := by
  obtain ⟨launchId, r, hlaunch, hr, -, hafter⟩ := before_ok h.live h.risk h.reserved
  have hid : launchId = e.launchId := Option.some.inj (hlaunch.symm.trans h.launch)
  subst hid
  unfold Episode.reservation
  rw [hafter]
  exact ⟨rfl, _, (call_target (.reserve e.launchId) rfl hr).2⟩

/-! ### The two reports -/

theorem ambiguous_eq (s : Runtime) {launchId : String} {r : Session} (order : ExecutionOrder)
    (hlive : s.worker.executionMode = .live) (hlaunch : s.worker.launchId = some launchId)
    (hrisk : order.riskClass.isRiskIncreasing = true)
    (hget : s.world.sessions.get launchId = some r) :
    ∃ r', (onOrderSubmissionResult order .ambiguous s).world.sessions.get launchId = some r' ∧
      Barred r' ∧ r'.submittedOrders = r.submittedOrders ∧
      (onOrderSubmissionResult order .ambiguous s).worker =
        { s.worker with
          pauseNewRisk := true, connectionState := .degraded,
          reconciliationStatus := "UNKNOWN" } := by
  obtain ⟨hanswer, hafter⟩ := call_target (.markReconciliationRequired launchId) rfl hget
  generalize hstep : step s.world (.call (.markReconciliationRequired launchId)) = result
    at hanswer hafter
  obtain ⟨outcome, world⟩ := result
  simp only at hanswer hafter
  subst hanswer
  have heq : onOrderSubmissionResult order .ambiguous s = ⟨world, { s.worker with
      pauseNewRisk := true, connectionState := .degraded, reconciliationStatus := "UNKNOWN" }⟩ := by
    simp [onOrderSubmissionResult, hlive, hrisk, hlaunch, hstep]
  rw [heq]
  refine ⟨_, hafter, ?_, ?_, rfl⟩
  · split_ifs with hselects
    · exact ⟨(fun h => by cases h), (fun h => by cases h)⟩
    · constructor <;> intro hstate <;> refine hselects ?_
      · simp [Statement.selects, launchId_of_get hget, hstate]
      · simp [Statement.selects, launchId_of_get hget, hstate]
  · split_ifs <;> rfl

theorem confirmed_eq (s : Runtime) {launchId : String} {r : Session} (order : ExecutionOrder)
    (hlive : s.worker.executionMode = .live) (hlaunch : s.worker.launchId = some launchId)
    (hrisk : order.riskClass.isRiskIncreasing = true)
    (hget : s.world.sessions.get launchId = some r) :
    (onOrderSubmissionResult order .confirmed s).world.sessions.get launchId =
        some (if (Statement.markSubmitted launchId).selects r then
          (Statement.markSubmitted launchId).changes r else r) ∧
      (onOrderSubmissionResult order .confirmed s).worker.killSwitchActive =
        if (Statement.markSubmitted launchId).selects r then s.worker.killSwitchActive
        else true := by
  obtain ⟨hanswer, hafter⟩ := call_target (.markSubmitted launchId) rfl hget
  generalize hstep : step s.world (.call (.markSubmitted launchId)) = result at hanswer hafter
  obtain ⟨outcome, world⟩ := result
  simp only at hanswer hafter
  subst hanswer
  cases hselects : (Statement.markSubmitted launchId).selects r with
  | true =>
    rw [hselects, if_pos rfl] at hafter
    rw [hselects] at hstep
    have heq : onOrderSubmissionResult order .confirmed s =
        Runtime.submitted ⟨world, s.worker⟩ launchId := by
      simp [onOrderSubmissionResult, hlive, hrisk, hlaunch, hstep]
    rw [heq, submitted_world, submitted_killSwitchActive]
    exact ⟨hafter, rfl⟩
  | false =>
    rw [hselects] at hafter hstep
    have heq : onOrderSubmissionResult order .confirmed s = ⟨world, { s.worker with
        killSwitchActive := true, connectionState := .degraded,
        reconciliationStatus := "UNKNOWN" }⟩ := by
      simp [onOrderSubmissionResult, hlive, hrisk, hlaunch, hstep]
    rw [heq]
    exact ⟨hafter, by simp⟩

/-! ### Episodes -/

theorem episode_sessions (h : e.Reserved) : ∃ r₁ r₂ r₃,
    e.unclear.world.sessions.get e.launchId = some r₁ ∧
    e.fenced.world.sessions.get e.launchId = some r₂ ∧ Barred r₂ ∧
    r₂.submittedOrders = r₁.submittedOrders ∧
    e.resolved.world.sessions.get e.launchId = some r₃ ∧ r₃.state ≠ .active ∧
    e.resolved.worker = { e.worker with
      pauseNewRisk := true, connectionState := .degraded, reconciliationStatus := "UNKNOWN" } := by
  obtain ⟨hworker, r₀, hr₀⟩ := reservation_ok h
  obtain ⟨r₁, hr₁, -, -⟩ := session_run e.before hr₀
  have hunclear : e.unclear.worker = e.worker := hworker
  obtain ⟨r₂, hr₂, hbarred, hsubmitted, hfenced⟩ := ambiguous_eq e.unclear e.order
    (hunclear ▸ h.live) (hunclear ▸ h.launch) h.risk hr₁
  obtain ⟨r₃, hr₃, hactive, -⟩ := session_run e.between hr₂
  refine ⟨r₁, r₂, r₃, hr₁, hr₂, hbarred, hsubmitted, hr₃, hactive hbarred.1, ?_⟩
  change e.fenced.worker = _
  rw [← hunclear]
  exact hfenced

/-- The statement of the confirmation books the order exactly if the session is active again. -/
theorem selects_iff_reactivated {r : Session}
    (hr : e.resolved.world.sessions.get e.launchId = some r) (hactive : r.state ≠ .active)
    (hinv : Inv r) :
    (Statement.markSubmitted e.launchId).selects r = true ↔ e.Reactivated := by
  have hchecked := e.resolved.world.sessions.valid.checked r (mem_of_get hr)
  constructor
  · intro hselects
    simp only [Statement.selects, Bool.and_eq_true, List.contains_cons, List.contains_nil,
      Bool.or_false, Bool.or_eq_true, beq_iff_eq, decide_eq_true_eq] at hselects
    obtain ⟨⟨⟨-, hstate⟩, hlt⟩, -⟩ := hselects
    rcases hstate with hstate | hstate
    · exact absurd hstate hactive
    · exact ⟨r, hr, hstate, hlt⟩
  · rintro ⟨r', hr', hstate, hlt⟩
    rw [hr] at hr'
    cases hr'
    have hmax : r.maxRiskIncreasingOrders = none := by
      rcases hchecked.1 with ⟨hpolicy, -⟩ | ⟨-, hmax⟩
      · rw [hinv.autonomous hstate] at hpolicy
        cases hpolicy
      · exact hmax
    simp [Statement.selects, launchId_of_get hr, hstate, hlt, hmax]

theorem allInv_others {s : Runtime} (events : List Event) (h : AllInv s.world) :
    AllInv (Episode.others s events).world :=
  run_inv (fun w event h _ => allInv_step w event h) h (admitted_true s.world events)

theorem allInv_fenced (e : Episode) : AllInv e.fenced.world :=
  allInv_result (allInv_others e.before (allInv_before (allInv_run e.history)))

/-- **A resolved ambiguity**: the two reports account for the order exactly if the session is active
again, with a reservation to book, when the order is confirmed; and that takes a successful
activation between the two reports. -/
theorem accounted_iff_reactivated (h : e.Reserved) :
    (e.Accounted ↔ e.Reactivated) ∧
      (e.Reactivated → ∃ before event, StepOf step e.fenced.world e.between before event ∧
        Activates e.launchId before event) := by
  obtain ⟨r₁, r₂, r₃, hr₁, hr₂, hbarred, hsame, hr₃, hactive, hworker⟩ := episode_sessions h
  have hinv₃ : Inv r₃ := allInv_others e.between (allInv_fenced e) e.launchId r₃ hr₃
  have hselects := selects_iff_reactivated hr₃ hactive hinv₃
  obtain ⟨hr₄, hkill⟩ := confirmed_eq e.resolved e.order (by rw [hworker]; exact h.live)
    (by rw [hworker]; exact h.launch) h.risk hr₃
  refine ⟨⟨fun haccounted => ?_, fun hreactivated => ?_⟩, fun hreactivated => ?_⟩
  · -- an order that is not booked is not counted
    by_contra hnot
    obtain ⟨s₁, s₂, s₃, s₄, hs₁, hs₂, hs₃, hs₄, hcount, -⟩ := haccounted.counted
    rw [if_neg (mt hselects.mp hnot)] at hr₄
    rw [hr₁] at hs₁
    rw [hr₂] at hs₂
    rw [hr₃] at hs₃
    rw [Episode.booked, hr₄] at hs₄
    cases hs₁
    cases hs₂
    cases hs₃
    cases hs₄
    omega
  · have hbooks := hselects.mpr hreactivated
    rw [if_pos hbooks] at hr₄ hkill
    obtain ⟨r, hr, hstate, hlt⟩ := hreactivated
    rw [hr₃] at hr
    cases hr
    have hpolicy : r₃.policy ≠ .stagedFirstOrder := by
      rw [hinv₃.autonomous hstate]
      exact fun hp => by cases hp
    refine ⟨⟨r₁, r₂, r₃, _, hr₁, hr₂, hr₃, hr₄, ?_, ?_⟩, ?_, fun r hr hfence => ?_⟩
    · change r₂.submittedOrders - r₁.submittedOrders +
        (r₃.submittedOrders + 1 - r₃.submittedOrders) = 1
      omega
    · change r₃.submittedOrders + 1 ≤ r₃.reservedOrders
      omega
    · rw [Episode.booked, hkill, hworker]
    · rw [Episode.booked, hr₄] at hr
      cases hr
      rw [Statement.changes, if_neg hpolicy] at hfence
      cases hfence
  · by_contra hno
    push Not at hno
    obtain ⟨r, hr, hbarred'⟩ := barred_run (allInv_fenced e) e.between hr₂ hbarred hno
    obtain ⟨r', hr', hstate, -⟩ := hreactivated
    have hrun : e.resolved.world.sessions.get e.launchId = some r := hr
    rw [hrun] at hr'
    cases hr'
    exact hbarred'.2 hstate

/-- An order of the launch. -/
def sampleOrder : ExecutionOrder where
  symbol := "ETHUSDC"
  side := .buy
  quantity := ⟨false, 1, -2⟩
  price := ⟨false, 3000, 0⟩
  clientOrderId := ⟨"BAI-000000000000-0-1", by decide⟩
  status := "PENDING"
  riskClass := .newRisk

/-- The Worker of the launch. -/
def sampleWorker : Worker where
  launchId := some "L1"

/-- An autonomous launch that is reconciled and activated again while the order is resolved. -/
def reactivation : Episode where
  history := launched ++ [.call (.activateAutonomous "L1" "C1" sampleDigest)]
  worker := sampleWorker
  launchId := "L1"
  order := sampleOrder
  before := []
  between := [.call (.markReconciled "L1"), .call (.activateAutonomous "L1" "C2" sampleDigest)]

theorem accounted_iff_reactivated_reactivation : reactivation.Reserved ∧
    (reactivation.Accounted ↔ reactivation.Reactivated) ∧ reactivation.Reactivated := by
  have hreserved : reactivation.Reserved := ⟨rfl, rfl, rfl, by decide +kernel⟩
  have hget : (reactivation.resolved.world.sessions.get "L1").any
      (fun r => r.state = .autonomousActive && r.submittedOrders < r.reservedOrders) = true := by
    decide +kernel
  refine ⟨hreserved, (accounted_iff_reactivated hreserved).1, ?_⟩
  obtain ⟨r, hr, hboth⟩ := (Option.any_eq_true _ _).mp hget
  simp only [Bool.and_eq_true, decide_eq_true_eq] at hboth
  exact ⟨r, hr, hboth⟩

/-- The first order of a staged launch whose response is lost and which is then read back. -/
def firstOrder : Episode where
  history := launched.take 5
  worker := sampleWorker
  launchId := "L1"
  order := sampleOrder
  before := []
  between := []

/-- The kill switch is set, the order is not counted, and the session stays fenced. -/
theorem firstOrder_not_accounted : firstOrder.Reserved ∧ ¬ firstOrder.Accounted ∧
    firstOrder.booked.worker.killSwitchActive = true ∧
    (((triggerReconciliation true firstOrder.booked).world.sessions.get "L1").map fun r =>
      (r.submittedOrders, r.state)) = some (0, .reconciliationRequired) := by
  have hkill : firstOrder.booked.worker.killSwitchActive = true := by decide +kernel
  refine ⟨⟨rfl, rfl, rfl, by decide +kernel⟩, fun h => ?_, hkill, by decide +kernel⟩
  have hquiet := h.quiet
  rw [hkill] at hquiet
  cases hquiet

end Blessing.Launch.Accounting
