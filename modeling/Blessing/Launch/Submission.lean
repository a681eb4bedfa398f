import Blessing.Binance.Orders
import Blessing.Launch.Lifecycle

/-! # Order submission and the launch session

The callbacks `TradingWorkerApp` gives to the adapter: `_before_order_submission` reserves an order
of the launch session in front of a submission, `_on_order_submission_result` books its outcome, and
`trigger_reconciliation` lifts the fence of an unclear one. The callbacks know the session by the
identifier in `_mainnet_launch_id` and decide by the row of the table. -/

namespace Blessing.Launch.Submission

open Blessing.Lib Blessing.Lib.Machine
open Blessing.Binance.Models Blessing.Binance.Orders
open Blessing.Launch.Repository Blessing.Launch.Lifecycle

inductive ExecutionMode where
  | paper
  | testnet
  | live
  deriving DecidableEq, Repr

/-- The attributes of `TradingWorkerApp` the callbacks use. -/
structure Worker where
  executionMode : ExecutionMode := .live
  launchId : Option String := none
  launchSession : Option Session := none
  pauseNewRisk : Bool := false
  killSwitchActive : Bool := false
  connectionState : ConnectionState := .ready
  reconciliationStatus : String := "IN_SYNC"
  deriving DecidableEq

/-- `_set_mainnet_launch_session` -/
def Worker.setSession (k : Worker) (session : Option Session) : Worker :=
  { k with
    launchSession := session
    launchId := (session.map Session.launchId).filter (· ≠ "") }

/-- `_launch_session_value("policy", MAINNET_LAUNCH_STAGED)` -/
def Worker.policy (k : Worker) : Policy :=
  (k.launchSession.map Session.policy).getD .stagedFirstOrder

/-- `self._launch_session_value("state") == "AUTONOMOUS_ACTIVE"` -/
def Worker.isAutonomousActive (k : Worker) : Bool :=
  k.launchSession.any fun r => r.state == .autonomousActive

/-- The database and the Worker. -/
structure Runtime where
  world : World
  worker : Worker

/-- The order is blocked. -/
def Runtime.blocked (s : Runtime) : Bool × Runtime :=
  (false, { s with worker := { s.worker with pauseNewRisk := true } })

/-- `_before_order_submission`; `durable` is the answer of `ensure_order_durable`. A policy other
than the two is not in the table. -/
def beforeOrderSubmission (durable : Bool) (order : ExecutionOrder) (s : Runtime) :
    Bool × Runtime :=
  if !order.riskClass.isRiskIncreasing || s.worker.executionMode ≠ .live then
    (durable || !order.riskClass.isRiskIncreasing, s)
  else if !durable then s.blocked
  else
    match s.worker.launchId with
    | none => s.blocked
    | some launchId =>
      if s.worker.policy = .autonomousAfterReview ∧ !s.worker.isAutonomousActive then s.blocked
      else
        match step s.world (.call (.reserve launchId)) with
        | (.bool true, world) => (true, { s with world })
        | (_, world) => Runtime.blocked { s with world }

/-- The order was submitted and is booked. -/
def Runtime.submitted (s : Runtime) (launchId : String) : Runtime :=
  if s.worker.policy = .stagedFirstOrder then
    let worker := { s.worker with pauseNewRisk := true }
    { s with worker := match s.world.sessions.get launchId with
        | some r => worker.setSession (some r)
        | none => worker }
  else { s with worker := { s.worker with pauseNewRisk := false } }

/-- `_on_order_submission_result`. A statement that raises ends the callback. -/
def onOrderSubmissionResult (order : ExecutionOrder) (notice : Notice) (s : Runtime) : Runtime :=
  if s.worker.executionMode ≠ .live || !order.riskClass.isRiskIncreasing then s
  else
    match s.worker.launchId with
    | none => s
    | some launchId =>
      match notice with
      | .rejected => { s with world := (step s.world (.call (.releaseReservation launchId))).2 }
      | .confirmed =>
        match step s.world (.call (.markSubmitted launchId)) with
        | (.bool true, world) => Runtime.submitted { s with world } launchId
        | (.bool false, world) => ⟨world, { s.worker with
            killSwitchActive := true, connectionState := .degraded,
            reconciliationStatus := "UNKNOWN" }⟩
        | (_, world) => { s with world }
      | .ambiguous =>
        match step s.world (.call (.markReconciliationRequired launchId)) with
        | (.bool _, world) => ⟨world, { s.worker with
            pauseNewRisk := true, connectionState := .degraded, reconciliationStatus := "UNKNOWN" }⟩
        | (_, world) => { s with world }

/-- The launch part of `trigger_reconciliation`. -/
def triggerReconciliation (inSync : Bool) (s : Runtime) : Runtime :=
  match inSync, s.worker.launchId with
  | true, some launchId =>
    let world := (step s.world (.call (.markReconciled launchId))).2
    ⟨world, s.worker.setSession (world.sessions.get launchId)⟩
  | _, _ => s

@[simp] theorem submitted_world (s : Runtime) (launchId : String) :
    (s.submitted launchId).world = s.world := by
  unfold Runtime.submitted
  split_ifs <;> rfl

@[simp] theorem submitted_killSwitchActive (s : Runtime) (launchId : String) :
    (s.submitted launchId).worker.killSwitchActive = s.worker.killSwitchActive := by
  unfold Runtime.submitted
  split_ifs
  · cases s.world.sessions.get launchId with
    | none => rfl
    | some r => rfl
  · rfl

/-! ### The statements of the callbacks -/

theorem changes_fields {st : Statement} {r : Session}
    (hst : ∀ launchId id imageDigest, st ≠ .activateAutonomous launchId id imageDigest) :
    (st.changes r).approvalId = r.approvalId ∧ (st.changes r).symbol = r.symbol ∧
      (st.changes r).continuationApprovalId = r.continuationApprovalId := by
  cases st with
  | activateAutonomous launchId id imageDigest => exact absurd rfl (hst launchId id imageDigest)
  | _ => exact ⟨rfl, rfl, rfl⟩

theorem max_of_staged {r : Session} (h : r.Checked) (hpolicy : r.policy = .stagedFirstOrder) :
    r.maxRiskIncreasingOrders = some 1 := by
  rcases h.1 with ⟨-, hmax⟩ | ⟨hother, -⟩
  · exact hmax
  · rw [hpolicy] at hother
    cases hother

/-- The `WHERE` clauses of the other statements keep the checks of a row. -/
theorem checked_changes {st : Statement} {r : Session} (h : r.Checked) (hs : st.selects r = true)
    (hst : ∀ launchId id imageDigest, st ≠ .activateAutonomous launchId id imageDigest) :
    (st.changes r).Checked := by
  obtain ⟨hlimit, ⟨hreserved, hreservedMax⟩, hsubmitted, hsubmittedMax⟩ := h
  cases st with
  | reserve launchId =>
    refine ⟨hlimit, ⟨?_, fun n hn => ?_⟩, hsubmitted, hsubmittedMax⟩
    · change 0 ≤ r.reservedOrders + 1
      omega
    · change r.reservedOrders + 1 ≤ n
      change n ∈ r.maxRiskIncreasingOrders at hn
      simp only [Statement.selects, Bool.and_eq_true, Bool.or_eq_true, decide_eq_true_eq] at hs
      rcases hs.2 with ⟨-, hany⟩ | ⟨hpolicy, -⟩
      · rw [Option.mem_def.mp hn] at hany
        have : r.reservedOrders < n := by simpa using hany
        omega
      · rcases hlimit with ⟨hstaged, -⟩ | ⟨-, hmax⟩
        · rw [hpolicy] at hstaged
          cases hstaged
        · rw [hmax] at hn
          cases hn
  | releaseReservation launchId =>
    simp only [Statement.selects, Bool.and_eq_true, decide_eq_true_eq] at hs
    refine ⟨hlimit, ⟨?_, fun n hn => ?_⟩, hsubmitted, hsubmittedMax⟩
    · change 0 ≤ r.reservedOrders - 1
      omega
    · change r.reservedOrders - 1 ≤ n
      have := hreservedMax n hn
      omega
  | markSubmitted launchId =>
    simp only [Statement.selects, Bool.and_eq_true, decide_eq_true_eq] at hs
    refine ⟨hlimit, ⟨hreserved, hreservedMax⟩, ?_, fun n hn => ?_⟩
    · change 0 ≤ r.submittedOrders + 1
      omega
    · change r.submittedOrders + 1 ≤ n
      change n ∈ r.maxRiskIncreasingOrders at hn
      have hall := hs.2
      rw [Option.mem_def.mp hn] at hall
      have : r.submittedOrders < n := by simpa using hall
      omega
  | activateAutonomous launchId id imageDigest => exact absurd rfl (hst launchId id imageDigest)
  | _ => exact ⟨hlimit, ⟨hreserved, hreservedMax⟩, hsubmitted, hsubmittedMax⟩

/-- The sessions that are not closed after a statement were not closed before. -/
theorem open_sublist (st : Statement) (rows : List Session)
    (hst : ∀ launchId id imageDigest, st ≠ .activateAutonomous launchId id imageDigest) :
    List.Sublist (((Table.update st.selects st.changes rows).filter fun r => r.state ≠ .closed).map
      Session.symbol) ((rows.filter fun r => r.state ≠ .closed).map Session.symbol) := by
  induction rows with
  | nil => exact .slnil
  | cons r rows ih =>
    have hsymbol : (if st.selects r then st.changes r else r).symbol = r.symbol := by
      split_ifs
      · exact (changes_fields hst).2.1
      · rfl
    by_cases hclosed : r.state = .closed
    · simpa [Table.update, selects_closed hclosed, hclosed] using ih
    · by_cases hafter : (if st.selects r then st.changes r else r).state = .closed
      · simp only [Table.update, List.map_cons] at ih ⊢
        rw [List.filter_cons_of_neg (by simpa using hafter),
          List.filter_cons_of_pos (by simpa using hclosed)]
        exact ih.cons _
      · simp only [Table.update, List.map_cons] at ih ⊢
        rw [List.filter_cons_of_pos (by simpa using hafter),
          List.filter_cons_of_pos (by simpa using hclosed),
          List.map_cons, List.map_cons, hsymbol]
        exact ih.cons_cons _

/-- A statement other than an activation violates no constraint. -/
theorem exec_isSome (t : Sessions) {st : Statement}
    (hst : ∀ launchId id imageDigest, st ≠ .activateAutonomous launchId id imageDigest) :
    (t.exec st).isSome := by
  have hmap : ∀ {B : Type} (f : Session → B), (∀ r, f (st.changes r) = f r) →
      (Table.update st.selects st.changes t.rows).map f = t.rows.map f := by
    intro B f hf
    rw [Table.update, List.map_map]
    refine List.map_congr_left fun r _ => ?_
    simp only [Function.comp]
    split_ifs
    · exact hf r
    · rfl
  have hvalid : Valid (Table.update st.selects st.changes t.rows) := by
    refine ⟨?_, ?_, ?_, ?_, ?_⟩
    · rw [hmap _ (changes_launchId st)]
      exact t.valid.launch
    · rw [hmap _ fun r => (changes_fields hst).1]
      exact t.valid.approval
    · exact (open_sublist st t.rows hst).nodup t.valid.oneActive
    · have hsame := congrArg (List.filterMap id)
        (hmap Session.continuationApprovalId fun r => (changes_fields hst).2.2)
      rw [List.filterMap_map, List.filterMap_map, Function.id_comp] at hsame
      rw [hsame]
      exact t.valid.continuation
    · intro r' hr'
      obtain ⟨r, hr, rfl⟩ := List.mem_map.mp hr'
      split_ifs with hs
      · exact checked_changes (t.valid.checked r hr) hs hst
      · exact t.valid.checked r hr
  unfold Sessions.exec
  simp only [dif_pos hvalid, Option.isSome_some]

/-- The launch of a statement of the callbacks. -/
def target : Statement → Option String
  | .reserve launchId | .releaseReservation launchId | .markSubmitted launchId
  | .markReconciliationRequired launchId | .markReconciled launchId => some launchId
  | _ => none

theorem selects_target {st : Statement} {launchId : String} (h : target st = some launchId)
    {r : Session} (hr : r.launchId ≠ launchId) : st.selects r = false := by
  cases st <;> simp only [target, Option.some.injEq, reduceCtorEq] at h <;> subst h <;>
    simp [Statement.selects, hr]

/-- A statement on one launch: what the call answers and what the table has after it. -/
theorem call_target {w : World} (st : Statement) {launchId : String} (h : target st = some launchId)
    {r : Session} (hget : w.sessions.get launchId = some r) :
    (step w (.call st)).1 = .bool (st.selects r) ∧
      (step w (.call st)).2.sessions.get launchId =
        some (if st.selects r then st.changes r else r) := by
  have hst : ∀ launchId id imageDigest, st ≠ .activateAutonomous launchId id imageDigest := by
    rintro launchId' id imageDigest rfl
    cases h
  have hrefused : st.refused = none := by
    cases st with
    | activateAutonomous launchId' id imageDigest => cases h
    | _ => rfl
  have hanswer : ∀ n t, st.answer n t = .bool (0 < n) := by
    intro n t
    cases st <;> first | rfl | cases h
  obtain ⟨⟨n, t⟩, hexec⟩ := Option.isSome_iff_exists.mp (exec_isSome w.sessions hst)
  have hstep : step w (.call st) = (st.answer n t, { w with sessions := t }) := by
    simp only [step, hrefused, hexec]
  have hcount : 0 < n ↔ st.selects r = true := by
    rw [exec_count hexec, List.countP_pos_iff]
    constructor
    · rintro ⟨r', hr', hselects⟩
      by_cases hid : r'.launchId = launchId
      · have hsame := get_of_mem hr'
        rw [hid, hget] at hsame
        rw [Option.some.inj hsame]
        exact hselects
      · rw [selects_target h hid] at hselects
        cases hselects
    · exact fun hselects => ⟨r, mem_of_get hget, hselects⟩
  rw [hstep]
  refine ⟨?_, by rw [get_exec hexec, hget, Option.map_some]⟩
  rw [hanswer]
  by_cases hselects : st.selects r = true
  · simp [hselects, hcount.mpr hselects]
  · simp [hselects, mt hcount.mp hselects]

theorem call_target_none {w : World} (st : Statement) {launchId : String}
    (h : target st = some launchId) (hget : w.sessions.get launchId = none) :
    (step w (.call st)).1 = .bool false := by
  have hnone : ∀ r ∈ w.sessions.rows, st.selects r = false := by
    intro r hr
    refine selects_target h fun hid => ?_
    rw [← hid, get_of_mem hr] at hget
    cases hget
  cases st <;> first
    | cases h; simp [step, Statement.refused, exec_none hnone, Statement.answer]
    | cases h

/-! ### Which statements the callbacks run -/

theorem before_ok {durable : Bool} {order : ExecutionOrder} {s : Runtime}
    (hlive : s.worker.executionMode = .live) (hrisk : order.riskClass.isRiskIncreasing = true)
    (hok : (beforeOrderSubmission durable order s).1 = true) :
    ∃ launchId r, s.worker.launchId = some launchId ∧ s.world.sessions.get launchId = some r ∧
      (Statement.reserve launchId).selects r = true ∧
      (beforeOrderSubmission durable order s).2 =
        { s with world := (step s.world (.call (.reserve launchId))).2 } := by
  unfold beforeOrderSubmission at hok ⊢
  have hgate : (!order.riskClass.isRiskIncreasing || decide (s.worker.executionMode ≠ .live)) =
      false := by
    simp [hrisk, hlive]
  cases hlaunch : s.worker.launchId with
  | none =>
    simp only [hgate, hlaunch, Bool.false_eq_true, if_false] at hok
    split_ifs at hok <;> cases hok
  | some launchId =>
    simp only [hgate, hlaunch, Bool.false_eq_true, if_false] at hok ⊢
    split_ifs at hok ⊢ with hdurable hpolicy
    · cases hok
    · cases hok
    · cases hget : s.world.sessions.get launchId with
      | none =>
        have hanswer := call_target_none (.reserve launchId) rfl hget
        generalize step s.world (.call (.reserve launchId)) = result at hok hanswer
        obtain ⟨outcome, world⟩ := result
        simp only at hanswer
        subst hanswer
        cases hok
      | some r =>
        have hanswer := (call_target (.reserve launchId) rfl hget).1
        generalize hstep : step s.world (.call (.reserve launchId)) = result at hok hanswer ⊢
        obtain ⟨outcome, world⟩ := result
        simp only at hanswer
        cases hselects : (Statement.reserve launchId).selects r with
        | false =>
          rw [hselects] at hanswer
          subst hanswer
          cases hok
        | true =>
          rw [hselects] at hanswer
          subst hanswer
          exact ⟨launchId, r, rfl, hget, hselects, by rw [hstep]⟩

/-- The table after `_before_order_submission`: as it was, or after a reservation. -/
theorem before_world (durable : Bool) (order : ExecutionOrder) (s : Runtime) :
    (beforeOrderSubmission durable order s).2.world = s.world ∨
      ∃ launchId, (beforeOrderSubmission durable order s).2.world =
        (step s.world (.call (.reserve launchId))).2 := by
  unfold beforeOrderSubmission
  cases s.worker.launchId with
  | none =>
    left
    split_ifs <;> rfl
  | some launchId =>
    simp only
    split_ifs
    · exact .inl rfl
    · exact .inl rfl
    · exact .inl rfl
    · refine .inr ⟨launchId, ?_⟩
      generalize step s.world (.call (.reserve launchId)) = result
      split <;> rfl

/-- The statement of a report. -/
def Notice.statement (launchId : String) : Notice → Statement
  | .confirmed => .markSubmitted launchId
  | .ambiguous => .markReconciliationRequired launchId
  | .rejected => .releaseReservation launchId

/-- The table after `_on_order_submission_result`: as it was, or after the statement of the
report. -/
theorem result_world (order : ExecutionOrder) (notice : Notice) (s : Runtime) :
    (onOrderSubmissionResult order notice s).world = s.world ∨
      ∃ launchId, (onOrderSubmissionResult order notice s).world =
        (step s.world (.call (Notice.statement launchId notice))).2 := by
  unfold onOrderSubmissionResult
  split_ifs
  · exact .inl rfl
  · cases s.worker.launchId with
    | none => exact .inl rfl
    | some launchId =>
      refine .inr ⟨launchId, ?_⟩
      cases notice with
      | rejected => rfl
      | confirmed =>
        simp only [Notice.statement]
        generalize step s.world (.call (.markSubmitted launchId)) = result
        split
        · exact submitted_world _ launchId
        · rfl
        · rfl
      | ambiguous =>
        simp only [Notice.statement]
        generalize step s.world (.call (.markReconciliationRequired launchId)) = result
        split <;> rfl

theorem allInv_before {durable : Bool} {order : ExecutionOrder} {s : Runtime} (h : AllInv s.world) :
    AllInv (beforeOrderSubmission durable order s).2.world := by
  rcases before_world durable order s with hsame | ⟨launchId, hstep⟩
  · rwa [hsame]
  · rw [hstep]
    exact allInv_step _ _ h

theorem allInv_result {order : ExecutionOrder} {notice : Notice} {s : Runtime}
    (h : AllInv s.world) : AllInv (onOrderSubmissionResult order notice s).world := by
  rcases result_world order notice s with hsame | ⟨launchId, hstep⟩
  · rwa [hsame]
  · rw [hstep]
    exact allInv_step _ _ h

end Blessing.Launch.Submission
