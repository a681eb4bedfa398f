import Blessing.Binance.Adapter

/-! # The kill switch

Any number of calls of `execute_decision`, `modify_order` and `cancel_order` run on one adapter, and
the kill switch of the Worker is activated at any point. A call holds the mutation lock while it
sends, and tests the kill switch after it has taken the lock and again in front of every order of a
decision; so one request at most is sent after the activation. -/

namespace Blessing.Binance.KillSwitch

open Blessing.Lib Blessing.Lib.Values Blessing.Lib.Coroutine
open Blessing.Binance.Models Blessing.Binance.Ledger Blessing.Binance.Recovery
open Blessing.Binance.Orders Blessing.Binance.Adapter

/-! ### Methods that send nothing -/

/-- A question other than a notification. -/
def IsSilent : Ask → Prop
  | .notify .. => False
  | _ => True

/-- A method that sends nothing and notifies of nothing. -/
abbrev Silent {A : Type} (x : Prog A) : Prop := Only IsSilent x

theorem silent_settle (ready : Bool) : Silent (settle ready) := .ask trivial

theorem silent_reconcile : Silent reconcile := .bind (.ask trivial) fun _ => .raising _

theorem silent_recoverFills (order : ExecutionOrder) (response : Json) :
    Silent (recoverFills order response) := .bind (.ask trivial) fun _ => .raising _

theorem silent_get (r : RestClient.Request) : Silent (Adapter.get r) :=
  .bind (.ask trivial) fun _ => .raising _

theorem silent_marketDataFailed (e : Exn) : Silent (marketDataFailed e) := by
  unfold marketDataFailed
  split
  · exact .bind (.ask trivial) fun _ => .ask trivial
  · exact .bind (.ask trivial) fun _ => .ask trivial

theorem silent_getBestBidAsk (symbol : String) : Silent (getBestBidAsk symbol) := by
  unfold getBestBidAsk
  refine .bind (.attempt (.bind (silent_get _) fun payload => .bind (.raising _) fun quote => ?_))
    fun result => ?_
  · split
    · exact .pure _
    · split
      · exact .pure _
      · exact .bind (.ask trivial) fun recorded => .ite (.pure _) (.pure _)
  · split
    · exact .pure _
    · exact .bind (silent_marketDataFailed _) fun _ => .pure _

theorem silent_getFreshMarketPrice (symbol : String) (side : Option OrderSide) :
    Silent (getFreshMarketPrice symbol side) := by
  unfold getFreshMarketPrice
  refine .bind (.ask trivial) fun cached => ?_
  split
  · exact .pure _
  refine .bind (.attempt ?_) fun result => ?_
  · split
    · exact .bind (silent_getBestBidAsk _) fun _ => .pure _
    · refine .bind (silent_get _) fun payload => .bind (.raising _) fun price => ?_
      split
      · exact .pure _
      · exact .bind (.ask trivial) fun recorded => .ite (.pure _) (.pure _)
  · split
    · exact .pure _
    · exact .bind (silent_marketDataFailed _) fun _ => .pure _

theorem silent_prepareOrder (q : GateQuery) : Silent (prepareOrder q) := by
  unfold prepareOrder
  refine .bind (.ask trivial) fun answer => .bind (.raising _) fun plan => ?_
  split
  · exact .pure _
  · exact .pure _
  · refine .bind (silent_getFreshMarketPrice _ _) fun price => ?_
    split
    · exact .pure _
    · exact .bind (.ask trivial) fun _ => .raising _
  · exact .bind (silent_getFreshMarketPrice _ _) fun _ => .bind (.ask trivial) fun _ => .raising _

theorem silent_checkOrder (q : GateQuery) : Silent (checkOrder q) := by
  have hauthenticated : Silent (do
      if !(← authenticated) then return none
      prepareOrder q : Prog (Option PreparedOrder)) :=
    .bind (.ask trivial) fun _ => .ite (.pure _) (silent_prepareOrder q)
  unfold checkOrder
  exact .ite (.bind (.ask trivial) fun s => .ite (.pure _) hauthenticated) hauthenticated

theorem silent_verified (sync : Status) : Silent (verified sync) := by
  unfold verified
  refine .ite (.pure _) (.bind (.ask trivial) fun healthy => .ite (.pure _) (.ask trivial))

theorem silent_reconcileOrUnknown : Silent reconcileOrUnknown := by
  unfold reconcileOrUnknown
  refine .bind (.attempt silent_reconcile) fun result => ?_
  split
  · exact .pure _
  · exact .pure _

theorem silent_postMutationReconcile (order : ExecutionOrder) (response : Json) :
    Silent (postMutationReconcile order response) := by
  unfold postMutationReconcile
  refine .bind (.ask trivial) fun _ => .bind (.attempt ?_) fun result => ?_
  · exact .ite (.bind (silent_recoverFills _ _) fun _ => silent_reconcile) silent_reconcile
  · split
    · exact .bind (silent_verified _) fun ready => .bind (silent_settle _) fun _ => .pure _
    · exact .bind (.ask trivial) fun _ => .pure _
    · exact .bind (.ask trivial) fun _ => .bind (.ask trivial) fun _ => .pure _

theorem silent_recoverPolled (order : ExecutionOrder) (response : Json) :
    Silent (recoverPolled order response) := by
  unfold recoverPolled
  refine .ite (.bind (.attempt (silent_recoverFills _ _)) fun result => ?_) (.pure _)
  split
  · exact .pure _
  · exact .bind (.ask trivial) fun _ => .pure _
  · exact .bind (.ask trivial) fun _ => .pure _

variable (c : Config)

theorem silent_pollOnce (s : Submission) {again : Prog (Option Poll)} (hagain : Silent again) :
    Silent (pollOnce c s again) := by
  unfold pollOnce
  refine .bind (.attempt (.bind (silent_get _) fun response => .bind (.raising _) fun order =>
    .bind (.ask trivial) fun _ => .pure _)) fun result => ?_
  split
  · exact silent_recoverPolled _ _
  · exact .bind (.ask trivial) fun _ => .pure _
  · exact .ite hagain (.pure _)
  · exact .pure _

theorem silent_pollOrder (s : Submission) (attempts : ℕ) : Silent (pollOrder c s attempts) := by
  induction attempts with
  | zero => exact silent_pollOnce c s (.pure _)
  | succ attempts ih => exact silent_pollOnce c s (.bind (.ask trivial) fun _ => ih)

theorem silent_resolveAmbiguousOrder (s : Submission) : Silent (resolveAmbiguousOrder c s) := by
  unfold resolveAmbiguousOrder
  refine .bind (.ask trivial) fun _ => .bind (silent_pollOrder c s 2) fun poll => ?_
  split
  · exact .pure _
  · exact .bind silent_reconcileOrUnknown fun sync => .bind (silent_verified _) fun ready =>
      .bind (silent_settle _) fun _ => .bind (.ask trivial) fun _ => .ite (.pure _) (.pure _)

theorem silent_assertExecutionLease (risk : EconomicRiskClass) :
    Silent (assertExecutionLease risk) := by
  unfold assertExecutionLease
  exact .ite (.bind (.ask trivial) fun _ => .raising _) (.pure _)

theorem silent_beforeRequest (s : Submission) : Silent (beforeRequest c s) := by
  have hrest : Silent (do
      upsertOrder (planned s)
      assertExecutionLease s.decision.riskClass
      return true : Prog Bool) :=
    .bind (.ask trivial) fun _ => .bind (silent_assertExecutionLease _) fun _ => .pure _
  unfold beforeRequest
  refine .bind (.ask trivial) fun installed =>
    .ite ?_ (.ite (.bind (.throw _) fun _ => hrest) hrest)
  refine .bind (.ask trivial) fun answer => .bind (.raising _) fun durable => ?_
  exact .ite (.bind (.ask trivial) fun _ => .pure _) hrest

theorem silent_queryOrder (symbol id : String) : Silent (queryOrder c symbol id) := by
  unfold queryOrder
  refine .bind (.attempt (silent_get _)) fun result => ?_
  split
  · exact .pure _
  · exact .ite (.pure _) (.throw _)
  · exact .throw _

theorem silent_adoptStatus (id : String) (response : Json) : Silent (adoptStatus id response) := by
  unfold adoptStatus
  refine .bind (.ask trivial) fun order => ?_
  split
  · exact .pure _
  · exact .bind (.raising _) fun status => .ite (.ask trivial) (.pure _)

theorem silent_resolveAmbiguousCancel (symbol id : String) :
    Silent (resolveAmbiguousCancel c symbol id) := by
  have hsettle (response : Option Json) : Silent (do
      let sync ← reconcileOrUnknown
      let ready ← verified sync
      settle ready
      return response : Prog (Option Json)) :=
    .bind silent_reconcileOrUnknown fun sync => .bind (silent_verified _) fun ready =>
      .bind (silent_settle _) fun _ => .pure _
  unfold resolveAmbiguousCancel
  refine .bind (.ask trivial) fun _ => .bind (.attempt (silent_queryOrder c symbol id))
    fun result => ?_
  split
  · exact .bind (.ask trivial) fun _ => .pure _
  · exact .bind silent_reconcileOrUnknown fun sync => .bind (silent_verified _) fun _ =>
      .bind (.ask trivial) fun _ => .pure _
  · split
    · exact .bind (.attempt (silent_adoptStatus id _)) fun _ => hsettle _
    · exact hsettle _

theorem silent_resolvedCancel (symbol id : String) : Silent (resolvedCancel c symbol id) := by
  unfold resolvedCancel
  refine .bind (silent_resolveAmbiguousCancel c symbol id) fun resolved =>
    .bind (.ask trivial) fun s =>
    .ite (.pure _) ?_
  split
  · exact .pure _
  · exact .raising _

theorem quiet_notify (order : ExecutionOrder) (notice : Notice) : Quiet (notify order notice) := by
  unfold notify
  refine .bind (.ask _) fun answer => ?_
  split
  · exact .pure _
  · exact .bind (.ask _) fun _ => .ask _

theorem quiet_submissionFailed (s : Submission) (submissionAttempted : Bool) (e : Exn) :
    Quiet (submissionFailed c s submissionAttempted e) := by
  unfold submissionFailed
  split
  · exact .bind (.ask _) fun _ => .bind (quiet_notify _ _) fun _ => .pure _
  · exact .bind (quiet_notify _ _) fun _ => .bind (.ask _) fun _ => .pure _
  · exact .bind (quiet_notify _ _) fun _ => .bind (.ask _) fun _ => .pure _
  · exact .bind (.ask _) fun _ => .bind (quiet_notify _ _) fun _ => .pure _
  · exact .bind (quiet_notify _ _) fun _ => .bind (.ask _) fun _ => .pure _
  · refine .bind (quiet_notify _ _) fun _ => .bind (silent_resolveAmbiguousOrder c s).quiet
      fun order => ?_
    split
    · exact .pure _
    · exact .bind (quiet_notify _ _) fun _ => .pure _
  · exact .bind (quiet_notify _ _) fun _ => .bind (.ask _) fun _ => .pure _

/-! ### Methods that send -/

/-- The lock is held at the end, whatever the result. -/
def Held {A : Type} (mode : Mode) (_ : Except Exn A) : Prop := mode ≠ .out

theorem runs_quiet {A : Type} {x : Prog A} {mode : Mode} (hx : Quiet x) (h : mode ≠ .out) :
    Runs x mode Held := hx mode _ fun _ => h

theorem runs_mutate_bind {A : Type} (m : Mutation) {f : Json → Prog A} (hf : ∀ r, Quiet (f r)) :
    Runs (mutate m >>= f) .cleared Held := by
  refine .bind (.bind (.send fun answer => ?_))
  cases answer with
  | ok response => exact runs_quiet (hf response) nofun
  | error e => exact (nofun : Mode.inside ≠ .out)

theorem runs_postOrder (s : Submission) : Runs (postOrder c s) .cleared Held := by
  unfold postOrder
  refine .quiet_bind (.ask _) (fun hedgeMode => runs_mutate_bind _ fun response => ?_)
    (fun _ => nofun)
  have hrest : Quiet (do
      let order ← raising
        (orderFromResponse s.intent response s.prepared s.clientOrderId s.decision false)
      upsertOrder order
      if !(← postMutationReconcile order response) then
        notify order .ambiguous
        return none
      notify order .confirmed
      return some ⟨order, order.status = "NEW" ∨ order.status = "PARTIALLY_FILLED"⟩ :
        Prog (Option Executed)) :=
    .bind (.raising _) fun order => .bind (.ask _) fun _ =>
      .bind (silent_postMutationReconcile _ _).quiet fun ready =>
        .ite (.bind (quiet_notify _ _) fun _ => .pure _) (.bind (quiet_notify _ _) fun _ => .pure _)
  exact .ite (.bind (.throw _) fun _ => hrest) hrest

theorem runs_submitOrder (s : Submission) : Runs (submitOrder c s) .cleared Held := by
  unfold submitOrder
  refine .quiet_bind (.attempt (silent_beforeRequest c s).quiet) (fun before => ?_) (fun _ => nofun)
  split
  · exact runs_quiet (quiet_submissionFailed c s false _) nofun
  · exact runs_quiet (.pure _) nofun
  · refine .bind (.attempt ((runs_postOrder c s).mono fun mode r hmode => ?_))
    cases r with
    | error e => exact runs_quiet (quiet_submissionFailed c s true e) hmode
    | ok executed => exact runs_quiet (.pure _) hmode

/-- The loop tests the kill switch in front of every order. -/
theorem runs_submitOrders (decision : ExecutionDecision) (index : ℕ) (reserved : Reserved)
    (intents : List OrderIntent) {mode : Mode} (h : mode ≠ .out) :
    Runs (submitOrders c false decision index reserved intents) mode Held := by
  induction intents generalizing index reserved mode with
  | nil => exact runs_quiet (.pure _) h
  | cons intent rest ih =>
    unfold submitOrders
    refine .bind (.testFlag h ?_ ?_)
    · exact runs_quiet (.bind (.ask _) fun _ => .pure _) nofun
    · refine .quiet_bind (silent_checkOrder _).quiet (fun prepared => ?_) (fun _ => nofun)
      cases prepared with
      | none => exact ih _ _ nofun
      | some prepared =>
        refine .bind ((runs_submitOrder c _).mono fun mode r hmode => ?_)
        cases r with
        | error e => exact hmode
        | ok executed =>
          cases executed with
          | none => exact ih _ _ hmode
          | some executed =>
            refine .bind ((ih _ _ hmode).mono fun mode r hmode => ?_)
            cases r with
            | error e => exact hmode
            | ok orders => exact hmode

/-! ### The calls -/

theorem silent_evaluateExecutionGate (decision : ExecutionDecision) :
    Silent (evaluateExecutionGate decision) := by
  unfold evaluateExecutionGate
  exact .bind .readFlag fun active => .ite (.pure _) (.ask trivial)

theorem runs_executeOrders (decision : ExecutionDecision) :
    Runs (executeOrders c false decision) .inside Held := by
  unfold executeOrders
  refine .quiet_bind (.ask _) (fun preflight => ?_) (fun _ => nofun)
  refine .ite (runs_quiet (.pure _) nofun) ?_
  refine .quiet_bind (.ask _) (fun authorized => ?_) (fun _ => nofun)
  refine .ite (runs_quiet (.pure _) nofun) ?_
  refine .quiet_bind (.ask _) (fun s => ?_) (fun _ => nofun)
  refine .ite (runs_quiet (.pure _) nofun) ?_
  refine .ite (runs_quiet (.pure _) nofun) ?_
  exact runs_submitOrders c decision 0 {} decision.orders nofun

/-- The lock is not held, whatever the result. -/
def Free {A : Type} (mode : Mode) (_ : Except Exn A) : Prop := mode = .out

theorem runs_withLock {A : Type} {x : Prog A} (h : Runs x .inside Held) :
    Runs (withLock x) .out Free :=
  .withLock (h.mono fun _ _ hmode => ⟨hmode, rfl⟩)

theorem runs_executeDecision (decision : ExecutionDecision) :
    Runs (executeDecision c decision) .out Free := by
  unfold executeDecision
  refine .quiet_bind (.ask _) (fun preflight => .ite rfl ?_) (fun _ => rfl)
  refine .quiet_bind (.ask _) (fun authorized => .ite rfl ?_) (fun _ => rfl)
  refine .quiet_bind (.ask _) (fun callable => .ite rfl ?_) (fun _ => rfl)
  refine .quiet_bind (silent_evaluateExecutionGate _).quiet
    (fun allowed => .ite rfl ?_) (fun _ => rfl)
  refine runs_withLock (.quiet_bind (silent_evaluateExecutionGate _).quiet (fun allowed => ?_)
    (fun _ => nofun))
  exact .ite (runs_quiet (.pure _) nofun) (runs_executeOrders c decision)

theorem runs_deleteOrder (symbol id : String) : Runs (deleteOrder c symbol id) .cleared Held := by
  unfold deleteOrder
  refine runs_mutate_bind _ fun response => .ite (silent_resolvedCancel c symbol id).quiet ?_
  have hrest : Quiet (do
      setLastStatusUnknown
      let sync ← reconcileOrUnknown
      let ready ← verified sync
      settle ready
      return ready : Prog Bool) :=
    .bind (.ask _) fun _ => .bind silent_reconcileOrUnknown.quiet fun sync =>
      .bind (silent_verified _).quiet fun ready => .bind (silent_settle _).quiet fun _ => .pure _
  refine .bind (.ask _) fun order => ?_
  split
  · exact .bind (.ask _) fun _ => hrest
  · exact hrest

theorem runs_cancelLocked (symbol id : String) : Runs (cancelLocked c symbol id) .cleared Held := by
  unfold cancelLocked
  refine .quiet_bind (.ask _) (fun preflight => .ite (runs_quiet (.pure _) nofun) ?_)
    (fun _ => nofun)
  refine .quiet_bind (.ask _) (fun authorized => .ite (runs_quiet (.pure _) nofun) ?_)
    (fun _ => nofun)
  refine .quiet_bind (.ask _) (fun s => .ite (runs_quiet (.pure _) nofun) ?_) (fun _ => nofun)
  refine .bind (.attempt ((runs_deleteOrder c symbol id).mono fun mode r hmode => ?_))
  refine runs_quiet ?_ hmode
  split
  · exact .pure _
  · exact .bind (.ask _) fun _ => .pure _
  · exact (silent_resolvedCancel c symbol id).quiet
  · exact (silent_resolvedCancel c symbol id).quiet
  · exact .bind (.ask _) fun _ => .pure _

theorem runs_cancelOrder (symbol id : String) : Runs (cancelOrder c symbol id) .out Free := by
  unfold cancelOrder
  refine .quiet_bind (.ask _) (fun preflight => .ite rfl ?_) (fun _ => rfl)
  refine .quiet_bind (.ask _) (fun authorized => .ite rfl ?_) (fun _ => rfl)
  refine runs_withLock (.bind (.testFlag nofun ?_ ?_))
  · exact runs_quiet (.pure _) nofun
  · exact runs_cancelLocked c symbol id

theorem runs_putOrder (s : Submission) : Runs (putOrder c s) .cleared Held := by
  unfold putOrder
  refine .quiet_bind (.ask _) (fun hedgeMode => ?_) (fun _ => nofun)
  refine .quiet_bind (silent_assertExecutionLease _).quiet (fun _ => ?_) (fun _ => nofun)
  refine runs_mutate_bind _ fun response => ?_
  have hrest : Quiet (do
      let amended ← raising
        (orderFromResponse s.intent response s.prepared s.clientOrderId s.decision false)
      upsertOrder amended
      if ← postMutationReconcile amended response then return some amended else return none :
        Prog (Option ExecutionOrder)) :=
    .bind (.raising _) fun amended => .bind (.ask _) fun _ =>
      .bind (silent_postMutationReconcile _ _).quiet fun ready => .ite (.pure _) (.pure _)
  exact .ite (.bind (.throw _) fun _ => hrest) hrest

theorem runs_submitAmendment (s : Submission) : Runs (submitAmendment c s) .cleared Held := by
  unfold submitAmendment
  refine .quiet_bind (.ask _) (fun callable => .ite (runs_quiet (.pure _) nofun) ?_)
    (fun _ => nofun)
  refine .quiet_bind (silent_evaluateExecutionGate _).quiet
    (fun allowed => .ite (runs_quiet (.pure _) nofun) ?_) (fun _ => nofun)
  refine .bind (.attempt ((runs_putOrder c s).mono fun mode r hmode => ?_))
  refine runs_quiet ?_ hmode
  split
  · exact .pure _
  · exact .bind (.ask _) fun _ => .pure _
  · exact .pure _
  · exact .pure _
  · exact .pure _
  · exact (silent_resolveAmbiguousOrder c s).quiet
  · exact .bind (.ask _) fun _ => .pure _

theorem runs_modifyLocked (a : Amendment) : Runs (modifyLocked c a) .cleared Held := by
  unfold modifyLocked
  refine .quiet_bind (.ask _) (fun preflight => .ite (runs_quiet (.pure _) nofun) ?_)
    (fun _ => nofun)
  refine .quiet_bind (.ask _) (fun authorized => .ite (runs_quiet (.pure _) nofun) ?_)
    (fun _ => nofun)
  refine .quiet_bind (.ask _) (fun s => .ite (runs_quiet (.pure _) nofun) ?_) (fun _ => nofun)
  refine .quiet_bind (.ask _) (fun existing => ?_) (fun _ => nofun)
  split
  · exact runs_quiet (.pure _) nofun
  · split
    · exact runs_quiet (.pure _) nofun
    · refine .quiet_bind (silent_checkOrder _).quiet (fun prepared => ?_) (fun _ => nofun)
      split
      · exact runs_quiet (.pure _) nofun
      · exact runs_submitAmendment c _

theorem runs_modifyOrder (a : Amendment) : Runs (modifyOrder c a) .out Free := by
  unfold modifyOrder
  refine .quiet_bind (.ask _) (fun preflight => .ite rfl ?_) (fun _ => rfl)
  refine .quiet_bind (.ask _) (fun authorized => .ite rfl ?_) (fun _ => rfl)
  refine runs_withLock (.bind (.testFlag nofun ?_ ?_))
  · exact runs_quiet (.pure _) nofun
  · exact runs_modifyLocked c a

/-- The calls of the three entry points. -/
inductive Call : Co Ask Ask.Answer Mutation (Except Exn Json) Unit → Prop
  | executeDecision (decision : ExecutionDecision) : Call (task (executeDecision c decision))
  | modifyOrder (a : Amendment) : Call (task (modifyOrder c a))
  | cancelOrder (symbol id : String) : Call (task (cancelOrder c symbol id))

theorem keeps_call {p : Co Ask Ask.Answer Mutation (Except Exn Json) Unit} (h : Call c p) :
    Keeps p .out := by
  cases h with
  | executeDecision decision => exact (wp_bind _ _ _ _).mpr (runs_executeDecision c decision)
  | modifyOrder a => exact (wp_bind _ _ _ _).mpr (runs_modifyOrder c a)
  | cancelOrder symbol id => exact (wp_bind _ _ _ _).mpr (runs_cancelOrder c symbol id)

/-- **Kill switch bound**: in every world that calls of the entry points reach, at most one request
was sent since the kill switch was activated, and the last thing in front of the activation was that
the call that sent it passed its own check. -/
theorem kill_switch_bound {w : World Ask Ask.Answer Mutation (Except Exn Json)}
    (h : Reachable (Call c) w) {pre post : List (Entry Mutation)}
    (hstop : w.trace = pre ++ .stopped :: post) :
    sends post = [] ∨ ∃ t m, sends post = [(t, m)] ∧
      ∃ ys zs, pre = ys ++ .passed t :: zs ∧ ∀ e ∈ zs, e = .stopped :=
  sends_after_stop (fun _ hp => keeps_call c hp) h hstop

/-! ### A run -/

/-- An adapter for Testnet. -/
def testnetConfig : Config where
  env := .testnet
  portfolioMargin := false
  digest _ := "0123456789ab"

/-- A call that cancels an order passes its check, the kill switch is activated, and the request is
sent. -/
theorem kill_switch_bound_cancel : ∃ (w : World Ask Ask.Answer Mutation (Except Exn Json))
    (pre post : List (Entry Mutation)), Reachable (Call testnetConfig) w ∧
      w.trace = pre ++ .stopped :: post ∧ sends post ≠ [] ∧
      (sends post = [] ∨ ∃ t m, sends post = [(t, m)] ∧
        ∃ ys zs, pre = ys ++ .passed t :: zs ∧ ∀ e ∈ zs, e = .stopped) := by
  have start : Reachable (Call testnetConfig) _ :=
    .tail .refl (.start (.cancelOrder "ETHUSDC" "BAI-1"))
  have checked := ((start.tail (.ask (t := 0) rfl false)).tail (.ask (t := 0) rfl true)).tail
    (.acquire (t := 0) rfl rfl)
  have passed := checked.tail (.test (t := 0) rfl)
  have stopped := passed.tail .stop
  have ready := ((stopped.tail (.ask (t := 0) rfl false)).tail (.ask (t := 0) rfl true)).tail
    (.ask (t := 0) rfl .ready)
  have sent := ready.tail (.send (t := 0) rfl (.error (.transportAmbiguity "timeout")))
  exact ⟨_, [.acquired 0, .passed 0], _, sent, rfl, nofun, kill_switch_bound testnetConfig sent rfl⟩

end Blessing.Binance.KillSwitch
