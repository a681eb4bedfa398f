import Blessing.Launch.Submission

/-! # One order before the review

The adapter submits the orders of a staged launch one at a time: it reserves the session, sends the
order, and books what came of it. The session admits one reservation, so once the exchange has an
order of it no second one is sent, unless the reservation is given back or the session is closed
under the order. The first happens if the exchange took the order and answered with a status that
the adapter reads as a rejection, the second if a launch with another approval is created: it closes
every session without a *booked* order.

The orders are those that passed the gates of the Worker and the adapter; the Worker's session may
be replaced at any time, as arming and continuing do. -/

namespace Blessing.Launch.OneOrder

open Blessing.Lib Blessing.Lib.Values Blessing.Lib.Machine
open Blessing.Binance.Models Blessing.Binance.Orders
open Blessing.Launch.Repository Blessing.Launch.Lifecycle Blessing.Launch.Submission

/-! ### The system -/

/-- The order in the hands of `_execute_decision`, under the mutation lock. `pending` are the
reports that are left once it was sent, `launchId` is the launch it was reserved for. -/
structure Flight where
  submission : Submission
  launchId : Option String
  pending : Option (List Notice)

/-- The operations of the control plane on the table. -/
inductive Control where
  | create (args : CreateArgs)
  | resume (index : ℕ)
  | activateAutonomous (launchId continuationApprovalId imageDigest : String)
  | markReauthRequired (symbol : String)
  deriving DecidableEq

def Control.event : Control → Event
  | .create args => .create args
  | .resume index => .resume index
  | .activateAutonomous launchId id imageDigest =>
    .call (.activateAutonomous launchId id imageDigest)
  | .markReauthRequired symbol => .call (.markReauthRequired symbol)

/-- `unreviewed` are the staged launches of which the exchange has an order and which were not
activated since. -/
structure State where
  runtime : Runtime
  flight : Option Flight
  unreviewed : List String

/-- What happens. -/
inductive Act where
  /-- an operation of the control plane -/
  | control (c : Control)
  /-- `trigger_reconciliation` -/
  | reconcile (inSync : Bool)
  /-- arming or continuing replaces the session of the Worker -/
  | adopt (session : Option Session)
  /-- the kill switch is set or released -/
  | setKillSwitch (active : Bool)
  /-- the next order: `_before_order_submission` -/
  | reserve (submission : Submission) (durable : Bool)
  /-- the lease was lost, or something else failed in front of the request -/
  | fence
  /-- the `POST`: whether the exchange took the order, its answer, and what the checks behind it
  found -/
  | post (accepted : Bool) (answer : Except Exn Json) (verified resolved : Bool)
  /-- `_on_order_submission_result` with the next report -/
  | report
  /-- the task ends, or the report is lost -/
  | drop

/-- The order increases risk. -/
def Flight.risky (f : Flight) : Bool := f.submission.decision.riskClass.isRiskIncreasing

/-- The next order: under the lock, and not while the kill switch is set. -/
def State.reserve (s : State) (submission : Submission) (durable : Bool) : State :=
  if s.flight.isSome || s.runtime.worker.killSwitchActive then s
  else
    let risky := submission.decision.riskClass.isRiskIncreasing
    let (ok, runtime) := beforeOrderSubmission durable (planned submission) s.runtime
    { s with
      runtime
      flight := if ok || !risky then
        some ⟨submission, if risky then s.runtime.worker.launchId else none, none⟩ else none }

/-- The launch is one that admits a single order. -/
def isStaged (t : Sessions) (launchId : String) : Bool :=
  (t.get launchId).any fun r => r.policy == .stagedFirstOrder

/-- One act, and the order it sends to the exchange. -/
def step (s : State) : Act → Option Submission × State
  | .control c =>
    let (outcome, world) := Repository.step s.runtime.world c.event
    (none, { s with
      runtime := { s.runtime with world }
      unreviewed := match c, outcome with
        | .activateAutonomous launchId _ _, .session _ => s.unreviewed.filter (· ≠ launchId)
        | _, _ => s.unreviewed })
  | .reconcile inSync => (none, { s with runtime := triggerReconciliation inSync s.runtime })
  | .adopt session =>
    (none, { s with runtime := { s.runtime with worker := s.runtime.worker.setSession session } })
  | .setKillSwitch active =>
    (none, { s with
      runtime :=
    { s.runtime with worker := { s.runtime.worker with killSwitchActive := active } } })
  | .reserve submission durable => (none, s.reserve submission durable)
  | .fence =>
    match s.flight with
    | some ⟨submission, launchId, none⟩ =>
      (none, { s with flight := some ⟨submission, launchId, some [.rejected]⟩ })
    | _ => (none, s)
  | .post accepted answer verified resolved =>
    match s.flight with
    | some ⟨submission, launchId, none⟩ =>
      (some submission, { s with
        flight := some ⟨submission, launchId, some (noticesOf submission answer verified resolved)⟩
        unreviewed := s.unreviewed ++
          if accepted then launchId.toList.filter (isStaged s.runtime.world.sessions) else [] })
    | _ => (none, s)
  | .report =>
    match s.flight with
    | some ⟨submission, launchId, some (notice :: pending)⟩ =>
      (none, { s with
        runtime := onOrderSubmissionResult (planned submission) notice s.runtime
        flight := some ⟨submission, launchId, some pending⟩ })
    | some ⟨_, _, some []⟩ => (none, { s with flight := none })
    | _ => (none, s)
  | .drop => (none, { s with flight := none })

/-- A LIVE Worker with an empty table. -/
def start : State := ⟨⟨Repository.start, {}⟩, none, []⟩

/-! ### What goes wrong -/

/-- The statement of an operation that closes sessions. -/
def closing (w : World) : Event → Option Statement
  | .resume index =>
    match w.creating[index]? with
    | some ⟨args, .close⟩ => some (.closeOthers (Text.upper args.symbol) args.approvalId)
    | _ => none
  | .call (.closeOthers symbol approvalId) => some (.closeOthers symbol approvalId)
  | _ => none

/-- The session has an order at the exchange that was not reviewed, or one that is about to be
sent. -/
def State.engaged (s : State) (launchId : String) : Prop :=
  launchId ∈ s.unreviewed ∨ ∃ f ∈ s.flight, f.pending.isNone ∧ f.launchId = some launchId

/-- The answer to a `POST` is read as a rejection. -/
def readsRejection (submission : Submission) (answer : Except Exn Json) : Bool :=
  match answer.bind fun r => orderFromResponse submission.intent r submission.prepared
      submission.clientOrderId submission.decision false with
  | .error (.definitiveRejection _ _) => true
  | _ => false

/-- The act neither rejects an order that the exchange took nor closes a session under its order. -/
def Meets (s : State) : Act → Prop
  | .post accepted answer _ _ =>
    accepted = true → ∀ f ∈ s.flight, readsRejection f.submission answer = false
  | .control c => ∀ st ∈ closing s.runtime.world c.event, ∀ r ∈ s.runtime.world.sessions.rows,
      st.selects r = true → ¬ s.engaged r.launchId
  | _ => True

instance (s : State) (launchId : String) : Decidable (s.engaged launchId) := by
  unfold State.engaged
  infer_instance

instance (s : State) : ∀ act, Decidable (Meets s act)
  | .post _ _ _ _ => by unfold Meets; infer_instance
  | .control _ => by unfold Meets; infer_instance
  | .reconcile _ | .adopt _ | .setKillSwitch _ | .reserve _ _ | .fence | .report | .drop =>
    .isTrue trivial

/-! ### The symbol of every session -/

/-- Every launch is for `ETHUSDC`. -/
structure Scoped (w : World) : Prop where
  creating : ∀ c ∈ w.creating, c.args.check = .ok ()
  symbols : ∀ launchId r, w.sessions.get launchId = some r → r.symbol = "ETHUSDC"

theorem symbol_of_check {args : CreateArgs} (h : args.check = .ok ()) :
    args.row.symbol = "ETHUSDC" := by
  unfold CreateArgs.check at h
  split_ifs at h with h1 h2 h3 h4
  push Not at h3
  exact h3.1

theorem changes_symbol (st : Statement) (r : Session) : (st.changes r).symbol = r.symbol := by
  cases st <;> rfl

theorem scoped_exec {t t' : Sessions} {st : Statement} {n : ℕ} (h : t.exec st = some (n, t'))
    (hscoped : ∀ launchId r, t.get launchId = some r → r.symbol = "ETHUSDC") :
    ∀ launchId r, t'.get launchId = some r → r.symbol = "ETHUSDC" := by
  intro launchId r hr
  rw [get_exec h] at hr
  obtain ⟨r₀, hr₀, rfl⟩ := Option.map_eq_some_iff.mp hr
  split_ifs
  · rw [changes_symbol, hscoped launchId r₀ hr₀]
  · exact hscoped launchId r₀ hr₀

theorem scoped_create {w : World} {c : Creating} (hc : c.args.check = .ok ()) (h : Scoped w) :
    Scoped (w.create c).2 := by
  have hnext : ∀ stage, ∀ c' ∈ w.creating ++ [⟨c.args, stage⟩], c'.args.check = .ok () := by
    intro stage c' hc'
    rcases List.mem_append.mp hc' with hold | hnew
    · exact h.creating c' hold
    · rw [List.mem_singleton.mp hnew]
      exact hc
  unfold World.create
  cases hstage : c.stage with
  | close =>
    simp only
    split
    · exact h
    · rename_i hexec
      exact ⟨hnext _, scoped_exec hexec h.symbols⟩
  | check =>
    simp only
    split
    · exact h
    · exact ⟨hnext _, h.symbols⟩
  | insert =>
    simp only
    split
    · exact h
    · rename_i hinsert
      refine ⟨hnext _, fun launchId r hr => ?_⟩
      rcases get_insert hinsert launchId with hsame | ⟨-, -, hnew⟩
      · exact h.symbols launchId r (hsame ▸ hr)
      · rw [hnew] at hr
        cases hr
        exact symbol_of_check hc
  | read =>
    simp only
    split
    · exact h
    · split_ifs <;> exact h

theorem scoped_step (w : World) (event : Event) (h : Scoped w) :
    Scoped (Repository.step w event).2 := by
  cases event with
  | create args =>
    simp only [Repository.step]
    split
    · exact h
    · rename_i hcheck
      refine ⟨fun c hc => ?_, h.symbols⟩
      rcases List.mem_append.mp hc with hold | hnew
      · exact h.creating c hold
      · rw [List.mem_singleton.mp hnew]
        exact hcheck
  | resume index =>
    simp only [Repository.step]
    split
    · exact h
    · rename_i c hget
      refine scoped_create (h.creating c (List.mem_of_getElem? hget)) ?_
      exact ⟨fun c' hc' => h.creating c' (List.mem_of_mem_eraseIdx hc'), h.symbols⟩
  | call st =>
    simp only [Repository.step]
    split
    · exact h
    · split
      · exact h
      · rename_i hexec
        exact ⟨h.creating, scoped_exec hexec h.symbols⟩

/-! ### A session with its one reservation -/

/-- The session is open and, if it is staged, its one reservation is taken. -/
def Taken (r : Session) : Prop :=
  r.state ≠ .closed ∧ (r.policy = .stagedFirstOrder → r.reservedOrders = 1)

/-- The statements other than those that close sessions or give reservations back. -/
def Mild : Statement → Prop
  | .closeOthers _ _ | .releaseReservation _ => False
  | _ => True

theorem taken_changes {st : Statement} {r : Session} (hst : Mild st) (hchecked : r.Checked)
    (h : Taken r) (hs : st.selects r = true) : Taken (st.changes r) := by
  obtain ⟨hopen, hreserved⟩ := h
  cases st with
  | closeOthers symbol approvalId => exact hst.elim
  | releaseReservation launchId => exact hst.elim
  | reserve launchId =>
    refine ⟨hopen, fun hpolicy => ?_⟩
    change r.policy = .stagedFirstOrder at hpolicy
    -- a staged session has no second reservation
    exfalso
    simp [Statement.selects, hpolicy, max_of_staged hchecked hpolicy, hreserved hpolicy] at hs
  | markSubmitted launchId =>
    refine ⟨?_, hreserved⟩
    simp only [Statement.changes]
    split_ifs <;> exact fun h => by cases h
  | markReconciliationRequired launchId => exact ⟨(fun h => by cases h), hreserved⟩
  | markReconciled launchId =>
    refine ⟨?_, hreserved⟩
    simp only [Statement.changes]
    split_ifs <;> exact fun h => by cases h
  | activateAutonomous launchId id imageDigest =>
    exact ⟨(fun h => by cases h), (fun h => by cases h)⟩
  | markReauthRequired symbol => exact ⟨(fun h => by cases h), hreserved⟩

theorem changes_policy {st : Statement} {r : Session}
    (hst : ∀ launchId id imageDigest, st ≠ .activateAutonomous launchId id imageDigest) :
    (st.changes r).policy = r.policy := by
  cases st with
  | activateAutonomous launchId id imageDigest => exact absurd rfl (hst launchId id imageDigest)
  | _ => rfl

/-- The launch has a session that is taken. -/
def Kept (t : Sessions) (launchId : String) : Prop := ∃ r, t.get launchId = some r ∧ Taken r

/-- The launch has a staged session that is taken. -/
def Held (t : Sessions) (launchId : String) : Prop :=
  ∃ r, t.get launchId = some r ∧ Taken r ∧ r.policy = .stagedFirstOrder

/-- No reservation succeeds while a staged session is taken. -/
theorem reserve_held {w : World} (hscoped : Scoped w) {launchId : String}
    (h : Held w.sessions launchId) {r : Session} (hr : r ∈ w.sessions.rows) (other : String) :
    (Statement.reserve other).selects r = false := by
  obtain ⟨r₀, hr₀, ⟨hopen, hreserved⟩, hpolicy⟩ := h
  by_contra hselects
  rw [Bool.not_eq_false] at hselects
  have hopen' : r.state ≠ .closed := fun hclosed => by
    rw [selects_closed hclosed] at hselects
    cases hselects
  have hsame : r₀ = r := by
    refine List.inj_on_of_nodup_map w.sessions.valid.oneActive ?_ ?_ ?_
    · simpa using ⟨mem_of_get hr₀, hopen⟩
    · simpa using ⟨hr, hopen'⟩
    · rw [hscoped.symbols launchId r₀ hr₀, hscoped.symbols _ r (get_of_mem hr)]
  subst hsame
  have hmax := max_of_staged (w.sessions.valid.checked r₀ hr) hpolicy
  simp [Statement.selects, hpolicy, hmax, hreserved hpolicy] at hselects

/-! ### One statement -/

theorem call_cases (w : World) (st : Statement) {launchId : String} {r : Session}
    (hr : w.sessions.get launchId = some r) :
    (Repository.step w (.call st)).2.sessions.get launchId = some r ∨ st.selects r = true ∧
      (Repository.step w (.call st)).2.sessions.get launchId = some (st.changes r) := by
  have hmoves := moves_step w (.call st) launchId
  rw [hr] at hmoves
  generalize (Repository.step w (.call st)).2.sessions.get launchId = after at hmoves
  cases hmoves with
  | same => exact .inl rfl
  | @changed st' _ hruns hselects =>
    rcases hruns with hcall | ⟨⟨index, hresume⟩, -⟩
    · cases hcall
      exact .inr ⟨hselects, rfl⟩
    · cases hresume

theorem kept_call {w : World} (st : Statement) (hst : Mild st) {launchId : String}
    (h : Kept w.sessions launchId) : Kept (Repository.step w (.call st)).2.sessions launchId := by
  obtain ⟨r, hr, htaken⟩ := h
  rcases call_cases w st hr with hsame | ⟨hselects, hchanged⟩
  · exact ⟨r, hsame, htaken⟩
  · exact ⟨_, hchanged,
      taken_changes hst (w.sessions.valid.checked r (mem_of_get hr)) htaken hselects⟩

theorem held_call {w : World} (st : Statement) (hst : Mild st)
    (hactivate : ∀ launchId id imageDigest, st ≠ .activateAutonomous launchId id imageDigest)
    {launchId : String} (h : Held w.sessions launchId) :
    Held (Repository.step w (.call st)).2.sessions launchId := by
  obtain ⟨r, hr, htaken, hpolicy⟩ := h
  rcases call_cases w st hr with hsame | ⟨hselects, hchanged⟩
  · exact ⟨r, hsame, htaken, hpolicy⟩
  · exact ⟨_, hchanged,
      taken_changes hst (w.sessions.valid.checked r (mem_of_get hr)) htaken hselects,
      (changes_policy hactivate).trans hpolicy⟩

/-- An activation that leaves a staged session of the launch was not successful. -/
theorem held_activate {w : World} {launchId other id imageDigest : String}
    (h : Held w.sessions launchId)
    (hno : other = launchId → ∀ row,
      (Repository.step w (.call (.activateAutonomous other id imageDigest))).1 ≠ .session row) :
    Held (Repository.step w (.call (.activateAutonomous other id imageDigest))).2.sessions
      launchId := by
  obtain ⟨r, hr, htaken, hpolicy⟩ := h
  rcases call_cases w (.activateAutonomous other id imageDigest) hr with
    hsame | ⟨hselects, hchanged⟩
  · exact ⟨r, hsame, htaken, hpolicy⟩
  · exfalso
    have hid : other = launchId := by
      simp only [Statement.selects, Bool.and_eq_true, decide_eq_true_eq] at hselects
      rw [← hselects.1.1.1, launchId_of_get hr]
    subst hid
    have hne :
        (Repository.step w (.call (.activateAutonomous other id imageDigest))).2.sessions.get
          other ≠
        some r := by
      rw [hchanged]
      intro he
      rw [← Option.some.inj he] at hpolicy
      cases hpolicy
    obtain ⟨_, _, row, he, hanswer⟩ := activates_of_changed hr hselects hne
    cases he
    exact hno rfl row hanswer

theorem resume_get {w : World} {index : ℕ} {launchId : String} {r : Session}
    (hr : w.sessions.get launchId = some r)
    (hclose : ∀ st, closing w (.resume index) = some st → st.selects r = false) :
    (Repository.step w (.resume index)).2.sessions.get launchId = some r := by
  simp only [Repository.step]
  cases hget : w.creating[index]? with
  | none => exact hr
  | some c =>
    obtain ⟨args, stage⟩ := c
    simp only [World.create]
    cases stage with
    | close =>
      have hselects := hclose (.closeOthers (Text.upper args.symbol) args.approvalId)
        (by simp only [closing, hget])
      simp only
      split
      · exact hr
      · rename_i hexec
        change Sessions.get _ launchId = _
        rw [get_exec hexec, hr, Option.map_some, hselects]
        rfl
    | check =>
      simp only
      split <;> exact hr
    | insert =>
      simp only
      split
      · exact hr
      · rename_i hinsert
        rcases get_insert hinsert launchId with hsame | ⟨-, hnone, -⟩
        · exact hsame.trans hr
        · change w.sessions.get launchId = none at hnone
          rw [hr] at hnone
          cases hnone
    | read =>
      simp only
      split
      · exact hr
      · split_ifs <;> exact hr

theorem create_get (w : World) (args : CreateArgs) (launchId : String) :
    (Repository.step w (.create args)).2.sessions.get launchId = w.sessions.get launchId := by
  simp only [Repository.step]
  split <;> rfl

/-! ### The invariant -/

/-- What holds in every state that a run reaches. -/
structure Safe (s : State) : Prop where
  inv : AllInv s.runtime.world
  scope : Scoped s.runtime.world
  live : s.runtime.worker.executionMode = .live
  /-- the sessions of unreviewed orders keep their reservation -/
  held : ∀ launchId ∈ s.unreviewed, Held s.runtime.world.sessions launchId
  /-- an order is sent only if no other one is unreviewed, and with a reservation -/
  sending : ∀ f, s.flight = some f → f.pending = none → f.risky = true →
    s.unreviewed = [] ∧ ∃ launchId, f.launchId = some launchId ∧
      Kept s.runtime.world.sessions launchId
  /-- an order that takes risk off has no reservation -/
  reducing : ∀ f, s.flight = some f → f.risky = false → f.launchId = none
  /-- an order that is reported as rejected is not at the exchange -/
  rejecting : ∀ f pending, s.flight = some f → f.pending = some pending → .rejected ∈ pending →
    f.risky = true → s.unreviewed = []

theorem safe_start : Safe start :=
  ⟨(fun _ _ h => by cases h), ⟨(fun _ h => by cases h), (fun _ _ h => by cases h)⟩, rfl,
    (fun _ h => by cases h), (fun _ h => by cases h), (fun _ h => by cases h),
    (fun _ _ h => by cases h)⟩

/-- A change of the table that keeps the sessions of the orders keeps the invariant. -/
theorem Safe.of_world {s s' : State} (h : Safe s) (hinv : AllInv s'.runtime.world)
    (hscoped : Scoped s'.runtime.world) (hlive : s'.runtime.worker.executionMode = .live)
    (hflight : s'.flight = s.flight) (hsub : ∀ launchId ∈ s'.unreviewed, launchId ∈ s.unreviewed)
    (hheld : ∀ launchId ∈ s'.unreviewed, Held s.runtime.world.sessions launchId →
      Held s'.runtime.world.sessions launchId)
    (hkept : ∀ f launchId, s.flight = some f → f.pending = none → f.launchId = some launchId →
      Kept s.runtime.world.sessions launchId → Kept s'.runtime.world.sessions launchId) :
    Safe s' := by
  have hnil : s.unreviewed = [] → s'.unreviewed = [] := fun hempty =>
    List.eq_nil_iff_forall_not_mem.mpr fun launchId hmem => by
      have := hsub launchId hmem
      rw [hempty] at this
      cases this
  refine ⟨hinv, hscoped, hlive, fun launchId hmem => hheld launchId hmem (h.held _ (hsub _ hmem)),
    ?_, fun f hf => h.reducing f (hflight ▸ hf), ?_⟩
  · intro f hf hpending hrisky
    rw [hflight] at hf
    obtain ⟨hempty, launchId, hlaunch, hsession⟩ := h.sending f hf hpending hrisky
    exact ⟨hnil hempty, launchId, hlaunch, hkept f launchId hf hpending hlaunch hsession⟩
  · intro f pending hf hpending hmem hrisky
    rw [hflight] at hf
    exact hnil (h.rejecting f pending hf hpending hmem hrisky)

theorem Safe.call {s s' : State} (h : Safe s) (st : Statement) (hst : Mild st)
    (hactivate : ∀ launchId id imageDigest, st ≠ .activateAutonomous launchId id imageDigest)
    (hworld : s'.runtime.world = (Repository.step s.runtime.world (.call st)).2)
    (hlive : s'.runtime.worker.executionMode = .live) (hflight : s'.flight = s.flight)
    (hunreviewed : s'.unreviewed = s.unreviewed) : Safe s' := by
  refine h.of_world (hworld ▸ allInv_step _ _ h.inv)
    (hworld ▸ scoped_step _ _ h.scope) hlive hflight
    (fun launchId hmem => hunreviewed ▸ hmem) (fun launchId _ hheld => ?_)
    (fun f launchId _ _ _ hkept => ?_)
  · rw [hworld]
    exact held_call st hst hactivate hheld
  · rw [hworld]
    exact kept_call st hst hkept

theorem safe_control {s : State} {c : Control} (h : Safe s) (hmeets : Meets s (.control c)) :
    Safe (step s (.control c)).2 := by
  have hsub : ∀ launchId ∈ (step s (.control c)).2.unreviewed, launchId ∈ s.unreviewed := by
    intro launchId hmem
    simp only [step] at hmem
    split at hmem
    · exact List.mem_of_mem_filter hmem
    · exact hmem
  refine h.of_world (allInv_step _ _ h.inv) (scoped_step _ _ h.scope) h.live rfl hsub ?_ ?_
  · intro launchId hmem hheld
    cases c with
    | create args =>
      obtain ⟨r, hr, hrest⟩ := hheld
      exact ⟨r, (create_get _ args launchId).trans hr, hrest⟩
    | resume index =>
      obtain ⟨r, hr, hrest⟩ := hheld
      refine ⟨r, resume_get hr fun st hst => ?_, hrest⟩
      by_contra hselects
      refine hmeets st hst r (mem_of_get hr) (by simpa using hselects) (.inl ?_)
      rw [launchId_of_get hr]
      exact hsub launchId hmem
    | activateAutonomous other id imageDigest =>
      refine held_activate hheld fun hid row hanswer => ?_
      subst hid
      simp only [step, Control.event, hanswer] at hmem
      simp at hmem
    | markReauthRequired symbol =>
      exact held_call (.markReauthRequired symbol) trivial (fun _ _ _ he => by cases he) hheld
  · intro f launchId hf hpending hlaunch hkept
    cases c with
    | create args =>
      obtain ⟨r, hr, htaken⟩ := hkept
      exact ⟨r, (create_get _ args launchId).trans hr, htaken⟩
    | resume index =>
      obtain ⟨r, hr, htaken⟩ := hkept
      refine ⟨r, resume_get hr fun st hst => ?_, htaken⟩
      by_contra hselects
      refine hmeets st hst r (mem_of_get hr) (by simpa using hselects) (.inr ⟨f, hf, ?_, ?_⟩)
      · rw [hpending]
        rfl
      · rw [launchId_of_get hr]
        exact hlaunch
    | activateAutonomous other id imageDigest =>
      exact kept_call (.activateAutonomous other id imageDigest) trivial hkept
    | markReauthRequired symbol => exact kept_call (.markReauthRequired symbol) trivial hkept

/-! ### Reservations -/

/-- A reservation that succeeded: nothing was unreviewed, and the session is taken now. -/
theorem reserve_ok {s : State} (h : Safe s) {order : ExecutionOrder} {durable : Bool}
    (hrisky : order.riskClass.isRiskIncreasing = true)
    (hok : (beforeOrderSubmission durable order s.runtime).1 = true) :
    s.unreviewed = [] ∧ ∃ launchId, s.runtime.worker.launchId = some launchId ∧
      Kept (beforeOrderSubmission durable order s.runtime).2.world.sessions launchId := by
  obtain ⟨launchId, r, hlaunch, hr, hselects, hafter⟩ := before_ok h.live hrisky hok
  refine ⟨List.eq_nil_iff_forall_not_mem.mpr fun other hother => ?_, launchId, hlaunch, ?_⟩
  · rw [reserve_held h.scope (h.held other hother) (mem_of_get hr) launchId] at hselects
    cases hselects
  · have hget := (call_target (.reserve launchId) rfl hr).2
    rw [if_pos hselects] at hget
    rw [hafter]
    refine ⟨_, hget, fun hclosed => ?_, fun hpolicy => ?_⟩
    · have hopen : r.state = .closed := hclosed
      rw [selects_closed hopen] at hselects
      cases hselects
    · change r.policy = .stagedFirstOrder at hpolicy
      change r.reservedOrders + 1 = 1
      have hchecked := s.runtime.world.sessions.valid.checked r (mem_of_get hr)
      have hmax := max_of_staged hchecked hpolicy
      have hnonneg := hchecked.2.1.1
      have hlt : (r.state = .active ∧ r.submittedOrders = 0) ∧ r.reservedOrders < 1 := by
        simpa [Statement.selects, hpolicy, hmax, launchId_of_get hr] using hselects
      omega

theorem before_live {durable : Bool} {order : ExecutionOrder} {s : Runtime} :
    (beforeOrderSubmission durable order s).2.worker.executionMode = s.worker.executionMode := by
  unfold beforeOrderSubmission
  cases s.worker.launchId with
  | none => split_ifs <;> rfl
  | some launchId =>
    simp only
    split_ifs
    · rfl
    · rfl
    · rfl
    · generalize Repository.step s.world (.call (.reserve launchId)) = result
      split <;> rfl

/-- A reservation that fails changes nothing about the sessions of the orders. -/
theorem safe_reserve {s : State} (h : Safe s) (submission : Submission) (durable : Bool) :
    Safe (s.reserve submission durable) := by
  unfold State.reserve
  split_ifs with hidle
  · exact h
  · have hworld :
        Safe { s with runtime := (beforeOrderSubmission durable
          (planned submission) s.runtime).2 } := by
      rcases before_world durable (planned submission) s.runtime with hsame | ⟨launchId, hcall⟩
      · exact h.of_world (hsame ▸ h.inv) (hsame ▸ h.scope) (before_live.trans h.live) rfl
          (fun _ hm => hm)
          (fun _ _ hheld => hsame ▸ hheld) (fun _ _ _ _ _ hkept => hsame ▸ hkept)
      · exact h.call (.reserve launchId) trivial (fun _ _ _ he => by cases he) hcall
          (before_live.trans h.live) rfl rfl
    refine ⟨hworld.inv, hworld.scope, hworld.live, hworld.held, ?_, ?_, ?_⟩
    · intro f hf hpending hrisky
      simp only at hf
      split_ifs at hf with hsent hclass
      · cases hf
        rw [hclass, Bool.not_true, Bool.or_false] at hsent
        exact reserve_ok h hclass hsent
      · cases hf
        exact absurd hrisky hclass
    · intro f hf hrisky
      simp only at hf
      split_ifs at hf with hsent hclass
      · cases hf
        rw [Flight.risky, hclass] at hrisky
        cases hrisky
      · cases hf
        rfl
    · intro f pending hf hpending hmem hrisky
      simp only at hf
      split_ifs at hf <;> cases hf <;> cases hpending

/-! ### Sending and reporting -/

/-- An order is reported as rejected only if its answer was read as a rejection. -/
theorem rejected_mem {submission : Submission} {answer : Except Exn Json} {verified resolved : Bool}
    (h : Notice.rejected ∈ noticesOf submission answer verified resolved) :
    readsRejection submission answer = true := by
  unfold noticesOf at h
  unfold readsRejection
  generalize (answer.bind fun r => orderFromResponse submission.intent r submission.prepared
    submission.clientOrderId submission.decision false) = result at h ⊢
  cases result with
  | ok order =>
    simp only at h
    split_ifs at h <;> simp at h
  | error e =>
    cases e with
    | definitiveRejection code message => rfl
    | transportAmbiguity message =>
      simp only [noticesOfError] at h
      split_ifs at h <;> simp at h
    | _ => simp [noticesOfError] at h

theorem safe_post {s : State} (h : Safe s) {accepted : Bool} {answer : Except Exn Json}
    {verified resolved : Bool} (hmeets : Meets s (.post accepted answer verified resolved)) :
    Safe (step s (.post accepted answer verified resolved)).2 := by
  simp only [step]
  split
  · rename_i submission launchId hflight
    have hnew : ∀ other ∈ (if accepted then launchId.toList.filter
        (isStaged s.runtime.world.sessions) else []), Held s.runtime.world.sessions other := by
      intro other hother
      split_ifs at hother
      · obtain ⟨hmem, hstaged⟩ := List.mem_filter.mp hother
        have hlaunch : launchId = some other := Option.mem_toList.mp hmem
        cases hrisky : Flight.risky ⟨submission, launchId, none⟩ with
        | false =>
          have hnone : launchId = none := h.reducing _ hflight hrisky
          rw [hlaunch] at hnone
          cases hnone
        | true =>
          obtain ⟨-, launchId', hlaunch', r, hr, htaken⟩ := h.sending _ hflight rfl hrisky
          have hid : other = launchId' := Option.some.inj (hlaunch.symm.trans hlaunch')
          subst hid
          refine ⟨r, hr, htaken, ?_⟩
          simpa [isStaged, hr] using hstaged
      · cases hother
    refine ⟨h.inv, h.scope, h.live, fun other hother => ?_, ?_, ?_, ?_⟩
    · rcases List.mem_append.mp hother with hold | hother
      · exact h.held other hold
      · exact hnew other hother
    · intro f hf hpending
      cases hf
      cases hpending
    · intro f hf hrisky
      cases hf
      exact h.reducing ⟨submission, launchId, none⟩ hflight hrisky
    · intro f pending hf hpending hmem hrisky
      cases hf
      cases hpending
      have hrefused : accepted = false := by
        by_contra htook
        rw [Bool.not_eq_false] at htook
        have hread := hmeets htook _ hflight
        rw [rejected_mem hmem] at hread
        cases hread
      rw [hrefused, (h.sending _ hflight rfl hrisky).1]
      rfl
  · exact h

theorem result_live {order : ExecutionOrder} {notice : Notice} {s : Runtime} :
    (onOrderSubmissionResult order notice s).worker.executionMode = s.worker.executionMode := by
  unfold onOrderSubmissionResult
  split_ifs
  · rfl
  · cases s.worker.launchId with
    | none => rfl
    | some launchId =>
      cases notice with
      | rejected => rfl
      | confirmed =>
        simp only
        split
        · unfold Runtime.submitted
          split_ifs
          · simp only
            split <;> rfl
          · rfl
        · rfl
        · rfl
      | ambiguous =>
        simp only
        split <;> rfl

/-- A report keeps the sessions of the orders; one that gives the reservation back is about an order
that is not at the exchange. -/
theorem safe_result {s : State} (h : Safe s) {submission : Submission} {launchId : Option String}
    {notice : Notice} {pending : List Notice}
    (hflight : s.flight = some ⟨submission, launchId, some (notice :: pending)⟩) :
    Safe { s with runtime := onOrderSubmissionResult (planned submission) notice s.runtime } := by
  have hlive :
      (onOrderSubmissionResult (planned submission) notice s.runtime).worker.executionMode =
      .live :=
    result_live.trans h.live
  rcases result_world (planned submission) notice s.runtime with hsame | ⟨launchId', hcall⟩
  · exact h.of_world (hsame ▸ h.inv) (hsame ▸ h.scope) hlive rfl (fun _ hm => hm)
      (fun _ _ hheld => hsame ▸ hheld) (fun _ _ _ _ _ hkept => hsame ▸ hkept)
  · cases notice with
    | confirmed =>
      exact h.call (.markSubmitted launchId') trivial
        (fun _ _ _ he => by cases he) hcall hlive rfl rfl
    | ambiguous =>
      exact h.call (.markReconciliationRequired launchId') trivial
        (fun _ _ _ he => by cases he) hcall
        hlive rfl rfl
    | rejected =>
      cases hrisky : submission.decision.riskClass.isRiskIncreasing with
      | false =>
        have hsame : onOrderSubmissionResult (planned submission) .rejected s.runtime =
            s.runtime := by
          simp [onOrderSubmissionResult, planned, hrisky]
        rw [hsame]
        exact h
      | true =>
        have hempty := h.rejecting _ _ hflight rfl (by simp) hrisky
        refine h.of_world (hcall ▸ allInv_step _ _ h.inv)
          (hcall ▸ scoped_step _ _ h.scope) hlive rfl
          (fun _ hm => hm) (fun other hmem _ => ?_) (fun f other hf hpending _ _ => ?_)
        · simp only [hempty] at hmem
          cases hmem
        · rw [hflight] at hf
          cases hf
          cases hpending

theorem safe_report {s : State} (h : Safe s) : Safe (step s .report).2 := by
  simp only [step]
  split
  · rename_i submission launchId notice pending hflight
    have hworld :
        Safe { s with runtime := onOrderSubmissionResult (planned submission) notice s.runtime } :=
      safe_result h hflight
    refine ⟨hworld.inv, hworld.scope, hworld.live, hworld.held, ?_, ?_, ?_⟩
    · intro f hf hpending
      cases hf
      cases hpending
    · intro f hf hrisky
      cases hf
      exact h.reducing ⟨submission, launchId, some (notice :: pending)⟩ hflight hrisky
    · intro f rest hf hpending hmem hrisky
      cases hf
      cases hpending
      exact h.rejecting _ _ hflight rfl (List.mem_cons_of_mem _ hmem) hrisky
  · refine ⟨h.inv, h.scope, h.live, h.held, ?_, ?_, ?_⟩ <;> intro f <;> intros <;> contradiction
  · exact h

/-! ### Runs -/

theorem safe_step (s : State) (act : Act) (h : Safe s) (hmeets : Meets s act) :
    Safe (step s act).2 := by
  cases act with
  | control c => exact safe_control h hmeets
  | reconcile inSync =>
    simp only [step, triggerReconciliation]
    split
    · rename_i launchId hlaunch
      exact h.call (.markReconciled launchId) trivial
        (fun _ _ _ he => by cases he) rfl h.live rfl rfl
    · exact h
  | adopt session => exact ⟨h.inv, h.scope, h.live, h.held, h.sending, h.reducing, h.rejecting⟩
  | setKillSwitch active =>
    exact ⟨h.inv, h.scope, h.live, h.held, h.sending, h.reducing, h.rejecting⟩
  | reserve submission durable => exact safe_reserve h submission durable
  | fence =>
    simp only [step]
    split
    · rename_i submission launchId hflight
      refine ⟨h.inv, h.scope, h.live, h.held, ?_, ?_, ?_⟩
      · intro f hf hpending
        cases hf
        cases hpending
      · intro f hf hrisky
        cases hf
        exact h.reducing ⟨submission, launchId, none⟩ hflight hrisky
      · intro f pending hf hpending hmem hrisky
        cases hf
        exact (h.sending _ hflight rfl hrisky).1
    · exact h
  | post accepted answer verified resolved => exact safe_post h hmeets
  | report => exact safe_report h
  | drop =>
    refine ⟨h.inv, h.scope, h.live, h.held, ?_, ?_, ?_⟩ <;> intro f <;> intros <;> contradiction

/-- **One order before the review**: in every run in which no order that the exchange took is read
as rejected and no creation closes a session under its order, a risk-increasing order is sent only
if no staged launch has an order at the exchange that was not reviewed. -/
theorem one_unreviewed_order {acts : List Act} (hmeets : Admitted step Meets start acts)
    {before : State} {act : Act} (hstep : StepOf step start acts before act)
    {submission : Submission} (hsent : (step before act).1 = some submission)
    (hrisky : submission.decision.riskClass.isRiskIncreasing = true) : before.unreviewed = [] := by
  have hsafe := (run_steps safe_step safe_start hmeets hstep).1
  cases act with
  | post accepted answer verified resolved =>
    simp only [step] at hsent
    split at hsent
    · rename_i submission' launchId hflight
      cases hsent
      exact (hsafe.sending _ hflight rfl hrisky).1
    · cases hsent
  | fence =>
    simp only [step] at hsent
    split at hsent <;> cases hsent
  | report =>
    simp only [step] at hsent
    split at hsent <;> cases hsent
  | _ => cases hsent

theorem orderId_ne : "BAI-000000000000-0-1" ≠ "" := by decide

/-- An order of the launch. -/
def sampleSubmission : Submission where
  intent := {
    clientOrderId := "I1", symbol := "ETHUSDC", side := .buy, positionSide := .both,
    orderType := "LIMIT",
    timeInForce := .gtc, quantity := ⟨false, 1, -2⟩, price := some ⟨false, 3000, 0⟩ }
  prepared :=
    ⟨"ETHUSDC", "LIMIT", ⟨false, 1, -2⟩, some ⟨false, 3000, 0⟩, ⟨false, 3000, 0⟩, ⟨false, 30, 0⟩⟩
  clientOrderId := ⟨"BAI-000000000000-0-1", orderId_ne⟩
  decision := {
    decisionId := "D1", symbol := "ETHUSDC", action := "OPEN", riskClass := .newRisk,
    orders := [] }

/-- The response of the exchange to it. -/
def sampleResponse (status : String) : Json :=
  .obj [("orderId", .int 1), ("symbol", .str "ETHUSDC"), ("status", .str status),
    ("clientOrderId", .str "BAI-000000000000-0-1"), ("origQty", .str "0.01"),
    ("price", .str "3000")]

/-- Create a launch and make it the Worker's. -/
def launch (launchId approvalId : String) : List Act :=
  [.control (.create ⟨launchId, approvalId, sampleDigest, "ETHUSDC", "STAGED_FIRST_ORDER", 1⟩),
    .control (.resume 0), .control (.resume 0), .control (.resume 0), .control (.resume 0),
    .adopt (some (CreateArgs.row ⟨launchId, approvalId, sampleDigest, "ETHUSDC",
      "STAGED_FIRST_ORDER", 1⟩))]

/-- The first order of a launch is confirmed and reviewed. -/
def reviewedRun : List Act :=
  launch "L1" "A1" ++ [.reserve sampleSubmission true,
    .post true (.ok (sampleResponse "NEW")) true false,
    .report, .report, .control (.activateAutonomous "L1" "C1" sampleDigest),
    .reserve sampleSubmission true]

/-- The state in front of the second order is reached, the order is sent, and none is unreviewed. -/
theorem one_unreviewed_order_reviewed :
    (step (run step start reviewedRun).2
      (.post true (.ok (sampleResponse "NEW")) true false)).1.isSome ∧
      (run step start reviewedRun).2.unreviewed = [] := by
  have hmeets : Admitted step Meets start
      (reviewedRun ++ [.post true (.ok (sampleResponse "NEW")) true false]) := by
    decide +kernel
  have hsome : (step (run step start reviewedRun).2
      (.post true (.ok (sampleResponse "NEW")) true false)).1.isSome = true := by
    decide +kernel
  obtain ⟨submission, hsent⟩ := Option.isSome_iff_exists.mp hsome
  have hrisky : (step (run step start reviewedRun).2
      (.post true (.ok (sampleResponse "NEW")) true false)).1.all
        (fun s => s.decision.riskClass.isRiskIncreasing) = true := by
    decide +kernel
  rw [hsent] at hrisky
  exact ⟨hsome, one_unreviewed_order hmeets ⟨reviewedRun, [], rfl, rfl⟩ hsent hrisky⟩

/-- The response to the first order is lost, a launch with another approval closes its session, and
a second order is sent. -/
def lostResponseRun : List Act :=
  launch "L1" "A1" ++ [.reserve sampleSubmission true,
    .post true (.error (.transportAmbiguity "timeout")) false false, .report, .report] ++
  launch "L2" "A2" ++ [.reserve sampleSubmission true]

/-- The first order was executed in part and has expired, and the same session sends a second
one. -/
def expiredRun : List Act :=
  launch "L1" "A1" ++ [.reserve sampleSubmission true,
    .post true (.ok (sampleResponse "EXPIRED")) false false, .report, .report,
    .reserve sampleSubmission true]

theorem second_order_sent :
    ((run step start lostResponseRun).2.unreviewed = ["L1"] ∧
      (step (run step start lostResponseRun).2
        (.post true (.ok (sampleResponse "NEW")) true false)).1.any
          (fun s => s.decision.riskClass.isRiskIncreasing) = true) ∧
    (run step start expiredRun).2.unreviewed = ["L1"] ∧
      (step (run step start expiredRun).2
        (.post true (.ok (sampleResponse "NEW")) true false)).1.any
          (fun s => s.decision.riskClass.isRiskIncreasing) = true := by
  decide +kernel

end Blessing.Launch.OneOrder
