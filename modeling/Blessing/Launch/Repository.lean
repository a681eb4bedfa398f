import Blessing.Lib.Machine
import Blessing.Lib.Table
import Blessing.Lib.Text

/-! # Mainnet launch sessions

The table `mainnet_launch_sessions` of `init_schema.sql` and the launch methods of
`PersistenceRepository` in `persistence/postgres/repositories.py`. A statement is its `WHERE` clause
and its `SET` clause; the database commits what a statement leaves behind only if every constraint
of the table holds of it. `create_mainnet_launch_session` is four statements, and the statements of
other workers may come between them.

The timestamp columns, which no statement reads, and the bounds of the column types are left out. -/

namespace Blessing.Launch.Repository

open Blessing.Lib Blessing.Lib.Table

/-! ### The table -/

inductive Policy where
  | stagedFirstOrder
  | autonomousAfterReview
  deriving DecidableEq, Repr

inductive SessionState where
  | active
  | pausedNewRisk
  | reconciliationRequired
  | autonomousActive
  | reauthRequired
  | closed
  deriving DecidableEq, Repr

/-- A row of `mainnet_launch_sessions`. -/
structure Session where
  launchId : String
  approvalId : String
  imageDigest : String
  symbol : String
  policy : Policy
  maxRiskIncreasingOrders : Option ℤ
  reservedOrders : ℤ
  submittedOrders : ℤ
  state : SessionState
  continuationApprovalId : Option String
  deriving DecidableEq

/-- The `CHECK` constraints of a row. -/
def Session.Checked (r : Session) : Prop :=
  (r.policy = .stagedFirstOrder ∧ r.maxRiskIncreasingOrders = some 1 ∨
    r.policy = .autonomousAfterReview ∧ r.maxRiskIncreasingOrders = none) ∧
  (0 ≤ r.reservedOrders ∧ ∀ n ∈ r.maxRiskIncreasingOrders, r.reservedOrders ≤ n) ∧
  (0 ≤ r.submittedOrders ∧ ∀ n ∈ r.maxRiskIncreasingOrders, r.submittedOrders ≤ n)

instance (r : Session) : Decidable r.Checked := by unfold Session.Checked; infer_instance

/-- The constraints of the table: the primary key, the unique column, the unique index on the
symbols of the sessions that are not closed, the unique index on the continuation approvals, and the
checks. -/
structure Valid (rows : List Session) : Prop where
  launch : (rows.map Session.launchId).Nodup
  approval : (rows.map Session.approvalId).Nodup
  oneActive : ((rows.filter fun r => r.state ≠ .closed).map Session.symbol).Nodup
  continuation : (rows.filterMap Session.continuationApprovalId).Nodup
  checked : ∀ r ∈ rows, r.Checked

instance (rows : List Session) : Decidable (Valid rows) :=
  decidable_of_iff ((rows.map Session.launchId).Nodup ∧ (rows.map Session.approvalId).Nodup ∧
      ((rows.filter fun r => r.state ≠ .closed).map Session.symbol).Nodup ∧
      (rows.filterMap Session.continuationApprovalId).Nodup ∧ ∀ r ∈ rows, r.Checked)
    ⟨fun ⟨h1, h2, h3, h4, h5⟩ => ⟨h1, h2, h3, h4, h5⟩,
      fun ⟨h1, h2, h3, h4, h5⟩ => ⟨h1, h2, h3, h4, h5⟩⟩

/-- The table. -/
structure Sessions where
  rows : List Session
  valid : Valid rows

/-- The empty table. -/
def empty : Sessions := ⟨[], by decide⟩

/-- The session of a launch. -/
def Sessions.get (t : Sessions) (launchId : String) : Option Session :=
  lookup Session.launchId launchId t.rows

/-! ### Statements -/

/-- The `UPDATE` statements. `closeOthers` is the first statement of
`create_mainnet_launch_session`. -/
inductive Statement where
  | closeOthers (symbol approvalId : String)
  | reserve (launchId : String)
  | releaseReservation (launchId : String)
  | markSubmitted (launchId : String)
  | markReconciliationRequired (launchId : String)
  | markReconciled (launchId : String)
  | activateAutonomous (launchId continuationApprovalId imageDigest : String)
  | markReauthRequired (symbol : String)
  deriving DecidableEq

/-- The `WHERE` clause. -/
def Statement.selects (st : Statement) (r : Session) : Bool :=
  match st with
  | .closeOthers symbol approvalId =>
    r.symbol = symbol && r.approvalId ≠ approvalId &&
      [SessionState.active, .pausedNewRisk, .reconciliationRequired,
        .reauthRequired].contains r.state &&
      r.submittedOrders = 0
  | .reserve launchId =>
    r.launchId = launchId &&
      ((r.policy = .stagedFirstOrder && r.state = .active && r.submittedOrders = 0 &&
          r.maxRiskIncreasingOrders.any (r.reservedOrders < ·)) ||
        (r.policy = .autonomousAfterReview && r.state = .autonomousActive))
  | .releaseReservation launchId =>
    r.launchId = launchId && [SessionState.active, .autonomousActive].contains r.state &&
      r.submittedOrders < r.reservedOrders
  | .markSubmitted launchId =>
    r.launchId = launchId && [SessionState.active, .autonomousActive].contains r.state &&
      r.submittedOrders < r.reservedOrders && r.maxRiskIncreasingOrders.all (r.submittedOrders < ·)
  | .markReconciliationRequired launchId =>
    r.launchId = launchId && [SessionState.active, .pausedNewRisk,
      .autonomousActive].contains r.state
  | .markReconciled launchId =>
    r.launchId = launchId && r.state = .reconciliationRequired && 1 ≤ r.submittedOrders &&
      r.submittedOrders ≤ r.reservedOrders
  | .activateAutonomous launchId _ imageDigest =>
    r.launchId = launchId && r.imageDigest = imageDigest && r.symbol = "ETHUSDC" &&
      ((r.policy = .stagedFirstOrder && r.state = .pausedNewRisk && r.submittedOrders = 1 &&
          r.submittedOrders ≤ r.reservedOrders && r.continuationApprovalId.isNone) ||
        (r.policy = .autonomousAfterReview && r.state = .reauthRequired && 1 ≤ r.submittedOrders))
  | .markReauthRequired symbol =>
    r.symbol = Text.upper symbol && r.policy = .autonomousAfterReview && r.state = .autonomousActive

/-- The `SET` clause. -/
def Statement.changes (st : Statement) (r : Session) : Session :=
  match st with
  | .closeOthers _ _ => { r with state := .closed }
  | .reserve _ => { r with reservedOrders := r.reservedOrders + 1 }
  | .releaseReservation _ => { r with reservedOrders := r.reservedOrders - 1 }
  | .markSubmitted _ =>
    { r with
      submittedOrders := r.submittedOrders + 1
      state := if r.policy = .stagedFirstOrder then .pausedNewRisk else .autonomousActive }
  | .markReconciliationRequired _ => { r with state := .reconciliationRequired }
  | .markReconciled _ =>
    { r with state := if r.policy = .stagedFirstOrder then .pausedNewRisk else .reauthRequired }
  | .activateAutonomous _ continuationApprovalId _ =>
    { r with
      policy := .autonomousAfterReview
      maxRiskIncreasingOrders := none
      continuationApprovalId := some continuationApprovalId
      state := .autonomousActive }
  | .markReauthRequired _ => { r with state := .reauthRequired }

/-- Run a statement: the number of rows it changed, or nothing where it violates a constraint. -/
def Sessions.exec (t : Sessions) (st : Statement) : Option (ℕ × Sessions) :=
  let rows := update st.selects st.changes t.rows
  if h : Valid rows then some (t.rows.countP st.selects, ⟨rows, h⟩) else none

/-- `INSERT … ON CONFLICT (approval_id) DO NOTHING`; nothing where it violates another
constraint. -/
def Sessions.insert (t : Sessions) (r : Session) : Option Sessions :=
  if t.rows.any fun r' => r'.approvalId = r.approvalId then some t
  else if h : Valid (t.rows ++ [r]) then some ⟨t.rows ++ [r], h⟩ else none

/-! ### Creating a session -/

/-- The arguments of `create_mainnet_launch_session`. -/
structure CreateArgs where
  launchId : String
  approvalId : String
  imageDigest : String
  symbol : String := "ETHUSDC"
  policy : String := "STAGED_FIRST_ORDER"
  maxRiskIncreasingOrders : ℤ := 1
  deriving DecidableEq

/-- `[0-9a-f]` without case. -/
def isHex (c : Char) : Bool := c.isDigit || ('a' ≤ c && c ≤ 'f') || ('A' ≤ c && c ≤ 'F')

/-- A letter of the pattern without case; the long s is a lower-case s then. -/
def sameLetter (pattern c : Char) : Bool :=
  pattern == c || pattern == c.toLower || (pattern == 's' && c == 'ſ')

/-- `_IMMUTABLE_IMAGE_RE.fullmatch`: `.+@sha256:[0-9a-f]{64}` without case. -/
def immutableImage (imageDigest : String) : Bool :=
  let cs := imageDigest.toList
  let name := cs.take (cs.length - 72)
  let algorithm := (cs.drop (cs.length - 72)).take 8
  let digest := (cs.drop (cs.length - 72)).drop 8
  72 < cs.length && !name.contains '\n' &&
    (List.zipWith sameLetter "@sha256:".toList algorithm).all id && digest.all isHex

/-- The checks in front of the statements. -/
def CreateArgs.check (args : CreateArgs) : Except String Unit :=
  if args.launchId = "" ∨ args.approvalId = "" ∨ args.imageDigest = "" then
    .error "launch session identity is incomplete"
  else if !immutableImage args.imageDigest then
    .error "launch session requires an immutable image digest"
  else if Text.upper args.symbol ≠ "ETHUSDC" ∨ args.policy ≠ "STAGED_FIRST_ORDER" then
    .error "Mainnet launch session is bounded to ETHUSDC staged launch"
  else if args.maxRiskIncreasingOrders ≠ 1 then
    .error "Mainnet staged launch permits exactly one risk-increasing order"
  else .ok ()

/-- The row of a new session. -/
def CreateArgs.row (args : CreateArgs) : Session where
  launchId := args.launchId
  approvalId := args.approvalId
  imageDigest := args.imageDigest
  symbol := Text.upper args.symbol
  policy := .stagedFirstOrder
  maxRiskIncreasingOrders := some args.maxRiskIncreasingOrders
  reservedOrders := 0
  submittedOrders := 0
  state := .active
  continuationApprovalId := none

/-- The session that another approval must wait for. -/
def unreviewed (args : CreateArgs) (r : Session) : Bool :=
  r.symbol = Text.upper args.symbol && r.approvalId ≠ args.approvalId && r.state ≠ .closed &&
    0 < r.submittedOrders

/-- The statement a creation is at. -/
inductive Stage where
  | close
  | check
  | insert
  | read
  deriving DecidableEq

/-- A call of `create_mainnet_launch_session` between two statements. -/
structure Creating where
  args : CreateArgs
  stage : Stage
  deriving DecidableEq

/-- What a call returns or raises. -/
inductive Outcome where
  | waits
  | raised (message : String)
  | session (row : Session)
  | none
  | bool (b : Bool)
  | count (n : ℕ)
  deriving DecidableEq

/-- The table and the calls between two statements. -/
structure World where
  sessions : Sessions
  creating : List Creating

/-- An empty table. -/
def start : World := ⟨empty, []⟩

/-- The next statement of a creation. -/
def World.create (w : World) (c : Creating) : Outcome × World :=
  let next (stage : Stage) (sessions : Sessions) : Outcome × World :=
    (.waits, ⟨sessions, w.creating ++ [⟨c.args, stage⟩]⟩)
  match c.stage with
  | .close =>
    match w.sessions.exec (.closeOthers (Text.upper c.args.symbol) c.args.approvalId) with
    | Option.none => (.raised "constraint violated", w)
    | some (_, sessions) => next .check sessions
  | .check =>
    match w.sessions.rows.find? (unreviewed c.args) with
    | some r =>
      (.raised ("existing session " ++ r.launchId ++ " has a submitted order pending review"), w)
    | Option.none => next .insert w.sessions
  | .insert =>
    match w.sessions.insert c.args.row with
    | Option.none => (.raised "existing session has a submitted order pending review", w)
    | some sessions => next .read sessions
  | .read =>
    match w.sessions.rows.find? fun r => r.approvalId = c.args.approvalId with
    | Option.none => (.raised "mainnet launch session could not be read after creation", w)
    | some r =>
      if r.launchId ≠ c.args.launchId ∨ r.imageDigest ≠ c.args.imageDigest ∨
          Text.upper r.symbol ≠ Text.upper c.args.symbol ∨ r.policy ≠ .stagedFirstOrder then
        (.raised "existing launch session does not match release approval", w)
      else (.session r, w)

/-- What happens to the table. A `closeOthers` on its own is a creation whose process ends there. -/
inductive Event where
  | create (args : CreateArgs)
  | resume (index : ℕ)
  | call (st : Statement)
  deriving DecidableEq

/-- The arguments a method refuses before its statement. -/
def Statement.refused : Statement → Option String
  | .activateAutonomous launchId continuationApprovalId imageDigest =>
    if launchId = "" ∨ continuationApprovalId = "" then
      some "autonomous continuation identity is incomplete"
    else if !immutableImage imageDigest then
      some "autonomous continuation requires an immutable image digest"
    else Option.none
  | _ => Option.none

/-- What the method of a statement makes of the rows it changed. -/
def Statement.answer (st : Statement) (changed : ℕ) (t : Sessions) : Outcome :=
  match st with
  | .activateAutonomous launchId _ _ =>
    if changed = 0 then .none else ((t.get launchId).map Outcome.session).getD .none
  | .markReauthRequired _ | .closeOthers _ _ => .count changed
  | _ => .bool (0 < changed)

/-- One event. -/
def step (w : World) : Event → Outcome × World
  | .create args =>
    match args.check with
    | .error message => (.raised message, w)
    | .ok () => (.waits, { w with creating := w.creating ++ [⟨args, .close⟩] })
  | .resume index =>
    match w.creating[index]? with
    | Option.none => (.waits, w)
    | some c => World.create { w with creating := w.creating.eraseIdx index } c
  | .call st =>
    match st.refused with
    | some message => (.raised message, w)
    | Option.none =>
      match w.sessions.exec st with
      | Option.none => (.raised "constraint violated", w)
      | some (changed, sessions) => (st.answer changed sessions, { w with sessions })

/-- An image of the worker. -/
def sampleDigest : String :=
  "worker@sha256:0123456789abcdef0123456789abcdef0123456789abcdef0123456789abcdef"

/-- A launch up to its first order. -/
def launched : List Event :=
  [.create ⟨"L1", "A1", sampleDigest, "ETHUSDC", "STAGED_FIRST_ORDER", 1⟩, .resume 0,
    .resume 0, .resume 0, .resume 0, .call (.reserve "L1"), .call (.markSubmitted "L1")]

/-! ### One session -/

theorem changes_launchId (st : Statement) (r : Session) : (st.changes r).launchId = r.launchId := by
  cases st <;> rfl

theorem get_exec {t t' : Sessions} {st : Statement} {n : ℕ} (h : t.exec st = some (n, t'))
    (launchId : String) :
    t'.get launchId = (t.get launchId).map fun r => if st.selects r then st.changes r else r := by
  unfold Sessions.exec at h
  simp only at h
  split_ifs at h
  cases h
  exact lookup_update (changes_launchId st)

theorem exec_count {t t' : Sessions} {st : Statement} {n : ℕ} (h : t.exec st = some (n, t')) :
    n = t.rows.countP st.selects := by
  unfold Sessions.exec at h
  simp only at h
  split_ifs at h
  cases h
  rfl

/-- A statement that selects nothing is run and changes nothing. -/
theorem exec_none {t : Sessions} {st : Statement} (h : ∀ r ∈ t.rows, st.selects r = false) :
    t.exec st = some (0, t) := by
  have hrows : update st.selects st.changes t.rows = t.rows :=
    (List.map_congr_left fun r hr => by simp [h r hr]).trans (List.map_id t.rows)
  have hcount : t.rows.countP st.selects = 0 := List.countP_eq_zero.mpr fun r hr => by simp [h r hr]
  unfold Sessions.exec
  simp only [hrows, dif_pos t.valid, hcount]

theorem get_insert {t t' : Sessions} {r : Session} (h : t.insert r = some t') (launchId : String) :
    t'.get launchId = t.get launchId ∨
      launchId = r.launchId ∧ t.get launchId = none ∧ t'.get launchId = some r := by
  unfold Sessions.insert at h
  split_ifs at h with hconflict hvalid
  · cases h
    exact .inl rfl
  · cases h
    by_cases hid : r.launchId = launchId
    · have hnone : t.get launchId = none := by
        refine lookup_eq_none.mpr fun r' hr' he => ?_
        have hnodup := hvalid.launch
        rw [List.map_append, List.nodup_append] at hnodup
        exact hnodup.2.2 _ (List.mem_map_of_mem hr') r.launchId (by simp) (he.trans hid.symm)
      refine .inr ⟨hid.symm, hnone, ?_⟩
      change lookup Session.launchId launchId (t.rows ++ [r]) = some r
      rw [lookup_append, show lookup Session.launchId launchId t.rows = none from
        hnone, lookup_cons, if_pos hid]
      rfl
    · left
      change lookup Session.launchId launchId (t.rows ++ [r]) = _
      rw [lookup_append, lookup_cons, if_neg hid]
      simp [lookup, Sessions.get]

/-- The event runs the statement: as a call, or as the first statement of a creation. -/
def Event.Runs (event : Event) (st : Statement) : Prop :=
  event = .call st ∨ (∃ index, event = .resume index) ∧
  ∃ symbol approvalId, st = .closeOthers symbol approvalId

/-- What an event does to the session of a launch. -/
inductive Moves (event : Event) : Option Session → Option Session → Prop
  | same (r : Option Session) : Moves event r r
  | changed {st : Statement} {r : Session} (hruns : event.Runs st)
    (hselects : st.selects r = true) :
      Moves event (some r) (some (st.changes r))
  | inserted (args : CreateArgs) : Moves event none (some args.row)

theorem moves_exec {t t' : Sessions} {st : Statement} {n : ℕ} {event : Event}
    (hruns : event.Runs st) (h : t.exec st = some (n, t')) (launchId : String) :
    Moves event (t.get launchId) (t'.get launchId) := by
  rw [get_exec h]
  cases t.get launchId with
  | none => exact .same none
  | some r =>
    rw [Option.map_some]
    split_ifs with hselects
    · exact .changed hruns hselects
    · exact .same _

theorem moves_create (w : World) (c : Creating) (index : ℕ) (launchId : String) :
    Moves (.resume index) (w.sessions.get launchId) ((w.create c).2.sessions.get launchId) := by
  unfold World.create
  cases hstage : c.stage with
  | close =>
    simp only
    split
    · exact .same _
    · rename_i hexec
      exact moves_exec (.inr ⟨⟨index, rfl⟩, _, _, rfl⟩) hexec launchId
  | check =>
    simp only
    split <;> exact .same _
  | insert =>
    simp only
    split
    · exact .same _
    · rename_i hinsert
      rcases get_insert hinsert launchId with hsame | ⟨-, hnone, hsome⟩
      · simp only [hsame]
        exact .same _
      · simp only [hnone, hsome]
        exact .inserted c.args
  | read =>
    simp only
    split
    · exact .same _
    · split_ifs <;> exact .same _

theorem moves_step (w : World) (event : Event) (launchId : String) :
    Moves event (w.sessions.get launchId) ((step w event).2.sessions.get launchId) := by
  cases event with
  | create args =>
    simp only [step]
    split <;> exact .same _
  | resume index =>
    simp only [step]
    split
    · exact .same _
    · exact moves_create { w with creating := w.creating.eraseIdx index } _ index launchId
  | call st =>
    simp only [step]
    split
    · exact .same _
    · split
      · exact .same _
      · rename_i hexec
        exact moves_exec (.inl rfl) hexec launchId

end Blessing.Launch.Repository
