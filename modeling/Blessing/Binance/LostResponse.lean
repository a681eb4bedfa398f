import Blessing.Binance.Adapter
import Blessing.Lib.Handlers

/-! # A lost response

One order of `_execute_decision` in two runs from one state: the `POST` returns the record of the
order in the first one; in the second one its response is lost, and the query of
`_resolve_ambiguous_order` returns that record. What answers an adapter is a part of the state and
the same in both runs.

* `outcome`: what a run leaves behind for the order.
* `lost_response_iff`: when both runs leave the same behind. An order that has already ended is
  rejected in the first run, and executed in the second one. -/

namespace Blessing.Binance.LostResponse

open Blessing.Lib Blessing.Lib.Values Blessing.Lib.Coroutine Blessing.Lib.Handlers
open Blessing.Binance.Models Blessing.Binance.Ledger Blessing.Binance.Recovery
open Blessing.Binance.Orders Blessing.Binance.Emergency Blessing.Binance.Adapter

/-! ### Runs -/

/-- What the recovery of fills and the reconciliation read and change: the ledger, the exchange, and
whether the authentication is still valid. -/
structure Books (β : Type) where
  ledger : InMemoryLedger
  exchange : β
  valid : Bool

/-- What answers an adapter: the exchange and the Worker, with states of their own. -/
structure Surroundings (β ω : Type) where
  recover : ExecutionOrder → Json → Books β → Except Exn Unit × Books β
  reconcile : Books β → Except Exn Status × Books β
  healthy : β → Bool
  authenticated : β → Bool
  hedgeMode : Bool
  callback : ExecutionOrder → Notice → ω → Except Exn Unit × ω
  barrierInstalled : Bool
  barrier : ExecutionOrder → ω → Except Exn Bool × ω
  lease : EconomicRiskClass → ω → Except Exn Unit × ω
  /-- what the submission of an order does not ask -/
  other : (q : Ask) → q.Answer

/-- A run: the books, the Worker, the state of the adapter, what the Worker was told, the answer to
the `POST`, and the answers to the queries for the order. -/
structure Run (β ω : Type) where
  books : Books β
  worker : ω
  state : ConnectionState
  notices : List (ClientOrderId × Notice)
  post : Except Exn Json
  queries : List (Except Exn Json)

section

variable {β ω : Type} (E : Surroundings β ω)

/-- The exchange can be relied on. -/
def ready (b : Books β) : Bool := E.healthy b.exchange && (b.valid && E.authenticated b.exchange)

/-- What the adapter asks; nothing reads the last status of the reconciliation here. -/
def asked : (q : Ask) → Run β ω → q.Answer × Run β ω
  | .state, w => (w.state, w)
  | .setState state, w => ((), { w with state })
  | .setLastStatusUnknown, w => ((), w)
  | .invalidateAuthentication, w =>
    ((), { w with state := .degraded, books := { w.books with valid := false } })
  | .privateStreamHealthy, w => (E.healthy w.books.exchange, w)
  | .authenticated, w => (w.books.valid && E.authenticated w.books.exchange, w)
  | .reconcile, w => ((E.reconcile w.books).1, { w with books := (E.reconcile w.books).2 })
  | .recoverOrderFills order response, w => ((E.recover order response w.books).1,
    { w with books := (E.recover order response w.books).2 })
  | .request _, w => (w.queries.headD (.error (.value "")), { w with queries := w.queries.tail })
  | .notify order notice, w => ((E.callback order notice w.worker).1,
    { w with worker := (E.callback order notice w.worker).2
             notices := w.notices ++ [(order.clientOrderId, notice)] })
  | .upsertOrder order, w =>
    ((), { w with books := { w.books with ledger := Ledger.upsertOrder order w.books.ledger } })
  | .hedgeMode, w => (E.hedgeMode, w)
  | .barrierInstalled, w => (E.barrierInstalled, w)
  | .barrier order, w =>
    ((E.barrier order w.worker).1, { w with worker := (E.barrier order w.worker).2 })
  | .executionLease risk, w =>
    ((E.lease risk w.worker).1, { w with worker := (E.lease risk w.worker).2 })
  | q, w => (E.other q, w)

/-- The environment of the adapter; the kill switch is not active. -/
def environment : Handler Ask Ask.Answer Mutation (Except Exn Json) (Run β ω) where
  ask := asked E
  flag w := (false, w)
  send _ w := (w.post, w)

/-! ### What a run leaves behind -/

/-- What the Worker was told last about an order. -/
def lastNotice (id : ClientOrderId) (notices : List (ClientOrderId × Notice)) : Option Notice :=
  ((notices.filter fun n => n.1 = id).getLast?).map Prod.snd

/-- What a run leaves behind for an order: its record, the last notice about it, and whether it is
in the list of executed orders. -/
structure Outcome where
  record : Option ExecutionOrder
  notice : Option Notice
  executed : Bool
  deriving DecidableEq

/-- The order is in the list of executed orders. -/
def isExecuted : Except Exn (Option Executed) → Bool
  | .ok (some _) => true
  | _ => false

/-- The outcome of the result and the end of a run. -/
def outcomeOf (s : Submission) (r : Except Exn (Option Executed)) (w : Run β ω) : Outcome where
  record := record w.books.ledger s.clientOrderId
  notice := lastNotice s.clientOrderId w.notices
  executed := isExecuted r

/-- The outcome of an order. -/
def outcome (c : Config) (s : Submission) (w : Run β ω) : Outcome :=
  outcomeOf s (perform (environment E) (submitOrder c s).run w).1
    (perform (environment E) (submitOrder c s).run w).2

/-- The run in which the `POST` returns the record. -/
def received (r : Json) (w : Run β ω) : Run β ω := { w with post := .ok r }

/-- The run in which the response is lost: the order is not known to some queries, the next one
returns its record. -/
def lost (reason : String) (misses : List String) (r : Json) (w : Run β ω) : Run β ω :=
  { w with post := .error (.transportAmbiguity reason)
           queries := misses.map (fun m => .error (.definitiveRejection (-2013) m)) ++ [.ok r] }

/-- The fills of an order, if it has any. -/
def recovered (order : ExecutionOrder) (r : Json) (b : Books β) : Except Exn Unit × Books β :=
  if isFilled order then E.recover order r b else (.ok (), b)

/-- `except BinanceAuthenticationError` -/
def isAuthentication : Exn → Bool
  | .authentication .. => true
  | _ => false

/-- If the recovery of the fills raises, reconciliation leaves the record of the order as it is. -/
def KeepsRecord (order : ExecutionOrder) (r : Json) (b : Books β) : Prop :=
  ∀ e, (recovered E order r b).1 = .error e → isAuthentication e = false →
    record (E.reconcile (recovered E order r b).2).2.ledger order.clientOrderId =
      record (recovered E order r b).2.ledger order.clientOrderId

end

section

variable {β ω : Type} {E : Surroundings β ω} {A : Type} {w : Run β ω}

/-! ### The steps -/

/-- The books and the queries stay as they are, and the Worker was told something. -/
structure Noted (w v : Run β ω) (id : ClientOrderId) (notice : Notice) : Prop where
  books : v.books = w.books
  queries : v.queries = w.queries
  notices : v.notices = w.notices ++ [(id, notice)]

theorem ends_notify_bind {order : ExecutionOrder} {notice : Notice} {f : Unit → Prog A}
    {P : Except Exn A → Run β ω → Prop}
    (h : ∀ v, Noted w v order.clientOrderId notice → Ends (environment E) (f ()) v P) :
    Ends (environment E) (notify order notice >>= f) w P := by
  refine ends_bind.mpr ?_
  unfold notify
  refine ends_ask_bind.mpr ?_
  cases ((environment E).ask (.notify order notice) w).1 with
  | ok => exact h _ ⟨rfl, rfl, rfl⟩
  | error e => exact ends_ask_bind.mpr (ends_ask.mpr (h _ ⟨rfl, rfl, rfl⟩))

theorem ends_verified_bind {f : Bool → Prog A} {P : Except Exn A → Run β ω → Prop}
    (h : Ends (environment E) (f (ready E w.books)) w P) :
    Ends (environment E) (verified .inSync >>= f) w P := by
  refine ends_bind.mpr ?_
  change Ends (environment E)
    (privateStreamHealthy >>= fun healthy => if !healthy then pure false else authenticated) w _
  refine ends_ask_bind.mpr ?_
  unfold ready at h
  change Ends (environment E) (if !(E.healthy w.books.exchange) then pure false
    else authenticated) w _
  cases hhealthy : E.healthy w.books.exchange with
  | false =>
    rw [hhealthy] at h
    exact h
  | true =>
    rw [hhealthy] at h
    exact h

/-- The run goes on with these books. -/
def withBooks (w : Run β ω) (b : Books β) : Run β ω := { w with books := b }

theorem ends_reconcile (hsync : ∀ b, (E.reconcile b).1 = .ok .inSync)
    {P : Except Exn Status → Run β ω → Prop}
    (h : P (.ok .inSync) (withBooks w (E.reconcile w.books).2)) :
    Ends (environment E) reconcile w P := by
  unfold reconcile
  refine ends_ask_bind.mpr ?_
  change P (E.reconcile w.books).1 _
  rw [hsync]
  exact h

theorem ends_recoverFills {order : ExecutionOrder} {r : Json} {answer : Except Exn Unit}
    {b : Books β} (hrecover : E.recover order r w.books = (answer, b))
    {P : Except Exn Unit → Run β ω → Prop} (h : P answer (withBooks w b)) :
    Ends (environment E) (recoverFills order r) w P := by
  unfold recoverFills
  refine ends_ask_bind.mpr ?_
  change P (E.recover order r w.books).1 (withBooks w (E.recover order r w.books).2)
  rw [hrecover]
  exact h

theorem ends_settle_bind {good : Bool} {f : Unit → Prog A} {P : Except Exn A → Run β ω → Prop}
    (h : Ends (environment E) (f ()) { w with state := if good then .ready else .degraded } P) :
    Ends (environment E) (settle good >>= f) w P := ends_ask_bind.mpr h

theorem ends_whenReady {good : Bool} (hstate : w.state = if good then .ready else .degraded)
    {x y : Prog A} {P : Except Exn A → Run β ω → Prop}
    (h : Ends (environment E) (if good then x else y) w P) :
    Ends (environment E) (state >>= fun s => if s = .ready then x else y) w P := by
  refine ends_ask_bind.mpr ?_
  change Ends (environment E) (if w.state = .ready then x else y) w P
  rw [hstate]
  cases good with
  | true => exact h
  | false => exact h

/-! ### The first run -/

/-- What the first run makes of its response. -/
structure Followed (E : Surroundings β ω) (order : ExecutionOrder) (r : Json) (b : Books β)
    (notices : List (ClientOrderId × Notice)) (v : Run β ω) (good : Bool) : Prop where
  notices : v.notices = notices
  books : v.books = match recovered E order r b with
    | (.ok (), b) => (E.reconcile b).2
    | (.error e, b) => if isAuthentication e then { b with valid := false } else b
  good : good = match recovered E order r b with
    | (.ok (), b) => ready E (E.reconcile b).2
    | (.error _, _) => false

theorem ends_postMutationReconcile (hsync : ∀ b, (E.reconcile b).1 = .ok .inSync)
    {order : ExecutionOrder} {r : Json} : Ends (environment E) (postMutationReconcile order r) w
      fun result v => ∃ good, result = .ok good ∧ Followed E order r w.books w.notices v good := by
  have hread : Ends (environment E) (do
      if isFilled order then recoverFills order r
      reconcile : Prog Status) w fun result v =>
        match recovered E order r w.books with
        | (.ok (), b) => result = .ok .inSync ∧ v = withBooks w (E.reconcile b).2
        | (.error e, b) => result = .error e ∧ v = withBooks w b := by
    unfold recovered
    split_ifs with hfilled
    · cases hrecover : E.recover order r w.books with
      | mk answer b =>
        refine ends_bind.mpr (ends_recoverFills hrecover ?_)
        cases answer with
        | ok => exact ends_reconcile hsync ⟨rfl, rfl⟩
        | error e => exact ⟨rfl, rfl⟩
    · exact ends_reconcile hsync ⟨rfl, rfl⟩
  unfold postMutationReconcile
  refine ends_ask_bind.mpr (ends_attempt_bind.mpr (Ends.mono hread ?_))
  intro result v hv
  cases hrecovered : recovered E order r w.books with
  | mk answer b =>
    rw [hrecovered] at hv
    cases answer with
    | ok =>
      obtain ⟨rfl, rfl⟩ := hv
      refine ends_verified_bind (ends_settle_bind (ends_pure.mpr ⟨_, rfl, rfl, ?_, ?_⟩))
      · rw [hrecovered]
        rfl
      · rw [hrecovered]
        rfl
    | error e =>
      obtain ⟨rfl, rfl⟩ := hv
      cases e with
      | authentication =>
        refine ends_ask_bind.mpr (ends_pure.mpr ⟨false, rfl, rfl, ?_, ?_⟩)
        · rw [hrecovered]
          rfl
        · rw [hrecovered]
      | _ =>
        refine ends_ask_bind.mpr (ends_ask_bind.mpr (ends_pure.mpr ⟨false, rfl, rfl, ?_, ?_⟩))
        · rw [hrecovered]
          rfl
        · rw [hrecovered]

/-! ### The second run -/

variable (c : Config) (s : Submission)

/-- The order in the books. -/
def booked (order : ExecutionOrder) (b : Books β) : Books β :=
  { b with ledger := Ledger.upsertOrder order b.ledger }

/-- What the polling makes of the record. -/
structure Found (E : Surroundings β ω) (order : ExecutionOrder) (r : Json) (w v : Run β ω)
    (result : Except Exn (Option Poll)) : Prop where
  notices : v.notices = w.notices
  books : v.books = match recovered E order r (booked order w.books) with
    | (.ok (), b) => b
    | (.error e, b) => if isAuthentication e then { b with valid := false } else b
  result : result = match recovered E order r (booked order w.books) with
    | (.ok (), _) => .ok (some ⟨some order, true, true⟩)
    | (.error e, _) => .ok (if isAuthentication e then none else some ⟨some order, true, false⟩)

theorem ends_recoverPolled {order : ExecutionOrder} {r : Json} {v : Run β ω}
    (hnotices : v.notices = w.notices) (hbooks : v.books = booked order w.books) :
    Ends (environment E) (recoverPolled order r) v fun result t => Found E order r w t result := by
  unfold recoverPolled
  split_ifs with hfilled
  · cases hrecover : E.recover order r v.books with
    | mk answer b =>
      have hrecovered : recovered E order r (booked order w.books) = (answer, b) := by
        rw [recovered, if_pos hfilled, ← hbooks, hrecover]
      refine ends_attempt_bind.mpr (ends_recoverFills hrecover ?_)
      cases answer with
      | ok =>
        refine ends_pure.mpr ⟨hnotices, ?_, ?_⟩
        · rw [hrecovered]
          rfl
        · rw [hrecovered]
      | error e =>
        cases e with
        | authentication =>
          refine ends_ask_bind.mpr (ends_pure.mpr ⟨hnotices, ?_, ?_⟩)
          · rw [hrecovered]
            rfl
          · rw [hrecovered]
            rfl
        | _ =>
          refine ends_ask_bind.mpr (ends_pure.mpr ⟨hnotices, ?_, ?_⟩)
          · rw [hrecovered]
            rfl
          · rw [hrecovered]
            rfl
  · have hrecovered : recovered E order r (booked order w.books) = (.ok (), v.books) := by
      rw [recovered, if_neg hfilled, hbooks]
    refine ends_pure.mpr ⟨hnotices, ?_, ?_⟩
    · rw [hrecovered]
    · rw [hrecovered]

theorem ends_get_bind {q : RestClient.Request} {answer : Except Exn Json}
    {rest : List (Except Exn Json)} {f : Json → Prog A} {P : Except Exn A → Run β ω → Prop}
    (h : match answer with
      | .ok response => Ends (environment E) (f response) { w with queries := rest } P
      | .error e =>
      P (.error e) { w with queries := rest }) (hqueries : w.queries = answer :: rest) :
    Ends (environment E) (Adapter.get q >>= f) w P := by
  unfold Adapter.get
  refine ends_bind.mpr (ends_ask_bind.mpr ?_)
  have hask : (environment E).ask (.request q) w = (answer, { w with queries := rest }) := by
    change (w.queries.headD _, { w with queries := w.queries.tail }) = _
    rw [hqueries]
    rfl
  rw [hask]
  cases answer with
  | ok response => exact h
  | error e => exact h

variable {s} {order : ExecutionOrder} {r : Json}
  (hmatches : orderFromResponse s.intent r s.prepared s.clientOrderId s.decision true = .ok order)
include hmatches

/-- The query that finds the order. -/
theorem ends_pollOnce {again : Prog (Option Poll)} {rest : List (Except Exn Json)}
    (hqueries : w.queries = .ok r :: rest) :
    Ends (environment E) (pollOnce c s again) w fun result t => Found E order r w t result := by
  unfold pollOnce
  refine ends_attempt_bind.mpr (ends_get_bind ?_ hqueries)
  dsimp only
  rw [hmatches]
  exact ends_recoverPolled rfl rfl

theorem ends_pollOrder {attempts : ℕ} {misses : List String} (hmisses : misses.length ≤ attempts)
    {rest : List (Except Exn Json)} (hqueries : w.queries =
      misses.map (fun m => .error (.definitiveRejection (-2013) m)) ++ .ok r :: rest) :
    Ends (environment E) (pollOrder c s attempts) w fun result t => Found E order r w t result := by
  induction attempts generalizing w misses with
  | zero =>
    obtain rfl := List.length_eq_zero_iff.mp (Nat.le_zero.mp hmisses)
    exact ends_pollOnce c hmatches hqueries
  | succ attempts ih =>
    cases misses with
    | nil => exact ends_pollOnce c hmatches hqueries
    | cons m misses =>
      unfold pollOrder pollOnce
      refine ends_attempt_bind.mpr (ends_get_bind ?_ hqueries)
      change Ends (environment E) (query .sleep >>= fun _ => pollOrder c s attempts) _ _
      refine ends_ask_bind.mpr ?_
      have hfound := ih (w := { w with queries := misses.map _ ++ .ok r :: rest })
        (Nat.le_of_succ_le_succ hmisses) rfl
      exact hfound.mono fun result t h => ⟨h.notices, h.books, h.result⟩

/-- What the second run makes of the record. -/
structure Resolved (E : Surroundings β ω) (order : ExecutionOrder) (r : Json) (b : Books β)
    (notices : List (ClientOrderId × Notice)) (v : Run β ω)
    (result : Except Exn (Option ExecutionOrder)) :
    Prop where
  notices : v.notices = notices
  books : v.books = match recovered E order r (booked order b) with
    | (.ok (), b) => (E.reconcile b).2
    | (.error e, b) => if isAuthentication e then { b with valid := false } else (E.reconcile b).2
  result : result = match recovered E order r (booked order b) with
    | (.ok (), b) => .ok (if ready E (E.reconcile b).2 then some order else none)
    | (.error _, _) => .ok none

theorem ends_resolveAmbiguousOrder (hsync : ∀ b, (E.reconcile b).1 = .ok .inSync)
    {misses : List String} (hmisses : misses.length ≤ 2) (hqueries : w.queries =
      misses.map (fun m => .error (.definitiveRejection (-2013) m)) ++ [.ok r]) :
    Ends (environment E) (resolveAmbiguousOrder c s) w fun result v =>
      Resolved E order r w.books w.notices v result := by
  unfold resolveAmbiguousOrder
  refine ends_ask_bind.mpr (ends_bind.mpr ?_)
  have hpoll :=
    ends_pollOrder (E := E) (w := { w with state := .reconciling }) c hmatches hmisses hqueries
  refine Ends.mono hpoll ?_
  rintro result v ⟨hnotices, hbooks, hresult⟩
  have hreconcile {poll : Poll} {P : Except Exn (Option ExecutionOrder) → Run β ω → Prop}
      (h : ∀ u : Run β ω, u.notices = v.notices → u.books = (E.reconcile v.books).2 →
        P (.ok (if ready E (E.reconcile v.books).2 && poll.orderStatusKnown &&
          poll.fillRecoveryVerified
          then poll.recovered else none)) u) :
      Ends (environment E) (do
        let sync ← reconcileOrUnknown
        let ready ← verified sync
        settle (ready && poll.orderStatusKnown && poll.fillRecoveryVerified)
        if (← state) = .ready then return poll.recovered else return none :
          Prog (Option ExecutionOrder)) v P := by
    refine ends_bind.mpr ?_
    unfold reconcileOrUnknown
    refine ends_attempt_bind.mpr (ends_reconcile hsync ?_)
    have hend (u : Run β ω) (hnotices' : u.notices = v.notices)
        (hbooks' : u.books = (E.reconcile v.books).2) : Ends (environment E)
        (if ready E (E.reconcile v.books).2 && poll.orderStatusKnown && poll.fillRecoveryVerified
          then pure poll.recovered else pure none) u P := by
      have hu := h u hnotices' hbooks'
      split_ifs with hgood
      · rw [if_pos hgood] at hu
        exact hu
      · rw [if_neg hgood] at hu
        exact hu
    refine ends_pure.mpr (ends_verified_bind (ends_settle_bind (ends_whenReady rfl ?_)))
    exact hend _ rfl rfl
  cases hrecovered : recovered E order r (booked order w.books) with
  | mk answer b =>
    have hrecovered' : recovered E order r (booked order { w with state := .reconciling }.books) =
      (answer, b) := hrecovered
    rw [hrecovered'] at hbooks hresult
    cases answer with
    | ok =>
      dsimp only at hbooks hresult
      rw [hresult]
      refine hreconcile fun u hnotices' hbooks' => ⟨hnotices'.trans hnotices, ?_, ?_⟩
      · rw [hrecovered, hbooks', hbooks]
      · rw [hrecovered, hbooks]
        simp
    | error e =>
      dsimp only at hbooks hresult
      rw [hresult]
      split_ifs with hauth
      · rw [if_pos hauth] at hbooks
        refine ends_pure.mpr ⟨hnotices, ?_, ?_⟩
        · rw [hrecovered, hbooks]
          exact (if_pos hauth).symm
        · rw [hrecovered]
      · rw [if_neg hauth] at hbooks
        refine hreconcile fun u hnotices' hbooks' => ⟨hnotices'.trans hnotices, ?_, ?_⟩
        · rw [hrecovered, hbooks', hbooks]
          exact (if_neg hauth).symm
        · rw [hrecovered]
          simp

omit hmatches

/-! ### In front of the request -/

/-- The same run with other answers to the submission. -/
def scripted (post : Except Exn Json) (queries : List (Except Exn Json)) (w : Run β ω) : Run β ω :=
  { w with post, queries }

/-- What is in front of the request does not depend on the answers. -/
theorem ignores_beforeRequest (s : Submission) (post : Except Exn Json)
    (queries : List (Except Exn Json)) :
    Ignores (environment E) (scripted post queries) (beforeRequest c s) := by
  have hrest : Ignores (environment E) (scripted post queries) (do
      Adapter.upsertOrder (planned s)
      assertExecutionLease s.decision.riskClass
      return true : Prog Bool) := by
    refine .bind (.ask fun _ => rfl) fun _ => .bind ?_ fun _ => .pure _
    exact .ite (.bind (.ask fun _ => rfl) fun _ => .raising _) (.pure _)
  unfold beforeRequest
  refine .bind (.ask fun _ => rfl) fun installed =>
    .ite ?_ (.ite (.bind (.throw _) fun _ => hrest) hrest)
  refine .bind (.ask fun _ => rfl) fun answer => .bind (.raising _) fun durable => ?_
  exact .ite (.bind (.ask fun _ => rfl) fun _ => .pure _) hrest

/-- The order is submitted: nothing in front of the request stops it. -/
def Submitted (E : Surroundings β ω) (c : Config) (s : Submission) (w : Run β ω) : Prop :=
  (perform (environment E) (beforeRequest c s).run w).1 = .ok true

/-- The run at the request. -/
def atRequest (E : Surroundings β ω) (c : Config) (s : Submission) (w : Run β ω) : Run β ω :=
  (perform (environment E) (beforeRequest c s).run w).2

/-- The outcome is what follows from the answer to the request. -/
theorem outcome_eq (hsubmitted : Submitted E c s w) {post : Except Exn Json}
    {queries : List (Except Exn Json)} {o : Outcome}
    (h : Ends (environment E) (postOrder c s) (scripted post queries (atRequest E c s w)) fun r v =>
      match r with
      | .error e =>
      Ends (environment E) (submissionFailed c s true e) v fun r' t => outcomeOf s r' t = o
      | .ok executed => outcomeOf s (.ok executed) v = o) :
    outcome E c s (scripted post queries w) = o := by
  change Ends (environment E) (submitOrder c s) (scripted post queries w)
    fun r t => outcomeOf s r t = o
  unfold submitOrder
  refine ends_attempt_bind.mpr ((ignores_beforeRequest c s post queries).ends.mpr ?_)
  rw [Ends, show (perform (environment E) (beforeRequest c s).run w).1 = .ok true from hsubmitted]
  refine ends_attempt_bind.mpr (Ends.mono h ?_)
  intro r v hr
  cases r with
  | ok executed => exact hr
  | error e => exact hr

theorem lastNotice_append (id : ClientOrderId) (notices : List (ClientOrderId × Notice))
    (notice : Notice) : lastNotice id (notices ++ [(id, notice)]) = some notice := by
  unfold lastNotice
  rw [List.filter_append]
  simp

theorem outcomeOf_noted {id : ClientOrderId} (hid : id = s.clientOrderId) {v u : Run β ω}
    {notice : Notice} (hu : Noted v u id notice) (r : Except Exn (Option Executed)) :
    outcomeOf s r u = ⟨record v.books.ledger s.clientOrderId, some notice, isExecuted r⟩ := by
  rw [outcomeOf, hu.books, hu.notices, hid, lastNotice_append]

theorem ends_mutate_bind {m : Mutation} {f : Json → Prog A} {answer : Except Exn Json}
    {P : Except Exn A → Run β ω → Prop}
    (h : match answer with
      | .ok response => Ends (environment E) (f response) w P
      | .error e => P (.error e) w) (hpost : w.post = answer) :
    Ends (environment E) (mutate m >>= f) w P := by
  unfold mutate
  refine ends_bind.mpr (ends_bind.mpr (ends_send.mpr ?_))
  change Ends (environment E) (raising w.post) w _
  rw [hpost]
  refine ends_raising.mpr ?_
  cases answer with
  | ok response => exact h
  | error e => exact h

/-- What the first run leaves behind once the fills are recovered. -/
def receivedOutcome (E : Surroundings β ω) (s : Submission) : Except Exn Unit × Books β → Outcome
  | (.ok (), b) => ⟨record (E.reconcile b).2.ledger s.clientOrderId,
      some (if ready E (E.reconcile b).2 then .confirmed else .ambiguous),
      ready E (E.reconcile b).2⟩
  | (.error _, b) => ⟨record b.ledger s.clientOrderId, some .ambiguous, false⟩

/-- What the second run leaves behind once the fills are recovered. -/
def lostOutcome (E : Surroundings β ω) (s : Submission) : Except Exn Unit × Books β → Outcome
  | (.ok (), b) => receivedOutcome E s (.ok (), b)
  | (.error e, b) => if isAuthentication e then receivedOutcome E s (.error e, b)
    else ⟨record (E.reconcile b).2.ledger s.clientOrderId, some .ambiguous, false⟩

/-- The second run never ends with a rejection. -/
theorem lostOutcome_notice (answer : Except Exn Unit × Books β) :
    (lostOutcome E s answer).notice ≠ some .rejected := by
  rcases answer with ⟨e | _, b⟩
  · rw [lostOutcome]
    split_ifs
    · exact nofun
    · exact nofun
  · change some (if ready E (E.reconcile b).2 then Notice.confirmed else .ambiguous) ≠ _
    split_ifs
    · exact nofun
    · exact nofun

include hmatches

theorem isObj_of_matches : r.isObj = true := by
  unfold orderFromResponse at hmatches
  simp only [Effects.except_guard_ok] at hmatches
  simpa using hmatches.1

theorem outcome_received (hsync : ∀ b, (E.reconcile b).1 = .ok .inSync)
    (hsubmitted : Submitted E c s w) (hterminal : terminalStatuses.contains order.status = false) :
    outcome E c s (received r w) =
      receivedOutcome E s (recovered E order r (booked order (atRequest E c s w).books)) := by
  have hid := orderFromResponse_id hmatches
  have hdirect := orderFromResponse_direct hmatches
  rw [hterminal, if_neg (by decide)] at hdirect
  change outcome E c s (scripted (.ok r) w.queries w) = _
  refine outcome_eq c hsubmitted ?_
  unfold postOrder
  refine ends_ask_bind.mpr (ends_mutate_bind ?_ rfl)
  refine ends_guard.mpr ⟨fun hobj => ?_, fun _ => ?_⟩
  · rw [isObj_of_matches hmatches] at hobj
    cases hobj
  rw [hdirect]
  refine ends_ask_bind.mpr (ends_bind.mpr (Ends.mono (ends_postMutationReconcile hsync) ?_))
  rintro result v ⟨good, rfl, hfollowed⟩
  obtain ⟨hnotices, hbooks, hgood⟩ : Followed E order r (booked order (atRequest E c s w).books)
    (atRequest E c s w).notices v good := hfollowed
  have houtcome :
      receivedOutcome E s (recovered E order r (booked order (atRequest E c s w).books)) =
      ⟨record v.books.ledger s.clientOrderId, some (if good then .confirmed else .ambiguous),
        good⟩ := by
    cases hrecovered : recovered E order r (booked order (atRequest E c s w).books) with
    | mk answer b =>
      rw [hrecovered] at hbooks hgood
      rw [hbooks, hgood]
      cases answer with
      | ok => rfl
      | error e =>
        dsimp only
        cases isAuthentication e with
        | true => rfl
        | false => rfl
  rw [houtcome]
  cases good with
  | true => exact ends_notify_bind fun u hu => ends_pure.mpr (outcomeOf_noted hid hu _)
  | false => exact ends_notify_bind fun u hu => ends_pure.mpr (outcomeOf_noted hid hu _)

theorem outcome_received_terminal (hsubmitted : Submitted E c s w)
    (hterminal : terminalStatuses.contains order.status = true) :
    outcome E c s (received r w) = ⟨some (rejectedOrder s), some .rejected, false⟩ := by
  have hdirect := orderFromResponse_direct hmatches
  rw [hterminal, if_pos rfl] at hdirect
  change outcome E c s (scripted (.ok r) w.queries w) = _
  refine outcome_eq c hsubmitted ?_
  unfold postOrder
  refine ends_ask_bind.mpr (ends_mutate_bind ?_ rfl)
  refine ends_guard.mpr ⟨fun hobj => ?_, fun _ => ?_⟩
  · rw [isObj_of_matches hmatches] at hobj
    cases hobj
  rw [hdirect]
  refine ends_bind.mpr (ends_raising.mpr (ends_ask_bind.mpr ?_))
  refine ends_notify_bind fun u hu => ends_pure.mpr ((outcomeOf_noted rfl hu _).trans ?_)
  change Outcome.mk (record (Ledger.upsertOrder (rejectedOrder s) _) s.clientOrderId) _ _ = _
  rw [record_upsertOrder, if_pos (show (rejectedOrder s).clientOrderId = s.clientOrderId from rfl)]
  rfl

theorem outcome_lost (hsync : ∀ b, (E.reconcile b).1 = .ok .inSync) (hsubmitted : Submitted E c s w)
    (reason : String) {misses : List String} (hmisses : misses.length ≤ 2) :
    outcome E c s (lost reason misses r w) =
      lostOutcome E s (recovered E order r (booked order (atRequest E c s w).books)) := by
  have hid := orderFromResponse_id hmatches
  change outcome E c s (scripted (.error (.transportAmbiguity reason))
    (misses.map (fun m => .error (.definitiveRejection (-2013) m)) ++ [.ok r]) w) = _
  refine outcome_eq c hsubmitted ?_
  unfold postOrder
  refine ends_ask_bind.mpr (ends_mutate_bind ?_ rfl)
  refine ends_notify_bind fun u hu => ?_
  refine ends_bind.mpr (Ends.mono (ends_resolveAmbiguousOrder c hmatches hsync hmisses hu.queries)
    ?_)
  intro result v hresolved
  have hu' : u.books = (atRequest E c s w).books := hu.books
  rw [hu'] at hresolved
  obtain ⟨hnotices, hbooks, hresult⟩ := hresolved
  have hnone : outcomeOf s (.ok none) v = ⟨record v.books.ledger s.clientOrderId,
      some .ambiguous, false⟩ := by
    rw [outcomeOf, hnotices, hu.notices]
    exact congrArg (fun notice => Outcome.mk _ notice false) (lastNotice_append _ _ _)
  cases hrecovered : recovered E order r (booked order (atRequest E c s w).books) with
  | mk answer b =>
    rw [hrecovered] at hbooks hresult
    rw [hresult]
    cases answer with
    | ok =>
      have hout : lostOutcome E s (.ok (), b) = ⟨record (E.reconcile b).2.ledger s.clientOrderId,
          some (if ready E (E.reconcile b).2 then .confirmed else .ambiguous),
          ready E (E.reconcile b).2⟩ := rfl
      dsimp only at hbooks ⊢
      rw [hout, ← hbooks]
      cases ready E v.books with
      | true => exact ends_notify_bind fun u hu => ends_pure.mpr (outcomeOf_noted hid hu _)
      | false => exact ends_pure.mpr hnone
    | error e =>
      dsimp only at hbooks ⊢
      refine ends_pure.mpr (hnone.trans ?_)
      rw [hbooks, lostOutcome]
      split_ifs
      · rfl
      · rfl

/-- **A lost response**: both runs leave the same behind for the order exactly if the order has not
ended and, where the recovery of its fills raises, the reconciliation leaves its record as it is. -/
theorem lost_response_iff (hsync : ∀ b, (E.reconcile b).1 = .ok .inSync)
    (hsubmitted : Submitted E c s w) (reason : String) {misses : List String}
    (hmisses : misses.length ≤ 2) :
    outcome E c s (received r w) = outcome E c s (lost reason misses r w) ↔
      terminalStatuses.contains order.status = false ∧
        KeepsRecord E order r (booked order (atRequest E c s w).books) := by
  rw [outcome_lost c hmatches hsync hsubmitted reason hmisses]
  have hid := orderFromResponse_id hmatches
  unfold KeepsRecord
  cases hterminal : terminalStatuses.contains order.status with
  | true =>
    rw [outcome_received_terminal c hmatches hsubmitted hterminal]
    refine ⟨fun hsame => absurd (congrArg Outcome.notice hsame).symm ?_, fun h => by cases h.1⟩
    exact lostOutcome_notice _
  | false =>
    rw [outcome_received c hmatches hsync hsubmitted hterminal, hid]
    cases recovered E order r (booked order (atRequest E c s w).books) with
    | mk answer b =>
      cases answer with
      | ok => exact ⟨fun _ => ⟨rfl, nofun⟩, fun _ => rfl⟩
      | error e =>
        rw [lostOutcome]
        split_ifs with hauth
        · refine ⟨fun _ => ⟨rfl, fun e' he' hauth' => ?_⟩, fun _ => rfl⟩
          cases he'
          rw [hauth] at hauth'
          cases hauth'
        · constructor
          · intro hsame
            exact ⟨rfl, fun _ _ _ => (congrArg Outcome.record hsame).symm⟩
          · rintro ⟨-, hkeeps⟩
            rw [hkeeps e rfl (by simpa using hauth)]
            rfl

end

/-! ### An order -/

/-- Surroundings that answer everything, and change nothing. -/
def sampleSurroundings : Surroundings Unit Unit where
  recover _ _ b := (.ok (), b)
  reconcile b := (.ok .inSync, b)
  healthy _ := true
  authenticated _ := true
  hedgeMode := false
  callback _ _ u := (.ok (), u)
  barrierInstalled := true
  barrier _ u := (.ok true, u)
  lease _ u := (.ok (), u)
  other
    | .preflightOnly | .workerAuthorized | .gateCallable | .workerGate _ => false
    | .state => .ready
    | .privateStreamHealthy | .authenticated | .reconciliationAuthenticationFailed => false
    | .setState _ | .invalidateAuthentication | .setLastStatusUnknown | .upsertOrder _ | .sleep =>
      ()
    | .clearCapabilities | .setAuthenticated _ => ()
    | .reconcile => .ok .inSync
    | .recoverOrderFills .. | .executionLease _ | .notify .. | .replacePositions _ => .ok ()
    | .request _ | .listenKey => .ok .null
    | .gate _ => .ok .blocked
    | .gatePriced .. => .ok none
    | .cachedPrice .. => none
    | .recordSample .. | .hedgeMode | .barrierInstalled | .connectStream => false
    | .barrier _ | .parseRules _ => .ok false
    | .orderByClientId _ => none
    | .initSession | .close => .ok ()

/-- An adapter for Testnet. -/
def sampleConfig : Config where
  env := .testnet
  portfolioMargin := false
  digest _ := "0123456789ab"

/-- An order that adds to a position. -/
def sampleSubmission : Submission where
  intent := {
    clientOrderId := "BAI-1", symbol := "ETHUSDC", side := .buy, positionSide := .both
    orderType := "LIMIT", timeInForce := .gtc, quantity := .ofNat 1, price := some (.ofNat 2000) }
  prepared := {
    symbol := "ETHUSDC", orderType := "LIMIT", quantity := .ofNat 1, price := some (.ofNat 2000)
    estimatedPrice := .ofNat 2000, notional := .ofNat 2000 }
  clientOrderId := ⟨"BAI-1", by decide⟩
  decision := {
    decisionId := "D-1", symbol := "ETHUSDC", action := "OPEN",
    riskClass := .newRisk, orders := [] }

/-- The record of the order at the exchange. -/
def sampleRecord (status : String) : Json := .obj [
  ("orderId", .int 7), ("status", .str status), ("symbol", .str "ETHUSDC"), ("side", .str "BUY"),
  ("clientOrderId", .str "BAI-1"), ("origQty", .str "1"), ("price", .str "2000")]

/-- The start of a run. -/
def sampleRun : Run Unit Unit where
  books := { ledger := Ledger.empty, exchange := (), valid := true }
  worker := ()
  state := .ready
  notices := []
  post := .ok .null
  queries := []

/-- The outcome if the response is received. -/
def sampleReceived (status : String) : Outcome :=
  outcome sampleSurroundings sampleConfig sampleSubmission
    (received (sampleRecord status) sampleRun)

/-- The outcome if the response is lost. -/
def sampleLost (misses : List String) (status : String) : Outcome :=
  outcome sampleSurroundings sampleConfig sampleSubmission
    (lost "timeout" misses (sampleRecord status) sampleRun)

/-- An order that rests on the book is found again, and executed in both runs. -/
theorem lost_response_iff_new :
    sampleReceived "NEW" = sampleLost ["Order does not exist."] "NEW" := by
  have horder : ∃ order, orderFromResponse sampleSubmission.intent (sampleRecord "NEW")
      sampleSubmission.prepared sampleSubmission.clientOrderId sampleSubmission.decision true =
      .ok order ∧
      terminalStatuses.contains order.status = false := by
    refine ⟨_, rfl, ?_⟩
    decide +kernel
  obtain ⟨order, hmatches, hterminal⟩ := horder
  have hsubmitted : Submitted sampleSurroundings sampleConfig sampleSubmission sampleRun := rfl
  exact (lost_response_iff sampleConfig hmatches (fun _ => rfl) hsubmitted "timeout"
    (by decide)).mpr
    ⟨hterminal, fun _ _ _ => rfl⟩

/-- An order that expired at once is rejected if its response is received, and executed if it is
lost. -/
theorem lost_response_expired :
    (sampleReceived "EXPIRED").notice = some .rejected ∧
    (sampleReceived "EXPIRED").executed = false ∧
      (sampleLost [] "EXPIRED").notice = some .confirmed ∧
      (sampleLost [] "EXPIRED").executed = true ∧
      (sampleReceived "EXPIRED").record ≠ (sampleLost [] "EXPIRED").record := by
  decide +kernel

end Blessing.Binance.LostResponse
