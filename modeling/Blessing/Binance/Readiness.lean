import Blessing.Binance.Adapter
import Blessing.Binance.Authentication
import Blessing.Lib.Handlers
import Blessing.Lib.Machine

/-! # When the adapter is ready

Runs of the methods of `BinanceExecutionAdapter`, one after the other, with any answers of the
exchange. The adapter's state, its capabilities and its reconciliation are those of the code; what
the gates, the callbacks, the lease and the stream say is part of the environment.

The state becomes `READY` only on evidence: the reconciliation that was awaited last was in sync,
the private stream was healthy and the adapter was authenticated. A step in which the exchange
refuses the authentication ends unauthenticated and not `READY`, with three exceptions: the
reconciliation swallows the refusal; a later reconciliation of the same step lifts it; or
`emergency_flatten` finds nothing to flatten and leaves the state as it is. -/

namespace Blessing.Binance.Readiness

open Blessing.Lib Blessing.Lib.Values Blessing.Lib.Coroutine Blessing.Lib.Handlers
open Blessing.Lib.Effects (after)
open Blessing.Binance.Models Blessing.Binance.Ledger Blessing.Binance.Recovery
open Blessing.Binance.RestClient Blessing.Binance.Orders Blessing.Binance.Emergency
open Blessing.Binance.Adapter Blessing.Binance.Authentication

/-! ### The adapter and its environment -/

/-- What is known when the state becomes `READY`: the result of the reconciliation that was awaited
last, the health of the stream as it was read behind it, and whether the adapter is
authenticated. -/
structure Evidence where
  sync : Option Status
  healthy : Option Bool
  authenticated : Bool

/-- All of it is good. -/
def Evidence.Good (e : Evidence) : Prop :=
  e.sync = some .inSync ∧ e.healthy = some true ∧ e.authenticated = true

/-- The attributes of the adapter. The last five fields say what happened: since the last wait, in
the step so far, and in the run so far. -/
structure AdapterState where
  connection : ConnectionState := .disconnected
  capabilitiesAuthenticated : Bool := false
  reconciliation : Recovery.State
  asked : ℕ := 0
  lastSync : Option Status := none
  lastHealthy : Option Bool := none
  refused : Bool := false
  masked : Bool := false
  entered : List Evidence := []

/-- The attribute `authenticated`. -/
def AdapterState.authenticated (s : AdapterState) : Bool :=
  s.capabilitiesAuthenticated && !s.reconciliation.authenticationFailed

/-- The evidence at hand. -/
def AdapterState.evidence (s : AdapterState) : Evidence :=
  ⟨s.lastSync, s.lastHealthy, s.authenticated⟩

/-- A new adapter over a ledger. -/
def newAdapter (l : InMemoryLedger) : AdapterState where
  reconciliation := { ledger := l }

/-- What a run meets: the clock and the exchange's answers to requests and changes, by their number,
and the answers to everything else. -/
structure Environment where
  now : ℕ → ℤ
  exchange : ℕ → Request → Except Exn Json
  reply : ℕ → Mutation → Except Exn Json
  answer : ℕ → (q : Ask) → q.Answer
  flag : ℕ → Bool

/-- The client of the REST interface. -/
def clientAt (o : Environment) (c : Config) (n : ℕ) : Client :=
  ⟨c.env, c.portfolioMargin, o.now n, o.exchange⟩

/-- An answer that refuses the authentication. -/
def isRefused {α : Type} : Except Exn α → Bool
  | .error e => e.isAuthentication
  | .ok _ => false

/-- Run a method of the reconciliation, and wait for it. -/
def await {α : Type} (x : M α) (s : AdapterState) : Except Exn α × AdapterState :=
  let t : AdapterState :=
    { s with
      reconciliation := after (x.run s.reconciliation)
      refused := s.refused || Authentication.refused x s.reconciliation
      lastSync := none }
  match x.run s.reconciliation with
  | .ok a _ => (.ok a, t)
  | .error e _ => (.error e, t)

/-- `reconcile` is awaited. It masks a refusal if it swallows one, or if it is not refused itself
while nothing but an earlier reconciliation of the step says that the authentication failed. -/
def awaitReconcile (client : Client) (s : AdapterState) : Except Exn Status × AdapterState :=
  let (status, t) := await (Reconciliation.reconcile client) s
  (status, { t with
    lastSync := status.toOption
    lastHealthy := none
    masked := s.masked || swallows client s.reconciliation ||
      (s.refused && s.capabilitiesAuthenticated &&
        !Authentication.refused (Reconciliation.reconcile client) s.reconciliation) })

/-- The answer to a question. -/
def answerOf (o : Environment) (c : Config) (q : Ask) (s : AdapterState) :
    q.Answer × AdapterState :=
  let client := clientAt o c s.asked
  let ledger := s.reconciliation.ledger
  let s : AdapterState := { s with asked := s.asked + 1 }
  let record (l : InMemoryLedger) : AdapterState :=
    { s with reconciliation := { s.reconciliation with ledger := l }, lastSync := none }
  match q with
  | .state => (s.connection, s)
  | .setState connection => ((), { s with
      connection
      entered := if connection = .ready then s.entered ++ [s.evidence] else s.entered })
  | .privateStreamHealthy =>
    let healthy := o.answer s.asked .privateStreamHealthy
    (healthy, { s with lastHealthy := some healthy })
  | .authenticated => (s.authenticated, s)
  | .invalidateAuthentication =>
    ((), { s with capabilitiesAuthenticated := false, connection := .degraded })
  | .setLastStatusUnknown =>
    ((), { s with reconciliation := { s.reconciliation with lastStatus := .unknown } })
  | .reconciliationAuthenticationFailed => (s.reconciliation.authenticationFailed, s)
  | .reconcile => awaitReconcile client s
  | .recoverOrderFills order response =>
    let (recovered, t) := await (recoverOrderFills client order response) s
    (recovered.map fun _ => (), t)
  | .request request => await (Recovery.request client request) s
  | .upsertOrder order => ((), record (Ledger.upsertOrder order ledger))
  | .orderByClientId id => (getOrderByClientId ledger id, record ledger)
  | .replacePositions positions =>
    match Ledger.replacePositions positions ledger with
    | .ok l => (.ok (), record l)
    | .error e => (.error e, record ledger)
  | .clearCapabilities => ((), { s with capabilitiesAuthenticated := false })
  | .setAuthenticated authenticated => ((), { s with capabilitiesAuthenticated := authenticated })
  | .listenKey =>
    let data := o.answer s.asked .listenKey
    (data, { s with refused := s.refused || isRefused data, lastSync := none })
  | q => (o.answer s.asked q, { s with lastSync := none })

/-- The handler of the adapter's methods. -/
def handler (o : Environment) (c : Config) :
    Handler Ask Ask.Answer Mutation (Except Exn Json) AdapterState where
  ask := answerOf o c
  flag s := (o.flag s.asked, { s with asked := s.asked + 1 })
  send m s :=
    let response := o.reply s.asked m
    (response, { s with
      asked := s.asked + 1, refused := s.refused || isRefused response, lastSync := none })

/-! ### Steps -/

/-- The calls of a run. -/
inductive Call where
  | connect
  | onUserStreamDisconnect
  | onUserStreamReconnected
  | executeDecision (decision : ExecutionDecision)
  | modifyOrder (amendment : Amendment)
  | cancelOrder (symbol id : String)
  | emergencyFlatten (symbol : Option String)
  | refreshMarketData (symbols : List String)
  | getFreshMarketPrice (symbol : String) (side : Option OrderSide)
  | close

/-- The program of a call. -/
def program (c : Config) : Call → Co Ask Ask.Answer Mutation (Except Exn Json) Unit
  | .connect => task (connect c)
  | .onUserStreamDisconnect => task onUserStreamDisconnect
  | .onUserStreamReconnected => task onUserStreamReconnected
  | .executeDecision decision => task (executeDecision c decision)
  | .modifyOrder amendment => task (modifyOrder c amendment)
  | .cancelOrder symbol id => task (cancelOrder c symbol id)
  | .emergencyFlatten symbol => task (emergencyFlatten c symbol)
  | .refreshMarketData symbols => task (refreshMarketData symbols)
  | .getFreshMarketPrice symbol side => task (getFreshMarketPrice symbol side)
  | .close => task close

/-- The state at the start of a step. -/
def begin (s : AdapterState) : AdapterState :=
  { s with refused := false, masked := false, lastSync := none, lastHealthy := none }

/-- One call, from its start to its end. -/
def step (o : Environment) (c : Config) (s : AdapterState) (call : Call) : Unit × AdapterState :=
  perform (handler o c) (program c call) (begin s)

/-! ### The invariant -/

/-- The state became `READY` on good evidence only. -/
def Verified (s : AdapterState) : Prop := ∀ e ∈ s.entered, e.Good

/-- Unauthenticated and not `READY`. -/
def Out (s : AdapterState) : Prop := s.authenticated = false ∧ s.connection ≠ .ready

/-- A refusal of the step takes the adapter out, unless it is masked. -/
def Contained (s : AdapterState) : Prop := s.masked = true ∨ (s.refused = true → Out s)

/-- A refusal of the step leaves the adapter unauthenticated, unless it is masked. -/
def Muted (s : AdapterState) : Prop :=
  s.masked = true ∨ (s.refused = true → s.authenticated = false)

/-- What every method keeps. -/
def Inv (s : AdapterState) : Prop := Verified s ∧ Contained s

theorem Muted.contained {s : AdapterState} (h : Muted s) (hconnection : s.connection ≠ .ready) :
    Contained s := h.imp_right fun hout hrefused => ⟨hout hrefused, hconnection⟩

/-- An unauthenticated adapter that is not `READY` is contained. -/
theorem Contained.of_out {s : AdapterState} (h : Out s) : Contained s := .inr fun _ => h

/-- The questions whose answers can neither refuse the authentication nor restore it. -/
def Harmless : Ask → Prop
  | .setState connection => connection ≠ .ready
  | .reconcile | .recoverOrderFills .. | .request _ | .listenKey | .setAuthenticated _ => False
  | _ => True

section Methods

variable {o : Environment} {c : Config} {E : Exn → Prop} {s : AdapterState}

theorem inv_congr {t : AdapterState} (h : Inv s) (hentered : t.entered = s.entered)
    (hmasked : t.masked = s.masked) (hrefused : t.refused = s.refused)
    (hout : Out s → Out t) : Inv t := by
  refine ⟨fun e he => h.1 e (hentered ▸ he), ?_⟩
  rcases h.2 with hm | hr
  · exact .inl (hmasked.trans hm)
  · exact .inr fun ht => hout (hr (hrefused.symm.trans ht))

theorem inv_answer {q : Ask} (hq : Harmless q) (h : Inv s) : Inv (answerOf o c q s).2 := by
  cases q with
  | setState connection =>
    have hne : connection ≠ .ready := hq
    refine inv_congr h ?_ rfl rfl fun hout => ⟨hout.1, hne⟩
    simp [answerOf, hne]
  | invalidateAuthentication => exact inv_congr h rfl rfl rfl fun _ => ⟨rfl, nofun⟩
  | clearCapabilities => exact inv_congr h rfl rfl rfl fun hout => ⟨rfl, hout.2⟩
  | replacePositions positions =>
    simp only [answerOf]
    cases Ledger.replacePositions positions s.reconciliation.ledger with
    | ok l => exact inv_congr h rfl rfl rfl id
    | error e => exact inv_congr h rfl rfl rfl id
  | reconcile => exact hq.elim
  | recoverOrderFills order response => exact hq.elim
  | request request => exact hq.elim
  | listenKey => exact hq.elim
  | setAuthenticated authenticated => exact hq.elim
  | _ => exact inv_congr h rfl rfl rfl id

theorem preserves_query {q : Ask} (hq : Harmless q) :
    Preserves (handler o c) E Inv Verified (query q) := .ask fun _ => inv_answer hq

theorem preserves_flag : Preserves (handler o c) E Inv Verified (readFlag : Prog Bool) :=
  .readFlag fun _ h => inv_congr h rfl rfl rfl id

theorem preserves_testFlag : Preserves (handler o c) E Inv Verified (testFlag : Prog Bool) :=
  .testFlag fun _ h => inv_congr h rfl rfl rfl id

/-- A refusal that is on its way. -/
def Refusal (e : Exn) : Prop := e.isAuthentication = true

/-- A request that is not refused changes nothing that matters; one that is raises the refusal. -/
theorem await_spec {α : Type} {x : M α} (hx : Loud x s.reconciliation)
    (hkeeps : Effects.Keeps (fun t => t.authenticationFailed =
      s.reconciliation.authenticationFailed) x) (h : Inv s) :
    Preserved Refusal Inv Verified (await x s).1 (await x s).2 := by
  have hfailed := hkeeps s.reconciliation rfl
  unfold await
  cases hrefused : Authentication.refused x s.reconciliation with
  | false =>
    cases hrun : x.run s.reconciliation with
    | ok a t =>
      rw [hrun] at hfailed
      refine .inl (inv_congr h rfl rfl (by simp) fun hout => ⟨?_, hout.2⟩)
      simpa [AdapterState.authenticated, hfailed] using hout.1
    | error e t =>
      rw [hrun] at hfailed
      refine .inl (inv_congr h rfl rfl (by simp) fun hout => ⟨?_, hout.2⟩)
      simpa [AdapterState.authenticated, hfailed] using hout.1
  | true =>
    obtain ⟨e, t, hrun, hauth⟩ := hx.refused hrefused
    rw [hrun]
    exact .inr ⟨h.1, e, rfl, hauth⟩

theorem keeps_request {client : Client} (r : Request) (b : Bool) :
    Effects.Keeps (fun t => t.authenticationFailed = b) (Recovery.request client r) := by
  intro t ht
  rw [Passes.run_request]
  cases client.answer t.log.length r with
  | ok v => exact ht
  | error e => exact ht

theorem keeps_recoverOrderFills {client : Client} (order : ExecutionOrder) (response : Json)
    (b : Bool) :
    Effects.Keeps (fun t => t.authenticationFailed = b)
      (recoverOrderFills client order response) := by
  have hrecovering : Passes.Recovering client order fun t => t.authenticationFailed = b :=
    ⟨fun _ _ _ ht => ht, fun _ _ ht => ht, fun _ _ _ ht => ht⟩
  exact hrecovering.recoverOrderFills response

theorem preserves_get (r : Request) :
    Preserves (handler o c) Refusal Inv Verified (Adapter.get r) := by
  refine fun s h => ends_ask_bind.mpr ?_
  exact await_spec (Loud.request r) (keeps_request r _) (inv_congr h rfl rfl rfl id)

theorem preserves_recoverFills (order : ExecutionOrder) (response : Json) :
    Preserves (handler o c) Refusal Inv Verified (recoverFills order response) := by
  refine fun s h => ends_ask_bind.mpr ?_
  have hawait := await_spec (x := recoverOrderFills (clientAt o c s.asked) order response)
    (loud_recoverOrderFills order response) (keeps_recoverOrderFills order response _)
    (s := { s with asked := s.asked + 1 }) (inv_congr h rfl rfl rfl id)
  rcases hawait with hinv | ⟨hverified, e, he, hrefusal⟩
  · exact .inl hinv
  · exact .inr ⟨hverified, e, congrArg (Except.map fun _ => ()) he, hrefusal⟩

/-- A change that is not refused changes nothing that matters; one that is raises the refusal. -/
theorem preserves_mutate (m : Mutation) :
    Preserves (handler o c) Refusal Inv Verified (mutate m) := by
  refine fun s h => ends_bind.mpr (ends_send.mpr ?_)
  cases hreply : o.reply s.asked m with
  | ok v =>
    have hsent : (handler o c).send m s = (.ok v, { s with
        asked := s.asked + 1, refused := s.refused, lastSync := none }) := by
      simp [handler, hreply, isRefused]
    rw [hsent]
    exact ends_raising.mpr (.inl (inv_congr h rfl rfl rfl id))
  | error e =>
    have hsent : (handler o c).send m s = (.error e, { s with
        asked := s.asked + 1, refused := s.refused || e.isAuthentication, lastSync := none }) := by
      simp [handler, hreply, isRefused]
    rw [hsent]
    refine ends_raising.mpr ?_
    cases hauth : e.isAuthentication with
    | true => exact .inr ⟨h.1, e, rfl, hauth⟩
    | false => exact .inl (inv_congr h rfl rfl (by simp) id)

/-- A refusal that is caught drops the authentication, which restores the invariant. -/
theorem ends_invalidate {α : Type} {k : Unit → Prog α} {P : Except Exn α → AdapterState → Prop}
    (h : Verified s) (hk : ∀ t, Inv t → Ends (handler o c) (k ()) t P) :
    Ends (handler o c) (invalidateAuthentication >>= k) s P :=
  ends_ask_bind.mpr (hk _ ⟨h, .of_out ⟨rfl, nofun⟩⟩)

theorem preserves_invalidate {α : Type} {k : Unit → Prog α}
    (hk : Preserves (handler o c) E Inv Verified (k ())) :
    Preserves (handler o c) E Inv Verified (invalidateAuthentication >>= k) :=
  fun _ h => ends_invalidate h.1 hk

/-- `try` around what may be refused, with a handler that drops the authentication. -/
theorem preserves_try {α β : Type} {x : Prog α} {f : Except Exn α → Prog β}
    (hx : Preserves (handler o c) Refusal Inv Verified x)
    (hf : ∀ r, Preserves (handler o c) E Inv Verified (f r))
    (hrefused : ∀ code message, ∃ k, f (.error (.authentication code message)) =
      invalidateAuthentication >>= k ∧ Preserves (handler o c) E Inv Verified (k ())) :
    Preserves (handler o c) E Inv Verified (attempt x >>= f) := by
  refine .attempt_bind Refusal hx hf fun e he s hs => ?_
  cases e with
  | authentication code message =>
    obtain ⟨k, hk, hkeeps⟩ := hrefused code message
    rw [hk]
    exact ends_invalidate hs hkeeps
  | _ => cases he

/-! ### Market data -/

/-- The handlers of the market data requests restore the invariant. -/
theorem ends_marketDataFailed {α : Type} {k : Unit → Prog α} {e : Exn} (he : Refusal e)
    (h : Verified s) (hk : Preserves (handler o c) E Inv Verified (k ())) :
    Ends (handler o c) (marketDataFailed e >>= k) s (Preserved E Inv Verified) := by
  cases e with
  | authentication code message =>
    refine ends_bind.mpr (ends_invalidate h fun t ht => ?_)
    exact ends_ask.mpr (hk _ (inv_answer (o := o) (c := c) trivial ht))
  | _ => cases he

theorem preserves_marketDataFailed (e : Exn) :
    Preserves (handler o c) E Inv Verified (marketDataFailed e) := by
  unfold marketDataFailed
  split
  · exact preserves_invalidate (preserves_query trivial)
  · exact .bind (preserves_query (by simp [Harmless])) fun _ => preserves_query trivial

theorem preserves_getBestBidAsk (symbol : String) :
    Preserves (handler o c) E Inv Verified (getBestBidAsk symbol) := by
  unfold getBestBidAsk
  refine .attempt_bind Refusal (.bind (preserves_get _) fun payload =>
    .bind (.raising _) fun quote => ?_) (fun r => ?_) fun e he s hs => ?_
  · split
    · exact .pure _
    · split
      · exact .pure _
      · exact .bind (preserves_query trivial) fun recorded => .ite (.pure _) (.pure _)
  · split
    · exact .pure _
    · exact .bind (preserves_marketDataFailed _) fun _ => .pure _
  · exact ends_marketDataFailed he hs (.pure _)

theorem preserves_getFreshMarketPrice (symbol : String) (side : Option OrderSide) :
    Preserves (handler o c) E Inv Verified (getFreshMarketPrice symbol side) := by
  unfold getFreshMarketPrice
  refine .bind (preserves_query trivial) fun cached => ?_
  split
  · exact .pure _
  refine .attempt_bind Refusal ?_ (fun r => ?_) fun e he s hs => ?_
  · split
    · exact .bind (preserves_getBestBidAsk _) fun _ => .pure _
    · refine .bind (preserves_get _) fun payload => .bind (.raising _) fun price => ?_
      split
      · exact .pure _
      · exact .bind (preserves_query trivial) fun recorded => .ite (.pure _) (.pure _)
  · split
    · exact .pure _
    · exact .bind (preserves_marketDataFailed _) fun _ => .pure _
  · exact ends_marketDataFailed he hs (.pure _)

theorem preserves_prepareOrder (q : GateQuery) :
    Preserves (handler o c) E Inv Verified (prepareOrder q) := by
  unfold prepareOrder
  refine .bind (preserves_query trivial) fun answer => .bind (.raising _) fun plan => ?_
  split
  · exact .pure _
  · exact .pure _
  · refine .bind (preserves_getFreshMarketPrice _ _) fun price => ?_
    split
    · exact .pure _
    · exact .bind (preserves_query trivial) fun _ => .raising _
  · exact .bind (preserves_getFreshMarketPrice _ _) fun _ =>
      .bind (preserves_query trivial) fun _ => .raising _

theorem preserves_checkOrder (q : GateQuery) :
    Preserves (handler o c) E Inv Verified (checkOrder q) := by
  have hauthenticated : Preserves (handler o c) E Inv Verified (do
      if !(← authenticated) then return none
      prepareOrder q : Prog (Option PreparedOrder)) :=
    .bind (preserves_query trivial) fun _ => .ite (.pure _) (preserves_prepareOrder q)
  unfold checkOrder
  exact .ite (.bind (preserves_query trivial) fun s => .ite (.pure _) hauthenticated) hauthenticated

/-! ### Verification -/

/-- A reconciliation that was just awaited. -/
def Synced (before : AdapterState) (r : Except Exn Status) (s : AdapterState) : Prop :=
  ∃ sync, r = .ok sync ∧ Verified s ∧ Muted s ∧ s.lastSync = some sync ∧
    s.connection = before.connection

/-- A reconciliation leaves the state as it is, and the adapter unauthenticated if a refusal of the
step is not masked. -/
theorem ends_reconcile (h : Inv s) : Ends (handler o c) reconcile s (Synced s) := by
  refine ends_ask_bind.mpr (ends_raising.mpr ?_)
  obtain ⟨status, t, hrun, hreports⟩ :=
    reconcile_reports (clientAt o c s.asked) s.reconciliation
  have hask : (handler o c).ask .reconcile s =
      awaitReconcile (clientAt o c s.asked) { s with asked := s.asked + 1 } := rfl
  rw [hask]
  simp only [awaitReconcile, await, hrun, after]
  refine ⟨status, rfl, h.1, ?_, rfl, rfl⟩
  rcases h.2 with hmasked | hout
  · exact .inl (by simp [hmasked])
  cases hswallows : swallows (clientAt o c s.asked) s.reconciliation with
  | true => exact .inl (by simp)
  | false =>
    have hnoted := hreports hswallows
    cases hrefused : Authentication.refused (Reconciliation.reconcile (clientAt o c s.asked))
      s.reconciliation with
    | true =>
      exact .inr fun _ => by simp [AdapterState.authenticated, hnoted hrefused]
    | false =>
      cases hbefore : s.refused with
      | false => exact .inr fun ht => by simp at ht
      | true =>
        cases hcapabilities : s.capabilitiesAuthenticated with
        | true => exact .inl (by simp)
        | false => exact .inr fun _ => by simp [AdapterState.authenticated]

theorem ends_reconcileOrUnknown (h : Inv s) :
    Ends (handler o c) reconcileOrUnknown s (Synced s) := by
  unfold reconcileOrUnknown
  refine ends_attempt_bind.mpr ((ends_reconcile h).mono fun r t hr => ?_)
  obtain ⟨sync, rfl, hsynced⟩ := hr
  exact ends_pure.mpr ⟨sync, rfl, hsynced⟩

/-- Verified evidence is good evidence, and excludes a refusal that is not masked. -/
theorem ends_verified {sync : Status} (hverified : Verified s) (hmuted : Muted s)
    (hsync : s.lastSync = some sync) : Ends (handler o c) (verified sync) s fun r t =>
      ∃ ready, r = .ok ready ∧ Verified t ∧ Muted t ∧ (ready = true → t.evidence.Good) ∧
        t.connection = s.connection := by
  unfold verified
  split_ifs with hne
  · exact ends_pure.mpr ⟨false, rfl, hverified, hmuted, by simp, rfl⟩
  · rw [ne_eq, not_not] at hne
    refine ends_ask_bind.mpr ?_
    have hask : (handler o c).ask .privateStreamHealthy s =
        (o.answer (s.asked + 1) .privateStreamHealthy, { s with
          asked := s.asked + 1
          lastHealthy := some (o.answer (s.asked + 1) .privateStreamHealthy) }) := rfl
    rw [hask]
    cases hhealthy : o.answer (s.asked + 1) .privateStreamHealthy with
    | false => exact ends_pure.mpr ⟨false, rfl, hverified, hmuted, by simp, rfl⟩
    | true =>
      refine ends_ask.mpr ⟨_, rfl, hverified, hmuted, fun hready => ⟨?_, rfl, hready⟩, rfl⟩
      rw [← hne]
      exact hsync

theorem ends_settle (ready : Bool) (hverified : Verified s) (hmuted : Muted s)
    (hready : ready = true → s.evidence.Good) :
    Ends (handler o c) (settle ready) s fun r t => r = .ok () ∧ Inv t := by
  refine ends_ask.mpr ⟨rfl, ?_⟩
  cases ready with
  | true =>
    have hgood := hready rfl
    refine ⟨fun e he => ?_, ?_⟩
    · rcases List.mem_append.mp he with he | he
      · exact hverified e he
      · cases List.mem_singleton.mp he
        exact hgood
    · rcases hmuted with hmasked | hmuted
      · exact .inl hmasked
      · refine .inr fun hrefused => ?_
        have hnot : s.authenticated = false := hmuted hrefused
        have hyes : s.authenticated = true := hgood.2.2
        rw [hnot] at hyes
        cases hyes
  | false =>
    exact ⟨hverified, Muted.contained (s := { s with connection := .degraded }) hmuted nofun⟩

/-- The end of a verification: `g` may ask for more than the evidence. -/
theorem ends_judged {α : Type} {sync : Status} (g : Bool → Bool) {k : Bool → Prog α}
    (hg : ∀ ready, g ready = true → ready = true)
    (hk : ∀ ready, Preserves (handler o c) E Inv Verified (k ready)) (hverified : Verified s)
    (hmuted : Muted s) (hsync : s.lastSync = some sync) :
    Ends (handler o c) (verified sync >>= fun ready => settle (g ready) >>= fun _ => k ready) s
      (Preserved E Inv Verified) := by
  refine ends_bind.mpr ((ends_verified hverified hmuted hsync).mono fun r t hr => ?_)
  obtain ⟨ready, rfl, hverified, hmuted, hevidence, -⟩ := hr
  refine ends_bind.mpr ((ends_settle _ hverified hmuted fun h => hevidence (hg _ h)).mono
    fun r t hr => ?_)
  obtain ⟨rfl, hinv⟩ := hr
  exact hk ready t hinv

theorem preserves_judged {α : Type} (g : Bool → Bool) {k : Bool → Prog α}
    (hg : ∀ ready, g ready = true → ready = true)
    (hk : ∀ ready, Preserves (handler o c) E Inv Verified (k ready)) :
    Preserves (handler o c) E Inv Verified (reconcileOrUnknown >>= fun sync =>
      verified sync >>= fun ready => settle (g ready) >>= fun _ => k ready) := by
  refine fun s h => ends_bind.mpr ((ends_reconcileOrUnknown h).mono fun r t hr => ?_)
  obtain ⟨sync, rfl, hverified, hmuted, hsync, -⟩ := hr
  exact ends_judged g hg hk hverified hmuted hsync

theorem preserves_notify (order : ExecutionOrder) (notice : Notice) :
    Preserves (handler o c) E Inv Verified (notify order notice) := by
  unfold notify
  refine .bind (preserves_query trivial) fun answer => ?_
  split
  · exact .pure _
  · exact .bind (preserves_query (by simp [Harmless])) fun _ => preserves_query trivial

/-- What `_post_mutation_reconcile` awaits is synced, raises, or raises a refusal. -/
theorem preserves_postMutationReconcile (order : ExecutionOrder) (response : Json) :
    Preserves (handler o c) E Inv Verified (postMutationReconcile order response) := by
  unfold postMutationReconcile
  refine .bind (preserves_query trivial) fun _ s h => ends_attempt_bind.mpr ?_
  have hreconcile : ∀ t, Inv t → Ends (handler o c) reconcile t fun r u =>
      (∃ sync, r = .ok sync ∧ Verified u ∧ Muted u ∧ u.lastSync = some sync) ∨
        ∃ e, r = .error e ∧ (Inv u ∨ Verified u ∧ Refusal e) := fun t ht =>
    (ends_reconcile ht).mono fun r u ⟨sync, hr, hverified, hmuted, hsync, _⟩ =>
      .inl ⟨sync, hr, hverified, hmuted, hsync⟩
  have hbody : Ends (handler o c) (do
      if isFilled order then recoverFills order response
      reconcile : Prog Status) s fun r u =>
      (∃ sync, r = .ok sync ∧ Verified u ∧ Muted u ∧ u.lastSync = some sync) ∨
        ∃ e, r = .error e ∧ (Inv u ∨ Verified u ∧ Refusal e) := by
    split_ifs
    · refine ends_bind.mpr ((preserves_recoverFills order response s h).mono fun r t hr => ?_)
      cases r with
      | ok a => exact hreconcile t hr.ok
      | error e =>
        refine .inr ⟨e, rfl, ?_⟩
        rcases hr with hinv | ⟨hverified, e', he, hrefusal⟩
        · exact .inl hinv
        · cases he
          exact .inr ⟨hverified, hrefusal⟩
    · exact hreconcile s h
  refine hbody.mono fun r t hr => ?_
  rcases hr with ⟨sync, rfl, hverified, hmuted, hsync⟩ | ⟨e, rfl, hr⟩
  · exact ends_judged (fun ready => ready) (fun _ h => h)
      (fun ready => .pure ready) hverified hmuted hsync
  · have hother : Preserves (handler o c) E Inv Verified (do
        setLastStatusUnknown
        setState .degraded
        return false : Prog Bool) :=
      .bind (preserves_query trivial) fun _ =>
        .bind (preserves_query (by simp [Harmless])) fun _ => .pure false
    have hV : Verified t := hr.elim And.left And.left
    cases e with
    | authentication code message => exact ends_invalidate hV fun u hu => .inl hu
    | _ => exact hother t (hr.elim id fun h => by cases h.2)

/-! ### Submitting -/

theorem preserves_recoverPolled (order : ExecutionOrder) (response : Json) :
    Preserves (handler o c) E Inv Verified (recoverPolled order response) := by
  unfold recoverPolled
  refine .ite (preserves_try (preserves_recoverFills _ _) (fun r => ?_)
    fun _ _ => ⟨_, rfl, .pure _⟩) (.pure _)
  split
  · exact .pure _
  · exact preserves_invalidate (.pure _)
  · exact .bind (preserves_query trivial) fun _ => .pure _

theorem preserves_pollOnce (submission : Submission) {again : Prog (Option Poll)}
    (hagain : Preserves (handler o c) E Inv Verified again) :
    Preserves (handler o c) E Inv Verified (pollOnce c submission again) := by
  unfold pollOnce
  refine preserves_try (.bind (preserves_get _) fun response => .bind (.raising _) fun order =>
    .bind (preserves_query trivial) fun _ => .pure _) (fun r => ?_) fun _ _ => ⟨_, rfl, .pure _⟩
  split
  · exact preserves_recoverPolled _ _
  · exact preserves_invalidate (.pure _)
  · exact .ite hagain (.pure _)
  · exact .pure _

theorem preserves_pollOrder (submission : Submission) (attempts : ℕ) :
    Preserves (handler o c) E Inv Verified (pollOrder c submission attempts) := by
  induction attempts with
  | zero => exact preserves_pollOnce submission (.pure _)
  | succ attempts ih =>
    exact preserves_pollOnce submission (.bind (preserves_query trivial) fun _ => ih)

theorem preserves_resolveAmbiguousOrder (submission : Submission) :
    Preserves (handler o c) E Inv Verified (resolveAmbiguousOrder c submission) := by
  unfold resolveAmbiguousOrder
  refine .bind (preserves_query (by simp [Harmless])) fun _ =>
    .bind (preserves_pollOrder submission 2) fun poll => ?_
  split
  · exact .pure _
  · rename_i poll
    refine preserves_judged
      (fun ready => ready && poll.orderStatusKnown && poll.fillRecoveryVerified) (fun ready h => ?_)
        fun ready => .bind (preserves_query trivial) fun s =>
        .ite (.pure _) (.pure _)
    simp only [Bool.and_eq_true] at h
    exact h.1.1

theorem preserves_assertExecutionLease (risk : EconomicRiskClass) :
    Preserves (handler o c) E Inv Verified (assertExecutionLease risk) := by
  unfold assertExecutionLease
  exact .ite (.bind (preserves_query trivial) fun _ => .raising _) (.pure _)

theorem preserves_beforeRequest (submission : Submission) :
    Preserves (handler o c) E Inv Verified (beforeRequest c submission) := by
  have hrest : Preserves (handler o c) E Inv Verified (do
      upsertOrder (planned submission)
      assertExecutionLease submission.decision.riskClass
      return true : Prog Bool) :=
    .bind (preserves_query trivial) fun _ => .bind (preserves_assertExecutionLease _)
      fun _ => .pure _
  unfold beforeRequest
  refine .bind (preserves_query trivial) fun installed =>
    .ite ?_ (.ite (.bind (.throw _) fun _ => hrest) hrest)
  refine .bind (preserves_query trivial) fun answer => .bind (.raising _) fun durable => ?_
  exact .ite (.bind (preserves_query (by simp [Harmless])) fun _ => .pure _) hrest

theorem preserves_submissionFailed (submission : Submission) (submissionAttempted : Bool)
    (e : Exn) :
    Preserves (handler o c) E Inv Verified
      (submissionFailed c submission submissionAttempted e) := by
  have hdegraded (notice : Notice) : Preserves (handler o c) E Inv Verified (do
      notify (planned submission) notice
      setState .degraded
      return none : Prog (Option Executed)) :=
    .bind (preserves_notify _ _) fun _ => .bind (preserves_query (by simp [Harmless]))
      fun _ => .pure _
  unfold submissionFailed
  split
  · exact preserves_invalidate (.bind (preserves_notify _ _) fun _ => .pure _)
  · exact hdegraded _
  · exact hdegraded _
  · exact .bind (preserves_query trivial) fun _ => .bind (preserves_notify _ _) fun _ => .pure _
  · exact hdegraded _
  · refine .bind (preserves_notify _ _) fun _ =>
      .bind (preserves_resolveAmbiguousOrder submission) fun order => ?_
    split
    · exact .pure _
    · exact .bind (preserves_notify _ _) fun _ => .pure _
  · exact hdegraded _

theorem preserves_postOrder (submission : Submission) :
    Preserves (handler o c) Refusal Inv Verified (postOrder c submission) := by
  have hrest (response : Json) : Preserves (handler o c) Refusal Inv Verified (do
      let order ← raising (orderFromResponse submission.intent response submission.prepared
        submission.clientOrderId submission.decision false)
      upsertOrder order
      if !(← postMutationReconcile order response) then
        notify order .ambiguous
        return none
      notify order .confirmed
      return some ⟨order, order.status = "NEW" ∨ order.status = "PARTIALLY_FILLED"⟩ :
        Prog (Option Executed)) :=
    .bind (.raising _) fun order => .bind (preserves_query trivial) fun _ =>
      .bind (preserves_postMutationReconcile _ _) fun ready =>
        .ite (.bind (preserves_notify _ _) fun _ => .pure _)
          (.bind (preserves_notify _ _) fun _ => .pure _)
  unfold postOrder
  exact .bind (preserves_query trivial) fun hedgeMode => .bind (preserves_mutate _) fun response =>
    .ite (.bind (.throw _) fun _ => hrest response) (hrest response)

theorem preserves_submitOrder (submission : Submission) :
    Preserves (handler o c) E Inv Verified (submitOrder c submission) := by
  unfold submitOrder
  refine .bind (.attempt (preserves_beforeRequest submission)) fun before => ?_
  split
  · exact preserves_submissionFailed _ _ _
  · exact .pure _
  · refine preserves_try (preserves_postOrder submission) (fun r => ?_)
      fun _ _ => ⟨_, rfl, .bind (preserves_notify _ _) fun _ => .pure _⟩
    split
    · exact preserves_submissionFailed _ _ _
    · exact .pure _

/-- The check and the submission of an order keep the invariant, if the rest of the loop does. -/
theorem preserves_checkedOrder (emergency : Bool) (decision : ExecutionDecision) (index : ℕ)
    (reserved : Reserved) (intent : OrderIntent) {rest : List OrderIntent}
    (ih : ∀ index reserved, Preserves (handler o c) E Inv Verified
      (submitOrders c emergency decision index reserved rest)) :
    Preserves (handler o c) E Inv Verified (do
      match ← checkOrder {
          intent, riskClass := decision.riskClass, reservedOpenOrders := reserved.openOrders
          reservedNotional := reserved.notional, allowEmergencyFallback := emergency } with
      | none => submitOrders c emergency decision (index + 1) reserved rest
      | some prepared =>
        match ← submitOrder c
          ⟨intent, prepared, clientOrderId c decision intent prepared index, decision⟩ with
        | none => submitOrders c emergency decision (index + 1) reserved rest
        | some executed =>
          let reserved : Reserved := if executed.working then
              ⟨reserved.openOrders + 1, reserved.notional.add prepared.notional⟩ else reserved
          let orders ← submitOrders c emergency decision (index + 1) reserved rest
          return executed.order :: orders : Prog (List ExecutionOrder)) := by
  refine .bind (preserves_checkOrder _) fun prepared => ?_
  split
  · exact ih _ _
  · refine .bind (preserves_submitOrder _) fun executed => ?_
    split
    · exact ih _ _
    · exact .bind (ih _ _) fun _ => .pure _

theorem preserves_submitOrders (emergency : Bool) (decision : ExecutionDecision) (index : ℕ)
    (reserved : Reserved) (intents : List OrderIntent) :
    Preserves (handler o c) E Inv Verified
      (submitOrders c emergency decision index reserved intents) := by
  induction intents generalizing index reserved with
  | nil => exact .pure _
  | cons intent rest ih =>
    have hsubmit := preserves_checkedOrder emergency decision index reserved intent ih
    unfold submitOrders
    refine .ite (.bind preserves_testFlag fun active => .ite ?_ hsubmit) hsubmit
    exact .bind (preserves_query (by simp [Harmless])) fun _ => .pure _

theorem preserves_executeOrders (emergency : Bool) (decision : ExecutionDecision) :
    Preserves (handler o c) E Inv Verified (executeOrders c emergency decision) := by
  have hsubmit : Preserves (handler o c) E Inv Verified (do
      if decision.action = "NOOP" then return []
      submitOrders c emergency decision 0 {} decision.orders : Prog (List ExecutionOrder)) :=
    .ite (.pure _) (preserves_submitOrders emergency decision 0 {} decision.orders)
  unfold executeOrders
  refine .bind (preserves_query trivial) fun preflight => .ite (.pure _) ?_
  refine .bind (preserves_query trivial) fun authorized => .ite (.pure _) ?_
  exact .ite (.bind (preserves_query trivial) fun s => .ite (.pure _) hsubmit) hsubmit

theorem preserves_evaluateExecutionGate (decision : ExecutionDecision) :
    Preserves (handler o c) E Inv Verified (evaluateExecutionGate decision) := by
  unfold evaluateExecutionGate
  exact .bind preserves_flag fun active => .ite (.pure _) (preserves_query trivial)

theorem preserves_executeDecision (decision : ExecutionDecision) :
    Preserves (handler o c) E Inv Verified (executeDecision c decision) := by
  unfold executeDecision
  refine .bind (preserves_query trivial) fun preflight => .ite (.pure _) ?_
  refine .bind (preserves_query trivial) fun authorized => .ite (.pure _) ?_
  refine .bind (preserves_query trivial) fun callable => .ite (.pure _) ?_
  refine .bind (preserves_evaluateExecutionGate _) fun allowed => .ite (.pure _) (.withLock ?_)
  exact .bind (preserves_evaluateExecutionGate _) fun allowed =>
    .ite (.pure _) (preserves_executeOrders false decision)

/-! ### Cancelling and amending -/

theorem preserves_queryOrder (symbol id : String) :
    Preserves (handler o c) Refusal Inv Verified (queryOrder c symbol id) := by
  unfold queryOrder
  refine .attempt_bind Refusal (preserves_get _) (fun r => ?_) fun e he s hs => ?_
  · split
    · exact .pure _
    · exact .ite (.pure _) (.throw _)
    · exact .throw _
  · cases e with
    | authentication code message => exact .inr ⟨hs, _, rfl, rfl⟩
    | _ => cases he

theorem preserves_adoptStatus (id : String) (response : Json) :
    Preserves (handler o c) E Inv Verified (adoptStatus id response) := by
  unfold adoptStatus
  refine .bind (preserves_query trivial) fun order => ?_
  split
  · exact .pure _
  · exact .bind (.raising _) fun status => .ite (preserves_query trivial) (.pure _)

theorem preserves_unsettled {α : Type} {k : Prog α}
    (hk : Preserves (handler o c) E Inv Verified k) :
    Preserves (handler o c) E Inv Verified (reconcileOrUnknown >>= fun sync =>
      verified sync >>= fun _ => setState .degraded >>= fun _ => k) := by
  refine fun s h => ends_bind.mpr ((ends_reconcileOrUnknown h).mono fun r t hr => ?_)
  obtain ⟨sync, rfl, hverified, hmuted, hsync, -⟩ := hr
  refine ends_bind.mpr ((ends_verified hverified hmuted hsync).mono fun r t hr => ?_)
  obtain ⟨ready, rfl, hverified, hmuted, -, -⟩ := hr
  refine ends_bind.mpr ((ends_settle false hverified hmuted (by simp)).mono fun r t hr => ?_)
  obtain ⟨rfl, hinv⟩ := hr
  exact hk t hinv

theorem preserves_resolveAmbiguousCancel (symbol id : String) :
    Preserves (handler o c) E Inv Verified (resolveAmbiguousCancel c symbol id) := by
  have hsettle (response : Option Json) : Preserves (handler o c) E Inv Verified (do
      let sync ← reconcileOrUnknown
      let ready ← verified sync
      settle ready
      return response : Prog (Option Json)) :=
    preserves_judged (fun ready => ready) (fun _ h => h) fun _ => .pure _
  unfold resolveAmbiguousCancel
  refine .bind (preserves_query (by simp [Harmless])) fun _ =>
    preserves_try (preserves_queryOrder symbol id) (fun r => ?_) fun _ _ => ⟨_, rfl, .pure _⟩
  split
  · exact preserves_invalidate (.pure _)
  · exact preserves_unsettled (.pure _)
  · split
    · exact .bind (.attempt (preserves_adoptStatus id _)) fun _ => hsettle _
    · exact hsettle _

theorem preserves_resolvedCancel (symbol id : String) :
    Preserves (handler o c) E Inv Verified (resolvedCancel c symbol id) := by
  unfold resolvedCancel
  refine .bind (preserves_resolveAmbiguousCancel symbol id) fun resolved =>
    .bind (preserves_query trivial) fun s => .ite (.pure _) ?_
  split
  · exact .pure _
  · exact .raising _

theorem preserves_deleteOrder (symbol id : String) :
    Preserves (handler o c) Refusal Inv Verified (deleteOrder c symbol id) := by
  have hrest : Preserves (handler o c) Refusal Inv Verified (do
      setLastStatusUnknown
      let sync ← reconcileOrUnknown
      let ready ← verified sync
      settle ready
      return ready : Prog Bool) :=
    .bind (preserves_query trivial) fun _ =>
      preserves_judged (fun ready => ready) (fun _ h => h) fun ready => .pure ready
  unfold deleteOrder
  refine .bind (preserves_mutate _) fun response => .ite (preserves_resolvedCancel symbol id) ?_
  refine .bind (preserves_query trivial) fun order => ?_
  split
  · exact .bind (preserves_query trivial) fun _ => hrest
  · exact hrest

theorem preserves_cancelLocked (symbol id : String) :
    Preserves (handler o c) E Inv Verified (cancelLocked c symbol id) := by
  unfold cancelLocked
  refine .bind (preserves_query trivial) fun preflight => .ite (.pure _) ?_
  refine .bind (preserves_query trivial) fun authorized => .ite (.pure _) ?_
  refine .bind (preserves_query trivial) fun s => .ite (.pure _) ?_
  refine preserves_try (preserves_deleteOrder symbol id) (fun r => ?_) fun _ _ => ⟨_, rfl, .pure _⟩
  split
  · exact .pure _
  · exact preserves_invalidate (.pure _)
  · exact preserves_resolvedCancel symbol id
  · exact preserves_resolvedCancel symbol id
  · exact .bind (preserves_query (by simp [Harmless])) fun _ => .pure _

theorem preserves_cancelOrder (symbol id : String) :
    Preserves (handler o c) E Inv Verified (cancelOrder c symbol id) := by
  unfold cancelOrder
  refine .bind (preserves_query trivial) fun preflight => .ite (.pure _) ?_
  refine .bind (preserves_query trivial) fun authorized => .ite (.pure _) (.withLock ?_)
  exact .bind preserves_testFlag fun active => .ite (.pure _) (preserves_cancelLocked symbol id)

theorem preserves_putOrder (submission : Submission) :
    Preserves (handler o c) Refusal Inv Verified (putOrder c submission) := by
  have hrest (response : Json) : Preserves (handler o c) Refusal Inv Verified (do
      let amended ← raising (orderFromResponse submission.intent response submission.prepared
        submission.clientOrderId submission.decision false)
      upsertOrder amended
      if ← postMutationReconcile amended response then return some amended else return none :
        Prog (Option ExecutionOrder)) :=
    .bind (.raising _) fun amended => .bind (preserves_query trivial) fun _ =>
      .bind (preserves_postMutationReconcile _ _) fun ready => .ite (.pure _) (.pure _)
  unfold putOrder
  exact .bind (preserves_query trivial) fun hedgeMode =>
    .bind (preserves_assertExecutionLease _) fun _ => .bind (preserves_mutate _) fun response =>
      .ite (.bind (.throw _) fun _ => hrest response) (hrest response)

theorem preserves_submitAmendment (submission : Submission) :
    Preserves (handler o c) E Inv Verified (submitAmendment c submission) := by
  unfold submitAmendment
  refine .bind (preserves_query trivial) fun callable => .ite (.pure _) ?_
  refine .bind (preserves_evaluateExecutionGate _) fun allowed => .ite (.pure _) ?_
  refine preserves_try (preserves_putOrder submission) (fun r => ?_) fun _ _ => ⟨_, rfl, .pure _⟩
  split
  · exact .pure _
  · exact preserves_invalidate (.pure _)
  · exact .pure _
  · exact .pure _
  · exact .pure _
  · exact preserves_resolveAmbiguousOrder submission
  · exact .bind (preserves_query (by simp [Harmless])) fun _ => .pure _

theorem preserves_modifyLocked (a : Amendment) :
    Preserves (handler o c) E Inv Verified (modifyLocked c a) := by
  unfold modifyLocked
  refine .bind (preserves_query trivial) fun preflight => .ite (.pure _) ?_
  refine .bind (preserves_query trivial) fun authorized => .ite (.pure _) ?_
  refine .bind (preserves_query trivial) fun s => .ite (.pure _) ?_
  refine .bind (preserves_query trivial) fun existing => ?_
  split
  · exact .pure _
  · split
    · exact .pure _
    · refine .bind (preserves_checkOrder _) fun prepared => ?_
      split
      · exact .pure _
      · exact preserves_submitAmendment _

theorem preserves_modifyOrder (a : Amendment) :
    Preserves (handler o c) E Inv Verified (modifyOrder c a) := by
  unfold modifyOrder
  refine .bind (preserves_query trivial) fun preflight => .ite (.pure _) ?_
  refine .bind (preserves_query trivial) fun authorized => .ite (.pure _) (.withLock ?_)
  exact .bind preserves_testFlag fun active => .ite (.pure _) (preserves_modifyLocked a)

/-! ### Emergency flattening -/

/-- A position the loop of `_emergency_flatten` reads and passes over. -/
def passedOver (symbol : Option String) (position : Json) : Bool :=
  let currentSymbol := upperOf (getOr position "symbol" (.str ""))
  match decimalOf (getOr position "positionAmt" (.str "0")),
      PositionSide.ofValue (upperOf (getOr position "positionSide" (.str "BOTH"))) with
  | some (.finite amount), some _ =>
    currentSymbol = "" || amount.isZero || !selected symbol currentSymbol
  | _, _ => false

/-- `emergency_flatten` in front of its loop: the positions, if it comes so far. -/
def flattenInputs (c : Config) : Prog (Option (List Json)) := do
  if ← preflightOnly then return none
  if !(← workerAuthorized) then return none
  if ← preflightOnly then return none
  if !(← workerAuthorized) then return none
  match ← attempt (Adapter.get ⟨positionRiskPath c, []⟩) with
  | .ok (.arr positions) =>
    match ← query (.replacePositions positions) with
    | .error _ => return none
    | .ok () => return some positions
  | _ => return none

/-- A reconciliation that starts in this state is refused. -/
def ReconcileRefused (o : Environment) (c : Config) (s : AdapterState) : Prop :=
  Authentication.refused (Reconciliation.reconcile (clientAt o c s.asked)) s.reconciliation = true

/-- `emergency_flatten` finds nothing to flatten while the adapter is `READY`, and the
reconciliation behind its loop is refused. -/
def IdleRefused (o : Environment) (c : Config) (symbol : Option String) (s : AdapterState) : Prop :=
  Ends (handler o c) (flattenInputs c) s fun r t =>
    ∃ positions, r = .ok (some positions) ∧ positions.all (passedOver symbol) = true ∧
      t.connection = .ready ∧ ReconcileRefused o c t

theorem preserves_flattenPositions (symbol : Option String) (attempted : ℕ)
    (positions : List Json) :
    Preserves (handler o c) E Inv Verified (flattenPositions c symbol attempted positions) := by
  induction positions generalizing attempted with
  | nil => exact .pure _
  | cons position rest ih =>
    unfold flattenPositions
    refine .guard ?_
    split
    · refine .ite (ih _) (.bind (preserves_executeOrders _ _) fun orders => .bind (ih _)
        fun more => ?_)
      exact .pure _
    · exact .throw _
    · exact .pure _

/-- The number of orders only grows, and stays only if every position was passed over. -/
theorem ends_flattenPositions (symbol : Option String) (attempted : ℕ) (positions : List Json) :
    Ends (handler o c) (flattenPositions c symbol attempted positions) s fun r t =>
      ∀ orders n, r = .ok (orders, some n) → attempted ≤ n ∧
        (n = attempted → positions.all (passedOver symbol) = true ∧ t = s) := by
  induction positions generalizing attempted s with
  | nil =>
    refine ends_pure.mpr fun orders n h => ?_
    cases h
    exact ⟨le_rfl, fun _ => ⟨rfl, rfl⟩⟩
  | cons position rest ih =>
    unfold flattenPositions
    refine ends_guard.mpr ⟨fun _ => ?_, fun _ => ?_⟩
    · intro orders n h
      cases h
    · split
      · rename_i amount positionSide hamount hside
        dsimp only
        split_ifs with hskip
        · refine (ih attempted).mono fun r t hr orders n h => ?_
          obtain ⟨hle, hidle⟩ := hr orders n h
          refine ⟨hle, fun hn => ?_⟩
          obtain ⟨hall, rfl⟩ := hidle hn
          refine ⟨?_, rfl⟩
          rw [List.all_cons, hall, Bool.and_true, passedOver, hamount, hside]
          exact hskip
        · refine ends_bind.mpr (ends_trivial.mono fun r t _ => ?_)
          cases r with
          | error e =>
            intro orders n h
            cases h
          | ok first =>
            refine ends_bind.mpr ((ih (attempted + 1)).mono fun r u hr => ?_)
            cases r with
            | error e =>
              intro orders n h
              cases h
            | ok more =>
              obtain ⟨more, m⟩ := more
              refine ends_pure.mpr fun orders n h => ?_
              cases h
              have hle := (hr _ n rfl).1
              exact ⟨by omega, by omega⟩
      · intro orders n h
        cases h
      · intro orders n h
        cases h

theorem preserves_verified (sync : Status) :
    Preserves (handler o c) E Inv Verified (verified sync) := by
  unfold verified
  exact .ite (.pure _) (.bind (preserves_query trivial) fun _ =>
    .ite (.pure _) (preserves_query trivial))

/-- A reconciliation contains its refusal if the adapter is not `READY`. -/
theorem ends_reconcile_contained (h : Inv s) : Ends (handler o c) reconcileOrUnknown s fun _ t =>
    ¬ (s.connection = .ready ∧ ReconcileRefused o c s) → Contained t := by
  by_cases hready : s.connection = .ready
  · obtain ⟨status, t, hrun, -⟩ := reconcile_reports (clientAt o c s.asked) s.reconciliation
    have hask : (handler o c).ask .reconcile s =
        awaitReconcile (clientAt o c s.asked) { s with asked := s.asked + 1 } := rfl
    unfold reconcileOrUnknown
    refine ends_attempt_bind.mpr (ends_ask_bind.mpr (ends_raising.mpr ?_))
    rw [hask]
    simp only [awaitReconcile, await, hrun, after]
    refine ends_pure.mpr fun hidle => ?_
    have hnot : Authentication.refused (Reconciliation.reconcile (clientAt o c s.asked))
        s.reconciliation = false := by simpa [hready, ReconcileRefused] using hidle
    rcases h.2 with hmasked | hout
    · exact .inl (by simp [hmasked])
    · cases hrefused : s.refused with
      | true => exact absurd hready (hout hrefused).2
      | false => exact .inr fun ht => by simp [hnot] at ht
  · refine (ends_reconcileOrUnknown h).mono fun r t hr _ => ?_
    obtain ⟨sync, -, -, hmuted, -, hconnection⟩ := hr
    exact hmuted.contained (hconnection ▸ hready)

theorem ends_verified_contained (sync : Status) (hverified : Verified s) :
    Ends (handler o c) (verified sync) s fun _ t => Contained s → Inv t := by
  by_cases hcontained : Contained s
  · refine (preserves_verified (E := fun _ => False) sync s ⟨hverified, hcontained⟩).mono
      fun r t hr _ => ?_
    exact hr.elim id fun h => h.2.elim fun _ he => he.2.elim
  · exact ends_trivial.mono fun _ _ _ h => absurd h hcontained

/-- The end of `_emergency_flatten`: with no attempt the state stays as it is. -/
theorem ends_flattenEnd (flattened : List ExecutionOrder) (attempted : ℕ) (h : Inv s) :
    Ends (handler o c) (do
      let sync ← reconcileOrUnknown
      let ready ← verified sync
      if ready && attempted ≤ flattened.length then setState .ready
      else if !flattened.isEmpty || attempted ≠ 0 then setState .degraded
      return flattened) s fun _ t => Verified t ∧
        (¬ (attempted = 0 ∧ s.connection = .ready ∧ ReconcileRefused o c s) → Inv t) := by
  refine ends_bind.mpr (((ends_reconcileOrUnknown h).and (ends_reconcile_contained h)).mono
    fun r t hr => ?_)
  obtain ⟨⟨sync, rfl, hverified, hmuted, hsync, -⟩, hcontained⟩ := hr
  refine ends_bind.mpr (((ends_verified hverified hmuted hsync).and
    (ends_verified_contained sync hverified)).mono fun r u hr => ?_)
  obtain ⟨⟨ready, rfl, hverified, hmuted, hevidence, -⟩, hinv⟩ := hr
  dsimp only
  split_ifs with hready hattempted
  · rw [Bool.and_eq_true] at hready
    refine ends_bind.mpr ((ends_settle true hverified hmuted fun _ => hevidence hready.1).mono
      fun r v hr => ?_)
    obtain ⟨rfl, hv⟩ := hr
    exact ends_pure.mpr ⟨hv.1, fun _ => hv⟩
  · refine ends_bind.mpr ((ends_settle false hverified hmuted (by simp)).mono fun r v hr => ?_)
    obtain ⟨rfl, hv⟩ := hr
    exact ends_pure.mpr ⟨hv.1, fun _ => hv⟩
  · have hzero : attempted = 0 := by
      simp only [Bool.or_eq_true, Bool.not_eq_true', decide_eq_true_eq, not_or,
        not_not] at hattempted
      exact hattempted.2
    exact ends_pure.mpr ⟨hverified, fun hidle => hinv (hcontained fun hr => hidle ⟨hzero, hr⟩)⟩

theorem ends_flattenLoop (symbol : Option String) (positions : List Json) (h : Inv s) :
    Ends (handler o c) (do
      let (flattened, attempted) ← flattenPositions c symbol 0 positions
      match attempted with
      | none => return flattened
      | some attempted =>
        let sync ← reconcileOrUnknown
        let ready ← verified sync
        if ready && attempted ≤ flattened.length then setState .ready
        else if !flattened.isEmpty || attempted ≠ 0 then setState .degraded
        return flattened) s fun _ t => Verified t ∧
          (¬ (positions.all (passedOver symbol) = true ∧ s.connection = .ready ∧
            ReconcileRefused o c s) → Inv t) := by
  refine ends_bind.mpr
    (((preserves_flattenPositions (E := fun _ => False) symbol 0 positions s h).and
    (ends_flattenPositions symbol 0 positions)).mono fun r t hr => ?_)
  obtain ⟨hkept, hcount⟩ := hr
  have ht : Inv t := hkept.elim id fun h => h.2.elim fun _ he => he.2.elim
  cases r with
  | error e => exact ⟨ht.1, fun _ => ht⟩
  | ok result =>
    obtain ⟨flattened, attempted⟩ := result
    cases attempted with
    | none => exact ends_pure.mpr ⟨ht.1, fun _ => ht⟩
    | some attempted =>
      refine (ends_flattenEnd flattened attempted ht).mono fun r u hr => ⟨hr.1,
        fun hidle => hr.2 ?_⟩
      rintro ⟨hzero, hready⟩
      obtain ⟨hall, rfl⟩ := (hcount flattened attempted rfl).2 hzero
      exact hidle ⟨hall, hready⟩

/-- `x` ends verified, and with the invariant unless `y` ends with `P`. -/
def EndsUnless {α β : Type} (o : Environment) (c : Config) (x : Prog α) (y : Prog β)
    (P : Except Exn β → AdapterState → Prop) (s : AdapterState) : Prop :=
  Ends (handler o c) x s fun _ t => Verified t ∧ (¬ Ends (handler o c) y s P → Inv t)

theorem endsUnless_checked {α β : Type} {q : Ask} {g : q.Answer → Bool} {a : α} {b : β} {x : Prog α}
    {y : Prog β} {P : Except Exn β → AdapterState → Prop} (hq : Harmless q) (h : Inv s)
    (hrest : ∀ t, Inv t → EndsUnless o c x y P t) :
    EndsUnless o c (query q >>= fun r => if g r then pure a else x)
      (query q >>= fun r => if g r then pure b else y) P s := by
  have hinv : Inv ((handler o c).ask q s).2 := inv_answer hq h
  refine ends_ask_bind.mpr ?_
  by_cases hr : g ((handler o c).ask q s).1 = true
  · rw [if_pos hr]
    exact ends_pure.mpr ⟨hinv.1, fun _ => hinv⟩
  · rw [if_neg hr]
    refine (hrest _ hinv).mono fun r t ht => ⟨ht.1, fun hidle => ht.2 fun hy => hidle ?_⟩
    refine ends_ask_bind.mpr ?_
    rw [if_neg hr]
    exact hy

/-- `emergency_flatten` keeps the invariant unless it is refused while there is nothing to
flatten. -/
theorem ends_emergencyFlatten (symbol : Option String) (h : Inv s) :
    Ends (handler o c) (emergencyFlatten c symbol) s fun _ t =>
      Verified t ∧ (¬ IdleRefused o c symbol s → Inv t) := by
  refine endsUnless_checked (g := fun b => b) (q := .preflightOnly) trivial h fun s h => ?_
  refine endsUnless_checked (g := fun b => !b) (q := .workerAuthorized) trivial h fun s h => ?_
  refine ends_withLock.mpr ?_
  refine endsUnless_checked (g := fun b => b) (q := .preflightOnly) trivial h fun s h => ?_
  refine endsUnless_checked (g := fun b => !b) (q := .workerAuthorized) trivial h fun s h => ?_
  have hget := preserves_get (o := o) (c := c) ⟨positionRiskPath c, []⟩ s h
  refine ends_attempt_bind.mpr ((hget.and ends_self).mono fun r t hr => ?_)
  obtain ⟨hget, hself⟩ := hr
  cases r with
  | error e =>
    cases e with
    | authentication code message =>
      refine ends_invalidate (k := fun _ => pure []) (hget.elim And.left And.left) fun u hu => ?_
      exact ends_pure.mpr ⟨hu.1, fun _ => hu⟩
    | _ =>
      have ht : Inv t := hget.elim id fun ⟨_, e, he, hr⟩ => by
        cases he
        cases hr
      exact ends_pure.mpr ⟨ht.1, fun _ => ht⟩
  | ok answer =>
    have ht : Inv t := hget.ok
    cases answer with
    | arr positions =>
      refine ends_ask_bind.mpr ?_
      have hinv : Inv ((handler o c).ask (.replacePositions positions) t).2 := inv_answer trivial ht
      cases hreplace : ((handler o c).ask (.replacePositions positions) t).1 with
      | error e =>
        refine ends_ask_bind.mpr (ends_ask_bind.mpr (ends_pure.mpr ?_))
        have hunknown := inv_answer (o := o) (c := c) (q := .setLastStatusUnknown) trivial hinv
        have hdegraded := inv_answer (o := o) (c := c) (q := .setState .degraded) nofun hunknown
        exact ⟨hdegraded.1, fun _ => hdegraded⟩
      | ok done =>
        refine (ends_flattenLoop symbol positions hinv).mono fun r u hr => ⟨hr.1,
          fun hidle => hr.2 ?_⟩
        refine fun hflat => hidle (ends_attempt_bind.mpr (hself _ (ends_ask_bind.mpr ?_)))
        rw [hreplace]
        exact ends_pure.mpr ⟨positions, rfl, hflat⟩
    | _ => exact ends_pure.mpr ⟨ht.1, fun _ => ht⟩

/-! ### The connection -/

/-- Nothing was refused in the step so far, and the adapter is not `READY`. -/
def Fresh (s : AdapterState) : Prop := Verified s ∧ s.refused = false ∧ s.connection ≠ .ready

/-- What is left of it when something was refused. -/
def Down (s : AdapterState) : Prop := Verified s ∧ s.connection ≠ .ready

theorem Fresh.inv (h : Fresh s) : Inv s := ⟨h.1, .inr fun hr => by rw [h.2.1] at hr; cases hr⟩

theorem fresh_answer {q : Ask} (hq : Harmless q ∨ ∃ b, q = .setAuthenticated b) (h : Fresh s) :
    Fresh (answerOf o c q s).2 := by
  obtain ⟨hverified, hrefused, hready⟩ := h
  cases q with
  | setState connection =>
    rcases hq with hq | ⟨b, hb⟩
    · have hne : connection ≠ .ready := hq
      exact ⟨by simpa [answerOf, hne, Verified] using hverified, hrefused, hne⟩
    · cases hb
  | invalidateAuthentication => exact ⟨hverified, hrefused, nofun⟩
  | replacePositions positions =>
    simp only [answerOf]
    cases Ledger.replacePositions positions s.reconciliation.ledger with
    | ok l => exact ⟨hverified, hrefused, hready⟩
    | error e => exact ⟨hverified, hrefused, hready⟩
  | reconcile | recoverOrderFills order response | request request | listenKey =>
    rcases hq with hq | ⟨b, hb⟩
    · exact hq.elim
    · cases hb
  | _ => exact ⟨hverified, hrefused, hready⟩

/-- Any exception leaves the adapter down. -/
abbrev Fails (_ : Exn) : Prop := True

theorem fresh_query {q : Ask} (hq : Harmless q ∨ ∃ b, q = .setAuthenticated b) :
    Preserves (handler o c) Fails Fresh Down (query q) := .ask fun _ => fresh_answer hq

theorem fresh_get (r : Request) : Preserves (handler o c) Fails Fresh Down (Adapter.get r) := by
  refine fun s h => ends_ask_bind.mpr (ends_raising.mpr ?_)
  obtain ⟨hverified, hrefused, hready⟩ := h
  have hask : (handler o c).ask (.request r) s =
      await (Recovery.request (clientAt o c s.asked) r) { s with asked := s.asked + 1 } := rfl
  rw [hask]
  have hloud : Loud (Recovery.request (clientAt o c s.asked) r) s.reconciliation := .request r
  unfold await
  cases hrun : (Recovery.request (clientAt o c s.asked) r).run s.reconciliation with
  | error e t => exact .inr ⟨⟨hverified, hready⟩, e, rfl, trivial⟩
  | ok v t =>
    refine .inl ⟨hverified, ?_, hready⟩
    cases hr :
      Authentication.refused (Recovery.request (clientAt o c s.asked) r) s.reconciliation with
    | false => simp [hrefused]
    | true =>
      obtain ⟨e, u, he, -⟩ := hloud.refused hr
      rw [hrun] at he
      cases he

theorem fresh_discoverAccount : Preserves (handler o c) Fails Fresh Down (discoverAccount c) := by
  unfold discoverAccount
  refine .ite (.bind (fresh_get _) fun account => .guard (.bind (fresh_get _) fun mode =>
    .guard (.pure _))) (.bind (fresh_get _) fun account => ?_)
  exact .guard (.bind (fresh_get _) fun mode => .guard (.pure _))

/-- The discovery of the capabilities leaves a step fresh or the adapter out. -/
theorem ends_discover (h : Fresh s) : Ends (handler o c) (discover c) s fun r t =>
    (∃ discovered, r = .ok discovered) ∧ Inv t ∧ t.connection ≠ .ready := by
  unfold discover
  refine ends_ask_bind.mpr (ends_attempt_bind.mpr ?_)
  have hbody : Preserves (handler o c) Fails Fresh Down (do
      let tradeAuthorized ← discoverAccount c
      let exchangeInfo ← Adapter.get ⟨"/fapi/v1/exchangeInfo", []⟩
      let hasRules ← raising (← query (.parseRules exchangeInfo))
      query (.setAuthenticated hasRules)
      return hasRules && tradeAuthorized : Prog Bool) :=
    .bind fresh_discoverAccount fun tradeAuthorized => .bind (fresh_get _) fun info =>
      .bind (fresh_query (.inl trivial)) fun rules => .bind (.raising _) fun hasRules =>
        .bind (fresh_query (.inr ⟨_, rfl⟩)) fun _ => .pure _
  refine (hbody _ (fresh_answer (o := o) (c := c) (q := .clearCapabilities) (.inl trivial) h)).mono
    fun r t hr => ?_
  cases r with
  | ok discovered => exact ⟨⟨_, rfl⟩, hr.ok.inv, hr.ok.2.2⟩
  | error e =>
    have hdown : Down t := hr.elim (fun hfresh => ⟨hfresh.1, hfresh.2.2⟩) And.left
    exact ⟨⟨_, rfl⟩, ⟨hdown.1, .of_out ⟨rfl, hdown.2⟩⟩, hdown.2⟩

theorem preserves_startStream : Preserves (handler o c) E Inv Verified startStream := by
  have hlisten : Preserves (handler o c) Refusal Inv Verified
      (do raising (← query .listenKey) : Prog Json) := by
    refine fun s h => ends_ask_bind.mpr (ends_raising.mpr ?_)
    have hask : (handler o c).ask .listenKey s = (o.answer (s.asked + 1) .listenKey, { s with
        asked := s.asked + 1
        refused := s.refused || isRefused (o.answer (s.asked + 1) .listenKey)
        lastSync := none }) := rfl
    rw [hask]
    cases hdata : o.answer (s.asked + 1) .listenKey with
    | ok data => exact .inl (inv_congr h rfl rfl (by simp [isRefused]) id)
    | error e =>
      cases hauth : e.isAuthentication with
      | true => exact .inr ⟨h.1, e, rfl, hauth⟩
      | false => exact .inl (inv_congr h rfl rfl (by simp [isRefused, hauth]) id)
  unfold startStream
  refine preserves_try hlisten (fun r => ?_) fun _ _ => ⟨_, rfl, .pure _⟩
  split
  · exact .ite (preserves_query trivial) (.pure _)
  · exact preserves_invalidate (.pure _)
  · exact .pure _

/-- The end of `connect` and of a reconnection keeps the invariant. -/
theorem preserves_synchronize : Preserves (handler o c) E Inv Verified synchronize := by
  unfold synchronize
  refine .bind (preserves_query (by simp [Harmless])) fun _ s h => ?_
  refine ends_bind.mpr ((ends_reconcile h).mono fun r t hr => ?_)
  obtain ⟨sync, rfl, hverified, hmuted, hsync, -⟩ := hr
  refine ends_ask_bind.mpr ?_
  dsimp only
  split_ifs
  · exact ends_ask_bind.mpr (ends_judged (fun ready => ready) (fun _ h => h)
      (fun ready => .pure ready)
      hverified (.inr fun _ => rfl) hsync)
  · exact ends_judged (fun ready => ready) (fun _ h => h) (fun ready => .pure ready)
      hverified hmuted hsync

theorem preserves_discovered (discovered : Bool) : Preserves (handler o c) E Inv Verified (do
    if !discovered then
      setState .degraded
      return false
    setState .streamStarting
    if !(← startStream) then
      setState .degraded
      return false
    synchronize : Prog Bool) := by
  have hdegraded : Preserves (handler o c) E Inv Verified (do
      setState .degraded
      return false : Prog Bool) :=
    .bind (preserves_query (by simp [Harmless])) fun _ => .pure _
  exact .ite hdegraded (.bind (preserves_query (by simp [Harmless])) fun _ =>
    .bind preserves_startStream fun started => .ite hdegraded preserves_synchronize)

/-- `connect` starts from a step in which nothing was refused. -/
theorem ends_connect (hverified : Verified s) (hrefused : s.refused = false) :
    Ends (handler o c) (connect c) s fun _ t => Inv t := by
  unfold connect
  refine ends_ask_bind.mpr (ends_attempt_bind.mpr ?_)
  have hfresh : Fresh ((handler o c).ask (.setState .connecting) s).2 :=
    ⟨hverified, hrefused, by simp [handler, answerOf]⟩
  generalize ((handler o c).ask (.setState .connecting) s).2 = t at hfresh ⊢
  have hasked := fresh_answer (o := o) (c := c) (q := .initSession) (.inl trivial) hfresh
  have hbody : Ends (handler o c) (do
      raising (← query .initSession)
      setState .authenticating
      if !(← discover c) then
        setState .degraded
        return false
      setState .streamStarting
      if !(← startStream) then
        setState .degraded
        return false
      synchronize : Prog Bool) t fun _ u => Inv u := by
    refine ends_ask_bind.mpr (ends_bind.mpr (ends_raising.mpr ?_))
    cases ((handler o c).ask .initSession t).1 with
    | error e => exact hasked.inv
    | ok session =>
      refine ends_ask_bind.mpr (ends_bind.mpr ?_)
      have hauthenticating := fresh_answer (o := o) (c := c) (q := .setState .authenticating)
        (.inl (by simp [Harmless])) hasked
      refine (ends_discover hauthenticating).mono fun r u hr => ?_
      obtain ⟨⟨discovered, rfl⟩, hinv, -⟩ := hr
      refine (preserves_discovered (E := fun _ => False) discovered u hinv).mono fun r v hr => ?_
      exact hr.elim id fun h => h.2.elim fun _ he => he.2.elim
  refine hbody.mono fun r t ht => ?_
  cases r with
  | ok connected => exact ht
  | error e => exact ends_invalidate (k := fun _ => pure false) ht.1 fun u hu => ends_pure.mpr hu

theorem preserves_onUserStreamDisconnect :
    Preserves (handler o c) E Inv Verified onUserStreamDisconnect := by
  unfold onUserStreamDisconnect
  refine fun s h => ends_ask_bind.mpr (ends_attempt_bind.mpr ?_)
  have hdegraded : Inv ((handler o c).ask (.setState .degraded) s).2 :=
    inv_answer (o := o) (c := c) (q := .setState .degraded) nofun h
  refine ends_bind.mpr ((ends_reconcile hdegraded).mono fun r t hr => ?_)
  obtain ⟨sync, rfl, hverified, hmuted, -, hconnection⟩ := hr
  refine ends_ask_bind.mpr ?_
  split_ifs
  · exact .inl ⟨hverified, .of_out ⟨rfl, nofun⟩⟩
  · exact .inl ⟨hverified, hmuted.contained (hconnection ▸ nofun)⟩

theorem preserves_refreshMarketData (symbols : List String) :
    Preserves (handler o c) E Inv Verified (refreshMarketData symbols) := by
  induction symbols with
  | nil => exact .pure _
  | cons symbol symbols ih => exact .bind (preserves_getBestBidAsk symbol) fun _ => ih

theorem preserves_close : Preserves (handler o c) E Inv Verified close :=
  .bind (preserves_query trivial) fun _ => .bind (.raising _) fun _ =>
    .bind (preserves_query trivial) fun _ => preserves_query (by simp [Harmless])

end Methods

/-! ### Runs -/

section Runs

variable (o : Environment) (c : Config)

/-- No refusal of the step is masked, and the step is no `emergency_flatten` that is refused while
there is nothing to flatten. -/
def Sound (s : AdapterState) (call : Call) : Prop :=
  (step o c s call).2.masked = false ∧
    ∀ symbol, call = .emergencyFlatten symbol → ¬ IdleRefused o c symbol (begin s)

/-- One step: the evidence is good, and the refusals of a sound step are contained. -/
theorem inv_step (s : AdapterState) (call : Call) (h : Verified s) :
    Verified (step o c s call).2 ∧
      ((∀ symbol, call = .emergencyFlatten symbol → ¬ IdleRefused o c symbol (begin s)) →
        Inv (step o c s call).2) := by
  have hbegin : Inv (begin s) := ⟨h, .inr nofun⟩
  have htask : ∀ {α : Type} (x : Prog α) (P : AdapterState → Prop),
      Ends (handler o c) x (begin s) (fun _ t => P t) →
        P (perform (handler o c) (task x) (begin s)).2 := by
    intro α x P hx
    unfold task
    rw [perform_bind]
    exact hx
  have hkeeps : ∀ {α : Type} {x : Prog α}, Preserves (handler o c) (fun _ => False) Inv Verified x →
      Inv (perform (handler o c) (task x) (begin s)).2 := fun {α x} hx =>
    htask x Inv ((hx _ hbegin).mono fun r t hr => hr.elim id fun h =>
      h.2.elim fun _ he => he.2.elim)
  have hinv : (∀ symbol, call ≠ .emergencyFlatten symbol) → Inv (step o c s call).2 := by
    intro hne
    cases call with
    | connect => exact htask _ Inv (ends_connect h rfl)
    | onUserStreamDisconnect => exact hkeeps preserves_onUserStreamDisconnect
    | onUserStreamReconnected => exact hkeeps (preserves_synchronize.bind fun _ => .pure ())
    | executeDecision decision => exact hkeeps (preserves_executeDecision decision)
    | modifyOrder amendment => exact hkeeps (preserves_modifyOrder amendment)
    | cancelOrder symbol id => exact hkeeps (preserves_cancelOrder symbol id)
    | emergencyFlatten symbol => exact absurd rfl (hne symbol)
    | refreshMarketData symbols => exact hkeeps (preserves_refreshMarketData symbols)
    | getFreshMarketPrice symbol side => exact hkeeps (preserves_getFreshMarketPrice symbol side)
    | close => exact hkeeps preserves_close
  cases call with
  | emergencyFlatten symbol =>
    have hflat := htask _ _ (ends_emergencyFlatten (o := o) (c := c) symbol hbegin)
    exact ⟨hflat.1, fun hidle => hflat.2 (hidle symbol rfl)⟩
  | _ => exact ⟨(hinv nofun).1, fun _ => hinv nofun⟩

/-- A sound step contains its refusals. -/
def Sober (s : AdapterState) : Prop := Verified s ∧ s.masked = false ∧ (s.refused = true → Out s)

theorem sober_step (s : AdapterState) (call : Call) (h : Sober s) (hsound : Sound o c s call) :
    Sober (step o c s call).2 := by
  obtain ⟨hmasked, hidle⟩ := hsound
  obtain ⟨hverified, hinv⟩ := inv_step o c s call h.1
  rcases (hinv hidle).2 with hm | hout
  · rw [hmasked] at hm
    cases hm
  · exact ⟨hverified, hmasked, hout⟩

/-- **Ready on evidence**: in every run the state becomes `READY` on good evidence only, and if
every step is sound a step in which the authentication is refused ends unauthenticated and not
`READY`. -/
theorem ready_on_evidence (l : InMemoryLedger) (calls : List Call) :
    Verified (Machine.run (step o c) (newAdapter l) calls).2 ∧
      (Machine.Admitted (step o c) (Sound o c) (newAdapter l) calls →
        (Machine.run (step o c) (newAdapter l) calls).2.refused = true →
          Out (Machine.run (step o c) (newAdapter l) calls).2) := by
  have hnew : Verified (newAdapter l) := nofun
  have htrue : Machine.Admitted (step o c) (fun _ _ => True) (newAdapter l) calls :=
    Machine.admitted_of_forall fun _ _ => trivial
  refine ⟨Machine.run_inv (fun s call h _ => (inv_step o c s call h).1) hnew htrue,
    fun hsound => ?_⟩
  have hsober : Sober (Machine.run (step o c) (newAdapter l) calls).2 :=
    Machine.run_inv (sober_step o c) ⟨hnew, rfl, nofun⟩ hsound
  exact hsober.2.2

end Runs

/-! ### An emergency with nothing to flatten -/

section Example

/-- The account of an empty Testnet account. -/
private def flatAccount : Json := .obj [
  ("canTrade", .bool true),
  ("assets", .arr [.obj [("asset", .str "USDT"), ("walletBalance", .str "0"),
    ("marginBalance", .str "0"), ("availableBalance", .str "0"), ("unrealizedProfit", .str "0"),
    ("initialMargin", .str "0"), ("maintMargin", .str "0"), ("positionInitialMargin", .str "0")]])]

/-- A Testnet exchange without positions and orders; the requests with the given numbers are
refused. -/
private def flatExchange (refusals : List ℕ) (n : ℕ) (r : Request) : Except Exn Json :=
  if refusals.contains n then .error (.authentication (-2015) "Invalid API-key, IP, or permissions")
  else if r.path = "/fapi/v2/account" then .ok flatAccount
  else if r.path = "/fapi/v1/positionSide/dual" then .ok (.obj [("dualSidePosition", .bool false)])
  else if r.path = "/fapi/v1/exchangeInfo" then .ok (.obj [("symbols", .arr [])])
  else .ok (.arr [])

/-- An environment in which everything else goes well. -/
private def flatEnvironment (refusals : List ℕ) : Environment where
  now _ := 0
  exchange := flatExchange refusals
  reply _ _ := .ok .null
  flag _ := false
  answer _ q :=
    match q with
    | .preflightOnly => false
    | .workerAuthorized | .gateCallable | .workerGate _ | .privateStreamHealthy | .connectStream =>
      true
    | .authenticated | .reconciliationAuthenticationFailed => false
    | .state => .disconnected
    | .setState _ | .invalidateAuthentication | .setLastStatusUnknown | .upsertOrder _ | .sleep
    | .clearCapabilities | .setAuthenticated _ => ()
    | .reconcile => .ok .unknown
    | .recoverOrderFills .. | .executionLease _ | .notify .. | .replacePositions _
    | .initSession | .close => .ok ()
    | .request _ => .ok .null
    | .listenKey => .ok (.obj [("listenKey", .str "key")])
    | .gate _ => .ok .blocked
    | .gatePriced .. => .ok none
    | .cachedPrice .. | .orderByClientId _ => none
    | .recordSample .. | .hedgeMode | .barrierInstalled => false
    | .barrier _ | .parseRules _ => .ok true

private def testnet : Config := ⟨.testnet, false, fun _ => ""⟩

/-- The adapter connects and is `READY`; `emergency_flatten` finds no position, and its
reconciliation is refused: the adapter is unauthenticated and still `READY`. -/
theorem idle_emergency_stays_ready : ¬ ∀ (o : Environment) (c : Config) (l : InMemoryLedger)
    (calls : List Call), (Machine.run (step o c) (newAdapter l) calls).2.refused = true →
      Out (Machine.run (step o c) (newAdapter l) calls).2 := by
  intro h
  have hout := h (flatEnvironment [7]) testnet Ledger.empty [.connect, .emergencyFlatten none]
    (by decide +kernel)
  exact hout.2 (by decide +kernel)

/-- After the connection a reconciliation is refused when the stream comes back: the adapter is
out. -/
theorem ready_on_evidence_refused : Out (Machine.run (step (flatEnvironment [7]) testnet)
    (newAdapter Ledger.empty) [.connect, .refreshMarketData [], .onUserStreamReconnected]).2 := by
  refine (ready_on_evidence (flatEnvironment [7]) testnet Ledger.empty _).2 ⟨?_, ?_, ?_, trivial⟩
    (by decide +kernel)
  · exact ⟨by decide +kernel, nofun⟩
  · exact ⟨by decide +kernel, nofun⟩
  · exact ⟨by decide +kernel, nofun⟩

end Example

end Blessing.Binance.Readiness
