import Blessing.Binance.KillSwitch
import Blessing.Binance.Transport
import Blessing.Lib.Handlers

/-! # One transmission for one intent

`_execute_decision` of `venues/binance/execution.py` on a client that transmits its requests. What
else a method asks is answered by its surroundings, which read from the exchange with `GET` requests
of the same client: the reconciliation, the recovery of fills, the callbacks. The log has every
request of the session in a run, with what it transmitted, and every notification.

* `Single`: what one intent leads to.
* `marked_noticesOf`: what the Worker is told of an order that is sent is `noticesOf` its answer.
* `submitOrder_single`, `submitOrders_grouped`: one order, and all orders of a decision.
* `one_transmission`: the promise for whole decisions, with the one for single requests. -/

namespace Blessing.Binance.OneTransmission

open Blessing.Lib Blessing.Lib.Values Blessing.Lib.Coroutine Blessing.Lib.Handlers
open Blessing.Lib.Effects (Raises)
open Blessing.Binance.Models Blessing.Binance.Ledger Blessing.Binance.Recovery
open Blessing.Binance.RestClient Blessing.Binance.Transport
open Blessing.Binance.Orders Blessing.Binance.Emergency Blessing.Binance.Adapter
open Blessing.Binance.KillSwitch

/-! ### The world of an adapter -/

/-- A computation that reads from the exchange. -/
inductive Reads (A : Type) where
  | ret (a : A)
  | get (path : String) (k : Except Exn Json → Reads A)

/-- What an adapter finds around it, with a state of its own. -/
structure Surroundings (τ : Type) where
  answer : (q : Ask) → τ → Reads (q.Answer × τ)
  flag : τ → Bool × τ

/-- What happened: on the wire, and to the Worker. -/
inductive Entry where
  | wire (e : Transport.Event)
  | notified (order : ExecutionOrder) (notice : Notice)

/-- The client, the surroundings, and the log of a run; the log of the client is kept in it. -/
structure World (σ τ : Type) where
  line : Line σ
  surroundings : τ
  log : List Entry := []

section

variable {σ τ : Type} (net : Network σ) (around : Surroundings τ)

/-- A request of the client. -/
def transact (method : Method) (path : String) (w : World σ τ) : Except Exn Json × World σ τ :=
  let (result, line) := Transport.request net method path { w.line with log := [] }
  (result, { w with line, log := w.log ++ line.log.map .wire })

/-- A computation that reads. -/
def Reads.perform {A : Type} : Reads A → World σ τ → A × World σ τ
  | .ret a, w => (a, w)
  | .get path k, w => (k (transact net .get path w).1).perform (transact net .get path w).2

/-- An answer of the surroundings. -/
def answered (q : Ask) (w : World σ τ) : q.Answer × World σ τ :=
  let ((a, surroundings), w) := (around.answer q w.surroundings).perform net w
  (a, { w with surroundings })

/-- What the adapter asks: a request goes to the client, a notification is noted. -/
def asked : (q : Ask) → World σ τ → q.Answer × World σ τ
  | .request r, w => transact net .get r.path w
  | .notify order notice, w =>
    answered net around (.notify order notice) { w with log := w.log ++ [.notified order notice] }
  | q, w => answered net around q w

/-- The environment of the adapter. -/
def environment : Handler Ask Ask.Answer Mutation (Except Exn Json) (World σ τ) where
  ask := asked net around
  flag w :=
    ((around.flag w.surroundings).1, { w with surroundings := (around.flag w.surroundings).2 })
  send m w := transact net m.method m.path w

end

/-! ### Marks -/

/-- What a run leaves behind apart from its `GET` requests. -/
inductive Mark where
  | sent (method : Method) (path : String) (outcome : Outcome)
  | notified (id : ClientOrderId) (notice : Notice)

/-- A transmission leaves a mark, unless it is a `GET`. -/
def sentMark (t : Method × String × Outcome) : Option Mark :=
  if t.1 = .get then none else some (.sent t.1 t.2.1 t.2.2)

/-- The marks of a log: what was transmitted, and what the Worker was told. -/
def marks (log : List Entry) : List Mark := log.flatMap fun
  | .wire e => e.transmissions.filterMap sentMark
  | .notified order notice => [.notified order.clientOrderId notice]

/-- What an entry says of the requests of the session, and of the Worker. -/
def callOf : Entry → Option Mark
  | .wire (.exchanged method path x) => sentMark (method, path, x.outcome)
  | .wire (.synchronized _) => none
  | .notified order notice => some (.notified order.clientOrderId notice)

/-- The marks of a log in which every request is transmitted once. -/
def calls (log : List Entry) : List Mark := log.filterMap callOf

/-- No transmission is redirected, and none but of a `POST` loses its connection. -/
def Direct (log : List Entry) : Prop := ∀ e, .wire e ∈ log → e.direct = true

@[simp] theorem calls_nil : calls [] = [] := rfl

@[simp] theorem calls_append (xs ys : List Entry) : calls (xs ++ ys) = calls xs ++ calls ys :=
  List.filterMap_append

/-- The marks of a request are those of the session, unless it is a `GET`. -/
theorem calls_wire (sent : List Transport.Event) :
    calls (sent.map .wire) = (exchanges sent).filterMap sentMark := by
  induction sent with
  | nil => rfl
  | cons e sent ih =>
    cases e with
    | synchronized ok => exact ih
    | exchanged method path x =>
      change List.filterMap callOf (_ :: _) =
        List.filterMap sentMark ((method, path, x.outcome) :: exchanges sent)
      rw [List.filterMap_cons, List.filterMap_cons, ← ih]
      rfl

theorem marks_of_direct {log : List Entry} (h : Direct log) : marks log = calls log := by
  induction log with
  | nil => rfl
  | cons entry log ih =>
    have hrest := ih fun e he => h e (List.mem_cons_of_mem _ he)
    have hcons : marks (entry :: log) = marks [entry] ++ marks log := by
      rw [marks, marks, marks, ← List.flatMap_append, List.singleton_append]
    have hone : marks [entry] = calls [entry] := by
      cases entry with
      | notified order notice => rfl
      | wire e =>
        have hdirect : ∀ e' ∈ [e], e'.direct = true := by
          simpa using h e List.mem_cons_self
        have hwire := transmissions_of_direct hdirect
        rw [transmissions, List.flatMap_singleton] at hwire
        rw [show [Entry.wire e] = [e].map .wire from rfl, calls_wire, ← hwire, marks]
        exact List.flatMap_singleton _ _
    rw [hcons, hone, hrest, ← calls_append, List.singleton_append]

section

variable {σ τ : Type} {net : Network σ} {around : Surroundings τ}

/-- The log grew by entries with these marks. -/
def Grew (ms : List Mark) (w t : World σ τ) : Prop :=
  ∃ added, t.log = w.log ++ added ∧ calls added = ms

theorem Grew.refl (w : World σ τ) : Grew [] w w := ⟨[], (List.append_nil _).symm, rfl⟩

theorem Grew.trans {ms ms' : List Mark} {w t u : World σ τ} (h : Grew ms w t) (h' : Grew ms' t u) :
    Grew (ms ++ ms') w u := by
  obtain ⟨added, hlog, rfl⟩ := h
  obtain ⟨added', hlog', rfl⟩ := h'
  exact ⟨added ++ added', by rw [hlog', hlog, List.append_assoc], calls_append _ _⟩

variable (net) in
/-- A transmission of a `POST` request, at most, and its answer. -/
theorem transact_post (path : String) (w : World σ τ) :
    ((∃ e, (transact net .post path w).1 = .error e) ∧ Grew [] w (transact net .post path w).2) ∨
    ∃ outcome, Answers .post path outcome (transact net .post path w).1 ∧
      Grew [.sent .post path outcome] w (transact net .post path w).2 := by
  unfold transact
  cases requested_request net .post path { w.line with log := [] } with
  | refused e he hlog =>
    obtain ⟨sent, hlog, hnone⟩ := hlog
    refine .inl ⟨⟨e, he⟩, _, rfl, ?_⟩
    rw [hlog, List.nil_append, calls_wire, hnone]
    rfl
  | ended hwritable h =>
    obtain ⟨sent, outcome, hlog, ⟨hlength, -⟩, hlast, hanswers⟩ := h.sent
    refine .inr ⟨outcome, hanswers, _, rfl, ?_⟩
    have hone : exchanges sent = [(.post, path, outcome)] := by
      match hexchanges : exchanges sent, hlength, hlast with
      | [t], _, hlast =>
        rw [List.getLast?_singleton, Option.some.injEq] at hlast
        rw [hlast]
      | [], _, hlast => cases hlast
      | _ :: _ :: _, hlength, _ => simp [limitOf] at hlength
    rw [hlog, List.nil_append, calls_wire, hone]
    rfl

theorem transact_get (path : String) (w : World σ τ) : Grew [] w (transact net .get path w).2 := by
  unfold transact
  cases requested_request net .get path { w.line with log := [] } with
  | refused e he hlog =>
    obtain ⟨sent, hlog, hnone⟩ := hlog
    refine ⟨_, rfl, ?_⟩
    rw [hlog, List.nil_append, calls_wire, hnone]
    rfl
  | ended hwritable h =>
    obtain ⟨sent, outcome, hlog, ⟨-, hsame⟩, -, -⟩ := h.sent
    refine ⟨_, rfl, ?_⟩
    rw [hlog, List.nil_append, calls_wire, List.filterMap_eq_nil_iff]
    intro t ht
    rw [sentMark, if_pos (hsame t ht).1]

theorem grew_perform {A : Type} (r : Reads A) (w : World σ τ) : Grew [] w (r.perform net w).2 := by
  induction r generalizing w with
  | ret a => exact .refl w
  | get path k ih => exact (transact_get path w).trans (ih _ _)

theorem grew_answered (q : Ask) (w : World σ τ) : Grew [] w (answered net around q w).2 :=
  grew_perform (around.answer q w.surroundings) w

theorem grew_notify (order : ExecutionOrder) (notice : Notice) (w : World σ τ) :
    Grew [.notified order.clientOrderId notice] w
      (asked net around (.notify order notice) w).2 := by
  have hlogged : Grew [.notified order.clientOrderId notice] w
      { w with log := w.log ++ [.notified order notice] } :=
    ⟨[.notified order notice], rfl, rfl⟩
  exact hlogged.trans (grew_answered _ _)

theorem grew_asked (q : Ask) (hq : IsSilent q) (w : World σ τ) :
    Grew [] w (asked net around q w).2 := by
  cases q with
  | notify order notice => exact hq.elim
  | request r => exact transact_get r.path w
  | _ => exact grew_answered _ w

/-! ### Methods and their marks -/

variable {A B : Type} {x : Prog A} {f : A → Prog B}

/-- Wherever the method starts, its result and its marks are so. -/
def Marked (net : Network σ) (around : Surroundings τ) (x : Prog A)
    (P : Except Exn A → List Mark → Prop) : Prop :=
  ∀ w, Ends (environment net around) x w fun r t => ∃ ms, Grew ms w t ∧ P r ms

theorem Marked.mono {P P' : Except Exn A → List Mark → Prop} (hx : Marked net around x P)
    (hP : ∀ r ms, P r ms → P' r ms) : Marked net around x P' :=
  fun w => (hx w).mono fun _ _ ⟨ms, hgrew, hms⟩ => ⟨ms, hgrew, hP _ _ hms⟩

theorem Marked.pure {P : Except Exn A → List Mark → Prop} {a : A} (h : P (.ok a) []) :
    Marked net around (pure a) P := fun w => ends_pure.mpr ⟨[], .refl w, h⟩

theorem Marked.throw {P : Except Exn A → List Mark → Prop} {e : Exn} (h : P (.error e) []) :
    Marked net around (throw e) P := fun w => ⟨[], .refl w, h⟩

/-- The rest of a method goes on with the marks of what came first. -/
theorem Marked.bind {P : Except Exn B → List Mark → Prop}
    (hx : Marked net around x fun r ms =>
      match r with
      | .ok a => Marked net around (f a) fun r' ms' => P r' (ms ++ ms')
      | .error e => P (.error e) ms) : Marked net around (x >>= f) P := by
  refine fun w => ends_bind.mpr ((hx w).mono ?_)
  rintro r t ⟨ms, hgrew, hr⟩
  cases r with
  | ok a => exact (hr t).mono fun _ _ ⟨ms', hgrew', hP⟩ => ⟨ms ++ ms', hgrew.trans hgrew', hP⟩
  | error e => exact ⟨ms, hgrew, hr⟩

theorem Marked.attempt {P : Except Exn (Except Exn A) → List Mark → Prop}
    (hx : Marked net around x fun r ms => P (.ok r) ms) : Marked net around (attempt x) P :=
  fun w => ends_attempt.mpr (hx w)

theorem Marked.ite {c : Prop} [Decidable c] {y : Prog A} {P : Except Exn A → List Mark → Prop}
    (hx : Marked net around x P) (hy : Marked net around y P) :
    Marked net around (if c then x else y) P := by
  split_ifs
  · exact hx
  · exact hy

/-- A method that is silent leaves no mark. -/
theorem Marked.of_silent (hx : Silent x) : Marked net around x fun _ ms => ms = [] := by
  refine fun w => (Ends.of_only (G := Grew []) Grew.refl (fun h h' => h.trans h')
    (fun w => ⟨[], (List.append_nil _).symm, rfl⟩) grew_asked hx).mono ?_
  exact fun _ _ hgrew => ⟨[], hgrew, rfl⟩

theorem Marked.silent_bind {P : Except Exn B → List Mark → Prop} (hx : Silent x)
    (hf : ∀ a, Marked net around (f a) P) (herror : ∀ e, P (.error e) []) :
    Marked net around (x >>= f) P := by
  refine .bind ((Marked.of_silent hx).mono ?_)
  rintro r ms rfl
  cases r with
  | ok a => exact hf a
  | error e => exact herror e

/-- A question other than a notification in front of a method. -/
theorem Marked.ask_bind {q : Ask} {f : q.Answer → Prog B} {P : Except Exn B → List Mark → Prop}
    (hq : IsSilent q) (hf : ∀ a, Marked net around (f a) P) :
    Marked net around (query q >>= f) P := by
  intro w
  refine ends_ask_bind.mpr ((hf _ _).mono ?_)
  rintro r t ⟨ms, hgrew, hP⟩
  exact ⟨ms, (grew_asked q hq w).trans hgrew, hP⟩

theorem Marked.killSwitch_bind {f : Bool → Prog B} {P : Except Exn B → List Mark → Prop}
    (hf : ∀ active, Marked net around (f active) P) :
    Marked net around (killSwitchActive >>= f) P := by
  intro w
  refine ends_bind.mpr ?_
  exact hf (around.flag w.surroundings).1 { w with surroundings := (around.flag w.surroundings).2 }

theorem Marked.of_runs (mode : Mode) {Q : Mode → Except Exn A → Prop} (hx : Silent x)
    (hruns : Runs x mode Q) : Marked net around x fun r ms => ms = [] ∧ ∃ mode', Q mode' r := by
  refine fun w => ((Marked.of_silent hx w).and (Ends.of_runs hruns)).mono ?_
  rintro r t ⟨⟨ms, hgrew, hms⟩, hr⟩
  exact ⟨ms, hgrew, hms, hr⟩

/-! ### What a response raises -/

theorem responsePrice_raises (response : Json) (fields : List String) :
    Raises (isLeaseLost · = false) (responsePrice response fields) := by
  induction fields with
  | nil => exact .ok none
  | cons field fields ih =>
    refine .ite ih ?_
    split
    · exact .error rfl
    · exact .ite (.ok _) ih
    · exact ih

theorem orderFromResponse_raises {intent : OrderIntent} {response : Json} {prepared : PreparedOrder}
    {clientOrderId : ClientOrderId} {decision : ExecutionDecision} {allowTerminalStatus : Bool} :
    Raises (isLeaseLost · = false)
      (orderFromResponse intent response prepared clientOrderId decision allowTerminalStatus) := by
  have hguard {α : Type} {p : Prop} [Decidable p] {e : Exn} {k : PUnit → Except Exn α}
      (he : isLeaseLost e = false) (hk : Raises (isLeaseLost · = false) (k ⟨⟩)) :
      Raises (isLeaseLost · = false) (if p then throw e >>= k else k ⟨⟩) :=
    .ite (.bind (.error he) fun _ => hk) hk
  have hquantity : Raises (isLeaseLost · = false) (checkQuantity response prepared) := by
    refine .ite (.error rfl) ?_
    split
    · exact .error rfl
    · exact .ite (.error rfl) (.ok ())
    · exact .error rfl
  have hprice : Raises (isLeaseLost · = false) (executionPrice response prepared) :=
    .bind (responsePrice_raises _ _) fun _ => hguard rfl (hguard rfl (.ok _))
  unfold orderFromResponse
  refine hguard rfl (hguard rfl (hguard rfl (hguard rfl (hguard rfl (hguard rfl ?_)))))
  refine .bind hquantity fun _ => hguard rfl (hguard rfl ?_)
  exact .bind hprice fun _ => hguard rfl (.ok _)

/-! ### The recovered order -/

variable (c : Config) (s : Submission)

/-- An order that is the submitted one. -/
def IsSubmitted (order : ExecutionOrder) : Prop := order.clientOrderId = s.clientOrderId

/-- The order of a poll, if any, is the one that was submitted. -/
def Polled (_ : Mode) : Except Exn (Option Poll) → Prop
  | .ok (some poll) => ∀ order ∈ poll.recovered, IsSubmitted s order
  | _ => True

theorem runs_recoverPolled {order : ExecutionOrder} (horder : IsSubmitted s order)
    (response : Json) {mode : Mode} : Runs (recoverPolled order response) mode (Polled s) := by
  have hpolled (known verified : Bool) :
      Polled s mode (.ok (some ⟨some order, known, verified⟩)) := by
    intro o ho
    cases ho
    exact horder
  unfold recoverPolled
  refine .ite (.quiet_bind (Only.attempt (silent_recoverFills _ _)).quiet (fun result => ?_)
    (fun _ => trivial)) (.pure (hpolled true true))
  split
  · exact .pure (hpolled true true)
  · exact .quiet_bind (.ask _) (fun _ => .pure trivial) (fun _ => trivial)
  · exact .quiet_bind (.ask _) (fun _ => .pure (hpolled true false)) (fun _ => trivial)

theorem polled_none (known verified : Bool) {mode : Mode} :
    Polled s mode (.ok (some ⟨none, known, verified⟩)) := by
  intro order ho
  cases ho

/-- What an attempt of the polling reads. -/
def Answered : Except Exn (ExecutionOrder × Json) → Prop
  | .ok (order, _) => IsSubmitted s order
  | .error _ => True

theorem runs_pollOnce {again : Prog (Option Poll)} {mode : Mode}
    (hagain : Runs again mode (Polled s)) : Runs (pollOnce c s again) mode (Polled s) := by
  unfold pollOnce
  have hread : Runs (do
      let response ← Adapter.get (orderRequest c s.prepared.symbol s.clientOrderId.1)
      let order ← raising
        (orderFromResponse s.intent response s.prepared s.clientOrderId s.decision true)
      upsertOrder order
      return (order, response) : Prog (ExecutionOrder × Json)) mode
      fun mode' r => mode' = mode ∧ Answered s r := by
    refine .quiet_bind (silent_get _).quiet (fun response => .bind ?_) (fun _ => ⟨rfl, trivial⟩)
    cases horder :
      orderFromResponse s.intent response s.prepared s.clientOrderId s.decision true with
    | error e => exact ⟨rfl, trivial⟩
    | ok order =>
      exact .quiet_bind (.ask _) (fun _ => .pure ⟨rfl, orderFromResponse_id horder⟩)
        (fun _ => ⟨rfl, trivial⟩)
  refine .bind (.attempt (hread.mono ?_))
  rintro mode' r ⟨rfl, hr⟩
  cases r with
  | ok read => exact runs_recoverPolled s hr _
  | error e =>
    cases e with
    | authentication => exact .quiet_bind (.ask _) (fun _ => .pure trivial) (fun _ => trivial)
    | definitiveRejection code message => exact .ite hagain (.pure (polled_none s _ _))
    | _ => exact .pure (polled_none s _ _)

theorem runs_pollOrder (attempts : ℕ) {mode : Mode} :
    Runs (pollOrder c s attempts) mode (Polled s) := by
  induction attempts with
  | zero => exact runs_pollOnce c s (.pure (polled_none s _ _))
  | succ attempts ih =>
    exact runs_pollOnce c s (.quiet_bind (.ask _) (fun _ => ih) (fun _ => trivial))

/-- What the resolution of an ambiguous order returns. -/
def Resolved : Except Exn (Option ExecutionOrder) → Prop
  | .ok (some order) => IsSubmitted s order
  | _ => True

/-- The resolution of an ambiguous order returns that order, if any. -/
theorem runs_resolveAmbiguousOrder {mode : Mode} :
    Runs (resolveAmbiguousOrder c s) mode fun _ r => Resolved s r := by
  unfold resolveAmbiguousOrder
  refine .quiet_bind (.ask _) (fun _ => .bind ((runs_pollOrder c s 2).mono ?_)) (fun _ => trivial)
  intro mode' r hr
  cases r with
  | error e => trivial
  | ok poll =>
    cases poll with
    | none => trivial
    | some poll =>
      refine .quiet_bind silent_reconcileOrUnknown.quiet (fun sync => ?_) (fun _ => trivial)
      refine .quiet_bind (silent_verified _).quiet (fun ready => ?_) (fun _ => trivial)
      refine .quiet_bind (silent_settle _).quiet (fun _ => ?_) (fun _ => trivial)
      refine .quiet_bind (.ask _) (fun state => .ite (.pure ?_) (.pure trivial)) (fun _ => trivial)
      cases hrecovered : poll.recovered with
      | none => trivial
      | some order => exact hr order hrecovered

/-! ### Methods that return -/

/-- The method leaves no mark, and returns. -/
def Calm (net : Network σ) (around : Surroundings τ) (x : Prog A) : Prop :=
  Marked net around x fun r ms => ms = [] ∧ ∃ a, r = .ok a

theorem calm_pure (a : A) : Calm net around (pure a) := .pure ⟨rfl, a, rfl⟩

theorem calm_ask {q : Ask} (hq : IsSilent q) : Calm net around (query q) :=
  fun w => ends_ask.mpr ⟨[], grew_asked q hq w, rfl, _, rfl⟩

theorem calm_attempt (hx : Silent x) : Calm net around (attempt x) :=
  .attempt ((Marked.of_silent hx).mono fun r _ hms => ⟨hms, r, rfl⟩)

theorem Marked.calm_bind {P : Except Exn B → List Mark → Prop} (hx : Calm net around x)
    (hf : ∀ a, Marked net around (f a) P) : Marked net around (x >>= f) P := by
  refine .bind (hx.mono ?_)
  rintro r ms ⟨rfl, a, rfl⟩
  exact hf a

theorem calm_verified (sync : Status) : Calm net around (verified sync) :=
  .ite (calm_pure _) (.calm_bind (calm_ask trivial) fun _ => .ite (calm_pure _) (calm_ask trivial))

/-- The reconciliation behind a request returns, whatever it finds. -/
theorem calm_postMutationReconcile (order : ExecutionOrder) (response : Json) :
    Calm net around (postMutationReconcile order response) := by
  unfold postMutationReconcile
  refine .calm_bind (calm_ask trivial) fun _ => .calm_bind (calm_attempt ?_) fun result => ?_
  · exact .ite (.bind (silent_recoverFills _ _) fun _ => silent_reconcile) silent_reconcile
  · split
    · exact .calm_bind (calm_verified _) fun ready => .calm_bind (calm_ask trivial)
        fun _ => calm_pure _
    · exact .calm_bind (calm_ask trivial) fun _ => calm_pure _
    · exact .calm_bind (calm_ask trivial) fun _ => .calm_bind (calm_ask trivial)
        fun _ => calm_pure _

/-! ### One order -/

/-- Notices about the order that was submitted. -/
def noticed (notices : List Notice) : List Mark := notices.map (.notified s.clientOrderId)

theorem marked_notify {order : ExecutionOrder} (horder : IsSubmitted s order) (notice : Notice) :
    Marked net around (notify order notice) fun r ms => r = .ok () ∧ ms = noticed s [notice] := by
  have hask : Marked net around (query (.notify order notice)) fun r ms =>
      (∃ a, r = .ok a) ∧ ms = noticed s [notice] := by
    intro w
    refine ends_ask.mpr ⟨_, grew_notify order notice w, ⟨_, rfl⟩, ?_⟩
    rw [horder]
    rfl
  unfold notify
  refine .bind (hask.mono ?_)
  rintro r ms ⟨⟨answer, rfl⟩, rfl⟩
  have hcalm {x : Prog Unit} (hx : Calm net around x) : Marked net around x fun r ms =>
      r = .ok () ∧ noticed s [notice] ++ ms = noticed s [notice] := by
    refine hx.mono ?_
    rintro r ms ⟨rfl, ⟨⟩, rfl⟩
    exact ⟨rfl, List.append_nil _⟩
  cases answer with
  | ok => exact hcalm (calm_pure _)
  | error e => exact hcalm (.calm_bind (calm_ask trivial) fun _ => calm_ask trivial)

theorem Marked.notify_bind {order : ExecutionOrder} (horder : IsSubmitted s order) (notice : Notice)
    {f : Unit → Prog A} {P : Except Exn A → List Mark → Prop}
    (hf : Marked net around (f ()) fun r ms => P r (noticed s [notice] ++ ms)) :
    Marked net around (notify order notice >>= f) P := by
  refine .bind ((marked_notify s horder notice).mono ?_)
  rintro r ms ⟨rfl, rfl⟩
  exact hf

theorem marked_notify_bind {order : ExecutionOrder} (horder : IsSubmitted s order) (notice : Notice)
    {f : Unit → Prog A} (hf : Silent (f ())) :
    Marked net around (notify order notice >>= f) fun _ ms => ms = noticed s [notice] :=
  .notify_bind s horder notice <|
    (Marked.of_silent hf).mono fun _ ms hms => by rw [hms, List.append_nil]

theorem marked_submissionFailed (submissionAttempted : Bool) (e : Exn) :
    Marked net around (submissionFailed c s submissionAttempted e) fun _ ms => ∃ notices,
      ms = noticed s notices ∧ (submissionAttempted = true → isLeaseLost e = false →
        ∃ resolved, notices = noticesOfError resolved e) := by
  have hplanned : IsSubmitted s (planned s) := rfl
  have hrejected : IsSubmitted s (rejectedOrder s) := rfl
  have hunknown {A : Type} {x : Prog A} (he : ∀ resolved, noticesOfError resolved e = [.ambiguous])
      (hx : Marked net around x fun _ ms =>
        ms = noticed s [if submissionAttempted then .ambiguous else .rejected]) :
      Marked net around x fun _ ms => ∃ notices, ms = noticed s notices ∧
        (submissionAttempted = true → isLeaseLost e = false →
          ∃ resolved, notices = noticesOfError resolved e) := by
    refine hx.mono fun _ ms hms => ⟨_, hms, fun hattempted _ => ⟨false, ?_⟩⟩
    rw [hattempted, he]
    rfl
  cases e with
  | authentication code message =>
    exact .ask_bind trivial fun _ => hunknown (fun _ => rfl)
      (marked_notify_bind s hplanned _ (.pure _))
  | rateLimit | timestamp | fillRecovery | overflow | value =>
    exact hunknown (fun _ => rfl)
      (marked_notify_bind s hplanned _ (.bind (.ask trivial) fun _ => .pure _))
  | definitiveRejection code message =>
    refine .ask_bind trivial fun _ => .mono (marked_notify_bind s hrejected _ (.pure _)) ?_
    exact fun _ ms hms => ⟨_, hms, fun _ _ => ⟨false, rfl⟩⟩
  | leaseLost message =>
    exact (marked_notify_bind s hplanned _ (.bind (.ask trivial) fun _ => .pure _)).mono
      fun _ ms hms => ⟨_, hms, fun _ hlease => nomatch hlease⟩
  | transportAmbiguity message =>
    refine .notify_bind s hplanned .ambiguous (.bind ((Marked.of_runs .inside
      (silent_resolveAmbiguousOrder c s) (runs_resolveAmbiguousOrder c s)).mono ?_))
    rintro r ms ⟨rfl, -, hr⟩
    cases r with
    | error e => exact ⟨_, rfl, fun _ _ => ⟨false, rfl⟩⟩
    | ok recovered =>
      cases recovered with
      | none => exact .pure ⟨_, rfl, fun _ _ => ⟨false, rfl⟩⟩
      | some order =>
        change Marked net around
          (notify order .confirmed >>= fun _ => pure (some (⟨order, false⟩ : Executed))) _
        refine .mono (marked_notify_bind s hr .confirmed (.pure _)) ?_
        rintro r ms rfl
        exact ⟨[.ambiguous, .confirmed], rfl, fun _ _ => ⟨true, rfl⟩⟩

/-- The answer to the request of an order, and the mark that the request leaves. -/
def Replied (answer : Except Exn Json) (sent : List Mark) : Prop :=
  (∃ e, answer = .error e) ∧ sent = [] ∨
    ∃ outcome, Answers .post (orderPath c) outcome answer ∧
    sent = [.sent .post (orderPath c) outcome]

/-- The request of an order and what is made of its answer: the order is read and the Worker is
told, or the handlers are left to tell it. -/
def Posted (r : Except Exn (Option Executed)) (ms : List Mark) : Prop :=
  ∃ answer sent, Replied c answer sent ∧
    ((∃ executed verified, r = .ok executed ∧
        ∀ resolved, ms = sent ++ noticed s (noticesOf s answer verified resolved)) ∨
      ∃ e, r = .error e ∧ ms = sent ∧ (isLeaseLost e = true → answer = .error e) ∧
        ∀ verified resolved, noticesOf s answer verified resolved = noticesOfError resolved e)

theorem marked_mutate (params : List (String × String)) :
    Marked net around (mutate ⟨.post, orderPath c, params⟩) (Replied c) := by
  intro w
  unfold mutate
  refine ends_bind.mpr (ends_send.mpr (ends_raising.mpr ?_))
  rcases transact_post net (orderPath c) w with ⟨herror, hgrew⟩ | ⟨outcome, hanswers, hgrew⟩
  · exact ⟨_, hgrew, .inl ⟨herror, rfl⟩⟩
  · exact ⟨_, hgrew, .inr ⟨outcome, hanswers, rfl⟩⟩

theorem marked_postOrder : Marked net around (postOrder c s) (Posted c s) := by
  unfold postOrder
  refine .ask_bind trivial fun hedgeMode =>
    .bind ((marked_mutate c _).mono fun r sent hreplied => ?_)
  cases r with
  | error e => exact ⟨_, sent, hreplied, .inr ⟨e, rfl, rfl, fun _ => rfl, fun _ _ => rfl⟩⟩
  | ok response =>
    dsimp only
    by_cases hobj : (!response.isObj) = true
    · rw [if_pos hobj]
      refine .bind
        (.throw ⟨_, sent, hreplied, .inr ⟨_, rfl, List.append_nil _, nofun, fun _ _ => ?_⟩⟩)
      simp only [noticesOf, Except.bind, orderFromResponse, if_pos hobj]
      rfl
    rw [if_neg hobj]
    cases horder :
      orderFromResponse s.intent response s.prepared s.clientOrderId s.decision false with
    | error e =>
      have hlease := orderFromResponse_raises e horder
      refine .bind (.throw ⟨_, sent, hreplied, .inr ⟨e, rfl, List.append_nil _, ?_, fun _ _ => ?_⟩⟩)
      · intro htrue
        rw [hlease] at htrue
        cases htrue
      · simp only [noticesOf, Except.bind, horder]
    | ok order =>
      have hid : IsSubmitted s order := orderFromResponse_id horder
      have htold (executed : Option Executed) (verified : Bool) :
          Posted c s (.ok executed)
            (sent ++ (noticed s [if verified then .confirmed else .ambiguous] ++ [])) := by
        refine ⟨_, sent, hreplied, .inl ⟨executed, verified, rfl, fun _ => ?_⟩⟩
        simp only [noticesOf, Except.bind, horder]
        cases verified <;> rfl
      refine .ask_bind trivial fun _ => .calm_bind (calm_postMutationReconcile _ _)
        fun ready => .ite ?_ ?_
      · exact .notify_bind s hid .ambiguous (.pure (htold none false))
      · exact .notify_bind s hid .confirmed (.pure (htold _ true))

/-- **What the Worker is told of an order that is sent** is what `noticesOf` says of its answer. -/
theorem marked_noticesOf :
    Marked net around (do
      match ← attempt (postOrder c s) with
      | .error e => submissionFailed c s true e
      | .ok executed => return executed : Prog (Option Executed)) fun _ ms =>
      ∃ answer sent notices, Replied c answer sent ∧ ms = sent ++ noticed s notices ∧
        ((∀ e, answer = .error e → isLeaseLost e = false) →
          ∃ verified resolved, notices = noticesOf s answer verified resolved) := by
  refine .bind (.attempt ((marked_postOrder c s).mono ?_))
  rintro r ms ⟨answer, sent, hreplied, ⟨executed, verified, rfl, hms⟩ | ⟨e, rfl, rfl,
    hlease, hnotices⟩⟩
  · refine .pure ⟨answer, sent, _, hreplied, ?_, fun _ => ⟨verified, false, rfl⟩⟩
    rw [List.append_nil]
    exact hms false
  · refine (marked_submissionFailed c s true e).mono ?_
    rintro r ms' ⟨notices, rfl, htold⟩
    refine ⟨answer, ms, notices, hreplied, rfl, fun hanswer => ?_⟩
    have hnot : isLeaseLost e = false := by
      cases hlost : isLeaseLost e with
      | false => rfl
      | true => rw [← hlost]; exact hanswer e (hlease hlost)
    obtain ⟨resolved, rfl⟩ := htold rfl hnot
    exact ⟨false, resolved, (hnotices false resolved).symm⟩

/-- What is sent for an order and said about it: nothing is sent, or it is sent once. After an error
response the order is rejected if the response proves it, and else ambiguous until it is found. -/
inductive Single (id : ClientOrderId) : List Mark → Prop
  | unsent (notices : List Notice) : Single id (notices.map (.notified id))
  | sent (outcome : Outcome) (notices : List Notice)
      (herror : ∀ status body, outcome = .reply status body → 400 ≤ status →
        notices = [.rejected] ∧ Definitive status body ∨ notices = [.ambiguous] ∨
          notices = [.ambiguous, .confirmed]) :
      Single id (.sent .post (orderPath c) outcome :: notices.map (.notified id))

theorem noticesOfError_cases (resolved : Bool) (e : Exn) :
    isDefinitive e = true ∧ noticesOfError resolved e = [.rejected] ∨
      noticesOfError resolved e = [.ambiguous] ∨ noticesOfError resolved e = [.ambiguous,
        .confirmed] := by
  cases e with
  | definitiveRejection code message => exact .inl ⟨rfl, rfl⟩
  | transportAmbiguity message =>
    cases resolved with
    | false => exact .inr (.inl rfl)
    | true => exact .inr (.inr rfl)
  | _ => exact .inr (.inl rfl)

theorem submitOrder_single :
    Marked net around (submitOrder c s) fun _ ms => Single c s.clientOrderId ms := by
  unfold submitOrder
  refine .silent_bind (.attempt (silent_beforeRequest c s)) (fun before => ?_) (fun _ => .unsent [])
  split
  · refine (marked_submissionFailed c s false _).mono ?_
    rintro r ms ⟨notices, rfl, -⟩
    exact .unsent notices
  · exact .pure (.unsent [])
  · refine (marked_noticesOf c s).mono ?_
    rintro r ms ⟨answer, sent, notices, ⟨-, rfl⟩ | ⟨outcome, hanswers, rfl⟩, rfl, htold⟩
    · exact .unsent notices
    · refine .sent outcome notices fun status body houtcome hstatus => ?_
      rw [houtcome] at hanswers
      obtain ⟨e, rfl, hlease, hdefinitive⟩ := post_error hanswers hstatus
      obtain ⟨verified, resolved, rfl⟩ := htold fun e' he => Except.error.inj he ▸ hlease
      rcases noticesOfError_cases resolved e with ⟨htrue, hrejected⟩ | hambiguous
      · exact .inl ⟨hrejected, hdefinitive htrue⟩
      · exact .inr hambiguous

/-! ### All orders of a decision -/

/-- What an order of a decision leads to; nothing if it is blocked. -/
def Handled (decision : ExecutionDecision) (intent : OrderIntent) (group : List Mark) : Prop :=
  group = [] ∨ ∃ prepared index, Single c (clientOrderId c decision intent prepared index) group

/-- The marks are those of the orders, one order after the other. -/
def Grouped (decision : ExecutionDecision) (intents : List OrderIntent) (ms : List Mark) : Prop :=
  ∃ groups : List (List Mark), ms = groups.flatten ∧
  List.Forall₂ (Handled c decision) intents groups

variable {c}

theorem Grouped.none (decision : ExecutionDecision) (intents : List OrderIntent) :
    Grouped c decision intents [] := by
  induction intents with
  | nil => exact ⟨[], rfl, .nil⟩
  | cons intent rest ih =>
    obtain ⟨groups, hflatten, hgroups⟩ := ih
    exact ⟨[] :: groups, hflatten, .cons (.inl rfl) hgroups⟩

theorem Grouped.cons {decision : ExecutionDecision} {intent : OrderIntent} {rest : List OrderIntent}
    {group ms : List Mark} (hgroup : Handled c decision intent group)
    (hms : Grouped c decision rest ms) :
    Grouped c decision (intent :: rest) (group ++ ms) := by
  obtain ⟨groups, rfl, hgroups⟩ := hms
  exact ⟨group :: groups, rfl, .cons hgroup hgroups⟩

variable (c)

theorem checkOrder_grouped (emergency : Bool) (decision : ExecutionDecision) (index : ℕ)
    (reserved : Reserved) (intent : OrderIntent) {rest : List OrderIntent}
    (ih : ∀ index reserved, Marked net around
      (submitOrders c emergency decision index reserved rest)
      fun _ ms => Grouped c decision rest ms) :
    Marked net around (do
      match ← checkOrder {
          intent, riskClass := decision.riskClass, reservedOpenOrders := reserved.openOrders
          reservedNotional := reserved.notional, allowEmergencyFallback := emergency } with
      | none => submitOrders c emergency decision (index + 1) reserved rest
      | some prepared =>
        let s : Submission :=
          ⟨intent, prepared, clientOrderId c decision intent prepared index, decision⟩
        match ← submitOrder c s with
        | none => submitOrders c emergency decision (index + 1) reserved rest
        | some executed =>
          let reserved : Reserved := if executed.working then
              ⟨reserved.openOrders + 1, reserved.notional.add prepared.notional⟩ else reserved
          let orders ← submitOrders c emergency decision (index + 1) reserved rest
          return executed.order :: orders : Prog (List ExecutionOrder))
      fun _ ms => Grouped c decision (intent :: rest) ms := by
  refine .silent_bind (silent_checkOrder _) (fun prepared => ?_) (fun _ => .none decision _)
  cases prepared with
  | none =>
    exact (ih _ _).mono fun _ ms hms => @Grouped.cons c decision intent rest [] ms (.inl rfl) hms
  | some prepared =>
    refine .bind ((submitOrder_single c _).mono fun r ms hsingle => ?_)
    have hhandled : Handled c decision intent ms := .inr ⟨prepared, index, hsingle⟩
    have hrest {ms' : List Mark} (hms' : Grouped c decision rest ms') :
        Grouped c decision (intent :: rest) (ms ++ ms') := .cons hhandled hms'
    have hlast : Grouped c decision (intent :: rest) ms := by
      simpa only [List.append_nil] using hrest (.none decision rest)
    cases r with
    | error e => exact hlast
    | ok executed =>
      cases executed with
      | none => exact (ih _ _).mono fun _ _ hms' => hrest hms'
      | some executed =>
        refine .bind ((ih _ _).mono fun r ms' hms' => ?_)
        cases r with
        | error e => exact hrest hms'
        | ok orders =>
          refine .pure ?_
          rw [List.append_nil]
          exact hrest hms'

theorem submitOrders_grouped (emergency : Bool) (decision : ExecutionDecision) (index : ℕ)
    (reserved : Reserved) (intents : List OrderIntent) :
    Marked net around (submitOrders c emergency decision index reserved intents)
      fun _ ms => Grouped c decision intents ms := by
  induction intents generalizing index reserved with
  | nil => exact .pure (.none decision [])
  | cons intent rest ih =>
    have hcheck := checkOrder_grouped c emergency decision index reserved intent ih
    unfold submitOrders
    refine .ite (.killSwitch_bind fun active => .ite ?_ hcheck) hcheck
    exact .mono (.of_silent (.bind (.ask trivial) fun _ => .pure _))
      fun _ _ hms => hms ▸ .none decision _

theorem executeOrders_grouped (emergency : Bool) (decision : ExecutionDecision) :
    Marked net around (executeOrders c emergency decision)
      fun _ ms => Grouped c decision decision.orders ms := by
  have hnone {y : List ExecutionOrder} :
      Marked net around (pure y) fun _ ms => Grouped c decision decision.orders ms :=
    .pure (.none decision _)
  have hsubmit : Marked net around (submitOrders c emergency decision 0 {} decision.orders) _ :=
    submitOrders_grouped c emergency decision 0 {}
    decision.orders
  unfold executeOrders
  refine .ask_bind trivial fun preflight =>
    .ite hnone (.ask_bind trivial fun authorized => .ite hnone ?_)
  refine .ite (.ask_bind trivial fun state => .ite hnone ?_) ?_
  · exact .ite hnone hsubmit
  · exact .ite hnone hsubmit

/-! ### The promise -/

/-- A request ends within two rounds of its loop, whatever the bound. If its answers are direct, it
is transmitted so many times at most as its method allows, and by a read-only client not at all if
it changes an order. -/
def Bounded (net : Network σ) : Prop := ∀ method path s, ∃ result t,
  (∀ rounds, requestWithin net (rounds + 2) method path s = some (result, t)) ∧
  ∃ sent, t.log = s.log ++ sent ∧ ((∀ e ∈ sent, e.direct = true) →
    (transmissions sent).length ≤ limitOf method ∧
    (∀ t ∈ transmissions sent, t.1 = method ∧ t.2.1 = path) ∧
    (mutatesOrder method path = true → s.readOnly = true → transmissions sent = []))

theorem bounded (net : Network σ) : Bounded net := by
  intro method path s
  obtain ⟨result, t, hrequest, hrequested⟩ := request_requested net method path s
  refine ⟨result, t, hrequest, ?_⟩
  cases hrequested with
  | refused e he hlog =>
    obtain ⟨sent, hlog, hnone⟩ := hlog
    refine ⟨sent, hlog, fun hdirect => ?_⟩
    rw [transmissions_of_direct hdirect, hnone]
    exact ⟨Nat.zero_le _, List.forall_mem_nil _, fun _ _ => rfl⟩
  | ended hwritable h =>
    obtain ⟨sent, outcome, hlog, hsent, -, -⟩ := h.sent
    refine ⟨sent, hlog, fun hdirect => ?_⟩
    rw [transmissions_of_direct hdirect]
    refine ⟨hsent.1, hsent.2, fun hmutates hreadOnly => ?_⟩
    rw [hwritable hmutates] at hreadOnly
    cases hreadOnly

/-- **One intent, one transmission**: as long as no transmission is redirected and none but of a
`POST` loses its connection, a decision sends at most one `POST` for each of its orders and nothing
but `GET` requests besides, whatever else the network and the surroundings do; the Worker is told
that the order is rejected only by an error response that proves it, and that it is ambiguous by any
other one. A request ends and is transmitted once, a `GET` twice at most, and a read-only client
never changes an order. -/
theorem one_transmission (net : Network σ) (around : Surroundings τ) (c : Config) :
    (∀ emergency decision w, Ends (environment net around) (executeOrders c emergency decision) w
      fun _ t => ∃ added, t.log = w.log ++ added ∧ (Direct added →
        ∃ groups, marks added = List.flatten groups ∧
          List.Forall₂ (Handled c decision) decision.orders groups)) ∧ Bounded net := by
  refine ⟨fun emergency decision w => ?_, bounded net⟩
  refine (executeOrders_grouped c emergency decision w).mono ?_
  rintro r t ⟨ms, ⟨added, hlog, hcalls⟩, groups, hflatten, hgroups⟩
  refine ⟨added, hlog, fun hdirect => ⟨groups, ?_, hgroups⟩⟩
  rw [marks_of_direct hdirect, hcalls, hflatten]

/-! ### A redirected order -/

/-- A session on a network that gives first transmissions one answer, and accepts the others. -/
def sampleNetwork (first : Answer) : Network Unit where
  exchange method path _ :=
    let accepted : Outcome := .reply 200 (some (.obj [("status", .str "NEW")]))
    (if h : first.plain method = true then ⟨first, [], first.result, fun _ => ⟨rfl, rfl⟩⟩
    else ⟨first, [(method, path, .outcome accepted)], accepted, fun hplain => absurd hplain h⟩, ())
  synchronize _ := (true, ())

-- an order that times out is not sent again
example :
    (transmissions (request (sampleNetwork (.outcome (.failed "timeout"))) .post "/fapi/v1/order"
    ⟨(), false, true, []⟩).2.log).length = 1 := by decide +kernel

/-- A session follows a redirection with status 307, and sends the order again. -/
theorem redirected_order_is_sent_again : ¬ ∀ (net : Network Unit) (method : Method) (path : String)
    (s : Line Unit), ∃ sent, (request net method path s).2.log = s.log ++ sent ∧
      (transmissions sent).length ≤ limitOf method := by
  intro hclaim
  obtain ⟨sent, hlog, hmost⟩ := hclaim (sampleNetwork (.redirected 307 "/fapi/v1/order")) .post
    "/fapi/v1/order" ⟨(), false, true, []⟩
  rw [List.nil_append] at hlog
  rw [← hlog] at hmost
  exact absurd hmost (by decide +kernel)

end

end Blessing.Binance.OneTransmission
