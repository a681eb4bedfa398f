import Blessing.Binance.RestClient

/-! # The transport of a request

`BinanceRestClient.request` of `venues/binance/rest_client.py`: the endpoint allowlist, the
read-only boundary, the session, and the loop that makes a request again after a timestamp error.
The session is a parameter: what it transmits for one of its requests, and what it gives for it, is
kept in a log.

* `Exchange`: one `session.request`; a request whose first answer is plain is transmitted once.
* `resultOf`: what a response is turned into.
* `loop`: the `while True` of `request`, with a bound on its rounds.
* `request`: the whole method. -/

namespace Blessing.Binance.Transport

open Blessing.Lib Blessing.Lib.Values
open Blessing.Binance.Models Blessing.Binance.RestClient

/-! ### Responses -/

/-- What `session.request` gives: a response with its status and its body, nothing if that is not
JSON, or a time-out or an error of the transport. -/
inductive Outcome where
  | reply (status : ℕ) (body : Option Json)
  | failed (message : String)
  deriving DecidableEq

/-- What comes of one transmission. -/
inductive Answer where
  | outcome (o : Outcome)
  /-- a status of 301, 302, 303, 307 or 308, and where to go -/
  | redirected (status : ℕ) (location : String)
  /-- the connection is lost before a response -/
  | cut (message : String)
  deriving DecidableEq

/-- The session has no reason to transmit anything more: it follows redirections, and makes an
idempotent request again on a new connection. -/
def Answer.plain (method : Method) : Answer → Bool
  | .outcome _ => true
  | .redirected _ _ => false
  | .cut _ => method == .post

/-- What the session makes of an answer it does nothing more about. -/
def Answer.result : Answer → Outcome
  | .outcome o => o
  | .redirected status _ => .reply status none
  | .cut message => .failed message

/-- One `session.request`: the answer to the request itself, what else is transmitted for it with
its answers, and what the session gives. -/
structure Exchange (method : Method) where
  first : Answer
  further : List (Method × String × Answer)
  outcome : Outcome
  /-- nothing else is transmitted after a plain answer -/
  direct : first.plain method = true → further = [] ∧ outcome = first.result

/-- `_DEFINITIVE_REJECTION_CODES` -/
def definitiveRejectionCodes : List ℤ :=
  [-1100, -1101, -1102, -1103, -1104, -1105, -1106, -1111, -1112, -1114, -1115, -1116, -1117, -1118,
    -1119, -1121, -1125, -1013, -2010, -2011, -2013, -2019, -2020, -2021, -2022,
    -4164, -4165, -4003, -4004, -4005, -4014, -4023]

/-- `_RATE_LIMIT_CODES` -/
def rateLimitCodes : List ℤ := [-1003, -1008, -1015]

/-- The statuses that do not tell whether the request was carried out. -/
def indeterminateStatuses : List ℕ := [408, 500, 502, 503, 504]

/-- `code` of a response -/
def codeOf (data : Json) : Json := if data.isObj then data.get "code" else .null

/-- `message` of a response -/
def messageOf (data : Json) : String :=
  if data.isObj then ((data.get? "msg").map Json.toStr).getD data.toStr else data.toStr

/-- `_numeric_error_code`: an infinite float is none, and is not caught. -/
def numericErrorCode (value : Json) (fallback : ℤ) : Except Exn ℤ :=
  match intOf value with
  | some n => .ok n
  | none =>
    match value with
    | .float r =>
      match Decimal.ofText r with
      | some (.inf _) => .error (.overflow "cannot convert float infinity to integer")
      | _ => .ok fallback
    | _ => .ok fallback

/-- What is done about a response: it is the result of the request, or the clock is out of step. -/
inductive Verdict where
  | done (result : Except Exn Json)
  | outOfStep (code : ℤ) (message : String)

/-- An error with a status and a code that are conclusive. -/
def errorOf (method : Method) (target : String) (status : ℕ) (numeric : ℤ) (message : String) :
    Verdict :=
  if numeric = -1021 then .outOfStep numeric message
  else if numeric = -2014 ∨ numeric = -2015 ∨ status = 401 ∨ status = 403 then
    .done (.error (.authentication numeric message))
  else if numeric ∈ rateLimitCodes ∨ status = 418 ∨ status = 429 then
    .done (.error (.rateLimit numeric message))
  else if numeric ∈ definitiveRejectionCodes ∧ ¬ (numeric = -2013 ∧ method = .post) then
    .done (.error (.definitiveRejection numeric message))
  else .done (.error (.transportAmbiguity
    ("Unknown Binance error " ++ toString numeric ++ " for " ++ target ++ ": " ++ message)))

/-- What `request` makes of what came of a transmission. -/
def resultOf (method : Method) (path : String) : Outcome → Verdict
  | .failed message => .done (.error (.transportAmbiguity
    ("Transport ambiguity for " ++ method.value ++ " " ++ path ++ ": " ++ message)))
  | .reply _ none => .done (.error (.transportAmbiguity
    ("Invalid Binance response for " ++ method.value ++ " " ++ path)))
  | .reply status (some data) =>
    if status < 400 then .done (.ok data)
    else if status ∈ indeterminateStatuses then .done (.error (.transportAmbiguity
      ("Binance returned an indeterminate HTTP " ++ toString status ++ " for " ++
        method.value ++ " " ++
        path ++ ": " ++ messageOf data)))
    else
      match numericErrorCode (codeOf data) status with
      | .error e => .done (.error e)
      | .ok numeric => errorOf method (method.value ++ " " ++ path) status numeric (messageOf data)

/-! ### The request -/

/-- What is in the log of a client. -/
inductive Event where
  | exchanged (method : Method) (path : String) (x : Exchange method)
  /-- `clock.synchronize`, which asks for the time of the server -/
  | synchronized (ok : Bool)

/-- The session of a run and the network behind it, with a state of their own. -/
structure Network (σ : Type) where
  exchange : (method : Method) → String → σ → Exchange method × σ
  synchronize : σ → Bool × σ

/-- The client: whether it may not change anything, whether it has a session, and the log. -/
structure Line (σ : Type) where
  network : σ
  readOnly : Bool := false
  session : Bool := true
  log : List Event := []

section

variable {σ : Type} (net : Network σ)

/-- `clock.synchronize` -/
def synchronize (s : Line σ) : Bool × Line σ :=
  let (ok, network) := net.synchronize s.network
  (ok, { s with network, log := s.log ++ [.synchronized ok] })

/-- `self.session.request` -/
def exchange (method : Method) (path : String) (s : Line σ) : Outcome × Line σ :=
  let (x, network) := net.exchange method path s.network
  (x.outcome, { s with network, log := s.log ++ [.exchanged method path x] })

/-- One round of the `while True` of `request`: it ends the loop, or asks for another round. -/
def round (method : Method) (path : String) (timestampRetryUsed : Bool) (s : Line σ) :
    Option (Except Exn Json) × Line σ :=
  let (outcome, s) := exchange net method path s
  match resultOf method path outcome with
  | .done result => (some result, s)
  | .outOfStep code message =>
    let (ok, s) := synchronize net s
    if ok = false then (some (.error (.transportAmbiguity
      ("Unable to resynchronize Binance clock for " ++ method.value ++ " " ++ path))), s)
    else if method = .get ∧ timestampRetryUsed = false then (none, s)
    else (some (.error (.timestamp code message)), s)

/-- The `while True` of `request` with so many rounds left. -/
def loop (method : Method) (path : String) : ℕ → Bool → Line σ → Option (Except Exn Json × Line σ)
  | 0, _, _ => none
  | rounds + 1, timestampRetryUsed, s =>
    match round net method path timestampRetryUsed s with
    | (some result, s) => some (result, s)
    | (none, s) => loop method path rounds true s

/-- `_ALLOWED_REQUEST_METHODS` -/
def allowedRequestMethods : List (String × List Method) := [
  ("/fapi/v1/time", [.get]), ("/fapi/v1/exchangeInfo", [.get]),
  ("/fapi/v1/positionSide/dual", [.get]),
  ("/fapi/v2/account", [.get]), ("/fapi/v2/positionRisk", [.get]), ("/fapi/v1/openOrders", [.get]),
  ("/fapi/v1/userTrades", [.get]), ("/fapi/v1/income", [.get]), ("/fapi/v1/premiumIndex", [.get]),
  ("/fapi/v1/ticker/bookTicker", [.get]), ("/fapi/v1/order", [.get, .post, .put, .delete]),
  ("/fapi/v1/listenKey", [.post, .put, .delete]), ("/papi/v1/account", [.get]),
  ("/papi/v1/balance", [.get]), ("/papi/v1/um/account", [.get]),
  ("/papi/v1/um/positionSide/dual", [.get]), ("/papi/v1/um/positionRisk", [.get]),
  ("/papi/v1/um/openOrders", [.get]), ("/papi/v1/um/userTrades", [.get]),
  ("/papi/v1/um/income", [.get]), ("/papi/v1/um/order", [.get, .post, .put, .delete]),
  ("/papi/v1/um/leverage", [.post]), ("/papi/v1/um/leverageBracket", [.get]),
  ("/papi/v1/listenKey", [.post, .put, .delete])]

/-- A request the client is built for. -/
def isAllowed (method : Method) (path : String) : Bool :=
  allowedRequestMethods.any fun entry => entry.1 == path && entry.2.contains method

/-- The order endpoint, and a method that changes an order. -/
def mutatesOrder (method : Method) (path : String) : Bool :=
  (path == "/fapi/v1/order" || path == "/papi/v1/um/order") && method != .get

/-- `init_session`, unless there is a session: the new one stays even if the clock fails. -/
def initSession (s : Line σ) : Except Exn Unit × Line σ :=
  if s.session then (.ok (), s)
  else
    let (ok, s) := synchronize net { s with session := true }
    if ok then (.ok (), s)
    else (.error (.transportAmbiguity "Unable to synchronize Binance server clock"), s)

/-- `request` with a bound on the rounds of its loop; nothing if they do not suffice. -/
def requestWithin (rounds : ℕ) (method : Method) (path : String) (s : Line σ) :
    Option (Except Exn Json × Line σ) :=
  if isAllowed method path = false then some (.error (.value
    ("Binance request is outside the fixed USDⓈ-M endpoint allowlist: " ++
      method.value ++ " " ++ path)),
    s)
  else if mutatesOrder method path = true ∧ s.readOnly = true then
    some (.error (.value "Read-only Binance client cannot call the order endpoint"), s)
  else
    match initSession net s with
    | (.error e, s) => some (.error e, s)
    | (.ok (), s) => loop net method path rounds false s

/-! ### One round -/

end

section

variable {σ : Type} {net : Network σ} {method : Method} {path : String}

/-- The requests of the session in a log. -/
def exchanges : List Event → List (Method × String × Outcome) := List.filterMap fun
  | .exchanged method path x => some (method, path, x.outcome)
  | .synchronized _ => none

@[simp] theorem exchanges_append (xs ys : List Event) :
    exchanges (xs ++ ys) = exchanges xs ++ exchanges ys := List.filterMap_append

/-- What an event puts on the wire. -/
def Event.transmissions : Event → List (Method × String × Outcome)
  | .exchanged method path x =>
    (method, path, x.first.result) :: x.further.map fun t => (t.1, t.2.1, t.2.2.result)
  | .synchronized _ => []

/-- The transmissions of a log, with what the answers say. -/
def transmissions (log : List Event) : List (Method × String × Outcome) :=
  log.flatMap Event.transmissions

/-- The first answer to the request is plain. -/
def Event.direct : Event → Bool
  | .exchanged method _ x => x.first.plain method
  | .synchronized _ => true

/-- Where all first answers are plain, each request is transmitted once. -/
theorem transmissions_of_direct {log : List Event} (h : ∀ e ∈ log, e.direct = true) :
    transmissions log = exchanges log := by
  induction log with
  | nil => rfl
  | cons e log ih =>
    rw [List.forall_mem_cons] at h
    have hcons : transmissions (e :: log) = e.transmissions ++ transmissions log :=
      List.flatMap_cons
    rw [hcons, ih h.2]
    cases e with
    | synchronized ok => rfl
    | exchanged method path x =>
      obtain ⟨hfurther, houtcome⟩ := x.direct h.1
      change (method, path, x.first.result) :: (x.further.map _ ++ exchanges log) =
        (method, path, x.outcome) :: exchanges log
      rw [hfurther, houtcome]
      rfl

/-- What a request gives for what the session gave for its last one. -/
inductive Answers (method : Method) (path : String) (outcome : Outcome) : Except Exn Json → Prop
  | done {result} (h : resultOf method path outcome = .done result) :
  Answers method path outcome result
  | outOfStep {code message} (h : resultOf method path outcome = .outOfStep code message) :
      Answers method path outcome (.error (.timestamp code message))
  | unsynchronized {code message} (h : resultOf method path outcome = .outOfStep code message)
      (reason : String) : Answers method path outcome (.error (.transportAmbiguity reason))

/-- A round makes the request once. Only the first round of a `GET` asks for another one. -/
theorem round_sends {used : Bool} {s t : Line σ} {answer : Option (Except Exn Json)}
    (h : round net method path used s = (answer, t)) : ∃ outcome sent,
    t.log = s.log ++ sent ∧ exchanges sent = [(method, path, outcome)] ∧ t.readOnly = s.readOnly ∧
    match answer with
    | some result => Answers method path outcome result
    | none => method = .get ∧ used = false := by
  unfold round exchange synchronize at h
  dsimp only at h
  cases hresult : resultOf method path (net.exchange method path s.network).1.outcome with
  | done result =>
    rw [hresult] at h
    cases h
    exact ⟨_, [_], rfl, rfl, rfl, .done hresult⟩
  | outOfStep code message =>
    rw [hresult] at h
    dsimp only at h
    split_ifs at h with hok hget
    · cases h
      exact ⟨_, [_] ++ [_], List.append_assoc _ _ _, rfl, rfl, .unsynchronized hresult _⟩
    · cases h
      exact ⟨(net.exchange method path s.network).1.outcome, [_] ++ [_], List.append_assoc _ _ _,
        rfl, rfl, hget⟩
    · cases h
      exact ⟨_, [_] ++ [_], List.append_assoc _ _ _, rfl, rfl, .outOfStep hresult⟩

/-! ### The loop -/

/-- What the session is asked for a request: the request itself, so many times at most. -/
def Sent (method : Method) (path : String) (most : ℕ) (sent : List Event) : Prop :=
  (exchanges sent).length ≤ most ∧ ∀ t ∈ exchanges sent, t.1 = method ∧ t.2.1 = path

/-- How often a request is made at most. -/
def limitOf (method : Method) : ℕ := if method = .get then 2 else 1

/-- A request that was made, and its answer. -/
structure Ended (method : Method) (path : String) (s t : Line σ) (result : Except Exn Json) :
    Prop where
  readOnly : t.readOnly = s.readOnly
  sent : ∃ sent outcome, t.log = s.log ++ sent ∧ Sent method path (limitOf method) sent ∧
    (exchanges sent).getLast? = some (method, path, outcome) ∧ Answers method path outcome result

variable (net method path) in
/-- The loop ends in its first round, or in its second one. -/
theorem loop_ended (s : Line σ) : ∃ result t,
    (∀ rounds, loop net method path (rounds + 2) false s = some (result, t)) ∧
    Ended method path s t result := by
  cases hfirst : round net method path false s with
  | mk answer t =>
    obtain ⟨outcome, sent, hlog, hsent, hreadOnly, hanswer⟩ := round_sends hfirst
    cases answer with
    | some result =>
      refine ⟨result, t, fun rounds => by simp only [loop, hfirst], hreadOnly, sent,
        outcome, hlog, ?_, by rw [hsent]; rfl, hanswer⟩
      rw [Sent, hsent]
      refine ⟨?_, by simp⟩
      rw [List.length_singleton, limitOf]
      split_ifs <;> omega
    | none =>
      obtain ⟨hget, -⟩ := hanswer
      cases hsecond : round net method path true t with
      | mk answer u =>
        obtain ⟨outcome', sent', hlog', hsent', hreadOnly', hanswer'⟩ := round_sends hsecond
        cases answer with
        | none => exact absurd hanswer'.2 (by decide)
        | some result =>
          refine ⟨result, u, fun rounds => by simp only [loop, hfirst, hsecond],
            hreadOnly'.trans hreadOnly, sent ++ sent', outcome', ?_, ?_, ?_, hanswer'⟩
          · rw [hlog', hlog, List.append_assoc]
          · rw [Sent, exchanges_append, hsent, hsent', limitOf, if_pos hget]
            simp
          · rw [exchanges_append, hsent, hsent']
            rfl

/-! ### The request -/

/-- What becomes of a request: it is refused or fails before the session is asked for it, or it is
made and answered. -/
inductive Requested (method : Method) (path : String) (s t : Line σ) (result : Except Exn Json) :
    Prop
  | refused (e : Exn) (he : result = .error e) (hlog : ∃ sent, t.log = s.log ++ sent ∧
    exchanges sent = [])
      (hreadOnly : t.readOnly = s.readOnly)
  | ended (hwritable : mutatesOrder method path = true → s.readOnly = false)
      (h : Ended method path s t result)

theorem initSession_log {s t : Line σ} {answer : Except Exn Unit}
    (h : initSession net s = (answer, t)) :
    ∃ sent, t.log = s.log ++ sent ∧ exchanges sent = [] ∧ t.readOnly = s.readOnly := by
  unfold initSession synchronize at h
  split_ifs at h
  · cases h
    exact ⟨[], (List.append_nil _).symm, rfl, rfl⟩
  · dsimp only at h
    split_ifs at h
    · cases h
      exact ⟨[_], rfl, rfl, rfl⟩
    · cases h
      exact ⟨[_], rfl, rfl, rfl⟩

variable (net method path) in
theorem request_requested (s : Line σ) : ∃ result t,
    (∀ rounds, requestWithin net (rounds + 2) method path s = some (result, t)) ∧
    Requested method path s t result := by
  unfold requestWithin
  split_ifs with hallowed hreadOnly
  · exact ⟨_, s, fun _ => rfl, .refused _ rfl ⟨[], (List.append_nil _).symm, rfl⟩ rfl⟩
  · exact ⟨_, s, fun _ => rfl, .refused _ rfl ⟨[], (List.append_nil _).symm, rfl⟩ rfl⟩
  · have hwritable : mutatesOrder method path = true → s.readOnly = false := by
      intro hmutates
      simpa [hmutates] using hreadOnly
    cases hsession : initSession net s with
    | mk answer t =>
      obtain ⟨before, hlog, hnone, hkept⟩ := initSession_log hsession
      cases answer with
      | error e => exact ⟨.error e, t, fun _ => rfl, .refused e rfl ⟨before, hlog, hnone⟩ hkept⟩
      | ok u =>
        obtain ⟨result, t', hloop, hended⟩ := loop_ended net method path t
        refine ⟨result, t', hloop, .ended hwritable ⟨hended.readOnly.trans hkept, ?_⟩⟩
        obtain ⟨sent, outcome, hlog', hsent, hlast, hanswers⟩ := hended.sent
        refine ⟨before ++ sent, outcome, by rw [hlog', hlog, List.append_assoc], ?_, ?_, hanswers⟩
        · rwa [Sent, exchanges_append, hnone, List.nil_append]
        · rwa [exchanges_append, hnone, List.nil_append]

/-- `request` -/
def request (net : Network σ) (method : Method) (path : String) (s : Line σ) :
    Except Exn Json × Line σ :=
  (requestWithin net 2 method path s).getD (.error (.value ""), s)

variable (net method path) in
theorem requested_request (s : Line σ) :
    Requested method path s (request net method path s).2 (request net method path s).1 := by
  obtain ⟨result, t, hrequest, hrequested⟩ :=
    request_requested net method path s
  rw [request, hrequest 0]
  exact hrequested

/-! ### Errors of a `POST` -/

/-- The status and the code of a response prove that the request was not carried out. -/
def Definitive (status : ℕ) (body : Option Json) : Prop :=
  status ∉ indeterminateStatuses ∧ ∃ data numeric, body = some data ∧
    numericErrorCode (codeOf data) status = .ok numeric ∧ numeric ∈ definitiveRejectionCodes ∧
    numeric ≠ -2013

/-- `except BinanceDefinitiveRejection` -/
def isDefinitive : Exn → Bool
  | .definitiveRejection .. => true
  | _ => false

/-- `except LeaseLostError` -/
def isLeaseLost : Exn → Bool
  | .leaseLost _ => true
  | _ => false

theorem numericErrorCode_error {value : Json} {fallback : ℤ} {e : Exn}
    (h : numericErrorCode value fallback = .error e) : isDefinitive e = false ∧
    isLeaseLost e = false := by
  unfold numericErrorCode at h
  split at h
  case h_1 => cases h
  case h_2 =>
    split at h
    case h_1 =>
      split at h
      case h_1 => cases h; exact ⟨rfl, rfl⟩
      case h_2 => cases h
    case h_2 => cases h

theorem errorOf_post {target message : String} {status : ℕ} {numeric : ℤ} {result : Except Exn Json}
    (h : errorOf .post target status numeric message = .done result) :
    ∃ e, result = .error e ∧ isLeaseLost e = false ∧
      (isDefinitive e = true → numeric ∈ definitiveRejectionCodes ∧ numeric ≠ -2013) := by
  unfold errorOf at h
  split_ifs at h with hstep hauth hrate hdefinitive
  · cases h
    exact ⟨_, rfl, rfl, nofun⟩
  · cases h
    exact ⟨_, rfl, rfl, nofun⟩
  · cases h
    exact ⟨_, rfl, rfl, fun _ => ⟨hdefinitive.1, fun hnone => hdefinitive.2 ⟨hnone, rfl⟩⟩⟩
  · cases h
    exact ⟨_, rfl, rfl, nofun⟩

/-- **Error responses to a `POST`**: they raise, and a definitive rejection is raised only for a
status and a code that prove it. -/
theorem post_error {status : ℕ} {body : Option Json} {result : Except Exn Json}
    (h : Answers .post path (.reply status body) result) (hstatus : 400 ≤ status) :
    ∃ e, result = .error e ∧ isLeaseLost e = false ∧
      (isDefinitive e = true → Definitive status body) := by
  cases h with
  | outOfStep => exact ⟨_, rfl, rfl, nofun⟩
  | unsynchronized => exact ⟨_, rfl, rfl, nofun⟩
  | done h =>
    cases body with
    | none =>
      cases h
      exact ⟨_, rfl, rfl, nofun⟩
    | some data =>
      rw [resultOf, if_neg (not_lt.mpr hstatus)] at h
      split_ifs at h with hindeterminate
      · cases h
        exact ⟨_, rfl, rfl, nofun⟩
      · cases hnumeric : numericErrorCode (codeOf data) status with
        | error e =>
          rw [hnumeric] at h
          cases h
          obtain ⟨hdefinitive, hlease⟩ := numericErrorCode_error hnumeric
          exact ⟨e, rfl, hlease, fun htrue => absurd htrue (by rw [hdefinitive]; decide)⟩
        | ok numeric =>
          rw [hnumeric] at h
          obtain ⟨e, he, hlease, hcode⟩ := errorOf_post h
          refine ⟨e, he, hlease, fun htrue => ⟨hindeterminate, data, numeric, rfl, hnumeric, ?_⟩⟩
          exact hcode htrue

end

end Blessing.Binance.Transport
