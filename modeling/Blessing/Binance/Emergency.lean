import Blessing.Binance.Orders
import Blessing.Binance.Passes
import Mathlib.Data.List.Nodup
import Mathlib.Data.List.Pairwise
import Mathlib.Data.Nat.Basic

/-! # Emergency orders

`_emergency_flatten` of `venues/binance/execution.py` closes every position the exchange reports
with an order of its own, under the client order id `_generate_client_order_id` makes up. On Testnet
the id is that of the order, made from the symbol and the number of the position; on Mainnet it is
made again from the decision, whose identifier is the symbol and whose order is always the first
one. So two emergency orders have the same id if they are for one symbol on Mainnet, and on Testnet
if they are for one symbol and have the same number in two flattenings. Reconciliation links a fill
to an order by the id of the client or by that of the exchange, whatever the symbols are, and the
exchange numbers the orders of each symbol for itself.

* `postedIds`, `written`: the ids of the emergency orders of a run, and the ledger behind their
  writes.
* `Distinct`: they have different ids, keep their records, and are credited with their own fills
  only.
* `emergency_ids_distinct_iff`: when that is so.

What the final gate, the durable barrier and the lease do to an order is part of the environment. -/

namespace Blessing.Binance.Emergency

open Blessing.Lib Blessing.Lib.Values Blessing.Lib.Table
open Blessing.Binance.Models Blessing.Binance.Ledger Blessing.Binance.Orders
open Blessing.Binance.Recovery Blessing.Binance.Reconciliation Blessing.Binance.Passes

/-! ### Flattening

`digest` is the first twelve digits of the SHA-256 of a text. -/

section Digest

variable (digest : String → String)

/-- `_generate_client_order_id` -/
def generateClientOrderId (contextId symbol : String) (orderIndex attempt : ℕ) : String :=
  "BAI-" ++ digest (contextId ++ "-" ++ symbol) ++ "-" ++ toString orderIndex ++ "-" ++
  toString attempt

/-- The client order id of `_execute_decision`. -/
def clientOrderIdFor (env : BinanceEnvironment) (decisionId : String) (intent : OrderIntent)
    (prepared : PreparedOrder) (index : ℕ) : String :=
  match env with
  | .mainnet => generateClientOrderId digest decisionId prepared.symbol index 1
  | .testnet =>
    if intent.clientOrderId ≠ "" then intent.clientOrderId
    else generateClientOrderId digest decisionId prepared.symbol index 1

/-- `not symbol or current_symbol == symbol.upper()` -/
def selected (symbol : Option String) (currentSymbol : String) : Bool :=
  symbol.all fun s => s == "" || currentSymbol == Text.upper s

/-- The order for an active position. -/
def emergencyIntent (currentSymbol : String) (amount : Decimal) (positionSide : PositionSide)
    (attempted : ℕ) : OrderIntent where
  clientOrderId := generateClientOrderId digest "EMERGENCY" currentSymbol attempted 1
  symbol := currentSymbol
  side := if amount.isPos then .sell else .buy
  positionSide := positionSide
  orderType := "MARKET"
  timeInForce := .gtc
  quantity := amount.abs
  reduceOnly := true

/-- The loop of `_emergency_flatten`: the orders with their numbers. It ends at a position it cannot
read; the amounts were found finite before. -/
def emergencyOrders (symbol : Option String) : ℕ → List Json → List (ℕ × OrderIntent)
  | _, [] => []
  | attempted, position :: rest =>
    let currentSymbol := upperOf (getOr position "symbol" (.str ""))
    match decimalOf (getOr position "positionAmt" (.str "0")),
        PositionSide.ofValue (upperOf (getOr position "positionSide" (.str "BOTH"))) with
    | some (.finite amount), some positionSide =>
      if currentSymbol = "" || amount.isZero || !selected symbol currentSymbol then
        emergencyOrders symbol attempted rest
      else
        (attempted + 1, emergencyIntent digest currentSymbol amount positionSide (attempted + 1)) ::
          emergencyOrders symbol (attempted + 1) rest
    | _, _ => []

/-- An order id of the exchange; the code takes none that is empty. -/
abbrev OrderId := { id : String // id ≠ "" }

/-- An order that was sent: the quantity and the price the gate settled on, and the id the exchange
gave it, if it took it. -/
structure Sent where
  quantity : Decimal
  price : Decimal
  orderId : Option OrderId

/-- One call of `emergency_flatten`: the answer to the position request, and what became of the
order with a number, if it was sent. -/
structure Flatten where
  symbol : Option String
  answer : Except Exn Json
  sent : ℕ → Option Sent

/-- An emergency order. -/
structure Posted where
  number : ℕ
  intent : OrderIntent
  prepared : PreparedOrder
  orderId : Option OrderId
  deriving DecidableEq

/-- The decision of an order. -/
def emergencyDecision (intent : OrderIntent) : ExecutionDecision where
  decisionId := "EMERGENCY-" ++ intent.symbol
  symbol := intent.symbol
  action := "CLOSE_POSITION"
  riskClass := .emergency
  orders := [intent]

/-- The decision it was sent for. -/
def Posted.decision (p : Posted) : ExecutionDecision := emergencyDecision p.intent

/-- The client order id it was sent with: it is the only order of its decision. -/
def Posted.clientOrderId (env : BinanceEnvironment) (p : Posted) : String :=
  clientOrderIdFor digest env p.decision.decisionId p.intent p.prepared 0

/-- The order as the gate lets it through. -/
def prepare (intent : OrderIntent) (quantity price : Decimal) : PreparedOrder where
  symbol := Text.upper intent.symbol
  orderType := intent.orderType
  quantity := quantity
  price := none
  estimatedPrice := price
  notional := quantity.mul price

/-- The order that is recorded in front of the request. -/
def Posted.submission (env : BinanceEnvironment) (p : Posted) : Submission where
  intent := p.intent
  prepared := p.prepared
  clientOrderId :=
    if h : p.clientOrderId digest env ≠ "" then ⟨p.clientOrderId digest env, h⟩
    else ⟨"BAI", by decide⟩
  decision := p.decision

/-- The orders of a flattening that were sent. The positions replace those of the ledger first. -/
def Flatten.posted (f : Flatten) : List Posted :=
  match f.answer with
  | .ok (.arr positions) =>
    match positions.mapM toExchangePosition with
    | .ok _ => (emergencyOrders digest f.symbol 0 positions).filterMap fun (number, intent) =>
        (f.sent number).map fun sent =>
          ⟨number, intent, prepare intent sent.quantity sent.price, sent.orderId⟩
    | .error _ => []
  | _ => []

/-- The emergency orders of a run. -/
def posted (run : List Flatten) : List Posted := run.flatMap (Flatten.posted digest)

/-- The ids they were sent with. -/
def postedIds (env : BinanceEnvironment) (run : List Flatten) : List String :=
  (posted digest run).map (Posted.clientOrderId digest env)

/-- What the id of an order is made from: its symbol, and on Testnet its number. -/
def source (env : BinanceEnvironment) (p : Posted) : String × ℕ :=
  match env with
  | .mainnet => (p.intent.symbol, 0)
  | .testnet => (p.intent.symbol, p.number)

/-- The texts that are hashed. -/
def hashed (env : BinanceEnvironment) (symbol : String) : String :=
  match env with
  | .mainnet => "EMERGENCY-" ++ symbol ++ "-" ++ symbol
  | .testnet => "EMERGENCY" ++ "-" ++ symbol

/-- The id of a source. -/
def idOf (env : BinanceEnvironment) (key : String × ℕ) : String :=
  "BAI-" ++ digest (hashed env key.1) ++ "-" ++ toString key.2 ++ "-" ++ toString 1

end Digest

/-! ### Orders and their ids -/

section Ids

variable {digest : String → String}

theorem emergencyOrders_mem {symbol : Option String} {positions : List Json} {attempted number : ℕ}
    {intent : OrderIntent}
    (h : (number, intent) ∈ emergencyOrders digest symbol attempted positions) :
    intent.clientOrderId = generateClientOrderId digest "EMERGENCY" intent.symbol number 1 ∧
      Text.upper intent.symbol = intent.symbol := by
  induction positions generalizing attempted with
  | nil => cases h
  | cons position rest ih =>
    simp only [emergencyOrders] at h
    split at h
    · split_ifs at h
      · exact ih h
      · rcases List.mem_cons.mp h with hhead | htail
        · cases hhead
          exact ⟨rfl, Text.upper_upper _⟩
        · exact ih htail
    · cases h

theorem clientOrderId_eq {env : BinanceEnvironment} {f : Flatten} {p : Posted}
    (h : p ∈ f.posted digest) : p.clientOrderId digest env = idOf digest env (source env p) := by
  unfold Flatten.posted at h
  split at h
  · split at h
    · obtain ⟨⟨number, intent⟩, hmem, hsent⟩ := List.mem_filterMap.mp h
      obtain ⟨sent, -, rfl⟩ := Option.map_eq_some_iff.mp hsent
      obtain ⟨hid, hupper⟩ := emergencyOrders_mem hmem
      cases env with
      | mainnet =>
        simp [Posted.clientOrderId, clientOrderIdFor, generateClientOrderId, Posted.decision,
          emergencyDecision, prepare,
          hupper, idOf, source, hashed]
      | testnet =>
        simp [Posted.clientOrderId, clientOrderIdFor, hid, generateClientOrderId, idOf,
          source, hashed]
    · cases h
  · cases h

theorem toString_nat_inj {m n : ℕ} (h : toString m = toString n) : m = n := by
  have hdigits := congrArg (fun s => Nat.ofDigitChars 10 s.toList 0) h
  simpa using hdigits

theorem hashed_inj {env : BinanceEnvironment} {a b : String} (h : hashed env a = hashed env b) :
    a = b := by
  have hlist := congrArg String.toList h
  cases env with
  | testnet =>
    simp only [hashed, String.toList_append] at hlist
    exact String.toList_inj.mp (List.append_cancel_left hlist)
  | mainnet =>
    simp only [hashed, String.toList_append] at hlist
    have hlength := congrArg List.length hlist
    simp only [List.length_append] at hlength
    exact String.toList_inj.mp (List.append_inj_right' hlist (by omega))

/-- The symbols of the orders of a run do not collide: the digests of their texts are different. -/
def Injective (digest : String → String) (env : BinanceEnvironment) (orders : List Posted) : Prop :=
  ∀ p ∈ orders, ∀ q ∈ orders,
    digest (hashed env p.intent.symbol) = digest (hashed env q.intent.symbol) →
      hashed env p.intent.symbol = hashed env q.intent.symbol

theorem source_fst (env : BinanceEnvironment) (p : Posted) :
    (source env p).1 = p.intent.symbol := by
  cases env <;> rfl

theorem idOf_inj {env : BinanceEnvironment} (hlength : ∀ s, (digest s).length = 12)
    {orders : List Posted} (hinj : Injective digest env orders) {p q : Posted} (hp : p ∈ orders)
    (hq : q ∈ orders) (h : idOf digest env (source env p) = idOf digest env (source env q)) :
    source env p = source env q := by
  have hlist := congrArg String.toList h
  simp only [idOf, String.toList_append, List.append_assoc] at hlist
  have hrest := List.append_cancel_left hlist
  have hlen : ∀ key : String × ℕ, (digest (hashed env key.1)).toList.length = 12 := fun key => by
    rw [String.length_toList, hlength]
  obtain ⟨hdigest, hnumber⟩ := List.append_inj hrest (by rw [hlen, hlen])
  have hsymbol : (source env p).1 = (source env q).1 := by
    rw [source_fst, source_fst] at hdigest ⊢
    exact hashed_inj (hinj p hp q hq (String.toList_inj.mp hdigest))
  have htext := List.append_cancel_right (List.append_cancel_left hnumber)
  exact Prod.ext hsymbol (toString_nat_inj (String.toList_inj.mp htext))

theorem postedIds_eq (env : BinanceEnvironment) (run : List Flatten) :
    postedIds digest env run = ((posted digest run).map (source env)).map (idOf digest env) := by
  rw [postedIds, List.map_map]
  refine List.map_congr_left fun p hp => ?_
  obtain ⟨f, -, hf⟩ := List.mem_flatMap.mp hp
  exact clientOrderId_eq hf

end Ids

/-! ### Records and fills -/

section Records

variable (digest : String → String) (env : BinanceEnvironment)

/-- A record of an order, from before or from after it has the id of the exchange. -/
structure RecordOf (p : Posted) (order : ExecutionOrder) : Prop where
  clientOrderId : order.clientOrderId = (p.submission digest env).clientOrderId
  exchangeOrderId : order.exchangeOrderId = none ∨ order.exchangeOrderId = p.orderId.map Subtype.val

/-- What the orders of a run write to the ledger, in any order. -/
abbrev Writes := List (Posted × ExecutionOrder)

/-- The ledger behind the writes. -/
def written (l : InMemoryLedger) (writes : Writes) : InMemoryLedger :=
  writes.foldl (fun l w => upsertOrder w.2 l) l

/-- What an order wrote last. -/
def lastOf (p : Posted) (writes : Writes) : Option ExecutionOrder :=
  (writes.filter (·.1 = p)).getLast?.map Prod.snd

/-- The record of a client order id. -/
def record (l : InMemoryLedger) (id : ClientOrderId) : Option ExecutionOrder :=
  lookup ExecutionOrder.clientOrderId id l.orders

/-- An order on the exchange that no flattening sent. -/
structure OtherOrder where
  clientOrderId : String
  orderId : OrderId
  deriving DecidableEq

/-- An order on the exchange. -/
abbrev Owner := Posted ⊕ OtherOrder

/-- The ids an order has on the exchange, if it is there. -/
def ids : Owner → Option (String × String)
  | .inl p => p.orderId.map fun id => ((p.submission digest env).clientOrderId.1, id.1)
  | .inr o => some (o.clientOrderId, o.orderId.1)

/-- Fills with the orders they are of; a fill has the ids of its order. -/
def Trades (orders : List Posted) (others : List OtherOrder)
    (trades : List (Owner × ExchangeFill)) : Prop :=
  ∀ t ∈ trades, (∀ p, t.1 = .inl p → p ∈ orders) ∧ (∀ o, t.1 = .inr o → o ∈ others) ∧
    ids digest env t.1 = some (t.2.clientOrderId, t.2.exchangeOrderId)

/-- The fills of an order. -/
def fillsOf (p : Posted) (trades : List (Owner × ExchangeFill)) : List ExchangeFill :=
  (trades.filter (·.1 = .inl p)).map Prod.snd

/-- **Distinct identities**: the emergency orders of a run have different client order ids, the
record of each is the last one it wrote itself, and the filled quantity of a record sums the fills
of its order only. -/
structure Distinct (run : List Flatten) (others : List OtherOrder) : Prop where
  ids : (postedIds digest env run).Nodup
  records : ∀ l writes, (∀ w ∈ writes, w.1 ∈ posted digest run ∧ RecordOf digest env w.1 w.2) →
    ∀ p ∈ posted digest run, record (written l writes) (p.submission digest env).clientOrderId =
      (lastOf p writes).or (record l (p.submission digest env).clientOrderId)
  fills : ∀ trades, Trades digest env (posted digest run) others trades →
    ∀ p ∈ posted digest run, ∀ order, RecordOf digest env p order →
      filledQuantity (trades.map Prod.snd) order = filledQuantity (fillsOf p trades) order

/-- No two emergency orders have one source or one exchange order id, and no other order has an id
of one of them. -/
structure Different (run : List Flatten) (others : List OtherOrder) : Prop where
  sources : ((posted digest run).map (source env)).Nodup
  orderIds : ((posted digest run).filterMap Posted.orderId).Nodup
  others : ∀ p ∈ posted digest run, ∀ o ∈ others,
    p.clientOrderId digest env ≠ o.clientOrderId ∧ p.orderId ≠ some o.orderId

variable {digest env}

/-- The record that is made in front of the request has the client order id, and no other one. -/
theorem recordOf_planned (p : Posted) : RecordOf digest env p (planned (p.submission digest env)) :=
  ⟨rfl, .inl rfl⟩

/-- The record that is made of the response has both ids of the order. -/
theorem recordOf_response {p : Posted} {response : Json} {allowTerminalStatus : Bool}
    {order : ExecutionOrder} (hid : p.orderId.map Subtype.val = some (response.get "orderId").toStr)
    (h : orderFromResponse p.intent response p.prepared
      (p.submission digest env).clientOrderId p.decision
      allowTerminalStatus = .ok order) : RecordOf digest env p order :=
  ⟨orderFromResponse_id h, .inr (hid ▸ orderFromResponse_exchangeId h)⟩

/-- A fill that is made of a trade of the order has the ids of the order. -/
theorem ids_of_trade {p : Posted} {order : ExecutionOrder} (hrecord : RecordOf digest env p order)
    {trade : Json} {source : String} {fill : ExchangeFill}
    (hfill : exchangeFillFromTrade trade order source = .ok fill) {id : OrderId}
    (hid : p.orderId = some id) (htrade : (trade.get "orderId").toStr = id.1) :
    ids digest env (.inl p) = some (fill.clientOrderId, fill.exchangeOrderId) := by
  obtain ⟨hof, -⟩ := exchangeFillFromTrade_ok hfill
  rw [ids, hid, Option.map_some, hof.clientOrderId, hof.exchangeOrderId, htrade,
    hrecord.clientOrderId]

theorem record_upsertOrder (o : ExecutionOrder) (l : InMemoryLedger) (id : ClientOrderId) :
    record (upsertOrder o l) id = if o.clientOrderId = id then some o else record l id :=
  lookup_upsert

theorem lastOf_concat (p : Posted) (writes : Writes) (w : Posted × ExecutionOrder) :
    lastOf p (writes ++ [w]) = if w.1 = p then some w.2 else lastOf p writes := by
  unfold lastOf
  by_cases h : w.1 = p <;> simp [List.filter_append, h]

theorem record_written {orders : List Posted} (l : InMemoryLedger) {writes : Writes}
    (hinj : ∀ p ∈ orders, ∀ q ∈ orders,
      (p.submission digest env).clientOrderId = (q.submission digest env).clientOrderId → p = q)
    (hwrites : ∀ w ∈ writes, w.1 ∈ orders ∧ RecordOf digest env w.1 w.2) {p : Posted}
    (hp : p ∈ orders) :
    record (written l writes) (p.submission digest env).clientOrderId =
      (lastOf p writes).or (record l (p.submission digest env).clientOrderId) := by
  induction writes using List.reverseRecOn with
  | nil => rfl
  | append_singleton writes w ih =>
    have hbefore := ih fun w' hw' => hwrites w' (List.mem_append_left _ hw')
    obtain ⟨hmem, hrecord⟩ := hwrites w (List.mem_append_right _ (List.mem_singleton_self w))
    have hlast : written l (writes ++ [w]) = upsertOrder w.2 (written l writes) :=
      List.foldl_concat ..
    rw [hlast, record_upsertOrder, lastOf_concat, hrecord.clientOrderId, hbefore]
    by_cases h : w.1 = p
    · rw [if_pos h, if_pos (by rw [h]), Option.some_or]
    · rw [if_neg h, if_neg fun he => h (hinj _ hmem _ hp he)]

theorem filledQuantity_own {p : Posted} {order : ExecutionOrder}
    {trades : List (Owner × ExchangeFill)}
    (h : ∀ t ∈ trades, t.1 ≠ .inl p → linked order t.2 = false) :
    filledQuantity (trades.map Prod.snd) order = filledQuantity (fillsOf p trades) order := by
  have hsame : (trades.map Prod.snd).filter (linked order) = (fillsOf p trades).filter
      (linked order) := by
    rw [fillsOf, List.filter_map, List.filter_map, List.filter_filter]
    refine congrArg (List.map Prod.snd) (List.filter_congr fun t ht => ?_)
    by_cases howner : t.1 = .inl p
    · simp [howner]
    · simp [howner, h t ht howner]
  rw [filledQuantity, hsame, filledQuantity]

/-- A fill is linked to a record by the ids only. -/
theorem linked_eq_false {p : Posted} {order : ExecutionOrder} {fill : ExchangeFill}
    (hrecord : RecordOf digest env p order)
    (hclient : fill.clientOrderId ≠ (p.submission digest env).clientOrderId)
    (hexchange : ∀ id : OrderId, p.orderId = some id → fill.exchangeOrderId ≠ id.1) :
    linked order fill = false := by
  have hid : hasExchangeId order = true → fill.exchangeOrderId ≠ exchangeIdText order := by
    intro hhas
    unfold hasExchangeId exchangeIdText at *
    rcases hrecord.exchangeOrderId with hnone | hsome
    · simp [hnone] at hhas
    · cases horder : p.orderId with
      | none => simp [hsome, horder] at hhas
      | some id =>
        rw [hsome, horder]
        exact hexchange id horder
  unfold linked
  rw [hrecord.clientOrderId]
  simp only [Bool.or_eq_false_iff, Bool.and_eq_false_iff, beq_eq_false_iff_ne]
  refine ⟨?_, .inr hclient⟩
  cases hhas : hasExchangeId order with
  | false => exact .inl rfl
  | true => exact .inr (hid hhas)

end Records

/-! ### Runs -/

section Runs

variable {digest : String → String} {env : BinanceEnvironment} {run : List Flatten}
  {others : List OtherOrder}

theorem submission_id {p : Posted} (h : p ∈ posted digest run) :
    ((p.submission digest env).clientOrderId : String) = p.clientOrderId digest env := by
  obtain ⟨f, -, hf⟩ := List.mem_flatMap.mp h
  have hne : p.clientOrderId digest env ≠ "" := by
    rw [clientOrderId_eq hf]
    simp [idOf]
  simp [Posted.submission, hne]

/-- The ids are different exactly if their sources are. -/
theorem postedIds_nodup_iff (hlength : ∀ s, (digest s).length = 12)
    (hinj : Injective digest env (posted digest run)) :
    (postedIds digest env run).Nodup ↔ ((posted digest run).map (source env)).Nodup := by
  rw [postedIds_eq]
  refine ⟨List.Nodup.of_map _, fun hnodup => hnodup.map_on ?_⟩
  intro key hkey key' hkey' h
  obtain ⟨p, hp, rfl⟩ := List.mem_map.mp hkey
  obtain ⟨q, hq, rfl⟩ := List.mem_map.mp hkey'
  exact idOf_inj hlength hinj hp hq h

theorem submission_inj (hnodup : (postedIds digest env run).Nodup) :
    ∀ p ∈ posted digest run, ∀ q ∈ posted digest run,
      (p.submission digest env).clientOrderId = (q.submission digest env).clientOrderId →
      p = q := by
  intro p hp q hq h
  have hids : p.clientOrderId digest env = q.clientOrderId digest env := by
    rw [← submission_id hp, ← submission_id hq, h]
  exact List.inj_on_of_nodup_map hnodup hp hq hids

/-- The exchange order ids of two emergency orders are different. -/
theorem orderId_inj (hnodup : ((posted digest run).filterMap Posted.orderId).Nodup) {p q : Posted}
    (hp : p ∈ posted digest run) (hq : q ∈ posted digest run) {id : OrderId}
    (hpid : p.orderId = some id) (hqid : q.orderId = some id) :
    p = q := by
  by_contra hne
  have hsymm : Std.Symm fun p q : Posted => ∀ a, p.orderId = some a →
      ∀ b, q.orderId = some b → a ≠ b :=
    ⟨fun p q h a ha b hb => (h b hb a ha).symm⟩
  exact (List.pairwise_filterMap.mp hnodup).forall hp hq hne id hpid id hqid rfl

/-- Orders with different ids are credited with their own fills only. -/
theorem fills_of_different (hids : (postedIds digest env run).Nodup)
    (h : Different digest env run others) {trades : List (Owner × ExchangeFill)}
    (htrades : Trades digest env (posted digest run) others trades) {p : Posted}
    (hp : p ∈ posted digest run) {order : ExecutionOrder} (hrecord : RecordOf digest env p order) :
    filledQuantity (trades.map Prod.snd) order = filledQuantity (fillsOf p trades) order := by
  refine filledQuantity_own fun t ht howner => ?_
  obtain ⟨hposted, hother, htids⟩ := htrades t ht
  cases hcase : t.1 with
  | inl q =>
    rw [hcase, ids] at htids
    obtain ⟨id, hid, heq⟩ := Option.map_eq_some_iff.mp htids
    obtain ⟨hclient, hexchange⟩ := Prod.mk.inj heq
    have hne : q ≠ p := fun he => howner (by rw [hcase, he])
    have hq := hposted q hcase
    refine linked_eq_false hrecord (fun he => hne ?_) fun id' hid' he => hne ?_
    · exact submission_inj hids q hq p hp (Subtype.ext (hclient.trans he))
    · have hsame : id = id' := Subtype.ext (hexchange.trans he)
      exact orderId_inj h.orderIds hq hp hid (hsame ▸ hid')
  | inr o =>
    rw [hcase, ids] at htids
    obtain ⟨hclient, hexchange⟩ := Prod.mk.inj (Option.some.inj htids)
    obtain ⟨hneClient, hneExchange⟩ := h.others p hp o (hother o hcase)
    refine linked_eq_false hrecord (fun he => hneClient ?_) fun id hid he => hneExchange ?_
    · rw [← submission_id hp, ← he, ← hclient]
    · rw [hid, show id = o.orderId from Subtype.ext (he.symm.trans hexchange.symm)]

/-- A trade of one unit. -/
def unitFill (clientOrderId exchangeOrderId : String) : ExchangeFill where
  exchangeTradeId := "1"
  exchangeOrderId := exchangeOrderId
  clientOrderId := clientOrderId
  symbol := ""
  side := .buy
  positionSide := .both
  quantity := ⟨false, 1, 0⟩
  price := ⟨false, 1, 0⟩
  commission := ⟨false, 0, 0⟩
  commissionAsset := ""
  realizedPnl := ⟨false, 0, 0⟩
  maker := false
  eventTime := .null
  transactionTime := .null
  source := ""

/-- Orders that are credited with their own fills only share no id with another one. -/
theorem not_linked_of_fills {p : Posted} {owner : Owner} (hne : owner ≠ .inl p)
    {order : ExecutionOrder} {clientId exchangeId : String}
    (h : filledQuantity ([(owner, unitFill clientId exchangeId)].map Prod.snd) order =
      filledQuantity (fillsOf p [(owner, unitFill clientId exchangeId)]) order) :
    linked order (unitFill clientId exchangeId) = false := by
  by_contra hlinked
  rw [Bool.not_eq_false] at hlinked
  have hnone : fillsOf p [(owner, unitFill clientId exchangeId)] = [] := by simp [fillsOf, hne]
  have hone : filledQuantity ([(owner, unitFill clientId exchangeId)].map Prod.snd) order =
      Decimal.sum [⟨false, 1, 0⟩] := by
    rw [filledQuantity, List.map_singleton, List.filter_cons_of_pos hlinked]
    rfl
  rw [hone, hnone] at h
  have hsum : Decimal.sum [⟨false, 1, 0⟩] = Decimal.sum [] := h
  exact absurd hsum (by decide)

/-- The record of an order that has both ids. -/
def booked (digest : String → String) (env : BinanceEnvironment) (p : Posted) : ExecutionOrder :=
  { planned (p.submission digest env) with exchangeOrderId := p.orderId.map Subtype.val }

theorem recordOf_booked (p : Posted) : RecordOf digest env p (booked digest env p) :=
  ⟨rfl, .inr rfl⟩

/-- A fill with one of the ids of an order is linked to this record. -/
theorem linked_booked {p : Posted} {clientId exchangeId : String}
    (h : clientId = (p.submission digest env).clientOrderId.1 ∨
      ∃ id : OrderId, p.orderId = some id ∧ exchangeId = id.1) :
    linked (booked digest env p) (unitFill clientId exchangeId) = true := by
  unfold linked
  rw [Bool.or_eq_true, Bool.and_eq_true, Bool.and_eq_true]
  rcases h with hclient | ⟨id, hid, hexchange⟩
  · exact .inr ⟨bne_iff_ne.mpr (p.submission digest env).clientOrderId.2, beq_iff_eq.mpr hclient⟩
  · have hbooked : (booked digest env p).exchangeOrderId = some id.1 := by
      rw [booked, hid, Option.map_some]
    refine .inl ⟨?_, ?_⟩
    · rw [hasExchangeId, hbooked]
      simpa using id.2
    · rw [exchangeIdText, hbooked]
      exact beq_iff_eq.mpr hexchange

/-- Orders with distinct identities share no id with another order on the exchange. -/
theorem Distinct.ids_ne (h : Distinct digest env run others) {p : Posted}
    (hp : p ∈ posted digest run) {owner : Owner} (hne : owner ≠ .inl p)
    (hposted : ∀ q, owner = .inl q → q ∈ posted digest run)
    (hother : ∀ o, owner = .inr o → o ∈ others) {clientId exchangeId : String}
    (hids : Emergency.ids digest env owner = some (clientId, exchangeId)) :
    clientId ≠ (p.submission digest env).clientOrderId.1 ∧
      ∀ id : OrderId, p.orderId = some id → exchangeId ≠ id.1 := by
  have htrades : Trades digest env (posted digest run) others
      [(owner, unitFill clientId exchangeId)] := by
    intro t ht
    obtain rfl := List.mem_singleton.mp ht
    exact ⟨hposted, hother, hids⟩
  have hunlinked := not_linked_of_fills hne (h.fills _ htrades p hp _ (recordOf_booked p))
  refine ⟨fun hclient => ?_, fun id hid hexchange => ?_⟩
  · rw [linked_booked (.inl hclient)] at hunlinked
    cases hunlinked
  · rw [linked_booked (.inr ⟨id, hid, hexchange⟩)] at hunlinked
    cases hunlinked

/-- **Emergency orders**: they have distinct identities exactly if on Mainnet no symbol is flattened
twice, and on Testnet no symbol twice under one number, no two of them have one exchange order id,
and no other order has an id of one of them. -/
theorem emergency_ids_distinct_iff (hlength : ∀ s, (digest s).length = 12)
    (hinj : Injective digest env (posted digest run)) :
    Distinct digest env run others ↔ Different digest env run others := by
  have hsources := postedIds_nodup_iff hlength hinj
  refine ⟨fun h => ⟨hsources.mp h.ids, ?_, fun p hp o ho => ?_⟩, fun h => ?_⟩
  · refine List.pairwise_filterMap.mpr (List.Nodup.pairwise_of_forall_ne (.of_map _ h.ids) ?_)
    rintro p hp q hq hne id hpid id' hqid rfl
    have hids :
        ids digest env (.inl q) = some ((q.submission digest env).clientOrderId.1, id.1) := by
      rw [ids, hqid, Option.map_some]
    have howner : (.inl q : Owner) ≠ .inl p := fun he => hne (Sum.inl.inj he).symm
    have hmem : ∀ q', (.inl q : Owner) = .inl q' → q' ∈ posted digest run :=
      fun q' he => Sum.inl.inj he ▸ hq
    exact (h.ids_ne hp howner hmem (fun _ he => absurd he Sum.inl_ne_inr) hids).2 id hpid rfl
  · have hmem : ∀ o', (.inr o : Owner) = .inr o' → o' ∈ others := fun o' he => Sum.inr.inj he ▸ ho
    have hids : ids digest env (.inr o) = some (o.clientOrderId, o.orderId.1) := rfl
    obtain ⟨hclient, hexchange⟩ :=
      h.ids_ne hp Sum.inr_ne_inl (fun _ he => absurd he Sum.inr_ne_inl) hmem hids
    exact ⟨fun he => hclient (by rw [submission_id hp, he]), fun hid => hexchange _ hid rfl⟩
  · have hids := hsources.mpr h.sources
    exact ⟨hids, fun l writes hwrites p hp => record_written l (submission_inj hids) hwrites hp,
      fun trades htrades p hp order hrecord => fills_of_different hids h htrades hp hrecord⟩

/-! ### Samples -/

/-- A position of the exchange. -/
def samplePosition (symbol side amount : String) : Json :=
  .obj [("symbol", .str symbol), ("positionSide", .str side), ("positionAmt", .str amount),
    ("entryPrice", .str "3000"), ("markPrice", .str "3000"), ("leverage", .str "2")]

/-- Flatten positions; every order is sent, and has its number as the id of the exchange from
`first` on. -/
def sampleFlatten (first : ℕ) (positions : List Json) : Flatten where
  symbol := none
  answer := .ok (.arr positions)
  sent number :=
    some ⟨⟨false, 1, 0⟩, ⟨false, 3000, 0⟩, some ⟨"9" ++ toString (first + number), by simp⟩⟩

/-- The digests of the texts of the samples. -/
def sampleSha (s : String) : String :=
  if s = "EMERGENCY-ETHUSDC-ETHUSDC" then "b776a62a6f07"
  else if s = "EMERGENCY-ETHUSDT" then "55e31e0467cc"
  else if s = "EMERGENCY-BTCUSDT" then "60bbfb12be69"
  else "50ddcad8a157"

theorem sampleSha_length (s : String) : (sampleSha s).length = 12 := by
  unfold sampleSha
  split_ifs <;> rfl

/-- Two symbols on Testnet. -/
def twoSymbols : List Flatten :=
  [sampleFlatten 100 [samplePosition "ETHUSDT" "BOTH" "1", samplePosition "BTCUSDT" "BOTH" "-2"]]

/-- A grid order of the same account. -/
def gridOrder : OtherOrder := ⟨"BAI-0f3a54d08b1c-0-1", ⟨"90", by decide⟩⟩

theorem emergency_ids_distinct_iff_twoSymbols :
    Distinct sampleSha .testnet twoSymbols [gridOrder] := by
  have hinj : Injective sampleSha .testnet (posted sampleSha twoSymbols) := by
    unfold Injective
    decide +kernel
  refine (emergency_ids_distinct_iff sampleSha_length hinj).mpr
    ⟨by decide +kernel, by decide +kernel, ?_⟩
  decide +kernel

/-- Both legs of a hedged position on Mainnet, and two flattenings of one position on Testnet, share
an id. -/
theorem emergency_ids_collide :
    postedIds sampleSha .mainnet
        [sampleFlatten 100 [samplePosition "ETHUSDC" "LONG" "1",
          samplePosition "ETHUSDC" "SHORT" "-2"]] =
      ["BAI-b776a62a6f07-0-1", "BAI-b776a62a6f07-0-1"] ∧
    postedIds sampleSha .testnet
        [sampleFlatten 100 [samplePosition "ETHUSDT" "BOTH" "1"],
          sampleFlatten 200 [samplePosition "ETHUSDT" "BOTH" "2"]] =
      ["BAI-55e31e0467cc-1-1", "BAI-55e31e0467cc-1-1"] := by
  decide +kernel

end Runs

end Blessing.Binance.Emergency
