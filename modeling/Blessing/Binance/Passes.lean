import Blessing.Binance.Reconciliation

/-! # The passes of a reconciliation

What the calls of a reconciliation can do to the state, said once for the results about whole runs:
which requests they make and which changes to the ledger. -/

namespace Blessing.Binance.Passes

open Blessing.Lib Blessing.Lib.Values Blessing.Lib.Table Blessing.Lib.Effects
open Blessing.Binance.Models Blessing.Binance.Ledger Blessing.Binance.Account
open Blessing.Binance.RestClient Blessing.Binance.Recovery Blessing.Binance.Reconciliation

variable {client : Client} {P : State → Prop} {s s' : State}

/-! ### Requests -/

/-- The state after a request. -/
def asked (client : Client) (r : Request) (s : State) : State :=
  { s with log := s.log ++ [(r, client.answer s.log.length r)] }

theorem run_request (r : Request) : (request client r).run s =
    match client.answer s.log.length r with
    | .ok v => .ok v (asked client r s)
    | .error e => .error e (asked client r s) := by
  rw [request, run_bind, run_get]
  change (lift (client.answer s.log.length r) : M Json).run (asked client r s) = _
  cases client.answer s.log.length r with
  | ok v => rfl
  | error e => rfl

/-- The requests other than those for the recent trades of a symbol do not matter to `P`. -/
def Quiet (client : Client) (P : State → Prop) : Prop :=
  ∀ s r, (∀ symbol, r ≠ tradesRequest client symbol) → P s → P (asked client r s)

theorem Quiet.request (h : Quiet client P) {r : Request}
    (hr : ∀ symbol, r ≠ tradesRequest client symbol) : Keeps P (request client r) := by
  intro s hs
  have hasked := h s r hr hs
  rw [run_request]
  cases client.answer s.log.length r with
  | ok v => exact hasked
  | error e => exact hasked

/-! ### Recovering the fills of an order -/

/-- Recovering fills of the order keeps `P`: it asks, notes identifiers and records fills. -/
structure Recovering (client : Client) (order : ExecutionOrder) (P : State → Prop) : Prop where
  quiet : Quiet client P
  note : ∀ s ids, P s → P { s with recoveredTradeIds := s.recoveredTradeIds ∪ ids }
  record : ∀ s fill, fill.clientOrderId = order.clientOrderId.1 → P s →
    P { s with ledger := appendFill fill s.ledger }

/-- A fill made from a trade of an order. -/
structure FillOf (trade : Json) (order : ExecutionOrder) (fill : ExchangeFill) : Prop where
  clientOrderId : fill.clientOrderId = order.clientOrderId.1
  exchangeOrderId : fill.exchangeOrderId = (trade.get "orderId").toStr

theorem exchangeFillFromTrade_ok {trade : Json} {order : ExecutionOrder} {source : String}
    {fill : ExchangeFill} (h : exchangeFillFromTrade trade order source = .ok fill) :
    FillOf trade order fill ∧ fill.source = source := by
  unfold exchangeFillFromTrade at h
  simp only [throw, throwThe, MonadExceptOf.throw, pure, Except.pure, bind, Except.bind] at h
  split_ifs at h with habsent hempty hsymbol horder hclient
  have hsame : textOr (trade.get "clientOrderId") order.clientOrderId.1 =
      order.clientOrderId.1 := by
    unfold textOr
    split_ifs with ht
    · by_contra hne
      exact hclient ⟨ht, hne⟩
    · rfl
  split at h
  · split_ifs at h
    split at h
    · split_ifs at h
      cases h
      exact ⟨⟨hsame, rfl⟩, rfl⟩
    · cases h
  · cases h

/-- The fill of a trade and the identifiers noted for it. -/
def fillsOf (client : Client) (order : ExecutionOrder) (trades : List Json)
    (fills : List ExchangeFill) : Prop :=
  List.Forall₂ (fun trade fill =>
    exchangeFillFromTrade trade order (client.env.label ++ "_RECOVERY") = .ok fill) trades fills

/-- The request of `_recover_order_fills`. -/
def orderTradesRequest (client : Client) (order : ExecutionOrder) (orderId : Json) : Request :=
  ⟨userTradesPath client, [("symbol", .str order.symbol), ("orderId", orderId),
    ("limit", .int 1000)]⟩

theorem orderTradesRequest_ne (order : ExecutionOrder) (orderId : Json) (symbol : String) :
    orderTradesRequest client order orderId ≠ tradesRequest client symbol := by
  simp [orderTradesRequest, tradesRequest]

theorem recoverFill_ok {order : ExecutionOrder} {fills fills' : List ExchangeFill} {trade : Json}
    (h : (recoverFill client order fills trade).run s = .ok fills' s') :
    ∃ fill, exchangeFillFromTrade trade order (client.env.label ++ "_RECOVERY") = .ok fill ∧
      fills' = fills ++ [fill] ∧
      s' = { s with recoveredTradeIds := s.recoveredTradeIds ∪ tradeIds trade } := by
  obtain ⟨⟨⟩, t, ⟨⟩, h⟩ := bind_ok.mp h
  obtain ⟨fill, t, hlift, h⟩ := bind_ok.mp h
  obtain ⟨hfill, rfl⟩ := lift_ok.mp hlift
  cases h
  exact ⟨fill, hfill, rfl, rfl⟩

/-- The fills of the trades, and the identifiers noted on the way. -/
theorem recoverFills_ok {order : ExecutionOrder} {trades : List Json} {fills : List ExchangeFill}
    (h : (trades.foldlM (recoverFill client order) []).run s = .ok fills s') :
    fillsOf client order trades fills ∧
      ∃ ids, s' = { s with recoveredTradeIds := ids } ∧
        ∀ id ∈ ids, id ∈ s.recoveredTradeIds ∨ ∃ trade ∈ trades, id ∈ tradeIds trade := by
  refine foldlM_ok (fun done fills t => fillsOf client order done fills ∧
    ∃ ids, t = { s with recoveredTradeIds := ids } ∧
      ∀ id ∈ ids, id ∈ s.recoveredTradeIds ∨ ∃ trade ∈ done, id ∈ tradeIds trade) h
    ⟨.nil, s.recoveredTradeIds, rfl, fun id hid => .inl hid⟩ ?_
  rintro done trade rest fills fills' t t' - ⟨hfills, ids, rfl, hids⟩ hrun
  obtain ⟨fill, hfill, rfl, rfl⟩ := recoverFill_ok hrun
  refine ⟨List.rel_append hfills (.cons hfill .nil), ids ∪ tradeIds trade, rfl, fun id hid => ?_⟩
  rcases List.mem_union_iff.mp hid with hid | hid
  · rcases hids id hid with hid | ⟨trade', htrade', hid⟩
    · exact .inl hid
    · exact .inr ⟨trade', List.mem_append_left _ htrade', hid⟩
  · exact .inr ⟨trade, by simp, hid⟩

theorem fillsOf_mem {order : ExecutionOrder} {trades : List Json} {fills : List ExchangeFill}
    (h : fillsOf client order trades fills) {fill : ExchangeFill} (hfill : fill ∈ fills) :
    ∃ trade ∈ trades, FillOf trade order fill := by
  induction h with
  | nil => cases hfill
  | cons hhead htail ih =>
    rcases List.mem_cons.mp hfill with rfl | hfill
    · exact ⟨_, by simp, (exchangeFillFromTrade_ok hhead).1⟩
    · obtain ⟨trade, htrade, hof⟩ := ih hfill
      exact ⟨trade, by simp [htrade], hof⟩

theorem Recovering.recoverOrderFills {order : ExecutionOrder} (h : Recovering client order P)
    (orderStatus : Json) : Keeps P (recoverOrderFills client order orderStatus) := by
  refine .bind (.lift _) fun orderId => .bind (h.quiet.request fun symbol =>
    orderTradesRequest_ne order orderId symbol) fun answer => ?_
  cases answer with
  | arr trades =>
    refine .bind (.lift _) fun trades => .guard ?_
    refine .bind_of (.foldlM (fun fills trade _ => ?_) _) fun fills hfills => ?_
    · refine .bind (.modify fun s hs => h.note s _ hs) fun _ => .bind (.lift _) fun _ => .pure _
    · obtain ⟨t, t', hrun⟩ := hfills
      refine .bind (.lift _) fun _ => .bind (.forEach fun fill hfill => ?_) fun _ => .pure _
      obtain ⟨trade, -, hof⟩ := fillsOf_mem (recoverFills_ok hrun).1 hfill
      exact .modify fun s hs => h.record s fill hof.clientOrderId hs
  | _ => exact .throw _

/-! ### The steps in front of the passes -/

/-- Neither requests nor the window of the day matter to `P`. -/
structure Fetching (client : Client) (P : State → Prop) : Prop where
  quiet : Quiet client P
  window : ∀ s w, P s → P { s with dailyLossWindow := w }

theorem Quiet.fetchSnapshotInputs (h : Quiet client P) : Keeps P (fetchSnapshotInputs client) := by
  have hrequest : ∀ path, Keeps P (Recovery.request client ⟨path, []⟩) := fun path =>
    h.request fun symbol => by simp [tradesRequest]
  unfold Recovery.fetchSnapshotInputs
  refine .ite (fun _ => ?_) fun _ => ?_
  · refine .bind (hrequest _) fun positions => .bind (hrequest _) fun openOrders =>
      .bind (hrequest _) fun balances => .bind (hrequest _) fun umAccount => ?_
    split
    · exact .bind (.lift _) fun _ => .bind (.lift _) fun _ => .bind (.lift _) fun _ => .pure _
    · exact .throw _
  · refine .bind (hrequest _) fun positions => .bind (hrequest _) fun openOrders =>
      .bind (hrequest _) fun account => ?_
    split
    · exact .pure _
    · exact .throw _

theorem Quiet.incomePages (h : Quiet client P) (start : ℤ) (fuel page : ℕ) (total : Decimal) :
    Keeps P (incomePages client start fuel page total) := by
  induction fuel generalizing page total with
  | zero => exact .pure _
  | succ fuel ih =>
    refine .bind (h.request fun symbol => by simp [tradesRequest]) fun payload => ?_
    split
    · split
      · exact .pure _
      · exact .ite (fun _ => .pure _) fun _ => ih _ _
    · exact .pure _

theorem Fetching.dailyRealizedPnl (h : Fetching client P) : Keeps P (dailyRealizedPnl client) := by
  refine .ite (fun _ => .pure _) fun _ => ?_
  refine .bind (.modify fun s hs => h.window s _ hs) fun _ => .tryCatch ?_ fun _ => .pure _
  exact .bind (h.quiet.incomePages _ _ _ _) fun _ => .pure _

theorem Fetching.snapshotOf (h : Fetching client P) (account : Json) (positions : List Json) :
    Keeps P (snapshotOf client account positions) :=
  .bind h.dailyRealizedPnl fun _ => .bind .get fun _ => .lift _

/-- Resolving an identifier keeps `P`: it asks and replaces the order. -/
theorem Quiet.resolveOrderId (h : Quiet client P) {order : ExecutionOrder}
    (hput : ∀ s id, P s →
      P { s with ledger := upsertOrder { order with exchangeOrderId := some id } s.ledger }) :
    Keeps P (resolveOrderId client order) := by
  refine .ite (fun _ => .tryCatch ?_ fun _ => .pure _) fun _ => .pure _
  refine .bind (h.request fun symbol => by simp [tradesRequest]) fun info => ?_
  exact .ite (fun _ => .modify fun s hs => hput s _ hs) fun _ => .pure _

/-! ### Whole runs -/

/-- The state in which the body of `reconcile` starts. -/
def started (s : State) : State :=
  { s with
    authenticationFailed := false, unattributedFillDiffs := [], lastStatus := .reconciling,
    lastDiffs := [] }

end Blessing.Binance.Passes
