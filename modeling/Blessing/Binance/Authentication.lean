import Blessing.Binance.Passes

/-! # Refused authentications

Which refusals of the exchange a reconciliation reports. Every request that is refused raises, and
the refusal is passed on to the handlers of `reconcile` and `bootstrap`, which note it in
`authentication_failed`; only the income of the day (`_daily_realized_pnl`) and the look-up of
missing order identifiers (`_resolve_missing_exchange_order_ids`) catch it with every other
exception. `reconcile_reports` says that nothing else is swallowed. -/

namespace Blessing.Binance.Authentication

open Blessing.Lib Blessing.Lib.Values Blessing.Lib.Effects
open Blessing.Binance.Models Blessing.Binance.Ledger Blessing.Binance.Account
open Blessing.Binance.AccountGate (ExchangeAccountSnapshot)
open Blessing.Binance.RestClient Blessing.Binance.Recovery Blessing.Binance.Reconciliation
open Blessing.Binance.Passes

variable {α β : Type} {client : Client} {s : State}

/-! ### Runs that pass refusals on -/

/-- An answer that refuses the authentication. -/
def isRefusal (entry : Request × Except Exn Json) : Bool :=
  match entry.2 with
  | .error e => e.isAuthentication
  | .ok _ => false

/-- A request of the run is refused. -/
def refused (x : M α) (s : State) : Bool :=
  ((after (x.run s)).log.drop s.log.length).any isRefusal

/-- The run adds requests, and raises the refusal if one of them is refused. -/
def Loud (x : M α) (s : State) : Prop :=
  ∃ news, (after (x.run s)).log = s.log ++ news ∧
    (news.any isRefusal = true → ∃ e t, x.run s = .error e t ∧ e.isAuthentication = true)

theorem Loud.refused {x : M α} (hx : Loud x s) (h : refused x s = true) :
    ∃ e t, x.run s = .error e t ∧ e.isAuthentication = true := by
  obtain ⟨news, hlog, hraise⟩ := hx
  rw [Authentication.refused, hlog, List.drop_left] at h
  exact hraise h

theorem Loud.of_not_refused {x : M α} (hx : Keeps (fun t => s.log <+: t.log) x)
    (h : Authentication.refused x s = false) : Loud x s := by
  obtain ⟨news, hlog⟩ := hx s List.prefix_rfl
  refine ⟨news, hlog.symm, fun hnews => ?_⟩
  rw [Authentication.refused, ← hlog, List.drop_left, hnews] at h
  cases h

theorem Loud.silent {x : M α} (h : (after (x.run s)).log = s.log) : Loud x s :=
  ⟨[], by simpa using h, by simp⟩

theorem Loud.pure (a : α) : Loud (pure a : M α) s := .silent rfl

theorem Loud.throw (e : Exn) : Loud (throw e : M α) s := .silent rfl

theorem Loud.lift (y : Except Exn α) : Loud (lift y : M α) s := by
  cases y with
  | ok a => exact .silent rfl
  | error e => exact .silent rfl

theorem Loud.modify {g : State → State} (h : (g s).log = s.log) : Loud (modify g : M Unit) s :=
  .silent h

theorem Loud.request (r : Request) : Loud (request client r) s := by
  refine ⟨[(r, client.answer s.log.length r)], ?_, fun h => ?_⟩
  · rw [run_request]
    cases ha : client.answer s.log.length r with
    | ok v => simp [after, asked, ha]
    | error e => simp [after, asked, ha]
  · rw [run_request]
    cases ha : client.answer s.log.length r with
    | ok v => simp [isRefusal, ha] at h
    | error e => exact ⟨e, _, rfl, by simpa [isRefusal, ha] using h⟩

theorem Loud.bind {x : M α} {f : α → M β} (hx : Loud x s)
    (hf : ∀ a t, x.run s = .ok a t → Loud (f a) t) : Loud (x >>= f) s := by
  obtain ⟨news, hlog, hraise⟩ := hx
  cases hrun : x.run s with
  | error e t =>
    rw [hrun] at hlog hraise
    have hbind : (x >>= f).run s = .error e t := run_bind_of_error hrun
    refine ⟨news, by rw [hbind]; exact hlog, fun h => ?_⟩
    obtain ⟨e', t', he, hauth⟩ := hraise h
    cases he
    exact ⟨e, t, hbind, hauth⟩
  | ok a t =>
    rw [hrun] at hlog hraise
    obtain ⟨more, hmore, hraise'⟩ := hf a t hrun
    have hbind : (x >>= f).run s = (f a).run t := run_bind_of_ok hrun
    refine ⟨news ++ more, ?_, fun h => ?_⟩
    · rw [hbind, hmore, ← List.append_assoc]
      exact congrArg (· ++ more) hlog
    · rw [hbind]
      rw [List.any_append, Bool.or_eq_true] at h
      rcases h with h | h
      · obtain ⟨e, u, he, -⟩ := hraise h
        cases he
      · exact hraise' h

theorem Loud.ite {c : Prop} [Decidable c] {x y : M α} (hx : Loud x s) (hy : Loud y s) :
    Loud (if c then x else y) s := by
  split_ifs
  · exact hx
  · exact hy

theorem Loud.foldlM {ι : Type} {body : β → ι → M β} {is : List ι}
    (h : ∀ b i s, Loud (body b i) s) (b : β) (s : State) : Loud (is.foldlM body b) s := by
  induction is generalizing b s with
  | nil => exact .pure b
  | cons i is ih =>
    rw [List.foldlM_cons]
    exact (h b i s).bind fun c t _ => ih c t

theorem Loud.forEach {ι : Type} {body : ι → M Unit} {is : List ι} (h : ∀ i s, Loud (body i) s)
    (s : State) : Loud (forEach body is) s := .foldlM (fun _ => h) () s

theorem Loud.tryCatch {x : M α} (hx : Loud x s) (g : Exn → M α)
    (hg : ∀ e t, Loud (if e.isAuthentication then MonadExcept.throw e else g e) t) :
    Loud (tryCatch x fun e => if e.isAuthentication then MonadExcept.throw e else g e) s := by
  obtain ⟨news, hlog, hraise⟩ := hx
  cases hrun : x.run s with
  | ok a t =>
    rw [hrun] at hlog hraise
    refine ⟨news, by rw [run_tryCatch, hrun]; exact hlog, fun h => ?_⟩
    obtain ⟨e, u, he, -⟩ := hraise h
    cases he
  | error e t =>
    rw [hrun] at hlog hraise
    obtain ⟨more, hmore, hraise'⟩ := hg e t
    rw [Loud, run_tryCatch, hrun]
    refine ⟨news ++ more, ?_, fun h => ?_⟩
    · rw [hmore, ← List.append_assoc]
      exact congrArg (· ++ more) hlog
    · rw [List.any_append, Bool.or_eq_true] at h
      rcases h with h | h
      · obtain ⟨e', t', he, hauth⟩ := hraise h
        cases he
        exact ⟨e, t, by simp only [if_pos hauth]; rfl, hauth⟩
      · exact hraise' h

/-! ### The parts of a reconciliation -/

theorem loud_fetchSnapshotInputs : Loud (fetchSnapshotInputs client) s := by
  unfold fetchSnapshotInputs
  refine .ite ?_ ?_
  · refine (Loud.request _).bind fun positions _ _ => (Loud.request _).bind fun openOrders _ _ =>
      (Loud.request _).bind fun balances _ _ => (Loud.request _).bind fun umAccount _ _ => ?_
    split
    · exact (Loud.lift _).bind fun _ _ _ => (Loud.lift _).bind fun _ _ _ =>
        (Loud.lift _).bind fun _ _ _ => .pure _
    · exact .throw _
  · refine (Loud.request _).bind fun positions _ _ => (Loud.request _).bind fun openOrders _ _ =>
      (Loud.request _).bind fun account _ _ => ?_
    split
    · exact .pure _
    · exact .throw _

theorem loud_modifyLedger (f : InMemoryLedger → InMemoryLedger) : Loud (modifyLedger f) s :=
  .modify rfl

theorem loud_updateLedger (f : InMemoryLedger → Except Exn InMemoryLedger) :
    Loud (updateLedger f) s := by
  refine .silent ?_
  rw [updateLedger, run_get_bind, run_bind]
  cases f s.ledger with
  | ok l => rfl
  | error e => rfl

theorem loud_guard {c : Prop} [Decidable c] {e : Exn} {k : PUnit → M α} (hk : Loud (k ⟨⟩) s) :
    Loud (if c then MonadExcept.throw e >>= k else k ⟨⟩) s := by
  split_ifs
  · exact .silent rfl
  · exact hk

theorem loud_recoverOrderFills (order : ExecutionOrder) (orderStatus : Json) :
    Loud (recoverOrderFills client order orderStatus) s := by
  refine (Loud.lift _).bind fun orderId _ _ => (Loud.request _).bind fun answer _ _ => ?_
  cases answer with
  | arr trades =>
    refine (Loud.lift _).bind fun trades _ _ => loud_guard ?_
    refine (Loud.foldlM (fun fills trade _ => ?_) _ _).bind fun fills _ _ => ?_
    · exact (Loud.modify rfl).bind fun _ _ _ => (Loud.lift _).bind fun _ _ _ => .pure _
    · exact (Loud.lift _).bind fun _ _ _ =>
        (Loud.forEach (fun _ _ => loud_modifyLedger _) _).bind fun _ _ _ => .pure _
  | _ => exact .throw _

theorem loud_tryRecovery (order : ExecutionOrder) (orderStatus : Json) :
    Loud (tryRecovery client order orderStatus) s :=
  .tryCatch ((loud_recoverOrderFills order orderStatus).bind fun _ _ _ => .pure _) _ fun _ _ =>
    .ite (.throw _) (.pure _)

theorem loud_recoverOpen (order : ExecutionOrder) (row : Json) (acc : Acc) :
    Loud (recoverOpen client order row acc) s :=
  (loud_tryRecovery order row).bind fun _ _ _ => .pure _

theorem loud_collectOpen (order : ExecutionOrder) (row : Json) (acc : Acc) :
    Loud (collectOpen client order row acc) s := by
  unfold collectOpen
  refine .ite ?_ (.ite (loud_recoverOpen _ _ _) (.pure _))
  split
  · exact .pure _
  · exact .throw _
  · exact .ite (.pure _) (loud_recoverOpen _ _ _)
  · exact .ite (.pure _) (.ite (loud_recoverOpen _ _ _) (.pure _))

theorem loud_collectQueried (order : ExecutionOrder) (orderStatus : Json) (acc : Acc) :
    Loud (collectQueried client order orderStatus acc) s := by
  unfold collectQueried
  refine .ite ((loud_tryRecovery order orderStatus).bind fun recovered _ _ => .ite ?_ (.pure _)) ?_
  · exact (loud_modifyLedger _).bind fun _ _ _ => .pure _
  · refine .ite (.ite (.pure _) (.ite ?_ (.pure _))) (.pure _)
    exact (loud_modifyLedger _).bind fun _ _ _ => .pure _

theorem loud_collectQuery (order : ExecutionOrder) (acc : Acc) :
    Loud (collectQuery client order acc) s := by
  refine Loud.bind (.tryCatch ((Loud.request _).bind fun _ _ _ => .pure _) _ fun _ _ =>
    .ite (.throw _) (.pure _)) fun answer _ _ => ?_
  split
  · exact .pure _
  · exact .ite (loud_collectQueried _ _ _) (.pure _)

theorem loud_collectOrder (rows : List Json) (acc : Acc) (order : ExecutionOrder) :
    Loud (collectOrder client rows acc order) s := by
  unfold collectOrder
  split
  · refine (loud_collectOpen _ _ _).bind fun acc _ _ => .ite (.pure _) (loud_collectQuery _ _)
  · exact loud_collectQuery _ _

theorem loud_recoverTrade (symbol : String) (diffs : List Diff) (trade : Json) :
    Loud (recoverTrade client symbol diffs trade) s := by
  unfold recoverTrade
  refine loud_guard (Loud.bind (.silent rfl) fun t _ _ => ?_)
  split
  · exact .pure _
  · exact (Loud.lift _).bind fun _ _ _ => (loud_modifyLedger _).bind fun _ _ _ => .pure _

theorem loud_recoverRecentTrades (symbols : List String) :
    Loud (recoverRecentTrades client symbols) s := by
  refine (Loud.foldlM (fun diffs symbol _ => ?_) _ _).bind fun _ _ _ => .modify rfl
  refine (Loud.request _).bind fun answer _ _ => ?_
  cases answer with
  | arr trades =>
    exact .foldlM (fun diffs trade _ => loud_recoverTrade symbol diffs trade) _ _
  | _ => exact .throw _

theorem loud_seedPosition (symbols : List String) (position : Json) :
    Loud (seedPosition symbols position) s := by
  unfold seedPosition
  exact loud_guard (.ite (loud_updateLedger _) (.pure _))

theorem loud_collectPositions (positions : List Json) (acc : Acc) :
    Loud (collectPositions positions acc) s := by
  refine (Loud.forEach (fun position _ => loud_seedPosition _ position) _).bind fun _ _ _ =>
    (Loud.lift _).bind fun _ _ _ => ?_
  refine (Loud.forEach (fun symbol _ => .ite (loud_modifyLedger _) (.pure _)) _).bind
    fun _ _ _ => ?_
  exact (Loud.silent rfl : Loud (get : M State) _).bind fun _ _ _ => .pure _

theorem loud_collectDiffs (positions openOrders : List Json) :
    Loud (collectDiffs client positions openOrders) s := by
  refine (Loud.lift _).bind fun _ _ _ => Loud.bind (.silent rfl) fun _ _ _ => ?_
  refine (Loud.foldlM (fun acc order _ => loud_collectOrder _ acc order) _ _).bind fun _ _ _ => ?_
  refine Loud.bind (.silent rfl) fun _ _ _ => (Loud.lift _).bind fun _ _ _ => ?_
  exact (loud_collectPositions _ _).bind fun _ _ _ => Loud.bind (.silent rfl) fun _ _ _ => .pure _

/-- The comparison passes refusals on, unless a look-up is refused. -/
theorem loud_compare {positions openOrders : List Json}
    (h : ∀ symbols, symbolsOf positions openOrders s.ledger.orders = .ok symbols →
      refused (resolveMissingExchangeOrderIds client s.ledger.orders) s = false) :
    Loud (compare client positions openOrders) s := by
  have hquiet : Quiet client fun t => s.log <+: t.log := fun t r _ ht =>
    ht.trans (List.prefix_append _ _)
  refine Loud.bind (.silent rfl) fun t _ ht => ?_
  cases ht
  refine (Loud.lift _).bind fun symbols t ht => ?_
  obtain ⟨hsymbols, rfl⟩ := lift_ok.mp ht
  refine Loud.bind (.of_not_refused (.forEach fun order _ => hquiet.resolveOrderId fun _ _ ht => ht)
    (h symbols hsymbols)) fun _ _ _ => ?_
  exact (loud_recoverRecentTrades _).bind fun _ _ _ => loud_collectDiffs _ _

/-- The snapshot passes refusals on, unless the income of the day is refused. -/
theorem loud_snapshotOf {account : Json} {positions : List Json}
    (h : refused (dailyRealizedPnl client) s = false) :
    Loud (snapshotOf client account positions) s := by
  have hfetching : Fetching client fun t => s.log <+: t.log :=
    ⟨fun t r _ ht => ht.trans (List.prefix_append _ _), fun _ _ ht => ht⟩
  refine Loud.bind (.of_not_refused ?_ h) fun pnl _ _ => Loud.bind (.silent rfl)
    fun _ _ _ => .lift _
  exact hfetching.dailyRealizedPnl

/-! ### Refusals that are swallowed -/

/-- A run behind another one is refused. -/
def refusedBehind (x : M α) (y : α → M β) (s : State) : Bool :=
  match x.run s with
  | .ok a t => refused (y a) t
  | .error _ _ => false

/-- A reconciliation up to the request for the income of the day. -/
def inputs (client : Client) : M (Json × List Json × List Json) := do
  let (account, positions, openOrders) ← fetchSnapshotInputs client
  lift (validateMainnetScope client.env positions openOrders)
  return (account, positions, openOrders)

/-- A reconciliation up to the look-up of missing identifiers, with the orders that are looked
up. -/
def lookedUp (client : Client) : M (List ExecutionOrder) := do
  let (account, positions, openOrders) ← inputs client
  let _ ← snapshotOf client account positions
  let s ← get
  if !s.ledger.initialized then
    let active ← lift (positions.filterM fun p => return !(← positionAmount p).isZero)
    modifyLedger fun l => { l with accountSnapshot := none }
    let owned := !s.ledger.orders.isEmpty || !s.ledger.fills.isEmpty ||
      s.ledger.positions.any fun p => !p.quantity.isZero
    if !owned && (!active.isEmpty || !openOrders.isEmpty) then return []
  let _ ← lift (symbolsOf positions openOrders s.ledger.orders)
  return s.ledger.orders

/-- A reconciliation that swallows a refusal: of the income of the day or of a look-up. -/
def swallows (client : Client) (s : State) : Bool :=
  refusedBehind (inputs client) (fun _ => dailyRealizedPnl client) (started s) ||
    refusedBehind (lookedUp client) (resolveMissingExchangeOrderIds client) (started s)

theorem refusedBehind_ok {x : M α} {y : α → M β} {a : α} {t : State} (hx : x.run s = .ok a t)
    (h : refusedBehind x y s = false) : refused (y a) t = false := by
  rwa [refusedBehind, hx] at h

theorem inputs_ok {account : Json} {positions openOrders : List Json} {t : State}
    (hfetch : (fetchSnapshotInputs client).run s = .ok (account, positions, openOrders) t)
    (hscope : validateMainnetScope client.env positions openOrders = .ok ()) :
    (inputs client).run s = .ok (account, positions, openOrders) t :=
  bind_ok.mpr ⟨_, _, hfetch, bind_ok.mpr ⟨_, _, lift_ok.mpr ⟨hscope, rfl⟩, rfl⟩⟩

theorem ledger_of_snapshot {account : Json} {positions openOrders : List Json} {t u : State}
    {snapshot : ExchangeAccountSnapshot}
    (hfetch : (fetchSnapshotInputs client).run s = .ok (account, positions, openOrders) t)
    (hsnapshot : (snapshotOf client account positions).run t = .ok snapshot u) :
    u.ledger = s.ledger := by
  have hfetching : Fetching client fun t => t.ledger = s.ledger :=
    ⟨fun _ _ _ ht => ht, fun _ _ ht => ht⟩
  have ht : t.ledger = s.ledger := hfetching.quiet.fetchSnapshotInputs.of_ok rfl hfetch
  exact (hfetching.snapshotOf account positions).of_ok ht hsnapshot

theorem loud_reconcileBody (hinit : s.ledger.initialized = true)
    (hincome : refusedBehind (inputs client) (fun _ => dailyRealizedPnl client) s = false)
    (hlookup : refusedBehind (lookedUp client) (resolveMissingExchangeOrderIds client) s = false) :
    Loud (reconcileBody client) s := by
  refine loud_fetchSnapshotInputs.bind ?_
  rintro ⟨account, positions, openOrders⟩ t hfetch
  refine (Loud.lift _).bind fun _ t' hlift => ?_
  obtain ⟨hscope, rfl⟩ := lift_ok.mp hlift
  have hinputs := inputs_ok hfetch hscope
  have hpnl := refusedBehind_ok hinputs hincome
  refine (loud_snapshotOf hpnl).bind fun snapshot u hsnapshot => ?_
  have hu : u.ledger.initialized = true := by rw [ledger_of_snapshot hfetch hsnapshot, hinit]
  refine (loud_compare fun symbols hsymbols => ?_).bind fun diffs v _ => .ite (.modify rfl) ?_
  · refine refusedBehind_ok (t := u) ?_ hlookup
    refine bind_ok.mpr ⟨_, _, hinputs, bind_ok.mpr ⟨_, _, hsnapshot, ?_⟩⟩
    rw [run_get_bind, hu]
    exact bind_ok.mpr ⟨_, _, lift_ok.mpr ⟨hsymbols, rfl⟩, rfl⟩
  · exact (loud_updateLedger _).bind fun _ _ _ => (loud_modifyLedger _).bind
      fun _ _ _ => .modify rfl

theorem loud_bootstrapBody (hinit : s.ledger.initialized = false)
    (hincome : refusedBehind (inputs client) (fun _ => dailyRealizedPnl client) s = false)
    (hlookup : refusedBehind (lookedUp client) (resolveMissingExchangeOrderIds client) s = false) :
    Loud (bootstrapBody client) s := by
  refine loud_fetchSnapshotInputs.bind ?_
  rintro ⟨account, positions, openOrders⟩ t hfetch
  refine (Loud.lift _).bind fun _ t' hlift => ?_
  obtain ⟨hscope, rfl⟩ := lift_ok.mp hlift
  have hinputs := inputs_ok hfetch hscope
  have hpnl := refusedBehind_ok hinputs hincome
  refine (loud_snapshotOf hpnl).bind fun snapshot u hsnapshot => ?_
  have hu : u.ledger.initialized = false := by rw [ledger_of_snapshot hfetch hsnapshot, hinit]
  refine (Loud.lift _).bind fun active u' hlift => ?_
  obtain ⟨hactive, rfl⟩ := lift_ok.mp hlift
  refine Loud.bind (.silent rfl) fun _ v hv => ?_
  cases hv
  refine (loud_modifyLedger _).bind fun _ v hv => ?_
  cases hv
  split_ifs with howned
  · exact .modify rfl
  refine (loud_compare fun symbols hsymbols => ?_).bind fun diffs v _ => .ite (.modify rfl) ?_
  · refine refusedBehind_ok ?_ hlookup
    refine bind_ok.mpr ⟨_, _, hinputs, bind_ok.mpr ⟨_, _, hsnapshot, ?_⟩⟩
    rw [run_get_bind, hu]
    refine bind_ok.mpr ⟨active, _, lift_ok.mpr ⟨hactive, rfl⟩, ?_⟩
    refine bind_ok.mpr ⟨(), _, rfl, ?_⟩
    rw [if_neg howned]
    exact bind_ok.mpr ⟨_, _, lift_ok.mpr ⟨hsymbols, rfl⟩, rfl⟩
  · exact (loud_updateLedger _).bind fun _ _ _ =>
      (Loud.forEach (fun _ _ => loud_updateLedger _) _).bind fun _ _ _ =>
        (loud_modifyLedger _).bind fun _ _ _ => .modify rfl

/-! ### Reports -/

/-- The handlers of `reconcile` and `bootstrap` return, and note a refusal. -/
theorem run_failed (a b : DiffCode) (body : M Unit) (s : State) :
    ∃ t, (tryCatch body (failed a b)).run s = .ok () t ∧ t.log = (after (body.run s)).log ∧
      ∀ e u, body.run s = .error e u → e.isAuthentication = true →
      t.authenticationFailed = true := by
  rw [run_tryCatch]
  cases hbody : body.run s with
  | ok v u => exact ⟨u, rfl, rfl, by simp⟩
  | error e u =>
    simp only [failed]
    split_ifs with hauth
    · exact ⟨_, rfl, rfl, fun _ _ _ _ => rfl⟩
    · refine ⟨_, rfl, rfl, fun e' u' he hauth' => ?_⟩
      cases he
      exact absurd hauth' hauth

/-- A reconciliation whose body passes refusals on reports them. -/
theorem reports_of_body (a b : DiffCode) {body : M Unit}
    (hrun : ∀ t, (tryCatch body (failed a b)).run (started s) = .ok () t →
      (reconcile client).run s = .ok t.lastStatus t)
    (hloud : swallows client s = false → Loud body (started s)) :
    ∃ status t, (reconcile client).run s = .ok status t ∧
      (swallows client s = false → refused (reconcile client) s = true →
        t.authenticationFailed = true) := by
  obtain ⟨t, hbody, hlog, hnoted⟩ := run_failed a b body (started s)
  refine ⟨_, t, hrun t hbody, fun hswallows hrefused => ?_⟩
  rw [refused, hrun t hbody] at hrefused
  have hlog' : refused body (started s) = true := by
    rw [refused, ← hlog]
    exact hrefused
  obtain ⟨e, u, he, hauth⟩ := (hloud hswallows).refused hlog'
  exact hnoted e u he hauth

/-- **Reports**: `reconcile` returns, and a refusal that is not swallowed is noted. -/
theorem reconcile_reports (client : Client) (s : State) :
    ∃ status t, (reconcile client).run s = .ok status t ∧
      (swallows client s = false → refused (reconcile client) s = true →
        t.authenticationFailed = true) := by
  cases hinit : s.ledger.initialized with
  | true =>
    refine reports_of_body .reconciliationAuthenticationFailed .reconciliationFailed
      (fun t ht => ?_)
      fun h => loud_reconcileBody hinit (Bool.or_eq_false_iff.mp h).1 (Bool.or_eq_false_iff.mp h).2
    refine bind_ok.mpr ⟨(), _, rfl, bind_ok.mpr ⟨_, _, rfl, ?_⟩⟩
    dsimp only
    rw [if_pos hinit]
    exact bind_ok.mpr ⟨(), t, bind_ok.mpr ⟨_, _, rfl, bind_ok.mpr ⟨_, _, rfl, ht⟩⟩, rfl⟩
  | false =>
    refine reports_of_body .bootstrapAuthenticationFailed .bootstrapVerificationFailed
      (fun t ht => ?_)
      fun h => loud_bootstrapBody hinit (Bool.or_eq_false_iff.mp h).1 (Bool.or_eq_false_iff.mp h).2
    refine bind_ok.mpr ⟨(), _, rfl, bind_ok.mpr ⟨_, _, rfl, ?_⟩⟩
    dsimp only
    rw [if_neg (by rw [hinit]; decide)]
    exact bind_ok.mpr ⟨(), t, bind_ok.mpr ⟨_, _, rfl, bind_ok.mpr ⟨_, _, rfl, ht⟩⟩, rfl⟩

end Blessing.Binance.Authentication
