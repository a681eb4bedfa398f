import Blessing.Binance.Recovery
import Blessing.Lib.DateTime

/-! # Events of the private stream

`_on_ws_event` of the adapter. An event changes orders, fills and positions of the ledger and takes
the evidence of the last reconciliation away: the status is not `IN_SYNC` any more and there is no
account snapshot. The ledger tells its callback about a stored position before the evidence is gone,
and what the callback raises can end the handler there. The callback for a fill comes last and is
left out. -/

namespace Blessing.Binance.StreamEvents

open Blessing.Lib Blessing.Lib.Values Blessing.Lib.Effects
open Blessing.Binance.Models Blessing.Binance.Ledger Blessing.Binance.Recovery
open Blessing.Binance.AccountGate (ExchangeAccountSnapshot)

/-- The callback `on_position_update`: what it raises. -/
abbrev Callback := ExchangePosition → Option Exn

/-! ### The callback of the worker -/

/-- The seconds since 1970 from which on `fromtimestamp` overflows, in milliseconds. -/
def lastMillis : ℚ := 67768036191676796929

/-- The seconds since 1970 up to which `fromtimestamp` overflows. -/
def firstSeconds : ℚ := -67768040609740805

/-- The year of a second, in 32 bits. -/
def yearOf (seconds : ℤ) : ℤ :=
  let day := seconds / 86400 + 719162
  let year : ℤ := 400 * (day / 146097) + (DateTime.ord2ymd (day % 146097).toNat).1
  if 2147483647 < year then year - 2 ^ 32 else if year < -2147483648 then year + 2 ^ 32 else year

/-- `datetime.fromtimestamp` of a number, which counts milliseconds if it is large. -/
def fromTimestamp (x : ℚ) : Except Exn Unit :=
  if lastMillis ≤ x ∨ x ≤ firstSeconds then
    .error (.overflow "[Errno 75] Value too large for defined data type")
  else
    let seconds := if 100000000000 < x then x / 1000 else x
    if seconds < -62135596800 ∨ 253402300800 ≤ seconds then
      .error (.value ("year " ++ toString (yearOf seconds.floor) ++ " is out of range"))
    else .ok ()

/-- `_utc` of a float: `int` refuses what is not a number. -/
def utcOfFloat (text : String) : Except Exn Unit :=
  match Decimal.ofText text with
  | some (.finite d) => fromTimestamp d.toRat
  | some (.inf _) => .error (.overflow "cannot convert float infinity to integer")
  | _ => .error (.value "cannot convert float NaN to integer")

/-- `_utc` of a text: a mark `Z` stands for no offset. -/
def utcOfText (text : List Char) : Except Exn Unit :=
  let text := if text.getLast? = some 'Z' then text.dropLast ++ "+00:00".toList else text
  match DateTime.fromIsoformat text with
  | none => .error (.value ("Invalid isoformat string: " ++ (Json.str (String.ofList text)).repr))
  | some (_, none) => .error (.value "persistence timestamps must be timezone-aware")
  | some (micros, some offset) =>
    if (DateTime.utcOf (micros, some offset)).isSome then .ok ()
    else .error (.overflow "date value out of range")

/-- `_utc` of the persistence manager, without its result. -/
def utc : Json → Except Exn Unit
  | .null => .ok ()
  | .bool b => fromTimestamp (if b then 1 else 0)
  | .int n => fromTimestamp n
  | .float text => utcOfFloat text
  | .str text => utcOfText (Text.stripChars text.toList)
  | .arr _ => .error (.value "unsupported timestamp type: list")
  | .obj _ => .error (.value "unsupported timestamp type: dict")

/-- `enqueue_position`: nothing happens to a position without instrument rules. -/
def enqueuePosition (rules : String → Bool) : Callback := fun p =>
  if rules (Text.upper p.symbol) then
    match utc p.eventTime with
    | .ok _ => none
    | .error e => some e
  else none

/-! ### The evidence -/

/-- `set_account_snapshot(None)` and the status `UNKNOWN` -/
def invalidate : M Unit :=
  modify fun s => { s with
    ledger := { s.ledger with accountSnapshot := none }
    lastStatus := .unknown }

/-- `last_diffs = diffs` -/
def report (diffs : List Diff) : M Unit := modify fun s => { s with lastDiffs := diffs }

/-- `mark_account_update_unknown` -/
def markUnknown (diffs : List Diff) (diff : Diff) : M (List Diff) := do
  modify fun s => { s with lastDiffs := diffs ++ [diff], lastStatus := .unknown }
  return diffs ++ [diff]

/-! ### Orders -/

/-- The order of an order event. -/
def infoOf (event : Json) : Json := getOr event "o" (.obj [])

/-- The client order id of an order event. -/
def clientIdOf (event : Json) : String := (getOr (infoOf event) "c" (.str "")).toStr

/-- The symbol of an order event. -/
def symbolOf (event : Json) : String := upperOf (getOr (infoOf event) "s" (.str ""))

/-- The fields of a trade update that must be there. -/
def fillFields : List String := ["t", "i", "l", "L", "n", "N", "rp", "m", "T"]

/-- The fill of a trade update for a known order. -/
def fillOfEvent (env : BinanceEnvironment) (event : Json) (order : ExecutionOrder) :
    Except Exn ExchangeFill := do
  let info := infoOf event
  let absent := missing fillFields info
  if !absent.isEmpty then
    throw (.value ("Trade update is missing required fields: " ++ Text.join ", " absent))
  let side ← memberField (OrderSide.ofValue (info.get "S").toStr)
    ("'" ++ (info.get "S").toStr ++ "' is not a valid OrderSide")
  let sideText := (getOr info "ps" (.str "BOTH")).toStr
  let positionSide ← memberField (PositionSide.ofValue sideText)
    ("'" ++ sideText ++ "' is not a valid PositionSide")
  match decimalOf (info.get "l"), decimalOf (info.get "L"), decimalOf (info.get "n"),
      decimalOf (info.get "rp") with
  | some (.finite quantity), some (.finite price), some (.finite commission),
      some (.finite realizedPnl) =>
    if !quantity.isPos || !price.isPos || commission.isNeg then
      throw (.value "Trade update contains unusable economics")
    let eventTime := if (event.get "E").truthy then event.get "E" else info.get "T"
    if eventTime.isBlank then
      throw (.value "Trade update has no event or transaction timestamp")
    return {
      exchangeTradeId := (info.get "t").toStr, exchangeOrderId := (info.get "i").toStr,
      clientOrderId := order.clientOrderId.1, symbol := symbolOf event, side,
      positionSide, quantity, price, commission, commissionAsset := (info.get "N").toStr,
      realizedPnl, maker := exchangeBool (getOr info "m" (.bool false)), eventTime,
      transactionTime := info.get "T", source := env.label, strategyId := order.strategyId,
      decisionId := order.decisionId, targetExposureId := order.targetExposureId,
      sourceIntentIds := order.sourceIntentIds }
  | some _, some _, some _, some _ =>
    throw (.value "Trade update contains non-finite economics")
  | _, _, _, _ => throw (.value "[<class 'decimal.ConversionSyntax'>]")

/-- The order after a lifecycle event. -/
def updatedOrder (info : Json) (order : ExecutionOrder) : ExecutionOrder :=
  { order with
    status := (getOr info "X" (.str "UNKNOWN")).toStr
    exchangeOrderId := if info.get "i" = .null then order.exchangeOrderId
      else some (info.get "i").toStr }

/-- The fill of a trade; an invalid one is ignored. -/
def recordTrade (env : BinanceEnvironment) (event : Json) (order : ExecutionOrder) : M Unit :=
  if (infoOf event).get "x" = .str "TRADE" then
    match fillOfEvent env event order with
    | .ok fill => modifyLedger (appendFill fill)
    | .error _ => pure ()
  else pure ()

/-- The report of an event whose order is not known. -/
def unknownOrderDiff (event : Json) : Diff where
  code := .exchangeOrderEventUnknownLocally
  symbol := some (symbolOf event)
  localValue := some (.str (clientIdOf event))
  exchangeValue := some (.str (textOr ((infoOf event).get "i") "UNKNOWN"))

/-- `_on_ws_event` of an `ORDER_TRADE_UPDATE` -/
def onOrderTradeUpdate (env : BinanceEnvironment) (event : Json) : M Unit := do
  if !(infoOf event).isObj then throw (.value "object has no attribute 'get'")
  else if symbolOf event = "" ∨ clientIdOf event = "" then return ()
  else
    let s ← get
    match getOrderByClientId s.ledger (clientIdOf event) with
    | none =>
      invalidate
      report [unknownOrderDiff event]
    | some order =>
      let order := updatedOrder (infoOf event) order
      modifyLedger (upsertOrder order)
      invalidate
      recordTrade env event order

/-! ### Positions and balances -/

/-- The ledger announces a position that is or was active. -/
def announces (positions : List ExchangePosition) (p : ExchangePosition) : Bool :=
  !p.quantity.isZero || (positions.find? fun q =>
    q.symbol == p.symbol && q.positionSide == p.positionSide).any fun q => !q.quantity.isZero

/-- `upsert_position` with its callback -/
def storePosition (callback : Callback) (raw : Json) : M Unit := do
  let s ← get
  updateLedger (upsertPosition raw)
  let p ← lift (toExchangePosition raw)
  if announces s.ledger.positions p then
    match callback p with
    | some e => throw e
    | none => pure ()

/-- The symbol of a position row. -/
def rowSymbol (row : Json) : String := upperOf (getOr row "s" (.str ""))

/-- The position side of a row. -/
def rowSide (row : Json) : String := Text.upper (textOr (row.get "ps") "")

/-- A value of the row, or else the one known before. -/
def carried (v : Json) (previous : Option String) : Json :=
  if v.isBlank then (previous.map Json.str).getD v else v

/-- The position of a row: what the row does not say is taken from the known position. -/
def mergedPosition (env : BinanceEnvironment) (event row : Json)
    (positions : List ExchangePosition) : Json :=
  let known := positions.find? fun q =>
    Text.upper q.symbol == rowSymbol row && q.positionSide.value == rowSide row
  .obj [("symbol", .str (rowSymbol row)), ("positionSide", .str (rowSide row)),
    ("positionAmt", row.get "pa"),
    ("entryPrice", carried (row.get "ep") (known.map (·.entryPrice.toStr))),
    ("unRealizedProfit", carried (row.get "up") (known.map (·.unrealizedPnl.toStr))),
    ("marginType", carried (row.get "mt") (known.map (·.marginType))),
    ("eventTime", event.get "E"), ("source", .str env.label),
    ("markPrice", carried .null (known.bind fun q => q.markPrice.map Decimal.toStr)),
    ("liquidationPrice", carried .null (known.bind fun q => q.liquidationPrice.map Decimal.toStr)),
    ("leverage", carried .null (known.map (·.leverage.toStr)))]

/-- A row has a symbol, a side and an amount. -/
def rowComplete (row : Json) : Bool :=
  rowSymbol row != "" && rowSide row != "" && !(row.get "pa").isBlank

/-- One row of the positions of an `ACCOUNT_UPDATE`. -/
def updatePosition (callback : Callback) (env : BinanceEnvironment) (event : Json)
    (diffs : List Diff) (row : Json) : M (List Diff) := do
  if !row.isObj then
    markUnknown diffs {
      code := .accountPositionUpdateInvalid, exchangeValue := some (.str "position_not_object") }
  else if !rowComplete row then
    markUnknown diffs {
      code := .accountPositionUpdateIncomplete
      symbol := if rowSymbol row = "" then none else some (rowSymbol row)
      exchangeValue := some (.str "symbol_positionSide_positionAmt_required") }
  else
    let s ← get
    tryCatch
      (do
        storePosition callback (mergedPosition env event row s.ledger.positions)
        return diffs)
      fun
      | .value message => markUnknown diffs {
          code := .accountPositionUpdateIncomplete, symbol := some (rowSymbol row)
          exchangeValue := some (.str message) }
      | e => throw e

/-- The finding about a balance row: balances are not taken over. -/
def balanceDiff (row : Json) : Option Diff :=
  let absent := missing ["a", "wb", "cw"] row
  let symbol := Text.upper (textOr (row.get "a") "")
  let invalid (what : String) : Diff := {
    code := .accountBalanceUpdateInvalid, symbol := if symbol = "" then none else some symbol
    exchangeValue := some (.str what) }
  if !row.isObj then
    some { code := .accountBalanceUpdateInvalid
           exchangeValue := some (.str "balance_not_object") }
  else if !absent.isEmpty then
    some { code := .accountBalanceUpdateIncomplete
           exchangeValue := some (.str ("missing=" ++ Text.join "," absent)) }
  else
    match decimalOf (row.get "wb"), decimalOf (row.get "cw") with
    | some (.finite _), some (.finite _) => none
    | some _, some _ => some (invalid "wallet_or_cross_wallet_not_finite")
    | _, _ => some (invalid "wallet_or_cross_wallet_not_decimal")

/-- One row of the balances of an `ACCOUNT_UPDATE`. -/
def updateBalance (diffs : List Diff) (row : Json) : M (List Diff) :=
  match balanceDiff row with
  | some diff => markUnknown diffs diff
  | none => pure diffs

/-- The rows of a list; another value is reported. -/
def forRows (rows : Json) (invalid : Diff) (body : List Diff → Json → M (List Diff))
    (diffs : List Diff) : M (List Diff) :=
  match rows with
  | .arr rows => rows.foldlM body diffs
  | _ => markUnknown diffs invalid

/-- The content of an account event. -/
def dataOf (event : Json) : Json := getOr event "a" (.obj [])

/-- The rows of an account event: its positions `P` or its balances `B`. -/
def rowsOf (event : Json) (k : String) : Json := getOr (dataOf event) k (.arr [])

/-- `_on_ws_event` of an `ACCOUNT_UPDATE` -/
def onAccountUpdate (callback : Callback) (env : BinanceEnvironment) (event : Json) : M Unit := do
  if !(dataOf event).isObj then
    invalidate
    report [{
      code := .accountUpdateInvalid
      exchangeValue := some (.str "account_update_data_not_object") }]
  else
    let diffs ← forRows (rowsOf event "P")
      { code := .accountPositionUpdateInvalid
        exchangeValue := some (.str "positions_not_list") } (updatePosition callback env event) []
    let diffs ← forRows (rowsOf event "B")
      { code := .accountBalanceUpdateInvalid
        exchangeValue := some (.str "balances_not_list") } updateBalance diffs
    invalidate
    report diffs

/-- `_on_ws_event` -/
def onWsEvent (callback : Callback) (env : BinanceEnvironment) (event : Json) : M Unit :=
  if event.get "e" = .str "ORDER_TRADE_UPDATE" then onOrderTradeUpdate env event
  else if event.get "e" = .str "ACCOUNT_UPDATE" then onAccountUpdate callback env event
  else pure ()

/-- A message with the callback that the ledger has when it comes. -/
structure Delivery where
  event : Json
  callback : Callback

/-- The handling of a message; the stream only logs what the handler raises. -/
def handle (env : BinanceEnvironment) (s : State) (d : Delivery) : State :=
  after ((onWsEvent d.callback env d.event).run s)

/-- The handling of a sequence of messages. -/
def handleAll (env : BinanceEnvironment) (s : State) (ds : List Delivery) : State :=
  ds.foldl (handle env) s

/-! ### Revocation -/

/-- The two states have the same orders, fills and positions. -/
def SameRecords (s t : State) : Prop :=
  s.ledger.orders = t.ledger.orders ∧ s.ledger.fills = t.ledger.fills ∧
    s.ledger.positions = t.ledger.positions

/-- The evidence of a reconciliation is gone. -/
def Revoked (s : State) : Prop := s.lastStatus ≠ .inSync ∧ s.ledger.accountSnapshot = none

/-- The rows of an event that are stored are announced without an exception the handler does not
expect. -/
def Announced (callback : Callback) (env : BinanceEnvironment) (event : Json) :
    List ExchangePosition → List Json → Prop
  | _, [] => True
  | positions, row :: rows =>
    match toExchangePosition (mergedPosition env event row positions) with
    | .ok p =>
      if row.isObj && rowComplete row then
        (announces positions p → ∀ e, callback p = some e → ∃ message, e = .value message) ∧
          Announced callback env event (placePosition p positions) rows
      else Announced callback env event positions rows
    | .error _ => Announced callback env event positions rows

/-- The condition on a message: the callback does not end the handling of its positions. -/
def Fits (env : BinanceEnvironment) (s : State) (d : Delivery) : Prop :=
  d.event.get "e" = .str "ACCOUNT_UPDATE" → ∀ rows, rowsOf d.event "P" = .arr rows →
    Announced d.callback env d.event s.ledger.positions rows

/-- Every message of a sequence fits the state it comes in. -/
def Fitting (env : BinanceEnvironment) : State → List Delivery → Prop
  | _, [] => True
  | s, d :: ds => Fits env s d ∧ Fitting env (handle env s d) ds

/-! ### What is raised for a position -/

/-- `ValueError` and its like -/
def IsValue (e : Exn) : Prop := ∃ message, e = .value message

theorem raises_value {A : Type} (message : String) :
    Raises IsValue (.error (.value message) : Except Exn A) := .error ⟨message, rfl⟩

theorem raises_parseDecimal (pos : Json) (name : String) (bounds : Bounds) :
    Raises IsValue (parseDecimal pos name bounds) := by
  unfold parseDecimal
  refine .ite ?_ ?_
  · split
    · exact .ok _
    · exact raises_value _
  · split
    · exact raises_value _
    · exact .ite (raises_value _) (.ite (raises_value _) (.ok _))
    · exact raises_value _

theorem raises_positionQuantity (pos : Json) : Raises IsValue (positionQuantity pos) := by
  unfold positionQuantity
  refine .ite (raises_value _) ?_
  split
  · exact raises_value _
  · exact .ok _
  · exact raises_value _

theorem raises_marginTypeOf (raw : Json) : Raises IsValue (marginTypeOf raw) := by
  unfold marginTypeOf
  refine .ite (.ok _) ?_
  split
  · exact .ite (raises_value _) (.ok _)
  · exact raises_value _

theorem raises_textField (v : Json) (name : String) : Raises IsValue (textField v name) := by
  unfold textField
  split
  · exact .ok _
  · exact raises_value _

theorem raises_memberField {E : Type} (member : Option E) (message : String) :
    Raises IsValue (memberField member message) := by
  unfold memberField
  split
  · exact .ok _
  · exact raises_value _

theorem raises_toExchangePosition (pos : Json) : Raises IsValue (toExchangePosition pos) := by
  unfold toExchangePosition
  refine .ite (raises_value _) ?_
  refine .bind (raises_positionQuantity _) fun quantity => ?_
  refine .ite (raises_value _) ?_
  refine .bind (raises_memberField _ _) fun side => ?_
  refine .bind (raises_parseDecimal _ _ _) fun entryPrice => ?_
  extract_lets withMark
  have hmark : ∀ markPrice, Raises IsValue (withMark markPrice) := by
    intro markPrice
    refine .bind (raises_parseDecimal _ _ _) fun unrealizedPnl => ?_
    refine .bind (raises_marginTypeOf _) fun marginType => ?_
    refine .bind (raises_parseDecimal _ _ _) fun leverage => ?_
    extract_lets withLiquidation
    have hliquidation : ∀ liquidationPrice, Raises IsValue (withLiquidation liquidationPrice) :=
      fun _ => .bind (raises_textField _ _) fun _ => .ok _
    exact .ite (.bind (.ok _) hliquidation)
      (.bind (.map (raises_parseDecimal _ _ _) _) hliquidation)
  exact .ite (.bind (.ok _) hmark) (.bind (.map (raises_parseDecimal _ _ _) _) hmark)

/-! ### One message -/

theorem revoked_appendFill {s : State} (h : Revoked s) (fill : ExchangeFill) :
    Revoked { s with ledger := appendFill fill s.ledger } := by
  refine ⟨h.1, ?_⟩
  have hsnap := h.2
  unfold appendFill
  split_ifs <;> exact hsnap

theorem keeps_recordTrade (env : BinanceEnvironment) (event : Json) (order : ExecutionOrder) :
    Keeps Revoked (recordTrade env event order) := by
  unfold recordTrade
  refine .ite (fun _ => ?_) fun _ => .pure ()
  split
  · exact .modify fun s h => revoked_appendFill h _
  · exact .pure ()

theorem sameRecords_unknown (env : BinanceEnvironment) (event : Json) (s : State)
    (h : getOrderByClientId s.ledger (clientIdOf event) = none) :
    SameRecords s (after ((onOrderTradeUpdate env event).run s)) := by
  unfold onOrderTradeUpdate
  split_ifs with hobj hblank
  · exact ⟨rfl, rfl, rfl⟩
  · exact ⟨rfl, rfl, rfl⟩
  · rw [run_get_bind, h]
    exact ⟨rfl, rfl, rfl⟩

/-- An order event leaves the state alone or revokes the evidence. -/
theorem onOrderTradeUpdate_revokes (env : BinanceEnvironment) (event : Json) (s : State) :
    after ((onOrderTradeUpdate env event).run s) = s ∨
      Revoked (after ((onOrderTradeUpdate env event).run s)) := by
  unfold onOrderTradeUpdate
  split_ifs with hobj hblank
  · exact .inl rfl
  · exact .inl rfl
  · rw [run_get_bind]
    cases h : getOrderByClientId s.ledger (clientIdOf event) with
    | none => exact .inr ⟨nofun, rfl⟩
    | some order => exact .inr (keeps_recordTrade env event _ _ ⟨nofun, rfl⟩)

/-- The state with a position stored. -/
def stored (p : ExchangePosition) (s : State) : State :=
  { s with ledger := { s.ledger with
      positions := placePosition p s.ledger.positions, version := s.ledger.version + 1 } }

theorem run_storePosition_error {raw : Json} {e : Exn} (h : toExchangePosition raw = .error e)
    (callback : Callback) (s : State) : (storePosition callback raw).run s = .error e s := by
  unfold storePosition updateLedger upsertPosition
  rw [run_get_bind, h]
  rfl

theorem run_storePosition_ok {raw : Json} {p : ExchangePosition}
    (h : toExchangePosition raw = .ok p) (callback : Callback) (s : State) :
    (storePosition callback raw).run s =
      (if announces s.ledger.positions p then
        match callback p with
        | some e => throw e
        | none => pure ()
      else pure () : M Unit).run (stored p s) := by
  unfold storePosition updateLedger upsertPosition
  rw [run_get_bind, h]
  rfl

theorem Announced.skip {callback : Callback} {env : BinanceEnvironment} {event row : Json}
    {rows : List Json} {positions : List ExchangePosition}
    (h : Announced callback env event positions (row :: rows))
    (hrow : (row.isObj && rowComplete row) = false) :
    Announced callback env event positions rows := by
  unfold Announced at h
  split at h
  · rwa [if_neg (by simp [hrow])] at h
  · exact h

/-- The row of a position of an event that fits is handled, and so can the others be. -/
theorem updatePosition_completes {callback : Callback} {env : BinanceEnvironment} {event row : Json}
    {rows : List Json} {s : State}
    (h : Announced callback env event s.ledger.positions (row :: rows)) (diffs : List Diff) :
    ∃ diffs' t, (updatePosition callback env event diffs row).run s = .ok diffs' t ∧
      Announced callback env event t.ledger.positions rows := by
  unfold updatePosition
  by_cases hobj : row.isObj = true
  swap
  · rw [if_pos (by simpa using hobj)]
    exact ⟨_, _, rfl, h.skip (by simp [hobj])⟩
  rw [if_neg (by simpa using hobj)]
  by_cases hcomplete : rowComplete row = true
  swap
  · rw [if_pos (by simpa using hcomplete)]
    exact ⟨_, _, rfl, h.skip (by simp [hcomplete])⟩
  rw [if_neg (by simpa using hcomplete)]
  rw [run_get_bind, run_tryCatch, run_bind]
  unfold Announced at h
  cases hp : toExchangePosition (mergedPosition env event row s.ledger.positions) with
  | error e =>
    obtain ⟨message, rfl⟩ := raises_toExchangePosition _ _ hp
    rw [hp] at h
    rw [run_storePosition_error hp]
    exact ⟨_, _, rfl, h⟩
  | ok p =>
    rw [hp] at h
    simp only [hobj, hcomplete, Bool.and_self, if_true] at h
    obtain ⟨hvalue, hrest⟩ := h
    rw [run_storePosition_ok hp]
    split_ifs with ha
    · cases hc : callback p with
      | none => exact ⟨_, _, rfl, hrest⟩
      | some e =>
        obtain ⟨message, rfl⟩ := hvalue ha e hc
        exact ⟨_, _, rfl, hrest⟩
    · exact ⟨_, _, rfl, hrest⟩

/-- The positions of an event that fits are handled to the last one. -/
theorem updatePositions_completes {callback : Callback} {env : BinanceEnvironment} {event : Json}
    {rows : List Json} {s : State} (h : Announced callback env event s.ledger.positions rows)
    (diffs : List Diff) : Completes (rows.foldlM (updatePosition callback env event) diffs) s := by
  induction rows generalizing diffs s with
  | nil => exact ⟨diffs, s, rfl⟩
  | cons row rows ih =>
    obtain ⟨diffs', t, hrow, hrest⟩ := updatePosition_completes h diffs
    obtain ⟨diffs'', u, hrows⟩ := ih hrest diffs'
    exact ⟨diffs'', u, by rw [List.foldlM_cons]; exact bind_ok.mpr ⟨diffs', t, hrow, hrows⟩⟩

theorem updateBalance_completes (diffs : List Diff) (row : Json) (s : State) :
    Completes (updateBalance diffs row) s := by
  unfold updateBalance
  split
  · exact ⟨_, _, rfl⟩
  · exact ⟨_, _, rfl⟩

theorem forRows_completes {body : List Diff → Json → M (List Diff)} {payload : Json} {s : State}
    {diffs : List Diff} (h : ∀ rows, payload = .arr rows → Completes (rows.foldlM body diffs) s)
    (invalid : Diff) : Completes (forRows payload invalid body diffs) s := by
  unfold forRows
  split
  · exact h _ rfl
  · exact ⟨_, _, rfl⟩

theorem onAccountUpdate_revokes {callback : Callback} {env : BinanceEnvironment} {event : Json}
    {s : State} (h : ∀ rows, rowsOf event "P" = .arr rows →
      Announced callback env event s.ledger.positions rows) :
    Revoked (after ((onAccountUpdate callback env event).run s)) := by
  unfold onAccountUpdate
  split_ifs with hobj
  · exact ⟨nofun, rfl⟩
  obtain ⟨diffs, t, hpositions⟩ := forRows_completes
    (fun rows hrows => updatePositions_completes (h rows hrows) [])
    { code := .accountPositionUpdateInvalid, exchangeValue := some (.str "positions_not_list") }
  have hbalances (invalid : Diff) :
      Completes (forRows (rowsOf event "B") invalid updateBalance diffs) t :=
    forRows_completes (fun rows _ => .foldlM updateBalance_completes rows diffs t) invalid
  obtain ⟨diffs', u, hbalances⟩ := hbalances
    { code := .accountBalanceUpdateInvalid, exchangeValue := some (.str "balances_not_list") }
  rw [run_bind, hpositions]
  simp only [run_bind, hbalances]
  exact ⟨nofun, rfl⟩

/-- A message that fits leaves the state alone or revokes the evidence. -/
theorem handle_revokes {env : BinanceEnvironment} {s : State} {d : Delivery} (h : Fits env s d) :
    handle env s d = s ∨ Revoked (handle env s d) := by
  unfold handle onWsEvent
  split_ifs with horder haccount
  · exact onOrderTradeUpdate_revokes env d.event s
  · exact .inr (onAccountUpdate_revokes (h haccount))
  · exact .inl rfl

/-! ### Sequences of messages -/

/-- A sequence of messages that fit leaves the state alone or revokes the evidence. -/
theorem handleAll_revokes {env : BinanceEnvironment} {s : State} {ds : List Delivery}
    (h : Fitting env s ds) : handleAll env s ds = s ∨ Revoked (handleAll env s ds) := by
  induction ds generalizing s with
  | nil => exact .inl rfl
  | cons d ds ih =>
    obtain ⟨hd, hds⟩ := h
    change handleAll env (handle env s d) ds = s ∨ Revoked (handleAll env (handle env s d) ds)
    rcases ih hds with hsame | hrevoked
    · rw [hsame]
      exact handle_revokes hd
    · exact .inr hrevoked

/-- **Events revoke readiness**: where the callback does not end the handling of a position, a
sequence of messages that changed a record leaves no evidence of a reconciliation; and an event of
an unknown order changes no record. -/
theorem events_revoke_readiness (env : BinanceEnvironment) (s : State) (ds : List Delivery)
    (h : Fitting env s ds) :
    (¬ SameRecords s (handleAll env s ds) →
      (handleAll env s ds).lastStatus ≠ .inSync ∧
        (handleAll env s ds).ledger.accountSnapshot = none) ∧
    ∀ t d, d.event.get "e" = .str "ORDER_TRADE_UPDATE" →
      getOrderByClientId t.ledger (clientIdOf d.event) = none → SameRecords t (handle env t d) := by
  constructor
  · intro hchanged
    rcases handleAll_revokes h with hsame | hrevoked
    · rw [hsame] at hchanged
      exact absurd ⟨rfl, rfl, rfl⟩ hchanged
    · exact hrevoked
  · intro t d horder hunknown
    unfold handle onWsEvent
    rw [if_pos horder]
    exact sameRecords_unknown env d.event t hunknown

/-! ### A message whose time does not fit -/

theorem gives_toExchangePosition (pos : Json) :
    Gives (fun p => p.eventTime = pos.get "eventTime") (toExchangePosition pos) := by
  unfold toExchangePosition
  refine .ite (.error _) ?_
  refine .bind fun quantity => ?_
  refine .ite (.error _) ?_
  refine .bind fun side => ?_
  refine .bind fun entryPrice => ?_
  extract_lets withMark
  have hmark : ∀ markPrice,
      Gives (fun p => p.eventTime = pos.get "eventTime") (withMark markPrice) := by
    intro markPrice
    refine .bind fun unrealizedPnl => ?_
    refine .bind fun marginType => ?_
    refine .bind fun leverage => ?_
    extract_lets withLiquidation
    have hliquidation : ∀ liquidationPrice,
        Gives (fun p => p.eventTime = pos.get "eventTime") (withLiquidation liquidationPrice) :=
      fun _ => .bind fun _ => .ok rfl
    exact .ite (.bind hliquidation) (.bind hliquidation)
  exact .ite (.bind hmark) (.bind hmark)

/-- What the callback raises for a time: a `ValueError` or an overflow. -/
def IsTimeError (e : Exn) : Prop := IsValue e ∨ ∃ message, e = .overflow message

theorem raises_fromTimestamp (x : ℚ) : Raises IsTimeError (fromTimestamp x) := by
  unfold fromTimestamp
  exact .ite (.error (.inr ⟨_, rfl⟩)) (.ite (.error (.inl ⟨_, rfl⟩)) (.ok _))

theorem raises_utc (v : Json) : Raises IsTimeError (utc v) := by
  cases v with
  | null => exact .ok _
  | bool b => exact raises_fromTimestamp _
  | int n => exact raises_fromTimestamp _
  | float text =>
    change Raises IsTimeError (utcOfFloat text)
    unfold utcOfFloat
    split
    · exact raises_fromTimestamp _
    · exact .error (.inr ⟨_, rfl⟩)
    · exact .error (.inl ⟨_, rfl⟩)
  | str text =>
    change Raises IsTimeError (utcOfText _)
    unfold utcOfText
    extract_lets
    split
    · exact .error (.inl ⟨_, rfl⟩)
    · exact .error (.inl ⟨_, rfl⟩)
    · exact .ite (.ok _) (.error (.inr ⟨_, rfl⟩))
  | arr xs => exact .error (.inl ⟨_, rfl⟩)
  | obj kvs => exact .error (.inl ⟨_, rfl⟩)

/-- The worker's callback ends no event whose time does not overflow. -/
theorem announced_enqueuePosition {rules : String → Bool} {env : BinanceEnvironment} {event : Json}
    (h : ∀ message, utc (event.get "E") ≠ .error (.overflow message))
    (positions : List ExchangePosition) (rows : List Json) :
    Announced (enqueuePosition rules) env event positions rows := by
  induction rows generalizing positions with
  | nil => trivial
  | cons row rows ih =>
    unfold Announced
    cases hp : toExchangePosition (mergedPosition env event row positions) with
    | error e => exact ih positions
    | ok p =>
      simp only
      split_ifs
      · refine ⟨fun _ e he => ?_, ih _⟩
        have htime : p.eventTime = event.get "E" := gives_toExchangePosition _ p hp
        unfold enqueuePosition at he
        rw [htime] at he
        split_ifs at he
        cases hutc : utc (event.get "E") with
        | ok _ =>
          rw [hutc] at he
          cases he
        | error e' =>
          rw [hutc] at he
          cases he
          rcases raises_utc _ e hutc with hvalue | ⟨message, rfl⟩
          · exact hvalue
          · exact absurd hutc (h message)
      · exact ih positions

/-- A long position of one ether. -/
def longPosition : ExchangePosition where
  symbol := "ETHUSDC"
  positionSide := .both
  quantity := .ofNat 1
  entryPrice := .ofNat 2000
  markPrice := some (.ofNat 2000)
  unrealizedPnl := .ofNat 0
  liquidationPrice := none
  leverage := .ofNat 3
  marginType := "cross"
  eventTime := .null
  source := "BINANCE_TESTNET"

/-- The account of that position. -/
def testnetSnapshot : ExchangeAccountSnapshot where
  walletBalance := 5000
  marginBalance := 5000
  availableBalance := 4000
  unrealizedPnl := 0
  totalInitialMargin := 667
  totalMaintMargin := 20
  positionInitialMargin := 667
  totalPositionNotional := 2000
  effectiveLeverage := 2 / 5
  marginUtilizationPct := 667 / 50
  exchangeEnvironment := "BINANCE_TESTNET"
  collateralAsset := "USDT"
  riskCurrency := "USDT"
  marginMode := "CROSS"
  marginModeKnown := true
  valid := true
  timestamp := ⟨0, some 0⟩

/-- A reconciled ledger with that position. -/
def reconciled : State where
  ledger := { empty with
    positions := [longPosition], initialized := true, accountSnapshot := some testnetSnapshot }
  lastStatus := .inSync

/-- There are rules for one instrument. -/
def etherRules (symbol : String) : Bool := symbol == "ETHUSDC"

/-- An account event that doubles the position. -/
def doubled (time : ℤ) : Delivery where
  event := .obj [("e", .str "ACCOUNT_UPDATE"), ("E", .int time),
    ("a", .obj [("P", .arr [.obj [("s", .str "ETHUSDC"), ("ps", .str "BOTH"), ("pa", .str "2")]])])]
  callback := enqueuePosition etherRules

/-- At a time no clock has, the position changes and the evidence stays. -/
theorem overflow_keeps_readiness :
    ¬ (¬ SameRecords reconciled (handleAll .testnet reconciled [doubled (10 ^ 30)]) →
      (handleAll .testnet reconciled [doubled (10 ^ 30)]).lastStatus ≠ .inSync ∧
        (handleAll .testnet reconciled [doubled (10 ^ 30)]).ledger.accountSnapshot = none) := by
  have hpositions : (handleAll .testnet reconciled [doubled (10 ^ 30)]).ledger.positions ≠
      reconciled.ledger.positions := by decide +kernel
  have hstatus : (handleAll .testnet reconciled [doubled (10 ^ 30)]).lastStatus = .inSync := by
    decide +kernel
  intro h
  exact (h fun hsame => hpositions hsame.2.2.symm).1 hstatus

/-- In time the same event takes the evidence away. -/
theorem events_revoke_readiness_doubled :
    ¬ SameRecords reconciled (handleAll .testnet reconciled [doubled 1700000000000]) ∧
      (handleAll .testnet reconciled [doubled 1700000000000]).lastStatus ≠ .inSync ∧
      (handleAll .testnet reconciled [doubled 1700000000000]).ledger.accountSnapshot = none := by
  have hpositions : (handleAll .testnet reconciled [doubled 1700000000000]).ledger.positions ≠
      reconciled.ledger.positions := by decide +kernel
  have hchanged :
      ¬ SameRecords reconciled (handleAll .testnet reconciled [doubled 1700000000000]) :=
    fun hsame => hpositions hsame.2.2.symm
  have htime (message : String) :
      utc ((doubled 1700000000000).event.get "E") ≠ .error (.overflow message) := by
    have hok : utc ((doubled 1700000000000).event.get "E") = .ok () := by decide +kernel
    rw [hok]
    exact nofun
  have hfits : Fitting .testnet reconciled [doubled 1700000000000] :=
    ⟨fun _ rows _ => @announced_enqueuePosition etherRules _ _ htime _ rows, trivial⟩
  exact ⟨hchanged, (events_revoke_readiness .testnet reconciled _ hfits).1 hchanged⟩

end Blessing.Binance.StreamEvents
