import Blessing.Backtest.Replay
import Blessing.Binance.FilterPayload
import Blessing.Binance.OrderGate

/-! # Captured rules against the live gate

`parse_replay_symbol_rules_from_exchange_info` of `backtest/evidence_artifact.py` reads the rules of
a replay from the same `exchangeInfo` payload the live rules are parsed from, with a parser of its
own.

* `parseReplaySymbolRules`: that parser.
* `ReplayAccepts`: the step rounding and the bounds of the replay's order gate.
* `live_accepts`: what they accept, the live gate accepts with the same quantity. -/

namespace Blessing.Backtest.CapturedRules

open Blessing.Lib Blessing.Lib.Values Blessing.Lib.Rounding Blessing.Lib.Effects
open Blessing.Binance.Models (decimalOf)
open Blessing.Binance.SymbolRules Blessing.Binance.FilterPayload Blessing.Binance.OrderGate
open Blessing.Backtest.Replay
open Blessing.Engines.Governor (OrderIntent)

/-! ### The parser of the replay -/

/-- `_exchange_decimal` -/
def exchangeDecimal (filter : Json) (names : List String) (label : String) :
    Except String Decimal :=
  match firstGiven filter names with
  | none => .error ("exchange-info " ++ label ++ " is missing")
  | some raw =>
    match decimalOf raw with
    | none => .error ("exchange-info " ++ label ++ " is invalid")
    | some (.finite d) =>
      if 0 < d.toRat then .ok d
      else .error ("exchange-info " ++ label ++ " must be finite and positive")
    | some _ => .error ("exchange-info " ++ label ++ " must be finite and positive")

/-- `_exchange_bool` -/
def exchangeBool (filter : Json) (name : String) : Except String Bool :=
  match flagOf filter name with
  | some b => .ok b
  | none => .error ("exchange-info " ++ name ++ " is invalid")

/-- `str(value).strip().upper()` of a field, empty if it is missing. -/
def normalizedField (item : Json) (name : String) : String :=
  Text.upper (Text.strip ((item.get? name).getD (.str "")).toStr)

/-- The type of a filter, as the replay reads it. -/
def replayType (filter : Json) : String := normalizedField filter "filterType"

/-- `symbol_data`: the one entry of the symbol. -/
def matchedSymbol (payload : Json) (symbol : String) : Except String Json :=
  match payload.get "symbols" with
  | .arr items =>
    match items.filter fun item =>
        item.isObj && normalizedField item "symbol" == Text.upper (Text.strip symbol) with
    | [symbolData] => .ok symbolData
    | _ => .error "exchange-info must contain exactly one requested symbol"
  | _ => .error "exchange-info payload must contain a symbols list"

/-- The list of filters, all of them objects. -/
def captureFilters (symbolData : Json) : Except String (List Json) :=
  match symbolData.get "filters" with
  | .arr filters =>
    if filters.all Json.isObj then .ok filters
    else .error "exchange-info symbol filter must be an object"
  | _ => .error "exchange-info symbol filters must be a list"

/-- `by_type.get(filter_type)`: the last filter of a type. -/
def byType (filters : List Json) (filterType : String) : Option Json :=
  filters.reverse.find? fun f => replayType f == filterType

/-- A filter the rules need. -/
def requiredFilter (filters : List Json) (filterType : String) : Except String Json :=
  match byType filters filterType with
  | some filter => .ok filter
  | none => .error "exchange-info is missing PRICE_FILTER or LOT_SIZE"

/-- The step and the bounds of a quantity. -/
structure Lot where
  step : ℚ
  low : ℚ
  high : ℚ

/-- A lot size. -/
def lotOf (filter : Json) (label : String) : Except String Lot := do
  let low ← exchangeDecimal filter ["minQty"] (label ++ " minQty")
  let high ← exchangeDecimal filter ["maxQty"] (label ++ " maxQty")
  let step ← exchangeDecimal filter ["stepSize"] (label ++ " stepSize")
  return ⟨step.toRat, low.toRat, high.toRat⟩

/-- The lot size within that of market orders, if there is one. -/
def marketLot (filters : List Json) (lot : Lot) : Except String Lot :=
  match byType filters "MARKET_LOT_SIZE" with
  | none => .ok lot
  | some filter => do
    let market ← lotOf filter "MARKET_LOT_SIZE"
    if market.step ≠ lot.step then throw "LOT_SIZE and MARKET_LOT_SIZE step sizes differ"
    return ⟨lot.step, max lot.low market.low, min lot.high market.high⟩

/-- A notional bound of a filter, if the filter is there and its flag says that it applies. -/
def boundIf (filters : List Json) (filterType flag : String) (names : List String)
    (label : String) : Except String (List ℚ) :=
  match byType filters filterType with
  | none => .ok []
  | some filter => do
    let applies ← exchangeBool filter flag
    if applies then do
      let value ← exchangeDecimal filter names label
      return [value.toRat]
    else return []

/-- The checks of the constructor of `ReplaySymbolRules`. -/
def captured (symbol : String) (lot : Lot) (minNotional : ℚ) (maxNotional : Option ℚ) :
    Except String ReplaySymbolRules :=
  if h : 0 < lot.step ∧ 0 < lot.low ∧ 0 < minNotional then
    if symbol.length < 2 then .error "String should have at least 2 characters"
    else if lot.high < lot.low then
      .error "max_quantity must be greater than or equal to min_quantity"
    else if maxNotional.any (· < minNotional) then
      .error "max_notional must be greater than or equal to min_notional"
    else .ok {
      symbol, stepSize := lot.step, minQuantity := lot.low,
      maxQuantity := some lot.high, minNotional
      maxNotional, positive := h }
  else .error "must be finite and positive"

/-- The rules of the entry of a symbol; the tick size is only checked. -/
def capturedRules (symbol : String) (symbolData : Json) : Except String ReplaySymbolRules := do
  if normalizedField symbolData "status" ≠ "TRADING" then
    throw "exchange-info symbol is not TRADING"
  let orderTypes ← iterate ((symbolData.get? "orderTypes").getD (.arr []))
  if "MARKET" ∉ orderTypes.map (fun t => Text.upper (Text.strip t.toStr)) then
    throw "exchange-info symbol does not support MARKET orders"
  let filters ← captureFilters symbolData
  let priceFilter ← requiredFilter filters "PRICE_FILTER"
  let lotFilter ← requiredFilter filters "LOT_SIZE"
  let _tickSize ← exchangeDecimal priceFilter ["tickSize"] "tickSize"
  let lot ← lotOf lotFilter "LOT_SIZE"
  let lot ← marketLot filters lot
  let minimum ← boundIf filters "MIN_NOTIONAL" "applyToMarket" ["notional",
      "minNotional"] "MIN_NOTIONAL"
  let notionalMinimum ← boundIf filters "NOTIONAL" "applyMinToMarket" ["minNotional", "notional"]
    "NOTIONAL minNotional"
  let maximum ← boundIf filters "NOTIONAL" "applyMaxToMarket" ["maxNotional"] "NOTIONAL maxNotional"
  match (minimum ++ notionalMinimum).max? with
  | none => throw "exchange-info is missing a market minimum notional"
  | some minNotional => captured symbol lot minNotional maximum.min?

/-- `parse_replay_symbol_rules_from_exchange_info` -/
def parseReplaySymbolRules (payload : Json) (symbol : String) :
    Except String ReplaySymbolRules := do
  let symbolData ← matchedSymbol payload symbol
  capturedRules (Text.upper (Text.strip symbol)) symbolData

/-! ### What the replay accepts -/

/-- The quantity is the requested one on the step of the rules, within their bounds, and its
notional at the price is within theirs. -/
def ReplayAccepts (c : Context) (rules : ReplaySymbolRules) (requested price quantity : ℚ) : Prop :=
  quantity = normaliseQuantity c requested rules.stepSize ∧ 0 < quantity ∧
    rules.minQuantity ≤ quantity ∧ (∀ maxQuantity ∈ rules.maxQuantity, quantity ≤ maxQuantity) ∧
    rules.minNotional ≤ c.mul quantity price ∧
    ∀ maxNotional ∈ rules.maxNotional, c.mul quantity price ≤ maxNotional

/-! ### What the parser read -/

section Read

variable {filter f : Json} {filters : List Json} {names : List String} {label : String}

theorem exchangeDecimal_ok {d : Decimal} (h : exchangeDecimal filter names label = .ok d) :
    numberOf filter names = some d ∧ 0 < d.toRat := by
  unfold exchangeDecimal at h
  unfold numberOf decimalFilterValue
  cases hraw : firstGiven filter names with
  | none =>
    rw [hraw] at h
    cases h
  | some raw =>
    rw [hraw] at h
    dsimp only at h ⊢
    rcases hnumber : decimalOf raw with _ | ⟨d' | neg | _⟩
    · rw [hnumber] at h
      cases h
    · rw [hnumber] at h
      dsimp only at h
      split_ifs at h with hpos
      cases h
      exact ⟨rfl, hpos⟩
    · rw [hnumber] at h
      cases h
    · rw [hnumber] at h
      cases h

theorem exchangeBool_ok {name : String} {b : Bool} (h : exchangeBool filter name = .ok b) :
    flagOf filter name = some b := by
  unfold exchangeBool at h
  cases hflag : flagOf filter name with
  | some b' => rw [hflag] at h; cases h; rfl
  | none => rw [hflag] at h; cases h

theorem replayType_eq (filter : Json) : replayType filter = Text.strip (filterTypeOf filter) := by
  rw [replayType, normalizedField, Text.upper_strip]
  rfl

/-- A payload with at most one filter of a type the replay reads has at most one of a live type. -/
theorem onePerType_of_replay (hone : (filters.map replayType).Nodup) : OnePerType filters := by
  have heq : filters.map replayType = (filters.map filterTypeOf).map Text.strip := by
    rw [List.map_map]
    exact List.map_congr_left fun f _ => replayType_eq f
  rw [heq] at hone
  exact List.Nodup.of_map _ hone

/-- The replay has a filter of a live type under that type. -/
theorem byType_of_mem (hone : (filters.map replayType).Nodup) (hmem : f ∈ filters)
    {filterType : String} (htype : filterTypeOf f = filterType)
    (hstrip : Text.strip filterType = filterType) : byType filters filterType = some f := by
  have hreplay : replayType f = filterType := by rw [replayType_eq, htype, hstrip]
  unfold byType
  cases hfind : filters.reverse.find? fun f => replayType f == filterType with
  | none =>
    have hnot := List.find?_eq_none.mp hfind f (List.mem_reverse.mpr hmem)
    exact absurd (by simpa using hreplay) hnot
  | some g =>
    have hg := List.mem_reverse.mp (List.mem_of_find?_eq_some hfind)
    have hgtype : replayType g = filterType := by simpa using List.find?_some hfind
    rw [List.inj_on_of_nodup_map hone hg hmem (hgtype.trans hreplay.symm)]

theorem lotOf_ok {lot : Lot} (h : lotOf filter label = .ok lot) : ∃ low high step : Decimal,
    numberOf filter ["minQty"] = some low ∧ numberOf filter ["maxQty"] = some high ∧
    numberOf filter ["stepSize"] = some step ∧ lot = ⟨step.toRat, low.toRat, high.toRat⟩ := by
  unfold lotOf at h
  obtain ⟨low, hlow, h⟩ := except_bind_ok.mp h
  obtain ⟨high, hhigh, h⟩ := except_bind_ok.mp h
  obtain ⟨step, hstep, h⟩ := except_bind_ok.mp h
  cases h
  exact ⟨low, high, step, (exchangeDecimal_ok hlow).1, (exchangeDecimal_ok hhigh).1,
    (exchangeDecimal_ok hstep).1, rfl⟩

theorem marketLot_ok {lot lot' : Lot} (h : marketLot filters lot = .ok lot') :
    lot'.step = lot.step ∧ lot.low ≤ lot'.low ∧ lot'.high ≤ lot.high ∧
      ∀ g, byType filters "MARKET_LOT_SIZE" = some g → ∃ market,
        lotOf g "MARKET_LOT_SIZE" = .ok market ∧ market.step = lot'.step ∧ market.low ≤ lot'.low ∧
        lot'.high ≤ market.high := by
  unfold marketLot at h
  cases hfind : byType filters "MARKET_LOT_SIZE" with
  | none =>
    rw [hfind] at h
    cases h
    exact ⟨rfl, le_rfl, le_rfl, fun g hg => nomatch hg⟩
  | some g =>
    rw [hfind] at h
    obtain ⟨market, hmarket, h⟩ := except_bind_ok.mp h
    obtain ⟨hstep, h⟩ := except_guard_ok.mp h
    cases h
    refine ⟨rfl, le_max_left _ _, min_le_left _ _, fun g' hg => ?_⟩
    cases hg
    exact ⟨market, hmarket, not_not.mp hstep, le_max_right _ _, min_le_right _ _⟩

theorem boundIf_ok {filterType flag : String} {xs : List ℚ} {value : Decimal}
    (h : boundIf filters filterType flag names label = .ok xs)
    (hfilter : byType filters filterType = some f) (hvalue : numberOf f names = some value)
    (hflag : flagOf f flag = some true) :
    value.toRat ∈ xs := by
  unfold boundIf at h
  rw [hfilter] at h
  obtain ⟨applies, happlies, h⟩ := except_bind_ok.mp h
  cases (exchangeBool_ok happlies).symm.trans hflag
  obtain ⟨d, hd, h⟩ := except_bind_ok.mp h
  cases h
  cases (exchangeDecimal_ok hd).1.symm.trans hvalue
  exact List.mem_singleton.mpr rfl

theorem captured_ok {symbol : String} {lot : Lot} {minNotional : ℚ} {maxNotional : Option ℚ}
    {replay : ReplaySymbolRules} (h : captured symbol lot minNotional maxNotional = .ok replay) :
    replay.stepSize = lot.step ∧ replay.minQuantity = lot.low ∧ replay.maxQuantity = some lot.high ∧
      replay.minNotional = minNotional ∧ replay.maxNotional = maxNotional := by
  unfold captured at h
  split_ifs at h
  cases h
  exact ⟨rfl, rfl, rfl, rfl, rfl⟩

theorem captureFilters_ok {symbolData : Json} (h : captureFilters symbolData = .ok filters) :
    filtersOf symbolData = .ok filters := by
  unfold captureFilters at h
  unfold filtersOf
  split at h
  case h_1 xs hxs =>
    split_ifs at h
    cases h
    unfold Json.get at hxs
    cases hget : symbolData.get? "filters" with
    | none => rw [hget] at hxs; cases hxs
    | some v =>
      rw [hget] at hxs
      cases hxs
      rfl
  case h_2 => cases h

end Read

/-! ### The live gate -/

/-- The rules of a replay are at least as tight as what the filters of the payload ask of a market
order. -/
structure Tight (filters : List Json) (replay : ReplaySymbolRules) : Prop where
  lot : ∀ f ∈ filters, filterTypeOf f = lotType filters true → ∃ low high step maxQuantity,
    numberOf f ["minQty"] = some low ∧ numberOf f ["maxQty"] = some high ∧
    numberOf f ["stepSize"] = some step ∧ replay.stepSize = step.toRat ∧
    low.toRat ≤ replay.minQuantity ∧ replay.maxQuantity = some maxQuantity ∧
    maxQuantity ≤ high.toRat
  minimum : ∀ f ∈ filters, ∀ m ∈ minimumOf f, m.2 = true → m.1.toRat ≤ replay.minNotional
  maximum : ∀ f ∈ filters, ∀ m ∈ maximumOf f, m.2 = true →
    ∃ maxNotional ∈ replay.maxNotional, maxNotional ≤ m.1.toRat

section Live

variable {symbolData : Json} {symbol : String} {replay : ReplaySymbolRules} {filters : List Json}

theorem tight_of_captured (h : capturedRules symbol symbolData = .ok replay)
    (hfilters : filtersOf symbolData = .ok filters) (hone : (filters.map replayType).Nodup) :
    Tight filters replay := by
  unfold capturedRules at h
  obtain ⟨-, h⟩ := except_guard_ok.mp h
  obtain ⟨orderTypes, -, h⟩ := except_bind_ok.mp h
  obtain ⟨-, h⟩ := except_guard_ok.mp h
  obtain ⟨found, hfound, h⟩ := except_bind_ok.mp h
  obtain ⟨priceFilter, -, h⟩ := except_bind_ok.mp h
  obtain ⟨lotFilter, hlotFilter, h⟩ := except_bind_ok.mp h
  obtain ⟨tick, -, h⟩ := except_bind_ok.mp h
  obtain ⟨lot, hlot, h⟩ := except_bind_ok.mp h
  obtain ⟨both, hboth, h⟩ := except_bind_ok.mp h
  obtain ⟨minimum, hminimum, h⟩ := except_bind_ok.mp h
  obtain ⟨notionalMinimum, hnotional, h⟩ := except_bind_ok.mp h
  obtain ⟨maximum, hmaximum, h⟩ := except_bind_ok.mp h
  obtain rfl := Except.ok.inj ((captureFilters_ok hfound).symm.trans hfilters)
  obtain ⟨hstep, hlow, hhigh, hmarket⟩ := marketLot_ok hboth
  split at h
  case h_1 => cases h
  case h_2 minNotional hmin =>
    obtain ⟨hreplayStep, hreplayLow, hreplayHigh, hreplayMin, hreplayMax⟩ := captured_ok h
    constructor
    case lot =>
      intro f hf htype
      unfold lotType at htype
      split_ifs at htype with hkind
      · have hby := byType_of_mem hone hf htype (by decide +kernel)
        obtain ⟨market, hread, hmstep, hmlow, hmhigh⟩ := hmarket f hby
        obtain ⟨low, high, step, hl, hh, hs, rfl⟩ := lotOf_ok hread
        exact ⟨low, high, step, both.high, hl, hh, hs, hreplayStep.trans hmstep.symm,
          by rw [hreplayLow]; exact hmlow, hreplayHigh, hmhigh⟩
      · have hby := byType_of_mem hone hf htype (by decide +kernel)
        unfold requiredFilter at hlotFilter
        rw [hby] at hlotFilter
        cases hlotFilter
        obtain ⟨low, high, step, hl, hh, hs, rfl⟩ := lotOf_ok hlot
        exact ⟨low, high, step, both.high, hl, hh, hs, hreplayStep.trans hstep,
          by rw [hreplayLow]; exact hlow, hreplayHigh, hhigh⟩
    case minimum =>
      intro f hf m hm happlies
      rw [hreplayMin]
      refine (List.max?_eq_some_iff.mp hmin).2 _ ?_
      cases mem_minimumOf hm with
      | inl hplain =>
        obtain ⟨htype, hvalue, hflag⟩ := hplain
        have hby := byType_of_mem hone hf htype (by decide +kernel)
        exact List.mem_append_left _ (boundIf_ok hminimum hby hvalue (happlies ▸ hflag))
      | inr hnamed =>
        obtain ⟨htype, hvalue, hflag⟩ := hnamed
        have hby := byType_of_mem hone hf htype (by decide +kernel)
        exact List.mem_append_right _ (boundIf_ok hnotional hby hvalue (happlies ▸ hflag))
    case maximum =>
      intro f hf m hm happlies
      obtain ⟨htype, hvalue, hflag⟩ := mem_maximumOf hm
      have hby := byType_of_mem hone hf htype (by decide +kernel)
      have hmem := boundIf_ok hmaximum hby hvalue (happlies ▸ hflag)
      obtain ⟨least, hleast⟩ := Option.isSome_iff_exists.mp (List.isSome_min?_of_mem hmem)
      rw [hreplayMax]
      exact ⟨least, hleast, (List.min?_eq_some_iff.mp hleast).2 _ hmem⟩

theorem requested_pos {requested price quantity : ℚ}
    (h : ReplayAccepts .exact replay requested price quantity) : 0 < requested := by
  obtain ⟨hnorm, hpos, -⟩ := h
  by_contra hneg
  have hstep := replay.positive.1
  have hdiv : requested / replay.stepSize ≤ 0 :=
    div_nonpos_of_nonpos_of_nonneg (not_lt.mp hneg) hstep.le
  have htruncate : Replay.truncate (requested / replay.stepSize) ≤ 0 := by
    unfold Replay.truncate
    split_ifs with hzero
    · exact Int.floor_nonpos hdiv
    · exact Int.ceil_nonpos.mpr hdiv
  have hle : (Replay.truncate (requested / replay.stepSize) : ℚ) * replay.stepSize ≤ 0 :=
    mul_nonpos_of_nonpos_of_nonneg (by exact_mod_cast htruncate) hstep.le
  simp only [normaliseQuantity, Context.exact_mul, Context.exact_div] at hnorm
  linarith

/-- **The replay is never more permissive**: what the step rounding, the quantity bounds and the
notional bounds of the replay accept at a price, the live gate prepares with the same quantity, and
its quantity bounds and its notional bounds for market orders accept it at that price. -/
theorem live_accepts {payload : Json} {rules : SymbolTradingRules}
    (hreplay : parseReplaySymbolRules payload symbol = .ok replay)
    (hmatched : matchedSymbol payload symbol = .ok symbolData)
    (hlive : parseExchangeInfo symbolData = .ok rules)
    (hfilters : filtersOf symbolData = .ok filters) (hone : (filters.map replayType).Nodup)
    (hready : rules.isReadyFor "MARKET" = true) {requested price quantity : ℚ}
    (haccepts : ReplayAccepts .exact replay requested price quantity) (hprice : 0 < price)
    {intent : OrderIntent} (hmarket : intent.orderType = .market)
    (hquantity : intent.quantity = requested) :
    rules.normalizeQuantity .exact requested true = quantity ∧
      preparedQuantity .exact rules intent = .ok quantity ∧
      notionalChecks rules .market (quantity * price) = .ok () := by
  unfold parseReplaySymbolRules at hreplay
  obtain ⟨found, hfound, hreplay⟩ := except_bind_ok.mp hreplay
  obtain rfl := Except.ok.inj (hfound.symm.trans hmatched)
  have htight := tight_of_captured hreplay hfilters hone
  have hupper : Text.upper "MARKET" = "MARKET" := by decide +kernel
  obtain ⟨lot, hlotMem, hlotType, low, high, step, hlow, hhigh, hstep, hsteppos, hlowpos,
      hle, hmin, hmax,
    hsize⟩ := lot_of_ready hlive hfilters (onePerType_of_replay hone) hready
      fun _ : true = true => hupper
  obtain ⟨low', high', step', maxQuantity, hlow', hhigh', hstep', hreplayStep,
      hreplayLow, hreplayHigh,
    hreplayMax⟩ := htight.lot lot hlotMem hlotType
  cases hlow.symm.trans hlow'
  cases hhigh.symm.trans hhigh'
  cases hstep.symm.trans hstep'
  have hrequested := requested_pos haccepts
  obtain ⟨hnorm, hpos, hminQ, hmaxQ, hminN, hmaxN⟩ := haccepts
  have hquantityMax := (hmaxQ maxQuantity hreplayHigh).trans hreplayMax
  have hnormalized : rules.normalizeQuantity .exact requested true = quantity := by
    rw [hnorm, normaliseQuantity, hreplayStep, SymbolTradingRules.normalizeQuantity, hsize,
      if_neg hsteppos.ne', if_neg (not_le.mpr hrequested)]
    rfl
  have hisMarket : isMarket intent = true := by rw [isMarket, hmarket]; rfl
  refine ⟨hnormalized, ?_, ?_⟩
  · unfold preparedQuantity
    rw [hquantity, hisMarket, hnormalized, hmin, hmax, if_neg (not_le.mpr hrequested)]
    dsimp only
    rw [if_neg (not_le.mpr hpos), if_neg (not_lt.mpr (hreplayLow.trans hminQ)),
      if_neg fun hexceeds => absurd hexceeds.2 (not_lt.mpr hquantityMax)]
    rfl
  · have hnotional : 0 < quantity * price := mul_pos hpos hprice
    have hminimum : rules.minNotionalFor "MARKET" ≤ quantity * price := by
      cases minNotionalFor_market rules hupper with
      | inl hzero => exact hzero ▸ hnotional.le
      | inr hsome =>
        obtain ⟨m, hm, happlies, heq⟩ := hsome
        rw [(rules_lists hlive hfilters).2.1] at hm
        obtain ⟨f, hf, hmf⟩ := List.mem_filterMap.mp hm
        rw [← heq]
        exact (htight.minimum f hf m hmf happlies).trans hminN
    have hmaximum : 0 < rules.maxNotionalFor "MARKET" →
        quantity * price ≤ rules.maxNotionalFor "MARKET" := by
      intro hpositive
      cases maxNotionalFor_market rules hupper with
      | inl hzero => exact absurd hzero hpositive.ne'
      | inr hsome =>
        obtain ⟨m, hm, happlies, heq⟩ := hsome
        rw [(rules_lists hlive hfilters).2.2.1] at hm
        obtain ⟨f, hf, hmf⟩ := List.mem_filterMap.mp hm
        obtain ⟨maxNotional, hmem, hbound⟩ := htight.maximum f hf m hmf happlies
        rw [← heq]
        exact (hmaxN maxNotional hmem).trans hbound
    unfold notionalChecks
    rw [if_neg (not_le.mpr hnotional)]
    dsimp only [typeValue]
    rw [if_neg fun hbelow => absurd hbelow.2 (not_lt.mpr hminimum),
      if_neg fun hexceeds => absurd (hmaximum hexceeds.1) (not_le.mpr hexceeds.2)]
    rfl

end Live

/-- A symbol with a market lot size and a minimum that does not apply to market orders. -/
def sampleSymbol : Json := .obj [
  ("symbol", .str "BTCUSDT"), ("status", .str "TRADING"),
  ("orderTypes", .arr [.str "LIMIT", .str "MARKET"]),
  ("filters", .arr sampleFilters)]
where
  sampleFilters : List Json := [
    .obj [("filterType", .str "PRICE_FILTER"), ("minPrice", .str "1"), ("maxPrice", .str "100000"),
      ("tickSize", .str "0.5")],
    .obj [("filterType", .str "LOT_SIZE"), ("minQty", .str "0.01"), ("maxQty", .str "10"),
      ("stepSize", .str "0.01")],
    .obj [("filterType", .str "MARKET_LOT_SIZE"), ("minQty", .str "0.1"), ("maxQty", .str "5"),
      ("stepSize", .str "0.01")],
    .obj [("filterType", .str "MIN_NOTIONAL"), ("notional", .str "5")],
    .obj [("filterType", .str "NOTIONAL"), ("minNotional", .str "100"), ("maxNotional", .str "500"),
      ("applyMinToMarket", .bool false)]]

/-- A market order of 0.256. -/
def sampleOrder : OrderIntent where
  clientOrderId := "o1"
  symbol := "BTCUSDT"
  marketType := .usdmFutures
  side := .buy
  positionSide := .both
  orderType := .market
  timeInForce := .gtc
  quantity := 256 / 1000
  createdAt := ⟨0, true⟩

/-- At a price of 100 the live gate prepares it as 0.25. -/
theorem live_accepts_sample : ∃ rules, parseExchangeInfo sampleSymbol = .ok rules ∧
    rules.normalizeQuantity .exact (256 / 1000) true = 1 / 4 ∧
    preparedQuantity .exact rules sampleOrder = .ok (1 / 4) ∧
    notionalChecks rules .market (1 / 4 * 100) = .ok () := by
  have hready : (parseExchangeInfo sampleSymbol).toOption.map (·.isReadyFor "MARKET") =
      some true := by
    decide +kernel
  have hcaptured : (capturedRules "BTCUSDT" sampleSymbol).toOption.map (fun r =>
      (r.stepSize, r.minQuantity, r.maxQuantity, r.minNotional, r.maxNotional)) =
        some (1 / 100, 1 / 10, some 5, 5, some 500) := by decide +kernel
  have hsymbol : Text.upper (Text.strip "BTCUSDT") = "BTCUSDT" := by decide +kernel
  have hmatched : matchedSymbol (.obj [("symbols", .arr [sampleSymbol])]) "BTCUSDT" =
      .ok sampleSymbol := by
    decide +kernel
  cases hlive : parseExchangeInfo sampleSymbol with
  | error e =>
    rw [hlive] at hready
    cases hready
  | ok rules =>
    cases hrules : capturedRules "BTCUSDT" sampleSymbol with
    | error e =>
      rw [hrules] at hcaptured
      cases hcaptured
    | ok replay =>
      rw [hlive] at hready
      rw [hrules] at hcaptured
      have hreplay :
          parseReplaySymbolRules (.obj [("symbols", .arr [sampleSymbol])]) "BTCUSDT" =
          .ok replay := by
        rw [parseReplaySymbolRules, hmatched, hsymbol]
        exact hrules
      have hfields := Option.some.inj hcaptured
      simp only [Prod.mk.injEq] at hfields
      obtain ⟨hstep, hmin, hmax, hminN, hmaxN⟩ := hfields
      have haccepts : ReplayAccepts .exact replay (256 / 1000) 100 (1 / 4) := by
        unfold ReplayAccepts
        rw [hstep, hmin, hmax, hminN, hmaxN]
        refine ⟨by decide +kernel, by decide +kernel, by decide +kernel, ?_, by decide +kernel, ?_⟩
        · intro maxQuantity hmem
          cases hmem
          decide +kernel
        · intro maxNotional hmem
          cases hmem
          decide +kernel
      have hfilters : filtersOf sampleSymbol = .ok sampleSymbol.sampleFilters := rfl
      exact ⟨rules, rfl, live_accepts hreplay hmatched hlive hfilters
        (by decide +kernel) (Option.some.inj hready) haccepts (by decide +kernel) rfl rfl⟩

end Blessing.Backtest.CapturedRules
