import Blessing.Binance.Models
import Blessing.Lib.Effects
import Blessing.Lib.Rounding

/-! # The trading rules of a symbol

`SymbolTradingRules` of `venues/binance/symbol_rules.py`: the filters of an `exchangeInfo` symbol,
whether they are complete for an order type, and the quantities, prices and bounds computed from
them. -/

namespace Blessing.Binance.SymbolRules

open Blessing.Lib Blessing.Lib.Values Blessing.Lib.Rounding Blessing.Lib.Effects
open Blessing.Binance.Models

/-- `Decimal("0.0")` -/
def zero : Decimal := ⟨false, 0, -1⟩

/-- `SymbolTradingRules`. The constraints carry whether they apply to market orders. -/
structure SymbolTradingRules where
  baseAsset : String := ""
  quoteAsset : String := ""
  marginAsset : String := ""
  contractType : String := ""
  pricePrecision : Option ℕ := none
  quantityPrecision : Option ℕ := none
  status : String := "UNKNOWN"
  tickSize : Decimal := zero
  minPrice : Decimal := zero
  maxPrice : Decimal := zero
  stepSize : Decimal := zero
  minQty : Decimal := zero
  maxQty : Decimal := zero
  marketMinQty : Option Decimal := none
  marketMaxQty : Option Decimal := none
  marketStepSize : Option Decimal := none
  percentPriceMultiplierUp : Option Decimal := none
  percentPriceMultiplierDown : Option Decimal := none
  percentPriceBidMultiplierUp : Option Decimal := none
  percentPriceBidMultiplierDown : Option Decimal := none
  percentPriceAskMultiplierUp : Option Decimal := none
  percentPriceAskMultiplierDown : Option Decimal := none
  supportedOrderTypes : List String := []
  parsedFromExchangeInfo : Bool := false
  seenFilterTypes : List String := []
  minNotionalConstraints : List (Decimal × Bool) := []
  maxNotionalConstraints : List (Decimal × Bool) := []

/-! ### Reading a filter -/

/-- The value of the first field that is given. -/
def firstGiven (filter : Json) (names : List String) : Option Json :=
  (names.find? fun name => !(filter.get name).isBlank).map filter.get

/-- `filter_data.get("filterType", "UNKNOWN")` in a message -/
def filterLabel (filter : Json) : String := ((filter.get? "filterType").getD (.str "UNKNOWN")).toStr

/-- `decimal_filter_value` -/
def decimalFilterValue (filter : Json) (names : List String) : Except String Decimal :=
  match firstGiven filter names with
  | none =>
    .error ("Exchange " ++ filterLabel filter ++ " filter is missing " ++ Text.join "/" names)
  | some raw =>
    match decimalOf raw with
    | none =>
      .error ("Exchange " ++ filterLabel filter ++ " filter has invalid " ++ Text.join "/" names)
    | some (.finite d) => .ok d
    | some _ =>
      .error ("Exchange " ++ filterLabel filter ++ " filter has non-finite " ++ Text.join "/" names)

/-- `value.strip().lower()` as a flag, if it is one. -/
def flagOfText (text : String) : Option Bool :=
  let normalized := Text.lower (Text.strip text)
  if ["1", "true", "yes", "on"].contains normalized then some true
  else if ["0", "false", "no", "off"].contains normalized then some false
  else none

/-- A flag of a filter; a filter without it has the default, which is always true here. -/
def flagOf (filter : Json) (name : String) : Option Bool :=
  if (filter.get name).isBlank then some true
  else
    match filter.get name with
    | .bool b => some b
    | .int n => some (n != 0)
    | .float r => some (!Json.zeroTexts.contains r)
    | .str s => flagOfText s
    | _ => none

/-- `bool_filter_value` -/
def boolFilterValue (filter : Json) (name : String) : Except String Bool :=
  match flagOf filter name with
  | some b => .ok b
  | none => .error ("Exchange " ++ filterLabel filter ++ " filter has invalid " ++ name)

/-- `add_min_notional` -/
def addMinNotional (rules : SymbolTradingRules) (value : Decimal) (appliesToMarket : Bool) :
    Except String SymbolTradingRules := do
  if value.toRat ≤ 0 then throw "Exchange minimum notional must be positive"
  return { rules with minNotionalConstraints := rules.minNotionalConstraints ++
    [(value, appliesToMarket)] }

/-- `add_max_notional` -/
def addMaxNotional (rules : SymbolTradingRules) (value : Decimal) (appliesToMarket : Bool) :
    Except String SymbolTradingRules := do
  if value.toRat < 0 then throw "Exchange maximum notional must be non-negative"
  if value.toRat = 0 then return rules
  else return { rules with
    maxNotionalConstraints := rules.maxNotionalConstraints ++ [(value, appliesToMarket)] }

/-- `str(f.get("filterType", "")).upper()` -/
def filterTypeOf (filter : Json) : String := upperOf ((filter.get? "filterType").getD (.str ""))

/-- One filter of `parse_exchange_info`. -/
def parseFilter (rules : SymbolTradingRules) (filter : Json) : Except String SymbolTradingRules :=
  do
  if !filter.isObj then throw "Exchange symbol filter must be an object"
  let filterType := filterTypeOf filter
  let rules := { rules with seenFilterTypes := rules.seenFilterTypes ++ [filterType] }
  match filterType with
  | "PRICE_FILTER" => do
    let minPrice ← decimalFilterValue filter ["minPrice"]
    let maxPrice ← decimalFilterValue filter ["maxPrice"]
    let tickSize ← decimalFilterValue filter ["tickSize"]
    return { rules with minPrice, maxPrice, tickSize }
  | "LOT_SIZE" => do
    let minQty ← decimalFilterValue filter ["minQty"]
    let maxQty ← decimalFilterValue filter ["maxQty"]
    let stepSize ← decimalFilterValue filter ["stepSize"]
    return { rules with minQty, maxQty, stepSize }
  | "MARKET_LOT_SIZE" => do
    let minQty ← decimalFilterValue filter ["minQty"]
    let maxQty ← decimalFilterValue filter ["maxQty"]
    let stepSize ← decimalFilterValue filter ["stepSize"]
    return { rules with
      marketMinQty := some minQty, marketMaxQty := some maxQty, marketStepSize := some stepSize }
  | "MIN_NOTIONAL" => do
    let value ← decimalFilterValue filter ["notional", "minNotional"]
    let applies ← boolFilterValue filter "applyToMarket"
    addMinNotional rules value applies
  | "NOTIONAL" => do
    let value ← decimalFilterValue filter ["minNotional", "notional"]
    let applies ← boolFilterValue filter "applyMinToMarket"
    let rules ← addMinNotional rules value applies
    if (filter.get "maxNotional").isBlank then
      throw "Exchange NOTIONAL filter is missing maxNotional"
    let value ← decimalFilterValue filter ["maxNotional"]
    let applies ← boolFilterValue filter "applyMaxToMarket"
    addMaxNotional rules value applies
  | "PERCENT_PRICE" => do
    let up ← decimalFilterValue filter ["multiplierUp"]
    let down ← decimalFilterValue filter ["multiplierDown"]
    return { rules with
      percentPriceMultiplierUp := some up, percentPriceMultiplierDown := some down }
  | "PERCENT_PRICE_BY_SIDE" => do
    let bidUp ← decimalFilterValue filter ["bidMultiplierUp"]
    let bidDown ← decimalFilterValue filter ["bidMultiplierDown"]
    let askUp ← decimalFilterValue filter ["askMultiplierUp"]
    let askDown ← decimalFilterValue filter ["askMultiplierDown"]
    return { rules with
      percentPriceBidMultiplierUp := some bidUp, percentPriceBidMultiplierDown := some bidDown
      percentPriceAskMultiplierUp := some askUp, percentPriceAskMultiplierDown := some askDown }
  | _ => return rules

/-! ### Reading a symbol -/

/-- `_parse_precision` -/
def parsePrecision (value : Json) (name : String) : Except String (Option ℕ) :=
  if value.isBlank then .ok none
  else
    match intOf value with
    | some n =>
      if n < 0 then .error ("Exchange symbol has invalid " ++ name) else .ok (some n.toNat)
    | none => .error ("Exchange symbol has invalid " ++ name)

/-- `_decimal_places` -/
def decimalPlaces (value : Decimal) : ℕ := if value.toRat ≤ 0 then 0 else (-value.exp).toNat

/-- The values of an iterable cell. -/
def iterate : Json → Except String (List Json)
  | .arr xs => .ok xs
  | .str s => .ok (s.toList.map fun ch => .str (String.singleton ch))
  | .obj fields => .ok (fields.map fun f => .str f.1)
  | _ => .error "object is not iterable"

/-- `str(symbol_data.get(name, default)).upper()` -/
def upperField (symbolData : Json) (name default : String) : String :=
  upperOf ((symbolData.get? name).getD (.str default))

/-- The rules `parse_exchange_info` starts the filters with. -/
def parseHeader (symbolData : Json) : Except String SymbolTradingRules := do
  if !symbolData.isObj then throw "Exchange symbol information must be an object"
  let orderTypes ← iterate ((symbolData.get? "orderTypes").getD (.arr []))
  let pricePrecision ← parsePrecision (symbolData.get "pricePrecision") "pricePrecision"
  let quantityPrecision ← parsePrecision (symbolData.get "quantityPrecision") "quantityPrecision"
  return {
    status := upperField symbolData "status" "UNKNOWN"
    baseAsset := upperField symbolData "baseAsset" ""
    quoteAsset := upperField symbolData "quoteAsset" ""
    marginAsset := upperField symbolData "marginAsset" ""
    contractType := upperField symbolData "contractType" ""
    supportedOrderTypes := orderTypes.map upperOf
    pricePrecision, quantityPrecision, parsedFromExchangeInfo := true }

/-- `symbol_data.get("filters", [])`, which has to be a list. -/
def filtersOf (symbolData : Json) : Except String (List Json) :=
  match (symbolData.get? "filters").getD (.arr []) with
  | .arr filters => .ok filters
  | _ => .error "Exchange symbol filters must be a list"

/-- `parse_exchange_info` -/
def parseExchangeInfo (symbolData : Json) : Except String SymbolTradingRules := do
  let header ← parseHeader symbolData
  let filters ← filtersOf symbolData
  let rules ← filters.foldlM parseFilter header
  return { rules with
    pricePrecision := some (rules.pricePrecision.getD (decimalPlaces rules.tickSize))
    quantityPrecision := some (rules.quantityPrecision.getD (decimalPlaces rules.stepSize)) }

/-! ### What a filter adds -/

/-- The rules with one more type that was seen. -/
def SymbolTradingRules.see (rules : SymbolTradingRules) (filter : Json) : SymbolTradingRules :=
  { rules with seenFilterTypes := rules.seenFilterTypes ++ [filterTypeOf filter] }

/-- The filter types the parser reads. -/
def knownTypes : List String :=
  ["PRICE_FILTER", "LOT_SIZE", "MARKET_LOT_SIZE", "MIN_NOTIONAL", "NOTIONAL", "PERCENT_PRICE",
    "PERCENT_PRICE_BY_SIDE"]

/-- The number a filter gives under the first of the names it has. -/
def numberOf (filter : Json) (names : List String) : Option Decimal :=
  (decimalFilterValue filter names).toOption

/-- What parsing a filter does, by its type. -/
inductive Parsed (rules : SymbolTradingRules) (filter : Json) : SymbolTradingRules → Prop
  | price {low high tick : Decimal} (htype : filterTypeOf filter = "PRICE_FILTER")
      (hlow : numberOf filter ["minPrice"] = some low)
      (hhigh : numberOf filter ["maxPrice"] = some high)
      (htick : numberOf filter ["tickSize"] = some tick) :
      Parsed rules filter { rules.see filter with
        minPrice := low, maxPrice := high, tickSize := tick }
  | lot {low high step : Decimal} (htype : filterTypeOf filter = "LOT_SIZE")
      (hlow : numberOf filter ["minQty"] = some low)
      (hhigh : numberOf filter ["maxQty"] = some high)
      (hstep : numberOf filter ["stepSize"] = some step) :
      Parsed rules filter { rules.see filter with minQty := low, maxQty := high, stepSize := step }
  | marketLot {low high step : Decimal} (htype : filterTypeOf filter = "MARKET_LOT_SIZE")
      (hlow : numberOf filter ["minQty"] = some low)
      (hhigh : numberOf filter ["maxQty"] = some high)
      (hstep : numberOf filter ["stepSize"] = some step) :
      Parsed rules filter { rules.see filter with
        marketMinQty := some low, marketMaxQty := some high, marketStepSize := some step }
  | minNotional {value : Decimal} {applies : Bool} (htype : filterTypeOf filter = "MIN_NOTIONAL")
      (hvalue : numberOf filter ["notional", "minNotional"] = some value)
      (happlies : flagOf filter "applyToMarket" = some applies) (hpos : 0 < value.toRat) :
      Parsed rules filter { rules.see filter with
        minNotionalConstraints := rules.minNotionalConstraints ++ [(value, applies)] }
  | notional {low high : Decimal} {appliesMin appliesMax : Bool}
      (htype : filterTypeOf filter = "NOTIONAL")
      (hlow : numberOf filter ["minNotional", "notional"] = some low)
      (hmin : flagOf filter "applyMinToMarket" = some appliesMin) (hpos : 0 < low.toRat)
      (hhigh : numberOf filter ["maxNotional"] = some high)
      (hmax : flagOf filter "applyMaxToMarket" = some appliesMax) (hnonneg : 0 ≤ high.toRat) :
      Parsed rules filter { rules.see filter with
        minNotionalConstraints := rules.minNotionalConstraints ++ [(low, appliesMin)]
        maxNotionalConstraints := rules.maxNotionalConstraints ++
          if high.toRat = 0 then [] else [(high, appliesMax)] }
  | percent {up down : Decimal} (htype : filterTypeOf filter = "PERCENT_PRICE")
      (hup : numberOf filter ["multiplierUp"] = some up)
      (hdown : numberOf filter ["multiplierDown"] = some down) :
      Parsed rules filter { rules.see filter with
        percentPriceMultiplierUp := some up, percentPriceMultiplierDown := some down }
  | percentBySide {bidUp bidDown askUp askDown : Decimal}
      (htype : filterTypeOf filter = "PERCENT_PRICE_BY_SIDE")
      (hbidUp : numberOf filter ["bidMultiplierUp"] = some bidUp)
      (hbidDown : numberOf filter ["bidMultiplierDown"] = some bidDown)
      (haskUp : numberOf filter ["askMultiplierUp"] = some askUp)
      (haskDown : numberOf filter ["askMultiplierDown"] = some askDown) :
      Parsed rules filter { rules.see filter with
        percentPriceBidMultiplierUp := some bidUp, percentPriceBidMultiplierDown := some bidDown
        percentPriceAskMultiplierUp := some askUp, percentPriceAskMultiplierDown := some askDown }
  | other (htype : filterTypeOf filter ∉ knownTypes) : Parsed rules filter (rules.see filter)

variable {filter : Json} {rules rules' : SymbolTradingRules} {value : Decimal} {applies : Bool}

theorem numberOf_eq {names : List String} (h : decimalFilterValue filter names = .ok value) :
    numberOf filter names = some value := by rw [numberOf, h]; rfl

theorem flagOf_eq {name : String} (h : boolFilterValue filter name = .ok applies) :
    flagOf filter name = some applies := by
  unfold boolFilterValue at h
  cases hflag : flagOf filter name with
  | some b => rw [hflag] at h; cases h; rfl
  | none => rw [hflag] at h; cases h

theorem addMinNotional_ok (h : addMinNotional rules value applies = .ok rules') :
    0 < value.toRat ∧ rules' = { rules with
      minNotionalConstraints := rules.minNotionalConstraints ++ [(value, applies)] } := by
  unfold addMinNotional at h
  obtain ⟨hpos, h⟩ := except_guard_ok.mp h
  cases h
  exact ⟨not_le.mp hpos, rfl⟩

theorem addMaxNotional_ok (h : addMaxNotional rules value applies = .ok rules') :
    0 ≤ value.toRat ∧ rules' = { rules with
      maxNotionalConstraints := rules.maxNotionalConstraints ++
        if value.toRat = 0 then [] else [(value, applies)] } := by
  unfold addMaxNotional at h
  obtain ⟨hneg, h⟩ := except_guard_ok.mp h
  refine ⟨not_lt.mp hneg, ?_⟩
  split_ifs at h ⊢ with hzero
  · cases h
    rw [List.append_nil]
  · cases h
    rfl

/-- **One filter**: what is parsed of it is what its type says. -/
theorem parseFilter_ok (h : parseFilter rules filter = .ok rules') :
    Parsed rules filter rules' := by
  unfold parseFilter at h
  obtain ⟨-, h⟩ := except_guard_ok.mp h
  dsimp only at h
  split at h
  case h_1 htype =>
    obtain ⟨low, hlow, h⟩ := except_bind_ok.mp h
    obtain ⟨high, hhigh, h⟩ := except_bind_ok.mp h
    obtain ⟨tick, htick, h⟩ := except_bind_ok.mp h
    cases h
    exact .price htype (numberOf_eq hlow) (numberOf_eq hhigh) (numberOf_eq htick)
  case h_2 htype =>
    obtain ⟨low, hlow, h⟩ := except_bind_ok.mp h
    obtain ⟨high, hhigh, h⟩ := except_bind_ok.mp h
    obtain ⟨step, hstep, h⟩ := except_bind_ok.mp h
    cases h
    exact .lot htype (numberOf_eq hlow) (numberOf_eq hhigh) (numberOf_eq hstep)
  case h_3 htype =>
    obtain ⟨low, hlow, h⟩ := except_bind_ok.mp h
    obtain ⟨high, hhigh, h⟩ := except_bind_ok.mp h
    obtain ⟨step, hstep, h⟩ := except_bind_ok.mp h
    cases h
    exact .marketLot htype (numberOf_eq hlow) (numberOf_eq hhigh) (numberOf_eq hstep)
  case h_4 htype =>
    obtain ⟨value, hvalue, h⟩ := except_bind_ok.mp h
    obtain ⟨applies, happlies, h⟩ := except_bind_ok.mp h
    obtain ⟨hpos, rfl⟩ := addMinNotional_ok h
    exact .minNotional htype (numberOf_eq hvalue) (flagOf_eq happlies) hpos
  case h_5 htype =>
    obtain ⟨low, hlow, h⟩ := except_bind_ok.mp h
    obtain ⟨appliesMin, hmin, h⟩ := except_bind_ok.mp h
    obtain ⟨added, hadded, h⟩ := except_bind_ok.mp h
    obtain ⟨-, h⟩ := except_guard_ok.mp h
    obtain ⟨high, hhigh, h⟩ := except_bind_ok.mp h
    obtain ⟨appliesMax, hmax, h⟩ := except_bind_ok.mp h
    obtain ⟨hpos, rfl⟩ := addMinNotional_ok hadded
    obtain ⟨hnonneg, rfl⟩ := addMaxNotional_ok h
    exact .notional htype (numberOf_eq hlow) (flagOf_eq hmin) hpos (numberOf_eq hhigh)
      (flagOf_eq hmax)
      hnonneg
  case h_6 htype =>
    obtain ⟨up, hup, h⟩ := except_bind_ok.mp h
    obtain ⟨down, hdown, h⟩ := except_bind_ok.mp h
    cases h
    exact .percent htype (numberOf_eq hup) (numberOf_eq hdown)
  case h_7 htype =>
    obtain ⟨bidUp, hbidUp, h⟩ := except_bind_ok.mp h
    obtain ⟨bidDown, hbidDown, h⟩ := except_bind_ok.mp h
    obtain ⟨askUp, haskUp, h⟩ := except_bind_ok.mp h
    obtain ⟨askDown, haskDown, h⟩ := except_bind_ok.mp h
    cases h
    exact .percentBySide htype (numberOf_eq hbidUp) (numberOf_eq hbidDown) (numberOf_eq haskUp)
      (numberOf_eq haskDown)
  case h_8 h1 h2 h3 h4 h5 h6 h7 =>
    cases h
    refine .other fun hmem => ?_
    simp only [knownTypes, List.mem_cons, List.not_mem_nil, or_false] at hmem
    obtain h | h | h | h | h | h | h := hmem
    exacts [h1 h, h2 h, h3 h, h4 h, h5 h, h6 h, h7 h]

/-! ### What a payload says -/

/-- A payload with at most one filter of a type. -/
def OnePerType (filters : List Json) : Prop := (filters.map filterTypeOf).Nodup

theorem proj_of_not_mem {α : Type} (proj : SymbolTradingRules → α) {filters : List Json}
    (hkeep : ∀ r g r', g ∈ filters → Parsed r g r' → proj r' = proj r)
    (h : filters.foldlM parseFilter rules = .ok rules') : proj rules' = proj rules := by
  induction filters generalizing rules with
  | nil => cases h; rfl
  | cons g filters ih =>
    rw [List.foldlM_cons] at h
    obtain ⟨mid, hg, h⟩ := except_bind_ok.mp h
    rw [ih (fun r k r' hk => hkeep r k r' (List.mem_cons_of_mem g hk)) h,
      hkeep rules g mid List.mem_cons_self (parseFilter_ok hg)]

/-- What filters of other types keep is what the filter of the type gave. -/
theorem proj_of_mem {α : Type} (proj : SymbolTradingRules → α) {filters : List Json}
    (hone : OnePerType filters) (hmem : filter ∈ filters)
    (hkeep : ∀ r g r', filterTypeOf g ≠ filterTypeOf filter → Parsed r g r' → proj r' = proj r)
    (h : filters.foldlM parseFilter rules = .ok rules') :
    ∃ r r', Parsed r filter r' ∧ proj r' = proj rules' := by
  induction filters generalizing rules with
  | nil => cases hmem
  | cons g filters ih =>
    rw [List.foldlM_cons] at h
    obtain ⟨mid, hg, h⟩ := except_bind_ok.mp h
    obtain ⟨hnot, hone⟩ := List.nodup_cons.mp hone
    cases List.mem_cons.mp hmem with
    | inl heq =>
      rw [← heq] at hg hnot
      have hother : ∀ r k r', k ∈ filters → Parsed r k r' → proj r' = proj r := fun r k r' hk =>
        hkeep r k r' fun htype => hnot (List.mem_map.mpr ⟨k, hk, htype⟩)
      exact ⟨rules, mid, parseFilter_ok hg, (proj_of_not_mem proj hother h).symm⟩
    | inr hmem => exact ih hone hmem h

/-! ### Notional bounds -/

/-- `min_notional`: the largest minimum. -/
def SymbolTradingRules.minNotional (rules : SymbolTradingRules) : ℚ :=
  (rules.minNotionalConstraints.map fun m => m.1.toRat).foldl max 0

/-- `max_notional`: the smallest maximum, zero if there is none. -/
def SymbolTradingRules.maxNotional (rules : SymbolTradingRules) : ℚ :=
  ((rules.maxNotionalConstraints.map fun m => m.1.toRat).min?).getD 0

/-- The constraints that apply to market orders. -/
def applicable (constraints : List (Decimal × Bool)) : List ℚ :=
  (constraints.filter (·.2)).map fun m => m.1.toRat

/-- `min_notional_for` -/
def SymbolTradingRules.minNotionalFor (rules : SymbolTradingRules) (orderType : String) : ℚ :=
  if Text.upper orderType ≠ "MARKET" ∨ rules.minNotionalConstraints = [] then rules.minNotional
  else (applicable rules.minNotionalConstraints).max?.getD 0

/-- `max_notional_for` -/
def SymbolTradingRules.maxNotionalFor (rules : SymbolTradingRules) (orderType : String) : ℚ :=
  if Text.upper orderType ≠ "MARKET" ∨ rules.maxNotionalConstraints = [] then rules.maxNotional
  else (applicable rules.maxNotionalConstraints).min?.getD 0

/-- An order of this type is held to the constraint. -/
def AppliesTo (orderType : String) (m : Decimal × Bool) : Prop :=
  Text.upper orderType = "MARKET" → m.2 = true

theorem mem_applicable {constraints : List (Decimal × Bool)} {m : Decimal × Bool}
    (hmem : m ∈ constraints) (happlies : m.2 = true) : m.1.toRat ∈ applicable constraints :=
  List.mem_map.mpr ⟨m, List.mem_filter.mpr ⟨hmem, happlies⟩, rfl⟩

theorem le_foldl_max {xs : List ℚ} {x : ℚ} (hx : x ∈ xs) (b : ℚ) : x ≤ xs.foldl max b := by
  have hstart : ∀ (ys : List ℚ) (b : ℚ), b ≤ ys.foldl max b := by
    intro ys
    induction ys with
    | nil => exact le_refl
    | cons y ys ih => exact fun b => (le_max_left b y).trans (ih (max b y))
  induction xs generalizing b with
  | nil => cases hx
  | cons y ys ih =>
    cases List.mem_cons.mp hx with
    | inl heq => exact heq ▸ (le_max_right b y).trans (hstart ys (max b y))
    | inr hx => exact ih hx (max b y)

/-- The minimum of an order type is at least every minimum the type is held to. -/
theorem le_minNotionalFor {orderType : String} {m : Decimal × Bool}
    (hmem : m ∈ rules.minNotionalConstraints) (happlies : AppliesTo orderType m) :
    m.1.toRat ≤ rules.minNotionalFor orderType := by
  unfold SymbolTradingRules.minNotionalFor
  split_ifs with hkind
  · exact le_foldl_max (List.mem_map.mpr ⟨m, hmem, rfl⟩) 0
  · push Not at hkind
    have hin := mem_applicable hmem (happlies hkind.1)
    obtain ⟨top, htop⟩ := Option.isSome_iff_exists.mp (List.isSome_max?_of_mem hin)
    rw [htop]
    exact (List.max?_eq_some_iff.mp htop).2 _ hin

/-- The maximum of an order type is at most every maximum the type is held to, and none of them is
taken for the lack of one. -/
theorem maxNotionalFor_le {orderType : String} {m : Decimal × Bool}
    (hpos : ∀ m ∈ rules.maxNotionalConstraints, 0 < m.1.toRat)
    (hmem : m ∈ rules.maxNotionalConstraints) (happlies : AppliesTo orderType m) :
    0 < rules.maxNotionalFor orderType ∧ rules.maxNotionalFor orderType ≤ m.1.toRat := by
  have hleast : ∀ xs : List ℚ, (∀ x ∈ xs, 0 < x) → m.1.toRat ∈ xs →
      0 < xs.min?.getD 0 ∧ xs.min?.getD 0 ≤ m.1.toRat := by
    intro xs hxs hin
    obtain ⟨least, hleast⟩ := Option.isSome_iff_exists.mp (List.isSome_min?_of_mem hin)
    rw [hleast]
    obtain ⟨hmem, hle⟩ := List.min?_eq_some_iff.mp hleast
    exact ⟨hxs least hmem, hle _ hin⟩
  unfold SymbolTradingRules.maxNotionalFor
  split_ifs with hkind
  · refine hleast _ ?_ (List.mem_map.mpr ⟨m, hmem, rfl⟩)
    intro x hx
    obtain ⟨k, hk, rfl⟩ := List.mem_map.mp hx
    exact hpos k hk
  · push Not at hkind
    refine hleast _ ?_ (mem_applicable hmem (happlies hkind.1))
    intro x hx
    obtain ⟨k, hk, rfl⟩ := List.mem_map.mp hx
    exact hpos k (List.mem_filter.mp hk).1

theorem mem_of_applicable {constraints : List (Decimal × Bool)} {x : ℚ}
    (h : x ∈ applicable constraints) : ∃ m ∈ constraints, m.2 = true ∧ m.1.toRat = x := by
  obtain ⟨m, hm, rfl⟩ := List.mem_map.mp h
  exact ⟨m, (List.mem_filter.mp hm).1, (List.mem_filter.mp hm).2, rfl⟩

variable (rules) in
/-- The minimum of a market order is none, or one that applies. -/
theorem minNotionalFor_market {orderType : String} (hmarket : Text.upper orderType = "MARKET") :
    rules.minNotionalFor orderType = 0 ∨ ∃ m ∈ rules.minNotionalConstraints, m.2 = true ∧
      m.1.toRat = rules.minNotionalFor orderType := by
  unfold SymbolTradingRules.minNotionalFor
  split_ifs with hkind
  · refine .inl ?_
    rw [SymbolTradingRules.minNotional, hkind.resolve_left (not_not.mpr hmarket)]
    rfl
  · cases hmax : (applicable rules.minNotionalConstraints).max? with
    | none => exact .inl rfl
    | some top => exact .inr (mem_of_applicable (List.max?_eq_some_iff.mp hmax).1)

variable (rules) in
/-- The maximum of a market order is none, or one that applies. -/
theorem maxNotionalFor_market {orderType : String} (hmarket : Text.upper orderType = "MARKET") :
    rules.maxNotionalFor orderType = 0 ∨ ∃ m ∈ rules.maxNotionalConstraints, m.2 = true ∧
      m.1.toRat = rules.maxNotionalFor orderType := by
  unfold SymbolTradingRules.maxNotionalFor
  split_ifs with hkind
  · refine .inl ?_
    rw [SymbolTradingRules.maxNotional, hkind.resolve_left (not_not.mpr hmarket)]
    rfl
  · cases hmin : (applicable rules.maxNotionalConstraints).min? with
    | none => exact .inl rfl
    | some least => exact .inr (mem_of_applicable (List.min?_eq_some_iff.mp hmin).1)

/-! ### Percent-price bands -/

/-- `_valid_multiplier` -/
def validMultiplier (value : Option Decimal) : Bool := value.any fun d => 0 < d.toRat

/-- Two multipliers that are valid and in order. -/
def validBand (down up : Option Decimal) : Bool :=
  validMultiplier up && validMultiplier down &&
    match down, up with
    | some down, some up => down.toRat ≤ up.toRat
    | _, _ => false

/-- The filter was in the payload. -/
def SymbolTradingRules.seen (rules : SymbolTradingRules) (filterType : String) : Bool :=
  rules.seenFilterTypes.contains filterType

/-- `has_percent_price_filter` -/
def SymbolTradingRules.hasPercentPriceFilter (rules : SymbolTradingRules) : Bool :=
  rules.seen "PERCENT_PRICE" || rules.seen "PERCENT_PRICE_BY_SIDE"

/-- `_percent_price_rules_ready` -/
def SymbolTradingRules.percentPriceRulesReady (rules : SymbolTradingRules) : Bool :=
  (!rules.seen "PERCENT_PRICE" ||
    validBand rules.percentPriceMultiplierDown rules.percentPriceMultiplierUp) &&
  (!rules.seen "PERCENT_PRICE_BY_SIDE" ||
    validBand rules.percentPriceBidMultiplierDown rules.percentPriceBidMultiplierUp &&
      validBand rules.percentPriceAskMultiplierDown rules.percentPriceAskMultiplierUp)

section

variable (c : Context)

/-- The lower and the upper bound of a price, the upper one if there is any. -/
structure Band where
  lower : ℚ := 0
  upper : Option ℚ := none

/-- `intersect` -/
def Band.intersect (band : Band) (reference : ℚ) (down up : Option Decimal) : Band :=
  match down, up with
  | some down, some up =>
    let candidate := c.mul reference up.toRat
    { lower := max band.lower (c.mul reference down.toRat)
      upper := some (match band.upper with
        | none => candidate
        | some upper => min upper candidate) }
  | _, _ => band

/-- The band of a side. -/
def SymbolTradingRules.band (rules : SymbolTradingRules) (side : OrderSide) (reference : ℚ) :
    Band :=
  let band : Band := {}
  let band := if rules.seen "PERCENT_PRICE" then
    band.intersect c reference rules.percentPriceMultiplierDown rules.percentPriceMultiplierUp
      else band
  if rules.seen "PERCENT_PRICE_BY_SIDE" then
    match side with
    | .buy =>
      band.intersect c reference rules.percentPriceBidMultiplierDown
        rules.percentPriceBidMultiplierUp
    | .sell =>
      band.intersect c reference rules.percentPriceAskMultiplierDown
        rules.percentPriceAskMultiplierUp
  else band

/-- `validate_percent_price` -/
def SymbolTradingRules.validatePercentPrice (rules : SymbolTradingRules) (price : ℚ)
    (side : OrderSide) (referencePrice : Option ℚ) : Except String Unit := do
  if !rules.hasPercentPriceFilter then return ()
  else
    if !rules.percentPriceRulesReady then throw "percent-price filter data is incomplete"
    match referencePrice with
    | none => throw "percent-price reference is unavailable"
    | some reference => do
      if reference ≤ 0 then throw "percent-price reference is unavailable"
      let band := rules.band c side reference
      if price < band.lower ∨ band.upper.any (fun upper => upper < price) then
        throw "price is outside Binance percent-price band"

/-- The price is within the band. -/
def Band.Contains (band : Band) (price : ℚ) : Prop :=
  band.lower ≤ price ∧ ∀ upper ∈ band.upper, price ≤ upper

variable {c}

/-- A price within an intersection is within the band and between the bounds of the filter. -/
theorem Band.contains_intersect {band : Band} {reference price : ℚ} {down up : Decimal}
    (h : (band.intersect c reference (some down) (some up)).Contains price) :
    band.Contains price ∧ c.mul reference down.toRat ≤ price ∧
    price ≤ c.mul reference up.toRat := by
  obtain ⟨hlower, hupper⟩ := h
  have hle := max_le_iff.mp hlower
  cases hband : band.upper with
  | none =>
    rw [Band.intersect, hband] at hupper
    refine ⟨⟨hle.1, ?_⟩, hle.2, hupper _ rfl⟩
    rw [hband]
    exact fun _ h => nomatch h
  | some upper =>
    rw [Band.intersect, hband] at hupper
    have hmin := le_min_iff.mp (hupper _ rfl)
    refine ⟨⟨hle.1, ?_⟩, hle.2, hmin.2⟩
    rw [hband]
    intro u hu
    cases hu
    exact hmin.1

/-- A price that passes the percent-price filters is in their band around a positive reference. -/
theorem validatePercentPrice_ok {side : OrderSide} {price : ℚ} {reference : Option ℚ}
    (h : rules.validatePercentPrice c price side reference = .ok ())
    (hhas : rules.hasPercentPriceFilter = true) :
    ∃ r, reference = some r ∧ 0 < r ∧ (rules.band c side r).Contains price := by
  unfold SymbolTradingRules.validatePercentPrice at h
  rw [hhas, if_neg (by decide)] at h
  obtain ⟨-, h⟩ := except_guard_ok.mp h
  cases reference with
  | none => cases h
  | some r =>
    obtain ⟨hr, h⟩ := except_guard_ok.mp h
    have hband := except_check_ok.mp h
    push Not at hband
    refine ⟨r, rfl, not_le.mp hr, hband.1, ?_⟩
    intro upper hupper
    have hnot := hband.2
    rw [Option.mem_def.mp hupper] at hnot
    simpa using hnot

variable (c)

/-! ### Readiness -/

/-- The bounds of a range: the lower one positive, the upper one not below it. -/
def validRange (low high : Decimal) : Bool := 0 < low.toRat && low.toRat ≤ high.toRat

/-- The market lot size, if the exchange gave one. -/
def SymbolTradingRules.marketLotReady (rules : SymbolTradingRules) : Bool :=
  match rules.marketStepSize, rules.marketMinQty, rules.marketMaxQty with
  | some step, some minQty, some maxQty => 0 < step.toRat && validRange minQty maxQty
  | _, _, _ => false

/-- `is_ready_for` -/
def SymbolTradingRules.isReadyFor (rules : SymbolTradingRules) (orderType : String) : Bool :=
  let normalizedType := Text.upper orderType
  let required := rules.status == "TRADING" && 0 < rules.tickSize.toRat &&
    (!rules.parsedFromExchangeInfo || validRange rules.minPrice rules.maxPrice) &&
    0 < rules.stepSize.toRat && validRange rules.minQty rules.maxQty && 0 < rules.minNotional
  required &&
    (!rules.parsedFromExchangeInfo ||
      rules.seen "PRICE_FILTER" && rules.seen "LOT_SIZE" &&
        (rules.seen "MIN_NOTIONAL" || rules.seen "NOTIONAL") &&
        (!(normalizedType == "MARKET" && rules.seen "MARKET_LOT_SIZE") || rules.marketLotReady) &&
        rules.percentPriceRulesReady && !rules.supportedOrderTypes.isEmpty) &&
    (rules.supportedOrderTypes.isEmpty || rules.supportedOrderTypes.contains normalizedType)

theorem isReadyFor_ok {orderType : String} (h : rules.isReadyFor orderType = true)
    (hparsed : rules.parsedFromExchangeInfo = true) :
    0 < rules.tickSize.toRat ∧ 0 < rules.stepSize.toRat ∧
    validRange rules.minQty rules.maxQty = true ∧
      rules.seen "PRICE_FILTER" = true ∧ rules.seen "LOT_SIZE" = true ∧
      (Text.upper orderType = "MARKET" → rules.seen "MARKET_LOT_SIZE" = true →
        rules.marketLotReady = true) := by
  unfold SymbolTradingRules.isReadyFor at h
  rw [hparsed] at h
  simp only [Bool.and_eq_true, Bool.or_eq_true, Bool.not_eq_true', Bool.not_true,
    Bool.false_eq_true, false_or, decide_eq_true_eq, beq_iff_eq, Bool.and_eq_false_iff] at h
  obtain ⟨⟨⟨⟨⟨⟨⟨-, htick⟩, -⟩, hstep⟩, hrange⟩, -⟩, ⟨⟨⟨⟨hprice, hlot⟩, -⟩, hmarket⟩, -⟩, -⟩, -⟩ := h
  refine ⟨htick, hstep, hrange, hprice, hlot, fun htype hseen => ?_⟩
  rw [htype, hseen] at hmarket
  simpa using hmarket

/-! ### Normalization -/

/-- `int(q)` -/
def truncate (q : ℚ) : ℤ := if 0 ≤ q then ⌊q⌋ else ⌈q⌉

/-- A market size, or the size for every order:
`market_size if is_market and market_size else size`. -/
def sizeFor (isMarket : Bool) (marketSize : Option Decimal) (size : Decimal) : ℚ :=
  match marketSize with
  | some d => if isMarket = true ∧ d.toRat ≠ 0 then d.toRat else size.toRat
  | none => size.toRat

/-- `normalize_quantity` -/
def SymbolTradingRules.normalizeQuantity (rules : SymbolTradingRules) (quantity : ℚ)
    (isMarket : Bool) : ℚ :=
  let step := sizeFor isMarket rules.marketStepSize rules.stepSize
  if step = 0 then quantity
  else if quantity ≤ 0 then 0
  else c.mul (truncate (c.div quantity step)) step

/-- `normalize_price` -/
def SymbolTradingRules.normalizePrice (rules : SymbolTradingRules) (price : ℚ) (roundUp : Bool) :
    ℚ :=
  let tick := rules.tickSize.toRat
  if tick = 0 then price
  else if price ≤ 0 then 0
  else
    let steps := truncate (c.div price tick)
    let steps := if roundUp = true ∧ c.mul steps tick < price then steps + 1 else steps
    c.mul steps tick

variable (rules) in
/-- In exact arithmetic a quantity is rounded down to a multiple of the step. -/
theorem normalizeQuantity_exact {quantity : ℚ} (isMarket : Bool)
    (hstep : 0 < sizeFor isMarket rules.marketStepSize rules.stepSize) (hquantity : 0 < quantity) :
    ∃ n : ℕ, rules.normalizeQuantity .exact quantity isMarket =
        n * sizeFor isMarket rules.marketStepSize rules.stepSize ∧
      n * sizeFor isMarket rules.marketStepSize rules.stepSize ≤ quantity ∧
      quantity < n * sizeFor isMarket rules.marketStepSize rules.stepSize +
        sizeFor isMarket rules.marketStepSize rules.stepSize := by
  set step := sizeFor isMarket rules.marketStepSize rules.stepSize with hdef
  have hnonneg : 0 ≤ quantity / step := (div_pos hquantity hstep).le
  obtain ⟨n, hn⟩ := Int.eq_ofNat_of_zero_le (Int.floor_nonneg.mpr hnonneg)
  have hcast : ((⌊quantity / step⌋ : ℤ) : ℚ) = n := by rw [hn]; simp
  refine ⟨n, ?_, ?_, ?_⟩
  · rw [SymbolTradingRules.normalizeQuantity, ← hdef]
    simp [hstep.ne', hquantity, truncate, hnonneg, hcast]
  · have hfloor := Int.floor_le (quantity / step)
    rwa [hcast, le_div_iff₀ hstep] at hfloor
  · have hfloor := Int.lt_floor_add_one (quantity / step)
    rw [hcast, div_lt_iff₀ hstep] at hfloor
    linarith

variable (rules) in
/-- In exact arithmetic a price is rounded down, or up, to a multiple of the tick. -/
theorem normalizePrice_exact {price : ℚ} (roundUp : Bool) (htick : 0 < rules.tickSize.toRat)
    (hprice : 0 < price) :
    ∃ n : ℕ, rules.normalizePrice .exact price roundUp = n * rules.tickSize.toRat ∧
      match roundUp with
      | false => n * rules.tickSize.toRat ≤ price ∧
        price < n * rules.tickSize.toRat + rules.tickSize.toRat
      | true => price ≤ n * rules.tickSize.toRat ∧
        n * rules.tickSize.toRat < price + rules.tickSize.toRat := by
  set tick := rules.tickSize.toRat with hdef
  have hnonneg : 0 ≤ price / tick := (div_pos hprice htick).le
  obtain ⟨n, hn⟩ := Int.eq_ofNat_of_zero_le (Int.floor_nonneg.mpr hnonneg)
  have hcast : ((⌊price / tick⌋ : ℤ) : ℚ) = n := by rw [hn]; simp
  have hle : n * tick ≤ price := by
    have hfloor := Int.floor_le (price / tick)
    rwa [hcast, le_div_iff₀ htick] at hfloor
  have hlt : price < n * tick + tick := by
    have hfloor := Int.lt_floor_add_one (price / tick)
    rw [hcast, div_lt_iff₀ htick] at hfloor
    linarith
  cases roundUp with
  | false =>
    refine ⟨n, ?_, hle, hlt⟩
    rw [SymbolTradingRules.normalizePrice, ← hdef]
    simp [htick.ne', hprice, truncate, hnonneg, hcast]
  | true =>
    by_cases hexact : n * tick < price
    · refine ⟨n + 1, ?_, ?_, ?_⟩
      · rw [SymbolTradingRules.normalizePrice, ← hdef]
        simp [htick.ne', hprice, truncate, hnonneg, hcast, hexact]
      · push_cast
        linarith
      · push_cast
        linarith
    · refine ⟨n, ?_, not_lt.mp hexact, by linarith⟩
      rw [SymbolTradingRules.normalizePrice, ← hdef]
      simp [htick.ne', hprice, truncate, hnonneg, hcast, hexact]

end

end Blessing.Binance.SymbolRules
