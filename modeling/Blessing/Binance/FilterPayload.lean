import Blessing.Binance.SymbolRules

/-! # What a symbol payload says

The rules parsed from an `exchangeInfo` symbol, field by field, in terms of the filters of the
payload. The types that were seen and the notional constraints are lists over all filters; the other
fields come from the one filter of their type. -/

namespace Blessing.Binance.FilterPayload

open Blessing.Lib Blessing.Lib.Values Blessing.Lib.Effects
open Blessing.Binance.SymbolRules
open Blessing.Binance.Models (OrderSide)

/-- The minimum notional a filter gives, and whether it applies to market orders. -/
def minimumOf (filter : Json) : Option (Decimal × Bool) :=
  match filterTypeOf filter with
  | "MIN_NOTIONAL" => do
    return (← numberOf filter ["notional", "minNotional"], ← flagOf filter "applyToMarket")
  | "NOTIONAL" => do
    return (← numberOf filter ["minNotional", "notional"], ← flagOf filter "applyMinToMarket")
  | _ => none

/-- The maximum notional a filter gives, unless it is zero. -/
def maximumOf (filter : Json) : Option (Decimal × Bool) :=
  match filterTypeOf filter with
  | "NOTIONAL" => do
    let value ← numberOf filter ["maxNotional"]
    let applies ← flagOf filter "applyMaxToMarket"
    if value.toRat = 0 then none else return (value, applies)
  | _ => none

theorem mem_minimumOf {filter : Json} {m : Decimal × Bool} (h : m ∈ minimumOf filter) :
    (filterTypeOf filter = "MIN_NOTIONAL" ∧ numberOf filter ["notional", "minNotional"] = some m.1 ∧
      flagOf filter "applyToMarket" = some m.2) ∨
    (filterTypeOf filter = "NOTIONAL" ∧ numberOf filter ["minNotional", "notional"] = some m.1 ∧
      flagOf filter "applyMinToMarket" = some m.2) := by
  unfold minimumOf at h
  split at h
  case h_1 htype =>
    obtain ⟨value, hvalue, h⟩ := Option.bind_eq_some_iff.mp h
    obtain ⟨applies, happlies, h⟩ := Option.bind_eq_some_iff.mp h
    cases h
    exact .inl ⟨htype, hvalue, happlies⟩
  case h_2 htype =>
    obtain ⟨value, hvalue, h⟩ := Option.bind_eq_some_iff.mp h
    obtain ⟨applies, happlies, h⟩ := Option.bind_eq_some_iff.mp h
    cases h
    exact .inr ⟨htype, hvalue, happlies⟩
  case h_3 => cases h

theorem mem_maximumOf {filter : Json} {m : Decimal × Bool} (h : m ∈ maximumOf filter) :
    filterTypeOf filter = "NOTIONAL" ∧ numberOf filter ["maxNotional"] = some m.1 ∧
      flagOf filter "applyMaxToMarket" = some m.2 := by
  unfold maximumOf at h
  split at h
  case h_1 htype =>
    obtain ⟨value, hvalue, h⟩ := Option.bind_eq_some_iff.mp h
    obtain ⟨applies, happlies, h⟩ := Option.bind_eq_some_iff.mp h
    split_ifs at h
    cases h
    exact ⟨htype, hvalue, happlies⟩
  case h_2 => cases h

/-! ### One filter -/

section Step

variable {rules rules' : SymbolTradingRules} {filter : Json}

theorem minimumOf_unknown (htype : filterTypeOf filter ∉ knownTypes) : minimumOf filter = none := by
  unfold minimumOf
  split
  case h_1 h => exact absurd (by rw [h]; decide) htype
  case h_2 h => exact absurd (by rw [h]; decide) htype
  case h_3 => rfl

theorem maximumOf_unknown (htype : filterTypeOf filter ∉ knownTypes) : maximumOf filter = none := by
  unfold maximumOf
  split
  case h_1 h => exact absurd (by rw [h]; decide) htype
  case h_2 => rfl

theorem maximumOf_notional {value : Decimal} {applies : Bool}
    (htype : filterTypeOf filter = "NOTIONAL")
    (hvalue : numberOf filter ["maxNotional"] = some value)
    (happlies : flagOf filter "applyMaxToMarket" = some applies) :
    maximumOf filter = if value.toRat = 0 then none else some (value, applies) := by
  simp only [maximumOf, htype, hvalue, happlies, Option.bind_eq_bind, Option.bind_some]
  rfl

/-- What a step does to the fields that are lists, and to the one no filter touches. -/
theorem parsed_lists (h : Parsed rules filter rules') :
    rules'.seenFilterTypes = rules.seenFilterTypes ++ [filterTypeOf filter] ∧
      rules'.minNotionalConstraints = rules.minNotionalConstraints ++ (minimumOf filter).toList ∧
      rules'.maxNotionalConstraints = rules.maxNotionalConstraints ++ (maximumOf filter).toList ∧
      rules'.parsedFromExchangeInfo = rules.parsedFromExchangeInfo := by
  cases h with
  | price htype => simp [SymbolTradingRules.see, minimumOf, maximumOf, htype]
  | lot htype => simp [SymbolTradingRules.see, minimumOf, maximumOf, htype]
  | marketLot htype => simp [SymbolTradingRules.see, minimumOf, maximumOf, htype]
  | minNotional htype hvalue happlies =>
    simp [SymbolTradingRules.see, minimumOf, maximumOf, htype, hvalue, happlies]
  | notional htype hlow hmin hpos hhigh hmax hnonneg =>
    refine ⟨rfl, ?_, ?_, rfl⟩
    · simp [minimumOf, htype, hlow, hmin]
    · rw [maximumOf_notional htype hhigh hmax]
      split_ifs <;> rfl
  | percent htype => simp [SymbolTradingRules.see, minimumOf, maximumOf, htype]
  | percentBySide htype => simp [SymbolTradingRules.see, minimumOf, maximumOf, htype]
  | other htype =>
    simp [SymbolTradingRules.see, minimumOf_unknown htype, maximumOf_unknown htype]

/-- The minimum and the maximum of a filter that is parsed are positive. -/
theorem parsed_positive (h : Parsed rules filter rules') :
    (∀ m ∈ minimumOf filter, 0 < m.1.toRat) ∧ ∀ m ∈ maximumOf filter, 0 < m.1.toRat := by
  cases h with
  | price htype => simp [minimumOf, maximumOf, htype]
  | lot htype => simp [minimumOf, maximumOf, htype]
  | marketLot htype => simp [minimumOf, maximumOf, htype]
  | minNotional htype hvalue happlies hpos =>
    simp [minimumOf, maximumOf, htype, hvalue, happlies, hpos]
  | notional htype hlow hmin hpos hhigh hmax hnonneg =>
    constructor
    · simp [minimumOf, htype, hlow, hmin, hpos]
    · intro m hm
      rw [maximumOf_notional htype hhigh hmax] at hm
      split_ifs at hm with hzero
      · cases hm
      · cases hm
        exact lt_of_le_of_ne hnonneg (Ne.symm hzero)
  | percent htype => simp [minimumOf, maximumOf, htype]
  | percentBySide htype => simp [minimumOf, maximumOf, htype]
  | other htype => simp [minimumOf_unknown htype, maximumOf_unknown htype]

end Step

/-! ### All filters -/

section Fold

variable {rules rules' : SymbolTradingRules} {filters : List Json}

theorem fold_lists (h : filters.foldlM parseFilter rules = .ok rules') :
    rules'.seenFilterTypes = rules.seenFilterTypes ++ filters.map filterTypeOf ∧
      rules'.minNotionalConstraints = rules.minNotionalConstraints ++ filters.filterMap minimumOf ∧
      rules'.maxNotionalConstraints = rules.maxNotionalConstraints ++ filters.filterMap maximumOf ∧
      rules'.parsedFromExchangeInfo = rules.parsedFromExchangeInfo := by
  induction filters generalizing rules with
  | nil =>
    cases h
    simp
  | cons filter filters ih =>
    rw [List.foldlM_cons] at h
    obtain ⟨mid, hfilter, h⟩ := except_bind_ok.mp h
    obtain ⟨hseen, hmin, hmax, hparsed⟩ := parsed_lists (parseFilter_ok hfilter)
    obtain ⟨hseen', hmin', hmax', hparsed'⟩ := ih h
    rw [hseen', hmin', hmax', hparsed', hseen, hmin, hmax]
    refine ⟨by simp, ?_, ?_, hparsed⟩
    · cases hm : minimumOf filter <;> simp [hm]
    · cases hm : maximumOf filter <;> simp [hm]

theorem parsed_of_mem {filter : Json} (h : filters.foldlM parseFilter rules = .ok rules')
    (hmem : filter ∈ filters) : ∃ r r', Parsed r filter r' := by
  induction filters generalizing rules with
  | nil => cases hmem
  | cons g filters ih =>
    rw [List.foldlM_cons] at h
    obtain ⟨mid, hg, h⟩ := except_bind_ok.mp h
    cases List.mem_cons.mp hmem with
    | inl heq => exact ⟨rules, mid, heq ▸ parseFilter_ok hg⟩
    | inr hmem => exact ih h hmem

end Fold

/-! ### A payload -/

section Payload

variable {symbolData filter : Json} {rules : SymbolTradingRules} {filters : List Json}

/-- The rules of a payload are what its filters make of its header, but for the precisions. -/
theorem parse_ok (hparse : parseExchangeInfo symbolData = .ok rules)
    (hfilters : filtersOf symbolData = .ok filters) :
    ∃ header parsed, parseHeader symbolData = .ok header ∧
      filters.foldlM parseFilter header = .ok parsed ∧
      rules = { parsed with
        pricePrecision := some (parsed.pricePrecision.getD (decimalPlaces parsed.tickSize))
        quantityPrecision :=
          some (parsed.quantityPrecision.getD (decimalPlaces parsed.stepSize)) } := by
  unfold parseExchangeInfo at hparse
  obtain ⟨header, hheader, h⟩ := except_bind_ok.mp hparse
  obtain ⟨filters', hfilters', h⟩ := except_bind_ok.mp h
  obtain ⟨parsed, hfold, h⟩ := except_bind_ok.mp h
  cases h
  rw [← Except.ok.inj (hfilters.symm.trans hfilters')] at hfold
  exact ⟨header, parsed, hheader, hfold, rfl⟩

theorem header_fresh {header : SymbolTradingRules} (h : parseHeader symbolData = .ok header) :
    header.seenFilterTypes = [] ∧ header.minNotionalConstraints = [] ∧
      header.maxNotionalConstraints = [] ∧ header.parsedFromExchangeInfo = true ∧
      header.marketMinQty = none ∧ header.marketMaxQty = none ∧ header.marketStepSize = none := by
  unfold parseHeader at h
  obtain ⟨-, h⟩ := except_guard_ok.mp h
  obtain ⟨orderTypes, -, h⟩ := except_bind_ok.mp h
  obtain ⟨pricePrecision, -, h⟩ := except_bind_ok.mp h
  obtain ⟨quantityPrecision, -, h⟩ := except_bind_ok.mp h
  cases h
  exact ⟨rfl, rfl, rfl, rfl, rfl, rfl, rfl⟩

theorem rules_lists (hparse : parseExchangeInfo symbolData = .ok rules)
    (hfilters : filtersOf symbolData = .ok filters) :
    rules.seenFilterTypes = filters.map filterTypeOf ∧
      rules.minNotionalConstraints = filters.filterMap minimumOf ∧
      rules.maxNotionalConstraints = filters.filterMap maximumOf ∧
      rules.parsedFromExchangeInfo = true := by
  obtain ⟨header, parsed, hheader, hfold, rfl⟩ := parse_ok hparse hfilters
  obtain ⟨hseen, hmin, hmax, hparsed⟩ := fold_lists hfold
  obtain ⟨hseen', hmin', hmax', hparsed', -⟩ := header_fresh hheader
  exact ⟨by simpa [hseen'] using hseen, by simpa [hmin'] using hmin, by simpa [hmax'] using hmax,
    hparsed.trans hparsed'⟩

theorem seen_iff (hparse : parseExchangeInfo symbolData = .ok rules)
    (hfilters : filtersOf symbolData = .ok filters) (filterType : String) :
    rules.seen filterType = true ↔ ∃ f ∈ filters, filterTypeOf f = filterType := by
  rw [SymbolTradingRules.seen, (rules_lists hparse hfilters).1]
  simp

/-- The fields a filter type gives are those of the filter of that type. -/
theorem field_of_mem {α : Type} (proj : SymbolTradingRules → α)
    (hprecision : ∀ r p q, proj { r with pricePrecision := p, quantityPrecision := q } = proj r)
    (hkeep : ∀ r g r', filterTypeOf g ≠ filterTypeOf filter → Parsed r g r' → proj r' = proj r)
    (hparse : parseExchangeInfo symbolData = .ok rules)
    (hfilters : filtersOf symbolData = .ok filters) (hone : OnePerType filters)
    (hmem : filter ∈ filters) :
    ∃ r r', Parsed r filter r' ∧ proj r' = proj rules := by
  obtain ⟨header, parsed, -, hfold, rfl⟩ := parse_ok hparse hfilters
  obtain ⟨r, r', hstep, heq⟩ := proj_of_mem proj hone hmem hkeep hfold
  exact ⟨r, r', hstep, heq.trans (hprecision parsed _ _).symm⟩

variable (hparse : parseExchangeInfo symbolData = .ok rules)
    (hfilters : filtersOf symbolData = .ok filters) (hone : OnePerType filters)
    (hmem : filter ∈ filters)

include hparse hfilters hone hmem

theorem priceFilter_of_mem (htype : filterTypeOf filter = "PRICE_FILTER") :
    numberOf filter ["minPrice"] = some rules.minPrice ∧
      numberOf filter ["maxPrice"] = some rules.maxPrice ∧
      numberOf filter ["tickSize"] = some rules.tickSize := by
  obtain ⟨r, r', hstep, heq⟩ := field_of_mem (fun r => (r.minPrice, r.maxPrice, r.tickSize))
    (fun _ _ _ => rfl) (fun r g r' hne hg => by cases hg <;> first | rfl | simp_all)
    hparse hfilters hone hmem
  cases hstep with
  | price _ hlow hhigh htick =>
    cases heq
    exact ⟨hlow, hhigh, htick⟩
  | other hunknown => exact absurd (by rw [htype]; decide) hunknown
  | _ => simp_all

theorem lotSize_of_mem (htype : filterTypeOf filter = "LOT_SIZE") :
    numberOf filter ["minQty"] = some rules.minQty ∧
      numberOf filter ["maxQty"] = some rules.maxQty ∧
      numberOf filter ["stepSize"] = some rules.stepSize := by
  obtain ⟨r, r', hstep, heq⟩ := field_of_mem (fun r => (r.minQty, r.maxQty, r.stepSize))
    (fun _ _ _ => rfl) (fun r g r' hne hg => by cases hg <;> first | rfl | simp_all)
    hparse hfilters hone hmem
  cases hstep with
  | lot _ hlow hhigh hstep =>
    cases heq
    exact ⟨hlow, hhigh, hstep⟩
  | other hunknown => exact absurd (by rw [htype]; decide) hunknown
  | _ => simp_all

theorem marketLotSize_of_mem (htype : filterTypeOf filter = "MARKET_LOT_SIZE") :
    ∃ low high step, numberOf filter ["minQty"] = some low ∧ rules.marketMinQty = some low ∧
      numberOf filter ["maxQty"] = some high ∧ rules.marketMaxQty = some high ∧
      numberOf filter ["stepSize"] = some step ∧ rules.marketStepSize = some step := by
  obtain ⟨r, r', hstep, heq⟩ :=
    field_of_mem (fun r => (r.marketMinQty, r.marketMaxQty, r.marketStepSize))
      (fun _ _ _ => rfl) (fun r g r' hne hg => by cases hg <;> first | rfl | simp_all)
      hparse hfilters hone hmem
  obtain ⟨hmin, hmax, hsize⟩ : _ ∧ _ ∧ _ := by simpa only [Prod.mk.injEq] using heq
  cases hstep with
  | marketLot _ hlow hhigh hstep =>
    exact ⟨_, _, _, hlow, hmin.symm, hhigh, hmax.symm, hstep, hsize.symm⟩
  | other hunknown => exact absurd (by rw [htype]; decide) hunknown
  | _ => simp_all

theorem percentPrice_of_mem (htype : filterTypeOf filter = "PERCENT_PRICE") :
    ∃ down up, numberOf filter ["multiplierDown"] = some down ∧
      rules.percentPriceMultiplierDown = some down ∧ numberOf filter ["multiplierUp"] = some up ∧
      rules.percentPriceMultiplierUp = some up := by
  obtain ⟨r, r', hstep, heq⟩ :=
    field_of_mem (fun r => (r.percentPriceMultiplierDown, r.percentPriceMultiplierUp))
      (fun _ _ _ => rfl) (fun r g r' hne hg => by cases hg <;> first | rfl | simp_all)
      hparse hfilters hone hmem
  obtain ⟨hdowns, hups⟩ : _ ∧ _ := by simpa only [Prod.mk.injEq] using heq
  cases hstep with
  | percent _ hup hdown => exact ⟨_, _, hdown, hdowns.symm, hup, hups.symm⟩
  | other hunknown => exact absurd (by rw [htype]; decide) hunknown
  | _ => simp_all

/-- The names of the multipliers of a side. -/
def sideNames : OrderSide → String × String
  | .buy => ("bidMultiplierDown", "bidMultiplierUp")
  | .sell => ("askMultiplierDown", "askMultiplierUp")

/-- The multipliers of a side. -/
def sideMultipliers (rules : SymbolTradingRules) : OrderSide → Option Decimal × Option Decimal
  | .buy => (rules.percentPriceBidMultiplierDown, rules.percentPriceBidMultiplierUp)
  | .sell => (rules.percentPriceAskMultiplierDown, rules.percentPriceAskMultiplierUp)

theorem percentPriceBySide_of_mem (htype : filterTypeOf filter = "PERCENT_PRICE_BY_SIDE")
    (side : OrderSide) :
    ∃ down up, numberOf filter [(sideNames side).1] = some down ∧
      numberOf filter [(sideNames side).2] = some up ∧
      sideMultipliers rules side = (some down, some up) := by
  obtain ⟨r, r', hstep, heq⟩ := field_of_mem (fun r => sideMultipliers r side)
    (fun _ _ _ => by cases side <;> rfl)
    (fun r g r' hne hg => by cases side <;> cases hg <;> first | rfl | simp_all)
    hparse hfilters hone hmem
  cases hstep with
  | percentBySide _ hbidUp hbidDown haskUp haskDown =>
    cases side with
    | buy => exact ⟨_, _, hbidDown, hbidUp, heq.symm⟩
    | sell => exact ⟨_, _, haskDown, haskUp, heq.symm⟩
  | other hunknown => exact absurd (by rw [htype]; decide) hunknown
  | _ => simp_all

omit hone hmem in
theorem marketLotSize_of_unseen (hunseen : ∀ f ∈ filters, filterTypeOf f ≠ "MARKET_LOT_SIZE") :
    rules.marketMinQty = none ∧ rules.marketMaxQty = none ∧ rules.marketStepSize = none := by
  obtain ⟨header, parsed, hheader, hfold, rfl⟩ := parse_ok hparse hfilters
  obtain ⟨-, -, -, -, hmin, hmax, hsize⟩ := header_fresh hheader
  have hkept := proj_of_not_mem (fun r => (r.marketMinQty, r.marketMaxQty, r.marketStepSize))
    (fun r g r' hg hstep => by
      have hne := hunseen g hg
      cases hstep <;> first | rfl | simp_all) hfold
  rw [hmin, hmax, hsize] at hkept
  simpa only [Prod.mk.injEq] using hkept

end Payload

/-! ### What ready rules hold orders to -/

section Ready

variable {symbolData : Json} {rules : SymbolTradingRules} {filters : List Json} {orderType : String}

/-- The type of the lot size that applies: the one for market orders, if the payload has it. -/
def lotType (filters : List Json) (isMarket : Bool) : String :=
  if isMarket && filters.any (filterTypeOf · == "MARKET_LOT_SIZE") then "MARKET_LOT_SIZE"
  else "LOT_SIZE"

theorem sizeFor_limit (marketSize : Option Decimal) (size : Decimal) :
    sizeFor false marketSize size = size.toRat := by
  cases marketSize <;> simp [sizeFor]

theorem sizeFor_market {d : Decimal} (h : 0 < d.toRat) (size : Decimal) :
    sizeFor true (some d) size = d.toRat := by simp [sizeFor, h.ne']

theorem lot_of_ready (hparse : parseExchangeInfo symbolData = .ok rules)
    (hfilters : filtersOf symbolData = .ok filters) (hone : OnePerType filters)
    (hready : rules.isReadyFor orderType = true) {isMarket : Bool}
    (hmarket : isMarket = true → Text.upper orderType = "MARKET") :
    ∃ lot ∈ filters, filterTypeOf lot = lotType filters isMarket ∧ ∃ low high step : Decimal,
      numberOf lot ["minQty"] = some low ∧ numberOf lot ["maxQty"] = some high ∧
      numberOf lot ["stepSize"] = some step ∧ 0 < step.toRat ∧ 0 < low.toRat ∧
      low.toRat ≤ high.toRat ∧ sizeFor isMarket rules.marketMinQty rules.minQty = low.toRat ∧
      sizeFor isMarket rules.marketMaxQty rules.maxQty = high.toRat ∧
      sizeFor isMarket rules.marketStepSize rules.stepSize = step.toRat := by
  obtain ⟨-, hstep, hrange, -, hlot, hmarketLot⟩ :=
    isReadyFor_ok hready (rules_lists hparse hfilters).2.2.2
  by_cases hkind : isMarket = true ∧ ∃ f ∈ filters, filterTypeOf f = "MARKET_LOT_SIZE"
  · obtain ⟨rfl, lot, hmem, htype⟩ := hkind
    obtain ⟨low, high, step, hlow, hmin, hhigh, hmax, hsize, hstepSize⟩ :=
      marketLotSize_of_mem hparse hfilters hone hmem htype
    have hseen := (seen_iff hparse hfilters "MARKET_LOT_SIZE").mpr ⟨lot, hmem, htype⟩
    have hvalid := hmarketLot (hmarket rfl) hseen
    unfold SymbolTradingRules.marketLotReady at hvalid
    rw [hmin, hmax, hstepSize] at hvalid
    simp only [validRange, Bool.and_eq_true, decide_eq_true_eq] at hvalid
    obtain ⟨hpos, hlowpos, hle⟩ := hvalid
    refine ⟨lot, hmem, ?_, low, high, step, hlow, hhigh, hsize, hpos, hlowpos, hle, ?_, ?_, ?_⟩
    · rw [lotType, if_pos (by simp; exact ⟨lot, hmem, htype⟩), htype]
    · rw [hmin, sizeFor_market hlowpos]
    · rw [hmax, sizeFor_market (hlowpos.trans_le hle)]
    · rw [hstepSize, sizeFor_market hpos]
  · obtain ⟨lot, hmem, htype⟩ := (seen_iff hparse hfilters "LOT_SIZE").mp hlot
    obtain ⟨hlow, hhigh, hsize⟩ := lotSize_of_mem hparse hfilters hone hmem htype
    simp only [validRange, Bool.and_eq_true, decide_eq_true_eq] at hrange
    have hplain : ∀ f : SymbolTradingRules → Option Decimal,
        (isMarket = true → f rules = none) → ∀ size, sizeFor isMarket (f rules) size =
        size.toRat := by
      intro f hf size
      cases isMarket with
      | false => exact sizeFor_limit _ _
      | true => rw [hf rfl]; rfl
    have hnone := fun hm : isMarket = true => marketLotSize_of_unseen hparse hfilters
      fun f hf htype => hkind ⟨hm, f, hf, htype⟩
    refine ⟨lot, hmem, ?_, rules.minQty, rules.maxQty, rules.stepSize, hlow, hhigh, hsize, hstep,
      hrange.1, hrange.2, hplain (·.marketMinQty) (fun hm => (hnone hm).1) _,
      hplain (·.marketMaxQty) (fun hm => (hnone hm).2.1) _,
      hplain (·.marketStepSize) (fun hm => (hnone hm).2.2) _⟩
    rw [lotType, if_neg, htype]
    simpa using hkind

theorem minimumOf_mem (hparse : parseExchangeInfo symbolData = .ok rules)
    (hfilters : filtersOf symbolData = .ok filters) {f : Json} (hf : f ∈ filters)
    {m : Decimal × Bool} (hm : m ∈ minimumOf f) : m ∈ rules.minNotionalConstraints := by
  rw [(rules_lists hparse hfilters).2.1]
  exact List.mem_filterMap.mpr ⟨f, hf, hm⟩

/-- Every maximum of the payload is one of the rules, and they are positive. -/
theorem maximumOf_mem (hparse : parseExchangeInfo symbolData = .ok rules)
    (hfilters : filtersOf symbolData = .ok filters) {f : Json} (hf : f ∈ filters)
    {m : Decimal × Bool} (hm : m ∈ maximumOf f) :
    m ∈ rules.maxNotionalConstraints ∧ ∀ k ∈ rules.maxNotionalConstraints, 0 < k.1.toRat := by
  have hlists := (rules_lists hparse hfilters).2.2.1
  obtain ⟨header, parsed, -, hfold, -⟩ := parse_ok hparse hfilters
  rw [hlists]
  refine ⟨List.mem_filterMap.mpr ⟨f, hf, hm⟩, fun k hk => ?_⟩
  obtain ⟨g, hg, hkg⟩ := List.mem_filterMap.mp hk
  obtain ⟨r, r', hstep⟩ := parsed_of_mem hfold hg
  exact (parsed_positive hstep).2 k hkg

end Ready

/-- A symbol with a filter of each type. -/
def samplePayload : Json := .obj [
  ("symbol", .str "BTCUSDT"), ("status", .str "TRADING"),
  ("orderTypes", .arr [.str "LIMIT", .str "MARKET"]),
  ("filters", .arr sampleFilters)]
where
  sampleFilters : List Json := [
    .obj [("filterType", .str "PRICE_FILTER"), ("minPrice", .str "1"), ("maxPrice", .str "100000"),
      ("tickSize", .str "0.5")],
    .obj [("filterType", .str "LOT_SIZE"), ("minQty", .str "0.01"), ("maxQty", .str "10"),
      ("stepSize", .str "0.01")],
    .obj [("filterType", .str "MARKET_LOT_SIZE"), ("minQty", .str "0.1"), ("maxQty", .str "5"),
      ("stepSize", .str "0.1")],
    .obj [("filterType", .str "MIN_NOTIONAL"), ("notional", .str "5")],
    .obj [("filterType", .str "NOTIONAL"), ("minNotional", .str "10"), ("maxNotional", .str "500"),
      ("applyMinToMarket", .bool false)],
    .obj [("filterType", .str "PERCENT_PRICE"), ("multiplierUp", .str "1.1"),
      ("multiplierDown", .str "0.9")],
    .obj [("filterType", .str "PERCENT_PRICE_BY_SIDE"), ("bidMultiplierUp", .str "1.05"),
      ("bidMultiplierDown", .str "0.5"), ("askMultiplierUp", .str "2"),
      ("askMultiplierDown", .str "0.95")]]

end Blessing.Binance.FilterPayload
