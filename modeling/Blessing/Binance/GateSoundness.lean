import Blessing.Binance.FilterPayload
import Blessing.Binance.OrderGate

/-! # Orders that pass the gate satisfy the exchange filters

An order that `OrderExecutionGate.check` lets through, in exact arithmetic, against the filters of
the `exchangeInfo` symbol its rules were parsed from.

* `OnLot`, `OnTick`, `InBand`: what a filter asks of a quantity or of a price.
* `Sound`: what all filters of a payload ask of an order.
* `check_sound`: the gate lets only such orders through. -/

namespace Blessing.Binance.GateSoundness

open Blessing.Lib Blessing.Lib.Values Blessing.Lib.Rounding Blessing.Lib.Effects
open Blessing.Binance.Models
open Blessing.Binance.AccountGate Blessing.Binance.SymbolRules Blessing.Binance.FilterPayload
open Blessing.Binance.OrderGate
open Blessing.Engines.Governor (OrderIntent)

/-! ### What filters ask -/

/-- The quantity is the requested one rounded down to the step of the filter, within its bounds. -/
def OnLot (lot : Json) (requested quantity : ℚ) : Prop :=
  ∃ low high step : Decimal, numberOf lot ["minQty"] = some low ∧
    numberOf lot ["maxQty"] = some high ∧ numberOf lot ["stepSize"] = some step ∧
    (∃ n : ℕ, 0 < n ∧ quantity = n * step.toRat) ∧
    quantity ≤ requested ∧ requested < quantity + step.toRat ∧
    low.toRat ≤ quantity ∧ quantity ≤ high.toRat

/-- The price is the requested one rounded to the tick of the filter against the order, within its
bounds. -/
def OnTick (filter : Json) (side : OrderSide) (requested price : ℚ) : Prop :=
  ∃ low high tick : Decimal, numberOf filter ["minPrice"] = some low ∧
    numberOf filter ["maxPrice"] = some high ∧ numberOf filter ["tickSize"] = some tick ∧
    (∃ n : ℕ, 0 < n ∧ price = n * tick.toRat) ∧ low.toRat ≤ price ∧ price ≤ high.toRat ∧
    match side with
    | .buy => requested - tick.toRat < price ∧ price ≤ requested
    | .sell => requested ≤ price ∧ price < requested + tick.toRat

/-- The price is between the two multiples of a reference price. -/
def InBand (filter : Json) (names : String × String) (reference price : ℚ) : Prop :=
  ∃ down up : Decimal, numberOf filter [names.1] = some down ∧ numberOf filter [names.2] = some up ∧
    reference * down.toRat ≤ price ∧ price ≤ reference * up.toRat

/-- The names of the multipliers of a percent-price filter for a side, by the type of the filter. -/
def bandNames (side : OrderSide) : List (String × String × String) :=
  [("PERCENT_PRICE", "multiplierDown", "multiplierUp"), ("PERCENT_PRICE_BY_SIDE", sideNames side)]

/-- The order satisfies the filters. -/
structure Sound (a : AdapterView) (rules : SymbolTradingRules) (filters : List Json)
    (intent : OrderIntent) (p : PreparedOrder) : Prop where
  quantity : ∃ lot ∈ filters, filterTypeOf lot = lotType filters (isMarket intent) ∧
    OnLot lot intent.quantity p.quantity
  price : intent.orderType = .limit → ∃ requested price, intent.price = some requested ∧
    p.price = some price ∧ p.estimatedPrice = price ∧
    ∃ f ∈ filters, filterTypeOf f = "PRICE_FILTER" ∧ OnTick f intent.side requested price
  band : intent.orderType = .limit → ∀ f ∈ filters, ∀ names ∈ bandNames intent.side,
    filterTypeOf f = names.1 → ∃ price reference, p.price = some price ∧
      referencePrice a rules (Text.upper intent.symbol) = some reference ∧ 0 < reference ∧
      InBand f names.2 reference price
  notional : p.notional = p.quantity * p.estimatedPrice
  minimum : ∀ f ∈ filters, ∀ m ∈ minimumOf f, (intent.orderType = .market → m.2 = true) →
    m.1.toRat ≤ p.notional
  maximum : ∀ f ∈ filters, ∀ m ∈ maximumOf f, (intent.orderType = .market → m.2 = true) →
    p.notional ≤ m.1.toRat

/-! ### The filters -/

section Filters

variable {a : AdapterView} {symbolData : Json} {rules : SymbolTradingRules} {filters : List Json}
  {intent : OrderIntent}

theorem upper_typeValue (hmarket : isMarket intent = true) :
    Text.upper (typeValue intent.orderType) = "MARKET" := by
  have htype : intent.orderType = .market := by simpa [isMarket] using hmarket
  rw [htype]
  decide +kernel

theorem onLot_of_prepared (hparse : parseExchangeInfo symbolData = .ok rules)
    (hfilters : filtersOf symbolData = .ok filters) (hone : OnePerType filters)
    (hready : rules.isReadyFor (typeValue intent.orderType) = true) {quantity : ℚ}
    (h : preparedQuantity .exact rules intent = .ok quantity) :
    ∃ lot ∈ filters, filterTypeOf lot = lotType filters (isMarket intent) ∧
      OnLot lot intent.quantity quantity := by
  obtain ⟨lot, hmem, htype, low, high, step, hlow, hhigh, hstep, hpos, hlowpos, hle, hmin,
      hmax, hsize⟩ :=
    lot_of_ready hparse hfilters hone hready upper_typeValue
  obtain ⟨hrequested, hquantity, hnorm, hmin', hmax'⟩ := preparedQuantity_ok h
  rw [hmin] at hmin'
  rw [hmax] at hmax'
  have hexact := normalizeQuantity_exact rules (isMarket intent)
    (by rw [hsize]; exact hpos) hrequested
  rw [hsize, ← hnorm] at hexact
  obtain ⟨n, heq, hfloor, hceil⟩ := hexact
  rw [← heq] at hfloor hceil
  have hn : 0 < n := by
    by_contra hzero
    rw [Nat.eq_zero_of_not_pos hzero, Nat.cast_zero, zero_mul] at heq
    linarith
  exact ⟨lot, hmem, htype, low, high, step, hlow, hhigh, hstep, ⟨n, hn, heq⟩, hfloor, hceil, hmin',
    hmax' (hlowpos.trans_le hle)⟩

theorem onTick_of_limit (hparse : parseExchangeInfo symbolData = .ok rules)
    (hfilters : filtersOf symbolData = .ok filters) (hone : OnePerType filters)
    (hready : rules.isReadyFor (typeValue intent.orderType) = true) {price : ℚ}
    (h : limitPrice .exact rules intent = .ok price) :
    ∃ requested, intent.price = some requested ∧
      ∃ f ∈ filters, filterTypeOf f = "PRICE_FILTER" ∧ OnTick f intent.side requested price := by
  have hparsed := (rules_lists hparse hfilters).2.2.2
  obtain ⟨htick, -, -, hseen, -⟩ := isReadyFor_ok hready hparsed
  obtain ⟨f, hmem, htype⟩ := (seen_iff hparse hfilters "PRICE_FILTER").mp hseen
  obtain ⟨hlow, hhigh, hsize⟩ := priceFilter_of_mem hparse hfilters hone hmem htype
  obtain ⟨requested, hprice, hpos, hnorm, hbounds⟩ := limitPrice_ok h
  obtain ⟨hge, hle⟩ := hbounds hparsed
  have hrequested : 0 < requested := by
    by_contra hneg
    rw [SymbolTradingRules.normalizePrice, if_neg htick.ne', if_pos (not_lt.mp hneg)] at hnorm
    linarith
  obtain ⟨n, heq, hround⟩ :=
    normalizePrice_exact rules (intent.side == .sell) htick hrequested
  rw [← hnorm] at heq
  have hn : 0 < n := by
    by_contra hzero
    rw [Nat.eq_zero_of_not_pos hzero, Nat.cast_zero, zero_mul] at heq
    linarith
  refine ⟨requested, hprice, f, hmem, htype, rules.minPrice, rules.maxPrice,
    rules.tickSize, hlow, hhigh, hsize, ⟨n, hn, heq⟩, hge, hle, ?_⟩
  rw [← heq] at hround
  cases hside : intent.side with
  | buy =>
    rw [hside] at hround
    exact ⟨by linarith [hround.2], hround.1⟩
  | sell =>
    rw [hside] at hround
    exact hround

/-- The band of the plain percent-price filter. -/
def plainBand (rules : SymbolTradingRules) (reference : ℚ) : Band :=
  if rules.seen "PERCENT_PRICE" then
    ({} : Band).intersect .exact reference rules.percentPriceMultiplierDown
      rules.percentPriceMultiplierUp
  else {}

theorem band_eq (side : OrderSide) (reference : ℚ) : rules.band .exact side reference =
    if rules.seen "PERCENT_PRICE_BY_SIDE" then
      (plainBand rules reference).intersect .exact reference (sideMultipliers rules side).1
        (sideMultipliers rules side).2
    else plainBand rules reference := by
  cases side <;> rfl

/-- A price in the band of a side is in the band of each percent-price filter. -/
theorem inBand_of_band (hparse : parseExchangeInfo symbolData = .ok rules)
    (hfilters : filtersOf symbolData = .ok filters) (hone : OnePerType filters)
    {price reference : ℚ} {side : OrderSide} (h : (rules.band .exact side reference).Contains price)
    {f : Json} (hf : f ∈ filters) {names : String × String × String}
    (hnames : names ∈ bandNames side) (htype : filterTypeOf f = names.1) :
    InBand f names.2 reference price := by
  have hseen := (seen_iff hparse hfilters names.1).mpr ⟨f, hf, htype⟩
  rw [band_eq] at h
  simp only [bandNames, List.mem_cons, List.not_mem_nil, or_false] at hnames
  cases hnames with
  | inl hplain =>
    subst hplain
    obtain ⟨down, up, hdown, hdowns, hup, hups⟩ := percentPrice_of_mem hparse hfilters hone hf htype
    refine ⟨down, up, hdown, hup, ?_⟩
    have hband : (plainBand rules reference).Contains price := by
      split_ifs at h with hbySide
      · obtain ⟨g, hg, hgtype⟩ := (seen_iff hparse hfilters "PERCENT_PRICE_BY_SIDE").mp hbySide
        obtain ⟨sideDown, sideUp, -, -, hsides⟩ :=
          percentPriceBySide_of_mem hparse hfilters hone hg hgtype side
        rw [hsides] at h
        exact (Band.contains_intersect h).1
      · exact h
    rw [plainBand, if_pos hseen, hdowns, hups] at hband
    exact (Band.contains_intersect hband).2
  | inr hside =>
    subst hside
    obtain ⟨down, up, hdown, hup, hsides⟩ :=
      percentPriceBySide_of_mem hparse hfilters hone hf htype side
    rw [if_pos hseen, hsides] at h
    exact ⟨down, up, hdown, hup, (Band.contains_intersect h).2⟩

theorem hasPercentPriceFilter_of_seen {side : OrderSide} {names : String × String × String}
    (hnames : names ∈ bandNames side) (hseen : rules.seen names.1 = true) :
    rules.hasPercentPriceFilter = true := by
  rw [SymbolTradingRules.hasPercentPriceFilter, Bool.or_eq_true]
  simp only [bandNames, List.mem_cons, List.not_mem_nil, or_false] at hnames
  cases hnames with
  | inl hplain => exact .inl (by rwa [hplain] at hseen)
  | inr hside => exact .inr (by rwa [hside] at hseen)

theorem appliesTo_of_kind {orderType : Engines.Governor.OrderType} {m : Decimal × Bool}
    (happlies : orderType = .market → m.2 = true)
    (hkind : orderType = .limit ∨ orderType = .market) : AppliesTo (typeValue orderType) m := by
  intro hmarket
  cases hkind with
  | inl hlimit =>
    rw [hlimit] at hmarket
    exact absurd hmarket (by decide +kernel)
  | inr htype => exact happlies htype

end Filters

/-! ### The gate -/

/-- **Soundness against the exchange filters**: in exact arithmetic, an order that passes the gate
satisfies every filter of the payload the rules of its symbol were parsed from. -/
theorem check_sound {a : AdapterView} {symbolData : Json} {rules : SymbolTradingRules}
    {filters : List Json} {intent : OrderIntent} {risk : EconomicRiskClass} {o : CheckOptions}
    {p : PreparedOrder} (hparse : parseExchangeInfo symbolData = .ok rules)
    (hfilters : filtersOf symbolData = .ok filters) (hone : OnePerType filters)
    (hrules : a.symbolRules (Text.upper intent.symbol) = some rules)
    (h : check .exact a intent risk o = .ok p) : Sound a rules filters intent p := by
  obtain ⟨found, hpassed⟩ := check_ok h
  obtain ⟨hfound, hready, hkind⟩ := orderChecks_ok hpassed.order
  cases hfound.symm.trans hrules
  obtain ⟨-, hminimum, hmaximum⟩ := notionalChecks_ok hpassed.bounds
  constructor
  case quantity => exact onLot_of_prepared hparse hfilters hone hready hpassed.quantity
  case price =>
    intro hlimit
    obtain ⟨price, hpriced, hprice, -⟩ := prices_limit hpassed.prices hlimit
    obtain ⟨hprices, hestimated⟩ := Prod.mk.inj hpriced
    obtain ⟨requested, hrequested, htick⟩ := onTick_of_limit hparse hfilters hone hready hprice
    exact ⟨requested, price, hrequested, hprices, hestimated, htick⟩
  case band =>
    intro hlimit f hf names hnames htype
    obtain ⟨price, hpriced, -, hvalid⟩ := prices_limit hpassed.prices hlimit
    have hseen := (seen_iff hparse hfilters names.1).mpr ⟨f, hf, htype⟩
    obtain ⟨reference, hreference, hpos, hband⟩ :=
      validatePercentPrice_ok hvalid (hasPercentPriceFilter_of_seen hnames hseen)
    exact ⟨price, reference, (Prod.mk.inj hpriced).1, hreference, hpos,
      inBand_of_band hparse hfilters hone hband hf hnames htype⟩
  case notional => exact hpassed.notional
  case minimum =>
    intro f hf m hm happlies
    have hmem := minimumOf_mem hparse hfilters hf hm
    exact (le_minNotionalFor hmem (appliesTo_of_kind happlies hkind)).trans hminimum
  case maximum =>
    intro f hf m hm happlies
    obtain ⟨hmem, hpositive⟩ := maximumOf_mem hparse hfilters hf hm
    obtain ⟨hpos, hle⟩ := maxNotionalFor_le hpositive hmem (appliesTo_of_kind happlies hkind)
    exact (hmaximum hpos).trans hle

/-- A limit order whose quantity and price are between the steps. -/
def sampleIntent : OrderIntent where
  clientOrderId := "o1"
  symbol := "btcusdt"
  marketType := .usdmFutures
  side := .sell
  positionSide := .both
  orderType := .limit
  timeInForce := .gtc
  quantity := 256 / 1000
  price := some (992 / 10)
  createdAt := ⟨0, true⟩

/-- The order is prepared as 0.25 at 99.5. -/
theorem check_sound_sample : ∃ rules, parseExchangeInfo samplePayload = .ok rules ∧
    Sound (sampleView rules) rules samplePayload.sampleFilters sampleIntent
      ⟨"BTCUSDT", .limit, 1 / 4, some (199 / 2), 199 / 2, 199 / 8⟩ := by
  have hrun : ((parseExchangeInfo samplePayload).toOption.bind fun rules =>
      (check .exact (sampleView rules) sampleIntent .newRisk {}).toOption) =
        some ⟨"BTCUSDT", .limit, 1 / 4, some (199 / 2), 199 / 2, 199 / 8⟩ := by decide +kernel
  cases hparse : parseExchangeInfo samplePayload with
  | error e =>
    rw [hparse] at hrun
    cases hrun
  | ok rules =>
    rw [hparse] at hrun
    have hone : OnePerType samplePayload.sampleFilters := by
      unfold OnePerType
      decide +kernel
    have hsymbol : Text.upper sampleIntent.symbol = "BTCUSDT" := by decide +kernel
    have hrules : (sampleView rules).symbolRules (Text.upper sampleIntent.symbol) = some rules := by
      rw [hsymbol]
      rfl
    refine ⟨rules, rfl, check_sound hparse rfl hone hrules (?_ : check .exact _ _ .newRisk {} = _)⟩
    cases hcheck : check .exact (sampleView rules) sampleIntent .newRisk {} with
    | error e =>
      simp only [Except.toOption, Option.bind_some, hcheck] at hrun
      cases hrun
    | ok p =>
      simp only [Except.toOption, Option.bind_some, hcheck, Option.some.injEq] at hrun
      rw [hrun]

end Blessing.Binance.GateSoundness
