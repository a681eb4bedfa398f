import Blessing.Binance.AccountGate
import Blessing.Binance.SymbolRules
import Blessing.Engines.Governor

/-! # Clamping order notionals

`_clamp_order_notional_if_needed` of the worker: after the risk governor has approved a decision, an
order that would exceed the single-order cap is made smaller, and one below the minimum notional of
the exchange is made larger, where a quantity of the right step between both bounds is found.

* `fits_spec`: what is known of a quantity that replaces another one.
* `clampOrder_spec`: what becomes of one order.
* `clampOrder_clampOrder`: an order is clamped once.
* `notional_clamp_sound`: what becomes of a decision. -/

namespace Blessing.Worker.NotionalClamp

open Blessing.Lib.Rounding
open Blessing.Binance.Models (OrderSide)
open Blessing.Binance.SymbolRules
open Blessing.Binance.AccountGate (TestnetSafetyLimits)
open Blessing.Engines.Governor (OrderIntent ExecutionDecision)

/-- The value of an order type. -/
def orderTypeValue : Engines.Governor.OrderType → String
  | .limit => "LIMIT"
  | .market => "MARKET"
  | .stop => "STOP"
  | .stopMarket => "STOP_MARKET"
  | .takeProfit => "TAKE_PROFIT"
  | .takeProfitMarket => "TAKE_PROFIT_MARKET"

/-- What the execution adapter knows: the limits of the account and the rules of the symbols. -/
structure ExecutionAdapter where
  safetyLimits : Option TestnetSafetyLimits
  symbolRules : String → Option SymbolTradingRules

section

variable (c : Context)

section

variable (rules : SymbolTradingRules) (price maxOrderNotional : ℚ) (order : OrderIntent)

/-- The step of the quantities of an order. -/
def stepFor : ℚ := sizeFor (order.orderType == .market) rules.marketStepSize rules.stepSize

/-- `min_qty` of an order. -/
def minQtyFor : ℚ := sizeFor (order.orderType == .market) rules.marketMinQty rules.minQty

/-- `min_notional` of an order. -/
def minNotionalFor : ℚ := rules.minNotionalFor (orderTypeValue order.orderType)

/-- The quantity of a target notional, if it keeps the minimum quantity and both bounds. -/
def fits (targetNotional : ℚ) : Option ℚ :=
  let clampedQty :=
    rules.normalizeQuantity c (c.div targetNotional price) (order.orderType == .market)
  if minQtyFor rules order ≤ clampedQty ∧ minNotionalFor rules order ≤ c.mul clampedQty price ∧
      c.mul clampedQty price ≤ maxOrderNotional then some clampedQty
  else none

/-- The quantity that replaces the one of an order, if any does. -/
def clampedQuantity : Option ℚ :=
  let estNotional := c.mul order.quantity price
  let minNotional := minNotionalFor rules order
  if maxOrderNotional < estNotional then
    fits c rules price maxOrderNotional order (min (c.mul maxOrderNotional (9 / 10)) 45)
  else if 0 < minNotional ∧ estNotional < minNotional then
    fits c rules price maxOrderNotional order
      (min (min (c.mul minNotional (5 / 4)) (c.mul maxOrderNotional (9 / 10))) 45)
  else none

/-- What the loop makes of an order, and whether it has clamped it. -/
def clampOrder : OrderIntent × Bool :=
  if order.reduceOnly then (order, false)
  else
    match clampedQuantity c rules price maxOrderNotional order with
    | some clampedQty => ({ order with quantity := clampedQty }, true)
    | none => (order, false)

end

/-- The quantity of an order with its sign. -/
def signedQuantity (order : OrderIntent) : ℚ :=
  if order.side = .buy then order.quantity else -order.quantity

/-- `_clamp_order_notional_if_needed` -/
def clampOrderNotionalIfNeeded (adapter : Option ExecutionAdapter) (decision : ExecutionDecision)
    (referencePrice : Option ℚ) : ExecutionDecision :=
  match adapter with
  | none => decision
  | some adapter =>
    match adapter.safetyLimits, adapter.symbolRules decision.symbol, referencePrice with
    | some limits, some rules, some price =>
      if 0 < price ∧ 0 < limits.maxSingleOrderNotional then
        let clamped := decision.orders.map (clampOrder c rules price limits.maxSingleOrderNotional)
        if clamped.any (·.2) then
          { decision with
            orders := clamped.map (·.1)
            netExposureDelta := c.sum ((clamped.map (·.1)).map signedQuantity) }
        else decision
      else decision
    | _, _, _ => decision

end

/-! ### One quantity -/

variable {rules : SymbolTradingRules} {price maxOrderNotional : ℚ} {order : OrderIntent}

theorem normalizeQuantity_le (rules : SymbolTradingRules) {quantity : ℚ} (isMarket : Bool)
    (h : 0 < quantity) : rules.normalizeQuantity .exact quantity isMarket ≤ quantity := by
  unfold SymbolTradingRules.normalizeQuantity
  set step := sizeFor isMarket rules.marketStepSize rules.stepSize
  by_cases hstep : step = 0
  · rw [if_pos hstep]
  · rw [if_neg hstep, if_neg (not_le.mpr h), Context.exact_mul, Context.exact_div, truncate]
    rcases lt_or_gt_of_ne hstep with hneg | hpos
    · have hquotient : ¬ 0 ≤ quantity / step := not_le.mpr (div_neg_of_pos_of_neg h hneg)
      rw [if_neg hquotient]
      have hceil := Int.le_ceil (quantity / step)
      rwa [div_le_iff_of_neg hneg] at hceil
    · rw [if_pos (div_pos h hpos).le]
      have hfloor := Int.floor_le (quantity / step)
      rwa [le_div_iff₀ hpos] at hfloor

theorem normalizeQuantity_multiple (quantity : ℚ) (isMarket : Bool)
    (hstep : sizeFor isMarket rules.marketStepSize rules.stepSize ≠ 0) :
    ∃ n : ℤ, rules.normalizeQuantity .exact quantity isMarket =
      n * sizeFor isMarket rules.marketStepSize rules.stepSize := by
  unfold SymbolTradingRules.normalizeQuantity
  rw [if_neg hstep]
  by_cases hquantity : quantity ≤ 0
  · exact ⟨0, by rw [if_pos hquantity]; simp⟩
  · exact ⟨_, by rw [if_neg hquantity]; rfl⟩

/-- A quantity that fits keeps the minimum quantity and both bounds, stays below its target, and is
a multiple of the step where there is one. -/
theorem fits_spec {targetNotional q : ℚ} (hprice : 0 < price) (htarget : 0 < targetNotional)
    (h : fits .exact rules price maxOrderNotional order targetNotional = some q) :
    minQtyFor rules order ≤ q ∧ minNotionalFor rules order ≤ q * price ∧
    q * price ≤ maxOrderNotional ∧
      q * price ≤ targetNotional ∧
      (stepFor rules order ≠ 0 → ∃ n : ℤ, q = n * stepFor rules order) := by
  unfold fits at h
  obtain ⟨⟨hqty, hmin, hmax⟩, hq⟩ := Option.ite_none_right_eq_some.mp h
  obtain rfl := Option.some.inj hq
  refine ⟨hqty, hmin, hmax, ?_, normalizeQuantity_multiple _ _⟩
  have hdown := normalizeQuantity_le rules (order.orderType == .market) (div_pos htarget hprice)
  rwa [le_div_iff₀ hprice] at hdown

/-- **What replaces a quantity**: the order was outside the bounds, and the new quantity is
inside. -/
structure Replaces (rules : SymbolTradingRules) (price maxOrderNotional : ℚ) (order : OrderIntent)
    (q : ℚ) : Prop where
  outside : maxOrderNotional < order.quantity * price ∨
    order.quantity * price < minNotionalFor rules order
  multiple : stepFor rules order ≠ 0 → ∃ n : ℤ, q = n * stepFor rules order
  minQty : minQtyFor rules order ≤ q
  minNotional : minNotionalFor rules order ≤ q * price
  maxNotional : q * price ≤ maxOrderNotional
  bumped : order.quantity * price ≤ maxOrderNotional →
    q * price ≤ minNotionalFor rules order * (5 / 4)

theorem clampedQuantity_spec {q : ℚ} (hprice : 0 < price) (hmax : 0 < maxOrderNotional)
    (h : clampedQuantity .exact rules price maxOrderNotional order = some q) :
    Replaces rules price maxOrderNotional order q := by
  have hcap : 0 < maxOrderNotional * (9 / 10) := by positivity
  unfold clampedQuantity at h
  dsimp only at h
  split_ifs at h with hover hunder
  · obtain ⟨hqty, hmin, hcapped, -, hmultiple⟩ := fits_spec hprice (lt_min hcap (by norm_num)) h
    exact ⟨.inl hover, hmultiple, hqty, hmin, hcapped, fun hle => absurd hover (not_lt.mpr hle)⟩
  · have hminimum : 0 < minNotionalFor rules order * (5 / 4) := mul_pos hunder.1 (by norm_num)
    obtain ⟨hqty, hmin, hcapped, htarget, hmultiple⟩ :=
      fits_spec hprice (lt_min (lt_min hminimum hcap) (by norm_num)) h
    exact ⟨.inr hunder.2, hmultiple, hqty, hmin, hcapped,
      fun _ => htarget.trans ((min_le_left _ _).trans (min_le_left _ _))⟩

theorem clampedQuantity_inside (hmin : minNotionalFor rules order ≤ order.quantity * price)
    (hmax : order.quantity * price ≤ maxOrderNotional) :
    clampedQuantity .exact rules price maxOrderNotional order = none := by
  unfold clampedQuantity
  dsimp only
  rw [Context.exact_mul, if_neg (not_lt.mpr hmax), if_neg fun h => absurd h.2 (not_lt.mpr hmin)]

/-! ### One order -/

/-- What becomes of an order: at most its quantity changes. -/
structure ClampedOrder (rules : SymbolTradingRules) (price maxOrderNotional : ℚ)
    (order clamped : OrderIntent) : Prop where
  rest : clamped = { order with quantity := clamped.quantity }
  reduceOnly : order.reduceOnly = true → clamped = order
  inside : minNotionalFor rules order ≤ order.quantity * price →
    order.quantity * price ≤ maxOrderNotional → clamped = order
  smaller : clamped.quantity < order.quantity → maxOrderNotional < order.quantity * price
  larger : order.quantity < clamped.quantity →
    order.quantity * price < minNotionalFor rules order ∧
      clamped.quantity * price ≤ minNotionalFor rules order * (5 / 4)
  changed : clamped ≠ order →
    (stepFor rules order ≠ 0 → ∃ n : ℤ, clamped.quantity = n * stepFor rules order) ∧
      minQtyFor rules order ≤ clamped.quantity ∧
      minNotionalFor rules order ≤ clamped.quantity * price ∧
      clamped.quantity * price ≤ maxOrderNotional

theorem clampedOrder_refl : ClampedOrder rules price maxOrderNotional order order where
  rest := rfl
  reduceOnly _ := rfl
  inside _ _ := rfl
  smaller h := absurd h (lt_irrefl _)
  larger h := absurd h (lt_irrefl _)
  changed h := absurd rfl h

theorem clampOrder_cases (rules : SymbolTradingRules) (order : OrderIntent) (hprice : 0 < price)
    (hmax : 0 < maxOrderNotional) :
    clampOrder .exact rules price maxOrderNotional order = (order, false) ∨
    ∃ q, clampOrder .exact rules price maxOrderNotional order =
    ({ order with quantity := q }, true) ∧
      order.reduceOnly = false ∧ Replaces rules price maxOrderNotional order q := by
  unfold clampOrder
  by_cases hreduce : order.reduceOnly = true
  · exact .inl (by rw [if_pos hreduce])
  · rw [if_neg hreduce]
    cases hq : clampedQuantity .exact rules price maxOrderNotional order with
    | none => exact .inl rfl
    | some q =>
      exact .inr ⟨q, rfl, Bool.eq_false_iff.mpr hreduce, clampedQuantity_spec hprice hmax hq⟩

/-- **One order** -/
theorem clampOrder_spec (hprice : 0 < price) (hmax : 0 < maxOrderNotional) :
    ClampedOrder rules price maxOrderNotional order
      (clampOrder .exact rules price maxOrderNotional order).1 := by
  rcases clampOrder_cases rules order hprice hmax with h | ⟨q, h, hreduce, hq⟩
  · rw [h]
    exact clampedOrder_refl
  · rw [h]
    have hlt {a b : ℚ} : a * price < b * price ↔ a < b := mul_lt_mul_iff_left₀ hprice
    constructor
    case rest => rfl
    case reduceOnly =>
      intro h
      rw [hreduce] at h
      cases h
    case inside =>
      intro hmin hmax
      rcases hq.outside with hover | hunder <;> linarith
    case smaller =>
      intro hsmaller
      refine hq.outside.resolve_right fun hunder => ?_
      have := hlt.mpr hsmaller
      have := hq.minNotional
      linarith
    case larger =>
      intro hlarger
      have hnot : order.quantity * price ≤ maxOrderNotional :=
        (hlt.mpr hlarger).le.trans hq.maxNotional
      exact ⟨hq.outside.resolve_left (not_lt.mpr hnot), hq.bumped hnot⟩
    case changed => exact fun _ => ⟨hq.multiple, hq.minQty, hq.minNotional, hq.maxNotional⟩

/-- **An order is clamped once**: what has become of it is left alone. -/
theorem clampOrder_clampOrder (hprice : 0 < price) (hmax : 0 < maxOrderNotional) :
    clampOrder .exact rules price maxOrderNotional
        (clampOrder .exact rules price maxOrderNotional order).1 =
      ((clampOrder .exact rules price maxOrderNotional order).1, false) := by
  rcases clampOrder_cases rules order hprice hmax with h | ⟨q, h, hreduce, hq⟩
  · rw [h]
    exact h
  · rw [h]
    have hstays : clampedQuantity .exact rules price maxOrderNotional { order with quantity := q } =
      none :=
      clampedQuantity_inside hq.minNotional hq.maxNotional
    unfold clampOrder
    rw [hstays]
    split_ifs <;> rfl

/-! ### A decision -/

section

variable {adapter : ExecutionAdapter} {limits : TestnetSafetyLimits} {decision : ExecutionDecision}

/-- The orders behind the loop, and whether it has clamped one. -/
def loop (rules : SymbolTradingRules) (price maxOrderNotional : ℚ) (orders : List OrderIntent) :
    List (OrderIntent × Bool) :=
  orders.map (clampOrder .exact rules price maxOrderNotional)

/-- A decision is left alone, or its orders and its exposure are those behind the loop. -/
theorem clamp_cases (hlimits : adapter.safetyLimits = some limits)
    (hrules : adapter.symbolRules decision.symbol = some rules) (hprice : 0 < price)
    (hmax : 0 < limits.maxSingleOrderNotional) :
    clampOrderNotionalIfNeeded .exact (some adapter) decision (some price) =
      if (loop rules price limits.maxSingleOrderNotional decision.orders).any (·.2) then
        { decision with
          orders := (loop rules price limits.maxSingleOrderNotional decision.orders).map (·.1)
          netExposureDelta := (((loop rules price limits.maxSingleOrderNotional decision.orders).map
            (·.1)).map signedQuantity).sum }
      else decision := by
  unfold clampOrderNotionalIfNeeded
  simp only [hlimits, hrules]
  rw [if_pos ⟨hprice, hmax⟩, Context.exact_sum]
  rfl

theorem loop_unclamped (hprice : 0 < price) (hmax : 0 < maxOrderNotional)
    {orders : List OrderIntent} (h : (loop rules price maxOrderNotional orders).any (·.2) = false) :
    (loop rules price maxOrderNotional orders).map (·.1) = orders := by
  induction orders with
  | nil => rfl
  | cons order orders ih =>
    rw [loop, List.map_cons, List.any_cons, Bool.or_eq_false_iff] at h
    rw [loop, List.map_cons, List.map_cons]
    refine congrArg₂ List.cons ?_ (ih h.2)
    rcases clampOrder_cases rules order hprice hmax with horder | ⟨q, horder, -⟩
    · rw [horder]
    · rw [horder] at h
      cases h.1

theorem loop_clamped (rules : SymbolTradingRules) (hprice : 0 < price) (hmax : 0 < maxOrderNotional)
    (orders : List OrderIntent) :
    List.Forall₂ (ClampedOrder rules price maxOrderNotional) orders
      ((loop rules price maxOrderNotional orders).map (·.1)) := by
  induction orders with
  | nil => exact .nil
  | cons order orders ih => exact .cons (clampOrder_spec hprice hmax) ih

theorem loop_loop (hprice : 0 < price) (hmax : 0 < maxOrderNotional) (orders : List OrderIntent) :
    (loop rules price maxOrderNotional
      ((loop rules price maxOrderNotional orders).map (·.1))).any (·.2) = false := by
  rw [List.any_eq_false]
  intro clamped hmem
  rw [loop, loop, List.map_map, List.map_map, List.mem_map] at hmem
  obtain ⟨order, -, rfl⟩ := hmem
  dsimp only [Function.comp]
  rw [clampOrder_clampOrder hprice hmax]
  exact Bool.false_ne_true

/-- **Notional clamping is sound and idempotent.** Order by order at most the quantity changes, and
as `ClampedOrder` says; a changed decision has the exposure of its orders; and clamping it again
changes nothing. -/
theorem notional_clamp_sound (hlimits : adapter.safetyLimits = some limits)
    (hrules : adapter.symbolRules decision.symbol = some rules) (hprice : 0 < price) :
    let clamp (d : ExecutionDecision) :=
  clampOrderNotionalIfNeeded .exact (some adapter) d (some price)
    List.Forall₂ (ClampedOrder rules price limits.maxSingleOrderNotional) decision.orders
        (clamp decision).orders ∧
      (clamp decision ≠ decision →
        (clamp decision).netExposureDelta = ((clamp decision).orders.map signedQuantity).sum) ∧
      clamp (clamp decision) = clamp decision := by
  intro clamp
  have hclamp (d : ExecutionDecision) :
      clamp d = clampOrderNotionalIfNeeded .exact (some adapter) d (some price) := rfl
  by_cases hmax : 0 < limits.maxSingleOrderNotional
  · rw [hclamp decision, clamp_cases hlimits hrules hprice hmax]
    cases hany : (loop rules price limits.maxSingleOrderNotional decision.orders).any (·.2) with
    | true =>
      rw [if_pos rfl]
      refine ⟨loop_clamped rules hprice hmax _, fun _ => rfl, ?_⟩
      rw [hclamp, clamp_cases hlimits (by exact hrules) hprice hmax, loop_loop hprice hmax,
        if_neg Bool.false_ne_true]
    | false =>
      rw [if_neg Bool.false_ne_true]
      refine ⟨?_, fun h => absurd rfl h, ?_⟩
      · have horders := loop_clamped rules hprice hmax decision.orders
        rwa [loop_unclamped hprice hmax hany] at horders
      · rw [hclamp, clamp_cases hlimits hrules hprice hmax, hany, if_neg Bool.false_ne_true]
  · have hsame (d : ExecutionDecision) : clamp d = d := by
      rw [hclamp]
      unfold clampOrderNotionalIfNeeded
      dsimp only
      rw [hlimits]
      split
      · next h _ _ =>
        cases h
        rw [if_neg fun h => hmax h.2]
      · rfl
    rw [hsame, hsame]
    exact ⟨List.forall₂_same.mpr fun _ _ => clampedOrder_refl, fun h => absurd rfl h, rfl⟩

end

/-! ### Rules without a step -/

/-- Rules with a minimum notional of 20 and this step. -/
def sampleRules (step : Lib.Decimal) : SymbolTradingRules :=
  { status := "TRADING"
    stepSize := step
    minQty := ⟨false, 1, -3⟩
    minNotionalConstraints := [(⟨false, 20, 0⟩, true)] }

def sampleAdapter (step : Lib.Decimal) : ExecutionAdapter where
  safetyLimits := some (TestnetSafetyLimits.defaults .mainnet)
  symbolRules _ := some (sampleRules step)

/-- A decision to buy one unit at the market. -/
def sampleDecision : ExecutionDecision :=
  { decisionId := "DEC-1"
    symbol := "ETHUSDC"
    action := "SUBMIT_ORDER"
    orders := [
      { clientOrderId := "CID-1"
        symbol := "ETHUSDC"
        marketType := .usdmFutures
        side := .buy
        positionSide := .both
        orderType := .market
        timeInForce := .gtc
        quantity := 1
        createdAt := ⟨0, true⟩ }]
    rational := .approved 1
    netExposureDelta := 1
    timestamp := ⟨0, true⟩ }

/-- Without a step a quantity is not rounded: one unit at 2600 becomes 9/520, no multiple of
zero. -/
theorem clamped_without_step :
    ((clampOrderNotionalIfNeeded .exact (some (sampleAdapter zero)) sampleDecision
        (some 2600)).orders.map (·.quantity) = [9 / 520]) ∧
      ¬ ∃ n : ℤ, (9 / 520 : ℚ) = n * zero.toRat := by
  refine ⟨by decide +kernel, ?_⟩
  rintro ⟨n, h⟩
  rw [show zero.toRat = 0 by decide +kernel, mul_zero] at h
  exact absurd h (by norm_num)

/-- The adapter of a symbol with steps of a thousandth. -/
def milliAdapter : ExecutionAdapter := sampleAdapter ⟨false, 1, -3⟩

theorem notional_clamp_sound_sample :
    let clamp (d : ExecutionDecision) :=
  clampOrderNotionalIfNeeded .exact (some milliAdapter) d (some 2500)
    List.Forall₂ (ClampedOrder (sampleRules ⟨false, 1, -3⟩) 2500
        (TestnetSafetyLimits.defaults .mainnet).maxSingleOrderNotional) sampleDecision.orders
        (clamp sampleDecision).orders ∧
      (clamp sampleDecision ≠ sampleDecision → (clamp sampleDecision).netExposureDelta =
        ((clamp sampleDecision).orders.map signedQuantity).sum) ∧
      clamp (clamp sampleDecision) = clamp sampleDecision :=
  have hlimits : milliAdapter.safetyLimits = some (TestnetSafetyLimits.defaults .mainnet) := rfl
  have hrules : milliAdapter.symbolRules sampleDecision.symbol =
      some (sampleRules ⟨false, 1, -3⟩) := rfl
  notional_clamp_sound hlimits hrules (by norm_num)

end Blessing.Worker.NotionalClamp
