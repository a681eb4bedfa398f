import Blessing.Binance.AccountGate
import Blessing.Lib.Effects

/-! # The two account-risk validators of the Mainnet

`_is_mainnet_snapshot_risk_ready` of `main.py` repeats the account section of the order gate. It
also requires that the daily-loss window contains the current time and that the notional of the
positions is within the total cap. The gate requires neither: just after midnight it accepts a
risk-increasing order on the loss window of the day before (`stale_window_accepted`). The gate in
turn reads `liquidation_safety` as it is written and refuses a distance that is not positive for a
flat account too.

`Shared` lists what both validators check. `validators_agree_iff` says on which snapshots they
agree. -/

namespace Blessing.Binance.MainnetReady

open Blessing.Lib Blessing.Lib.Rounding Blessing.Lib.Effects
open Blessing.Binance.Models (BinanceEnvironment)
open Blessing.Binance.AccountGate

variable (c : Context)

/-- The daily-loss window of `_is_mainnet_snapshot_risk_ready`. -/
def inWindow (start stop now : ℤ) : Bool :=
  hour start == 0 && minute start == 0 && second start == 0 && microsecond start == 0 &&
    start ≤ stop && stop ≤ start + day && start ≤ now && now < stop

/-- The balances, leverages and notional within their limits. -/
def limitsHold (limits : TestnetSafetyLimits) (s : ExchangeAccountSnapshot) : Bool :=
  0 < s.marginBalance && s.marginBalance ≤ limits.maxCollateral &&
    0 < s.walletBalance && s.walletBalance ≤ limits.maxCollateral && 0 < s.availableBalance &&
    0 ≤ s.effectiveLeverage && s.effectiveLeverage ≤ limits.maxLeverage &&
    0 ≤ s.totalPositionNotional && s.totalPositionNotional ≤ limits.maxTotalOpenNotional

/-- The checks of `_is_mainnet_snapshot_risk_ready` behind the lease. -/
def accountRiskReady (limits : TestnetSafetyLimits) (now : ℤ) (s : ExchangeAccountSnapshot) :
    Bool :=
  Text.upper s.collateralAsset == "USDC" && Text.upper s.riskCurrency == "USDC" &&
    Text.upper s.dailyLossAsset == "USDC" && s.dailyLossKnown && s.dailyPnlIncludesFees &&
    s.dailyPnlIncludesFunding && s.configuredLeverageKnown && s.marginModeKnown &&
    supportedModes.contains (Text.upper s.marginMode) &&
      Text.upper s.liquidationSafety == "KNOWN" &&
    match s.configuredLeverage, s.dailyRealizedPnl with
    | some configuredLeverage, some dailyPnl =>
      limitsHold limits s && 0 < configuredLeverage && configuredLeverage ≤ limits.maxLeverage &&
        dailyLoss c dailyPnl s.unrealizedPnl < limits.maxDailyLoss &&
        (s.totalPositionNotional == 0 || s.minLiquidationDistancePct.any fun d => 0 < d) &&
        match s.dailyLossWindowStart.bind Datetime.utc, s.dailyLossWindowEnd.bind Datetime.utc with
        | some start, some stop => inWindow start stop now
        | _, _ => false
    | _, _ => false

/-- `_is_mainnet_snapshot_risk_ready`; `fenced` tells whether the adapter needs no lease or holds a
fencing token. -/
def isMainnetSnapshotRiskReady (w : Surroundings) (snapshot : Option ExchangeAccountSnapshot)
    (freshnessVerified : Option Bool) (requireExecutionLease fenced : Bool) : Bool :=
  match snapshot with
  | none => false
  | some s =>
    s.valid && w.env == .mainnet &&
      freshnessVerified.getD (isAccountSnapshotFresh w.env w.now w.maxAge s) &&
      (!requireExecutionLease || fenced) &&
      accountRiskReady c (TestnetSafetyLimits.fromEnvironment w.environ .mainnet) w.now s

/-! ### What both check -/

/-- The daily-loss window of a snapshot as UTC times. -/
def window (s : ExchangeAccountSnapshot) : Option (ℤ × ℤ) :=
  match s.dailyLossWindowStart.bind Datetime.utc, s.dailyLossWindowEnd.bind Datetime.utc with
  | some start, some stop => some (start, stop)
  | _, _ => none

/-- A window starts with a day and is not longer than that day. -/
def IsDayWindow (start stop : ℤ) : Prop :=
  start = startOfDay start ∧ start ≤ stop ∧ stop ≤ start + day

/-- What both validators check. -/
structure Shared (w : Surroundings) (s : ExchangeAccountSnapshot) : Prop where
  fresh : isAccountSnapshotFresh w.env w.now w.maxAge s = true
  available : 0 < s.availableBalance
  collateral : Text.upper s.collateralAsset = "USDC"
  currency : Text.upper s.riskCurrency = "USDC"
  mode : s.marginModeKnown = true ∧ Text.upper s.marginMode ∈ supportedModes
  margin : 0 < s.marginBalance ∧ s.marginBalance ≤ w.limits.maxCollateral
  wallet : 0 < s.walletBalance ∧ s.walletBalance ≤ w.limits.maxCollateral
  leverage : 0 ≤ s.effectiveLeverage ∧ s.effectiveLeverage ≤ w.limits.maxLeverage
  configured : s.configuredLeverageKnown = true ∧
    ∃ l, s.configuredLeverage = some l ∧ 0 < l ∧ l ≤ w.limits.maxLeverage
  observed : s.dailyLossKnown = true ∧ Text.upper s.dailyLossAsset = "USDC" ∧
    s.dailyPnlIncludesFees = true ∧ s.dailyPnlIncludesFunding = true
  window : ∃ start stop, window s = some (start, stop) ∧ IsDayWindow start stop
  loss : ∃ realized, s.dailyRealizedPnl = some realized ∧
    dailyLoss c realized s.unrealizedPnl < w.limits.maxDailyLoss

/-- The daily-loss window of the snapshot contains the instant. -/
def WindowContains (s : ExchangeAccountSnapshot) (now : ℤ) : Prop :=
  ∃ start stop, window s = some (start, stop) ∧ start ≤ now ∧ now < stop

/-- What `_is_mainnet_snapshot_risk_ready` asks of the liquidation distance. -/
def LiquidationReady (s : ExchangeAccountSnapshot) : Prop :=
  Text.upper s.liquidationSafety = "KNOWN" ∧
    (s.totalPositionNotional = 0 ∨ ∃ d, s.minLiquidationDistancePct = some d ∧ 0 < d)

variable {c} {w : Surroundings} {s : ExchangeAccountSnapshot}

/-! ### The gate -/

theorem mainnetCaps_ok (hmax : w.limits.maxLeverage ≤ 10) : mainnetCaps w.limits s = .ok () ↔
    (Text.upper s.collateralAsset = "USDC" ∧ Text.upper s.riskCurrency = "USDC") ∧
    (s.marginModeKnown = true ∧ Text.upper s.marginMode ∈ supportedModes) ∧
    0 < s.marginBalance ∧
    (0 < s.walletBalance ∧ s.walletBalance ≤ w.limits.maxCollateral ∧
      s.marginBalance ≤ w.limits.maxCollateral) ∧
    (0 ≤ s.effectiveLeverage ∧ s.effectiveLeverage ≤ w.limits.maxLeverage) ∧
    s.configuredLeverageKnown = true ∧
      ∃ l, s.configuredLeverage = some l ∧ 0 < l ∧ l ≤ w.limits.maxLeverage := by
  unfold mainnetCaps
  cases hl : s.configuredLeverage with
  | none => simp
  | some l =>
    have hten : (¬ l ≤ 0 ∧ ¬ 10 < l ∧ ¬ w.limits.maxLeverage < l) ↔
        0 < l ∧ l ≤ w.limits.maxLeverage := by
      constructor
      · rintro ⟨hpos, -, hle⟩
        exact ⟨not_le.mp hpos, not_lt.mp hle⟩
      · rintro ⟨hpos, hle⟩
        exact ⟨not_le.mpr hpos, not_lt.mpr (hle.trans hmax), not_lt.mpr hle⟩
    simp only [except_guard_ok, except_check_ok, not_or, hten]
    simp

theorem mainnetDailyLoss_ok : mainnetDailyLoss c w.limits s = .ok () ↔
    (s.dailyLossKnown = true ∧ Text.upper s.dailyLossAsset = "USDC" ∧
      s.dailyPnlIncludesFees = true ∧ s.dailyPnlIncludesFunding = true) ∧
    (∃ start stop, window s = some (start, stop) ∧ IsDayWindow start stop) ∧
    ∃ realized, s.dailyRealizedPnl = some realized ∧
      dailyLoss c realized s.unrealizedPnl < w.limits.maxDailyLoss := by
  unfold mainnetDailyLoss window IsDayWindow
  rw [except_guard_ok]
  refine and_congr (by simp [and_assoc]) ?_
  cases hstart : s.dailyLossWindowStart with
  | none => simp
  | some start =>
    cases hstop : s.dailyLossWindowEnd with
    | none => simp
    | some stop =>
      cases hus : start.utc with
      | none => simp [hus]
      | some u =>
        cases hue : stop.utc with
        | none => simp [hue]
        | some v =>
          simp only [hus, hue, Option.bind_some, except_guard_ok]
          refine and_congr (by simp) ?_
          cases hr : s.dailyRealizedPnl with
          | none => simp
          | some realized => simp [except_check_ok]

/-- **The account section of the gate.** -/
theorem accountSection_ok (henv : w.env = .mainnet) (hmax : w.limits.maxLeverage ≤ 10) :
    accountSection c w (some s) = .ok () ↔
      Shared c w s ∧ marginUtilizationIsSafe w.environ s = true ∧
        liquidationSafetyIsKnownAndPositive s = true := by
  unfold accountSection
  by_cases hfresh : isAccountSnapshotFresh w.env w.now w.maxAge s = true
  · simp only [Option.filter_some, hfresh, if_true, except_guard_ok, if_pos henv, except_bind_ok,
      mainnetCaps_ok hmax, mainnetDailyLoss_ok]
    constructor
    · rintro ⟨havailable, hutilization, hliquidation, -, ⟨⟨hcollateral, hcurrency⟩, hmode, hmargin,
        ⟨hwallet, hwalletcap, hmargincap⟩, hleverage, hconfigured⟩, hobserved, hwindow, hloss⟩
      refine ⟨⟨hfresh, ?_, hcollateral, hcurrency, hmode, ⟨hmargin, hmargincap⟩,
        ⟨hwallet, hwalletcap⟩, hleverage, hconfigured, hobserved, hwindow, hloss⟩, ?_, ?_⟩
      · simpa [availableBalanceIsPositive] using havailable
      · simpa using hutilization
      · simpa using hliquidation
    · rintro ⟨h, hutilization, hliquidation⟩
      refine ⟨?_, by simpa using hutilization, by simpa using hliquidation, ⟨⟩,
        ⟨⟨h.collateral, h.currency⟩,
        h.mode, h.margin.1, ⟨h.wallet.1, h.wallet.2, h.margin.2⟩, h.leverage, h.configured⟩,
        h.observed, h.window, h.loss⟩
      simpa [availableBalanceIsPositive] using h.available
  · simp only [Option.filter_some, hfresh]
    constructor
    · intro h
      simp at h
    · rintro ⟨h, -⟩
      exact absurd h.fresh hfresh

/-! ### The validator of the Worker -/

theorem inWindow_iff (start stop now : ℤ) : inWindow start stop now = true ↔
    IsDayWindow start stop ∧ start ≤ now ∧ now < stop := by
  unfold IsDayWindow
  rw [startOfDay_eq_iff]
  simp only [inWindow, Bool.and_eq_true, beq_iff_eq, decide_eq_true_eq]
  tauto

theorem nonnegative_of_fresh {x : ℚ} (h : isAccountSnapshotFresh w.env w.now w.maxAge s = true)
    (hx : x ∈ s.nonnegative) : 0 ≤ x := by
  unfold isAccountSnapshotFresh at h
  cases ht : s.timestamp.utc with
  | none => simp [ht] at h
  | some t =>
    cases hm : w.maxAge with
    | none => simp [ht, hm] at h
    | some m =>
      simp only [ht, hm, Bool.and_eq_true, List.all_eq_true, decide_eq_true_eq] at h
      exact h.2.2 x hx

theorem valid_of_fresh (h : isAccountSnapshotFresh w.env w.now w.maxAge s = true) :
    s.valid = true := by
  simp only [isAccountSnapshotFresh, Bool.and_eq_true] at h
  exact h.1.1

theorem bounds_of_window {start stop : ℤ} (h : window s = some (start, stop)) :
    s.dailyLossWindowStart.bind Datetime.utc = some start ∧
      s.dailyLossWindowEnd.bind Datetime.utc = some stop := by
  unfold window at h
  cases hus : s.dailyLossWindowStart.bind Datetime.utc with
  | none => simp [hus] at h
  | some u =>
    cases hue : s.dailyLossWindowEnd.bind Datetime.utc with
    | none => simp [hue] at h
    | some v => simpa [hus, hue] using h

/-- **The validator of the Worker**, without the lease. -/
theorem isMainnetSnapshotRiskReady_iff (henv : w.env = .mainnet)
    (hlimits : w.limits = .fromEnvironment w.environ .mainnet) (fenced : Bool) :
    isMainnetSnapshotRiskReady c w (some s) none false fenced = true ↔
      Shared c w s ∧ LiquidationReady s ∧ WindowContains s w.now ∧
        s.totalPositionNotional ≤ w.limits.maxTotalOpenNotional := by
  unfold isMainnetSnapshotRiskReady accountRiskReady WindowContains
  rw [← hlimits]
  constructor
  · intro h
    cases hl : s.configuredLeverage with
    | none => simp [hl] at h
    | some l =>
      cases hr : s.dailyRealizedPnl with
      | none => simp [hl, hr] at h
      | some realized =>
        cases hus : s.dailyLossWindowStart.bind Datetime.utc with
        | none => simp [hl, hr, hus] at h
        | some start =>
          cases hue : s.dailyLossWindowEnd.bind Datetime.utc with
          | none => simp [hl, hr, hus, hue] at h
          | some stop =>
            have hwindow : window s = some (start, stop) := by simp [window, hus, hue]
            simp only [hl, hr, hus, hue, Option.getD_none, Bool.not_false, Bool.true_or,
              Bool.and_true, Bool.and_eq_true, beq_iff_eq, decide_eq_true_eq, limitsHold,
              inWindow_iff, Bool.or_eq_true, Option.any_eq_true, List.contains_iff_mem] at h
            obtain ⟨⟨-, hfresh⟩,
                ⟨⟨⟨⟨⟨⟨⟨⟨⟨hcollateral, hcurrency⟩, hasset⟩, hknown⟩, hfees⟩, hfunding⟩,
              hconfigured⟩, hmode⟩, hmodes⟩, hsafety⟩, ⟨⟨⟨⟨⟨⟨⟨⟨⟨⟨⟨⟨hmargin, hmargincap⟩, hwallet⟩,
              hwalletcap⟩, havailable⟩, hlev⟩, hlevcap⟩, -⟩, hcap⟩, hpos⟩, hle⟩, hloss⟩, hdistance⟩,
              hday, hfrom, hto⟩ := h
            exact ⟨⟨hfresh, havailable, hcollateral, hcurrency, ⟨hmode, hmodes⟩,
              ⟨hmargin, hmargincap⟩, ⟨hwallet, hwalletcap⟩, ⟨hlev, hlevcap⟩,
              ⟨hconfigured, l, hl, hpos, hle⟩, ⟨hknown, hasset, hfees, hfunding⟩,
              ⟨start, stop, hwindow, hday⟩, ⟨realized, hr, hloss⟩⟩, ⟨hsafety, hdistance⟩,
              ⟨start, stop, hwindow, hfrom, hto⟩, hcap⟩
  · rintro ⟨h, ⟨hsafety, hdistance⟩, ⟨start, stop, hwindow, hfrom, hto⟩, hcap⟩
    obtain ⟨hconfigured, l, hl, hpos, hle⟩ := h.configured
    obtain ⟨realized, hr, hloss⟩ := h.loss
    obtain ⟨start', stop', hwindow', hday⟩ := h.window
    obtain ⟨rfl, rfl⟩ : start' = start ∧ stop' = stop := by
      simpa using hwindow'.symm.trans hwindow
    obtain ⟨hus, hue⟩ := bounds_of_window hwindow
    have hvalid : s.valid = true := valid_of_fresh h.fresh
    have hnotional : 0 ≤ s.totalPositionNotional :=
      nonnegative_of_fresh h.fresh (by simp [ExchangeAccountSnapshot.nonnegative])
    simp only [hl, hr, hus, hue, hvalid, henv ▸ h.fresh, henv, h.collateral, h.currency,
      h.observed.1, h.observed.2.1, h.observed.2.2.1, h.observed.2.2.2, hconfigured, h.mode.1,
      List.contains_iff_mem.mpr h.mode.2, hsafety, limitsHold, h.margin.1, h.margin.2, h.wallet.1,
      h.wallet.2, h.available, h.leverage.1, h.leverage.2, hnotional, hcap, hpos, hle, hloss,
      (inWindow_iff start' stop' w.now).mpr ⟨hday, hfrom, hto⟩]
    simpa [Option.any_eq_true] using hdistance

/-! ### Agreement -/

/-- What the gate asks of the liquidation is more than what the validator of the Worker asks. -/
theorem liquidationReady_of_known (h : liquidationSafetyIsKnownAndPositive s = true) :
    LiquidationReady s := by
  simp only [liquidationSafetyIsKnownAndPositive, Bool.and_eq_true, beq_iff_eq] at h
  refine ⟨by rw [h.1]; decide, ?_⟩
  cases hd : s.minLiquidationDistancePct with
  | none =>
    rw [hd] at h
    exact .inl (by simpa using h.2)
  | some d =>
    rw [hd] at h
    exact .inr ⟨d, rfl, by simpa using h.2⟩

/-- The two validators agree on a snapshot, and the gate accepts none outside its loss window. -/
structure Agree (c : Context) (w : Surroundings) (s : ExchangeAccountSnapshot) : Prop where
  sound : accountSection c w (some s) = .ok () →
    ∀ fenced, isMainnetSnapshotRiskReady c w (some s) none false fenced = true
  complete : (∃ fenced, isMainnetSnapshotRiskReady c w (some s) none false fenced = true) →
    s.marginUtilizationPct < configuredLimit w.environ → accountSection c w (some s) = .ok ()
  current : accountSection c w (some s) = .ok () → WindowContains s w.now

/-- The conditions only one validator has make no difference: where all shared conditions hold, a
snapshot the gate takes for safe from liquidation is inside its window and the total cap, and one
inside both and with a liquidation state the Worker accepts is one the gate takes for safe. -/
structure Aligned (c : Context) (w : Surroundings) (s : ExchangeAccountSnapshot) : Prop where
  inside : Shared c w s → s.marginUtilizationPct < configuredLimit w.environ →
    liquidationSafetyIsKnownAndPositive s = true →
      WindowContains s w.now ∧ s.totalPositionNotional ≤ w.limits.maxTotalOpenNotional
  safe : Shared c w s → s.marginUtilizationPct < configuredLimit w.environ →
    WindowContains s w.now →
    s.totalPositionNotional ≤ w.limits.maxTotalOpenNotional → LiquidationReady s →
      liquidationSafetyIsKnownAndPositive s = true

/-- For a fresh snapshot the margin utilization is safe if it is below the limit. -/
theorem marginUtilizationIsSafe_iff (h : Shared c w s) :
    marginUtilizationIsSafe w.environ s = true ↔
      s.marginUtilizationPct < configuredLimit w.environ := by
  have hnonneg : 0 ≤ s.marginUtilizationPct :=
    nonnegative_of_fresh h.fresh (by simp [ExchangeAccountSnapshot.nonnegative])
  simp [marginUtilizationIsSafe, hnonneg]

/-- **When the two validators agree**: exactly on the snapshots on which the conditions that only
one of them has make no difference. -/
theorem validators_agree_iff (c : Context) (w : Surroundings) (s : ExchangeAccountSnapshot)
    (henv : w.env = .mainnet) (hlimits : w.limits = .fromEnvironment w.environ .mainnet) :
    Agree c w s ↔ Aligned c w s := by
  have hmax : w.limits.maxLeverage ≤ 10 := hlimits ▸ maxLeverage_mainnet w.environ
  have hgate : accountSection c w (some s) = .ok () ↔ _ := accountSection_ok henv hmax
  have hready (fenced : Bool) : isMainnetSnapshotRiskReady c w (some s) none false fenced = true ↔
      _ :=
    isMainnetSnapshotRiskReady_iff henv hlimits fenced
  constructor
  · intro h
    constructor
    · intro hshared hutilization hknown
      have hok :=
        hgate.mpr ⟨hshared, (marginUtilizationIsSafe_iff hshared).mpr hutilization, hknown⟩
      obtain ⟨-, -, hcontains, hcap⟩ := (hready true).mp (h.sound hok true)
      exact ⟨hcontains, hcap⟩
    · intro hshared hutilization hcontains hcap hliquidation
      have haccepted := (hready true).mpr ⟨hshared, hliquidation, hcontains, hcap⟩
      exact (hgate.mp (h.complete ⟨true, haccepted⟩ hutilization)).2.2
  · intro h
    have hinside (hok : accountSection c w (some s) = .ok ()) :
        WindowContains s w.now ∧ s.totalPositionNotional ≤ w.limits.maxTotalOpenNotional := by
      obtain ⟨hshared, hutilization, hknown⟩ := hgate.mp hok
      exact h.inside hshared ((marginUtilizationIsSafe_iff hshared).mp hutilization) hknown
    constructor
    · intro hok fenced
      obtain ⟨hshared, -, hknown⟩ := hgate.mp hok
      exact (hready fenced).mpr ⟨hshared, liquidationReady_of_known hknown, hinside hok⟩
    · rintro ⟨fenced, haccepted⟩ hutilization
      obtain ⟨hshared, hliquidation, hcontains, hcap⟩ := (hready fenced).mp haccepted
      exact hgate.mpr ⟨hshared, (marginUtilizationIsSafe_iff hshared).mpr hutilization,
        h.safe hshared hutilization hcontains hcap hliquidation⟩
    · intro hok
      exact (hinside hok).1

/-! ### Just after midnight -/

/-- A flat account observed a second before midnight, with the loss window of that day. -/
def beforeMidnight : ExchangeAccountSnapshot where
  walletBalance := 100
  marginBalance := 100
  availableBalance := 100
  unrealizedPnl := 0
  totalInitialMargin := 0
  totalMaintMargin := 0
  positionInitialMargin := 0
  totalPositionNotional := 0
  effectiveLeverage := 0
  marginUtilizationPct := 0
  liquidationSafety := "KNOWN"
  exchangeEnvironment := "BINANCE_MAINNET"
  dailyRealizedPnl := some (-4)
  dailyLossKnown := true
  collateralAsset := "USDC"
  riskCurrency := "USDC"
  dailyLossAsset := "USDC"
  dailyPnlIncludesFees := true
  dailyPnlIncludesFunding := true
  dailyLossWindowStart := some ⟨0, some 0⟩
  dailyLossWindowEnd := some ⟨day, some 0⟩
  configuredLeverage := some 5
  configuredLeverageKnown := true
  marginMode := "CROSS"
  marginModeKnown := true
  valid := true
  timestamp := ⟨day - 1000000, some 0⟩

/-- The Mainnet with its default limits, so many microseconds after midnight. -/
def afterMidnight (micros : ℤ) : Surroundings where
  env := .mainnet
  environ := fun _ => none
  limits := .fromEnvironment (fun _ => none) .mainnet
  maxAge := some 30
  now := day + micros

/-- Half a second before midnight the validators agree on that snapshot. -/
theorem validators_agree_beforeMidnight :
    Agree .default (afterMidnight (-500000)) beforeMidnight := by
  refine (validators_agree_iff _ _ _ rfl rfl).mpr ⟨fun _ _ _ => ⟨⟨0, day, ?_⟩, ?_⟩,
    fun _ _ _ _ _ => ?_⟩
  · decide +kernel
  · decide +kernel
  · decide +kernel

/-- Five seconds after midnight the gate accepts the snapshot, and the Worker does not. -/
theorem stale_window_accepted :
    ¬ ∀ (c : Context) (w : Surroundings) (s : ExchangeAccountSnapshot), w.env = .mainnet →
      w.limits = .fromEnvironment w.environ .mainnet → s.valid = true → Agree c w s := by
  intro hall
  have hagree := hall .default (afterMidnight 5000000) beforeMidnight rfl rfl rfl
  have haccepted : accountSection .default (afterMidnight 5000000)
      (some beforeMidnight) = .ok () := by
    decide +kernel
  have hrefused : isMainnetSnapshotRiskReady .default (afterMidnight 5000000) (some beforeMidnight)
      none false true = false := by decide +kernel
  have hready := hagree.sound haccepted true
  rw [hrefused] at hready
  cases hready

end Blessing.Binance.MainnetReady
