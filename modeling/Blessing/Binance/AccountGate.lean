import Blessing.Binance.Models
import Blessing.Lib.Rounding

/-! # The account checks in front of a risk-increasing order

The account section of `OrderExecutionGate.check` and the helper checks of
`venues/binance/gates.py`, `is_account_snapshot_fresh` of the adapter, and the limits of
`venues/binance/models.py`. The numbers of a snapshot are finite; what is computed from them is
rounded by a context. -/

namespace Blessing.Binance.AccountGate

open Blessing.Lib Blessing.Lib.Rounding
open Blessing.Binance.Models (BinanceEnvironment)

/-! ### Times -/

/-- A `datetime`: what its clock shows, in microseconds, and its offset from UTC unless it is
naive. -/
structure Datetime where
  wall : ℤ
  utcOffset : Option ℤ
  deriving DecidableEq

/-- `timedelta(days=1)` -/
def day : ℤ := 86400000000

/-- `astimezone(timezone.utc)`, if the time is not naive. -/
def Datetime.utc (t : Datetime) : Option ℤ := t.utcOffset.map (t.wall - ·)

def hour (t : ℤ) : ℤ := t / 3600000000 % 24

def minute (t : ℤ) : ℤ := t / 60000000 % 60

def second (t : ℤ) : ℤ := t / 1000000 % 60

def microsecond (t : ℤ) : ℤ := t % 1000000

/-- `t.replace(hour=0, minute=0, second=0, microsecond=0)` -/
def startOfDay (t : ℤ) : ℤ := t - t % day

/-- The first instant of a day is the one with all clock fields zero. -/
theorem startOfDay_eq_iff (t : ℤ) : t = startOfDay t ↔
    hour t = 0 ∧ minute t = 0 ∧ second t = 0 ∧ microsecond t = 0 := by
  unfold startOfDay day hour minute second microsecond
  constructor
  · intro h
    refine ⟨?_, ?_, ?_, ?_⟩ <;> omega
  · rintro ⟨hhour, hminute, hsecond, hmicro⟩
    omega

/-! ### Snapshots -/

/-- `ExchangeAccountSnapshot` with its times as they are given. -/
structure ExchangeAccountSnapshot where
  walletBalance : ℚ
  marginBalance : ℚ
  availableBalance : ℚ
  unrealizedPnl : ℚ
  totalInitialMargin : ℚ
  totalMaintMargin : ℚ
  positionInitialMargin : ℚ
  totalPositionNotional : ℚ
  effectiveLeverage : ℚ
  marginUtilizationPct : ℚ
  minLiquidationDistancePct : Option ℚ := none
  liquidationSafety : String := "UNKNOWN"
  exchangeEnvironment : String := "UNKNOWN"
  dailyRealizedPnl : Option ℚ := none
  dailyLossKnown : Bool := false
  collateralAsset : String := "UNKNOWN"
  riskCurrency : String := "UNKNOWN"
  dailyLossAsset : String := "UNKNOWN"
  dailyPnlIncludesFees : Bool := false
  dailyPnlIncludesFunding : Bool := false
  dailyLossWindowStart : Option Datetime := none
  dailyLossWindowEnd : Option Datetime := none
  configuredLeverage : Option ℚ := none
  configuredLeverageKnown : Bool := false
  marginMode : String := "UNKNOWN"
  marginModeKnown : Bool := false
  valid : Bool := false
  timestamp : Datetime
  deriving DecidableEq

/-- The fields a fresh snapshot must not have negative. -/
def ExchangeAccountSnapshot.nonnegative (s : ExchangeAccountSnapshot) : List ℚ :=
  [s.walletBalance, s.marginBalance, s.availableBalance, s.totalInitialMargin, s.totalMaintMargin,
    s.positionInitialMargin, s.totalPositionNotional, s.effectiveLeverage, s.marginUtilizationPct]

/-- `is_account_snapshot_fresh` at an instant; `maxAge` is `ACCOUNT_SNAPSHOT_MAX_AGE_SEC`, nothing
if it is not finite. -/
def isAccountSnapshotFresh (env : BinanceEnvironment) (now : ℤ) (maxAge : Option ℚ)
    (s : ExchangeAccountSnapshot) : Bool :=
  s.valid && s.exchangeEnvironment == env.label &&
    match s.timestamp.utc, maxAge with
    | some timestamp, some maxAge =>
      let age : ℚ := (now - timestamp : ℤ) / 1000000
      0 < maxAge && 0 ≤ age && age ≤ maxAge && s.nonnegative.all fun x => 0 ≤ x
    | _, _ => false

/-! ### Limits -/

/-- `TestnetSafetyLimits` -/
structure TestnetSafetyLimits where
  environment : BinanceEnvironment
  allowedSymbols : List String
  maxSingleOrderNotional : ℚ
  maxTotalOpenNotional : ℚ
  maxOpenOrders : ℕ
  maxActiveExposureChains : ℕ
  maxCollateral : ℚ
  maxDailyLoss : ℚ
  maxLeverage : ℚ
  deriving DecidableEq

/-- The defaults of `from_environment`. -/
def TestnetSafetyLimits.defaults : BinanceEnvironment → TestnetSafetyLimits
  | .testnet => ⟨.testnet, ["BTCUSDT"], 100, 100, 1, 1, 100, 5, 2⟩
  | .mainnet => ⟨.mainnet, ["ETHUSDC"], 50, 1000, 1, 1, 250, 5, 10⟩

/-- The environment variables. -/
abbrev Environ := String → Option String

/-- `value.strip().lower() in {"1", "true", "yes", "on"}` -/
def isOn (value : String) : Bool :=
  ["1", "true", "yes", "on"].contains (Text.lower (Text.strip value))

/-- `positive_decimal` -/
def positiveDecimal (environ : Environ) (name : String) (fallback : ℚ) : ℚ :=
  match (environ name).bind fun raw => (Decimal.ofText raw).bind Decimal.Number.finite? with
  | some d => if 0 < d.toRat then d.toRat else fallback
  | none => fallback

/-- `positive_int` -/
def positiveInt (environ : Environ) (name : String) (fallback : ℕ) : ℕ :=
  match (environ name).bind Decimal.intOfText with
  | some n => if 0 < n then n.toNat else fallback
  | none => fallback

/-- The texts between the commas, normalized, without the empty ones. -/
def symbolList (raw : String) : List String :=
  ((raw.splitOn ",").map fun symbol => Text.upper (Text.strip symbol)).filter (· ≠ "")

/-- The symbols of `from_environment`. -/
def allowedSymbolsOf (raw : Option String) (approved : Bool) (defaults : List String) :
    List String :=
  match raw with
  | none => defaults
  | some raw =>
    let parsed := if symbolList raw = [] then defaults else symbolList raw
    if approved then parsed
    else if parsed.filter (defaults.contains ·) = [] then defaults
    else parsed.filter (defaults.contains ·)

/-- `from_environment`: no cap of the Mainnet can be widened. -/
def TestnetSafetyLimits.fromEnvironment (environ : Environ) (env : BinanceEnvironment) :
    TestnetSafetyLimits :=
  let d := TestnetSafetyLimits.defaults env
  let name : String := if env = .mainnet then "MAINNET" else "TESTNET"
  let approved := env = .testnet ∧ ((environ "TESTNET_LIMITS_OVERRIDE_APPROVED").any isOn)
  let capped (x cap : ℚ) : ℚ := if approved then x else min x cap
  let cappedNat (n cap : ℕ) : ℕ := if approved then n else min n cap
  let singleOrder := capped
    (positiveDecimal environ (name ++ "_MAX_SINGLE_ORDER_NOTIONAL") d.maxSingleOrderNotional)
    d.maxSingleOrderNotional
  let totalOpen := capped
    (positiveDecimal environ (name ++ "_MAX_TOTAL_OPEN_NOTIONAL") d.maxTotalOpenNotional)
    d.maxTotalOpenNotional
  { environment := env
    allowedSymbols :=
    allowedSymbolsOf (environ (name ++ "_ALLOWED_SYMBOLS")) approved d.allowedSymbols
    maxSingleOrderNotional := singleOrder
    maxTotalOpenNotional := max totalOpen singleOrder
    maxOpenOrders := cappedNat (positiveInt environ (name ++ "_MAX_OPEN_ORDERS") d.maxOpenOrders)
      d.maxOpenOrders
    maxActiveExposureChains := cappedNat
      (positiveInt environ (name ++ "_MAX_ACTIVE_EXPOSURE_CHAINS") d.maxActiveExposureChains)
      d.maxActiveExposureChains
    maxCollateral := capped (positiveDecimal environ (name ++ "_MAX_COLLATERAL") d.maxCollateral)
      d.maxCollateral
    maxDailyLoss := capped (positiveDecimal environ (name ++ "_MAX_DAILY_LOSS") d.maxDailyLoss)
      d.maxDailyLoss
    maxLeverage := capped (positiveDecimal environ (name ++ "_MAX_LEVERAGE") d.maxLeverage)
      d.maxLeverage }

/-- The leverage cap of the Mainnet is at most its default. -/
theorem maxLeverage_mainnet (environ : Environ) :
    (TestnetSafetyLimits.fromEnvironment environ .mainnet).maxLeverage ≤ 10 := by
  simp only [TestnetSafetyLimits.fromEnvironment, reduceCtorEq, false_and, if_false]
  exact min_le_right _ _

/-! ### Helper checks -/

/-- `_liquidation_safety_is_known_and_positive` -/
def liquidationSafetyIsKnownAndPositive (s : ExchangeAccountSnapshot) : Bool :=
  s.liquidationSafety == "KNOWN" &&
    match s.minLiquidationDistancePct with
    | none => s.totalPositionNotional == 0
    | some distance => 0 < distance

/-- `_available_balance_is_positive` -/
def availableBalanceIsPositive (s : ExchangeAccountSnapshot) : Bool := 0 < s.availableBalance

/-- The limit of `_margin_utilization_is_safe`, from `MAX_MARGIN_UTILIZATION_PCT`. -/
def configuredLimit (environ : Environ) : ℚ :=
  match (Decimal.ofText ((environ "MAX_MARGIN_UTILIZATION_PCT").getD "70")).bind
      Decimal.Number.finite? with
  | some d => if d.toRat ≤ 0 ∨ 100 < d.toRat then 70 else d.toRat
  | none => 70

/-- `_margin_utilization_is_safe` -/
def marginUtilizationIsSafe (environ : Environ) (s : ExchangeAccountSnapshot) : Bool :=
  0 ≤ s.marginUtilizationPct && s.marginUtilizationPct < configuredLimit environ

/-- The margin modes both validators support. -/
def supportedModes : List String := ["CROSS", "ISOLATED", "SINGLE_ASSET_CROSS"]

/-! ### The account section -/

/-- What the checks read besides the snapshot. -/
structure Surroundings where
  env : BinanceEnvironment
  environ : Environ
  limits : TestnetSafetyLimits
  maxAge : Option ℚ
  now : ℤ

variable (c : Context)

/-- `max(Decimal("0"), -(realized + unrealized))` -/
def dailyLoss (realized unrealized : ℚ) : ℚ := max 0 (c.minus (c.add realized unrealized))

/-- The collateral and leverage checks of the Mainnet. -/
def mainnetCaps (limits : TestnetSafetyLimits) (s : ExchangeAccountSnapshot) :
    Except String Unit := do
  match s.configuredLeverage with
  | none => throw "Mainnet collateral or leverage is unknown"
  | some configuredLeverage => do
    if Text.upper s.collateralAsset ≠ "USDC" ∨ Text.upper s.riskCurrency ≠ "USDC" then
      throw "Mainnet USDC collateral is not verified"
    if !s.marginModeKnown || !supportedModes.contains (Text.upper s.marginMode) then
      throw "Mainnet margin mode is unknown or unsupported"
    if s.marginBalance ≤ 0 then throw "Mainnet collateral is invalid"
    if s.walletBalance ≤ 0 ∨ limits.maxCollateral < s.walletBalance ∨
        limits.maxCollateral < s.marginBalance then
      throw "Mainnet collateral cap exceeded"
    if s.effectiveLeverage < 0 ∨ limits.maxLeverage < s.effectiveLeverage then
      throw "Mainnet effective leverage cap exceeded"
    if s.configuredLeverageKnown = false ∨ configuredLeverage ≤ 0 ∨ 10 < configuredLeverage ∨
        limits.maxLeverage < configuredLeverage then
      throw "Mainnet configured ETHUSDC leverage cap exceeded or unknown"

/-- The checks of the daily loss on the Mainnet. -/
def mainnetDailyLoss (limits : TestnetSafetyLimits) (s : ExchangeAccountSnapshot) :
    Except String Unit := do
  if !s.dailyLossKnown || Text.upper s.dailyLossAsset != "USDC" || !s.dailyPnlIncludesFees ||
      !s.dailyPnlIncludesFunding then
    throw "Mainnet daily loss observation is unknown"
  match s.dailyLossWindowStart, s.dailyLossWindowEnd with
  | some windowStart, some windowEnd =>
    match windowStart.utc, windowEnd.utc with
    | some windowStart, some windowEnd => do
      if windowStart ≠ startOfDay windowStart ∨ windowEnd < windowStart ∨
          windowStart + day < windowEnd then
        throw "Mainnet daily loss UTC window is invalid"
      match s.dailyRealizedPnl with
      | none => throw "Mainnet daily loss observation is invalid"
      | some realized =>
        if limits.maxDailyLoss ≤ dailyLoss c realized s.unrealizedPnl then
          throw "Mainnet daily loss cap exceeded"
    | _, _ => throw "Mainnet daily loss UTC window is not timezone-aware"
  | _, _ => throw "Mainnet daily loss UTC window is unknown"

/-- The account section of `OrderExecutionGate.check` for a risk-increasing order. -/
def accountSection (w : Surroundings) (snapshot : Option ExchangeAccountSnapshot) :
    Except String Unit := do
  match snapshot.filter (isAccountSnapshotFresh w.env w.now w.maxAge) with
  | none => throw ("Account snapshot is missing, stale, invalid, or not " ++ w.env.label)
  | some s => do
    if !availableBalanceIsPositive s then
      throw ("Available " ++ w.env.label ++ " balance is not positive")
    if !marginUtilizationIsSafe w.environ s then
      throw ("Margin utilization is at or above the " ++ w.env.label ++ " safety limit")
    if !liquidationSafetyIsKnownAndPositive s then throw "Liquidation safety is UNKNOWN"
    if w.env = .mainnet then do
      mainnetCaps w.limits s
      mainnetDailyLoss c w.limits s

end Blessing.Binance.AccountGate
