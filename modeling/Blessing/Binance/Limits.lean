import Blessing.Binance.AccountGate

/-! # Configured limits

What `TestnetSafetyLimits.from_environment` makes of the environment variables. Without the override
of the Testnet every limit is capped by its default; the total notional is raised again to that of a
single order, and can then exceed what the operator configured. -/

namespace Blessing.Binance.Limits

open Blessing.Lib
open Blessing.Binance.Models (BinanceEnvironment)
open Blessing.Binance.AccountGate

/-! ### Variables -/

/-- The value of a variable that holds a valid positive number. -/
def configuredDecimal (environ : Environ) (name : String) : Option ℚ :=
  ((environ name).bind fun raw => (Decimal.ofText raw).bind Decimal.Number.finite?).bind fun d =>
    if 0 < d.toRat then some d.toRat else none

/-- The value of a variable that holds a valid positive integer. -/
def configuredInt (environ : Environ) (name : String) : Option ℕ :=
  ((environ name).bind Decimal.intOfText).bind fun n => if 0 < n then some n.toNat else none

variable {environ : Environ} {env : BinanceEnvironment} {name : String}

theorem positiveDecimal_eq (fallback : ℚ) :
    positiveDecimal environ name fallback = (configuredDecimal environ name).getD fallback := by
  unfold positiveDecimal configuredDecimal
  cases (environ name).bind fun raw => (Decimal.ofText raw).bind Decimal.Number.finite? with
  | none => rfl
  | some d =>
    rw [Option.bind_some]
    dsimp only
    split_ifs <;> rfl

theorem positiveInt_eq (fallback : ℕ) :
    positiveInt environ name fallback = (configuredInt environ name).getD fallback := by
  unfold positiveInt configuredInt
  cases (environ name).bind Decimal.intOfText with
  | none => rfl
  | some n =>
    rw [Option.bind_some]
    dsimp only
    split_ifs <;> rfl

theorem configuredDecimal_pos {v : ℚ} (h : v ∈ configuredDecimal environ name) : 0 < v := by
  obtain ⟨d, -, hd⟩ := Option.bind_eq_some_iff.mp h
  split_ifs at hd with hpos
  cases hd
  exact hpos

theorem configuredInt_pos {v : ℕ} (h : v ∈ configuredInt environ name) : 0 < v := by
  obtain ⟨n, -, hn⟩ := Option.bind_eq_some_iff.mp h
  split_ifs at hn with hpos
  cases hn
  omega

/-! ### Caps -/

/-- A limit is positive, and at most its default and the value that is configured for it. -/
def Within {α : Type} [Zero α] [LinearOrder α] (limit default : α) (configured : Option α) : Prop :=
  0 < limit ∧ limit ≤ default ∧ ∀ v ∈ configured, limit ≤ v

section

variable {α : Type} [Zero α] [LinearOrder α] {default : α} {configured : Option α}

theorem within_capped (hdefault : 0 < default) (hpos : ∀ v ∈ configured, 0 < v) :
    Within (min (configured.getD default) default) default configured := by
  cases configured with
  | none =>
    rw [Option.getD_none, min_self]
    exact ⟨hdefault, le_rfl, fun v hv => by cases hv⟩
  | some v =>
    refine ⟨lt_min (hpos v rfl) hdefault, min_le_right _ _, fun w hw => ?_⟩
    cases hw
    exact min_le_left _ _

/-- A limit that is raised stays within its bounds if what raises it does. -/
theorem within_raised_iff {limit other : α} (hlimit : Within limit default configured)
    (hother : other ≤ default) :
    Within (max limit other) default configured ↔ ∀ v ∈ configured, other ≤ v := by
  constructor
  · exact fun h v hv => (le_max_right _ _).trans (h.2.2 v hv)
  · exact fun h => ⟨hlimit.1.trans_le (le_max_left _ _), max_le hlimit.2.1 hother,
      fun v hv => max_le (hlimit.2.2 v hv) (h v hv)⟩

end

/-! ### The limits of an environment -/

/-- The front of the names of the variables. -/
def routeName (env : BinanceEnvironment) : String := if env = .mainnet then "MAINNET" else "TESTNET"

/-- Wider limits are not approved: never on the Mainnet, on the Testnet without the
acknowledgement. -/
def Unapproved (environ : Environ) (env : BinanceEnvironment) : Prop :=
  env = .testnet → (environ "TESTNET_LIMITS_OVERRIDE_APPROVED").any isOn = false

/-- The limits of the environment only tighten the defaults and what is configured. -/
structure OnlyTightens (environ : Environ) (env : BinanceEnvironment)
    (limits : TestnetSafetyLimits) : Prop where
  singleOrder :
    Within limits.maxSingleOrderNotional (TestnetSafetyLimits.defaults env).maxSingleOrderNotional
    (configuredDecimal environ (routeName env ++ "_MAX_SINGLE_ORDER_NOTIONAL"))
  totalOpen :
    Within limits.maxTotalOpenNotional (TestnetSafetyLimits.defaults env).maxTotalOpenNotional
    (configuredDecimal environ (routeName env ++ "_MAX_TOTAL_OPEN_NOTIONAL"))
  openOrders : Within limits.maxOpenOrders (TestnetSafetyLimits.defaults env).maxOpenOrders
    (configuredInt environ (routeName env ++ "_MAX_OPEN_ORDERS"))
  chains : Within limits.maxActiveExposureChains
    (TestnetSafetyLimits.defaults env).maxActiveExposureChains
    (configuredInt environ (routeName env ++ "_MAX_ACTIVE_EXPOSURE_CHAINS"))
  collateral : Within limits.maxCollateral (TestnetSafetyLimits.defaults env).maxCollateral
    (configuredDecimal environ (routeName env ++ "_MAX_COLLATERAL"))
  dailyLoss : Within limits.maxDailyLoss (TestnetSafetyLimits.defaults env).maxDailyLoss
    (configuredDecimal environ (routeName env ++ "_MAX_DAILY_LOSS"))
  leverage : Within limits.maxLeverage (TestnetSafetyLimits.defaults env).maxLeverage
    (configuredDecimal environ (routeName env ++ "_MAX_LEVERAGE"))
  symbols : limits.allowedSymbols ≠ [] ∧
    ∀ symbol ∈ limits.allowedSymbols, symbol ∈ (TestnetSafetyLimits.defaults env).allowedSymbols

theorem allowedSymbolsOf_tight (raw : Option String) {defaults : List String}
    (hne : defaults ≠ []) :
    allowedSymbolsOf raw false defaults ≠ [] ∧ ∀ symbol ∈ allowedSymbolsOf raw false defaults,
      symbol ∈ defaults := by
  unfold allowedSymbolsOf
  cases raw with
  | none => exact ⟨hne, fun _ h => h⟩
  | some raw =>
    dsimp only
    rw [if_neg Bool.false_ne_true]
    split_ifs with hparsed hnone
    · exact ⟨hne, fun _ h => h⟩
    · exact ⟨hnone, fun symbol hsymbol => by simpa using (List.mem_filter.mp hsymbol).2⟩
    · exact ⟨hne, fun _ h => h⟩
    · rename_i hsome
      exact ⟨hsome, fun symbol hsymbol => by simpa using (List.mem_filter.mp hsymbol).2⟩

theorem defaults_pos (env : BinanceEnvironment) :
    0 < (TestnetSafetyLimits.defaults env).maxSingleOrderNotional ∧
    0 < (TestnetSafetyLimits.defaults env).maxTotalOpenNotional ∧
    0 < (TestnetSafetyLimits.defaults env).maxOpenOrders ∧
    0 < (TestnetSafetyLimits.defaults env).maxActiveExposureChains ∧
    0 < (TestnetSafetyLimits.defaults env).maxCollateral ∧
    0 < (TestnetSafetyLimits.defaults env).maxDailyLoss ∧
    0 < (TestnetSafetyLimits.defaults env).maxLeverage ∧
    (TestnetSafetyLimits.defaults env).maxSingleOrderNotional ≤
      (TestnetSafetyLimits.defaults env).maxTotalOpenNotional ∧
    (TestnetSafetyLimits.defaults env).allowedSymbols ≠ [] := by
  cases env <;> decide +kernel

/-- A number of the environment, capped by its default. -/
def cappedDecimal (environ : Environ) (env : BinanceEnvironment) (name : String) (default : ℚ) :
    ℚ :=
  min ((configuredDecimal environ (routeName env ++ name)).getD default) default

/-- A count of the environment, capped by its default. -/
def cappedInt (environ : Environ) (env : BinanceEnvironment) (name : String) (default : ℕ) : ℕ :=
  min ((configuredInt environ (routeName env ++ name)).getD default) default

/-- The limit on a single order, from its variable and its default. -/
def singleOrderLimit (environ : Environ) (env : BinanceEnvironment) : ℚ :=
  cappedDecimal environ env "_MAX_SINGLE_ORDER_NOTIONAL"
    (TestnetSafetyLimits.defaults env).maxSingleOrderNotional

theorem within_cappedDecimal (name : String) {default : ℚ} (hdefault : 0 < default) :
    Within (cappedDecimal environ env name default) default
      (configuredDecimal environ (routeName env ++ name)) :=
  within_capped hdefault fun _ => configuredDecimal_pos

theorem within_cappedInt (name : String) {default : ℕ} (hdefault : 0 < default) :
    Within (cappedInt environ env name default) default
      (configuredInt environ (routeName env ++ name)) :=
  within_capped hdefault fun _ => configuredInt_pos

theorem fromEnvironment_unapproved (hunapproved : Unapproved environ env) :
    TestnetSafetyLimits.fromEnvironment environ env =
      let d := TestnetSafetyLimits.defaults env
      { environment := env
        allowedSymbols :=
          allowedSymbolsOf (environ (routeName env ++ "_ALLOWED_SYMBOLS")) false d.allowedSymbols
        maxSingleOrderNotional := singleOrderLimit environ env
        maxTotalOpenNotional :=
          max (cappedDecimal environ env "_MAX_TOTAL_OPEN_NOTIONAL" d.maxTotalOpenNotional)
          (singleOrderLimit environ env)
        maxOpenOrders := cappedInt environ env "_MAX_OPEN_ORDERS" d.maxOpenOrders
        maxActiveExposureChains :=
          cappedInt environ env "_MAX_ACTIVE_EXPOSURE_CHAINS" d.maxActiveExposureChains
        maxCollateral := cappedDecimal environ env "_MAX_COLLATERAL" d.maxCollateral
        maxDailyLoss := cappedDecimal environ env "_MAX_DAILY_LOSS" d.maxDailyLoss
        maxLeverage := cappedDecimal environ env "_MAX_LEVERAGE" d.maxLeverage } := by
  have happroved :
      ¬ (env = .testnet ∧ (environ "TESTNET_LIMITS_OVERRIDE_APPROVED").any isOn = true) := by
    rintro ⟨htestnet, hon⟩
    rw [hunapproved htestnet] at hon
    cases hon
  simp only [TestnetSafetyLimits.fromEnvironment, happroved, if_false, decide_false,
    positiveDecimal_eq, positiveInt_eq, singleOrderLimit, cappedDecimal, cappedInt, routeName]

/-- **When the limits only tighten.** Without an approval they do exactly if a total notional that
is configured is not below the limit on a single order. -/
theorem only_tightens_iff (hunapproved : Unapproved environ env) :
    OnlyTightens environ env (.fromEnvironment environ env) ↔
      ∀ v ∈ configuredDecimal environ (routeName env ++ "_MAX_TOTAL_OPEN_NOTIONAL"),
        singleOrderLimit environ env ≤ v := by
  obtain ⟨hsingle, htotal, horders, hchains, hcollateral, hloss, hleverage, hle, hsymbols⟩ :=
    defaults_pos env
  have hsingleLimit : Within (singleOrderLimit environ env) _ _ :=
    within_cappedDecimal "_MAX_SINGLE_ORDER_NOTIONAL" hsingle
  have htotalCapped : Within (cappedDecimal environ env "_MAX_TOTAL_OPEN_NOTIONAL" _) _ _ :=
    within_cappedDecimal _ htotal
  have htotalLimit := within_raised_iff htotalCapped (hsingleLimit.2.1.trans hle)
  rw [fromEnvironment_unapproved hunapproved, ← htotalLimit]
  refine ⟨fun h => h.totalOpen, fun h => ⟨hsingleLimit, h, ?_, ?_, ?_, ?_, ?_, ?_⟩⟩
  · exact within_cappedInt _ horders
  · exact within_cappedInt _ hchains
  · exact within_cappedDecimal _ hcollateral
  · exact within_cappedDecimal _ hloss
  · exact within_cappedDecimal _ hleverage
  · exact allowedSymbolsOf_tight _ hsymbols

/-- A Testnet with limits of its own, one of them wider than its default; the override is not
approved. -/
def sampleEnviron (name : String) : Option String :=
  List.lookup name [("TESTNET_MAX_SINGLE_ORDER_NOTIONAL", "20"),
    ("TESTNET_MAX_TOTAL_OPEN_NOTIONAL", "60"), ("TESTNET_MAX_LEVERAGE", "125"),
    ("TESTNET_MAX_OPEN_ORDERS", "2"), ("TESTNET_ALLOWED_SYMBOLS", "BTCUSDT,DOGEUSDT"),
    ("TESTNET_LIMITS_OVERRIDE_APPROVED", "no")]

/-- Those limits only tighten. -/
theorem only_tightens_iff_configured :
    OnlyTightens sampleEnviron .testnet (.fromEnvironment sampleEnviron .testnet) ∧
      singleOrderLimit sampleEnviron .testnet = 20 :=
  ⟨(only_tightens_iff fun _ => by decide +kernel).mpr (by decide +kernel), by decide +kernel⟩

/-- The operator of the Mainnet configures a total of ten, and gets fifty. -/
theorem total_widened : ¬ ∀ (environ : Environ) (env : BinanceEnvironment), Unapproved environ env →
    OnlyTightens environ env (.fromEnvironment environ env) := by
  intro hall
  have htight := hall (fun name => if name = "MAINNET_MAX_TOTAL_OPEN_NOTIONAL" then some "10"
    else none) .mainnet
    fun h => by cases h
  have hten := htight.totalOpen.2.2 10 (by decide +kernel)
  revert hten
  decide +kernel

end Blessing.Binance.Limits
