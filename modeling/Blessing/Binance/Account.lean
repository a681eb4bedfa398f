import Blessing.Binance.AccountGate

/-! # The account snapshot

`build_account_snapshot` of `venues/binance/reconciliation.py` with its helpers: what the adapter
reads from an account and a position-risk payload, or the reason why it does not. What is computed
is rounded by a context; a division by zero is a failure of its own. -/

namespace Blessing.Binance.Account

open Blessing.Lib Blessing.Lib.Values Blessing.Lib.Rounding
open Blessing.Binance.Models Blessing.Binance.AccountGate

/-- `_required_decimal` -/
def requiredDecimal (payload : Json) (name : String) : Except Exn Decimal :=
  if (payload.get name).isBlank then
    .error (.value ("Missing required Binance account field: " ++ name))
  else
    match decimalOf (payload.get name) with
    | none => .error (.value ("Invalid Binance account field: " ++ name))
    | some (.finite d) => .ok d
    | some _ => .error (.value ("Non-finite Binance account field: " ++ name))

/-- `str(value).strip().upper()` -/
def normalized (v : Json) : String := Text.upper (Text.strip v.toStr)

/-- `_required_asset` -/
def requiredAsset (account : Json) (assetName : String) : Except Exn Json :=
  match account.get "assets" with
  | .arr assets =>
    let name := Text.upper (Text.strip assetName)
    match assets.filter fun item =>
      item.isObj && normalized ((item.get? "asset").getD (.str "")) == name with
    | [asset] => .ok asset
    | _ => .error (.value
        ("Binance account does not contain exactly one collateral asset " ++ name))
  | _ => .error (.value "Binance account response is missing the assets array")

/-- `_position_amount` -/
def positionAmount (position : Json) : Except Exn Decimal := do
  let value ← field position "positionAmt"
  if value.isBlank then throw (.value "Position is missing positionAmt")
  match decimalOf value with
  | none => throw (.value "Position has an invalid positionAmt")
  | some (.finite d) => return d
  | some _ => throw (.value "Position has a non-finite positionAmt")

/-- The margin types of the positions: the supported ones, or the first other one. `unknown` tells
whether an active position has none. -/
def marginModes : List Json → List String → Bool → Except String (List String × Bool)
  | [], modes, unknown => .ok (modes, unknown)
  | position :: positions, modes, unknown =>
    if !position.isObj then marginModes positions modes unknown
    else
      let active := match positionAmount position with
        | .ok amount => !amount.isZero
        | .error _ => true
      let raw := position.get "marginType"
      if raw.isBlank then marginModes positions modes (unknown || active)
      else
        let mode := normalized raw
        if mode ≠ "CROSS" ∧ mode ≠ "ISOLATED" then .error (if mode = "" then "UNKNOWN" else mode)
        else marginModes positions (modes.insert mode) unknown

/-- `_margin_mode_observation` -/
def marginModeObservation (account : Json) (positionRisk : List Json) : String × Bool :=
  if (account.get "portfolioMargin").truthy then ("CROSS", true)
  else if (account.get? "multiAssetsMargin").any exchangeBool then ("MULTI_ASSET_CROSS", true)
  else
    match marginModes positionRisk [] false with
    | .error mode => (mode, false)
    | .ok (_, true) => ("UNKNOWN", false)
    | .ok ([], false) =>
      if (account.get? "multiAssetsMargin").isSome then ("SINGLE_ASSET_CROSS", true)
      else ("UNKNOWN", false)
    | .ok ([mode], false) => (mode, true)
    | .ok (_ :: _ :: _, false) => ("MIXED", false)

/-- The leverages of the positions of a symbol; nothing if one of them is unusable. -/
def targetLeverages (configuredSymbol : String) : List Json → Option (List Decimal)
  | [] => some []
  | position :: positions =>
    if !position.isObj ||
        normalized ((position.get? "symbol").getD (.str "")) != configuredSymbol then
      targetLeverages configuredSymbol positions
    else if (position.get "leverage").isBlank then none
    else
      match decimalOf (position.get "leverage") with
      | some (.finite d) =>
        if d.isPos then (d :: ·) <$> targetLeverages configuredSymbol positions else none
      | _ => none

/-- `_configured_leverage_observation`; `explicit` is never passed by the callers modelled here. -/
def configuredLeverageObservation (positionRisk : List Json) (env : BinanceEnvironment)
    (configuredSymbol : String) : Option Decimal × Bool :=
  if env ≠ .mainnet then (none, false)
  else
    match targetLeverages configuredSymbol positionRisk with
    | some (d :: ds) => if ds.all (d.eqv ·) then (some d, true) else (none, false)
    | _ => (none, false)

/-- The mark price of an active position. -/
def markPriceOf (position : Json) (symbol : String) : Except Exn Decimal :=
  let raw := position.get "markPrice"
  if raw.isBlank then .error (.value ("Active position " ++ symbol ++ " is missing markPrice"))
  else
    match decimalOf raw with
    | none => .error (.value ("Active position " ++ symbol ++ " has invalid markPrice"))
    | some (.finite d) =>
      if d.isPos then .ok d
      else .error (.value ("Active position " ++ symbol ++ " has unusable markPrice"))
    | some _ => .error (.value ("Active position " ++ symbol ++ " has unusable markPrice"))

/-! ### The snapshot -/

/-- What the build can raise. -/
inductive Failure where
  | invalid (e : Exn)
  /-- `DivisionByZero` or `DivisionUndefined` -/
  | divisionByZero
  deriving DecidableEq

/-- The exception. -/
def Failure.exn : Failure → Exn
  | .invalid e => e
  | .divisionByZero => .value "division by zero"

/-- A check of the payload. -/
def checked {α : Type} (x : Except Exn α) : Except Failure α := x.mapError .invalid

/-- `ValueError(message)` -/
def invalid (message : String) : Failure := .invalid (.value message)

section

variable (c : Context)

/-- `a / b` -/
def quotient (a b : ℚ) : Except Failure ℚ :=
  if b = 0 then .error .divisionByZero else .ok (c.div a b)

/-- `min(Decimal("100"), max(Decimal("0"), d * Decimal("100")))` -/
def percent (d : ℚ) : ℚ := min 100 (max 0 (c.mul d 100))

/-- `position.get("positionSide", "BOTH")`, normalized. -/
def sideOf (position : Json) : String := upperOf ((position.get? "positionSide").getD (.str "BOTH"))

/-- The liquidation price of a position, if it is usable. -/
def liquidationPriceOf (position : Json) : Option ℚ :=
  if (position.get "liquidationPrice").isBlank then none
  else
    match decimalOf (position.get "liquidationPrice") with
    | some (.finite d) => if 0 < d.toRat then some d.toRat else none
    | _ => none

/-- `_liquidation_distance`, the amount and the mark price being known. -/
def liquidationDistance (position : Json) (amount markPrice : ℚ) : Except Failure (Option ℚ) :=
  match liquidationPriceOf position with
  | none => .ok none
  | some liquidationPrice =>
    if markPrice ≤ 0 ∨ amount = 0 then .ok none
    else if (sideOf position = "LONG" ∨ sideOf position = "BOTH") ∧ 0 < amount then do
      let distance ← quotient c (c.sub markPrice liquidationPrice) markPrice
      return some (percent c distance)
    else if (sideOf position = "SHORT" ∨ sideOf position = "BOTH") ∧ amount < 0 then do
      let distance ← quotient c (c.sub liquidationPrice markPrice) markPrice
      return some (percent c distance)
    else .ok none

/-- The margin of the account behind its positions. -/
structure Backing where
  portfolioMargin : Bool
  marginBalance : ℚ
  maintMargin : ℚ

/-- The liquidation buffer under portfolio margin. -/
def Backing.buffer (b : Backing) (notional : ℚ) : Except Failure (Option ℚ) :=
  if b.portfolioMargin = true ∧ 0 < b.marginBalance ∧ 0 < notional then do
    let headroom := max 0 (c.sub b.marginBalance b.maintMargin)
    let distance ← quotient c headroom notional
    return some (percent c distance)
  else .ok none

/-- The check of the reported notional against the computed one. -/
def checkNotional (position : Json) (symbol : String) (computed : ℚ) : Except Failure Unit :=
  let disagrees : Except Failure Unit :=
    .error (invalid ("Active position " ++ symbol ++
      " notional disagrees with positionAmt*markPrice"))
  if (position.get "notional").isBlank then .ok ()
  else
    match decimalOf (position.get "notional") with
    | none => .error (invalid ("Active position " ++ symbol ++ " has invalid notional"))
    | some (.finite d) =>
      let parsed := c.magnitude d.toRat
      if parsed ≤ 0 ∨ max (1 / 10 ^ 8) (c.mul computed (1 / 100)) < c.magnitude
        (c.sub parsed computed) then
        disagrees
      else .ok ()
    | some _ => disagrees

/-- The checks of an active position: its mark price and its notional. -/
def activePosition (env : BinanceEnvironment) (configuredSymbol : String) (position : Json)
    (amount : ℚ) : Except Failure (ℚ × ℚ) := do
  let symbol := position.get "symbol"
  if !symbol.truthy then throw (invalid "Active Binance position is missing symbol")
  if env = .mainnet ∧ normalized symbol ≠ Text.upper (Text.strip configuredSymbol) then
    throw (invalid ("Mainnet active position is outside the configured symbol " ++
      configuredSymbol))
  let side := position.get "positionSide"
  if side.isBlank then
    throw (invalid ("Active position " ++ symbol.toStr ++ " is missing positionSide"))
  if (PositionSide.ofValue (upperOf side)).isNone then
    throw (invalid ("Active position " ++ symbol.toStr ++ " has unsupported positionSide: " ++
      upperOf side))
  let markPrice ← checked (markPriceOf position symbol.toStr)
  let notional := c.mul (c.magnitude amount) markPrice.toRat
  if notional ≤ 0 then
    throw (invalid ("Active position " ++ symbol.toStr ++ " has uncomputable notional"))
  checkNotional c position symbol.toStr notional
  return (markPrice.toRat, notional)

/-- What the loop over the positions sums up. -/
structure Exposure where
  totalNotional : ℚ := 0
  distances : List ℚ := []
  liquidationKnown : Bool := true
  hasActive : Bool := false

/-- The distance of a position from its liquidation, or the buffer of the account. -/
def distanceOf (backing : Backing) (position : Json) (amount markPrice notional : ℚ) :
    Except Failure (Option ℚ) := do
  match ← liquidationDistance c position amount markPrice with
  | some distance => return some distance
  | none => backing.buffer c notional

/-- One position of `build_account_snapshot`. -/
def addPosition (env : BinanceEnvironment) (configuredSymbol : String) (backing : Backing)
    (exposure : Exposure) (position : Json) : Except Failure Exposure := do
  if !position.isObj then throw (invalid "Binance position risk entry is invalid")
  let amount ← checked (positionAmount position)
  if amount.toRat = 0 then return exposure
  else
    let (markPrice, notional) ← activePosition c env configuredSymbol position amount.toRat
    let distance ← distanceOf c backing position amount.toRat markPrice notional
    return {
      totalNotional := c.add exposure.totalNotional notional
      distances := exposure.distances ++ distance.toList
      liquidationKnown := exposure.liquidationKnown && distance.isSome
      hasActive := true }

/-- The effective leverage and the margin utilization. -/
def leverageOf (marginBalance totalInitialMargin : ℚ) (exposure : Exposure) :
    Except Failure (ℚ × ℚ) :=
  if 0 < marginBalance then do
    let leverage ← quotient c exposure.totalNotional marginBalance
    let utilization ← quotient c totalInitialMargin marginBalance
    return (leverage, c.mul utilization 100)
  else if exposure.hasActive = true ∨ totalInitialMargin ≠ 0 then
    .error (invalid "Account margin balance cannot support exposure calculations")
  else .ok (0, 0)

/-- What is known of the losses of the day. -/
structure DailyLoss where
  realizedPnl : Option ℚ
  known : Bool
  asset : String
  includesFees : Bool
  includesFunding : Bool
  windowStart : Option Datetime
  windowEnd : Option Datetime

/-- `build_account_snapshot` -/
def buildAccountSnapshot (account : Json) (positionRisk : List Json) (env : BinanceEnvironment)
    (daily : DailyLoss) (configuredSymbol : String) (now : Datetime) :
    Except Failure ExchangeAccountSnapshot := do
  if !account.isObj then throw (invalid "Binance account snapshot payload is invalid")
  let collateral := if env = .mainnet then "USDC" else "USDT"
  let asset ← checked (requiredAsset account collateral)
  let walletBalance ← checked (requiredDecimal asset "walletBalance")
  let marginBalance ← checked (requiredDecimal asset "marginBalance")
  let availableBalance ← checked (requiredDecimal asset "availableBalance")
  let unrealizedPnl ← checked (requiredDecimal asset "unrealizedProfit")
  let totalInitialMargin ← checked (requiredDecimal asset "initialMargin")
  let totalMaintMargin ← checked (requiredDecimal asset "maintMargin")
  let positionInitialMargin ← checked (requiredDecimal asset "positionInitialMargin")
  match [("totalWalletBalance", walletBalance), ("totalMarginBalance", marginBalance),
      ("availableBalance", availableBalance), ("totalInitialMargin", totalInitialMargin),
      ("totalMaintMargin", totalMaintMargin),
      ("totalPositionInitialMargin", positionInitialMargin)].find? (·.2.isNeg) with
  | some (name, _) => throw (invalid ("Binance account field cannot be negative: " ++ name))
  | none => do
    let backing : Backing :=
      ⟨(account.get "portfolioMargin").truthy, marginBalance.toRat, totalMaintMargin.toRat⟩
    let exposure ← positionRisk.foldlM (addPosition c env configuredSymbol backing) {}
    let (marginMode, marginModeKnown) := marginModeObservation account positionRisk
    let (configuredLeverage, configuredLeverageKnown) :=
      configuredLeverageObservation positionRisk env
      (Text.upper (Text.strip configuredSymbol))
    let (effectiveLeverage, marginUtilizationPct) ←
      leverageOf c marginBalance.toRat totalInitialMargin.toRat exposure
    return {
      walletBalance := walletBalance.toRat, marginBalance := marginBalance.toRat
      availableBalance := availableBalance.toRat, unrealizedPnl := unrealizedPnl.toRat
      totalInitialMargin := totalInitialMargin.toRat, totalMaintMargin := totalMaintMargin.toRat
      positionInitialMargin := positionInitialMargin.toRat
      totalPositionNotional := exposure.totalNotional, effectiveLeverage, marginUtilizationPct
      minLiquidationDistancePct :=
        if exposure.hasActive && exposure.liquidationKnown then exposure.distances.min? else none
      liquidationSafety := if exposure.liquidationKnown then "KNOWN" else "UNKNOWN"
      exchangeEnvironment := env.label, dailyRealizedPnl := daily.realizedPnl
      dailyLossKnown := daily.known, collateralAsset := collateral, riskCurrency := collateral
      dailyLossAsset :=
        let asset := Text.upper (Text.strip daily.asset)
        if asset = "" then "UNKNOWN" else asset
      dailyPnlIncludesFees := daily.includesFees, dailyPnlIncludesFunding := daily.includesFunding
      dailyLossWindowStart := daily.windowStart, dailyLossWindowEnd := daily.windowEnd
      configuredLeverage := configuredLeverage.map Decimal.toRat, configuredLeverageKnown
      marginMode, marginModeKnown, valid := true, timestamp := now }

end

end Blessing.Binance.Account
