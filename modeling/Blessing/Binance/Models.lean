import Blessing.Lib.Decimal
import Blessing.Lib.Values
import Mathlib.Data.Rat.Floor

/-! # Orders, fills, positions

The records of `domain/models.py` and `venues/binance/models.py` that the Binance adapter keeps. The
decimal fields of a record are finite: the models do not validate with other ones. -/

namespace Blessing.Binance.Models

open Blessing.Lib Blessing.Lib.Values

inductive OrderSide where
  | buy
  | sell
  deriving DecidableEq, Repr

inductive PositionSide where
  | long
  | short
  | both
  deriving DecidableEq, Repr

inductive TimeInForce where
  | gtc
  | ioc
  | fok
  | postOnly
  deriving DecidableEq, Repr

/-- The economic effect of a decision. -/
inductive EconomicRiskClass where
  | noop
  | newRisk
  | increaseRisk
  | reduceRisk
  | recovery
  | close
  | emergency
  deriving DecidableEq, Repr

inductive BinanceEnvironment where
  | testnet
  | mainnet
  deriving DecidableEq, Repr

def OrderSide.value : OrderSide → String
  | .buy => "BUY"
  | .sell => "SELL"

def PositionSide.value : PositionSide → String
  | .long => "LONG"
  | .short => "SHORT"
  | .both => "BOTH"

def TimeInForce.value : TimeInForce → String
  | .gtc => "GTC"
  | .ioc => "IOC"
  | .fok => "FOK"
  | .postOnly => "POST_ONLY"

def OrderSide.ofValue : String → Option OrderSide := Text.memberOf [.buy, .sell] OrderSide.value

def PositionSide.ofValue : String → Option PositionSide :=
  Text.memberOf [.long, .short, .both] PositionSide.value

def TimeInForce.ofValue : String → Option TimeInForce :=
  Text.memberOf [.gtc, .ioc, .fok, .postOnly] TimeInForce.value

/-- `environment_label` -/
def BinanceEnvironment.label : BinanceEnvironment → String
  | .testnet => "BINANCE_TESTNET"
  | .mainnet => "BINANCE_MAINNET"

/-- The client order id of an order. The adapter makes one up for every order and refuses an
exchange order without one. -/
abbrev ClientOrderId := { s : String // s ≠ "" }

/-- An order of the local ledger. -/
structure ExecutionOrder where
  symbol : String
  side : OrderSide
  quantity : Decimal
  price : Decimal
  orderType : String := "LIMIT"
  clientOrderId : ClientOrderId
  status : String
  exchangeOrderId : Option String := none
  positionSide : PositionSide := .both
  reduceOnly : Bool := false
  timeInForce : TimeInForce := .gtc
  strategyId : String := "portfolio"
  decisionId : Option String := none
  targetExposureId : Option String := none
  sourceIntentIds : List String := []
  riskClass : EconomicRiskClass := .noop
  deriving DecidableEq

structure ExchangeFill where
  exchangeTradeId : String
  exchangeOrderId : String
  clientOrderId : String
  symbol : String
  side : OrderSide
  positionSide : PositionSide
  quantity : Decimal
  price : Decimal
  commission : Decimal
  commissionAsset : String
  realizedPnl : Decimal
  maker : Bool
  eventTime : Json
  transactionTime : Json
  source : String
  strategyId : String := "portfolio"
  decisionId : Option String := none
  targetExposureId : Option String := none
  sourceIntentIds : List String := []
  deriving DecidableEq

structure ExchangePosition where
  symbol : String
  positionSide : PositionSide
  quantity : Decimal
  entryPrice : Decimal
  markPrice : Option Decimal
  unrealizedPnl : Decimal
  liquidationPrice : Option Decimal
  leverage : Decimal
  marginType : String
  eventTime : Json
  source : String
  deriving DecidableEq

/-- What the adapter's code raises. -/
inductive Exn where
  /-- `BinanceAuthenticationError` -/
  | authentication (code : ℤ) (message : String)
  /-- `BinanceDefinitiveRejection` -/
  | definitiveRejection (code : ℤ) (message : String)
  /-- `BinanceRateLimitError` -/
  | rateLimit (code : ℤ) (message : String)
  /-- `BinanceTimestampError` -/
  | timestamp (code : ℤ) (message : String)
  /-- `BinanceTransportAmbiguity` -/
  | transportAmbiguity (message : String)
  /-- `FillRecoveryError` -/
  | fillRecovery (message : String)
  /-- `LeaseLostError` -/
  | leaseLost (message : String)
  /-- `OverflowError` and `OSError` -/
  | overflow (message : String)
  /-- `ValueError` and the other built-in exceptions -/
  | value (message : String)
  deriving DecidableEq

/-- `str(exc)` -/
def Exn.text : Exn → String
  | .authentication code message => "Binance auth error (" ++ toString code ++ "): " ++ message
  | .definitiveRejection code message =>
    "Binance definitive rejection (" ++ toString code ++ "): " ++ message
  | .rateLimit code message => "Binance rate limit (" ++ toString code ++ "): " ++ message
  | .timestamp code message => "Binance timestamp error (" ++ toString code ++ "): " ++ message
  | .transportAmbiguity message => message
  | .fillRecovery message => message
  | .leaseLost message => message
  | .overflow message => message
  | .value message => message

/-- `except BinanceAuthenticationError` -/
def Exn.isAuthentication : Exn → Bool
  | .authentication .. => true
  | _ => false

/-- The states of the adapter's connection. -/
inductive ConnectionState where
  | disconnected
  | connecting
  | authenticating
  | streamStarting
  | syncing
  | ready
  | degraded
  | reconnecting
  | reconciling
  deriving DecidableEq, Repr

/-- `_is_risk_increasing` -/
def EconomicRiskClass.isRiskIncreasing : EconomicRiskClass → Bool
  | .newRisk | .increaseRisk => true
  | _ => false

/-! ### Payloads -/

/-- `payload.get(k)`, which only an object has. -/
def field (payload : Json) (k : String) : Except Exn Json :=
  if payload.isObj then .ok (payload.get k)
  else .error (.value "object has no attribute 'get'")

/-- The required fields an object lacks. -/
def missing (required : List String) (payload : Json) : List String :=
  required.filter fun k => (payload.get k).isBlank

/-- `_exchange_bool` -/
def exchangeBool : Json → Bool
  | .bool b => b
  | .int n => n != 0
  | .float r => !Json.zeroTexts.contains r
  | .str s => ["1", "true", "yes", "on"].contains (Text.lower (Text.strip s))
  | _ => false

/-- `Decimal(str(value))` -/
def decimalOf (v : Json) : Option Decimal.Number := Decimal.ofText v.toStr

/-- `int(value)`; nothing where it raises. -/
def intOf : Json → Option ℤ
  | .int n => some n
  | .bool b => some (if b then 1 else 0)
  | .float r => ((Decimal.ofText r).bind Decimal.Number.finite?).map fun d =>
    if 0 ≤ d.toRat then ⌊d.toRat⌋ else ⌈d.toRat⌉
  | .str s => Decimal.intOfText s
  | _ => none

/-- `str(value).upper()` -/
def upperOf (v : Json) : String := Text.upper v.toStr

end Blessing.Binance.Models
