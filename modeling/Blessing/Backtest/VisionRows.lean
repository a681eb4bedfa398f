import Blessing.Backtest.Replay
import Blessing.Lib.Values

/-! # Observations of the public archives

The rows of `backtest/event_dataset.py`: kline, mark-price and book-ticker rows, and the
observations they are parsed into. What a constructor checks is a field of its record. A time is a
number of microseconds since the epoch; decimals are compared by value, so they are their values.
The letters and digits of a symbol are those of `str.isalnum`, whichever these are. -/

namespace Blessing.Backtest.VisionRows

open Blessing.Lib Blessing.Lib.Values Blessing.Lib.Effects
open Blessing.Engines.Intents (normalized)

/-- What building a dataset can raise. -/
inductive Failure where
  /-- a `ValueError` -/
  | value (text : String)
  /-- the `ValidationError` of a record: the fields at fault, and what is wrong -/
  | validation (record : String) (errors : List (String × String))
  deriving DecidableEq

/-! ### Cells -/

/-- `_normalise_symbol` -/
def normaliseSymbol (isalnum : Char → Bool) (value : String) : Except Failure String :=
  let symbol := normalized value
  if symbol = "" ∨ ¬ symbol.toList.all isalnum then
    .error (.value "symbol must contain only letters and digits")
  else .ok symbol

/-- A positive integer epoch timestamp. -/
abbrev Epoch := {n : ℕ // 0 < n}

/-- A price or a quantity. -/
abbrev Price := {q : ℚ // 0 < q}

/-- A volume. -/
abbrev Volume := {q : ℚ // 0 ≤ q}

/-- `Decimal(str(value))`, if it is a finite number. -/
def finiteOf (value : Json) (incompatible infinite : String) : Except Failure ℚ :=
  match Decimal.ofText value.toStr with
  | none => .error (.value incompatible)
  | some number =>
    match number.finite? with
    | none => .error (.value infinite)
    | some d => .ok d.toRat

/-- The last second `datetime.fromtimestamp` accepts. -/
def maxSeconds : ℕ := 253402300799

/-- The instant of an epoch timestamp, in microseconds. -/
def instantOf (raw : ℕ) : ℕ :=
  let divisor := if 100000000000000 ≤ raw then 1000000 else 1000
  let microseconds := if divisor = 1000000 then raw % divisor else raw % divisor * 1000
  raw / divisor * 1000000 + microseconds

/-- `_epoch_to_datetime` -/
def epochToDatetime (value : Json) (fieldName : String) : Except Failure (Epoch × ℤ) := do
  let infinite := fieldName ++ " must be a positive integer epoch timestamp"
  let numeric ← finiteOf value (fieldName ++ " must be an integer epoch timestamp") infinite
  if h : 0 < numeric.num.toNat ∧ numeric.den = 1 then
    if maxSeconds < instantOf numeric.num.toNat / 1000000 then
      throw (.value (fieldName ++ " is outside the supported datetime range"))
    return (⟨numeric.num.toNat, h.1⟩, instantOf numeric.num.toNat)
  else throw (.value infinite)

/-- `_decimal` -/
def decimal (value : Json) (fieldName : String) : Except Failure Price := do
  let positive := fieldName ++ " must be positive"
  let parsed ← finiteOf value (fieldName ++ " must be Decimal-compatible") positive
  if h : 0 < parsed then return ⟨parsed, h⟩ else throw (.value positive)

/-- `_decimal(…, positive=False)` -/
def nonnegativeDecimal (value : Json) (fieldName : String) : Except Failure Volume := do
  let finite := fieldName ++ " must be finite and non-negative"
  let parsed ← finiteOf value (fieldName ++ " must be Decimal-compatible") finite
  if h : 0 ≤ parsed then return ⟨parsed, h⟩ else throw (.value finite)

/-- `_integer(…, minimum=0)` -/
def integer (value : Json) (fieldName : String) : Except Failure ℕ := do
  let text := fieldName ++ " must be an integer"
  let parsed ← finiteOf value text text
  if parsed.den ≠ 1 then throw (.value text)
  if parsed.num < 0 then throw (.value (fieldName ++ " must be at least 0"))
  return parsed.num.toNat

/-! ### Observations -/

/-- `KlineObservation` -/
structure KlineObservation where
  openTimeMs : Epoch
  closeTimeMs : Epoch
  eventTime : ℤ
  openPrice : Price
  high : Price
  low : Price
  close : Price
  volume : Volume
  tradeCount : ℕ
  /-- what the constructor checks -/
  ordered : openTimeMs ≤ closeTimeMs
  enclosed : max openPrice close ≤ high ∧ low ≤ min openPrice close
  deriving DecidableEq

/-- `MarkPriceObservation` -/
structure MarkPriceObservation where
  openTimeMs : Epoch
  eventTime : ℤ
  markPrice : Price
  deriving DecidableEq

/-- `BookTickerObservation` -/
structure BookTickerObservation where
  updateId : ℕ
  bestBid : Price
  bidQty : Price
  bestAsk : Price
  askQty : Price
  transactionTime : ℤ
  eventTime : ℤ
  /-- what the constructor checks -/
  uncrossed : bestBid ≤ bestAsk
  deriving DecidableEq

/-- `FundingRateObservation` -/
structure FundingRateObservation where
  symbol : String
  fundingTime : ℤ
  fundingRate : ℚ
  deriving DecidableEq

/-! ### Rows -/

/-- `_header_row` -/
def headerRow (row : Json) (names : List String) : Bool :=
  let underscored (text : String) : String :=
    String.ofList ((Text.lower text).toList.map fun c => if c = ' ' then '_' else c)
  match row with
  | .arr (first :: _) => (names.map underscored).contains (underscored (Text.strip first.toStr))
  | _ => false

/-- `parse_vision_kline_row` -/
def parseVisionKlineRow (row : Json) : Except Failure (Option KlineObservation) :=
  if headerRow row ["open_time", "open time"] then .ok none
  else match row with
  | .arr (c₀ :: c₁ :: c₂ :: c₃ :: c₄ :: c₅ :: c₆ :: _ :: c₈ :: _) => do
    let (openTimeMs, _) ← epochToDatetime c₀ "open_time"
    let (closeTimeMs, eventTime) ← epochToDatetime c₆ "close_time"
    let openPrice ← decimal c₁ "open"
    let high ← decimal c₂ "high"
    let low ← decimal c₃ "low"
    let close ← decimal c₄ "close"
    let volume ← nonnegativeDecimal c₅ "volume"
    let tradeCount ← integer c₈ "trade_count"
    if h : openTimeMs ≤ closeTimeMs then
      if h' : max openPrice close ≤ high ∧ low ≤ min openPrice close then
        return some ⟨openTimeMs, closeTimeMs, eventTime, openPrice, high, low, close, volume,
          tradeCount, h, h'⟩
      else throw (.validation "KlineObservation" [("", "kline OHLC relationship is invalid")])
    else throw (.validation "KlineObservation"
      [("", "close_time_ms must not precede open_time_ms")])
  | _ => .error (.value "Binance Vision kline row is malformed")

/-- `parse_vision_mark_price_row` -/
def parseVisionMarkPriceRow (row : Json) : Except Failure (Option MarkPriceObservation) :=
  if headerRow row ["open_time", "open time"] then .ok none
  else match row with
  | .arr (c₀ :: _ :: _ :: _ :: c₄ :: _ :: c₆ :: _) => do
    let (openTimeMs, _) ← epochToDatetime c₀ "mark_open_time"
    let (closeTimeMs, eventTime) ← epochToDatetime c₆ "mark_close_time"
    if closeTimeMs < openTimeMs then
      throw (.value "mark-price close time must not precede open time")
    let markPrice ← decimal c₄ "mark_price"
    return some ⟨openTimeMs, eventTime, markPrice⟩
  | _ => .error (.value "Binance Vision mark-price row is malformed")

/-- `parse_vision_book_ticker_row` -/
def parseVisionBookTickerRow (row : Json) : Except Failure (Option BookTickerObservation) :=
  if headerRow row ["update_id", "update id"] then .ok none
  else match row with
  | .arr (c₀ :: c₁ :: c₂ :: c₃ :: c₄ :: c₅ :: c₆ :: _) => do
    let (_, transactionTime) ← epochToDatetime c₅ "transaction_time"
    let (_, eventTime) ← epochToDatetime c₆ "event_time"
    let updateId ← integer c₀ "update_id"
    let bestBid ← decimal c₁ "best_bid"
    let bidQty ← decimal c₂ "bid_qty"
    let bestAsk ← decimal c₃ "best_ask"
    let askQty ← decimal c₄ "ask_qty"
    if h : bestBid ≤ bestAsk then
      return some ⟨updateId, bestBid, bidQty, bestAsk, askQty, transactionTime, eventTime, h⟩
    else throw (.validation "BookTickerObservation"
      [("", "book best bid must be less than or equal to best ask")])
  | _ => .error (.value "Binance Vision bookTicker row is malformed")

example : parseVisionBookTickerRow
    (.arr [.str "7", .str "1.50", .str "2", .str "1.5", .str "3", .str "1000",
      .str "1700000000000"]) =
    .ok (some ⟨7, ⟨3 / 2, by norm_num⟩, ⟨2, by norm_num⟩, ⟨3 / 2, by norm_num⟩,
      ⟨3, by norm_num⟩, 1000000, 1700000000000000, le_rfl⟩) := by decide +kernel

end Blessing.Backtest.VisionRows
