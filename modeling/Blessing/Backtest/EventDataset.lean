import Blessing.Backtest.VisionRows
import Blessing.Lib.Bisect
import Blessing.Lib.Collect
import Mathlib.Data.Prod.Lex

/-! # The dataset join

`build_historical_events` of `backtest/event_dataset.py`: every kline becomes an event, which
carries the last quote at or before its close, the mark price of its open time, and the funding that
is settled since the event before it. -/

namespace Blessing.Backtest.EventDataset

open Blessing.Lib Blessing.Lib.Values Blessing.Lib.Effects Blessing.Lib.Table Blessing.Lib.Collect
open Blessing.Lib.Bisect
open Blessing.Engines.Intents (normalized MarketType)
open Blessing.Backtest.Economic (researchDataSources)
open Blessing.Backtest.VisionRows

/-! ### Events -/

/-- `SUPPORTED_VENUES` -/
def supportedVenues : List String := ["BINANCE_MAINNET", "BINANCE_TESTNET"]

/-- `expected_venue` -/
def expectedVenue (dataSource : String) : String :=
  if dataSource = "BINANCE_PUBLIC_TESTNET_READ_ONLY" then "BINANCE_TESTNET" else "BINANCE_MAINNET"

/-- `HistoricalMarketEvent`: what the replay reads of it, and its kline. -/
structure HistoricalMarketEvent extends Replay.HistoricalMarketEvent where
  openPrice : Price
  high : Price
  low : Price
  close : Price
  volume : Volume
  tradeCount : ℕ
  /-- what the constructor checks -/
  enclosed : max openPrice close ≤ high ∧ low ≤ min openPrice close
  sourced : dataSource ∈ researchDataSources ∧ venue = expectedVenue dataSource
  futures : marketType = .usdmFutures

/-- The keyword arguments of `build_historical_events`. -/
structure Options where
  symbol : String
  venue : String := "BINANCE_MAINNET"
  dataSource : String := "BINANCE_PUBLIC_MAINNET_READ_ONLY"
  maxBookAgeSec : ℚ := 60
  fundingToleranceSec : ℚ := 60

/-- The observations `build_historical_events` is given. -/
structure Source where
  klineRows : List Json
  markPriceRows : List Json
  bookTickerRows : List Json
  fundingRates : List FundingRateObservation := []

/-- `_validate_options` -/
def validateOptions (maxBookAgeSec fundingToleranceSec : ℚ) : Except Failure Unit := do
  if maxBookAgeSec ≤ 0 then throw (.value "max_book_age_sec must be finite and positive")
  if fundingToleranceSec ≤ 0 then throw (.value "funding_tolerance_sec must be finite and positive")

/-- The fields of an event that its constructor refuses one by one. -/
def fieldErrors (symbol venue dataSource : String) : List (String × String) :=
  (if symbol.length < 2 then [("symbol", "String should have at least 2 characters")] else []) ++
  (if venue = "" then [("venue", "venue must not be empty")] else []) ++
  (if dataSource = "" then [("data_source", "data_source must not be empty")] else [])

/-- The constructor of `HistoricalMarketEvent`, as `build_historical_events` calls it. -/
def newEvent (o : Options) (symbol : String) (kline : KlineObservation)
    (mark : MarkPriceObservation) (book : BookTickerObservation)
    (funding : Option FundingRateObservation) :
    Except Failure HistoricalMarketEvent := do
  let venue := normalized o.venue
  let dataSource := normalized o.dataSource
  let invalid (text : String) : Failure := .validation "HistoricalMarketEvent" [("", text)]
  if fieldErrors symbol venue dataSource ≠ [] then
    throw (.validation "HistoricalMarketEvent" (fieldErrors symbol venue dataSource))
  if h : dataSource ∈ researchDataSources then
    if venue ∉ supportedVenues then
      throw (invalid "venue must be BINANCE_MAINNET or BINANCE_TESTNET")
    if h' : venue = expectedVenue dataSource then
      return {
        eventId := Text.strip (symbol ++ "-1m-" ++ toString kline.openTimeMs.val)
        eventTime := kline.eventTime
        symbol := normalized symbol
        venue
        marketType := .usdmFutures
        openPrice := kline.openPrice
        high := kline.high
        low := kline.low
        close := kline.close
        volume := kline.volume
        tradeCount := kline.tradeCount
        bestBid := book.bestBid
        bestAsk := book.bestAsk
        bidQty := book.bidQty
        askQty := book.askQty
        markPrice := mark.markPrice
        fundingRate := funding.map (·.fundingRate)
        fundingEvent := funding.isSome
        dataSource
        positive := ⟨book.bestBid.2, book.bidQty.2, book.askQty.2, mark.markPrice.2⟩
        uncrossed := book.uncrossed
        settled := Option.isSome_map
        enclosed := kline.enclosed
        sourced := ⟨h, h'⟩
        futures := rfl }
    else throw (invalid "venue does not match data_source")
  else throw (invalid "data_source must be an explicit Binance public read-only source")

/-! ### Observations in order -/

/-- `_unique_klines` -/
def uniqueKlines (rows : List Json) : Except Failure (List KlineObservation) := do
  let byOpenTime ← collect parseVisionKlineRow KlineObservation.openTimeMs
    (.value "conflicting duplicate kline observations") rows
  let result := sortedBy KlineObservation.openTimeMs byOpenTime
  if result = [] then throw (.value "kline source contains no data rows")
  if ∃ pair ∈ result.zip result.tail,
      (pair.2.openTimeMs.val : ℤ) - pair.1.openTimeMs.val ≠ 60000 then
    throw (.value "kline source contains a missing or non-1m interval")
  return result

/-- `_unique_mark_prices` -/
def uniqueMarkPrices (rows : List Json) : Except Failure (List MarkPriceObservation) := do
  let byOpenTime ← collect parseVisionMarkPriceRow MarkPriceObservation.openTimeMs
    (.value "conflicting duplicate mark-price observations") rows
  if byOpenTime = [] then throw (.value "mark-price source contains no data rows")
  return byOpenTime

/-- `(item.event_time, item.update_id)` -/
def bookRank (book : BookTickerObservation) : ℤ ×ₗ ℕ := toLex (book.eventTime, book.updateId)

/-- `_sorted_book_tickers` -/
def sortedBookTickers (rows : List Json) : Except Failure (List BookTickerObservation) := do
  let byUpdateId ← collect parseVisionBookTickerRow BookTickerObservation.updateId
    (.value "conflicting duplicate bookTicker update ID") rows
  let result := sortedBy bookRank byUpdateId
  if result = [] then throw (.value "bookTicker source contains no data rows")
  return result

section

variable (seconds : ℤ → ℚ)

/-- A funding observation joins those attached so far. -/
def attachOne (eventTimes : List ℤ) (symbol : String) (tolerance : ℚ)
    (attached : List (ℕ × FundingRateObservation)) (funding : FundingRateObservation) :
    Except Failure (List (ℕ × FundingRateObservation)) := do
  if funding.symbol ≠ symbol then
    throw (.value "funding-rate symbol does not match the dataset symbol")
  let index := bisectLeft eventTimes funding.fundingTime
  match eventTimes[index]? with
  | none => throw (.value "funding settlement is after the event dataset")
  | some eventTime =>
    let age := seconds (eventTime - funding.fundingTime)
    if age < 0 ∨ tolerance < age then
      throw (.value "funding settlement cannot be causally aligned to an event")
    if index ∈ attached.map Prod.fst then
      throw (.value "multiple funding settlements map to one replay event")
    return attached ++ [(index, funding)]

/-- `_attach_funding` -/
def attachFunding (eventTimes : List ℤ) (fundingRates : List FundingRateObservation)
    (symbol : String) (tolerance : ℚ) : Except Failure (List (ℕ × FundingRateObservation)) :=
  (sortedBy FundingRateObservation.fundingTime fundingRates).foldlM
    (attachOne seconds eventTimes symbol tolerance) []

/-! ### The join -/

/-- The event of the kline at an index. -/
def joinOne (o : Options) (symbol : String) (marks : List MarkPriceObservation)
    (books : List BookTickerObservation) (attached : List (ℕ × FundingRateObservation))
    (item : KlineObservation × ℕ) : Except Failure HistoricalMarketEvent := do
  let (kline, index) := item
  match lookup MarkPriceObservation.openTimeMs kline.openTimeMs marks with
  | none =>
    throw (.value ("missing mark-price observation for kline " ++ toString kline.openTimeMs.val))
  | some mark =>
    if kline.eventTime < mark.eventTime then
      throw (.value "mark-price observation is after its kline event")
    -- `books[bisect_right(book_times, kline.event_time) - 1]`, if the index is not negative
    match (books.take (bisectRight (books.map (·.eventTime)) kline.eventTime)).getLast? with
    | none => throw (.value "bookTicker has no observation at or before the first event")
    | some book =>
      let bookAge := seconds (kline.eventTime - book.eventTime)
      if bookAge < 0 ∨ o.maxBookAgeSec < bookAge then
        throw (.value ("bookTicker observation is stale for kline " ++
          toString kline.openTimeMs.val))
      newEvent o symbol kline mark book ((lookup Prod.fst index attached).map Prod.snd)

/-- The symbol, the venue and the source of the event are those of the first one, and its id is
new. -/
def checkIdentity (first : HistoricalMarketEvent) (ids : List String)
    (event : HistoricalMarketEvent) : Except Failure (List String) := do
  if event.symbol ≠ first.symbol ∨ event.venue ≠ first.venue ∨ event.marketType ≠ first.marketType ∨
      event.dataSource ≠ first.dataSource then
    throw (.value "historical events must use one symbol, venue, and data source")
  if event.eventId ∈ ids then throw (.value ("duplicate historical event_id: " ++ event.eventId))
  return event.eventId :: ids

/-- The step from an event to the next one. -/
def checkStep (pair : HistoricalMarketEvent × HistoricalMarketEvent) : Except Failure Unit := do
  if pair.2.eventTime ≤ pair.1.eventTime then
    throw (.value "historical events must be strictly chronological")
  if seconds (pair.2.eventTime - pair.1.eventTime) ≠ 60 then
    throw (.value "historical event timestamps must be contiguous 1-minute intervals")

/-- `validate_historical_events` -/
def validateHistoricalEvents (events : List HistoricalMarketEvent) :
    Except Failure (List HistoricalMarketEvent) :=
  match events with
  | [] => .error (.value "historical event dataset must not be empty")
  | first :: _ => do
    let _ ← (events.zip events.tail).mapM (checkStep seconds)
    let _ ← events.foldlM (checkIdentity first) []
    return events

/-- `build_historical_events` -/
def buildHistoricalEvents (isalnum : Char → Bool) (o : Options) (s : Source) :
    Except Failure (List HistoricalMarketEvent) := do
  validateOptions o.maxBookAgeSec o.fundingToleranceSec
  let symbol ← normaliseSymbol isalnum o.symbol
  let klines ← uniqueKlines s.klineRows
  let marks ← uniqueMarkPrices s.markPriceRows
  let books ← sortedBookTickers s.bookTickerRows
  let attached ← attachFunding seconds (klines.map (·.eventTime)) s.fundingRates symbol
      o.fundingToleranceSec
  let built ← klines.zipIdx.mapM (joinOne seconds o symbol marks books attached)
  validateHistoricalEvents seconds built

end

end Blessing.Backtest.EventDataset
