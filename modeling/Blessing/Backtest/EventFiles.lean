import Blessing.Backtest.NoLookAhead
import Blessing.Lib.Schema
import Mathlib.Data.List.Chain

/-! # Files of events

`write_historical_events_jsonl` and `read_historical_events_jsonl` of `backtest/event_dataset.py`,
and the hashes of a dataset. Here an event keeps its decimals digit for digit. A text written by
`json.dumps` with its keys sorted is represented by the value with its keys sorted. -/

namespace Blessing.Backtest.EventFiles

open Blessing.Lib Blessing.Lib.Values Blessing.Lib.Effects Blessing.Lib.Schema
open Blessing.Engines.Intents (normalized MarketType Instant)
open Blessing.Backtest.Economic (researchDataSources)
open Blessing.Backtest.Replay (ReplayExecutionConfig ReplaySymbolRules validateEventSequence)
open Blessing.Backtest.VisionRows (Failure)
open Blessing.Backtest.EventDataset (supportedVenues expectedVenue)
open Blessing.Backtest.NoLookAhead (validate_ok)

/-! ### Records -/

abbrev EventId := {s : String // Text.strip s = s ∧ s ≠ ""}

abbrev Symbol := {s : String // normalized s = s ∧ s ≠ ""}

/-- A finite positive decimal. -/
abbrev Price := {d : Decimal // 0 < d.toRat}

/-- A finite non-negative decimal. -/
abbrev Volume := {d : Decimal // 0 ≤ d.toRat}

/-- The fields of a `HistoricalMarketEvent`, each of them checked. -/
structure Fields where
  eventId : EventId
  eventTime : ℤ
  symbol : Symbol
  venue : String
  marketType : MarketType
  openPrice : Price
  high : Price
  low : Price
  close : Price
  volume : Volume
  tradeCount : ℕ
  bestBid : Price
  bestAsk : Price
  bidQty : Price
  askQty : Price
  markPrice : Price
  fundingRate : Option Decimal
  fundingEvent : Bool
  dataSource : String
  deriving DecidableEq

/-- `HistoricalMarketEvent` -/
structure HistoricalMarketEvent extends Fields where
  /-- what `validate_market_observation` checks -/
  enclosed : max openPrice.1.toRat close.1.toRat ≤ high.1.toRat ∧
    low.1.toRat ≤ min openPrice.1.toRat close.1.toRat
  uncrossed : bestBid.1.toRat ≤ bestAsk.1.toRat
  sourced : dataSource ∈ researchDataSources ∧ venue = expectedVenue dataSource
  futures : marketType = .usdmFutures
  settled : fundingRate.isSome = fundingEvent

/-- The decimals of an event. -/
def Fields.decimals (e : Fields) : List Decimal :=
  [e.openPrice.1, e.high.1, e.low.1, e.close.1, e.volume.1, e.bestBid.1, e.bestAsk.1,
    e.bidQty.1, e.askQty.1, e.markPrice.1] ++ e.fundingRate.toList

/-- The event with its decimals by value. -/
def HistoricalMarketEvent.value (e : HistoricalMarketEvent) :
    EventDataset.HistoricalMarketEvent where
  eventId := e.eventId.1
  eventTime := e.eventTime
  symbol := e.symbol.1
  venue := e.venue
  marketType := e.marketType
  openPrice := ⟨e.openPrice.1.toRat, e.openPrice.2⟩
  high := ⟨e.high.1.toRat, e.high.2⟩
  low := ⟨e.low.1.toRat, e.low.2⟩
  close := ⟨e.close.1.toRat, e.close.2⟩
  volume := ⟨e.volume.1.toRat, e.volume.2⟩
  tradeCount := e.tradeCount
  bestBid := e.bestBid.1.toRat
  bestAsk := e.bestAsk.1.toRat
  bidQty := e.bidQty.1.toRat
  askQty := e.askQty.1.toRat
  markPrice := e.markPrice.1.toRat
  fundingRate := e.fundingRate.map Decimal.toRat
  fundingEvent := e.fundingEvent
  dataSource := e.dataSource
  positive := ⟨e.bestBid.2, e.bidQty.2, e.askQty.2, e.markPrice.2⟩
  uncrossed := e.uncrossed
  settled := by rw [Option.isSome_map, e.settled]
  enclosed := e.enclosed
  sourced := e.sourced
  futures := e.futures

/-! ### Conversions -/

/-- What pydantic makes of decimals, times and numbers: how it prints them and how it reads a
value. -/
structure Pydantic where
  decimalText : Decimal → String
  timeText : ℤ → String
  decimal : Json → Except String Decimal
  datetime : Json → Except String Instant
  integer : Json → Except String ℤ
  boolean : Json → Except String Bool

/-- It reads back what it prints of an event. -/
structure Pydantic.Reads (p : Pydantic) (e : HistoricalMarketEvent) : Prop where
  decimal : ∀ d ∈ e.decimals, p.decimal (.str (p.decimalText d)) = .ok d
  datetime : p.datetime (.str (p.timeText e.eventTime)) = .ok ⟨e.eventTime, true⟩
  integer : p.integer (.int e.tradeCount) = .ok e.tradeCount
  boolean : p.boolean (.bool e.fundingEvent) = .ok e.fundingEvent

/-- The value of a `MarketType`. -/
def marketTypeText : MarketType → String
  | .spot => "SPOT"
  | .usdmFutures => "USDM_FUTURES"
  | .coinmFutures => "COINM_FUTURES"

theorem normalized_normalized (s : String) : normalized (normalized s) = normalized s := by
  unfold normalized
  rw [Text.upper_strip s, Text.strip_strip, Text.upper_strip, Text.upper_upper]

/-- `event_id`: the length is checked before the text is stripped. -/
def eventIdOf (v : Json) : Except String EventId := do
  let value ← text v
  if value.length < 1 then throw "String should have at least 1 character"
  if h : Text.strip value = "" then throw "event_id must not be empty"
  else return ⟨Text.strip value, Text.strip_strip value, h⟩

/-- `symbol`: the length is checked before the text is stripped. -/
def symbolOf (v : Json) : Except String Symbol := do
  let value ← text v
  if value.length < 2 then throw "String should have at least 2 characters"
  if h : normalized value = "" then throw "symbol must not be empty"
  else return ⟨normalized value, normalized_normalized value, h⟩

/-- `venue` and `data_source` -/
def nonemptyUpper (name : String) (v : Json) : Except String String := do
  let value ← text v
  if normalized value = "" then throw (name ++ " must not be empty")
  return normalized value

section

variable (p : Pydantic)

/-- `event_time` -/
def eventTimeOf (v : Json) : Except String ℤ := do
  let value ← p.datetime v
  if ¬ value.aware then throw "event_time must include timezone information"
  return value.micros

/-- `_positive_decimal` -/
def positiveDecimal (name : String) (v : Json) : Except String Price := do
  let value ← p.decimal v
  if h : 0 < value.toRat then return ⟨value, h⟩
  else throw (name ++ " must be finite and positive")

/-- `_nonnegative_decimal` -/
def nonnegativeDecimal (name : String) (v : Json) : Except String Volume := do
  let value ← p.decimal v
  if h : 0 ≤ value.toRat then return ⟨value, h⟩
  else throw (name ++ " must be finite and non-negative")

/-- `trade_count` -/
def tradeCountOf (v : Json) : Except String ℕ := do
  let value ← p.integer v
  if value < 0 then throw "Input should be greater than or equal to 0"
  return value.toNat

/-! ### The constructor -/

/-- The names of the fields. -/
def fieldNames : List String :=
  ["event_id", "event_time", "symbol", "venue", "market_type", "open", "high", "low",
    "close", "volume",
    "trade_count", "best_bid", "best_ask", "bid_qty", "ask_qty", "mark_price", "funding_rate",
    "funding_event", "data_source"]

/-- The fields of an event, each converted and checked on its own. -/
def fieldsOf (payload : Json) : Checked Fields :=
  let price (name : String) := required payload name (positiveDecimal p name)
  let fields := both (.ok Fields.mk) (required payload "event_id" eventIdOf)
  let fields := both fields (required payload "event_time" (eventTimeOf p))
  let fields := both fields (required payload "symbol" symbolOf)
  let fields := both fields (required payload "venue" (nonemptyUpper "venue"))
  let fields := both fields (required payload "market_type"
    (member [.spot, .usdmFutures, .coinmFutures] marketTypeText))
  let fields := both fields (price "open")
  let fields := both fields (price "high")
  let fields := both fields (price "low")
  let fields := both fields (price "close")
  let fields := both fields (required payload "volume" (nonnegativeDecimal p "volume"))
  let fields := both fields (required payload "trade_count" (tradeCountOf p))
  let fields := both fields (price "best_bid")
  let fields := both fields (price "best_ask")
  let fields := both fields (price "bid_qty")
  let fields := both fields (price "ask_qty")
  let fields := both fields (price "mark_price")
  let fields := both fields (withDefault payload "funding_rate" none (nullable p.decimal))
  let fields := both fields (withDefault payload "funding_event" false p.boolean)
  let fields := both fields (required payload "data_source" (nonemptyUpper "data_source"))
  withoutExtra fieldNames payload fields

/-- `validate_market_observation` -/
def validateMarketObservation (f : Fields) : Except Failure HistoricalMarketEvent :=
  let invalid (text : String) : Except Failure HistoricalMarketEvent :=
    .error (.validation "HistoricalMarketEvent" [("", text)])
  if henclosed : max f.openPrice.1.toRat f.close.1.toRat ≤ f.high.1.toRat ∧
      f.low.1.toRat ≤ min f.openPrice.1.toRat f.close.1.toRat then
    if f.high.1.toRat < f.low.1.toRat then invalid "high must be greater than or equal to low"
    else if huncrossed : f.bestBid.1.toRat ≤ f.bestAsk.1.toRat then
      if hsource : f.dataSource ∈ researchDataSources then
        if f.venue ∉ supportedVenues then invalid "venue must be BINANCE_MAINNET or BINANCE_TESTNET"
        else if hvenue : f.venue = expectedVenue f.dataSource then
          if hfutures : f.marketType = .usdmFutures then
            if hsettled : f.fundingRate.isSome = f.fundingEvent then
              .ok { f with
                enclosed := henclosed
                uncrossed := huncrossed
                sourced := ⟨hsource, hvenue⟩
                futures := hfutures
                settled := hsettled }
            else if f.fundingEvent then invalid "funding_event requires an explicit funding_rate"
            else invalid "funding_rate is only accepted on funding_event rows"
          else invalid "historical replay supports USDⓈ-M futures only"
        else invalid "venue does not match data_source"
      else invalid "data_source must be an explicit Binance public read-only source"
    else invalid "best_bid must be less than or equal to best_ask"
  else invalid "OHLC relationship is invalid"

/-- `HistoricalMarketEvent.model_validate` -/
def modelValidate (payload : Json) : Except Failure HistoricalMarketEvent := do
  let fields ← (fieldsOf p payload).mapError (Failure.validation "HistoricalMarketEvent")
  validateMarketObservation fields

/-- The entries of `event.model_dump(mode="json")`. -/
def dumpFields (e : HistoricalMarketEvent) : Dict :=
  let decimal (d : Decimal) : Json := .str (p.decimalText d)
  [
    ("event_id", .str e.eventId.1),
    ("event_time", .str (p.timeText e.eventTime)),
    ("symbol", .str e.symbol.1),
    ("venue", .str e.venue),
    ("market_type", .str (marketTypeText e.marketType)),
    ("open", decimal e.openPrice.1),
    ("high", decimal e.high.1),
    ("low", decimal e.low.1),
    ("close", decimal e.close.1),
    ("volume", decimal e.volume.1),
    ("trade_count", .int e.tradeCount),
    ("best_bid", decimal e.bestBid.1),
    ("best_ask", decimal e.bestAsk.1),
    ("bid_qty", decimal e.bidQty.1),
    ("ask_qty", decimal e.askQty.1),
    ("mark_price", decimal e.markPrice.1),
    ("funding_rate", (e.fundingRate.map decimal).getD .null),
    ("funding_event", .bool e.fundingEvent),
    ("data_source", .str e.dataSource)]

/-- `event.model_dump(mode="json")` -/
def modelDump (e : HistoricalMarketEvent) : Json := .obj (dumpFields p e)

/-! ### Files -/

/-- A line of a file. -/
inductive Line where
  | blank
  /-- no JSON text -/
  | broken
  | value (v : Json)

/-- `json.dumps(v, sort_keys=True, separators=(",", ":"))` -/
def dumps (v : Json) : Json := v.sortKeys

variable (seconds : ℤ → ℚ)

/-- `validate_historical_events` -/
def validateHistoricalEvents (events : List HistoricalMarketEvent) :
    Except Failure (List HistoricalMarketEvent) := do
  let _ ← EventDataset.validateHistoricalEvents seconds (events.map HistoricalMarketEvent.value)
  return events

/-- The loop of `read_historical_events_jsonl` over the lines from a number on. -/
def readLines : ℕ → List Line → Except Failure (List HistoricalMarketEvent)
  | _, [] => .ok []
  | lineNumber, .blank :: lines => readLines (lineNumber + 1) lines
  | lineNumber, .broken :: _ =>
    .error (.value ("invalid JSONL event at line " ++ toString lineNumber))
  | lineNumber, .value payload :: lines => do
    let event ← modelValidate p payload
    let events ← readLines (lineNumber + 1) lines
    return event :: events

/-- `read_historical_events_jsonl` -/
def readHistoricalEventsJsonl (file : List Line) : Except Failure (List HistoricalMarketEvent) := do
  let events ← readLines p 1 file
  validateHistoricalEvents seconds events

/-- SHA-256 of a text in hexadecimal digits. -/
abbrev Sha256 := Json → String

variable (sha256 : Sha256)

/-- `historical_events_sha256` -/
def historicalEventsSha256 (events : List HistoricalMarketEvent) : Except Failure String := do
  let normalized ← validateHistoricalEvents seconds events
  return sha256 (dumps (.arr (normalized.map (modelDump p))))

/-- `write_historical_events_jsonl`: the file and the hash. -/
def writeHistoricalEventsJsonl (events : List HistoricalMarketEvent) :
    Except Failure (List Line × String) := do
  let normalized ← validateHistoricalEvents seconds events
  let file := normalized.map fun event => Line.value (dumps (modelDump p event))
  let hash ← historicalEventsSha256 p seconds sha256 normalized
  return (file, hash)

mutual

/-- `_canonical_json_value` of what `model_dump` gives. -/
def canonicalJsonValue : Json → Json
  | .arr xs => .arr (canonicalJsonValues xs)
  | .obj kvs => .obj (canonicalJsonFields kvs)
  | .null => .null
  | .bool b => .bool b
  | .int n => .int n
  | .float r => .float r
  | .str s => .str s

def canonicalJsonValues : List Json → List Json
  | [] => []
  | x :: xs => canonicalJsonValue x :: canonicalJsonValues xs

def canonicalJsonFields : List (String × Json) → List (String × Json)
  | [] => []
  | (k, x) :: xs => (k, canonicalJsonValue x) :: canonicalJsonFields xs

end

/-- `_canonical_hash` of what `model_dump` gives. -/
def canonicalHash (v : Json) : String := sha256 (dumps (canonicalJsonValue v))

/-- `dataset_sha256` in `DeterministicReplay.run`. -/
def replayDatasetSha256 (events : List HistoricalMarketEvent) : String :=
  canonicalHash sha256 (.arr (events.map (modelDump p)))

/-- `_canonical_hash(normalized_events)` in `run_walk_forward_replay`: the events are dumped one by
one. -/
def walkForwardDatasetSha256 (events : List HistoricalMarketEvent) : String :=
  sha256 (dumps (.arr (events.map fun event => canonicalJsonValue (modelDump p event))))

end

/-! ### One event -/

section Event

variable {p : Pydantic} {e : HistoricalMarketEvent}

theorem eventIdOf_str (id : EventId) : eventIdOf (.str id.1) = .ok id := by
  obtain ⟨s, hstrip, hne⟩ := id
  have hlength : ¬ s.length < 1 := by
    rw [Nat.lt_one_iff]
    exact fun h => hne (String.length_eq_zero_iff.mp h)
  unfold eventIdOf
  refine except_bind_ok.mpr ⟨s, rfl, except_guard_ok.mpr ⟨hlength, ?_⟩⟩
  rw [dif_neg (by rw [hstrip]; exact hne)]
  exact congrArg Except.ok (Subtype.ext hstrip)

/-- A symbol that has been normalized is read back only if it still is long enough. -/
theorem symbolOf_str (symbol : Symbol) : symbolOf (.str symbol.1) =
    if symbol.1.length < 2 then .error "String should have at least 2 characters"
    else .ok symbol := by
  obtain ⟨s, hnormalized, hne⟩ := symbol
  split_ifs with hlength
  · have hshort : s.length < 2 := hlength
    simp only [symbolOf, text, bind, Except.bind, if_pos hshort]
    rfl
  · unfold symbolOf
    refine except_bind_ok.mpr ⟨s, rfl, except_guard_ok.mpr ⟨hlength, ?_⟩⟩
    rw [dif_neg (by rw [hnormalized]; exact hne)]
    exact congrArg Except.ok (Subtype.ext hnormalized)

theorem nonemptyUpper_str {name s : String} (hnormalized : normalized s = s) (hne : s ≠ "") :
    nonemptyUpper name (.str s) = .ok s := by
  unfold nonemptyUpper
  refine except_bind_ok.mpr ⟨s, rfl, except_guard_ok.mpr ⟨by rw [hnormalized]; exact hne, ?_⟩⟩
  exact congrArg Except.ok hnormalized

theorem eventTimeOf_str {s : String} {t : ℤ} (h : p.datetime (.str s) = .ok ⟨t, true⟩) :
    eventTimeOf p (.str s) = .ok t := by
  unfold eventTimeOf
  refine except_bind_ok.mpr ⟨_, h, except_guard_ok.mpr ⟨by simp, rfl⟩⟩

theorem tradeCountOf_int {n : ℕ} (h : p.integer (.int n) = .ok n) :
    tradeCountOf p (.int n) = .ok n := by
  unfold tradeCountOf
  refine except_bind_ok.mpr ⟨_, h, except_guard_ok.mpr ⟨by omega, ?_⟩⟩
  rw [Int.toNat_natCast]
  rfl

theorem positiveDecimal_str {name : String} {d : Price}
    (h : p.decimal (.str (p.decimalText d.1)) = .ok d.1) :
    positiveDecimal p name (.str (p.decimalText d.1)) = .ok d := by
  unfold positiveDecimal
  refine except_bind_ok.mpr ⟨_, h, ?_⟩
  rw [dif_pos d.2]
  rfl

theorem nonnegativeDecimal_str {name : String} {d : Volume}
    (h : p.decimal (.str (p.decimalText d.1)) = .ok d.1) :
    nonnegativeDecimal p name (.str (p.decimalText d.1)) = .ok d := by
  unfold nonnegativeDecimal
  refine except_bind_ok.mpr ⟨_, h, ?_⟩
  rw [dif_pos d.2]
  rfl

theorem fundingRate_dump (h : p.Reads e) :
    nullable p.decimal
      ((e.fundingRate.map fun d => Json.str (p.decimalText d)).getD .null).sortKeys =
      .ok e.fundingRate := by
  cases hrate : e.fundingRate with
  | none => rfl
  | some d =>
    have hd := h.decimal d (by simp [Fields.decimals, hrate])
    simp only [Option.map_some, Option.getD_some, Json.sortKeys, nullable, hd]
    rfl

theorem sourced_normalized (e : HistoricalMarketEvent) :
    (normalized e.dataSource = e.dataSource ∧ e.dataSource ≠ "") ∧ normalized e.venue = e.venue ∧
    e.venue ≠ "" := by
  have hall : ∀ s ∈ researchDataSources, (normalized s = s ∧ s ≠ "") ∧
      normalized (expectedVenue s) = expectedVenue s ∧ expectedVenue s ≠ "" := by decide +kernel
  obtain ⟨hsource, hvenue⟩ := e.sourced
  rw [hvenue]
  exact hall e.dataSource hsource

theorem get?_dump {name : String} {v : Json} (h : (modelDump p e).get? name = some v) :
    (dumps (modelDump p e)).get? name = some v.sortKeys := by
  rw [dumps, Json.get?_sortKeys, h]
  rfl

theorem withoutExtra_dump {α : Type} (x : Checked α) :
    withoutExtra fieldNames (dumps (modelDump p e)) x = x := by
  rw [dumps, modelDump, Json.sortKeys_obj]
  refine withoutExtra_of_keys fun kv hkv => ?_
  obtain ⟨field, hfield, rfl⟩ := List.mem_map.mp hkv
  have hnames : (dumpFields p e).map Prod.fst = fieldNames := rfl
  rw [← hnames]
  have hmem : field ∈ dumpFields p e := (List.mem_insertionSort _).mp hfield
  have hkey : field.1 ∈ (dumpFields p e).map Prod.fst := List.mem_map_of_mem hmem
  exact hkey

/-- What is read of the fields of a dumped event is its fields, if the symbol is long enough. -/
theorem fieldsOf_dump (h : p.Reads e) (hsymbol : 2 ≤ e.symbol.1.length) :
    fieldsOf p (dumps (modelDump p e)) = .ok e.toFields := by
  obtain ⟨⟨hsource, hsource'⟩, hvenue, hvenue'⟩ := sourced_normalized e
  have hdecimal (d : Decimal) (hd : d ∈ e.decimals) := h.decimal d hd
  have hprice (d : Price) (name : String) (hd : d.1 ∈ e.decimals)
      (hget : (modelDump p e).get? name = some (.str (p.decimalText d.1))) :
      required (dumps (modelDump p e)) name (positiveDecimal p name) = .ok d :=
    required_of_get (get?_dump hget) (positiveDecimal_str (hdecimal d.1 hd))
  have hid : required (dumps (modelDump p e)) "event_id" eventIdOf = .ok e.eventId :=
    required_of_get (get?_dump rfl) (eventIdOf_str e.eventId)
  have htime : required (dumps (modelDump p e)) "event_time" (eventTimeOf p) = .ok e.eventTime :=
    required_of_get (get?_dump rfl) (eventTimeOf_str h.datetime)
  have hname : required (dumps (modelDump p e)) "symbol" symbolOf = .ok e.symbol :=
    required_of_get (get?_dump rfl) ((symbolOf_str e.symbol).trans (if_neg (not_lt.mpr hsymbol)))
  have hplace : required (dumps (modelDump p e)) "venue" (nonemptyUpper "venue") = .ok e.venue :=
    required_of_get (get?_dump rfl) (nonemptyUpper_str hvenue hvenue')
  have hmarket : required (dumps (modelDump p e)) "market_type"
      (member [.spot, .usdmFutures, .coinmFutures] marketTypeText) = .ok e.marketType :=
    required_of_get (get?_dump rfl) (by rw [e.futures]; rfl)
  have hvolume : required (dumps (modelDump p e)) "volume" (nonnegativeDecimal p "volume") =
      .ok e.volume :=
    required_of_get (get?_dump rfl)
      (nonnegativeDecimal_str (hdecimal _ (by simp [Fields.decimals])))
  have hcount : required (dumps (modelDump p e)) "trade_count" (tradeCountOf p) =
      .ok e.tradeCount :=
    required_of_get (get?_dump rfl) (tradeCountOf_int h.integer)
  have hrate : withDefault (dumps (modelDump p e)) "funding_rate" none (nullable p.decimal) =
      .ok e.fundingRate :=
    withDefault_of_get (get?_dump rfl) (fundingRate_dump h)
  have hsettles : withDefault (dumps (modelDump p e)) "funding_event" false p.boolean =
      .ok e.fundingEvent :=
    withDefault_of_get (get?_dump rfl) h.boolean
  have hdata : required (dumps (modelDump p e)) "data_source" (nonemptyUpper "data_source") =
      .ok e.dataSource :=
    required_of_get (get?_dump rfl) (nonemptyUpper_str hsource hsource')
  unfold fieldsOf
  simp only [hid, htime, hname, hplace, hmarket, hvolume, hcount, hrate, hsettles, hdata, both_ok,
    hprice e.openPrice "open" (by simp [Fields.decimals]) rfl,
    hprice e.high "high" (by simp [Fields.decimals]) rfl,
    hprice e.low "low" (by simp [Fields.decimals]) rfl,
    hprice e.close "close" (by simp [Fields.decimals]) rfl,
    hprice e.bestBid "best_bid" (by simp [Fields.decimals]) rfl,
    hprice e.bestAsk "best_ask" (by simp [Fields.decimals]) rfl,
    hprice e.bidQty "bid_qty" (by simp [Fields.decimals]) rfl,
    hprice e.askQty "ask_qty" (by simp [Fields.decimals]) rfl,
    hprice e.markPrice "mark_price" (by simp [Fields.decimals]) rfl]
  exact withoutExtra_dump _

theorem validateMarketObservation_fields (e : HistoricalMarketEvent) :
    validateMarketObservation e.toFields = .ok e := by
  have hordered : ¬ e.high.1.toRat < e.low.1.toRat := by
    have hhigh := le_max_left e.openPrice.1.toRat e.close.1.toRat
    have hlow := min_le_left e.openPrice.1.toRat e.close.1.toRat
    exact not_lt.mpr ((e.enclosed.2.trans hlow).trans (hhigh.trans e.enclosed.1))
  have hsupported : ∀ s ∈ researchDataSources, expectedVenue s ∈ supportedVenues := by decide
  have hvenue : e.venue ∈ supportedVenues := by
    rw [e.sourced.2]
    exact hsupported _ e.sourced.1
  unfold validateMarketObservation
  rw [dif_pos e.enclosed, if_neg hordered, dif_pos e.uncrossed, dif_pos e.sourced.1,
    if_neg (not_not.mpr hvenue), dif_pos e.sourced.2, dif_pos e.futures, dif_pos e.settled]

/-- **Round trip of an event**: it is read back exactly if its symbol is long enough. -/
theorem modelValidate_dump (h : p.Reads e) :
    modelValidate p (dumps (modelDump p e)) = .ok e ↔ 2 ≤ e.symbol.1.length := by
  constructor
  · intro hread
    by_contra hshort
    have hsymbol : required (dumps (modelDump p e)) "symbol" symbolOf =
        .error [("symbol", "String should have at least 2 characters")] :=
      required_of_error (get?_dump rfl) ((symbolOf_str e.symbol).trans (if_pos (not_le.mp hshort)))
    have hrefused : (required (dumps (modelDump p e)) "symbol" symbolOf).toBool = false := by
      rw [hsymbol]
      rfl
    have hfails : (fieldsOf p (dumps (modelDump p e))).toBool = false := by
      unfold fieldsOf
      rw [withoutExtra_dump]
      simp only [both_toBool, hrefused, Bool.and_false, Bool.false_and]
    unfold modelValidate at hread
    cases hfields : fieldsOf p (dumps (modelDump p e)) with
    | error errors =>
      rw [hfields] at hread
      cases hread
    | ok fields =>
      rw [hfields] at hfails
      cases hfails
  · intro hlong
    unfold modelValidate
    rw [fieldsOf_dump h hlong]
    exact validateMarketObservation_fields e

end Event

/-! ### Files of events -/

section Files

variable {p : Pydantic} {seconds : ℤ → ℚ} {events : List HistoricalMarketEvent}

/-- **Round trip of the lines.** -/
theorem readLines_dump (lineNumber : ℕ) (hreads : ∀ e ∈ events, p.Reads e) :
    readLines p lineNumber (events.map fun e => Line.value (dumps (modelDump p e))) = .ok events ↔
      ∀ e ∈ events, 2 ≤ e.symbol.1.length := by
  induction events generalizing lineNumber with
  | nil => simp [readLines]
  | cons e events ih =>
    obtain ⟨hread, hreads⟩ := List.forall_mem_cons.mp hreads
    rw [List.map_cons, readLines, List.forall_mem_cons, ← modelValidate_dump hread,
      ← ih (lineNumber + 1) hreads]
    constructor
    · intro h
      obtain ⟨e', he', h⟩ := except_bind_ok.mp h
      obtain ⟨rest, hrest, h⟩ := except_bind_ok.mp h
      obtain ⟨rfl, rfl⟩ := List.cons.inj (Except.ok.inj h)
      exact ⟨he', hrest⟩
    · rintro ⟨he, hrest⟩
      exact except_bind_ok.mpr ⟨e, he, except_bind_ok.mpr ⟨events, hrest, rfl⟩⟩

mutual

theorem canonicalJsonValue_eq : ∀ v : Json, canonicalJsonValue v = v
  | .null | .bool _ | .int _ | .float _ | .str _ => rfl
  | .arr xs => by rw [canonicalJsonValue, canonicalJsonValues_eq xs]
  | .obj kvs => by rw [canonicalJsonValue, canonicalJsonFields_eq kvs]

theorem canonicalJsonValues_eq : ∀ xs : List Json, canonicalJsonValues xs = xs
  | [] => rfl
  | x :: xs => by rw [canonicalJsonValues, canonicalJsonValue_eq x, canonicalJsonValues_eq xs]

theorem canonicalJsonFields_eq : ∀ kvs : List (String × Json), canonicalJsonFields kvs = kvs
  | [] => rfl
  | (k, x) :: kvs =>
    by rw [canonicalJsonFields, canonicalJsonValue_eq x, canonicalJsonFields_eq kvs]

end

theorem checkEvents_of_identity {first : EventDataset.HistoricalMarketEvent}
    {ids ids' : List String} {es : List EventDataset.HistoricalMarketEvent}
    (h : es.foldlM (EventDataset.checkIdentity first) ids = .ok ids') :
    validateEventSequence.checkEvents first.toHistoricalMarketEvent ids
      (es.map EventDataset.HistoricalMarketEvent.toHistoricalMarketEvent) = .ok () := by
  induction es generalizing ids with
  | nil => rfl
  | cons e es ih =>
    rw [List.foldlM_cons] at h
    obtain ⟨next, hnext, h⟩ := except_bind_ok.mp h
    unfold EventDataset.checkIdentity at hnext
    obtain ⟨hsame, hnext⟩ := except_guard_ok.mp hnext
    obtain ⟨hfresh, hnext⟩ := except_guard_ok.mp hnext
    cases hnext
    push Not at hsame
    obtain ⟨hsymbol, hvenue, hmarket, hsource⟩ := hsame
    rw [List.map_cons, validateEventSequence.checkEvents]
    simp only [except_guard_ok, not_not]
    exact ⟨hfresh, hsymbol, by rw [hvenue, hmarket]; simp, hsource, ih h⟩

/-- A dataset that is valid is a valid sequence of events for a replay. -/
theorem validateEventSequence_of_valid
    (hvalid : validateHistoricalEvents seconds events = .ok events) :
    validateEventSequence (events.map fun e => e.value.toHistoricalMarketEvent) = .ok () := by
  obtain ⟨out, hout, -⟩ := except_bind_ok.mp hvalid
  obtain ⟨-, hstrict⟩ := validate_ok hout
  cases events with
  | nil => cases hout
  | cons first rest =>
    unfold EventDataset.validateHistoricalEvents at hout
    rw [List.map_cons] at hout
    obtain ⟨us, -, hout⟩ := except_bind_ok.mp hout
    obtain ⟨ids, hids, -⟩ := except_bind_ok.mp hout
    have hchecked := checkEvents_of_identity hids
    rw [List.pairwise_map] at hstrict
    unfold validateEventSequence
    rw [List.map_cons]
    refine except_guard_ok.mpr ⟨not_not.mpr ?_, ?_⟩
    · rw [← List.map_cons (f := fun e : HistoricalMarketEvent => e.value.toHistoricalMarketEvent),
        List.isChain_map]
      exact hstrict.isChain
    · rw [← List.map_cons, List.map_map] at hchecked
      exact hchecked

/-- A written dataset is read back exactly if its symbols are long enough. -/
theorem read_written (hreads : ∀ e ∈ events, p.Reads e)
    (hvalid : validateHistoricalEvents seconds events = .ok events) :
    readHistoricalEventsJsonl p seconds (events.map fun e => Line.value (dumps (modelDump p e))) =
    .ok events ↔
      ∀ e ∈ events, 2 ≤ e.symbol.1.length := by
  rw [← readLines_dump 1 hreads]
  unfold readHistoricalEventsJsonl
  constructor
  · intro h
    obtain ⟨read, hread, h⟩ := except_bind_ok.mp h
    obtain ⟨-, -, h⟩ := except_bind_ok.mp h
    rw [hread, Except.ok.inj h]
  · intro h
    exact except_bind_ok.mpr ⟨events, h, hvalid⟩

end Files

/-- **A dataset and its file**: a dataset is read back from its file exactly if its symbol still has
two characters after it is normalized; and it has one hash, whichever function computes it. -/
theorem dataset_round_trip (p : Pydantic) (seconds : ℤ → ℚ) (sha256 : Sha256)
    (events : List HistoricalMarketEvent) (hreads : ∀ e ∈ events, p.Reads e)
    (hvalid : validateHistoricalEvents seconds events = .ok events) :
    ((∃ file hash, writeHistoricalEventsJsonl p seconds sha256 events = .ok (file, hash) ∧
      ∃ read, readHistoricalEventsJsonl p seconds file = .ok read ∧ read = events ∧
        historicalEventsSha256 p seconds sha256 read = .ok hash) ↔
        ∀ e ∈ events, 2 ≤ e.symbol.1.length) ∧
    ∃ file hash, writeHistoricalEventsJsonl p seconds sha256 events = .ok (file, hash) ∧
      historicalEventsSha256 p seconds sha256 events = .ok hash ∧
      validateEventSequence (events.map fun e => e.value.toHistoricalMarketEvent) = .ok () ∧
      replayDatasetSha256 p sha256 events = hash ∧
      walkForwardDatasetSha256 p sha256 events = hash := by
  have hhash : historicalEventsSha256 p seconds sha256 events =
      .ok (sha256 (dumps (.arr (events.map (modelDump p))))) := by
    unfold historicalEventsSha256
    rw [hvalid]
    rfl
  have hwrite : writeHistoricalEventsJsonl p seconds sha256 events =
      .ok (events.map fun e => Line.value (dumps (modelDump p e)),
        sha256 (dumps (.arr (events.map (modelDump p))))) := by
    unfold writeHistoricalEventsJsonl
    rw [hvalid]
    refine except_bind_ok.mpr ⟨events, rfl, ?_⟩
    rw [hhash]
    rfl
  constructor
  · rw [← read_written hreads hvalid]
    constructor
    · rintro ⟨file, hash, hfile, read, hread, rfl, -⟩
      rw [hwrite] at hfile
      obtain ⟨rfl, -⟩ := Prod.mk.inj (Except.ok.inj hfile)
      exact hread
    · exact fun hread => ⟨_, _, hwrite, events, hread, rfl, hhash⟩
  · refine ⟨_, _, hwrite, hhash, validateEventSequence_of_valid hvalid, ?_, ?_⟩
    · rw [replayDatasetSha256, canonicalHash, canonicalJsonValue_eq]
    · simp only [walkForwardDatasetSha256, canonicalJsonValue_eq]

/-! ### A symbol of one character -/

/-- Decimals as the interpreter prints and reads them, and two times. -/
def samplePydantic : Pydantic where
  decimalText := Decimal.toStr
  timeText t := if t = 60000000 then "1970-01-01T00:01:00Z" else "1970-01-01T00:02:00Z"
  decimal := fun v =>
    match v with
    | .str s => match (Decimal.ofText s).bind Decimal.Number.finite? with
      | some d => .ok d
      | none => .error "Input should be a valid decimal"
    | _ => .error "Decimal input should be an integer, float, string or Decimal object"
  datetime := fun v =>
    if v = .str "1970-01-01T00:01:00Z" then .ok ⟨60000000, true⟩
    else if v = .str "1970-01-01T00:02:00Z" then .ok ⟨120000000, true⟩
    else .error "Input should be a valid datetime"
  integer := fun v =>
    match v with
    | .int n => .ok n
    | _ => .error "Input should be a valid integer"
  boolean := fun v =>
    match v with
    | .bool b => .ok b
    | _ => .error "Input should be a valid boolean"

/-- A decimal with one place. -/
def tenths (n : ℕ) : Decimal := ⟨false, n, -1⟩

def sampleEvent (symbol : Symbol) : HistoricalMarketEvent :=
  let price : Price := ⟨tenths 105, by decide +kernel⟩
  { eventId := ⟨"event-1", by decide +kernel⟩
    eventTime := 60000000
    symbol
    venue := "BINANCE_MAINNET"
    marketType := .usdmFutures
    openPrice := price
    high := price
    low := price
    close := price
    volume := ⟨tenths 0, by decide +kernel⟩
    tradeCount := 0
    bestBid := price
    bestAsk := price
    bidQty := price
    askQty := price
    markPrice := price
    fundingRate := none
    fundingEvent := false
    dataSource := "BINANCE_PUBLIC_MAINNET_READ_ONLY"
    enclosed := by decide +kernel
    uncrossed := by decide +kernel
    sourced := by decide +kernel
    futures := rfl
    settled := rfl }

/-- The event of the next minute, with a trade at a lower price and a negative funding rate. -/
def fundedEvent (symbol : Symbol) : HistoricalMarketEvent :=
  let price : Price := ⟨tenths 104, by decide +kernel⟩
  { sampleEvent symbol with
    eventId := ⟨"event-2", by decide +kernel⟩
    eventTime := 120000000
    low := price
    close := price
    volume := ⟨tenths 5, by decide +kernel⟩
    tradeCount := 3
    bestBid := price
    fundingRate := some ⟨true, 125, -6⟩
    fundingEvent := true
    enclosed := show max (tenths 105).toRat (tenths 104).toRat ≤ (tenths 105).toRat ∧
      (tenths 104).toRat ≤ min (tenths 105).toRat (tenths 104).toRat by decide +kernel
    uncrossed := show (tenths 104).toRat ≤ (tenths 105).toRat by decide +kernel
    settled := rfl }

theorem sample_reads (symbol : Symbol) : samplePydantic.Reads (sampleEvent symbol) where
  decimal := by
    have hall : ∀ d ∈ [tenths 105, tenths 0],
        samplePydantic.decimal (.str (samplePydantic.decimalText d)) = .ok d := by decide +kernel
    have hmem : ∀ d ∈ (sampleEvent symbol).decimals, d ∈ [tenths 105, tenths 0] := by
      simp [Fields.decimals, sampleEvent]
    exact fun d hd => hall d (hmem d hd)
  datetime := by
    have hread : samplePydantic.datetime (.str (samplePydantic.timeText 60000000)) =
        .ok ⟨60000000, true⟩ := by decide +kernel
    exact hread
  integer := rfl
  boolean := rfl

theorem funded_reads (symbol : Symbol) : samplePydantic.Reads (fundedEvent symbol) where
  decimal := by
    have hall : ∀ d ∈ [tenths 105, tenths 104, tenths 5, ⟨true, 125, -6⟩],
        samplePydantic.decimal (.str (samplePydantic.decimalText d)) = .ok d := by decide +kernel
    have hmem : ∀ d ∈ (fundedEvent symbol).decimals,
        d ∈ [tenths 105, tenths 104, tenths 5, ⟨true, 125, -6⟩] := by
      simp [Fields.decimals, fundedEvent, sampleEvent]
    exact fun d hd => hall d (hmem d hd)
  datetime := by
    have hread : samplePydantic.datetime (.str (samplePydantic.timeText 120000000)) =
        .ok ⟨120000000, true⟩ := by decide +kernel
    exact hread
  integer := rfl
  boolean := rfl

/-- `total_seconds` -/
def sampleSeconds (t : ℤ) : ℚ := t / 1000000

theorem valid_of_accepted {events : List HistoricalMarketEvent}
    (h : (EventDataset.validateHistoricalEvents sampleSeconds
      (events.map HistoricalMarketEvent.value)).isOk = true) :
    validateHistoricalEvents sampleSeconds events = .ok events := by
  unfold validateHistoricalEvents
  cases hvalid : EventDataset.validateHistoricalEvents sampleSeconds
      (events.map HistoricalMarketEvent.value) with
  | error e =>
    rw [hvalid] at h
    cases h
  | ok values => rfl

/-- A text stands for its hash. -/
def sampleSha256 : Sha256 := Json.repr

/-- A symbol of seven characters. -/
def bitcoin : Symbol := ⟨"BTCUSDT", by decide +kernel⟩

/-- Two minutes with funding in the second one. -/
theorem dataset_round_trip_btcusdt :
    (∃ file hash, writeHistoricalEventsJsonl samplePydantic sampleSeconds sampleSha256
        [sampleEvent bitcoin, fundedEvent bitcoin] = .ok (file, hash) ∧
      ∃ read, readHistoricalEventsJsonl samplePydantic sampleSeconds file = .ok read ∧
        read = [sampleEvent bitcoin, fundedEvent bitcoin] ∧
        historicalEventsSha256 samplePydantic sampleSeconds sampleSha256 read = .ok hash) := by
  refine (dataset_round_trip samplePydantic sampleSeconds sampleSha256
    [sampleEvent bitcoin, fundedEvent bitcoin] ?_ (valid_of_accepted (by decide +kernel))).1.mpr ?_
  · exact List.forall_mem_cons.mpr
      ⟨sample_reads _, List.forall_mem_singleton.mpr (funded_reads _)⟩
  · exact List.forall_mem_cons.mpr
      ⟨by decide +kernel, List.forall_mem_singleton.mpr (by decide +kernel)⟩

/-- The symbol ` X` has two characters, and the event has the symbol `X`. -/
def shortPayload : Json :=
  .obj ((dumpFields samplePydantic (sampleEvent ⟨"X", by decide +kernel⟩)).map fun kv =>
    if kv.1 = "symbol" then ("symbol", .str " X") else kv)

theorem shortPayload_accepted : modelValidate samplePydantic shortPayload =
    .ok (sampleEvent ⟨"X", by decide +kernel⟩) := by
  have hfields : (modelValidate samplePydantic shortPayload).toOption.map (·.toFields) =
      some (sampleEvent ⟨"X", by decide +kernel⟩).toFields := by decide +kernel
  cases hread : modelValidate samplePydantic shortPayload with
  | error e =>
    rw [hread] at hfields
    cases hfields
  | ok e =>
    rw [hread] at hfields
    have hsame : e.toFields = (sampleEvent ⟨"X", by decide +kernel⟩).toFields :=
      Option.some.inj hfields
    rw [← validateMarketObservation_fields e, hsame, validateMarketObservation_fields]

/-- The event is accepted and written, and refused when it is read. -/
theorem short_symbol_refused : ¬ ∀ (p : Pydantic) (seconds : ℤ → ℚ) (sha256 : Sha256)
    (events : List HistoricalMarketEvent), (∀ e ∈ events, p.Reads e) →
    (∀ e ∈ events, ∃ payload, modelValidate p payload = .ok e) →
    validateHistoricalEvents seconds events = .ok events →
    ∃ file hash, writeHistoricalEventsJsonl p seconds sha256 events = .ok (file, hash) ∧
      readHistoricalEventsJsonl p seconds file = .ok events := by
  intro hclaim
  have hvalid : validateHistoricalEvents sampleSeconds [sampleEvent ⟨"X", by decide +kernel⟩] =
      .ok [sampleEvent ⟨"X", by decide +kernel⟩] := valid_of_accepted (by decide +kernel)
  have hreads : ∀ e ∈ [sampleEvent ⟨"X", by decide +kernel⟩], samplePydantic.Reads e :=
    List.forall_mem_singleton.mpr (sample_reads _)
  obtain ⟨file, hash, hwrite, hread⟩ := hclaim samplePydantic sampleSeconds sampleSha256 _ hreads
    (List.forall_mem_singleton.mpr ⟨shortPayload, shortPayload_accepted⟩) hvalid
  have hfile : file = [sampleEvent ⟨"X", by decide +kernel⟩].map fun e =>
      Line.value (dumps (modelDump samplePydantic e)) := by
    unfold writeHistoricalEventsJsonl at hwrite
    obtain ⟨normalized, hnormalized, hwrite⟩ := except_bind_ok.mp hwrite
    obtain ⟨h, -, hwrite⟩ := except_bind_ok.mp hwrite
    rw [hvalid] at hnormalized
    rw [← Except.ok.inj hnormalized] at hwrite
    exact (Prod.mk.inj (Except.ok.inj hwrite)).1.symm
  rw [hfile] at hread
  have hlong := (read_written hreads hvalid).mp hread _ (List.mem_singleton_self _)
  exact absurd hlong (by decide +kernel)

end Blessing.Backtest.EventFiles
