import Blessing.Binance.PositionMirror
import Blessing.Engines.GridStrategy
import Blessing.Launch.Submission
import Mathlib.Data.List.Dedup

/-! # The cache of the grid depth

`_observed_grid_depth` of `main.py` reads the depth of the grid from the ledger and keeps it under
the version of the ledger. The version counts the changes of the ledger, but not those of
`upsert_order` and `replace_positions`: the depth a read returns is the current one as long as these
two leave the orders and positions of a symbol alone whose depth is kept for the current version. -/

namespace Blessing.Worker.GridDepth

open Blessing.Lib Blessing.Lib.Values Blessing.Lib.Table Blessing.Lib.Machine Blessing.Lib.Effects
open Blessing.Binance.Models Blessing.Binance.Ledger
open Blessing.Binance.PositionMirror (PositionRow)
open Blessing.Engines.GridStrategy Blessing.Launch.Submission

/-! ### The depth of the ledger -/

/-- The positions of a symbol. -/
def positionsOf (symbol : String) (positions : List ExchangePosition) : List ExchangePosition :=
  positions.filter fun p => Text.upper p.symbol = symbol

/-- The orders of a symbol. -/
def ordersOf (symbol : String) (orders : List ExecutionOrder) : List ExecutionOrder :=
  orders.filter fun o => Text.upper o.symbol = symbol

/-- The fills of a symbol. -/
def fillsOf (symbol : String) (fills : List ExchangeFill) : List ExchangeFill :=
  fills.filter fun f => Text.upper f.symbol = symbol

/-- `position_qty` -/
def positionQty (positions : List ExchangePosition) : Decimal :=
  Decimal.sum ((positions.filter fun p => !p.quantity.isZero).map fun p => p.quantity.abs)

/-- `grid_orders` -/
def gridOrders (orders : List ExecutionOrder) : List ExecutionOrder :=
  orders.filter fun o =>
    hasGridLineage o.sourceIntentIds o.clientOrderId.1 || isGridStrategy o.strategyId

/-- `open_grid_orders` -/
def openGridOrders (orders : List ExecutionOrder) : ℕ :=
  (gridOrders orders).countP fun o => ["NEW", "PARTIALLY_FILLED"].contains (Text.upper o.status)

/-- `filled_grid_order_ids` -/
def filledGridOrderIds (orders : List ExecutionOrder) (fills : List ExchangeFill) : List String :=
  ((fills.filter fun f =>
    ((gridOrders orders).map fun o => o.clientOrderId.1).contains f.clientOrderId ||
      hasGridLineage f.sourceIntentIds f.clientOrderId || isGridStrategy f.strategyId).map
        ExchangeFill.clientOrderId).dedup

variable (g : GridStrategyEngine)

/-- The scan of the ledger, nothing where it raises. -/
def scan (symbol : String) (l : InMemoryLedger) : Option ℕ :=
  let positions := positionsOf symbol l.positions
  let orders := ordersOf symbol l.orders
  let fills := fillsOf symbol l.fills
  g.observedDepth (positionQty positions).toRat (openGridOrders orders)
    (filledGridOrderIds orders fills).length

/-- The depth recomputed from the ledger; the limit where the scan raises. -/
def currentDepth (symbol : String) (l : InMemoryLedger) : ℕ :=
  (scan g (Text.upper symbol) l).getD g.maxGridLevels

/-! ### The cache -/

/-- An entry of `_observed_grid_depth_cache`. -/
structure Cached where
  symbol : String
  version : ℕ
  depth : ℕ
  deriving DecidableEq

/-- `_observed_grid_depth`: the depth, and the cache after the call. -/
def observedGridDepth (mode : ExecutionMode) (adapter : Option InMemoryLedger) (symbol : String)
    (cache : List Cached) : ℕ × List Cached :=
  if mode ≠ .testnet ∧ mode ≠ .live then (0, cache)
  else
    match adapter with
    | none => (g.maxGridLevels, cache)
    | some l =>
      let symbol := Text.upper symbol
      match (lookup Cached.symbol symbol cache).filter fun e => e.version = l.version with
      | some e => (e.depth, cache)
      | none =>
        match scan g symbol l with
        | some depth => (depth, upsert Cached.symbol ⟨symbol, l.version, depth⟩ cache)
        | none => (g.maxGridLevels, cache)

/-! ### Runs -/

/-- An operation on the ledger, or a read of the depth. -/
inductive Operation where
  | upsertOrder (order : ExecutionOrder)
  | upsertRawExchangeOrder (raw : Json)
  | appendFill (fill : ExchangeFill)
  | replacePositions (rows : List PositionRow) (markInitialized : Bool)
  | upsertPosition (row : PositionRow)
  | clearPositionsForSymbol (symbol : String)
  | read (symbol : String)

/-- The ledger of the adapter and the cache of the Worker. -/
structure State where
  ledger : InMemoryLedger
  cache : List Cached

/-- A call that raises leaves the ledger as it was. -/
def called (l : InMemoryLedger) (result : Except Exn InMemoryLedger) : InMemoryLedger :=
  match result with
  | .ok l' => l'
  | .error _ => l

/-- What an operation does to the ledger. -/
def ledgerAfter : Operation → InMemoryLedger → InMemoryLedger
  | .upsertOrder order, l => upsertOrder order l
  | .upsertRawExchangeOrder raw, l => called l (upsertRawExchangeOrder raw l)
  | .appendFill fill, l => appendFill fill l
  | .replacePositions rows mark, l =>
    called l ((Binance.PositionMirror.replacePositions rows mark l).map Prod.snd)
  | .upsertPosition row, l =>
    called l ((Binance.PositionMirror.upsertPosition row l).map Prod.snd)
  | .clearPositionsForSymbol symbol, l => clearPositionsForSymbol symbol l
  | .read _, l => l

/-- A step: a read answers with the depth. -/
def step (mode : ExecutionMode) (s : State) (op : Operation) : Option ℕ × State :=
  match op with
  | .read symbol =>
    let (depth, cache) := observedGridDepth g mode (some s.ledger) symbol s.cache
    (some depth, { s with cache })
  | op => (none, { s with ledger := ledgerAfter op s.ledger })

/-- The operations that count a change of the ledger. -/
def Operation.counted : Operation → Bool
  | .upsertOrder _ | .replacePositions _ _ => false
  | _ => true

/-- The cache holds nothing for the current version that the operation changes without a new
version. -/
def Versioned (s : State) : Operation → Prop
  | .upsertOrder order => ∀ e ∈ s.cache, e.version = s.ledger.version →
      ordersOf e.symbol (upsertOrder order s.ledger).orders = ordersOf e.symbol s.ledger.orders
  | .replacePositions rows _ => ∀ positions, rows.mapM PositionRow.toPosition = .ok positions →
      ∀ e ∈ s.cache, e.version = s.ledger.version →
        positionsOf e.symbol positions = positionsOf e.symbol s.ledger.positions
  | _ => True

/-! ### The entries of the cache -/

/-- An entry of the current version is the current depth; no entry is of a version to come. -/
def Fresh (s : State) : Prop :=
  ∀ e ∈ s.cache, e.version ≤ s.ledger.version ∧
    (e.version = s.ledger.version → scan g e.symbol s.ledger = some e.depth)

variable {g}

/-- The depth depends on nothing but the positions, orders and fills of the symbol. -/
theorem scan_congr {symbol : String} {l l' : InMemoryLedger}
    (hp : positionsOf symbol l'.positions = positionsOf symbol l.positions)
    (ho : ordersOf symbol l'.orders = ordersOf symbol l.orders)
    (hf : fillsOf symbol l'.fills = fillsOf symbol l.fills) :
    scan g symbol l' = scan g symbol l := by
  simp only [scan, hp, ho, hf]

/-- The version moves with a counted operation, unless the ledger stays as it is. -/
theorem version_lt_or_eq (l : InMemoryLedger) {op : Operation} (hop : op.counted = true) :
    l.version < (ledgerAfter op l).version ∨ ledgerAfter op l = l := by
  cases op with
  | upsertOrder order => cases hop
  | replacePositions rows mark => cases hop
  | upsertRawExchangeOrder raw =>
    rw [ledgerAfter, upsertRawExchangeOrder]
    cases orderOfRaw l raw with
    | error e => exact .inr rfl
    | ok order => exact .inl (Nat.lt_succ_self _)
  | appendFill fill =>
    rw [ledgerAfter, appendFill]
    split_ifs
    · exact .inr rfl
    · exact .inl (Nat.lt_succ_self _)
  | upsertPosition row =>
    rw [ledgerAfter, Binance.PositionMirror.upsertPosition]
    cases row.toPosition with
    | error e => exact .inr rfl
    | ok p => exact .inl (Nat.lt_succ_self _)
  | clearPositionsForSymbol symbol => exact .inl (Nat.lt_succ_self _)
  | read symbol => exact .inr rfl

/-- A new ledger state of a later version, or one with the same depths, keeps the entries right. -/
theorem Fresh.ledger {s : State} {l : InMemoryLedger} (h : Fresh g s)
    (hl : s.ledger.version < l.version ∨ (l.version = s.ledger.version ∧
      ∀ e ∈ s.cache, e.version = s.ledger.version → scan g e.symbol l = scan g e.symbol s.ledger)) :
    Fresh g { s with ledger := l } := by
  intro e he
  obtain ⟨hle, hdepth⟩ := h e he
  rcases hl with hlt | ⟨hsame, hscan⟩
  · refine ⟨hle.trans hlt.le, fun heq => ?_⟩
    have hv : e.version = l.version := heq
    omega
  · have hv (heq : e.version = l.version) : e.version = s.ledger.version := heq.trans hsame
    exact ⟨hle.trans hsame.ge, fun heq => (hscan e he (hv heq)).trans (hdepth (hv heq))⟩

theorem fresh_counted {s : State} {op : Operation} (h : Fresh g s) (hop : op.counted = true) :
    Fresh g { s with ledger := ledgerAfter op s.ledger } := by
  refine h.ledger ?_
  rcases version_lt_or_eq s.ledger hop with hlt | heq
  · exact .inl hlt
  · rw [heq]
    exact .inr ⟨rfl, fun _ _ _ => rfl⟩

theorem fresh_ledgerAfter {s : State} {op : Operation} (h : Fresh g s) (hop : Versioned s op) :
    Fresh g { s with ledger := ledgerAfter op s.ledger } := by
  cases op with
  | upsertOrder order =>
    exact h.ledger (.inr ⟨rfl, fun e he hv => scan_congr rfl (hop e he hv) rfl⟩)
  | replacePositions rows mark =>
    refine h.ledger ?_
    simp only [Versioned] at hop
    rw [ledgerAfter, Binance.PositionMirror.replacePositions]
    cases hrows : rows.mapM PositionRow.toPosition with
    | error e => exact .inr ⟨rfl, fun _ _ _ => rfl⟩
    | ok positions =>
      exact .inr ⟨rfl, fun e he hv => scan_congr (hop positions hrows e he hv) rfl rfl⟩
  | _ => exact fresh_counted h rfl

variable {mode : ExecutionMode}

/-- A read returns the current depth, and what it keeps is right. -/
theorem read_spec (hmode : mode = .testnet ∨ mode = .live) {s : State} (h : Fresh g s)
    (symbol : String) :
    (observedGridDepth g mode (some s.ledger) symbol s.cache).1 = currentDepth g symbol s.ledger ∧
      Fresh g { s with cache := (observedGridDepth g mode (some s.ledger) symbol s.cache).2 } := by
  have hexchange : ¬ (mode ≠ .testnet ∧ mode ≠ .live) := by
    rcases hmode with rfl | rfl <;> simp
  rw [observedGridDepth, if_neg hexchange, currentDepth]
  dsimp only
  cases hl : (lookup Cached.symbol (Text.upper symbol) s.cache).filter
      fun e => e.version = s.ledger.version with
  | some e =>
    obtain ⟨hlookup, hversion⟩ := Option.filter_eq_some_iff.mp hl
    have he := (h e (mem_of_lookup hlookup)).2 (by simpa using hversion)
    rw [key_of_lookup hlookup] at he
    exact ⟨by simp [he], h⟩
  | none =>
    cases hscan : scan g (Text.upper symbol) s.ledger with
    | none => exact ⟨rfl, h⟩
    | some depth =>
      refine ⟨rfl, fun e he => ?_⟩
      rcases mem_upsert he with rfl | he
      · exact ⟨le_rfl, fun _ => hscan⟩
      · exact h e he

theorem fresh_step (hmode : mode = .testnet ∨ mode = .live) {s : State} {op : Operation}
    (h : Fresh g s) (hop : Versioned s op) : Fresh g (step g mode s op).2 := by
  cases op with
  | read symbol => exact (read_spec hmode h symbol).2
  | _ => exact fresh_ledgerAfter h hop

/-- **No read of the depth is stale**, in a run whose calls of `upsert_order` and
`replace_positions` change nothing the cache holds for the current version. -/
theorem depth_current (hmode : mode = .testnet ∨ mode = .live) (l : InMemoryLedger)
    (ops : List Operation) (hops : Admitted (step g mode) Versioned ⟨l, []⟩ ops) :
    ∀ s symbol, StepOf (step g mode) ⟨l, []⟩ ops s (.read symbol) →
      (step g mode s (.read symbol)).1 = some (currentDepth g symbol s.ledger) := by
  intro s symbol hstep
  have hstart : Fresh g ⟨l, []⟩ := fun e he => absurd he (List.not_mem_nil)
  have hfresh := run_steps (fun s op h hop => fresh_step hmode h hop) hstart hops hstep
  exact congrArg some (read_spec hmode hfresh.1 symbol).1

/-- An open order of the grid. -/
def gridOrder : ExecutionOrder where
  symbol := "ETHUSDC"
  side := .buy
  quantity := Decimal.ofNat 1
  price := Decimal.ofNat 2000
  clientOrderId := ⟨"B-SYS-1", by decide⟩
  status := "NEW"
  sourceIntentIds := ["GRID-ETHUSDC-1"]

/-- The depth is read, the adapter records an order it has sent, and the depth is read again. -/
theorem recorded_order_not_observed : ¬ ∀ (ops : List Operation) (s : State) (symbol : String),
    StepOf (step defaultEngine .testnet) ⟨empty, []⟩ ops s (.read symbol) →
      (step defaultEngine .testnet s (.read symbol)).1 =
        some (currentDepth defaultEngine symbol s.ledger) := by
  intro h
  have hread := h [.read "ETHUSDC", .upsertOrder gridOrder, .read "ETHUSDC"] _ "ETHUSDC"
    ⟨[.read "ETHUSDC", .upsertOrder gridOrder], [], rfl, rfl⟩
  exact absurd hread (by decide +kernel)

/-- A position opened between two reads is seen: it is none of the grid, so the limit is reached. -/
theorem depth_current_opened : ∃ s, StepOf (step defaultEngine .live) ⟨empty, []⟩
      [.read "ETHUSDC", .upsertPosition (.position Binance.PositionMirror.samplePosition),
        .read "ETHUSDC"] s (.read "ETHUSDC") ∧
    (step defaultEngine .live s (.read "ETHUSDC")).1 = some 5 := by
  refine ⟨_, ⟨[.read "ETHUSDC", .upsertPosition (.position Binance.PositionMirror.samplePosition)],
    [], rfl, rfl⟩, ?_⟩
  rw [depth_current (.inr rfl) empty
    [.read "ETHUSDC", .upsertPosition (.position Binance.PositionMirror.samplePosition),
      .read "ETHUSDC"] ⟨trivial, trivial, trivial, trivial⟩ _ "ETHUSDC"
    ⟨[.read "ETHUSDC", .upsertPosition (.position Binance.PositionMirror.samplePosition)], [], rfl,
      rfl⟩]
  decide +kernel

end Blessing.Worker.GridDepth
