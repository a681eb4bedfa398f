import Blessing.Lib.Effects
import Blessing.Persistence.FillIdentity
import Mathlib.Data.List.Induction

/-! # Exactly-once fills

The same trade arrives from the stream, from a bootstrap and from a recovery, in any order and any
number of times. A run of `append_fill` keeps the first fill of each identity and tells the callback
about exactly these, for a new ledger and for one loaded from the tables. -/

namespace Blessing.Persistence.ExactlyOnce

open Blessing.Lib Blessing.Lib.Table Blessing.Lib.Machine Blessing.Lib.Effects
open Blessing.Binance.Models Blessing.Binance.Ledger
open Blessing.Persistence.Tables Blessing.Persistence.Load Blessing.Persistence.FillIdentity

/-- `append_fill` with the calls of `on_fill_update` it makes. -/
def appendNotified (l : InMemoryLedger) (fill : ExchangeFill) :
    List ExchangeFill × InMemoryLedger :=
  (if l.fillKeys.contains (fillKey fill) || hasFill l (fillKey fill) then [] else [fill],
    appendFill fill l)

/-- A run of `append_fill`: the calls of `on_fill_update` and the ledger. -/
def appendAll (l : InMemoryLedger) (fills : List ExchangeFill) :
    List ExchangeFill × InMemoryLedger :=
  ((run appendNotified l fills).1.flatten, (run appendNotified l fills).2)

/-- A ledger before a run: a new one, or one loaded for an environment. -/
inductive Started : InMemoryLedger → Prop
  | new : Started empty
  | loaded (env : BinanceEnvironment) (symbol : String) (t : Database) (l : InMemoryLedger)
      (hs : Plain symbol) (h : load symbol env.label t = .ok l) : Started l

/-! ### One call -/

/-- Every identity is held once, and the keys can be read back. -/
structure Held (l : InMemoryLedger) : Prop where
  plain : PlainLedger l
  once : (identities l).Nodup

variable {l : InMemoryLedger} {f : ExchangeFill}

theorem known_iff (hl : PlainLedger l) (hf : PlainFill f) :
    (l.fillKeys.contains (fillKey f) || hasFill l (fillKey f)) = true ↔
      identity f ∈ identities l := by
  have hkey := mem_fillKeys hl (plain_identity hf)
  rw [Bool.or_eq_true, hasFill_fillKey hl hf, List.contains_iff_mem, fillKey_eq, hkey, or_self]

theorem appendFill_of_mem (hl : PlainLedger l) (hf : PlainFill f) (h : identity f ∈ identities l) :
    appendNotified l f = ([], l) := by
  have hk := (known_iff hl hf).mpr h
  rw [appendNotified, appendFill, if_pos hk, if_pos hk]

theorem fills_appendFill (hl : PlainLedger l) (hf : PlainFill f) (h : identity f ∉ identities l) :
    (appendNotified l f).1 = [f] ∧ (appendNotified l f).2.fills = l.fills ++ [f] := by
  have hk : ¬ (l.fillKeys.contains (fillKey f) || hasFill l (fillKey f)) = true :=
    fun hk => h ((known_iff hl hf).mp hk)
  rw [appendNotified, appendFill, if_neg hk, if_neg hk]
  exact ⟨rfl, rfl⟩

/-- One call: the fills are the first occurrences, and the callback hears of what is new. -/
theorem append_spec (hl : Held l) (hf : PlainFill f) :
    (appendNotified l f).2.fills = firsts identity (l.fills ++ [f]) ∧
      (appendNotified l f).2.fills = l.fills ++ (appendNotified l f).1 := by
  have hfirst : firsts identity l.fills = l.fills := firsts_of_nodup hl.once
  rw [firsts_snoc, hfirst, ← identities]
  by_cases h : identity f ∈ identities l
  · rw [appendFill_of_mem hl.plain hf h, if_pos h]
    simp
  · obtain ⟨hnew, hfills⟩ := fills_appendFill hl.plain hf h
    rw [hnew, hfills, if_neg h]
    simp

theorem held_append (hl : Held l) (hf : PlainFill f) : Held (appendNotified l f).2 := by
  obtain ⟨hfirst, happ⟩ := append_spec hl hf
  refine ⟨fun g hg => ?_, ?_⟩
  · by_cases h : identity f ∈ identities l
    · rw [appendFill_of_mem hl.plain hf h] at hg
      exact hl.plain g hg
    · rw [(fills_appendFill hl.plain hf h).2, List.mem_append, List.mem_singleton] at hg
      obtain hg | rfl := hg
      · exact hl.plain g hg
      · exact hf
  · rw [identities, hfirst]
    exact nodup_firsts _

/-! ### Runs -/

variable {fills : List ExchangeFill}

theorem held_run (hl : Held l) (hf : ∀ f ∈ fills, PlainFill f) : Held (appendAll l fills).2 :=
  run_inv (fun _ _ hs hok => held_append hs hok) hl (admitted_of_forall hf)

/-- A run keeps the first occurrences and reports what it adds. -/
theorem run_spec (hl : Held l) (hf : ∀ f ∈ fills, PlainFill f) :
    (appendAll l fills).2.fills = firsts identity (l.fills ++ fills) ∧
      (appendAll l fills).2.fills = l.fills ++ (appendAll l fills).1 := by
  induction fills using List.reverseRecOn with
  | nil =>
    rw [List.append_nil, firsts_of_nodup hl.once]
    exact ⟨rfl, by simp [appendAll]⟩
  | append_singleton fills f ih =>
    have hpre : ∀ f ∈ fills, PlainFill f := fun g hg => hf g (by simp [hg])
    obtain ⟨hfirst, happ⟩ := ih hpre
    have hstep := append_spec (held_run hl hpre) (hf f (by simp))
    have hrun : appendAll l (fills ++ [f]) =
        ((appendAll l fills).1 ++ (appendNotified (appendAll l fills).2 f).1,
          (appendNotified (appendAll l fills).2 f).2) := by
      simp [appendAll, run_append]
    rw [hrun]
    refine ⟨?_, ?_⟩
    · rw [hstep.1, firsts_snoc, ← List.append_assoc, firsts_snoc, hfirst,
        firsts_of_nodup (nodup_firsts _)]
      simp only [mem_map_firsts]
    · rw [hstep.2, happ, List.append_assoc]

/-! ### Loaded ledgers -/

theorem held_empty : Held empty := ⟨by simp [PlainLedger, empty], by simp [identities, empty]⟩

theorem Held.of_fills {l' : InMemoryLedger} (hl : Held l) (h : l'.fills = l.fills) : Held l' :=
  ⟨fun f hf => hl.plain f (h ▸ hf), by rw [identities, h]; exact hl.once⟩

/-- A loaded fill has the symbol and the venue of the scope as its source. -/
theorem fillFromRow_ok {row : FillRow} {symbol venue : String} {f : ExchangeFill}
    (h : fillFromRow row symbol venue = .ok f) : f.symbol = symbol ∧ f.source = venue := by
  unfold fillFromRow at h
  simp only [except_bind_ok, except_guard_ok] at h
  obtain ⟨_, -, _, -, _, -, -, -, _, -, _, -, _, -, _, -, _, -, _, -, h⟩ := h
  cases h
  exact ⟨rfl, rfl⟩

theorem held_loadFill {env : BinanceEnvironment} {symbol : String} (hs : Plain symbol)
    (hup : Text.upper symbol = symbol) (hl : Held l) (row : FillRow) :
    Gives Held (loadFill symbol env.label l row) := by
  intro l' h
  unfold loadFill at h
  simp only [except_bind_ok, except_guard_ok] at h
  obtain ⟨f, hrow, hnew, h⟩ := h
  cases h
  obtain ⟨rfl, hsource⟩ := fillFromRow_ok hrow
  have hf : PlainFill f := ⟨by rw [hsource]; cases env <;> decide, hs⟩
  have hid : identity f = ⟨env.label, f.symbol, f.exchangeTradeId⟩ := by
    rw [identity, hsource, venueOf_label, hup]
  -- the checked text is the key of the row
  have hkey : env.label ++ ":" ++ f.symbol ++ ":" ++ f.exchangeTradeId = fillKey f := by
    rw [fillKey_eq, Identity.key, hid]
  rw [hkey, hasFill_fillKey hl.plain hf] at hnew
  refine ⟨fun g hg => ?_, ?_⟩
  · obtain hg | hg := List.mem_append.mp hg
    · exact hl.plain g hg
    · rw [List.mem_singleton.mp hg]
      exact hf
  · have hids : (identities l ++ [identity f]).Nodup := by
      rw [List.nodup_append]
      exact ⟨hl.once, by simp, by simpa using fun i hi (h : i = identity f) => hnew (h ▸ hi)⟩
    simpa [identities] using hids

theorem held_ledgerOf {env : BinanceEnvironment} {symbol : String} (hs : Plain symbol)
    (hup : Text.upper symbol = symbol) (orders : List OrderRow) (fills : List FillRow)
    (positions : List PositionRow) :
    Gives Held (ledgerOf symbol env.label orders fills positions) := by
  intro l h
  unfold ledgerOf at h
  simp only [except_bind_ok] at h
  obtain ⟨l₁, horders, l₂, hfills, l₃, hpositions, -, -, h⟩ := h
  cases h
  have hrow : ∀ l row, Held l → Gives Held (loadOrder symbol env.label l row) := by
    intro l row hl l' h
    unfold loadOrder at h
    simp only [except_bind_ok] at h
    obtain ⟨_, -, h⟩ := h
    cases h
    exact hl.of_fills rfl
  have hposition : ∀ l row, Held l → Gives Held (loadPosition symbol env.label l row) := by
    intro l row hl l' h
    unfold loadPosition at h
    simp only [except_bind_ok] at h
    obtain ⟨_, -, h⟩ := h
    cases h
    exact hl.of_fills rfl
  have h₁ : Held l₁ := Gives.foldlM hrow orders held_empty _ horders
  have h₂ : Held l₂ := Gives.foldlM (fun l row hl => held_loadFill hs hup hl row) fills h₁ _ hfills
  have h₃ : Held l₃ := Gives.foldlM hposition positions h₂ _ hpositions
  exact h₃.of_fills rfl

theorem held_started (h : Started l) : Held l := by
  cases h with
  | new => exact held_empty
  | loaded env symbol t l hs h =>
    have hvenue : Text.upper (Text.strip env.label) = env.label := by
      cases env <;> decide +kernel
    unfold load at h
    simp only [hvenue] at h
    split_ifs at h
    exact held_ledgerOf (plain_upper (plain_strip hs)) (Text.upper_upper _) _ _ _ l h

/-! ### Exactly once -/

/-- **Exactly-once fills**: all sources of an environment have one venue, and along every run of
`append_fill`, from a new ledger or a loaded one, the fills are the first occurrences of their
identities and `on_fill_update` is called with each fill that is added; `has_fill` of three parts
tells whether a fill with that identity is present, as the scan does, and so does the lookup of a
fill's key; the identities do not depend on the order of the calls or on repetitions. -/
theorem exactly_once (hl : Started l) (hf : ∀ f ∈ fills, PlainFill f) :
    (∀ env source, OfEnvironment env source → venueOf source = env.label) ∧
      (appendAll l fills).2.fills = firsts identity (l.fills ++ fills) ∧
      (appendAll l fills).2.fills = l.fills ++ (appendAll l fills).1 ∧
      (∀ key v s t, (splitMax ':' 2 key.toList).map String.ofList = [v, s, t] →
        (hasFill (appendAll l fills).2 key = true ↔
          ⟨Text.upper v, Text.upper s, t⟩ ∈ identities (appendAll l fills).2) ∧
        hasFill (appendAll l fills).2 key = scan (appendAll l fills).2 key) ∧
      (∀ f, PlainFill f → (appendAll l fills).2.fillKeys.contains (fillKey f) =
        scan (appendAll l fills).2 (fillKey f)) ∧
      ∀ fills', (∀ f, f ∈ fills' ↔ f ∈ fills) →
        ∀ i, i ∈ identities (appendAll l fills').2 ↔ i ∈ identities (appendAll l fills).2 := by
  have hheld := held_started hl
  have hplain := (held_run hheld hf).plain
  obtain ⟨hfirst, hnew⟩ := run_spec hheld hf
  refine ⟨fun _ _ => venueOf_ofEnvironment, hfirst, hnew, fun key v s t hkey =>
    ⟨hasFill_three hplain hkey, ?_⟩, fun f hpf => ?_,
    fun fills' hmem i => ?_⟩
  · rw [Bool.eq_iff_iff, hasFill_three hplain hkey, scan_three hplain hkey]
  · have hp := plain_identity hpf
    have hthree := splitMax_three hp.1 hp.2 (identity f).tradeId
    rw [← Identity.key, ← fillKey_eq] at hthree
    rw [Bool.eq_iff_iff, scan_three hplain hthree, List.contains_iff_mem, fillKey_eq,
      mem_fillKeys hplain hp]
    simp only [identity, upper_venueOf, Text.upper_upper]
  · have hf' : ∀ f ∈ fills', PlainFill f := fun f h => hf f ((hmem f).mp h)
    rw [identities, identities, (run_spec hheld hf').1, hfirst, mem_map_firsts, mem_map_firsts,
      List.map_append, List.map_append, List.mem_append, List.mem_append]
    simp only [List.mem_map, hmem]

/-- A fill of a trade, as a source reports it. -/
def reported (source symbol tradeId : String) : ExchangeFill where
  exchangeTradeId := tradeId
  exchangeOrderId := "7"
  clientOrderId := "BAI-1"
  symbol
  side := .buy
  positionSide := .both
  quantity := Decimal.ofNat 1
  price := Decimal.ofNat 2000
  commission := Decimal.ofNat 0
  commissionAsset := "USDC"
  realizedPnl := Decimal.ofNat 0
  maker := false
  eventTime := .int 1700000000000
  transactionTime := .int 1700000000000
  source

/-- One trade from three sources, and another one: two fills, and two calls. -/
theorem exactly_once_sources :
    let fills := [reported "BINANCE_MAINNET_BOOTSTRAP" "ETHUSDC" "1",
      reported "BINANCE_MAINNET" "ethusdc" "1", reported "BINANCE_MAINNET_RECOVERY" "ETHUSDC" "1",
      reported "BINANCE_MAINNET" "ETHUSDC" "2"]
    (appendAll empty fills).2.fills = [reported "BINANCE_MAINNET_BOOTSTRAP" "ETHUSDC" "1",
      reported "BINANCE_MAINNET" "ETHUSDC" "2"] := by
  intro fills
  rw [(exactly_once Started.new (show ∀ f ∈ fills, PlainFill f by decide +kernel)).2.1]
  decide +kernel

end Blessing.Persistence.ExactlyOnce
