import Blessing.Lib.Machine
import Blessing.Persistence.Load

/-! # The identity of a fill

A trade has a venue, a symbol and a trade id, and a ledger holds it once. The venue of a source
forgets the phase that observed the trade. Where no source and no symbol has a colon, the key text
determines the three parts, so the lookup of a key, the scan of the fills and the identities
agree. -/

namespace Blessing.Persistence.FillIdentity

open Blessing.Lib Blessing.Lib.Table Blessing.Lib.Machine
open Blessing.Binance.Models Blessing.Binance.Ledger
open Blessing.Persistence.Tables Blessing.Persistence.Load

/-- What identifies a trade. -/
structure Identity where
  venue : String
  symbol : String
  tradeId : String
  deriving DecidableEq

/-- The identity of a fill. -/
def identity (f : ExchangeFill) : Identity :=
  ⟨venueOf f.source, Text.upper f.symbol, f.exchangeTradeId⟩

/-- The identities a ledger holds. -/
def identities (l : InMemoryLedger) : List Identity := l.fills.map identity

/-- A text without a colon. -/
def Plain (s : String) : Prop := ':' ∉ s.toList

instance (s : String) : Decidable (Plain s) := inferInstanceAs (Decidable (¬ _))

/-- A fill whose source and symbol have no colon. -/
def PlainFill (f : ExchangeFill) : Prop := Plain f.source ∧ Plain f.symbol

instance (f : ExchangeFill) : Decidable (PlainFill f) := inferInstanceAs (Decidable (_ ∧ _))

/-- The linear scan of `has_fill`. -/
def scan (l : InMemoryLedger) (deduplicationKey : String) : Bool :=
  match (splitMax ':' 2 deduplicationKey.toList).map String.ofList with
  | [source, symbol, tradeId] => l.fills.any fun f =>
      String.ofList (((splitMax ':' 1 (fillKey f).toList).head?).getD []) == Text.upper source &&
        Text.upper f.symbol == Text.upper symbol && f.exchangeTradeId == tradeId
  | [symbol, tradeId] => l.fills.any fun f =>
      Text.upper f.symbol == Text.upper symbol && f.exchangeTradeId == tradeId
  | _ => l.fills.any fun f => f.exchangeTradeId == deduplicationKey

theorem hasFill_eq (l : InMemoryLedger) (key : String) :
    hasFill l key = (l.fillKeys.contains key || scan l key) := rfl

/-! ### Splitting -/

theorem splitMax_append {sep : Char} {cs : List Char} (h : sep ∉ cs) (n : ℕ) (rest : List Char) :
    splitMax sep (n + 1) (cs ++ sep :: rest) = cs :: splitMax sep n rest := by
  induction cs with
  | nil => simp [splitMax]
  | cons c cs ih =>
    simp only [List.mem_cons, not_or] at h
    rw [List.cons_append, splitMax, if_neg fun hc => h.1 hc.symm, ih h.2]

/-- A text is split at its first separator. -/
theorem splitMax_succ (sep : Char) (n : ℕ) (cs : List Char) :
    (splitMax sep (n + 1) cs = [cs] ∧ sep ∉ cs) ∨
      ∃ a b, cs = a ++ sep :: b ∧ sep ∉ a ∧ splitMax sep (n + 1) cs = a :: splitMax sep n b := by
  by_cases h : sep ∈ cs
  · obtain ⟨a, b, hcs, ha⟩ := List.eq_append_cons_of_mem h
    exact .inr ⟨a, b, hcs, ha, by rw [hcs, splitMax_append ha]⟩
  · refine .inl ⟨?_, h⟩
    induction cs with
    | nil => rfl
    | cons c cs ih =>
      simp only [List.mem_cons, not_or] at h
      rw [splitMax, if_neg fun hc => h.1 hc.symm, ih h.2]

theorem splitMax_three {v s : String} (hv : Plain v) (hs : Plain s) (t : String) :
    (splitMax ':' 2 (v ++ ":" ++ s ++ ":" ++ t).toList).map String.ofList = [v, s, t] := by
  have htext : (v ++ ":" ++ s ++ ":" ++ t).toList =
      v.toList ++ ':' :: (s.toList ++ ':' :: t.toList) := by simp
  rw [htext, splitMax_append hv, splitMax_append hs]
  simp [splitMax]

theorem head_splitMax {v : String} (hv : Plain v) (s t : String) :
    String.ofList (((splitMax ':' 1 (v ++ ":" ++ s ++ ":" ++ t).toList).head?).getD []) = v := by
  have htext : (v ++ ":" ++ s ++ ":" ++ t).toList =
      v.toList ++ ':' :: (s.toList ++ ':' :: t.toList) := by simp
  rw [htext, splitMax_append hv]
  simp

theorem three_of_splitMax {key v s t : String}
    (h : (splitMax ':' 2 key.toList).map String.ofList = [v, s, t]) :
    key = v ++ ":" ++ s ++ ":" ++ t ∧ Plain v ∧ Plain s := by
  obtain ⟨hone, -⟩ | ⟨a, b, hcs, ha, hab⟩ := splitMax_succ ':' 1 key.toList
  · rw [hone] at h
    simp at h
  · rw [hab] at h
    obtain ⟨hone, -⟩ | ⟨c, d, hcd, hc, hcd'⟩ := splitMax_succ ':' 0 b
    · rw [hone] at h
      simp at h
    · rw [hcd'] at h
      simp only [splitMax, List.map_cons, List.map_nil, List.cons.injEq, and_true] at h
      obtain ⟨rfl, rfl, rfl⟩ := h
      refine ⟨String.toList_injective ?_, by simpa [Plain] using ha, by simpa [Plain] using hc⟩
      simp [hcs, hcd]

/-! ### Case and labels -/

theorem plain_upper {s : String} (h : Plain s) : Plain (Text.upper s) := by
  intro hmem
  exact h ((Text.mem_upper (by decide) s).mp hmem)

theorem plain_strip {s : String} (h : Plain s) : Plain (Text.strip s) := by
  intro hmem
  simp only [Text.strip, String.toList_ofList, Text.stripChars, List.mem_reverse] at hmem
  have hmem := (List.dropWhile_sublist _).subset hmem
  rw [List.mem_reverse] at hmem
  exact h ((List.dropWhile_sublist _).subset hmem)

/-- A source without a colon has a venue without one, in upper case. -/
theorem venueOf_cases (source : String) : venueOf source = Text.upper (Text.strip source) ∨
    venueOf source ∈ ["UNKNOWN", "BINANCE_TESTNET", "BINANCE_MAINNET"] := by
  unfold venueOf
  simp only
  split_ifs with hblank
  · exact .inr (by decide)
  · cases hfind : ["BINANCE_TESTNET", "BINANCE_MAINNET"].find? fun label =>
        Text.upper (Text.strip source) == label ||
          (label ++ "_").toList.isPrefixOf (Text.upper (Text.strip source)).toList with
    | none => exact .inl rfl
    | some label => exact .inr (List.mem_cons_of_mem _ (List.mem_of_find?_eq_some hfind))

theorem plain_venueOf {source : String} (h : Plain source) : Plain (venueOf source) := by
  obtain hv | hv := venueOf_cases source
  · exact hv ▸ plain_upper (plain_strip h)
  · simp only [List.mem_cons, List.not_mem_nil, or_false] at hv
    obtain hv | hv | hv := hv <;> rw [hv] <;> decide

theorem upper_venueOf (source : String) : Text.upper (venueOf source) = venueOf source := by
  obtain hv | hv := venueOf_cases source
  · rw [hv, Text.upper_upper]
  · simp only [List.mem_cons, List.not_mem_nil, or_false] at hv
    obtain hv | hv | hv := hv <;> rw [hv] <;> decide

/-- A source of an environment: its label, or its label with the phase of an observation. -/
def OfEnvironment (env : BinanceEnvironment) (source : String) : Prop :=
  Text.upper (Text.strip source) = env.label ∨
    (env.label ++ "_").toList <+: (Text.upper (Text.strip source)).toList

theorem venueOf_ofEnvironment {env : BinanceEnvironment} {source : String}
    (h : OfEnvironment env source) : venueOf source = env.label := by
  unfold OfEnvironment at h
  unfold venueOf
  generalize Text.upper (Text.strip source) = s at h ⊢
  obtain rfl | ⟨rest, hrest⟩ := h
  · cases env <;> decide +kernel
  · obtain rfl : s = String.ofList ((env.label ++ "_").toList ++ rest) := by rw [hrest]; simp
    have hne : String.ofList ((env.label ++ "_").toList ++ rest) ≠ "" := fun h => by
      simpa [BinanceEnvironment.label] using congrArg String.toList h
    simp only [if_neg hne]
    cases env with
    | testnet =>
      rw [List.find?_cons_of_pos (by simp [BinanceEnvironment.label, List.isPrefixOf])]
      rfl
    | mainnet =>
      have htest : String.ofList ((BinanceEnvironment.mainnet.label ++ "_").toList ++ rest) ≠
          "BINANCE_TESTNET" := fun h => by
        simpa [BinanceEnvironment.label] using congrArg String.toList h
      rw [List.find?_cons_of_neg, List.find?_cons_of_pos (by
        simp [BinanceEnvironment.label, List.isPrefixOf])]
      · rfl
      · rw [Bool.or_eq_true, beq_iff_eq]
        simpa [BinanceEnvironment.label, List.isPrefixOf] using htest

theorem venueOf_label (env : BinanceEnvironment) : venueOf env.label = env.label := by
  cases env <;> decide +kernel

/-! ### Keys and identities -/

/-- The key text of an identity. -/
def Identity.key (i : Identity) : String := i.venue ++ ":" ++ i.symbol ++ ":" ++ i.tradeId

theorem fillKey_eq (f : ExchangeFill) : fillKey f = (identity f).key := by
  simp only [fillKey, Identity.key, identity]

theorem key_injective {i j : Identity} (hi : Plain i.venue ∧ Plain i.symbol)
    (hj : Plain j.venue ∧ Plain j.symbol) (h : i.key = j.key) : i = j := by
  have hparts := splitMax_three hi.1 hi.2 i.tradeId
  rw [Identity.key, Identity.key] at h
  rw [h, splitMax_three hj.1 hj.2] at hparts
  cases i
  cases j
  simp only [List.cons.injEq, and_true] at hparts
  simp [hparts]

theorem plain_identity {f : ExchangeFill} (h : PlainFill f) :
    Plain (identity f).venue ∧ Plain (identity f).symbol := by
  simp only [identity]
  exact ⟨plain_venueOf h.1, plain_upper h.2⟩

/-- A ledger whose fills have no colon in their source and symbol. -/
def PlainLedger (l : InMemoryLedger) : Prop := ∀ f ∈ l.fills, PlainFill f

variable {l : InMemoryLedger}

theorem mem_fillKeys (hl : PlainLedger l) {i : Identity} (hi : Plain i.venue ∧ Plain i.symbol) :
    i.key ∈ l.fillKeys ↔ i ∈ identities l := by
  rw [l.indexed, identities, List.mem_map, List.mem_map]
  constructor
  · rintro ⟨f, hf, hkey⟩
    rw [fillKey_eq] at hkey
    exact ⟨f, hf, key_injective (plain_identity (hl f hf)) hi hkey⟩
  · rintro ⟨f, hf, rfl⟩
    exact ⟨f, hf, fillKey_eq f⟩

/-- The scan for a key of three parts: a fill with its identity is present. -/
theorem scan_three (hl : PlainLedger l) {v s t key : String}
    (hkey : (splitMax ':' 2 key.toList).map String.ofList = [v, s, t]) :
    scan l key = true ↔ ⟨Text.upper v, Text.upper s, t⟩ ∈ identities l := by
  rw [scan, hkey, identities, List.any_eq_true, List.mem_map]
  refine exists_congr fun f => and_congr_right fun hf => ?_
  have hhead : String.ofList (((splitMax ':' 1 (fillKey f).toList).head?).getD []) =
      venueOf f.source := by
    rw [fillKey]
    exact head_splitMax (plain_venueOf (hl f hf).1) _ _
  rw [hhead]
  simp [identity, and_assoc]

/-- **`has_fill` of a key of three parts**: a fill with that identity is present. -/
theorem hasFill_three (hl : PlainLedger l) {v s t key : String}
    (hkey : (splitMax ':' 2 key.toList).map String.ofList = [v, s, t]) :
    hasFill l key = true ↔ ⟨Text.upper v, Text.upper s, t⟩ ∈ identities l := by
  rw [hasFill_eq, Bool.or_eq_true, scan_three hl hkey, List.contains_iff_mem, or_iff_right_iff_imp]
  obtain ⟨htext, hv, hs⟩ := three_of_splitMax hkey
  intro hmem
  -- a stored key is in upper case, so the parts of the text are those of the identity
  rw [htext] at hmem
  have hid := (mem_fillKeys hl (i := ⟨v, s, t⟩) ⟨hv, hs⟩).mp hmem
  obtain ⟨f, -, hf⟩ := List.mem_map.mp hid
  have hup : Text.upper v = v ∧ Text.upper s = s := by
    simp only [identity, Identity.mk.injEq] at hf
    rw [← hf.1, ← hf.2.1]
    exact ⟨upper_venueOf _, Text.upper_upper _⟩
  rwa [hup.1, hup.2]

theorem hasFill_fillKey (hl : PlainLedger l) {f : ExchangeFill} (hf : PlainFill f) :
    hasFill l (fillKey f) = true ↔ identity f ∈ identities l := by
  have hp := plain_identity hf
  rw [fillKey_eq, Identity.key, hasFill_three hl (splitMax_three hp.1 hp.2 _)]
  simp only [identity, upper_venueOf, Text.upper_upper]

end Blessing.Persistence.FillIdentity
