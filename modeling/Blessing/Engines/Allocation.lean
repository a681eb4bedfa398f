import Blessing.Engines.Intents
import Mathlib.Algebra.BigOperators.Group.List.Basic
import Mathlib.Algebra.Order.BigOperators.Group.List

/-! # What the allocator returns

`MetaAllocator.allocate` in exact arithmetic. The loop sums up the net delta, the gross exposure and
the share of every strategy; these sums do not depend on the order of the intents, and one factor
brings all of them within the limit. -/

namespace Blessing.Engines.Allocation

open Blessing.Lib Blessing.Lib.Rounding Blessing.Lib.Table Blessing.Lib.Effects
open Blessing.Binance.Models (Exn)
open Blessing.Engines.Intents

/-! ### Sums -/

/-- The delta of an intent, weighted. -/
def effectiveDelta (intent : StrategyIntent) : ℚ :=
  intent.desiredDeltaQty * (intent.confidence * intent.opportunityScore)

/-- The sum of the weighted deltas. -/
def netOf (intents : List StrategyIntent) : ℚ := (intents.map effectiveDelta).sum

/-- The sum of their magnitudes. -/
def grossOf (intents : List StrategyIntent) : ℚ :=
  (intents.map fun intent => |effectiveDelta intent|).sum

/-- The sum of the weighted deltas of a strategy. -/
def shareOf (strategyId : String) (intents : List StrategyIntent) : ℚ :=
  netOf (intents.filter fun intent => intent.strategyId = strategyId)

/-- `attributions.get(strategy_id)` -/
def attribution (attributions : List (String × ℚ)) (strategyId : String) : Option ℚ :=
  (lookup Prod.fst strategyId attributions).map Prod.snd

variable {attributions : List (String × ℚ)} {intents intents' : List StrategyIntent}
  {symbol strategyId : String}

theorem abs_netOf_le (intents : List StrategyIntent) : |netOf intents| ≤ grossOf intents := by
  induction intents with
  | nil => simp [netOf, grossOf]
  | cons intent rest ih =>
    have htriangle := abs_add_le (effectiveDelta intent) (netOf rest)
    simp only [netOf, grossOf, List.map_cons, List.sum_cons] at *
    linarith

theorem netOf_perm (hperm : intents.Perm intents') : netOf intents = netOf intents' :=
  (hperm.map _).sum_eq

theorem grossOf_perm (hperm : intents.Perm intents') : grossOf intents = grossOf intents' :=
  (hperm.map _).sum_eq

theorem shareOf_perm (hperm : intents.Perm intents') :
    shareOf strategyId intents = shareOf strategyId intents' :=
  netOf_perm (hperm.filter _)

theorem shareOf_snoc (intents : List StrategyIntent) (intent : StrategyIntent) :
    shareOf strategyId (intents ++ [intent]) = shareOf strategyId intents +
      if intent.strategyId = strategyId then effectiveDelta intent else 0 := by
  unfold shareOf netOf
  rw [List.filter_append, List.map_append, List.sum_append]
  split_ifs with hid
  · simp [hid]
  · simp [hid]

theorem sum_upsert (strategyId : String) {f : ℚ → ℚ} (hf : f 0 = 0)
    (hn : (attributions.map Prod.fst).Nodup) (v : ℚ) :
    ((upsert Prod.fst (strategyId, v) attributions).map fun kv => f kv.2).sum =
      (attributions.map fun kv => f kv.2).sum - f ((attribution attributions strategyId).getD 0) +
      f v := by
  unfold attribution
  induction attributions with
  | nil => simp [upsert, lookup, hf]
  | cons kv rest ih =>
    obtain ⟨hnot, hrest⟩ := List.nodup_cons.mp hn
    by_cases hkey : kv.1 = strategyId
    · have hlookup : lookup Prod.fst strategyId (kv :: rest) = some kv := by
        rw [lookup_cons, if_pos hkey]
      have hnone : ∀ r ∈ rest, r.1 ≠ strategyId := by
        rintro r hr heq
        exact hnot (List.mem_map.mpr ⟨r, hr, heq.trans hkey.symm⟩)
      have hsame : rest.map (fun r => if r.1 = strategyId then (strategyId, v) else r) = rest := by
        refine (List.map_congr_left fun r hr => if_neg (hnone r hr)).trans (List.map_id' rest)
      rw [upsert_of_lookup (r := (strategyId, v)) hlookup, hlookup]
      simp only [List.map_cons, List.sum_cons, hkey, if_true, hsame, Option.map_some,
        Option.getD_some]
      ring
    · have hlookup : lookup Prod.fst strategyId (kv :: rest) = lookup Prod.fst strategyId rest := by
        rw [lookup_cons, if_neg hkey]
      have hupsert : upsert Prod.fst (strategyId, v) (kv :: rest) =
          kv :: upsert Prod.fst (strategyId, v) rest := by
        cases hfound : lookup Prod.fst strategyId rest with
        | none =>
          rw [upsert_of_none (r := (strategyId, v)) hfound,
            upsert_of_none (r := (strategyId, v)) (hlookup.trans hfound), List.cons_append]
        | some r' =>
          rw [upsert_of_lookup (r := (strategyId, v)) hfound,
            upsert_of_lookup (r := (strategyId, v)) (hlookup.trans hfound),
            List.map_cons, if_neg hkey]
      rw [hupsert, hlookup]
      simp only [List.map_cons, List.sum_cons, ih hrest]
      ring

/-! ### The loop -/

/-- What the loop has summed up after these intents. -/
structure Sums (intents : List StrategyIntent) (a : Allocation) : Prop where
  net : a.netDelta = netOf intents
  gross : a.grossExposure = grossOf intents
  ids : a.sourceIntentIds = intents.map (·.intentId)
  keys : (a.attributions.map Prod.fst).Nodup
  total : (a.attributions.map fun kv => kv.2).sum = netOf intents
  magnitudes : (a.attributions.map fun kv => |kv.2|).sum ≤ grossOf intents
  shares : ∀ strategyId, attribution a.attributions strategyId =
    if ∃ intent ∈ intents, intent.strategyId = strategyId then some (shareOf strategyId intents)
    else none

/-- An intent that the loop accepts. -/
structure Accepted (symbol : String) (marketType : MarketType) (intent : StrategyIntent) :
    Prop where
  symbol : normalized intent.symbol = symbol
  marketType : intent.marketType = marketType
  present : intent.intentId ≠ ""
  directed : mismatched intent = false

theorem sums_nil : Sums [] {} where
  net := rfl
  gross := rfl
  ids := rfl
  keys := List.nodup_nil
  total := rfl
  magnitudes := le_rfl
  shares strategyId := by simp [attribution, lookup]

theorem Sums.before {a : Allocation} (h : Sums intents a) (strategyId : String) :
    (attribution a.attributions strategyId).getD 0 = shareOf strategyId intents := by
  rw [h.shares]
  split_ifs with hexists
  · rfl
  · have hnone : intents.filter (fun intent => intent.strategyId = strategyId) = [] := by
      rw [List.filter_eq_nil_iff]
      intro intent hintent
      simpa using fun heq => hexists ⟨intent, hintent, heq⟩
    rw [shareOf, hnone]
    rfl

theorem allocateIntent_iff {marketType : MarketType} {a : Allocation} {intent : StrategyIntent} :
    (∃ b, allocateIntent .exact symbol marketType a intent = .ok b) ↔
      Accepted symbol marketType intent ∧ intent.intentId ∉ a.sourceIntentIds := by
  constructor
  · rintro ⟨b, h⟩
    simp only [allocateIntent, except_guard_ok] at h
    obtain ⟨hsymbol, hmarket, hid, hdirected, -⟩ := h
    obtain ⟨hpresent, hnew⟩ := not_or.mp hid
    exact ⟨⟨not_not.mp hsymbol, not_not.mp hmarket, hpresent, by simpa using hdirected⟩, hnew⟩
  · rintro ⟨haccepted, hnew⟩
    refine exists_of_toBool ?_
    unfold allocateIntent
    rw [if_neg (not_not.mpr haccepted.symbol), if_neg (not_not.mpr haccepted.marketType),
      if_neg (not_or.mpr ⟨haccepted.present, hnew⟩), haccepted.directed]
    rfl

theorem allocateIntent_ok {marketType : MarketType} {a b : Allocation} {intent : StrategyIntent}
    (h : allocateIntent .exact symbol marketType a intent = .ok b) :
    b.netDelta = a.netDelta + effectiveDelta intent ∧
    b.grossExposure = a.grossExposure + |effectiveDelta intent| ∧
    b.sourceIntentIds = a.sourceIntentIds ++ [intent.intentId] ∧
    b.attributions = upsert Prod.fst (intent.strategyId,
      (attribution a.attributions intent.strategyId).getD 0 + effectiveDelta intent)
        a.attributions := by
  simp only [allocateIntent, except_guard_ok] at h
  obtain ⟨-, -, -, -, h⟩ := h
  cases h
  exact ⟨rfl, rfl, rfl, rfl⟩

theorem Sums.step {marketType : MarketType} {a b : Allocation} {intent : StrategyIntent}
    (ha : Sums intents a) (h : allocateIntent .exact symbol marketType a intent = .ok b) :
    Sums (intents ++ [intent]) b := by
  obtain ⟨hnet, hgross, hids, hattributions⟩ := allocateIntent_ok h
  rw [ha.before] at hattributions
  have hsnoc : netOf (intents ++ [intent]) = netOf intents + effectiveDelta intent := by
    simp [netOf]
  have hgrossSnoc : grossOf (intents ++ [intent]) = grossOf intents + |effectiveDelta intent| := by
    simp [grossOf]
  refine ⟨?_, ?_, ?_, ?_, ?_, ?_, fun strategyId => ?_⟩
  · rw [hnet, ha.net, hsnoc]
  · rw [hgross, ha.gross, hgrossSnoc]
  · rw [hids, ha.ids, List.map_append]
    rfl
  · rw [hattributions]
    exact nodup_upsert ha.keys _
  · have hsum := sum_upsert intent.strategyId (f := fun v => v) rfl ha.keys
      (shareOf intent.strategyId intents + effectiveDelta intent)
    have htotal := ha.total
    rw [hattributions, hsnoc]
    rw [ha.before] at hsum
    linarith
  · have hsum := sum_upsert intent.strategyId (f := fun v => |v|) abs_zero ha.keys
      (shareOf intent.strategyId intents + effectiveDelta intent)
    have htriangle := abs_add_le (shareOf intent.strategyId intents) (effectiveDelta intent)
    have hmagnitudes := ha.magnitudes
    rw [hattributions, hgrossSnoc, hsum, ha.before]
    linarith
  · rw [attribution, hattributions, lookup_upsert]
    by_cases hid : intent.strategyId = strategyId
    · have hexists : ∃ i ∈ intents ++ [intent], i.strategyId = strategyId := ⟨intent, by simp, hid⟩
      rw [if_pos hid, if_pos hexists, shareOf_snoc, if_pos hid, hid]
      rfl
    · have hexists : (∃ i ∈ intents ++ [intent], i.strategyId = strategyId) ↔
          ∃ i ∈ intents, i.strategyId = strategyId := by simp [or_and_right, exists_or, hid]
      rw [if_neg hid, shareOf_snoc, if_neg hid, add_zero]
      simp only [hexists]
      exact ha.shares strategyId

theorem foldlM_sums {marketType : MarketType} {done : List StrategyIntent} {a b : Allocation}
    (ha : Sums done a) (h : intents.foldlM (allocateIntent .exact symbol marketType) a = .ok b) :
    Sums (done ++ intents) b := by
  induction intents generalizing done a with
  | nil =>
    cases h
    rw [List.append_nil]
    exact ha
  | cons intent rest ih =>
    rw [List.foldlM_cons] at h
    obtain ⟨next, hnext, hrest⟩ := except_bind_ok.mp h
    have hsums := ih (ha.step hnext) hrest
    rwa [List.append_assoc] at hsums

/-- The loop accepts exactly the lists of intents it accepts one by one, with different
identifiers. -/
theorem foldlM_iff {marketType : MarketType} {a : Allocation} :
    (∃ b, intents.foldlM (allocateIntent .exact symbol marketType) a = .ok b) ↔
      (∀ intent ∈ intents, Accepted symbol marketType intent) ∧ (intents.map (·.intentId)).Nodup ∧
        ∀ intent ∈ intents, intent.intentId ∉ a.sourceIntentIds := by
  induction intents generalizing a with
  | nil => exact ⟨fun _ => ⟨by simp, List.nodup_nil, by simp⟩, fun _ => ⟨a, rfl⟩⟩
  | cons intent rest ih =>
    rw [List.foldlM_cons]
    simp only [except_bind_ok, List.map_cons, List.nodup_cons, List.forall_mem_cons]
    constructor
    · rintro ⟨b, next, hnext, hrest⟩
      obtain ⟨haccepted, hnew⟩ := allocateIntent_iff.mp ⟨next, hnext⟩
      obtain ⟨hall, hnodup, hfresh⟩ := ih.mp ⟨b, hrest⟩
      rw [(allocateIntent_ok hnext).2.2.1] at hfresh
      refine ⟨⟨haccepted, hall⟩, ⟨?_, hnodup⟩, hnew, fun i hi => ?_⟩
      · rintro hmem
        obtain ⟨i, hi, heq⟩ := List.mem_map.mp hmem
        exact hfresh i hi (by simp [heq])
      · exact fun hmem => hfresh i hi (List.mem_append_left _ hmem)
    · rintro ⟨⟨haccepted, hall⟩, ⟨hnot, hnodup⟩, hnew, hfresh⟩
      obtain ⟨next, hnext⟩ := allocateIntent_iff.mpr ⟨haccepted, hnew⟩
      have hrest : ∀ i ∈ rest, i.intentId ∉ next.sourceIntentIds := by
        intro i hi hmem
        rw [(allocateIntent_ok hnext).2.2.1, List.mem_append, List.mem_singleton] at hmem
        rcases hmem with hmem | heq
        · exact hfresh i hi hmem
        · exact hnot (List.mem_map.mpr ⟨i, hi, heq⟩)
      obtain ⟨b, hb⟩ := ih.mpr ⟨hall, hnodup, hrest⟩
      exact ⟨b, next, hnext, hb⟩

/-! ### The target -/

/-- The factor that brings the sums within the limit. -/
def scaleOf (limit gross : ℚ) : ℚ := if limit < gross then limit / gross else 1

theorem scaleOf_pos {limit gross : ℚ} (hlimit : 0 < limit) : 0 < scaleOf limit gross := by
  unfold scaleOf
  split_ifs with hover
  · exact div_pos hlimit (hlimit.trans hover)
  · exact one_pos

theorem scaleOf_lt_one {limit gross : ℚ} (hlimit : 0 < limit) (hover : limit < gross) :
    scaleOf limit gross < 1 := by
  rw [scaleOf, if_pos hover, div_lt_one (hlimit.trans hover)]
  exact hover

theorem scaleOf_eq_one {limit gross : ℚ} (hwithin : gross ≤ limit) : scaleOf limit gross = 1 :=
  if_neg hwithin.not_gt

theorem scaleOf_mul {limit gross : ℚ} (hlimit : 0 < limit) :
    gross * scaleOf limit gross = min limit gross := by
  unfold scaleOf
  split_ifs with hover
  · rw [min_eq_left hover.le, mul_div_cancel₀ limit (hlimit.trans hover).ne']
  · rw [min_eq_right (not_lt.mp hover), mul_one]

theorem sum_scaled {f : ℚ → ℚ} {factor : ℚ} (hf : ∀ v, f (v * factor) = f v * factor) :
    ((attributions.map fun kv => (kv.1, kv.2 * factor)).map fun kv => f kv.2).sum =
      (attributions.map fun kv => f kv.2).sum * factor := by
  induction attributions with
  | nil => simp
  | cons kv rest ih =>
    simp only [List.map_cons, List.sum_cons, ih, hf]
    ring

theorem scaled_eq (m : MetaAllocator) (a : Allocation) :
    (m.scaled .exact a).netDelta = a.netDelta * scaleOf m.maxGrossExposureBtc a.grossExposure ∧
    (m.scaled .exact a).grossExposure = min m.maxGrossExposureBtc a.grossExposure ∧
    (m.scaled .exact a).attributions =
      a.attributions.map (fun kv => (kv.1, kv.2 * scaleOf m.maxGrossExposureBtc a.grossExposure)) ∧
    (m.scaled .exact a).sourceIntentIds = a.sourceIntentIds := by
  unfold MetaAllocator.scaled scaleOf
  split_ifs with hover
  · exact ⟨rfl, (min_eq_left hover.le).symm, rfl, rfl⟩
  · simp [min_eq_right (not_lt.mp hover)]

/-- The latest of the times. -/
def latest (first : StrategyIntent) (rest : List StrategyIntent) : ℤ :=
  rest.foldl (fun t intent => max t intent.timestamp.micros) first.timestamp.micros

theorem latest_spec (first : StrategyIntent) (rest : List StrategyIntent) :
    (∃ intent ∈ first :: rest, intent.timestamp.micros = latest first rest) ∧
      ∀ intent ∈ first :: rest, intent.timestamp.micros ≤ latest first rest := by
  unfold latest
  induction rest using List.reverseRecOn with
  | nil => simp
  | append_singleton rest last ih =>
    obtain ⟨⟨i, hi, heq⟩, hmax⟩ := ih
    rw [List.foldl_append, List.foldl_cons, List.foldl_nil]
    constructor
    · rcases max_cases
        (rest.foldl (fun t intent => max t intent.timestamp.micros) first.timestamp.micros)
        last.timestamp.micros with ⟨hleft, -⟩ | ⟨hright, -⟩
      · exact ⟨i, by simp only [List.mem_cons, List.mem_append] at hi ⊢; tauto, by rw [hleft, heq]⟩
      · exact ⟨last, by simp, hright.symm⟩
    · intro intent hintent
      have hcases : intent ∈ first :: rest ∨ intent = last := by
        simpa [or_assoc] using hintent
      rcases hcases with hold | rfl
      · exact (hmax intent hold).trans (le_max_left _ _)
      · exact le_max_right _ _

theorem latest_perm {first first' : StrategyIntent} {rest rest' : List StrategyIntent}
    (hperm : (first :: rest).Perm (first' :: rest')) : latest first rest = latest first' rest' := by
  obtain ⟨⟨i, hi, heq⟩, hmax⟩ := latest_spec first rest
  obtain ⟨⟨i', hi', heq'⟩, hmax'⟩ := latest_spec first' rest'
  refine le_antisymm ?_ ?_
  · rw [← heq]
    exact hmax' i (hperm.mem_iff.mp hi)
  · rw [← heq']
    exact hmax i' (hperm.mem_iff.mpr hi')

variable {m : MetaAllocator} {now : ℤ} {exposureId : String} {target : TargetExposure}

theorem allocate_ok (hne : intents ≠ [])
    (h : m.allocate .exact now exposureId intents symbol = .ok target) :
    ∃ first rest sums, intents = first :: rest ∧ normalized symbol ≠ "" ∧
      intents.foldlM (allocateIntent .exact (normalized symbol) first.marketType) {} = .ok sums ∧
      (∀ intent ∈ intents, intent.timestamp.aware = true) ∧ Sums intents sums ∧
      target = {
        symbol := normalized symbol, marketType := first.marketType
        targetNetDeltaQty := (m.scaled .exact sums).netDelta
        targetGrossLimitQty := (m.scaled .exact sums).grossExposure
        strategyAttributions := (m.scaled .exact sums).attributions
        createdAt := ⟨latest first rest, true⟩
        expiresAt := Instant.addMinute ⟨latest first rest, true⟩, exposureId
        sourceIntentIds := (m.scaled .exact sums).sourceIntentIds } := by
  unfold MetaAllocator.allocate at h
  obtain ⟨hsymbol, h⟩ := except_guard_ok.mp h
  cases intents with
  | nil => exact absurd rfl hne
  | cons first rest =>
    obtain ⟨sums, hsums, h⟩ := except_bind_ok.mp h
    obtain ⟨haware, h⟩ := except_guard_ok.mp h
    refine ⟨first, rest, sums, rfl, hsymbol, hsums, fun intent hintent => ?_,
      foldlM_sums sums_nil hsums, (Except.ok.inj h).symm⟩
    by_contra hnaive
    exact haware (List.any_eq_true.mpr ⟨intent, hintent, by simpa using hnaive⟩)

theorem attribution_scaled {a : Allocation} (ha : Sums intents a) (strategyId : String) :
    attribution (m.scaled .exact a).attributions strategyId =
      if ∃ intent ∈ intents, intent.strategyId = strategyId then
        some (shareOf strategyId intents * scaleOf m.maxGrossExposureBtc (grossOf intents))
      else none := by
  have hkey (kv : String × ℚ) :
      (kv.1, kv.2 * scaleOf m.maxGrossExposureBtc (grossOf intents)).1 = kv.1 := rfl
  rw [(scaled_eq m a).2.2.1, ha.gross, attribution, lookup_map hkey, Option.map_map]
  have hshare := ha.shares strategyId
  unfold attribution at hshare
  split_ifs at hshare ⊢ with hexists
  · obtain ⟨kv, hkv, hvalue⟩ := Option.map_eq_some_iff.mp hshare
    rw [hkv, ← hvalue]
    rfl
  · rw [Option.map_eq_none_iff.mp hshare]
    rfl

theorem allocate_fields (hne : intents ≠ [])
    (h : m.allocate .exact now exposureId intents symbol = .ok target) :
    target.targetNetDeltaQty = netOf intents * scaleOf m.maxGrossExposureBtc (grossOf intents) ∧
    target.targetGrossLimitQty = min m.maxGrossExposureBtc (grossOf intents) ∧
    (∀ strategyId, attribution target.strategyAttributions strategyId =
      if ∃ intent ∈ intents, intent.strategyId = strategyId then
        some (shareOf strategyId intents * scaleOf m.maxGrossExposureBtc (grossOf intents))
          else none) ∧
    (∃ first rest, intents = first :: rest ∧ target.createdAt = ⟨latest first rest, true⟩ ∧
      target.expiresAt = Instant.addMinute ⟨latest first rest, true⟩) ∧
    target.sourceIntentIds = intents.map (·.intentId) := by
  obtain ⟨first, rest, sums, rfl, -, -, -, hsums, rfl⟩ := allocate_ok hne h
  obtain ⟨hnet, hgross, -, hids⟩ := scaled_eq m sums
  rw [hsums.gross] at hnet hgross
  exact ⟨by rw [← hsums.net]; exact hnet, hgross, attribution_scaled hsums,
    ⟨first, rest, rfl, rfl, rfl⟩, hids.trans hsums.ids⟩

theorem exists_allocate_perm (hne : intents ≠ [])
    (h : m.allocate .exact now exposureId intents symbol = .ok target)
    (hperm : intents.Perm intents') :
    ∃ target', m.allocate .exact now exposureId intents' symbol = .ok target' := by
  obtain ⟨first, rest, sums, rfl, hsymbol, hloop, haware, -, -⟩ := allocate_ok hne h
  cases intents' with
  | nil => exact absurd hperm.length_eq (by simp)
  | cons first' rest' =>
    obtain ⟨haccepted, hnodup, -⟩ := foldlM_iff.mp ⟨sums, hloop⟩
    have hfirst' : first' ∈ first :: rest := hperm.mem_iff.mpr List.mem_cons_self
    have hmarket : first'.marketType = first.marketType := (haccepted first' hfirst').marketType
    have haccepted' :
        ∀ intent ∈ first' :: rest', Accepted (normalized symbol) first'.marketType intent := by
      intro intent hintent
      rw [hmarket]
      exact haccepted intent (hperm.mem_iff.mpr hintent)
    have hnodup' : ((first' :: rest').map (·.intentId)).Nodup := (hperm.map _).nodup_iff.mp hnodup
    have hfresh : ∀ intent ∈ first' :: rest', intent.intentId ∉ ({} : Allocation).sourceIntentIds :=
      fun _ _ => List.not_mem_nil
    obtain ⟨sums', hloop'⟩ := foldlM_iff.mpr ⟨haccepted', hnodup', hfresh⟩
    have hnaive : ¬ (first' :: rest').any (fun intent => !intent.timestamp.aware) = true := by
      rw [List.any_eq_true]
      rintro ⟨intent, hintent, hfalse⟩
      simp [haware intent (hperm.mem_iff.mpr hintent)] at hfalse
    refine exists_of_toBool ?_
    unfold MetaAllocator.allocate
    dsimp only
    rw [if_neg hsymbol, hloop']
    change (if _ then _ else _ : Except Exn TargetExposure).toBool = true
    rw [if_neg hnaive]
    rfl

/-- **Allocation is bounded, additive and free of order.** The attributions sum up to the net delta,
which lies within the gross limit, as their magnitudes do; one factor scales them, which is below
one exactly if the limit is exceeded; and the intents in another order give the same target, up to
the order of the attributions and of the identifiers. -/
theorem allocate_sound (hne : intents ≠ [])
    (h : m.allocate .exact now exposureId intents symbol = .ok target) :
    (target.strategyAttributions.map fun kv => kv.2).sum = target.targetNetDeltaQty ∧
    target.targetGrossLimitQty = min m.maxGrossExposureBtc (grossOf intents) ∧
    |target.targetNetDeltaQty| ≤ target.targetGrossLimitQty ∧
    (target.strategyAttributions.map fun kv => |kv.2|).sum ≤ target.targetGrossLimitQty ∧
    (∃ factor, (∀ strategyId, attribution target.strategyAttributions strategyId =
        if ∃ intent ∈ intents, intent.strategyId = strategyId then
          some (shareOf strategyId intents * factor) else none) ∧
      (grossOf intents ≤ m.maxGrossExposureBtc → factor = 1) ∧
      (m.maxGrossExposureBtc < grossOf intents → 0 < factor ∧ factor < 1)) ∧
    ∀ intents', intents.Perm intents' → ∃ target',
      m.allocate .exact now exposureId intents' symbol = .ok target' ∧
      target'.targetNetDeltaQty = target.targetNetDeltaQty ∧
      target'.targetGrossLimitQty = target.targetGrossLimitQty ∧
      (∀ strategyId, attribution target'.strategyAttributions strategyId =
        attribution target.strategyAttributions strategyId) ∧
      target'.createdAt = target.createdAt ∧ target'.expiresAt = target.expiresAt ∧
      ∀ id, id ∈ target'.sourceIntentIds ↔ id ∈ target.sourceIntentIds := by
  obtain ⟨first, rest, sums, rfl, hsymbol, hloop, haware, hsums, rfl⟩ := allocate_ok hne h
  obtain ⟨hnet, hgross, hattributions, hids⟩ := scaled_eq m sums
  have hlimit := m.positive
  have hscale : 0 < scaleOf m.maxGrossExposureBtc (grossOf (first :: rest)) := scaleOf_pos hlimit
  rw [hsums.gross] at hnet hgross hattributions
  refine ⟨?_, hgross, ?_, ?_, ⟨_, attribution_scaled hsums, scaleOf_eq_one, fun hover =>
    ⟨hscale, scaleOf_lt_one hlimit hover⟩⟩, fun intents' hperm => ?_⟩
  · dsimp only
    rw [hattributions, hnet, hsums.net, ← hsums.total]
    exact sum_scaled (f := fun v => v) fun v => rfl
  · dsimp only
    rw [hnet, hgross, hsums.net, abs_mul, abs_of_pos hscale, ← scaleOf_mul hlimit]
    exact mul_le_mul_of_nonneg_right (abs_netOf_le _) hscale.le
  · dsimp only
    rw [hattributions, hgross, ← scaleOf_mul hlimit,
      sum_scaled (f := fun v => |v|) fun v => by rw [abs_mul, abs_of_pos hscale]]
    exact mul_le_mul_of_nonneg_right hsums.magnitudes hscale.le
  · obtain ⟨target', htarget'⟩ := exists_allocate_perm hne h hperm
    have hne' : intents' ≠ [] := fun hnil => hne (List.Perm.eq_nil (hnil ▸ hperm))
    obtain ⟨hnet, hgross, hshares, ⟨_, _, heq, hcreated, hexpires⟩, hids⟩ := allocate_fields hne h
    obtain ⟨hnet', hgross', hshares', ⟨first', rest', rfl, hcreated', hexpires'⟩, hids'⟩ :=
      allocate_fields hne' htarget'
    obtain ⟨rfl, rfl⟩ := List.cons.inj heq
    have hlatest := latest_perm hperm
    refine ⟨target', htarget', ?_, ?_, fun strategyId => ?_, ?_, ?_, fun id => ?_⟩
    · rw [hnet', hnet, netOf_perm hperm, grossOf_perm hperm]
    · rw [hgross', hgross, grossOf_perm hperm]
    · rw [hshares', hshares, shareOf_perm hperm, grossOf_perm hperm]
      simp only [hperm.mem_iff]
    · rw [hcreated', hcreated, hlatest]
    · rw [hexpires', hexpires, hlatest]
    · rw [hids', hids]
      exact (hperm.map _).mem_iff.symm

/-- An allocator for at most one unit. -/
def sampleAllocator : MetaAllocator := ⟨1, one_pos⟩

/-- The grid buys two units, the trend sells one. -/
def sampleIntents : List StrategyIntent := [
  { intentId := "I-1", strategyId := "grid", symbol := "ethusdc", marketType := .usdmFutures
    direction := .long, desiredDeltaQty := 2, opportunityScore := 1, confidence := 1,
    timestamp := ⟨0, true⟩ },
  { intentId := "I-2", strategyId := "trend", symbol := "ETHUSDC", marketType := .usdmFutures
    direction := .short, desiredDeltaQty := -1, opportunityScore := 1, confidence := 1
    timestamp := ⟨1, true⟩ }]

theorem allocate_sound_sample : ∃ target,
    sampleAllocator.allocate .exact 0 "EXP-1" sampleIntents "ETHUSDC" = .ok target ∧
      |target.targetNetDeltaQty| ≤ target.targetGrossLimitQty ∧
      target.targetGrossLimitQty = min 1 (grossOf sampleIntents) := by
  obtain ⟨target, h⟩ : ∃ target,
      sampleAllocator.allocate .exact 0 "EXP-1" sampleIntents "ETHUSDC" = .ok target := by
    refine exists_of_toBool ?_
    decide +kernel
  obtain ⟨-, hgross, hnet, -⟩ := allocate_sound (List.cons_ne_nil _ _) h
  exact ⟨target, h, hnet, hgross⟩

end Blessing.Engines.Allocation
