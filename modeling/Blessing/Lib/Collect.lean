import Blessing.Lib.Effects
import Blessing.Lib.Table
import Mathlib.Data.List.Sort

/-! # Observations under a key

Rows are parsed and collected under a key; two observations of one key must be the same. What is
collected depends on the rows as a set, and so does the list that is sorted by a strict order. -/

namespace Blessing.Lib.Collect

open Blessing.Lib.Table Blessing.Lib.Effects

variable {K R Row ε : Type}

/-- A row of the list is that observation. -/
def Observed (parse : Row → Except ε (Option R)) (rows : List Row) (r : R) : Prop :=
  ∃ row ∈ rows, parse row = .ok (some r)

theorem observed_cons {parse : Row → Except ε (Option R)} {row : Row} {rows : List Row} {r : R} :
    Observed parse (row :: rows) r ↔ parse row = .ok (some r) ∨ Observed parse rows r := by
  simp [Observed]

/-! ### Sorting by a rank -/

section Sorting

variable {L : Type} [LinearOrder L] {rank : R → L}

/-- `sorted(…, key=rank)` -/
def sortedBy (rank : R → L) (t : List R) : List R := t.insertionSort fun a b => rank a ≤ rank b

theorem mem_sortedBy {t : List R} {r : R} : r ∈ sortedBy rank t ↔ r ∈ t := List.mem_insertionSort _

theorem sortedBy_strict {t : List R} (hn : (t.map rank).Nodup) :
    (sortedBy rank t).Pairwise fun a b => rank a < rank b := by
  have htotal : Std.Total fun a b : R => rank a ≤ rank b := ⟨fun a b => le_total _ _⟩
  have htrans : IsTrans R fun a b => rank a ≤ rank b := ⟨fun _ _ _ => le_trans⟩
  have hle : (sortedBy rank t).Pairwise fun a b => rank a ≤ rank b :=
    List.pairwise_insertionSort _ t
  have hnodup : ((sortedBy rank t).map rank).Nodup :=
    ((List.perm_insertionSort _ t).map rank).nodup_iff.mpr hn
  exact (hle.and (List.pairwise_map.mp hnodup)).imp fun ⟨hab, hne⟩ => lt_of_le_of_ne hab hne

/-- Lists that are sorted strictly are the same if their members are. -/
theorem eq_of_mem_iff {t t' : List R} (h : t.Pairwise fun a b => rank a < rank b)
    (h' : t'.Pairwise fun a b => rank a < rank b) (hmem : ∀ r, r ∈ t ↔ r ∈ t') : t = t' := by
  have hantisymm : Std.Antisymm fun a b : R => rank a < rank b :=
    ⟨fun _ _ hab hba => absurd hba hab.asymm⟩
  have hirrefl : Std.Irrefl fun a b : R => rank a < rank b := ⟨fun _ => lt_irrefl _⟩
  exact h.eq_of_mem_iff h' hmem

theorem getLast?_iff {t : List R} (h : t.Pairwise fun a b => rank a < rank b) {r : R} :
    t.getLast? = some r ↔ r ∈ t ∧ ∀ s ∈ t, rank s ≤ rank r := by
  rw [List.getLast?_eq_some_iff]
  constructor
  · rintro ⟨front, rfl⟩
    obtain ⟨-, -, hlast⟩ := List.pairwise_append.mp h
    refine ⟨List.mem_append_right front (List.mem_singleton_self r), fun s hs => ?_⟩
    rcases List.mem_append.mp hs with hs | hs
    · exact le_of_lt (hlast s hs r (List.mem_singleton_self r))
    · rw [List.mem_singleton.mp hs]
  · rintro ⟨hr, hmax⟩
    obtain ⟨front, l, rfl⟩ := List.eq_nil_or_concat t |>.resolve_left (List.ne_nil_of_mem hr)
    rw [List.concat_eq_append] at *
    obtain ⟨-, -, hlast⟩ := List.pairwise_append.mp h
    have hl : l ∈ front ++ [l] := List.mem_append_right front (List.mem_singleton_self l)
    rcases List.mem_append.mp hr with hr | hr
    · exact absurd (hlast r hr l (List.mem_singleton_self l)) (not_lt_of_ge (hmax l hl))
    · exact ⟨front, by rw [List.mem_singleton.mp hr]⟩

/-- The first member of a strictly sorted list that satisfies a condition. -/
theorem find?_iff {t : List R} (h : t.Pairwise fun a b => rank a < rank b) {p : R → Bool} {r : R} :
    t.find? p = some r ↔ r ∈ t ∧ p r = true ∧ ∀ s ∈ t, p s = true → rank r ≤ rank s := by
  rw [List.find?_eq_some_iff_append]
  constructor
  · rintro ⟨hp, front, back, rfl, hfront⟩
    obtain ⟨-, hback, -⟩ := List.pairwise_append.mp h
    refine ⟨by simp, hp, fun s hs hps => ?_⟩
    rcases List.mem_append.mp hs with hs | hs
    · exact absurd hps (by simpa using hfront s hs)
    · rcases List.mem_cons.mp hs with rfl | hs
      · exact le_rfl
      · exact le_of_lt ((List.pairwise_cons.mp hback).1 s hs)
  · rintro ⟨hr, hp, hmin⟩
    obtain ⟨front, back, rfl⟩ := List.append_of_mem hr
    obtain ⟨-, -, hcross⟩ := List.pairwise_append.mp h
    refine ⟨hp, front, back, rfl, fun s hs => ?_⟩
    by_contra hps
    have hlt : rank s < rank r := hcross s hs r List.mem_cons_self
    exact absurd hlt (not_lt_of_ge (hmin s (List.mem_append_left _ hs) (by simpa using hps)))

/-- The pairs of `pairwise(rs)`. -/
theorem isChain_of_zip_tail {S : R → R → Prop} :
    ∀ {rs : List R}, (∀ pair ∈ rs.zip rs.tail, S pair.1 pair.2) → rs.IsChain S
  | [], _ => .nil
  | [r], _ => .singleton r
  | a :: b :: _, h => .cons_cons (h (a, b) List.mem_cons_self)
      (isChain_of_zip_tail fun pair hpair => h pair (List.mem_cons_of_mem _ hpair))

end Sorting

/-! ### Collecting under a key -/

variable [DecidableEq K] [DecidableEq R]

/-- An observation joins those collected so far. -/
def add (key : R → K) (conflict : ε) (t : List R) (r : R) : Except ε (List R) :=
  match lookup key (key r) t with
  | some r' => if r' ≠ r then .error conflict else .ok (upsert key r t)
  | none => .ok (upsert key r t)

/-- A row joins; a row without observation is skipped. -/
def addRow (parse : Row → Except ε (Option R)) (key : R → K) (conflict : ε) (t : List R)
    (row : Row) : Except ε (List R) := do
  match ← parse row with
  | none => return t
  | some r => add key conflict t r

/-- The observations of the rows. -/
def collect (parse : Row → Except ε (Option R)) (key : R → K) (conflict : ε) (rows : List Row) :
    Except ε (List R) := rows.foldlM (addRow parse key conflict) []

variable {parse : Row → Except ε (Option R)} {key : R → K} {conflict : ε}

/-- An observation that joins is there, and nothing else changes. -/
theorem add_ok {t t' : List R} {r : R} (hn : (t.map key).Nodup)
    (h : add key conflict t r = .ok t') : (t'.map key).Nodup ∧ ∀ s, s ∈ t' ↔ s ∈ t ∨ s = r := by
  unfold add at h
  cases hlookup : lookup key (key r) t with
  | none =>
    rw [hlookup] at h
    cases h
    refine ⟨nodup_upsert hn r, fun s => ?_⟩
    rw [upsert_of_none hlookup, List.mem_append, List.mem_singleton]
  | some r' =>
    rw [hlookup] at h
    dsimp only at h
    split_ifs at h with hsame
    obtain rfl : r' = r := not_not.mp hsame
    cases h
    refine ⟨nodup_upsert hn r', fun s => ?_⟩
    have hmem : r' ∈ t := mem_of_lookup hlookup
    rw [upsert_of_lookup hlookup, List.mem_map]
    constructor
    · rintro ⟨s', hs', rfl⟩
      split_ifs
      · exact .inr rfl
      · exact .inl hs'
    · rintro (hs | rfl)
      · refine ⟨s, hs, ?_⟩
        split_ifs with hkey
        · exact List.inj_on_of_nodup_map hn hmem hs hkey.symm
        · rfl
      · exact ⟨s, hmem, if_pos rfl⟩

/-- An observation joins if it is the one that is there under its key, if any. -/
theorem add_of_consistent (conflict : ε) {t : List R} {r : R} (h : ∀ s ∈ t, key s = key r → s = r) :
    ∃ t', add key conflict t r = .ok t' := by
  unfold add
  cases hlookup : lookup key (key r) t with
  | none => exact ⟨_, rfl⟩
  | some r' =>
    refine ⟨_, if_neg (not_not.mpr ?_)⟩
    exact h r' (mem_of_lookup hlookup) (key_of_lookup hlookup)

theorem foldlM_addRow_ok {rows : List Row} {t t' : List R} (hn : (t.map key).Nodup)
    (h : rows.foldlM (addRow parse key conflict) t = .ok t') :
    (t'.map key).Nodup ∧ (∀ r, r ∈ t' ↔ r ∈ t ∨ Observed parse rows r) ∧
      ∀ row ∈ rows, ∃ o, parse row = .ok o := by
  induction rows generalizing t with
  | nil =>
    cases h
    exact ⟨hn, fun r => by simp [Observed], by simp⟩
  | cons row rows ih =>
    rw [List.foldlM_cons, except_bind_ok] at h
    obtain ⟨u, hrow, hrest⟩ := h
    unfold addRow at hrow
    obtain ⟨o, hparse, hrow⟩ := except_bind_ok.mp hrow
    have hu : (u.map key).Nodup ∧ ∀ s, s ∈ u ↔ s ∈ t ∨ o = some s := by
      cases o with
      | none =>
        cases hrow
        exact ⟨hn, by simp⟩
      | some r =>
        obtain ⟨hnodup, hmem⟩ := add_ok hn hrow
        exact ⟨hnodup, fun s => by rw [hmem s, Option.some.injEq, eq_comm]⟩
    obtain ⟨hnodup, hmem, hparsed⟩ := ih hu.1 hrest
    refine ⟨hnodup, fun r => ?_, ?_⟩
    · rw [hmem r, hu.2 r, observed_cons, hparse, Except.ok.injEq, or_assoc]
    · intro row' hrow'
      rcases List.mem_cons.mp hrow' with rfl | hrow'
      · exact ⟨o, hparse⟩
      · exact hparsed row' hrow'

/-- What is collected: the observations of the rows, each key once. -/
theorem collect_ok {rows : List Row} {t : List R} (h : collect parse key conflict rows = .ok t) :
    (t.map key).Nodup ∧ (∀ r, r ∈ t ↔ Observed parse rows r) ∧
    ∀ row ∈ rows, ∃ o, parse row = .ok o := by
  have hnil : (([] : List R).map key).Nodup := List.nodup_nil
  obtain ⟨hnodup, hmem, hparsed⟩ := foldlM_addRow_ok hnil h
  exact ⟨hnodup, fun r => by simp [hmem r], hparsed⟩

/-- Rows that parse, and observe the same under one key, are collected. -/
theorem exists_collect (key : R → K) (conflict : ε) {rows : List Row}
    (hparsed : ∀ row ∈ rows, ∃ o, parse row = .ok o)
    (hsame : ∀ r r', Observed parse rows r → Observed parse rows r' → key r = key r' → r = r') :
    ∃ t, collect parse key conflict rows = .ok t := by
  have hfold : ∀ (rest : List Row) (t : List R), (t.map key).Nodup → (∀ row ∈ rest, row ∈ rows) →
      (∀ r ∈ t, Observed parse rows r) →
      ∃ t', rest.foldlM (addRow parse key conflict) t = .ok t' := by
    intro rest
    induction rest with
    | nil => exact fun t _ _ _ => ⟨t, rfl⟩
    | cons row rest ih =>
      intro t hn hrest ht
      obtain ⟨hrow, hrest⟩ := List.forall_mem_cons.mp hrest
      obtain ⟨o, hparse⟩ := hparsed row hrow
      rw [List.foldlM_cons]
      unfold addRow
      rw [hparse]
      cases o with
      | none => exact ih t hn hrest ht
      | some r =>
        have hobserved : Observed parse rows r := ⟨row, hrow, hparse⟩
        obtain ⟨u, hu⟩ := add_of_consistent conflict fun s hs =>
          hsame s r (ht s hs) hobserved
        obtain ⟨hnodup, hmem⟩ := add_ok hn hu
        change ∃ t', (add key conflict t r >>= fun t => rest.foldlM _ t) = .ok t'
        rw [hu]
        refine ih u hnodup hrest fun s hs => ?_
        rcases (hmem s).mp hs with hs | rfl
        · exact ht s hs
        · exact hobserved
  exact hfold rows [] List.nodup_nil (fun _ h => h) (by simp)

/-- The rows matter as a set: their order and their repetitions do not. -/
theorem collect_congr {rows rows' : List Row} (hrows : ∀ row, row ∈ rows ↔ row ∈ rows') {t : List R}
    (h : collect parse key conflict rows = .ok t) :
    ∃ t', collect parse key conflict rows' = .ok t' ∧ ∀ r, r ∈ t' ↔ r ∈ t := by
  obtain ⟨hnodup, hmem, hparsed⟩ := collect_ok h
  have hobserved (r : R) : Observed parse rows' r ↔ Observed parse rows r := by
    simp only [Observed, hrows]
  obtain ⟨t', ht'⟩ := exists_collect key conflict
    (fun row hrow => hparsed row ((hrows row).mpr hrow)) fun r r' hr hr' hkey =>
      List.inj_on_of_nodup_map hnodup ((hmem r).mpr ((hobserved r).mp hr))
        ((hmem r').mpr ((hobserved r').mp hr')) hkey
  refine ⟨t', ht', fun r => ?_⟩
  rw [(collect_ok ht').2.1 r, hobserved r, hmem r]

/-! ### Collecting and sorting -/

section Ranked

variable {L : Type} [LinearOrder L] {rank : R → L}
    (hrank : ∀ r r', rank r = rank r' → key r = key r')
include hrank

omit [LinearOrder L] [DecidableEq K] [DecidableEq R] in
theorem nodup_rank {t : List R} (h : (t.map key).Nodup) : (t.map rank).Nodup :=
  List.pairwise_map.mpr ((List.pairwise_map.mp h).imp fun hne heq => hne (hrank _ _ heq))

theorem sorted_collect_ok {rows : List Row} {t : List R}
    (h : collect parse key conflict rows = .ok t) :
    (sortedBy rank t).Pairwise (fun a b => rank a < rank b) ∧
      ∀ r, r ∈ sortedBy rank t ↔ Observed parse rows r := by
  obtain ⟨hnodup, hmem, -⟩ := collect_ok h
  exact ⟨sortedBy_strict (nodup_rank hrank hnodup), fun r => mem_sortedBy.trans (hmem r)⟩

theorem sorted_collect_congr {rows rows' : List Row} (hrows : ∀ row, row ∈ rows ↔ row ∈ rows')
    {t : List R} (h : collect parse key conflict rows = .ok t) :
    ∃ t', collect parse key conflict rows' = .ok t' ∧ sortedBy rank t' = sortedBy rank t := by
  obtain ⟨t', ht', hmem⟩ := collect_congr hrows h
  refine ⟨t', ht', eq_of_mem_iff (sorted_collect_ok hrank ht').1
    (sorted_collect_ok hrank h).1 fun r => ?_⟩
  rw [mem_sortedBy, mem_sortedBy, hmem r]

end Ranked

theorem observed_unique {rows : List Row} {t : List R} (h : collect parse key conflict rows = .ok t)
    {r r' : R} (hr : Observed parse rows r) (hr' : Observed parse rows r') (hkey : key r = key r') :
    r = r' := by
  obtain ⟨hnodup, hmem, -⟩ := collect_ok h
  exact List.inj_on_of_nodup_map hnodup ((hmem r).mpr hr) ((hmem r').mpr hr') hkey

theorem lookup_collect {rows : List Row} {t : List R} (h : collect parse key conflict rows = .ok t)
    {k : K} {r : R} : lookup key k t = some r ↔ Observed parse rows r ∧ key r = k := by
  obtain ⟨hnodup, hmem, -⟩ := collect_ok h
  constructor
  · exact fun hlookup => ⟨(hmem r).mp (mem_of_lookup hlookup), key_of_lookup hlookup⟩
  · rintro ⟨hr, rfl⟩
    exact lookup_of_mem hnodup ((hmem r).mpr hr)

end Blessing.Lib.Collect
