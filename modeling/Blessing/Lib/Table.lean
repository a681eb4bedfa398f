import Mathlib.Data.List.Nodup

/-! # Tables with a key

A table is the list of its rows in insertion order. `update` is the statement
`UPDATE … SET f WHERE p`, `lookup` the selection of one key, `upsert` the assignment of a dictionary
entry: in place if the key is there, at the end otherwise. A row function that keeps the key
commutes with `lookup`, so what an update does to a key is what it does to that row. -/

namespace Blessing.Lib.Table

variable {R S K : Type*} [DecidableEq K]

/-- The row with a key. -/
def lookup (key : R → K) (k : K) (t : List R) : Option R := t.find? fun r => key r = k

/-- `UPDATE … SET f WHERE p`. -/
def update (p : R → Bool) (f : R → R) (t : List R) : List R := t.map fun r => if p r then f r else r

/-- Assignment of a dictionary entry. -/
def upsert (key : R → K) (r : R) (t : List R) : List R :=
  if (lookup key (key r) t).isSome then update (fun r' => key r' = key r) (fun _ => r) t
  else t ++ [r]

variable {key : R → K} {k : K} {t : List R}

theorem mem_of_lookup {r : R} (h : lookup key k t = some r) : r ∈ t := List.mem_of_find?_eq_some h

theorem key_of_lookup {r : R} (h : lookup key k t = some r) : key r = k := by
  simpa using List.find?_some h

theorem lookup_eq_none : lookup key k t = none ↔ ∀ r ∈ t, key r ≠ k := by simp [lookup]

theorem lookup_cons (r : R) : lookup key k (r :: t) = if key r = k then some r
  else lookup key k t := by
  by_cases h : key r = k <;> simp [lookup, h]

/-- A row function that keeps the key acts on the row looked up. -/
theorem lookup_map {g : R → R} (hg : ∀ r, key (g r) = key r) :
    lookup key k (t.map g) = (lookup key k t).map g := by
  have hkey : (fun r => decide (key r = k)) ∘ g = fun r => decide (key r = k) :=
    funext fun r => by rw [Function.comp_apply, hg]
  rw [lookup, List.find?_map, hkey, lookup]

theorem lookup_update {p : R → Bool} {f : R → R} (hf : ∀ r, key (f r) = key r) :
    lookup key k (update p f t) = (lookup key k t).map fun r => if p r then f r else r :=
  lookup_map fun r => by split_ifs <;> simp [hf]

theorem lookup_update_key {p : R → Bool} {f : R → R} {k' : K} (hp : ∀ r, p r = true ↔ key r = k')
    (hf : ∀ r, key (f r) = key r) : lookup key k (update p f t) =
      if k' = k then (lookup key k t).map f else lookup key k t := by
  rw [lookup_update hf]
  cases hl : lookup key k t with
  | none => simp
  | some r =>
    have hr := key_of_lookup hl
    by_cases hk : k' = k
    · simp [hp, hr, hk]
    · have hne : ¬ k = k' := fun h => hk h.symm
      simp [hp, hr, hk, hne]

theorem lookup_append {u : List R} : lookup key k (t ++ u) = (lookup key k t).or (lookup key k u) :=
  List.find?_append

theorem lookup_of_mem (hn : (t.map key).Nodup) {r : R} (hr : r ∈ t) :
    lookup key (key r) t = some r := by
  induction t with
  | nil => simp at hr
  | cons a t ih =>
    rw [List.map_cons, List.nodup_cons] at hn
    rcases List.mem_cons.mp hr with rfl | hr
    · simp [lookup]
    · have hne : key a ≠ key r := fun h => hn.1 (h ▸ List.mem_map_of_mem hr)
      rw [lookup, List.find?_cons_of_neg (by simpa using hne)]
      exact ih hn.2 hr

omit [DecidableEq K] in
theorem map_key_map {g : R → R} (hg : ∀ r, key (g r) = key r) : (t.map g).map key = t.map key := by
  simp [Function.comp_def, hg]

theorem upsert_of_lookup {r r' : R} (h : lookup key (key r) t = some r') :
    upsert key r t = t.map fun s => if key s = key r then r else s := by
  simp [upsert, update, h]

theorem upsert_of_none {r : R} (h : lookup key (key r) t = none) : upsert key r t = t ++ [r] := by
  simp [upsert, h]

theorem lookup_isSome : (lookup key k t).isSome = true ↔ k ∈ t.map key := by
  simp [lookup, List.find?_isSome]

/-- Replacing a row that is there: the rows after the table stay as they are. -/
theorem upsert_of_mem {r : R} (h : key r ∈ t.map key) {u : List R} (hu : ∀ s ∈ u, key s ≠ key r) :
    upsert key r (t ++ u) = (t.map fun s => if key s = key r then r else s) ++ u := by
  have hmem : (lookup key (key r) (t ++ u)).isSome = true :=
    lookup_isSome.mpr (by rw [List.map_append]; exact List.mem_append_left _ h)
  have hrest : (u.map fun s => if key s = key r then r else s) = u.map id :=
    List.map_congr_left fun s hs => if_neg (hu s hs)
  rw [upsert, if_pos hmem, update, List.map_append]
  simp only [decide_eq_true_eq, hrest, List.map_id]

theorem map_key_upsert (r : R) : (upsert key r t).map key =
    if key r ∈ t.map key then t.map key else t.map key ++ [key r] := by
  by_cases hmem : key r ∈ t.map key
  · have h := upsert_of_mem hmem (u := []) (by simp)
    simp only [List.append_nil] at h
    rw [h, if_pos hmem, map_key_map fun s => by split_ifs with hs <;> simp [hs]]
  · rw [upsert_of_none (by rw [← Option.not_isSome_iff_eq_none, lookup_isSome]; exact hmem),
      if_neg hmem, List.map_append]
    rfl

theorem mem_upsert {r s : R} (h : s ∈ upsert key r t) : s = r ∨ s ∈ t := by
  unfold upsert update at h
  split_ifs at h
  · obtain ⟨u, hu, rfl⟩ := List.mem_map.mp h
    split_ifs
    · exact .inl rfl
    · exact .inr hu
  · rcases List.mem_append.mp h with hs | hs
    · exact .inr hs
    · exact .inl (List.mem_singleton.mp hs)

theorem nodup_upsert (hn : (t.map key).Nodup) (r : R) : ((upsert key r t).map key).Nodup := by
  rw [map_key_upsert]
  split_ifs with h
  · exact hn
  · rw [List.nodup_append]
    exact ⟨hn, by simp, by simpa using h⟩

theorem countP_key (hn : (t.map key).Nodup) (p : R → Bool) (hp : ∀ r, p r = true → key r = k) :
    t.countP p = ((lookup key k t).map fun r => if p r then 1 else 0).getD 0 := by
  induction t with
  | nil => rfl
  | cons r t ih =>
    rw [List.map_cons, List.nodup_cons] at hn
    rw [List.countP_cons, ih hn.2, lookup_cons]
    by_cases hk : key r = k
    · have hno : lookup key k t = none :=
        lookup_eq_none.mpr fun s hs h => hn.1 (hk.trans h.symm ▸ List.mem_map_of_mem hs)
      simp [hk, hno]
    · have hpr : ¬ p r = true := fun h => hk (hp r h)
      simp [hk, hpr]

theorem lookup_upsert {r : R} {k : K} :
    lookup key k (upsert key r t) = if key r = k then some r else lookup key k t := by
  by_cases hmem : (lookup key (key r) t).isSome = true
  · obtain ⟨r', hr'⟩ := Option.isSome_iff_exists.mp hmem
    have hkey : ∀ s, key (if key s = key r then r else s) = key s := fun s => by
      split_ifs with h <;> simp [h]
    rw [upsert_of_lookup hr', lookup_map hkey]
    by_cases hk : key r = k
    · subst hk
      simp [hr', key_of_lookup hr']
    · cases hl : lookup key k t with
      | none => simp [hk]
      | some s =>
        have : key s ≠ key r := fun h => hk (h.symm.trans (key_of_lookup hl))
        simp [hk, this]
  · rw [upsert_of_none (by simpa using hmem), lookup_append, lookup_cons]
    by_cases hk : key r = k
    · subst hk
      simp [Option.not_isSome_iff_eq_none.mp hmem]
    · simp [hk, lookup]

/-- A dictionary made from rows: the last row with a key is the one that stays. -/
theorem lookup_foldl_upsert (rows : List R) :
    lookup key k (rows.foldl (fun d r => upsert key r d) t) =
    ((rows.filter fun r => key r = k).getLast?).or (lookup key k t) := by
  induction rows generalizing t with
  | nil => simp
  | cons r rows ih =>
    rw [List.foldl_cons, ih, lookup_upsert, List.filter_cons]
    by_cases hk : key r = k
    · simp only [hk, if_true, decide_true, List.getLast?_cons]
      cases (rows.filter fun r => key r = k).getLast? <;> rfl
    · simp [hk]

theorem foldl_replace {g : R → R} : ∀ (rows t : List R), (rows.map key).Nodup →
    (∀ r ∈ rows, key (g r) = key r) →
      rows.foldl (fun u r => u.map fun s => if key s = key r then g r else s) t =
        t.map fun s => ((lookup key (key s) rows).map g).getD s
  | [], t, _, _ => by simp [lookup]
  | r :: rows, t, hn, hg => by
    rw [List.map_cons, List.nodup_cons] at hn
    rw [List.foldl_cons, foldl_replace rows _ hn.2 fun r hr => hg r (by simp [hr]), List.map_map]
    refine List.map_congr_left fun s _ => ?_
    by_cases hs : key s = key r
    · have hno : lookup key (key r) rows = none :=
        lookup_eq_none.mpr fun r' hr' h => hn.1 (h ▸ List.mem_map_of_mem hr')
      simp [hs, lookup_cons, hg r, hno]
    · have hne : ¬ key r = key s := fun h => hs h.symm
      simp [hs, hne, lookup_cons]

/-- The row of the table is found among the selected rows if it is selected. -/
theorem lookup_filter (hn : (t.map key).Nodup) {p : R → Bool} {s : R} (hs : s ∈ t) :
    lookup key (key s) (t.filter p) = if p s then some s else none := by
  have hsub : ((t.filter p).map key).Nodup := hn.sublist (List.filter_sublist.map key)
  split_ifs with hp
  · exact lookup_of_mem hsub (List.mem_filter.mpr ⟨hs, hp⟩)
  · refine lookup_eq_none.mpr fun r hr h => hp ?_
    rw [← List.inj_on_of_nodup_map hn (List.mem_filter.mp hr).1 hs h]
    exact (List.mem_filter.mp hr).2

/-- Replacing every selected row changes exactly the selected rows. -/
theorem foldl_replace_filter (hn : (t.map key).Nodup) {p : R → Bool} {g : R → R}
    (hg : ∀ r ∈ t, key (g r) = key r) :
    (t.filter p).foldl (fun u r => u.map fun s => if key s = key r then g r else s) t =
      t.map fun r => if p r then g r else r := by
  have hsub : ((t.filter p).map key).Nodup := hn.sublist (List.filter_sublist.map key)
  rw [foldl_replace _ _ hsub fun r hr => hg r (List.mem_filter.mp hr).1]
  refine List.map_congr_left fun s hs => ?_
  rw [lookup_filter hn hs]
  by_cases hp : p s = true <;> simp [hp]

/-- Updates keyed by the rows of a list: a row of the table meets at most one of them. -/
theorem foldl_update_keyed {q : R → Bool} {f : R → R → R} (hf : ∀ r s, key (f r s) = key s) :
    ∀ (rows t : List R), (rows.map key).Nodup →
      rows.foldl (fun u r => update (fun s => key s = key r && q s) (f r) u) t =
        t.map fun s => ((lookup key (key s) rows).map fun r => if q s then f r s else s).getD s
  | [], t, _ => by simp [lookup]
  | r :: rows, t, hn => by
    rw [List.map_cons, List.nodup_cons] at hn
    rw [List.foldl_cons, foldl_update_keyed hf rows _ hn.2, update, List.map_map]
    refine List.map_congr_left fun s _ => ?_
    by_cases hs : key s = key r
    · have hno : lookup key (key r) rows = none :=
        lookup_eq_none.mpr fun r' hr' h => hn.1 (h ▸ List.mem_map_of_mem hr')
      cases hq : q s <;> simp [hs, hq, hf, hno, lookup_cons]
    · have hne : ¬ key r = key s := fun h => hs h.symm
      simp [hs, hne, lookup_cons]

/-- Updating every selected row by its key changes exactly the selected rows. -/
theorem foldl_update_filter (hn : (t.map key).Nodup) {p q : R → Bool} {f : R → R → R}
    (hf : ∀ r s, key (f r s) = key s) (hpq : ∀ r, p r = true → q r = true) :
    (t.filter p).foldl (fun u r => update (fun s => key s = key r && q s) (f r) u) t =
      t.map fun r => if p r then f r r else r := by
  have hsub : ((t.filter p).map key).Nodup := hn.sublist (List.filter_sublist.map key)
  rw [foldl_update_keyed hf _ _ hsub]
  refine List.map_congr_left fun s hs => ?_
  rw [lookup_filter hn hs]
  by_cases hp : p s = true
  · simp [hp, hpq s hp]
  · simp [hp]

/-! ### First occurrences -/

/-- The rows whose key no earlier row has. -/
def firsts (key : R → K) : List R → List R
  | [] => []
  | r :: rows => r :: (firsts key rows).filter fun s => key s ≠ key r

theorem mem_map_firsts {rows : List R} : k ∈ (firsts key rows).map key ↔ k ∈ rows.map key := by
  induction rows with
  | nil => simp [firsts]
  | cons r rows ih =>
    simp only [List.mem_map] at ih
    by_cases hk : key r = k
    · simp [firsts, hk]
    · simp only [firsts, List.map_cons, List.mem_cons, List.mem_map, List.mem_filter, ← ih]
      constructor
      · rintro (h | ⟨s, ⟨hs, -⟩, rfl⟩)
        · exact .inl h
        · exact .inr ⟨s, hs, rfl⟩
      · rintro (h | ⟨s, hs, rfl⟩)
        · exact .inl h
        · exact .inr ⟨s, ⟨hs, by simpa using fun h => hk h.symm⟩, rfl⟩

theorem nodup_firsts (rows : List R) : ((firsts key rows).map key).Nodup := by
  induction rows with
  | nil => simp [firsts]
  | cons r rows ih =>
    rw [firsts, List.map_cons, List.nodup_cons]
    exact ⟨by simp, ih.sublist (List.filter_sublist.map key)⟩

theorem firsts_snoc (rows : List R) (r : R) : firsts key (rows ++ [r]) =
    if key r ∈ rows.map key then firsts key rows else firsts key rows ++ [r] := by
  induction rows with
  | nil => simp [firsts]
  | cons s rows ih =>
    rw [List.cons_append, firsts, ih, firsts]
    by_cases hs : key r = key s
    · have hdrop : (firsts key (rows ++ [r])).filter (fun x => key x ≠ key s) =
          (firsts key rows).filter fun x => key x ≠ key s := by
        rw [ih]
        split_ifs <;> simp [List.filter_append, hs]
      rw [← ih, hdrop]
      simp [hs]
    · by_cases hr : key r ∈ rows.map key
      · simp [hr, hs]
      · simp [hr, hs, List.filter_append]

theorem firsts_of_nodup {rows : List R} (hn : (rows.map key).Nodup) : firsts key rows = rows := by
  induction rows with
  | nil => rfl
  | cons r rows ih =>
    rw [List.map_cons, List.nodup_cons] at hn
    rw [firsts, ih hn.2, List.filter_eq_self.mpr]
    intro s hs
    simpa using fun h : key s = key r => hn.1 (h ▸ List.mem_map_of_mem hs)

end Blessing.Lib.Table
