import Mathlib

/-! # Binary search

The loop of Python's `bisect`, and what it finds in a sorted list: the first place where a condition
that holds of a prefix of the list fails. -/

namespace Blessing.Lib.Bisect

/-- The loop, with so many rounds left: the places below `lo` satisfy the condition, those from `hi`
on do not. -/
def search (p : ℕ → Bool) : ℕ → ℕ → ℕ → ℕ
  | 0, lo, _ => lo
  | rounds + 1, lo, hi =>
    if lo < hi then
      if p ((lo + hi) / 2) then search p rounds ((lo + hi) / 2 + 1) hi
      else search p rounds lo ((lo + hi) / 2)
    else lo

variable {α : Type} [LinearOrder α]

/-- `bisect_left` -/
def bisectLeft (xs : List α) (x : α) : ℕ :=
  search (fun i => xs[i]?.any fun y => decide (y < x)) xs.length 0 xs.length

/-- `bisect_right` -/
def bisectRight (xs : List α) (x : α) : ℕ :=
  search (fun i => xs[i]?.any fun y => decide (y ≤ x)) xs.length 0 xs.length

/-- The place the search finds, for a condition that holds below one of its places. -/
theorem search_spec {p : ℕ → Bool} (hp : ∀ i j, i ≤ j → p j = true → p i = true) :
    ∀ {rounds lo hi : ℕ}, hi ≤ lo + rounds → lo ≤ hi → (∀ i < lo, p i = true) →
      (∀ i, hi ≤ i → p i = false) →
      lo ≤ search p rounds lo hi ∧ search p rounds lo hi ≤ hi ∧
        (∀ i < search p rounds lo hi, p i = true) ∧ ∀ i, search p rounds lo hi ≤ i →
        p i = false := by
  intro rounds
  induction rounds with
  | zero =>
    intro lo hi hrounds hlohi hbelow habove
    obtain rfl : lo = hi := by omega
    exact ⟨Nat.le_refl lo, Nat.le_refl lo, hbelow, habove⟩
  | succ rounds ih =>
    intro lo hi hrounds hlohi hbelow habove
    unfold search
    split_ifs with hlt hmid
    · have hnext := @ih ((lo + hi) / 2 + 1) hi (by omega) (by omega)
        (fun i hi' => hp i _ (by omega) hmid) habove
      exact ⟨by omega, hnext.2.1, hnext.2.2⟩
    · have hnext := @ih lo ((lo + hi) / 2) (by omega) (by omega) hbelow fun i hi' => by
        by_contra htrue
        exact hmid (hp _ i hi' (by simpa using htrue))
      exact ⟨hnext.1, by omega, hnext.2.2⟩
    · obtain rfl : lo = hi := by omega
      exact ⟨Nat.le_refl lo, Nat.le_refl lo, hbelow, habove⟩

theorem search_list {xs : List α} {c : α → Prop} [DecidablePred c] (hxs : xs.Pairwise (· ≤ ·))
    (hc : ∀ x y, x ≤ y → c y → c x) :
    let n := search (fun i => xs[i]?.any fun y => decide (c y)) xs.length 0 xs.length
    n ≤ xs.length ∧ (∀ i x, xs[i]? = some x → (c x ↔ i < n)) := by
  intro n
  have hp : ∀ i j : ℕ, i ≤ j → (xs[j]?.any fun y => decide (c y)) = true →
      (xs[i]?.any fun y => decide (c y)) = true := by
    intro i j hij hj
    rcases Nat.eq_or_lt_of_le hij with rfl | hlt
    · exact hj
    · cases hy : xs[j]? with
      | none =>
        rw [hy] at hj
        cases hj
      | some y =>
        obtain ⟨hjlen, rfl⟩ := List.getElem?_eq_some_iff.mp hy
        rw [List.getElem?_eq_getElem (Nat.lt_trans hlt hjlen)]
        rw [hy] at hj
        have hcy : c xs[j] := by simpa using hj
        simpa using hc _ _ (List.pairwise_iff_getElem.mp hxs i j
          (Nat.lt_trans hlt hjlen) hjlen hlt) hcy
  obtain ⟨-, hle, hbelow, habove⟩ := @search_spec _ hp xs.length 0 xs.length
    (by omega) (Nat.zero_le _) (fun i hi => absurd hi (Nat.not_lt_zero i))
    (fun i hi => by rw [List.getElem?_eq_none hi]; rfl)
  refine ⟨hle, fun i x hx => ⟨fun hcx => ?_, fun hlt => ?_⟩⟩
  · by_contra hge
    have hfalse := habove i (Nat.not_lt.mp hge)
    rw [hx] at hfalse
    simp [hcx] at hfalse
  · have htrue := hbelow i hlt
    rw [hx] at htrue
    simpa using htrue

variable {xs : List α} (hxs : xs.Pairwise (· ≤ ·)) (x : α)
include hxs

/-- What stands in front of the place of `bisect_left` is smaller, and nothing else. -/
theorem lt_bisectLeft {i : ℕ} {y : α} (hy : xs[i]? = some y) : y < x ↔ i < bisectLeft xs x :=
  (search_list hxs fun _ _ hxy hy => lt_of_le_of_lt hxy hy).2 i y hy

/-- What stands in front of the place of `bisect_right` is not greater, and nothing else. -/
theorem le_bisectRight {i : ℕ} {y : α} (hy : xs[i]? = some y) : y ≤ x ↔ i < bisectRight xs x :=
  (search_list hxs fun _ _ hxy hy => le_trans hxy hy).2 i y hy

omit hxs

/-! ### Lists that are sorted by a field -/

section Field

variable {R : Type} {c : R → Prop} [DecidablePred c]

/-- A condition that holds of the first `n` members only selects them. -/
theorem filter_of_front : ∀ {rs : List R} {n : ℕ}, (∀ i r, rs[i]? = some r → (c r ↔ i < n)) →
    rs.filter (fun r => c r) = rs.take n
  | [], n, _ => by rw [List.filter_nil, List.take_nil]
  | r :: rs, 0, h => by
    refine List.filter_eq_nil_iff.mpr fun s hs => ?_
    obtain ⟨i, hi⟩ := List.mem_iff_getElem?.mp hs
    simpa using mt (h i s hi).mp (Nat.not_lt_zero i)
  | r :: rs, n + 1, h => by
    have hr : c r := (h 0 r rfl).mpr (Nat.succ_pos n)
    rw [List.filter_cons_of_pos (by simpa using hr), List.take_succ_cons]
    rw [filter_of_front fun i s hs => (h (i + 1) s hs).trans Nat.succ_lt_succ_iff]

/-- The member behind them is the first one the condition fails of. -/
theorem find?_of_front : ∀ {rs : List R} {n : ℕ}, (∀ i r, rs[i]? = some r → (c r ↔ i < n)) →
    rs[n]? = rs.find? fun r => ¬ c r
  | [], n, _ => by rw [List.getElem?_nil, List.find?_nil]
  | r :: rs, 0, h => by
    have hr : ¬ c r := fun hc => Nat.not_lt_zero 0 ((h 0 r rfl).mp hc)
    rw [List.find?_cons_of_pos (by simpa using hr)]
    rfl
  | r :: rs, n + 1, h => by
    have hr : c r := (h 0 r rfl).mpr (Nat.succ_pos n)
    rw [List.find?_cons_of_neg (by simpa using hr), List.getElem?_cons_succ]
    exact find?_of_front fun i s hs => (h (i + 1) s hs).trans Nat.succ_lt_succ_iff

variable {f : R → α} {rs : List R} (hrs : (rs.map f).Pairwise (· ≤ ·)) (x : α)
include hrs

theorem take_bisectRight : rs.take (bisectRight (rs.map f) x) = rs.filter fun r => f r ≤ x := by
  refine (filter_of_front fun i r hr => ?_).symm
  exact le_bisectRight hrs x (by rw [List.getElem?_map, hr]; rfl)

theorem getElem?_bisectLeft : rs[bisectLeft (rs.map f) x]? = rs.find? fun r => x ≤ f r := by
  have hplace (i : ℕ) (r : R) (hr : rs[i]? = some r) : f r < x ↔ i < bisectLeft (rs.map f) x :=
    lt_bisectLeft hrs x (by rw [List.getElem?_map, hr]; rfl)
  rw [find?_of_front hplace]
  simp only [not_lt]

end Field

end Blessing.Lib.Bisect
