import Blessing.Lib.Decimal
import Mathlib.Tactic.Ring
import Mathlib.Tactic.Linarith
import Mathlib.Algebra.Order.Field.Power
import Mathlib.Algebra.Order.BigOperators.Group.List

/-! # The value of a decimal number, and sums

The context rounds every sum to 28 digits. A sum of multiples of one power of ten is exact as long
as it has no more digits than that, whatever the order of its terms.

* `add_exact`: one addition.
* `foldl_add_exact`: a running total, if the magnitudes stay below 28 digits together. -/

namespace Blessing.Lib.Decimal

/-! ### The value -/

theorem toRat_eq (d : Decimal) :
    d.toRat = (if d.neg then -1 else 1) * (d.coeff : ℚ) * (10 : ℚ) ^ d.exp := by
  obtain ⟨neg, coeff, exp⟩ := d
  unfold toRat
  cases exp with
  | ofNat e => cases neg <;> simp
  | negSucc e => cases neg <;> simp [Rat.mkRat_eq_div, zpow_negSucc, div_eq_mul_inv]

theorem toRat_scaled {d : Decimal} {e : ℤ} (h : e ≤ d.exp) : d.toRat = d.scaled e * 10 ^ e := by
  have hpow : (10 : ℚ) ^ d.exp = 10 ^ (d.exp - e).toNat * 10 ^ e := by
    rw [← zpow_natCast, ← zpow_add₀ (by norm_num), Int.toNat_of_nonneg (by omega)]
    congr 1
    omega
  rw [toRat_eq, hpow]
  unfold scaled
  split_ifs
  · push_cast
    ring
  · push_cast
    ring

/-! ### Sums -/

theorem fix_of_lt {d : Decimal} (h : d.coeff < 10 ^ prec) : fix d = d := by
  unfold fix
  exact if_pos ((Nat.length_repr_le_iff (by decide)).mpr h)

theorem add_exact {a b : Decimal}
    (h : |a.toRat + b.toRat| < 10 ^ prec * 10 ^ Min.min a.exp b.exp) :
    (a.add b).toRat = a.toRat + b.toRat ∧ (a.add b).exp = Min.min a.exp b.exp := by
  have hsum : a.toRat + b.toRat =
      (a.scaled (Min.min a.exp b.exp) + b.scaled (Min.min a.exp b.exp) : ℤ) *
      10 ^ Min.min a.exp b.exp := by
    rw [toRat_scaled (min_le_left a.exp b.exp), toRat_scaled (min_le_right a.exp b.exp)]
    push_cast
    ring
  have hpos : (0 : ℚ) < 10 ^ Min.min a.exp b.exp := zpow_pos (by norm_num) _
  rw [hsum, abs_mul, abs_of_pos hpos, mul_lt_mul_iff_left₀ hpos] at h
  have hcoeff : (a.scaled (Min.min a.exp b.exp) + b.scaled (Min.min a.exp b.exp)).natAbs <
      10 ^ prec := by
    have hcast :
        (((a.scaled (Min.min a.exp b.exp) + b.scaled (Min.min a.exp b.exp)).natAbs : ℕ) : ℚ) <
        (10 ^ prec : ℕ) := by
      rw [Nat.cast_natAbs, Int.cast_abs]
      push_cast
      push_cast at h
      exact h
    exact_mod_cast hcast
  unfold add
  dsimp only
  rw [fix_of_lt hcoeff]
  refine ⟨?_, rfl⟩
  rw [toRat_eq, hsum]
  dsimp only
  congr 1
  generalize a.scaled (Min.min a.exp b.exp) + b.scaled (Min.min a.exp b.exp) = n
  by_cases hzero : n = 0
  · subst hzero
    simp
  · rw [if_neg hzero, Nat.cast_natAbs, Int.cast_abs]
    by_cases hneg : n < 0
    · rw [if_pos (decide_eq_true hneg), abs_of_neg (by exact_mod_cast hneg), neg_one_mul, neg_neg]
    · rw [if_neg (by simpa using hneg), abs_of_nonneg (by exact_mod_cast not_lt.mp hneg), one_mul]

/-- A sum is exact if all its terms are multiples of one power of ten and stay below `prec`
digits. -/
theorem foldl_add_exact {e : ℤ} {ds : List Decimal} {total : Decimal} (htotal : e ≤ total.exp)
    (hds : ∀ d ∈ ds, e ≤ d.exp)
    (hbound : |total.toRat| + (ds.map fun d => |d.toRat|).sum < 10 ^ prec * 10 ^ e) :
    (ds.foldl add total).toRat = total.toRat + (ds.map toRat).sum := by
  induction ds generalizing total with
  | nil => simp
  | cons d ds ih =>
    obtain ⟨hd, hds⟩ := List.forall_mem_cons.mp hds
    rw [List.map_cons, List.sum_cons] at hbound
    have hrest : 0 ≤ (ds.map fun d => |d.toRat|).sum :=
      List.sum_nonneg (by simp)
    have htriangle := abs_add_le total.toRat d.toRat
    have hunit : (10 : ℚ) ^ e ≤ 10 ^ Min.min total.exp d.exp :=
      zpow_le_zpow_right₀ (by norm_num) (le_min htotal hd)
    have hsmall : |total.toRat + d.toRat| < 10 ^ prec * 10 ^ Min.min total.exp d.exp := by
      refine lt_of_lt_of_le ?_ (mul_le_mul_of_nonneg_left hunit (by positivity))
      linarith
    obtain ⟨hvalue, hexp⟩ := add_exact hsmall
    rw [List.foldl_cons, ih (hexp ▸ le_min htotal hd) hds (by rw [hvalue]; linarith),
      hvalue, List.map_cons, List.sum_cons, add_assoc]

end Blessing.Lib.Decimal
