import Blessing.Lib.ExactSum
import Blessing.Lib.Rounding

/-! # Decimal numbers in the default context

`fix` shortens the coefficient of a decimal number; the default context rounds its value. Both are
the same (`toRat_fix`), so the operations on decimal numbers are those of the context on their
values. -/

namespace Blessing.Lib.Decimal

open Blessing.Lib.Rounding

/-! ### Digits -/

theorem digitCount_le_iff {n k : ℕ} (hk : 0 < k) : digitCount n ≤ k ↔ n < 10 ^ k :=
  Nat.length_repr_le_iff hk

theorem lt_digitCount_iff {n k : ℕ} (hk : 0 < k) : k < digitCount n ↔ 10 ^ k ≤ n := by
  rw [← not_le, digitCount_le_iff hk, not_lt]

/-- A long coefficient begins at the power of ten of its first digit. -/
theorem digitCount_spec {n k : ℕ} (hk : 0 < k) (h : k < digitCount n) :
    10 ^ (digitCount n - 1) ≤ n ∧ n < 10 ^ digitCount n := by
  refine ⟨?_, (digitCount_le_iff (by omega)).mp le_rfl⟩
  exact (lt_digitCount_iff (by omega)).mp (by omega)

theorem log_abs {n : ℕ} {e : ℤ} {k : ℕ} (hlow : 10 ^ k ≤ n) (hhigh : n < 10 ^ (k + 1)) :
    Int.log 10 |(n : ℚ) * 10 ^ e| = k + e := by
  have hpos : (0 : ℚ) < (n : ℚ) * 10 ^ e :=
    mul_pos (by exact_mod_cast (Nat.pow_pos (by decide)).trans_le hlow) (tenPow_pos e)
  rw [abs_of_pos hpos]
  refine le_antisymm (Int.lt_add_one_iff.mp ?_) ?_
  · rw [← Int.lt_zpow_iff_log_lt (by norm_num) hpos]
    push_cast
    rw [show (k : ℤ) + e + 1 = ((k + 1 : ℕ) : ℤ) + e by push_cast; ring, zpow_add₀ (by norm_num),
      zpow_natCast]
    exact mul_lt_mul_of_pos_right (by exact_mod_cast hhigh) (tenPow_pos e)
  · rw [← Int.zpow_le_iff_le_log (by norm_num) hpos]
    push_cast
    rw [zpow_add₀ (by norm_num), zpow_natCast]
    exact mul_le_mul_of_nonneg_right (by exact_mod_cast hlow) (tenPow_pos e).le

/-! ### Rounding a coefficient -/

/-- Dropping digits of a coefficient is rounding the quotient. -/
theorem halfEven_div (n drop : ℕ) : halfEven ((n : ℚ) / 10 ^ drop) = divRound n drop := by
  have hcast : (n : ℚ) / 10 ^ drop = (n : ℚ) / (10 ^ drop : ℕ) := by push_cast; rfl
  have hfloor : ⌊(n : ℚ) / 10 ^ drop⌋ = (n / 10 ^ drop : ℕ) := by
    rw [hcast, Rat.floor_natCast_div_natCast]
    rfl
  have hfract : Int.fract ((n : ℚ) / 10 ^ drop) = (n % 10 ^ drop : ℕ) / (10 ^ drop : ℕ) := by
    rw [hcast, Int.fract_div_natCast_eq_div_natCast_mod]
  have hunit : (0 : ℚ) < (10 ^ drop : ℕ) := by positivity
  have hless : Int.fract ((n : ℚ) / 10 ^ drop) < 1 / 2 ↔ 2 * (n % 10 ^ drop) < 10 ^ drop := by
    rw [hfract, div_lt_div_iff₀ hunit two_pos]
    norm_cast
    rw [one_mul, mul_comm]
  have hmore : 1 / 2 < Int.fract ((n : ℚ) / 10 ^ drop) ↔ 10 ^ drop < 2 * (n % 10 ^ drop) := by
    rw [hfract, div_lt_div_iff₀ two_pos hunit]
    norm_cast
    rw [one_mul, mul_comm]
  unfold halfEven divRound
  simp only [hless, hmore, hfloor, Int.even_coe_nat, Nat.even_iff]
  split_ifs <;> push_cast <;> rfl

/-- A coefficient that is too long is cut to 28 digits. -/
theorem roundTo_long {n : ℕ} (e : ℤ) (h : prec < digitCount n) :
    roundTo prec ((n : ℚ) * 10 ^ e) =
      divRound n (digitCount n - prec) * 10 ^ (e + (digitCount n - prec : ℕ)) := by
  obtain ⟨hlow, hhigh⟩ := digitCount_spec (by decide) h
  have hlog := log_abs (e := e) hlow (by rwa [Nat.sub_add_cancel (by omega)])
  have hlast : lastExponent prec ((n : ℚ) * 10 ^ e) = e + (digitCount n - prec : ℕ) := by
    rw [lastExponent, hlog]
    omega
  have hquotient : (n : ℚ) * 10 ^ e / 10 ^ (e + (digitCount n - prec : ℕ)) =
      (n : ℚ) / 10 ^ (digitCount n - prec) := by
    rw [zpow_add₀ (by norm_num), zpow_natCast, mul_comm (n : ℚ),
      mul_div_mul_left _ _ (tenPow_pos e).ne']
  rw [roundTo, hlast, hquotient, halfEven_div]
  norm_cast

theorem divRound_le {n k : ℕ} (drop : ℕ) (h : n < 10 ^ (k + drop)) : divRound n drop ≤ 10 ^ k := by
  have hquotient : n / 10 ^ drop < 10 ^ k := by
    rw [Nat.div_lt_iff_lt_mul (Nat.pow_pos (by decide)), ← Nat.pow_add]
    exact h
  unfold divRound
  dsimp only
  split_ifs <;> omega

/-! ### Rounding a number -/

/-- The value behind a cut; a coefficient that is rounded up to a power of ten loses its last
zero. -/
theorem toRat_fix_long {d : Decimal} (h : prec < digitCount d.coeff) :
    (fix d).toRat = (if d.neg then -1 else 1) * (divRound d.coeff (digitCount d.coeff - prec) *
      10 ^ (d.exp + (digitCount d.coeff - prec : ℕ))) := by
  obtain ⟨-, hhigh⟩ := digitCount_spec (by decide) h
  have hle := divRound_le (k := prec) (digitCount d.coeff - prec)
    (by rwa [Nat.add_sub_cancel' h.le])
  unfold fix
  dsimp only
  rw [if_neg (not_le.mpr h)]
  by_cases hcut : digitCount (divRound d.coeff (digitCount d.coeff - prec)) ≤ prec
  · rw [if_pos hcut, toRat_eq, mul_assoc]
  · have heq : divRound d.coeff (digitCount d.coeff - prec) = 10 ^ prec :=
      le_antisymm hle ((lt_digitCount_iff (by decide)).mp (not_le.mp hcut))
    rw [if_neg hcut, toRat_eq, heq, mul_assoc]
    dsimp only
    rw [zpow_add_one₀ (by norm_num)]
    congr 1
    norm_num [prec]
    ring

/-- **`fix` is the rounding of the default context.** -/
theorem toRat_fix (d : Decimal) : (fix d).toRat = Context.default.round d.toRat := by
  rcases le_or_gt (digitCount d.coeff) prec with hshort | hlong
  · have hcoeff : d.coeff < 10 ^ prec := (digitCount_le_iff (by decide)).mp hshort
    have hsigned : |(if d.neg then -1 else 1) * (d.coeff : ℤ)| ≤ 10 ^ 28 := by
      have hcast : (d.coeff : ℤ) ≤ 10 ^ 28 := by exact_mod_cast hcoeff.le
      rw [abs_mul, Nat.abs_cast]
      split_ifs <;> simpa using hcast
    have hround := Context.default.round_short _ d.exp hsigned
    push_cast at hround
    rw [fix_of_lt hcoeff, toRat_eq, hround]
  · have hround : Context.default.round ((d.coeff : ℚ) * 10 ^ d.exp) = _ := roundTo_long d.exp hlong
    rw [toRat_fix_long hlong, toRat_eq, mul_assoc, ← hround]
    cases d.neg
    · simp
    · rw [if_pos rfl, neg_one_mul, neg_one_mul, Context.default.round_neg]

theorem toRat_mul (a b : Decimal) : (a.mul b).toRat = Context.default.mul a.toRat b.toRat := by
  have hproduct : (⟨a.neg != b.neg, a.coeff * b.coeff, a.exp + b.exp⟩ : Decimal).toRat =
      a.toRat * b.toRat := by
    rw [toRat_eq, toRat_eq, toRat_eq, zpow_add₀ (by norm_num)]
    push_cast
    cases a.neg <;> cases b.neg <;> simp <;> ring
  rw [mul, toRat_fix, hproduct, Context.mul]

theorem isPos_iff {d : Decimal} : d.isPos = true ↔ 0 < d.toRat := by
  have hunit := tenPow_pos d.exp
  unfold isPos
  rw [toRat_eq]
  cases d.neg
  · rw [if_neg Bool.false_ne_true, one_mul, mul_pos_iff_of_pos_right hunit]
    simp [Nat.pos_iff_ne_zero]
  · have hle : -1 * (d.coeff : ℚ) * 10 ^ d.exp ≤ 0 :=
      mul_nonpos_of_nonpos_of_nonneg (by simp) hunit.le
    rw [if_pos rfl]
    simpa using hle

end Blessing.Lib.Decimal
