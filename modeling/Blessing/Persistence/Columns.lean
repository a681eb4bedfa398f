import Blessing.Lib.ExactSum
import Blessing.Persistence.Tables
import Mathlib.Data.Rat.Lemmas
import Mathlib.Tactic.FieldSimp
import Mathlib.Tactic.Ring

/-! # What a column keeps

A text is kept if it fits its column, an amount if it has at most ten decimal places. -/

namespace Blessing.Persistence.Columns

open Blessing.Lib Blessing.Persistence.Tables

/-! ### Texts -/

/-- A text as a column `VARCHAR(n)` holds it. -/
def cut (n : ℕ) (s : String) : String := String.ofList (s.toList.take n)

theorem varchar_ok {n : ℕ} {column s t : String} (h : varchar n column s = .ok t) :
    t = cut n s ∧ t.length ≤ n := by
  unfold varchar at h
  split_ifs at h with hle hspace
  · cases h
    refine ⟨?_, hle⟩
    rw [cut, List.take_of_length_le (by simpa [String.length_toList] using hle),
      String.ofList_toList]
  · cases h
    exact ⟨rfl, by simp⟩

theorem cut_of_le {n : ℕ} {s : String} (h : s.length ≤ n) : cut n s = s := by
  rw [cut, List.take_of_length_le (by simpa [String.length_toList] using h), String.ofList_toList]

/-! ### Amounts -/

/-- At most ten decimal places. -/
def TenPlaces (d : Decimal) : Prop := (d.toRat * 10 ^ 10).den = 1

instance (d : Decimal) : Decidable (TenPlaces d) := inferInstanceAs (Decidable (_ = 1))

/-- An amount as a column holds it. -/
def rounded (d : Decimal) : Decimal := ⟨d.neg && atScale 10 d != 0, atScale 10 d, -10⟩

theorem amount_ok {column : String} {d d' : Decimal} (h : amount column d = .ok d') :
    d' = rounded d := by
  unfold amount numeric at h
  simp only at h
  split_ifs at h
  cases h
  rfl

theorem rounded_toRat (d : Decimal) :
    (rounded d).toRat * 10 ^ 10 = (if d.neg then -1 else 1) * (atScale 10 d : ℚ) := by
  rw [Decimal.toRat_eq, rounded]
  by_cases hzero : atScale 10 d = 0
  · simp [hzero]
  · cases hneg : d.neg <;> simp [hzero]

theorem tenPlaces_rounded (d : Decimal) : TenPlaces (rounded d) := by
  rw [TenPlaces, rounded_toRat]
  cases d.neg <;> simp

theorem toRat_scaled (d : Decimal) :
    d.toRat * 10 ^ 10 = (if d.neg then -1 else 1) * (d.coeff : ℚ) * (10 : ℚ) ^ (d.exp + 10) := by
  rw [Decimal.toRat_eq, mul_assoc, zpow_add₀ (by norm_num)]
  norm_cast

/-- An exponent below the scale: with ten decimal places the coefficient ends in zeros. -/
theorem dvd_of_tenPlaces {d : Decimal} {k : ℕ} (hk : d.exp + 10 = -(k : ℤ)) (h : TenPlaces d) :
    10 ^ k ∣ d.coeff := by
  rw [TenPlaces, toRat_scaled, hk, zpow_neg, zpow_natCast] at h
  have hpow : (10 : ℚ) ^ k ≠ 0 := by positivity
  have hnum := Rat.coe_int_num_of_den_eq_one h
  generalize ((if d.neg then -1 else 1 : ℚ) * d.coeff * (10 ^ k)⁻¹).num = z at hnum
  have hcoeff : (d.coeff : ℤ) = (if d.neg then -1 else 1) * z * 10 ^ k := by
    have hq : (d.coeff : ℚ) = (if d.neg then -1 else 1) * z * 10 ^ k := by
      rw [hnum]
      cases d.neg <;> field_simp <;> simp
    cases hneg : d.neg <;> simp only [hneg, Bool.false_eq_true, if_true, if_false] at hq ⊢ <;>
      exact_mod_cast hq
  have hdvd : ((10 ^ k : ℕ) : ℤ) ∣ (d.coeff : ℤ) := ⟨(if d.neg then -1 else 1) * z, by
    rw [hcoeff]
    push_cast
    ring⟩
  exact Int.natCast_dvd_natCast.mp hdvd

theorem rounded_of_tenPlaces {d : Decimal} (h : TenPlaces d) : (rounded d).toRat = d.toRat := by
  have hne : (10 : ℚ) ^ 10 ≠ 0 := by norm_num
  refine mul_right_cancel₀ hne ?_
  rw [rounded_toRat, toRat_scaled, mul_assoc]
  congr 1
  by_cases hexp : 0 ≤ d.exp + 10
  · obtain ⟨k, hk⟩ := Int.eq_ofNat_of_zero_le hexp
    have hscale : atScale 10 d = d.coeff * 10 ^ k := by simp [atScale, hk]
    rw [hscale, hk]
    push_cast
    rw [zpow_natCast]
  · obtain ⟨k, hk⟩ := Int.eq_ofNat_of_zero_le (a := -(d.exp + 10)) (by omega)
    have hneg : d.exp + 10 = -(k : ℤ) := by omega
    obtain ⟨q, hq⟩ := dvd_of_tenPlaces hneg h
    have hscale : atScale 10 d = q := by
      have hpos : 0 < 10 ^ k := by positivity
      have hcoeff : 2 * d.coeff + 10 ^ k = 10 ^ k + 2 * 10 ^ k * q := by rw [hq]; ring
      unfold atScale
      simp only [Nat.cast_ofNat, if_neg hexp, hk, Int.toNat_natCast]
      rw [hcoeff, Nat.add_mul_div_left _ _ (by omega), Nat.div_eq_of_lt (by omega), Nat.zero_add]
    rw [hscale, hneg, hq, zpow_neg, zpow_natCast]
    push_cast
    field_simp

end Blessing.Persistence.Columns
