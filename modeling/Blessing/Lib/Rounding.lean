import Mathlib.Algebra.BigOperators.Group.List.Basic
import Mathlib.Algebra.Order.Floor.Ring
import Mathlib.Algebra.Order.Group.Unbundled.Int
import Mathlib.Data.Int.ConditionallyCompleteOrder
import Mathlib.Data.Int.Log
import Mathlib.Data.Rat.Floor
import Mathlib.Tactic.FieldSimp
import Mathlib.Tactic.Linarith
import Mathlib.Tactic.Order
import Mathlib.Tactic.Positivity

/-! # Rounding contexts

A decimal context computes the exact result of an operation and rounds it. What is proved of a
program for every context holds in exact arithmetic and in the default one of 28 digits, ties to the
even digit. A number is *fixed* if the context leaves it as it is; results of operations are.

* `Context.exact`: no rounding.
* `Context.digits p`: `p` significant digits, ties to the even digit. -/

namespace Blessing.Lib.Rounding

/-- An arithmetic with at least 28 significant digits. -/
structure Context where
  round : ℚ → ℚ
  mono : Monotone round
  round_neg : ∀ x, round (-x) = -round x
  round_round : ∀ x, round (round x) = round x
  /-- a number of at most 28 digits stands as it is -/
  round_short : ∀ (n e : ℤ), |n| ≤ 10 ^ 28 → round (n * 10 ^ e) = n * 10 ^ e

namespace Context

/-! ### Operations -/

section

variable (c : Context)

/-- `a + b` -/
def add (a b : ℚ) : ℚ := c.round (a + b)

/-- `a - b` -/
def sub (a b : ℚ) : ℚ := c.round (a - b)

/-- `a * b` -/
def mul (a b : ℚ) : ℚ := c.round (a * b)

/-- `a / b` -/
def div (a b : ℚ) : ℚ := c.round (a / b)

/-- `-a` -/
def minus (a : ℚ) : ℚ := c.round (-a)

/-- `abs(a)` -/
def magnitude (a : ℚ) : ℚ := c.round |a|

/-- `sum(xs, Decimal("0"))` -/
def sum (xs : List ℚ) : ℚ := xs.foldl c.add 0

/-- The context leaves the number as it is. -/
def Fixed (a : ℚ) : Prop := c.round a = a

end

variable {c : Context} {a b : ℚ}

theorem fixed_round (a : ℚ) : c.Fixed (c.round a) := c.round_round a

theorem fixed_zero : c.Fixed 0 := by
  have h := c.round_neg 0
  rw [neg_zero] at h
  unfold Fixed
  linarith

theorem Fixed.neg (h : c.Fixed a) : c.Fixed (-a) := by
  unfold Fixed at *
  rw [c.round_neg, h]

theorem Fixed.abs (h : c.Fixed a) : c.Fixed |a| := by
  rcases abs_choice a with ha | ha
  · rwa [ha]
  · rw [ha]
    exact h.neg

theorem fixed_short (n e : ℤ) (h : |n| ≤ 10 ^ 28) : c.Fixed (n * 10 ^ e) := c.round_short n e h

theorem fixed_sum (xs : List ℚ) : c.Fixed (c.sum xs) := by
  rw [sum]
  cases xs using List.reverseRecOn with
  | nil => exact fixed_zero
  | append_singleton xs x =>
    rw [List.foldl_append]
    exact fixed_round _

/-- Rounding does not cross a fixed number from below. -/
theorem round_le (hb : c.Fixed b) (h : a ≤ b) : c.round a ≤ b := hb ▸ c.mono h

/-- Rounding does not cross a fixed number from above. -/
theorem le_round (hb : c.Fixed b) (h : b ≤ a) : b ≤ c.round a := by
  have hmono := c.mono h
  rwa [hb] at hmono

theorem round_nonneg (h : 0 ≤ a) : 0 ≤ c.round a := le_round fixed_zero h

theorem round_nonpos (h : a ≤ 0) : c.round a ≤ 0 := round_le fixed_zero h

theorem abs_round (a : ℚ) : |c.round a| = c.round |a| := by
  rcases le_total 0 a with h | h
  · rw [abs_of_nonneg h, abs_of_nonneg (round_nonneg h)]
  · rw [abs_of_nonpos h, abs_of_nonpos (round_nonpos h), c.round_neg]

theorem magnitude_eq (h : c.Fixed a) : c.magnitude a = |a| := h.abs

theorem minus_eq (h : c.Fixed a) : c.minus a = -a := h.neg

/-! ### Exact arithmetic -/

/-- No rounding. -/
def exact : Context where
  round a := a
  mono := monotone_id
  round_neg _ := rfl
  round_round _ := rfl
  round_short _ _ _ := rfl

@[simp] theorem exact_round (a : ℚ) : exact.round a = a := rfl
@[simp] theorem exact_add (a b : ℚ) : exact.add a b = a + b := rfl
@[simp] theorem exact_sub (a b : ℚ) : exact.sub a b = a - b := rfl
@[simp] theorem exact_mul (a b : ℚ) : exact.mul a b = a * b := rfl
@[simp] theorem exact_div (a b : ℚ) : exact.div a b = a / b := rfl
@[simp] theorem exact_minus (a : ℚ) : exact.minus a = -a := rfl
@[simp] theorem exact_magnitude (a : ℚ) : exact.magnitude a = |a| := rfl

theorem exact_fixed (a : ℚ) : exact.Fixed a := rfl

@[simp] theorem exact_sum (xs : List ℚ) : exact.sum xs = xs.sum := by
  rw [sum, List.sum_eq_foldl]
  rfl

end Context

/-! ### Ties to even -/

/-- The nearest integer, the even one of two. -/
def halfEven (x : ℚ) : ℤ :=
  if Int.fract x < 1 / 2 then ⌊x⌋
  else if 1 / 2 < Int.fract x then ⌊x⌋ + 1
  else if Even ⌊x⌋ then ⌊x⌋ else ⌊x⌋ + 1

theorem floor_le_halfEven (x : ℚ) : ⌊x⌋ ≤ halfEven x := by
  unfold halfEven
  split_ifs <;> omega

theorem halfEven_le (x : ℚ) : halfEven x ≤ ⌊x⌋ + 1 := by
  unfold halfEven
  split_ifs <;> omega

@[simp] theorem halfEven_intCast (n : ℤ) : halfEven n = n := by simp [halfEven]

theorem halfEven_mono : Monotone halfEven := by
  intro x y h
  rcases Int.lt_or_eq_of_le (Int.floor_mono h) with hlt | heq
  · have hx := halfEven_le x
    have hy := floor_le_halfEven y
    omega
  · have hfract : Int.fract x ≤ Int.fract y := by
      rw [Int.fract, Int.fract, heq]
      exact sub_le_sub_right h _
    unfold halfEven
    rw [heq]
    split_ifs <;> first | omega | order

theorem halfEven_neg (x : ℚ) : halfEven (-x) = -halfEven x := by
  by_cases hint : Int.fract x = 0
  · have hx : x = (⌊x⌋ : ℤ) := by
      have := Int.self_sub_floor x
      linarith
    rw [hx]
    have hneg : -((⌊x⌋ : ℤ) : ℚ) = ((-⌊x⌋ : ℤ) : ℚ) := by push_cast; ring
    rw [hneg, halfEven_intCast, halfEven_intCast]
  · have hfract : Int.fract (-x) = 1 - Int.fract x := Int.fract_neg hint
    have hfloor : ⌊-x⌋ = -⌊x⌋ - 1 := by
      have h1 := Int.self_sub_floor x
      have h2 := Int.self_sub_floor (-x)
      have : ((⌊-x⌋ : ℤ) : ℚ) = ((-⌊x⌋ - 1 : ℤ) : ℚ) := by
        push_cast
        linarith
      exact_mod_cast this
    have heven : Even (-⌊x⌋ - 1) ↔ ¬ Even ⌊x⌋ := by
      rw [Int.even_sub, even_neg]
      simp
    unfold halfEven
    rw [hfract, hfloor]
    simp only [heven]
    split_ifs <;> first | omega | (exfalso; linarith)

/-! ### Significant digits -/

/-- The exponent of the last of `p` digits. -/
def lastExponent (p : ℕ) (x : ℚ) : ℤ := Int.log 10 |x| + 1 - p

/-- `p` significant digits, ties to even. -/
def roundTo (p : ℕ) (x : ℚ) : ℚ := halfEven (x / 10 ^ lastExponent p x) * 10 ^ lastExponent p x

variable {p : ℕ} {x y : ℚ}

theorem lastExponent_neg (x : ℚ) : lastExponent p (-x) = lastExponent p x := by
  rw [lastExponent, lastExponent, abs_neg]

theorem roundTo_neg (x : ℚ) : roundTo p (-x) = -roundTo p x := by
  rw [roundTo, roundTo, lastExponent_neg, neg_div, halfEven_neg]
  push_cast
  ring

theorem tenPow_pos (e : ℤ) : (0 : ℚ) < 10 ^ e := zpow_pos (by norm_num) e

theorem tenPow_natCast (n : ℕ) : (((10 : ℤ) ^ n : ℤ) : ℚ) = 10 ^ (n : ℤ) := by
  rw [zpow_natCast]
  push_cast
  rfl

theorem roundTo_eq (n : ℤ) (h : x = n * 10 ^ lastExponent p x) : roundTo p x = x := by
  have hdiv : x / 10 ^ lastExponent p x = n := by
    rw [div_eq_iff (tenPow_pos _).ne']
    exact h
  rw [roundTo, hdiv, halfEven_intCast, ← h]

/-- The halves round into any interval of integers that holds the number. -/
theorem abs_halfEven_le {m : ℤ} (h : |x| ≤ m) : |halfEven x| ≤ m := by
  obtain ⟨hlow, hhigh⟩ := abs_le.mp h
  have hm := halfEven_intCast m
  rw [abs_le]
  constructor
  · have hmono := halfEven_mono hlow
    rwa [halfEven_neg, hm] at hmono
  · have hmono := halfEven_mono hhigh
    rwa [hm] at hmono

/-- A number lies in the decade of its exponent. -/
theorem abs_div_unit (hx : x ≠ 0) : 10 ^ ((p : ℤ) - 1) ≤ |x| / 10 ^ lastExponent p x ∧
    |x| / 10 ^ lastExponent p x < 10 ^ (p : ℤ) := by
  have hpos := abs_pos.mpr hx
  have hlow := Int.zpow_log_le_self (b := 10) (by norm_num) hpos
  have hhigh := Int.lt_zpow_succ_log_self (b := 10) (by norm_num) |x|
  push_cast at hlow hhigh
  rw [le_div_iff₀ (tenPow_pos _), div_lt_iff₀ (tenPow_pos _), ← zpow_add₀ (by norm_num),
    ← zpow_add₀ (by norm_num)]
  have hlast : (p : ℤ) + lastExponent p x = Int.log 10 |x| + 1 := by rw [lastExponent]; ring
  have hfirst : (p : ℤ) - 1 + lastExponent p x = Int.log 10 |x| := by rw [lastExponent]; ring
  rw [hlast, hfirst]
  exact ⟨hlow, hhigh⟩

theorem roundTo_short (hp : 1 ≤ p) {n : ℤ} (e : ℤ) (hn : |n| ≤ 10 ^ p) :
    roundTo p (n * 10 ^ e) = n * 10 ^ e := by
  by_cases hzero : n = 0
  · simp [hzero, roundTo, show halfEven 0 = 0 from halfEven_intCast 0]
  set u := lastExponent p ((n : ℚ) * 10 ^ e) with hu
  have hx : (n : ℚ) * 10 ^ e ≠ 0 := mul_ne_zero (by exact_mod_cast hzero) (tenPow_pos e).ne'
  have hcast : |(n : ℚ)| ≤ 10 ^ (p : ℤ) := by
    rw [zpow_natCast]
    exact_mod_cast hn
  have habs : |(n : ℚ) * 10 ^ e| = |(n : ℚ)| * 10 ^ e := by rw [abs_mul, abs_of_pos (tenPow_pos e)]
  rcases le_or_gt u e with hle | hgt
  · -- the unit divides the power of the number
    refine roundTo_eq (n * 10 ^ (e - u).toNat) ?_
    have hsplit : (10 : ℚ) ^ e = 10 ^ (e - u).toNat * 10 ^ u := by
      rw [← zpow_natCast, ← zpow_add₀ (by norm_num)]
      congr 1
      omega
    push_cast
    rw [← hu, hsplit]
    ring
  · -- the number is a power of ten, one digit longer
    have hunit := (abs_div_unit (p := p) hx).1
    rw [habs, le_div_iff₀ (tenPow_pos _), ← hu, ← zpow_add₀ (by norm_num)] at hunit
    have hpow : (10 : ℚ) ^ ((p : ℤ) + e) ≤ 10 ^ ((p : ℤ) - 1 + u) :=
      zpow_le_zpow_right₀ (by norm_num) (by omega)
    have hge : (10 : ℚ) ^ (p : ℤ) * 10 ^ e ≤ |(n : ℚ)| * 10 ^ e := by
      rw [← zpow_add₀ (by norm_num)]
      exact hpow.trans hunit
    have habsn : |(n : ℚ)| = 10 ^ (p : ℤ) :=
      le_antisymm hcast (le_of_mul_le_mul_right hge (tenPow_pos e))
    have hu' : u = e + 1 := by
      have hle : (10 : ℚ) ^ ((p : ℤ) - 1 + u) ≤ 10 ^ ((p : ℤ) + e) := by
        rw [zpow_add₀ (by norm_num) (p : ℤ) e, ← habsn]
        exact hunit
      have := (zpow_le_zpow_iff_right₀ (by norm_num : (1 : ℚ) < 10)).mp hle
      omega
    have hsplit : (10 : ℚ) ^ (p : ℤ) * 10 ^ e = 10 ^ (p - 1) * 10 ^ (e + 1) := by
      rw [← zpow_natCast (10 : ℚ) (p - 1), ← zpow_add₀ (by norm_num), ← zpow_add₀ (by norm_num)]
      congr 1
      omega
    rcases abs_eq_abs.mp (habsn.trans (abs_of_pos (tenPow_pos _)).symm) with hpos | hneg
    · refine roundTo_eq (10 ^ (p - 1)) ?_
      rw [← hu, hu', hpos, hsplit]
      push_cast
      rfl
    · refine roundTo_eq (-10 ^ (p - 1)) ?_
      rw [← hu, hu', hneg, neg_mul, hsplit]
      push_cast
      ring

theorem abs_digits_le (x : ℚ) : |halfEven (x / 10 ^ lastExponent p x)| ≤ 10 ^ p := by
  refine abs_halfEven_le ?_
  rw [tenPow_natCast]
  by_cases hx : x = 0
  · simp [hx]
  · rw [abs_div, abs_of_pos (tenPow_pos _)]
    exact (abs_div_unit hx).2.le

theorem roundTo_roundTo (hp : 1 ≤ p) (x : ℚ) : roundTo p (roundTo p x) = roundTo p x := by
  rw [roundTo.eq_def p x]
  exact roundTo_short hp _ (abs_digits_le x)

theorem roundTo_bounds (hp : 1 ≤ p) (hx : 0 < x) :
    10 ^ Int.log 10 x ≤ roundTo p x ∧ roundTo p x ≤ 10 ^ (Int.log 10 x + 1) := by
  obtain ⟨hlow, hhigh⟩ := abs_div_unit (p := p) hx.ne'
  rw [abs_of_pos hx] at hlow hhigh
  have hlowInt : (((10 : ℤ) ^ (p - 1) : ℤ) : ℚ) ≤ x / 10 ^ lastExponent p x := by
    rw [tenPow_natCast]
    refine le_trans (le_of_eq ?_) hlow
    congr 1
    omega
  have hhighInt : x / 10 ^ lastExponent p x ≤ (((10 : ℤ) ^ p : ℤ) : ℚ) := by
    rw [tenPow_natCast]
    exact hhigh.le
  have hdown := halfEven_mono hlowInt
  have hup := halfEven_mono hhighInt
  rw [halfEven_intCast] at hdown hup
  have hlast : lastExponent p x = Int.log 10 x + 1 - p := by rw [lastExponent, abs_of_pos hx]
  constructor
  · calc (10 : ℚ) ^ Int.log 10 x = ((10 ^ (p - 1) : ℤ) : ℚ) * 10 ^ lastExponent p x := by
          rw [tenPow_natCast, ← zpow_add₀ (by norm_num), hlast]
          congr 1
          omega
      _ ≤ roundTo p x := mul_le_mul_of_nonneg_right (by exact_mod_cast hdown) (tenPow_pos _).le
  · calc roundTo p x ≤ ((10 ^ p : ℤ) : ℚ) * 10 ^ lastExponent p x :=
          mul_le_mul_of_nonneg_right (by exact_mod_cast hup) (tenPow_pos _).le
      _ = 10 ^ (Int.log 10 x + 1) := by
          rw [tenPow_natCast, ← zpow_add₀ (by norm_num), hlast]
          congr 1
          omega

theorem roundTo_mono_pos (hp : 1 ≤ p) (hx : 0 < x) (h : x ≤ y) : roundTo p x ≤ roundTo p y := by
  have hy := hx.trans_le h
  rcases (Int.log_mono_right (b := 10) hx h).lt_or_eq with hlt | heq
  · calc roundTo p x ≤ 10 ^ (Int.log 10 x + 1) := (roundTo_bounds hp hx).2
      _ ≤ 10 ^ Int.log 10 y := zpow_le_zpow_right₀ (by norm_num) (by omega)
      _ ≤ roundTo p y := (roundTo_bounds hp hy).1
  · have hlast : lastExponent p x = lastExponent p y := by
      rw [lastExponent, lastExponent, abs_of_pos hx, abs_of_pos hy, heq]
    rw [roundTo, roundTo, hlast]
    refine mul_le_mul_of_nonneg_right ?_ (tenPow_pos _).le
    exact_mod_cast halfEven_mono (div_le_div_of_nonneg_right h (tenPow_pos _).le)

theorem roundTo_nonneg (hp : 1 ≤ p) (hx : 0 ≤ x) : 0 ≤ roundTo p x := by
  rcases hx.lt_or_eq with hpos | rfl
  · exact (tenPow_pos _).le.trans (roundTo_bounds hp hpos).1
  · simp [roundTo, show halfEven 0 = 0 from halfEven_intCast 0]

theorem roundTo_mono (hp : 1 ≤ p) : Monotone (roundTo p) := by
  intro x y h
  rcases lt_or_ge 0 x with hx | hx
  · exact roundTo_mono_pos hp hx h
  · rcases lt_or_ge y 0 with hy | hy
    · have hneg := roundTo_mono_pos hp (neg_pos.mpr hy) (neg_le_neg h)
      rwa [roundTo_neg, roundTo_neg, neg_le_neg_iff] at hneg
    · have hnonpos := roundTo_nonneg hp (neg_nonneg.mpr hx)
      rw [roundTo_neg, neg_nonneg] at hnonpos
      exact hnonpos.trans (roundTo_nonneg hp hy)

/-- A context of `p` significant digits. -/
def Context.digits (p : ℕ) (hp : 28 ≤ p) : Context where
  round := roundTo p
  mono := roundTo_mono (by omega)
  round_neg := roundTo_neg
  round_round := roundTo_roundTo (by omega)
  round_short n e hn := roundTo_short (by omega) e (hn.trans (pow_le_pow_right₀ (by norm_num) hp))

/-- The default context, without its range of exponents (-999999 to 999999). -/
def Context.default : Context := .digits 28 le_rfl

end Blessing.Lib.Rounding
