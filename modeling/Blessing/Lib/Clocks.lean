import Mathlib

/-! # Clocks

The readings of a clock in seconds, as two machines keep them, and the end of a span that begins at
a reading. The bounds of the exponent of a floating-point number and of a timestamp are left out.

* `monotonic`: floating-point numbers of 53 bits, each the nearest one, ties to the even one.
* `currentTimestamp`: whole microseconds; the length of a span is a floating-point number. -/

namespace Blessing.Lib.Clocks

/-- Seconds. -/
abbrev Time := ℚ≥0

/-- A machine's readings of a clock, and its end of a span with a beginning and a length. -/
structure Clock where
  read : Time → Time
  expiry : Time → Time → Time

/-! ### Rounding -/

/-- `n / d` as an integer, ties to the even one. -/
def divEven (n d : ℕ) : ℕ :=
  let r := 2 * (n % d)
  if r < d then n / d else if d < r then n / d + 1 else n / d + n / d % 2

/-- How far to move the point of a binary number so that 53 digits stand in front of it. -/
def shiftOf (x : Time) : ℤ :=
  let n := x.num.log2
  let d := x.den.log2
  let shift : ℤ := 52 + d - n
  if x.den * 2 ^ n ≤ x.num * 2 ^ d then shift else shift + 1

/-- The nearest floating-point number. -/
def binary64 (x : Time) : Time :=
  match shiftOf x with
  | .ofNat s => divEven (x.num * 2 ^ s) x.den / 2 ^ s
  | .negSucc s => divEven x.num (x.den * 2 ^ (s + 1)) * 2 ^ (s + 1)

/-- The microseconds of a reading. -/
def microseconds (x : Time) : Time := ⌊x * 1000000⌋₊ / 1000000

/-- `x * INTERVAL '1 second'` -/
def interval (x : Time) : Time :=
  let product := binary64 (x * 1000000)
  divEven product.num product.den / 1000000

/-! ### Machines -/

/-- `time.monotonic()`, and its sums. -/
def monotonic : Clock where
  read := binary64
  expiry now length := binary64 (now + length)

/-- `CURRENT_TIMESTAMP`, and its sums with an interval. -/
def currentTimestamp : Clock where
  read := microseconds
  expiry now length := now + interval length

theorem microseconds_mono : Monotone microseconds := by
  intro x y h
  unfold microseconds
  gcongr

-- a sum above the reading it stands for, and one that is equal to it
example : monotonic.read 2054.791159 < monotonic.expiry (monotonic.read 2044.791159) 10 ∧
    currentTimestamp.expiry (currentTimestamp.read 2044.791159) 10 =
      currentTimestamp.read 2054.791159 := by decide +kernel

end Blessing.Lib.Clocks
