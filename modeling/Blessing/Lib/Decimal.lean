import Blessing.Lib.Text
import Mathlib.Data.Rat.Defs
import Mathlib.Data.Nat.Digits.Defs
import Mathlib.Algebra.Order.Ring.Rat

/-! # Decimal numbers

`decimal.Decimal` with the default context: 28 significant digits, ties to the even digit. A finite
number is a sign, a coefficient and an exponent, so that `str` can print it as it was written;
numbers are compared by their value. The bounds of the exponent are left out. `int` reads what
`Decimal` reads of an integer, but for its white space and its underscores. -/

namespace Blessing.Lib

open Blessing.Lib.Text

/-- A finite number: `coeff * 10 ^ exp` with a sign. -/
structure Decimal where
  neg : Bool
  coeff : ℕ
  exp : ℤ
  deriving DecidableEq, Repr

/-- What `Decimal(text)` can be. -/
inductive Decimal.Number where
  | finite (d : Decimal)
  | inf (neg : Bool)
  | nan
  deriving DecidableEq, Repr

namespace Decimal

/-- The precision of the context. -/
def prec : ℕ := 28

/-- The value. -/
def toRat (d : Decimal) : ℚ :=
  let magnitude : ℚ :=
    match d.exp with
    | .ofNat e => (d.coeff * 10 ^ e : ℕ)
    | .negSucc e => mkRat d.coeff (10 ^ (e + 1))
  if d.neg then -magnitude else magnitude

/-- The integer as a number. -/
def ofNat (n : ℕ) : Decimal := ⟨false, n, 0⟩

/-- The number of digits of a coefficient; zero has one. -/
def digitCount (n : ℕ) : ℕ := (toString n).length

/-- `n / 10 ^ drop`, ties to the even digit. -/
def divRound (n drop : ℕ) : ℕ :=
  let q := n / 10 ^ drop
  let r := 2 * (n % 10 ^ drop)
  if r < 10 ^ drop then q
  else if 10 ^ drop < r then q + 1
  else if q % 2 = 0 then q else q + 1

/-- `_fix`: at most `prec` digits. -/
def fix (d : Decimal) : Decimal :=
  let digits := digitCount d.coeff
  if digits ≤ prec then d
  else
    let drop := digits - prec
    let coeff := divRound d.coeff drop
    if digitCount coeff ≤ prec then ⟨d.neg, coeff, d.exp + drop⟩
    else ⟨d.neg, coeff / 10, d.exp + drop + 1⟩

/-- The signed coefficient at a smaller exponent. -/
def scaled (d : Decimal) (exp : ℤ) : ℤ :=
  let n : ℤ := d.coeff * 10 ^ (d.exp - exp).toNat
  if d.neg then -n else n

/-- `a + b`. A zero sum is negative only if both summands are. -/
def add (a b : Decimal) : Decimal :=
  let exp := min a.exp b.exp
  let n := a.scaled exp + b.scaled exp
  fix ⟨if n = 0 then a.neg && b.neg else n < 0, n.natAbs, exp⟩

/-- `abs(a)` -/
def abs (a : Decimal) : Decimal := fix { a with neg := false }

/-- `a * b` -/
def mul (a b : Decimal) : Decimal := fix ⟨a.neg != b.neg, a.coeff * b.coeff, a.exp + b.exp⟩

/-- The coefficient without trailing zeros, up to an exponent. -/
def trim (ideal : ℤ) : ℕ → Decimal → Decimal
  | 0, d => d
  | fuel + 1, d =>
    if d.exp < ideal && d.coeff % 10 == 0 then
      trim ideal fuel { d with coeff := d.coeff / 10, exp := d.exp + 1 }
    else d

/-- `a / b`; nothing where the division raises. -/
def div (a b : Decimal) : Option Decimal :=
  if b.coeff = 0 then none
  else
    let neg := a.neg != b.neg
    if a.coeff = 0 then some (fix ⟨neg, 0, a.exp - b.exp⟩)
    else
      let shift : ℤ := digitCount b.coeff - digitCount a.coeff + prec + 1
      let exp := a.exp - b.exp - shift
      let n := if 0 ≤ shift then a.coeff * 10 ^ shift.toNat else a.coeff
      let m := if 0 ≤ shift then b.coeff else b.coeff * 10 ^ (-shift).toNat
      let q := n / m
      if n % m ≠ 0 then some (fix ⟨neg, if q % 5 = 0 then q + 1 else q, exp⟩)
      else some (fix (trim (a.exp - b.exp) (digitCount q) ⟨neg, q, exp⟩))

/-- `a == b` -/
def eqv (a b : Decimal) : Bool := a.toRat == b.toRat

/-- `a < b` -/
def lt (a b : Decimal) : Bool := a.toRat < b.toRat

/-- `a == 0` -/
def isZero (a : Decimal) : Bool := a.coeff == 0

/-- `0 < a` -/
def isPos (a : Decimal) : Bool := a.coeff != 0 && !a.neg

/-- `a < 0` -/
def isNeg (a : Decimal) : Bool := a.coeff != 0 && a.neg

/-- `sum(xs, Decimal("0"))` -/
def sum (xs : List Decimal) : Decimal := xs.foldl add (ofNat 0)

/-- `str(a)` -/
def toStr (d : Decimal) : String :=
  let digits := toString d.coeff
  let left : ℤ := d.exp + digits.length
  let dot : ℤ := if d.exp ≤ 0 && -6 < left then left else 1
  let zeros (n : ℕ) : List Char := List.replicate n '0'
  let body : List Char :=
    if dot ≤ 0 then '0' :: '.' :: zeros (-dot).toNat ++ digits.toList
    else if digits.length ≤ dot then digits.toList ++ zeros (dot - digits.length).toNat
    else digits.toList.take dot.toNat ++ '.' :: digits.toList.drop dot.toNat
  let power : List Char :=
    if left = dot then []
    else 'E' :: (if 0 ≤ left - dot then ['+'] else []) ++ (toString (left - dot)).toList
  String.ofList ((if d.neg then ['-'] else []) ++ body ++ power)

/-! ### Reading -/

/-- The digits at the front of a text and the rest. -/
def spanDigits (cs : List Char) : List Char × List Char := cs.span Char.isDigit

/-- The number a row of digits denotes. -/
def digitsValue (cs : List Char) : ℕ := cs.foldl (fun n c => 10 * n + (c.toNat - 48)) 0

/-- An exponent: a sign and digits to the end of the text. -/
def readExponent : List Char → Option ℤ
  | '+' :: cs => if !cs.isEmpty && cs.all Char.isDigit then some (digitsValue cs) else none
  | '-' :: cs => if !cs.isEmpty && cs.all Char.isDigit then some (-(digitsValue cs : ℤ)) else none
  | cs => if !cs.isEmpty && cs.all Char.isDigit then some (digitsValue cs) else none

/-- The part behind the sign. -/
def readUnsigned (neg : Bool) (cs : List Char) : Option Number :=
  let word := String.ofList (cs.map Char.toLower)
  if word = "inf" || word = "infinity" then some (.inf neg)
  else if ("nan".toList.isPrefixOf word.toList && (word.toList.drop 3).all Char.isDigit) ||
      ("snan".toList.isPrefixOf word.toList && (word.toList.drop 4).all Char.isDigit) then some .nan
  else
    let (whole, rest) := spanDigits cs
    let (frac, rest) := match rest with
      | '.' :: rest => spanDigits rest
      | rest => ([], rest)
    if whole.isEmpty && frac.isEmpty then none
    else
      let exponent : Option ℤ := match rest with
        | [] => some 0
        | 'e' :: rest => readExponent rest
        | 'E' :: rest => readExponent rest
        | _ => none
      exponent.map fun e => .finite ⟨neg, digitsValue (whole ++ frac), e - frac.length⟩

/-- A character as `Decimal` and `int` read it: a decimal digit is one of ASCII and white space
outside ASCII a blank; nothing else outside ASCII can be part of a number. -/
def numeric (c : Char) : Option Char :=
  if c.toNat < 128 then some c
  else if isSpace c then some ' '
  else (Unicode.digit c).map fun n => Char.ofNat (48 + n)

/-- `Decimal(text)`; nothing where it raises `InvalidOperation`. -/
def ofText (text : String) : Option Number :=
  match ((strip text).toList.filter (· != '_')).mapM numeric with
  | none => none
  | some ('+' :: cs) => readUnsigned false cs
  | some ('-' :: cs) => readUnsigned true cs
  | some cs => readUnsigned false cs

/-- The white space around the digits of `int`. -/
def isBlank (c : Char) : Bool := (9 ≤ c.toNat && c.toNat ≤ 13) || c == ' '

/-- Digits, with single underscores between them. -/
def groupedDigits : List Char → Option (List Char)
  | [] => none
  | [c] => if c.isDigit then some [c] else none
  | c :: '_' :: cs => if c.isDigit then (groupedDigits cs).map (c :: ·) else none
  | c :: d :: cs => if c.isDigit then (groupedDigits (d :: cs)).map (c :: ·) else none

/-- The digits `int` takes: more of them raise. -/
def maxStrDigits : ℕ := 4300

/-- An integer without its sign. -/
def readInt (cs : List Char) : Option ℕ :=
  (groupedDigits cs).bind fun ds =>
    if ds.length ≤ maxStrDigits then some (digitsValue ds) else none

/-- `int(text)`; nothing where it raises. -/
def intOfText (text : String) : Option ℤ :=
  match (text.toList.mapM numeric).map fun cs => (cs.dropWhile isBlank).rdropWhile isBlank with
  | none => none
  | some ('+' :: cs) => (readInt cs).map fun n => (n : ℤ)
  | some ('-' :: cs) => (readInt cs).map fun n => -(n : ℤ)
  | some cs => (readInt cs).map fun n => (n : ℤ)

/-- `is_finite` -/
def Number.finite? : Number → Option Decimal
  | .finite d => some d
  | _ => none

example : ["-2010", "-2010_", "1_0", "－1", "-２０１０", " 7\u00a0"].map intOfText =
    [some (-2010), none, some 10, none, some (-2010), some 7] := by decide +kernel

example : (ofText " -12.50 ").bind Number.finite? = some ⟨true, 1250, -2⟩ := by decide

example : (Decimal.add ⟨false, 15, -1⟩ ⟨false, 25, -2⟩).toStr = "1.75" := by decide +kernel

end Decimal

end Blessing.Lib
