import Blessing.Lib.Values
import Mathlib.Data.List.DropRight

/-! # Conversions of JavaScript

What `Boolean(v)`, `String(v)` and the methods of a text do with the values `JSON.parse` gives. A
number keeps the text `String` writes for it (`numberText`). A value read from JSON is never a
function, so an object that has `toString` as a key of its own cannot be converted to a text. -/

namespace Blessing.Lib.JavaScript

open Values

/-- `Boolean(v)`: an empty array and an empty object count as true. -/
def truthy : Json → Bool
  | .arr _ | .obj _ => true
  | v => v.truthy

mutual

/-- `String(v)`, nothing where the conversion throws. -/
def text (numberText : Json → String) : Json → Option String
  | .null => some "null"
  | .bool b => some (if b then "true" else "false")
  | .int n => some (numberText (.int n))
  | .float r => some (numberText (.float r))
  | .str s => some s
  | .arr xs => (elements numberText xs).map (Text.join ",")
  | .obj kvs => if kvs.any (·.1 == "toString") then none else some "[object Object]"

/-- The texts `Array.prototype.join` puts together: a null is written as nothing. -/
def elements (numberText : Json → String) : List Json → Option (List String)
  | [] => some []
  | .null :: xs => (elements numberText xs).map ("" :: ·)
  | x :: xs => (text numberText x).bind fun t => (elements numberText xs).map (t :: ·)

end

/-- `String(v || '')` of a value that may be undefined. -/
def textOrEmpty (numberText : Json → String) : Option Json → Option String
  | none => some ""
  | some v => if truthy v then text numberText v else some ""

/-- `a || b` of two values that may be undefined. -/
def firstTruthy (a b : Option Json) : Option Json := if a.any truthy then a else b

/-- `a ?? b`. -/
def firstDefined (a b : Option Json) : Option Json :=
  match a with
  | none | some .null => b
  | some v => some v

/-- `Number(v)` where that is an integer: nothing where the conversion throws, nothing inside where
the number is another one. `numeric` reads a text. -/
def number (numberText : Json → String) (numeric : String → Option ℤ) :
    Option Json → Option (Option ℤ)
  | none => some none
  | some .null => some (some 0)
  | some (.bool b) => some (some (if b then 1 else 0))
  | some (.int n) => some (some n)
  | some (.float _) => some none
  | some (.str s) => some (numeric s)
  | some (.arr xs) => (text numberText (.arr xs)).map numeric
  | some (.obj kvs) => (text numberText (.obj kvs)).map fun _ => none

/-- The characters `String.prototype.trim` removes. -/
def isSpace (c : Char) : Bool :=
  (9 ≤ c.toNat && c.toNat ≤ 13) || c.toNat == 32 || c.toNat == 0xA0 || c.toNat == 0x1680 ||
    (0x2000 ≤ c.toNat && c.toNat ≤ 0x200A) || c.toNat == 0x2028 || c.toNat == 0x2029 ||
    c.toNat == 0x202F || c.toNat == 0x205F || c.toNat == 0x3000 || c.toNat == 0xFEFF

/-- `s.trim()`. -/
def trim (s : String) : String :=
  String.ofList (((s.toList.dropWhile isSpace).reverse.dropWhile isSpace).reverse)

/-- `s.slice(0, n)`. -/
def slice (n : ℕ) (s : String) : String := String.ofList (s.toList.take n)

/-- `s.includes(w)`. -/
def includes (s w : String) : Bool := s.toList.tails.any fun t => w.toList.isPrefixOf t

/-- `s.endsWith(w)`. -/
def endsWith (s w : String) : Bool := w.toList.isSuffixOf s.toList

theorem textOrEmpty_str (numberText : Json → String) (s : String) :
    textOrEmpty numberText (some (.str s)) = some s := by
  by_cases h : s = ""
  · simp [textOrEmpty, truthy, Json.truthy, h]
  · simp [textOrEmpty, truthy, Json.truthy, text, h]

/-- A trimmed text has nothing to trim. -/
theorem trim_trim (s : String) : trim (trim s) = trim s := by
  have htrim (s : String) :
      trim s = String.ofList ((s.toList.dropWhile isSpace).rdropWhile isSpace) := rfl
  rw [htrim (trim s), htrim s, String.toList_ofList,
    Text.dropWhile_rdropWhile (List.dropWhile_idempotent isSpace s.toList),
    List.rdropWhile_idempotent]

/-- Of two endings of one text the shorter one is an ending of the other. -/
theorem endsWith_append {s w v : String} (h : endsWith (s ++ w) v) :
    w.toList.isSuffixOf v.toList ∨ v.toList.isSuffixOf w.toList := by
  rw [endsWith, String.toList_append, List.isSuffixOf_iff_suffix] at h
  rw [List.isSuffixOf_iff_suffix, List.isSuffixOf_iff_suffix]
  exact List.suffix_or_suffix_of_suffix (List.suffix_append _ _) h

end Blessing.Lib.JavaScript
