import Blessing.Lib.Unicode
import Mathlib.Data.List.DropRight
import Mathlib.Data.String.Basic

/-! # Text operations of the interpreter

The string operations the modelled programs call, as functions on lists of characters and lifted to
`String`. White space is the interpreter's own set (`str.isspace`), case conversion that of
Unicode. -/

namespace Blessing.Lib.Text

open Blessing.Lib.Unicode

/-- The characters `str.strip` removes and the class `\s` matches. -/
def isSpace (c : Char) : Bool :=
  (9 ≤ c.toNat && c.toNat ≤ 13) || (28 ≤ c.toNat && c.toNat ≤ 32) || c.toNat == 0x85 ||
    c.toNat == 0xA0 || c.toNat == 0x1680 || (0x2000 ≤ c.toNat && c.toNat ≤ 0x200A) ||
    c.toNat == 0x2028 || c.toNat == 0x2029 || c.toNat == 0x202F || c.toNat == 0x205F ||
    c.toNat == 0x3000

/-- `str.strip` on characters. -/
def stripChars (cs : List Char) : List Char :=
  ((cs.dropWhile isSpace).reverse.dropWhile isSpace).reverse

/-- `str.strip`. -/
def strip (s : String) : String := String.ofList (stripChars s.toList)

/-- `str.upper`. -/
def upper (s : String) : String := String.ofList (upperTable.chars s.toList)

/-- `str.lower`. -/
def lower (s : String) : String := String.ofList (lowerTable.chars s.toList)

/-- Every character is in ASCII: `str.isascii`. -/
def isAscii (s : String) : Bool := s.toList.all fun c => c.toNat < 128

/-- The part of `cs` in front of the first occurrence of `w`: `text.split(w, 1)[0]`. -/
def beforeFirst (w : List Char) : List Char → List Char
  | [] => []
  | c :: cs => if w.isPrefixOf (c :: cs) then [] else c :: beforeFirst w cs

/-- `a + b + …`: the texts joined by a separator. -/
def join (sep : String) (xs : List String) : String := sep.intercalate xs

/-- The member of an enumeration with a given value text: `Enum(text)`. -/
def memberOf {E : Type} (members : List E) (value : E → String) (text : String) : Option E :=
  members.find? fun e => value e == text

theorem good_upperTable : upperTable.good isSpace = true := by decide +kernel

theorem good_lowerTable : lowerTable.good isSpace = true := by decide +kernel

theorem upper_upper (s : String) : upper (upper s) = upper s := by
  simp only [upper, String.toList_ofList, CaseTable.chars_chars good_upperTable]

theorem upper_append (s t : String) : upper (s ++ t) = upper s ++ upper t := by
  simp only [upper, String.toList_append, CaseTable.chars_append, String.ofList_append]

theorem mem_ascii {s : String} (h : isAscii s = true) : ∀ c ∈ s.toList, c.toNat < 128 := by
  simpa [isAscii] using h

theorem isAscii_append (s t : String) : isAscii (s ++ t) = (isAscii s && isAscii t) := by
  simp [isAscii, String.toList_append]

theorem upper_of_ascii {s : String} (h : isAscii s = true) :
    upper s = String.ofList (s.toList.map Char.toUpper) := by
  rw [upper, CaseTable.chars_of_ascii (mem_ascii h)]
  rfl

theorem lower_of_ascii {s : String} (h : isAscii s = true) :
    lower s = String.ofList (s.toList.map Char.toLower) := by
  rw [lower, CaseTable.chars_of_ascii (mem_ascii h)]
  rfl

theorem lower_append (s t : String) : lower (s ++ t) = lower s ++ lower t := by
  simp only [lower, String.toList_append, CaseTable.chars_append, String.ofList_append]

theorem mem_upper {d : Char} (hd : neutral d = true) (s : String) :
    d ∈ (upper s).toList ↔ d ∈ s.toList := by
  rw [upper, String.toList_ofList, CaseTable.mem_chars_neutral good_upperTable hd]

/-- What is dropped in front of a text is dropped in front of what it becomes. -/
theorem dropWhile_flatMap {α β : Type*} {p : α → Bool} {q : β → Bool} {f : α → List β}
    (hne : ∀ a, f a ≠ []) (hf : ∀ a, ∀ b ∈ f a, q b = p a) (as : List α) :
    (as.flatMap f).dropWhile q = (as.dropWhile p).flatMap f := by
  induction as with
  | nil => rfl
  | cons a as ih =>
    rw [List.flatMap_cons, List.dropWhile_cons]
    by_cases hp : p a = true
    · have hall : ∀ b ∈ f a, q b = true := fun b hb => (hf a b hb).trans hp
      rw [if_pos hp, List.dropWhile_append_of_pos hall, ih]
    · obtain ⟨b, bs, hcons⟩ := List.exists_cons_of_ne_nil (hne a)
      have hq : ¬ q b = true := by
        rw [hf a b (hcons ▸ List.mem_cons_self)]
        exact hp
      rw [if_neg hp, List.flatMap_cons, hcons, List.cons_append, List.dropWhile_cons, if_neg hq]

theorem stripChars_upper (cs : List Char) :
    stripChars (upperTable.chars cs) = upperTable.chars (stripChars cs) := by
  have hne := CaseTable.char_ne_nil good_upperTable
  have hspace (c d : Char) (hd : d ∈ upperTable.char c) : isSpace d = isSpace c :=
    (CaseTable.kept_of_mem good_upperTable hd).spaces
  rw [stripChars, CaseTable.chars, dropWhile_flatMap hne hspace, List.reverse_flatMap,
    dropWhile_flatMap (f := List.reverse ∘ upperTable.char)
      (fun c => by simpa using hne c) (fun c d hd => hspace c d (by simpa using hd)),
    List.reverse_flatMap]
  simp [stripChars, CaseTable.chars, Function.comp_def]

/-- A list that does not begin with such a character still does not after its end is trimmed. -/
theorem dropWhile_rdropWhile {p : Char → Bool} {cs : List Char} (h : cs.dropWhile p = cs) :
    (cs.rdropWhile p).dropWhile p = cs.rdropWhile p := by
  obtain ⟨ds, hds⟩ := List.rdropWhile_prefix p cs
  cases hr : cs.rdropWhile p with
  | nil => rfl
  | cons c xs =>
    rw [hr, List.cons_append] at hds
    subst hds
    have hc : ¬ p c = true := List.dropWhile_eq_self_iff.mp h (by simp)
    rw [List.dropWhile_cons, if_neg hc]

theorem strip_strip (s : String) : strip (strip s) = strip s := by
  have hstrip (s : String) :
      strip s = String.ofList ((s.toList.dropWhile isSpace).rdropWhile isSpace) := rfl
  rw [hstrip (strip s), hstrip s, String.toList_ofList,
    dropWhile_rdropWhile (List.dropWhile_idempotent isSpace s.toList), List.rdropWhile_idempotent]

theorem upper_strip (s : String) : upper (strip s) = strip (upper s) := by
  simp only [upper, strip, String.toList_ofList, stripChars_upper]

end Blessing.Lib.Text
