import Blessing.Lib.Delimited
import Blessing.Lib.Effects
import Blessing.Lib.JavaScript
import Mathlib.Data.List.Lex
import Mathlib.Data.List.Sort

/-! # Stable JSON

The text of evidence that is hashed: `JSON.stringify` with the keys of every object sorted. A text
of JavaScript is a list of code units, and `JSON.stringify` escapes the surrogates that stand alone,
so the stable text is one of Unicode characters.

* `quote_append_inj`: a quoted text delimits itself.
* `reads_stableJson`: so does a value, up to a comma or a closing bracket.
* `stableJson_eq_iff`: two documents have one stable text if and only if they differ in the order of
  keys only.
* `verifyGateEvidenceMatch_eq_nil_iff`: which freshly run evidence an approved candidate accepts. -/

namespace Blessing.ControlPlane.StableJson

open Blessing.Lib Blessing.Lib.Delimited

/-! ### Texts -/

/-- A code unit of UTF-16. -/
abbrev CodeUnit := Fin 0x10000

/-- A code point, which may be a surrogate that stands alone. -/
abbrev CodePoint := Fin 0x110000

def isLead (c : CodeUnit) : Bool := 0xD800 ≤ c.1 && c.1 ≤ 0xDBFF

def isTrail (c : CodeUnit) : Bool := 0xDC00 ≤ c.1 && c.1 ≤ 0xDFFF

/-- The code point of a pair of surrogates. -/
def pair (c d : CodeUnit) : CodePoint :=
  ⟨0x10000 + (c.1 - 0xD800) % 0x400 * 0x400 + (d.1 - 0xDC00) % 0x400, by omega⟩

/-- The code points of a text: a lead surrogate and the trail surrogate behind it are one. -/
def codePoints : List CodeUnit → List CodePoint
  | [] => []
  | [c] => [c.castLE (by decide)]
  | c :: d :: rest =>
    if isLead c && isTrail d then pair c d :: codePoints rest
    else c.castLE (by decide) :: codePoints (d :: rest)

/-- The characters with an escape of their own. -/
def escapes : List (ℕ × Char) :=
  [(0x08, 'b'), (0x09, 't'), (0x0A, 'n'), (0x0C, 'f'), (0x0D, 'r'), (0x22, '\"'), (0x5C, '\\')]

def hexDigit (n : ℕ) : Char :=
  ['0', '1', '2', '3', '4', '5', '6', '7', '8', '9', 'a', 'b', 'c', 'd',
  'e', 'f'].getD n '0'

/-- Backslash, `u` and four hexadecimal digits. -/
def unicodeEscape (n : ℕ) : List Char :=
  ['\\', 'u', hexDigit (n / 4096 % 16), hexDigit (n / 256 % 16), hexDigit (n / 16 % 16),
    hexDigit (n % 16)]

def isSurrogate (n : ℕ) : Bool := 0xD800 ≤ n && n ≤ 0xDFFF

/-- A code point inside a quoted text. -/
def quotePoint (n : CodePoint) : List Char :=
  match escapes.lookup n.1 with
  | some e => ['\\', e]
  | none => if n.1 < 0x20 || isSurrogate n.1 then unicodeEscape n.1 else [Char.ofNat n.1]

/-- `JSON.stringify` of a text. -/
def quote (s : List CodeUnit) : List Char := '\"' :: ((codePoints s).flatMap quotePoint ++ ['\"'])

/-! ### Values -/

/-- What `JSON.stringify` writes for the finite numbers; `0` and `-0` are one number. -/
structure NumberText (N : Type) where
  text : N → List Char
  injective : Function.Injective text
  ne_nil : ∀ n, text n ≠ []
  chars : ∀ n, ∀ c ∈ text n, c.isDigit = true ∨ c ∈ ['-', '+', '.', 'e']

/-- A JSON value. -/
inductive Value (N : Type) where
  | null
  | bool (b : Bool)
  | number (n : N)
  | string (s : List CodeUnit)
  | array (xs : List (Value N))
  | object (kvs : List (List CodeUnit × Value N))

/-- The order of `Array.prototype.sort` on keys. -/
def keyLe {β : Type*} (p q : List CodeUnit × β) : Bool := decide (p.1 ≤ q.1)

/-- A key and the text of its value. -/
def entryText (e : List CodeUnit × List Char) : List Char := quote e.1 ++ ':' :: e.2

variable {N : Type}

mutual

/-- `stableJson` -/
def stableJson (nt : NumberText N) : Value N → List Char
  | .null => ['n', 'u', 'l', 'l']
  | .bool true => ['t', 'r', 'u', 'e']
  | .bool false => ['f', 'a', 'l', 's', 'e']
  | .number n => nt.text n
  | .string s => quote s
  | .array xs => '[' :: (join ',' (elements nt xs) ++ [']'])
  | .object kvs =>
    '\x7b' :: (join ',' (((entries nt kvs).mergeSort keyLe).map entryText) ++ ['\x7d'])

/-- The texts of the elements of an array. -/
def elements (nt : NumberText N) : List (Value N) → List (List Char)
  | [] => []
  | x :: xs => stableJson nt x :: elements nt xs

/-- The keys of an object with the texts of their values. -/
def entries (nt : NumberText N) : List (List CodeUnit × Value N) → List (List CodeUnit × List Char)
  | [] => []
  | (k, x) :: kvs => (k, stableJson nt x) :: entries nt kvs

end

mutual

/-- Equal up to the order of keys: two objects have as many entries, and each entry of the first
has an equal value under its key in the second. -/
def Same : Value N → Value N → Prop
  | .null, .null => True
  | .bool b, .bool b' => b = b'
  | .number n, .number n' => n = n'
  | .string s, .string s' => s = s'
  | .array xs, .array ys => SameElements xs ys
  | .object kvs, .object kvs' => kvs.length = kvs'.length ∧ SameEntries kvs kvs'
  | _, _ => False

def SameElements : List (Value N) → List (Value N) → Prop
  | [], [] => True
  | x :: xs, y :: ys => Same x y ∧ SameElements xs ys
  | _, _ => False

def SameEntries : List (List CodeUnit × Value N) → List (List CodeUnit × Value N) → Prop
  | [], _ => True
  | (k, x) :: kvs, kvs' => (∃ y, (k, y) ∈ kvs' ∧ Same x y) ∧ SameEntries kvs kvs'

end

mutual

/-- The keys of every object differ. -/
def Distinct : Value N → Prop
  | .array xs => DistinctElements xs
  | .object kvs => (kvs.map Prod.fst).Nodup ∧ DistinctEntries kvs
  | _ => True

def DistinctElements : List (Value N) → Prop
  | [] => True
  | x :: xs => Distinct x ∧ DistinctElements xs

def DistinctEntries : List (List CodeUnit × Value N) → Prop
  | [] => True
  | (_, x) :: kvs => Distinct x ∧ DistinctEntries kvs

end

/-- A JSON document: a value whose objects have distinct keys. -/
structure Document (N : Type) where
  value : Value N
  distinct : Distinct value

/-- `hashEvidence`; `sha256` is the digest of the UTF-8 bytes of a text in hexadecimal digits. -/
def hashEvidence (nt : NumberText N) (sha256 : String → String) (d : Document N) : String :=
  sha256 (String.ofList (stableJson nt d.value))

/-- `verifyGateEvidenceMatch`: the hashes of a candidate against freshly run gate output. -/
def verifyGateEvidenceMatch (nt : NumberText N) (sha256 : String → String)
    (repoGateEvidenceHash cloudGateEvidenceHash : String)
    (repoTier cloudTier : Option (Document N)) :
    List String :=
  (if repoTier.any (fun d => JavaScript.trim repoGateEvidenceHash ≠ hashEvidence nt sha256 d) then
    ["repoGateEvidenceHash does not match freshly-run repo gate output"] else []) ++
  (if cloudTier.any (fun d => JavaScript.trim cloudGateEvidenceHash ≠ hashEvidence nt sha256 d) then
    ["cloudGateEvidenceHash does not match freshly-run cloud gate output"] else [])

/-! ### Quoted texts delimit themselves -/

/-- The code units of a code point. -/
def units (n : CodePoint) : List CodeUnit :=
  if h : n.1 < 0x10000 then [⟨n.1, h⟩]
  else [⟨0xD800 + (n.1 - 0x10000) / 0x400 % 0x400, by omega⟩,
    ⟨0xDC00 + (n.1 - 0x10000) % 0x400, by omega⟩]

theorem units_castLE (c : CodeUnit) : units (c.castLE (by decide)) = [c] := by
  unfold units
  rw [dif_pos (show (c.castLE (by decide : 0x10000 ≤ 0x110000)).1 < 0x10000 from c.2)]
  rfl

theorem units_pair {c d : CodeUnit} (h : (isLead c && isTrail d) = true) :
    units (pair c d) = [c, d] := by
  simp only [isLead, isTrail, Bool.and_eq_true, decide_eq_true_eq] at h
  unfold units pair
  rw [dif_neg (by dsimp only; omega)]
  simp only [List.cons.injEq, Fin.ext_iff, and_true]
  omega

theorem flatMap_units (s : List CodeUnit) : (codePoints s).flatMap units = s := by
  fun_induction codePoints s with
  | case1 => rfl
  | case2 c => simp [units_castLE]
  | case3 c d rest h ih => rw [List.flatMap_cons, units_pair h, ih]; rfl
  | case4 c d rest h ih => rw [List.flatMap_cons, units_castLE, ih]; rfl

theorem codePoints_injective : Function.Injective codePoints := by
  intro s t h
  rw [← flatMap_units s, h, flatMap_units t]

theorem hexDigit_inj {n m : ℕ} (hn : n < 16) (hm : m < 16) (h : hexDigit n = hexDigit m) :
    n = m := by
  have hall : ∀ n < 16, ∀ m < 16, hexDigit n = hexDigit m → n = m := by decide
  exact hall n hn m hm h

theorem unicodeEscape_append_inj {n m : ℕ} {x y : List Char} (hn : n < 0x10000) (hm : m < 0x10000)
    (h : unicodeEscape n ++ x = unicodeEscape m ++ y) : n = m ∧ x = y := by
  simp only [unicodeEscape, List.cons_append, List.nil_append, List.cons.injEq, true_and] at h
  obtain ⟨h₃, h₂, h₁, h₀, hxy⟩ := h
  have h₃ := hexDigit_inj (Nat.mod_lt _ (by decide)) (Nat.mod_lt _ (by decide)) h₃
  have h₂ := hexDigit_inj (Nat.mod_lt _ (by decide)) (Nat.mod_lt _ (by decide)) h₂
  have h₁ := hexDigit_inj (Nat.mod_lt _ (by decide)) (Nat.mod_lt _ (by decide)) h₁
  have h₀ := hexDigit_inj (Nat.mod_lt _ (by decide)) (Nat.mod_lt _ (by decide)) h₀
  exact ⟨by omega, hxy⟩

theorem escapes_inj : ∀ p ∈ escapes, ∀ q ∈ escapes, p.2 = q.2 → p = q := by decide

theorem escapes_ne : ∀ p ∈ escapes, p.2 ≠ 'u' := by decide

/-- A code point is escaped by a letter, by its digits, or stands for itself. -/
theorem quotePoint_cases (n : CodePoint) :
    (∃ e, (n.1, e) ∈ escapes ∧ quotePoint n = ['\\', e]) ∨
    (n.1 < 0x10000 ∧ quotePoint n = unicodeEscape n.1) ∨
    (n.1.isValidChar ∧ n.1 ≠ 0x22 ∧ n.1 ≠ 0x5C ∧ quotePoint n = [Char.ofNat n.1]) := by
  unfold quotePoint
  cases he : escapes.lookup n.1 with
  | some e =>
    rw [List.lookup_eq_some_iff] at he
    obtain ⟨l₁, l₂, hl, -⟩ := he
    exact .inl ⟨e, hl ▸ List.mem_append_right _ List.mem_cons_self, rfl⟩
  | none =>
    rw [List.lookup_eq_none_iff] at he
    dsimp only
    by_cases hescape : (n.1 < 0x20 || isSurrogate n.1) = true
    · rw [if_pos hescape]
      simp only [isSurrogate, Bool.or_eq_true, Bool.and_eq_true, decide_eq_true_eq] at hescape
      exact .inr (.inl ⟨by omega, rfl⟩)
    · rw [if_neg hescape]
      simp only [isSurrogate, Bool.or_eq_true, Bool.and_eq_true, decide_eq_true_eq] at hescape
      have hquote := he (0x22, '\"') (by decide)
      have hbackslash := he (0x5C, '\\') (by decide)
      simp only [bne_iff_ne, ne_eq] at hquote hbackslash
      have hn := n.2
      refine .inr (.inr ⟨?_, hquote, hbackslash, rfl⟩)
      unfold Nat.isValidChar
      omega

theorem ofNat_inj {n m : ℕ} (hn : n.isValidChar) (hm : m.isValidChar)
    (h : Char.ofNat n = Char.ofNat m) : n = m := by
  have htoNat {k : ℕ} (hk : k.isValidChar) : (Char.ofNat k).toNat = k := by
    rw [Char.ofNat, dif_pos hk]
    rfl
  rw [← htoNat hn, h, htoNat hm]

/-- A character that stands for itself is neither a quote nor a backslash. -/
theorem ofNat_ne {n : ℕ} (hn : n.isValidChar) (hquote : n ≠ 0x22) (hbackslash : n ≠ 0x5C) :
    Char.ofNat n ≠ '\"' ∧ Char.ofNat n ≠ '\\' :=
  ⟨fun h => hquote (ofNat_inj hn (by decide) h), fun h => hbackslash (ofNat_inj hn (by decide) h)⟩

/-- **Code points delimit themselves**. -/
theorem quotePoint_append_inj (n m : CodePoint) (x y : List Char)
    (h : quotePoint n ++ x = quotePoint m ++ y) : n = m ∧ x = y := by
  rcases quotePoint_cases n with ⟨e, he, hn⟩ | ⟨hlt, hn⟩ | ⟨hvalid, hquote, hbackslash, hn⟩ <;>
    rcases quotePoint_cases m with ⟨e', he', hm⟩ | ⟨hlt', hm⟩ | ⟨hvalid', hquote',
      hbackslash', hm⟩ <;>
    rw [hn, hm] at h
  · simp only [List.cons_append, List.nil_append, List.cons.injEq, true_and] at h
    exact ⟨Fin.ext (congrArg Prod.fst (escapes_inj _ he _ he' h.1)), h.2⟩
  · simp only [unicodeEscape, List.cons_append, List.nil_append, List.cons.injEq, true_and] at h
    exact absurd h.1 (escapes_ne _ he)
  · simp only [List.cons_append, List.nil_append, List.cons.injEq] at h
    exact absurd h.1.symm (ofNat_ne hvalid' hquote' hbackslash').2
  · simp only [unicodeEscape, List.cons_append, List.nil_append, List.cons.injEq, true_and] at h
    exact absurd h.1.symm (escapes_ne _ he')
  · obtain ⟨heq, hxy⟩ := unicodeEscape_append_inj hlt hlt' h
    exact ⟨Fin.ext heq, hxy⟩
  · simp only [unicodeEscape, List.cons_append, List.nil_append, List.cons.injEq] at h
    exact absurd h.1.symm (ofNat_ne hvalid' hquote' hbackslash').2
  · simp only [List.cons_append, List.nil_append, List.cons.injEq] at h
    exact absurd h.1 (ofNat_ne hvalid hquote hbackslash).2
  · simp only [unicodeEscape, List.cons_append, List.nil_append, List.cons.injEq] at h
    exact absurd h.1 (ofNat_ne hvalid hquote hbackslash).2
  · simp only [List.cons_append, List.nil_append, List.cons.injEq] at h
    exact ⟨Fin.ext (ofNat_inj hvalid hvalid' h.1), h.2⟩

theorem quotePoint_append_ne (n : CodePoint) (x y : List Char) : quotePoint n ++ x ≠ '\"' :: y := by
  intro h
  rcases quotePoint_cases n with ⟨e, -, hn⟩ | ⟨-, hn⟩ | ⟨hvalid, hquote, hbackslash, hn⟩ <;>
    rw [hn] at h
  · exact absurd (List.cons.inj h).1 (by decide)
  · exact absurd (List.cons.inj h).1 (by decide)
  · exact absurd (List.cons.inj h).1 (ofNat_ne hvalid hquote hbackslash).1

/-- **Quoted texts delimit themselves**. -/
theorem quote_append_inj {s t : List CodeUnit} {x y : List Char} (h : quote s ++ x = quote t ++ y) :
    s = t ∧ x = y := by
  simp only [quote, List.cons_append, List.append_assoc, List.nil_append, List.cons.injEq,
    true_and] at h
  obtain ⟨hpoints, hxy⟩ := flatMap_append_inj quotePoint_append_inj quotePoint_append_ne h
  exact ⟨codePoints_injective hpoints, hxy⟩

/-! ### Values delimit themselves -/

/-- The characters that stand behind a value. -/
def isStop (c : Char) : Prop := c ∈ [',', ']', '\x7d']

instance (c : Char) : Decidable (isStop c) := inferInstanceAs (Decidable (c ∈ _))

/-- Induction with a hypothesis for every part of a value. -/
@[elab_as_elim]
theorem Value.induction {P : Value N → Prop} (null : P .null) (bool : ∀ b, P (.bool b))
    (number : ∀ n, P (.number n)) (string : ∀ s, P (.string s))
    (array : ∀ xs, (∀ x ∈ xs, P x) → P (.array xs))
    (object : ∀ kvs, (∀ e ∈ kvs, P e.2) → P (.object kvs)) (v : Value N) : P v :=
  @Value.rec N P (fun xs => ∀ x ∈ xs, P x) (fun kvs => ∀ e ∈ kvs, P e.2) (fun e => P e.2)
    null bool number string array object
    (by simp) (fun _ _ hx hxs => by simpa using ⟨hx, hxs⟩)
    (by simp) (fun _ _ hx hxs => by simpa using ⟨hx, by simpa using hxs⟩) (fun _ _ h => h) v

variable {nt : NumberText N}

theorem elements_eq (xs : List (Value N)) : elements nt xs = xs.map (stableJson nt) := by
  induction xs with
  | nil => rw [elements, List.map_nil]
  | cons x xs ih => rw [elements, ih, List.map_cons]

theorem entries_eq (kvs : List (List CodeUnit × Value N)) :
    entries nt kvs = kvs.map fun e => (e.1, stableJson nt e.2) := by
  induction kvs with
  | nil => rw [entries, List.map_nil]
  | cons e kvs ih => rw [entries, ih, List.map_cons]

theorem sameElements_iff {xs ys : List (Value N)} :
    SameElements xs ys ↔ List.Forall₂ Same xs ys := by
  induction xs generalizing ys with
  | nil => cases ys <;> simp [SameElements]
  | cons x xs ih => cases ys <;> simp [SameElements, ih]

theorem sameEntries_iff {kvs kvs' : List (List CodeUnit × Value N)} :
    SameEntries kvs kvs' ↔ ∀ e ∈ kvs, ∃ y, (e.1, y) ∈ kvs' ∧ Same e.2 y := by
  induction kvs with
  | nil => simp [SameEntries]
  | cons e kvs ih => simp [SameEntries, ih]

theorem distinctElements_iff {xs : List (Value N)} :
    DistinctElements xs ↔ ∀ x ∈ xs, Distinct x := by
  induction xs with
  | nil => simp [DistinctElements]
  | cons x xs ih => simp [DistinctElements, ih]

theorem distinctEntries_iff {kvs : List (List CodeUnit × Value N)} :
    DistinctEntries kvs ↔ ∀ e ∈ kvs, Distinct e.2 := by
  induction kvs with
  | nil => simp [DistinctEntries]
  | cons e kvs ih => simp [DistinctEntries, ih]

theorem stableJson_object (kvs : List (List CodeUnit × Value N)) : stableJson nt (.object kvs) =
    '\x7b' :: (join ',' ((kvs.mergeSort keyLe).map fun e =>
      quote e.1 ++ ':' :: stableJson nt e.2) ++
      ['\x7d']) := by
  have hsort : (entries nt kvs).mergeSort keyLe =
      (kvs.mergeSort keyLe).map fun e => (e.1, stableJson nt e.2) := by
    rw [entries_eq]
    exact (List.map_mergeSort (f := fun e => (e.1, stableJson nt e.2)) (r := keyLe) (s := keyLe)
      fun _ _ _ _ => rfl).symm
  rw [stableJson, hsort, List.map_map]
  rfl

/-- What the first character of a text tells about the value. -/
def kind (c : Char) : ℕ :=
  match c with
  | 'n' => 0
  | 't' => 1
  | 'f' => 2
  | '\"' => 3
  | '[' => 4
  | '\x7b' => 5
  | c => if isStop c then 7 else 6

/-- The kind of a value. -/
def Value.kind : Value N → ℕ
  | .null => 0
  | .bool true => 1
  | .bool false => 2
  | .string _ => 3
  | .array _ => 4
  | .object _ => 5
  | .number _ => 6

theorem kind_number {c : Char} (h : c.isDigit = true ∨ c ∈ ['-', '+', '.', 'e']) :
    kind c = 6 ∧ ¬ isStop c := by
  have hdigits : ∀ n < 58, 48 ≤ n → kind (Char.ofNat n) = 6 ∧ ¬ isStop (Char.ofNat n) := by
    decide +kernel
  rcases h with hdigit | hmark
  · rw [Char.isDigit_iff_toNat] at hdigit
    have hc := hdigits c.toNat (Nat.lt_succ_of_le hdigit.2) hdigit.1
    rwa [Char.ofNat_toNat] at hc
  · simp only [List.mem_cons, List.not_mem_nil, or_false] at hmark
    rcases hmark with rfl | rfl | rfl | rfl <;> decide

/-- The first character of a text tells the kind of the value. -/
theorem kind_stableJson (nt : NumberText N) (v : Value N) :
    ∃ c rest, stableJson nt v = c :: rest ∧ kind c = v.kind := by
  cases v with
  | null | string s | array xs => exact ⟨_, _, rfl, rfl⟩
  | bool b => cases b <;> exact ⟨_, _, rfl, rfl⟩
  | object kvs => exact ⟨_, _, by rw [stableJson], rfl⟩
  | number n =>
    obtain ⟨c, rest, htext⟩ := List.exists_cons_of_ne_nil (nt.ne_nil n)
    refine ⟨c, rest, by rw [stableJson, htext], ?_⟩
    exact (kind_number (nt.chars n c (by rw [htext]; exact List.mem_cons_self))).1

theorem kind_eq_of_append {v w : Value N} {x y : List Char}
    (h : stableJson nt v ++ x = stableJson nt w ++ y) : v.kind = w.kind := by
  obtain ⟨c, rest, hv, hc⟩ := kind_stableJson nt v
  obtain ⟨c', rest', hw, hc'⟩ := kind_stableJson nt w
  rw [hv, hw] at h
  rw [← hc, ← hc', (List.cons.inj h).1]

theorem stableJson_append_ne (v : Value N) (x y : List Char) : stableJson nt v ++ x ≠ ']' :: y := by
  intro h
  obtain ⟨c, rest, hv, hc⟩ := kind_stableJson nt v
  rw [hv] at h
  obtain rfl := (List.cons.inj h).1
  cases v with
  | bool b => cases b <;> exact absurd hc (by simp only [Value.kind]; decide)
  | _ => exact absurd hc (by simp only [Value.kind]; decide)

/-- Two entries of one key and equal values. -/
def SameEntry (e e' : List CodeUnit × Value N) : Prop := e.1 = e'.1 ∧ Same e.2 e'.2

theorem same_of_sorted {kvs kvs' : List (List CodeUnit × Value N)}
    (h : List.Forall₂ SameEntry (kvs.mergeSort keyLe) (kvs'.mergeSort keyLe)) :
    Same (.object kvs) (.object kvs') := by
  have hlength := h.length_eq
  rw [List.length_mergeSort, List.length_mergeSort] at hlength
  refine ⟨hlength, sameEntries_iff.mpr fun e he => ?_⟩
  have he := (List.mergeSort_perm kvs keyLe).mem_iff.mpr he
  obtain ⟨e', he', hkey, hsame⟩ := Effects.forall₂_mem_left h he
  exact ⟨e'.2, by rw [hkey]; exact (List.mergeSort_perm kvs' keyLe).mem_iff.mp he', hsame⟩

/-- **Values delimit themselves**: the text of a value is told from that of every other one, and
ends where a comma or a closing bracket stands. -/
theorem reads_stableJson (v : Value N) : Reads isStop Same (stableJson nt) v := by
  induction v using Value.induction with
  | null =>
    intro w x y _ _ h
    have hkind := kind_eq_of_append h
    cases w with
    | null => exact ⟨trivial, List.append_cancel_left h⟩
    | bool b => cases b <;> cases hkind
    | _ => cases hkind
  | bool b =>
    intro w x y _ _ h
    have hkind := kind_eq_of_append h
    cases w with
    | bool b' =>
      cases b <;> cases b' <;> first | exact ⟨rfl, List.append_cancel_left h⟩ | cases hkind
    | _ => cases b <;> cases hkind
  | number n =>
    intro w x y hx hy h
    have hkind := kind_eq_of_append h
    cases w with
    | number n' =>
      have hrun (n : N) : ∀ c ∈ nt.text n, ¬ isStop c :=
        fun c hc => (kind_number (nt.chars n c hc)).2
      rw [stableJson, stableJson] at h
      obtain ⟨htext, hxy⟩ := run_append_inj (hrun n) (hrun n') hx hy h
      exact ⟨nt.injective htext, hxy⟩
    | bool b => cases b <;> cases hkind
    | _ => cases hkind
  | string s =>
    intro w x y _ _ h
    have hkind := kind_eq_of_append h
    cases w with
    | string s' =>
      rw [stableJson, stableJson] at h
      exact quote_append_inj h
    | bool b => cases b <;> cases hkind
    | _ => cases hkind
  | array xs ih =>
    intro w x y _ _ h
    have hkind := kind_eq_of_append h
    cases w with
    | array ys =>
      simp only [stableJson, elements_eq, List.cons_append, List.append_assoc, List.nil_append,
        List.cons.injEq, true_and] at h
      obtain ⟨hxs, hxy⟩ :=
        join_append_inj (by decide) (by decide) (by decide) stableJson_append_ne ih h
      exact ⟨sameElements_iff.mpr hxs, hxy⟩
    | bool b => cases b <;> cases hkind
    | _ => cases hkind
  | object kvs ih =>
    intro w x y _ _ h
    have hkind := kind_eq_of_append h
    cases w with
    | object kvs' =>
      simp only [stableJson_object, List.cons_append, List.append_assoc, List.nil_append,
        List.cons.injEq, true_and] at h
      have hreads : ∀ e ∈ kvs.mergeSort keyLe,
          Reads isStop SameEntry (fun e => quote e.1 ++ ':' :: stableJson nt e.2) e := by
        intro e he e' x y hx hy h
        simp only [List.append_assoc, List.cons_append] at h
        obtain ⟨hkey, hvalue⟩ := quote_append_inj h
        obtain ⟨hsame, hxy⟩ := ih e ((List.mergeSort_perm kvs keyLe).mem_iff.mp he) e'.2 x y hx hy
          (List.cons.inj hvalue).2
        exact ⟨⟨hkey, hsame⟩, hxy⟩
      obtain ⟨hkvs, hxy⟩ :=
        join_append_inj (by decide) (by decide) (by decide) (fun _ _ _ h => by cases h) hreads h
      exact ⟨same_of_sorted hkvs, hxy⟩
    | bool b => cases b <;> cases hkind
    | _ => cases hkind

/-! ### The order of keys -/

/-- Entries with distinct keys, sorted by key, are determined by which entries they are. -/
theorem mergeSort_congr {β : Type} {l l' : List (List CodeUnit × β)} (h : l.Perm l')
    (hnodup : (l.map Prod.fst).Nodup) : l.mergeSort keyLe = l'.mergeSort keyLe := by
  have hperm : (l.mergeSort keyLe).Perm (l'.mergeSort keyLe) :=
    (List.mergeSort_perm l keyLe).trans (h.trans (List.mergeSort_perm l' keyLe).symm)
  have hsorted (l : List (List CodeUnit × β)) : (l.mergeSort keyLe).Pairwise fun p q =>
      p.1 ≤ q.1 := by
    have htrans (a b c : List CodeUnit × β) (hab : keyLe a b = true) (hbc : keyLe b c = true) :
        keyLe a c = true := by
      simp only [keyLe, decide_eq_true_eq] at hab hbc ⊢
      exact le_trans hab hbc
    have htotal (a b : List CodeUnit × β) : (keyLe a b || keyLe b a) = true := by
      simp only [keyLe, Bool.or_eq_true, decide_eq_true_eq]
      exact le_total a.1 b.1
    simpa only [keyLe, decide_eq_true_eq] using List.pairwise_mergeSort htrans htotal l
  refine hperm.eq_of_pairwise (fun a b ha hb hab hba => ?_) (hsorted l) (hsorted l')
  have ha := (List.mergeSort_perm l keyLe).mem_iff.mp ha
  have hb := h.mem_iff.mpr ((List.mergeSort_perm l' keyLe).mem_iff.mp hb)
  exact List.inj_on_of_nodup_map hnodup ha hb (le_antisymm hab hba)

/-- Entries with distinct keys that all occur among as many others are these others. -/
theorem perm_of_subset {β : Type} {l l' : List (List CodeUnit × β)}
    (hnodup : (l.map Prod.fst).Nodup) (hlength : l.length = l'.length) (h : ∀ e ∈ l, e ∈ l') :
    l.Perm l' :=
  (List.subperm_of_subset hnodup.of_map h).perm_of_length_le hlength.ge

/-- **One text**: documents that differ in the order of keys have one stable text. -/
theorem stableJson_congr (v : Value N) :
    ∀ w, Distinct v → Same v w → stableJson nt v = stableJson nt w := by
  induction v using Value.induction with
  | null =>
    intro w _ h
    cases w with
    | null => rfl
    | _ => exact h.elim
  | bool b =>
    intro w _ h
    cases w with
    | bool b' => exact congrArg (fun b => stableJson nt (.bool b)) h
    | _ => exact h.elim
  | number n =>
    intro w _ h
    cases w with
    | number n' => exact congrArg (fun n => stableJson nt (.number n)) h
    | _ => exact h.elim
  | string s =>
    intro w _ h
    cases w with
    | string s' => exact congrArg (fun s => stableJson nt (.string s)) h
    | _ => exact h.elim
  | array xs ih =>
    intro w hdistinct h
    cases w with
    | array ys =>
      have htexts : xs.map (stableJson nt) = ys.map (stableJson nt) := by
        have hparts := distinctElements_iff.mp hdistinct
        have hsame := sameElements_iff.mp h
        clear h hdistinct
        induction hsame with
        | nil => rfl
        | cons hxy _ hrest =>
          rw [List.map_cons, List.map_cons,
            ih _ List.mem_cons_self _ (hparts _ List.mem_cons_self) hxy,
            hrest (fun x hx => ih x (List.mem_cons_of_mem _ hx))
              (fun x hx => hparts x (List.mem_cons_of_mem _ hx))]
      rw [stableJson, stableJson, elements_eq, elements_eq, htexts]
    | _ => exact h.elim
  | object kvs ih =>
    intro w hdistinct h
    cases w with
    | object kvs' =>
      obtain ⟨hkeys, hdistinct⟩ := hdistinct
      obtain ⟨hlength, hsame⟩ := h
      rw [distinctEntries_iff] at hdistinct
      rw [sameEntries_iff] at hsame
      have hnodup : ((entries nt kvs).map Prod.fst).Nodup := by
        rw [entries_eq, List.map_map]
        exact hkeys
      have hperm : (entries nt kvs).Perm (entries nt kvs') := by
        refine perm_of_subset hnodup (by simp only [entries_eq, List.length_map, hlength])
          fun e he => ?_
        rw [entries_eq] at he ⊢
        obtain ⟨e₀, he₀, rfl⟩ := List.mem_map.mp he
        obtain ⟨y, hy, hxy⟩ := hsame e₀ he₀
        exact List.mem_map.mpr ⟨(e₀.1, y), hy, by rw [ih e₀ he₀ y (hdistinct e₀ he₀) hxy]⟩
      rw [stableJson, stableJson, mergeSort_congr hperm hnodup]
    | _ => exact h.elim

theorem stableJson_eq_iff (a b : Document N) :
    stableJson nt a.value = stableJson nt b.value ↔ Same a.value b.value := by
  constructor
  · intro h
    exact (reads_stableJson a.value b.value [] [] stops_nil stops_nil (by rw [h])).1
  · exact stableJson_congr a.value b.value a.distinct

theorem hashEvidence_eq_iff {sha256 : String → String} (hsha : Function.Injective sha256)
    (a b : Document N) : hashEvidence nt sha256 a = hashEvidence nt sha256 b ↔
    Same a.value b.value := by
  rw [hashEvidence, hashEvidence, hsha.eq_iff, String.ofList_inj, stableJson_eq_iff]

theorem mismatch_eq_nil_iff {sha256 : String → String} (hsha : Function.Injective sha256)
    {hash : String} {approved : Document N}
    (happroved : JavaScript.trim hash = hashEvidence nt sha256 approved)
    (tier : Option (Document N)) (message : String) :
    (if tier.any (fun d => JavaScript.trim hash ≠ hashEvidence nt sha256 d) then [message]
    else []) = [] ↔
      ∀ d ∈ tier, Same approved.value d.value := by
  cases tier with
  | none => simp
  | some d => simp [happroved, hashEvidence_eq_iff hsha]

/-- **Freshly run evidence** matches a candidate whose hashes are those of `repo` and `cloud` if and
only if it is the same evidence, up to the order of keys. -/
theorem verifyGateEvidenceMatch_eq_nil_iff {sha256 : String → String}
    (hsha : Function.Injective sha256) {repoGateEvidenceHash cloudGateEvidenceHash : String}
    {repo cloud : Document N}
    (hrepo : JavaScript.trim repoGateEvidenceHash = hashEvidence nt sha256 repo)
    (hcloud : JavaScript.trim cloudGateEvidenceHash = hashEvidence nt sha256 cloud)
    (repoTier cloudTier : Option (Document N)) :
    verifyGateEvidenceMatch nt sha256 repoGateEvidenceHash cloudGateEvidenceHash repoTier
      cloudTier = [] ↔
      (∀ d ∈ repoTier, Same repo.value d.value) ∧ ∀ d ∈ cloudTier, Same cloud.value d.value := by
  rw [verifyGateEvidenceMatch, List.append_eq_nil_iff, mismatch_eq_nil_iff hsha hrepo,
    mismatch_eq_nil_iff hsha hcloud]

/-- **Evidence is serialised canonically**: two documents have one stable text, and so one hash, if
and only if they differ in the order of keys only. -/
theorem evidence_canonical (nt : NumberText N) {sha256 : String → String}
    (hsha : Function.Injective sha256) (a b : Document N) :
    (stableJson nt a.value = stableJson nt b.value ↔ Same a.value b.value) ∧
      (hashEvidence nt sha256 a = hashEvidence nt sha256 b ↔ Same a.value b.value) :=
  ⟨stableJson_eq_iff a b, hashEvidence_eq_iff hsha a b⟩

/-- The numbers of one digit. -/
def digitText : NumberText (Fin 10) where
  text n := [Char.ofNat (48 + n.1)]
  injective := by
    unfold Function.Injective
    decide
  ne_nil _ := List.cons_ne_nil _ _
  chars n c hc := by
    have hdigits : ∀ n : Fin 10, (Char.ofNat (48 + n.1)).isDigit = true := by decide
    obtain rfl := List.mem_singleton.mp hc
    exact .inl (hdigits n)

/-- The keys of a text of ASCII characters. -/
def ascii (s : String) : List CodeUnit := s.toList.map fun c => Fin.ofNat 0x10000 c.toNat

/-- A document, and the same one with its keys in another order. -/
def sampleDocument : Document (Fin 10) where
  value := .object [(ascii "b", .string (ascii "x")), (ascii "a", .array [.number 1, .object []])]
  distinct := by
    simp only [Distinct, DistinctEntries, DistinctElements, and_true, List.map_nil, List.nodup_nil]
    decide

def reorderedDocument : Document (Fin 10) where
  value := .object [(ascii "a", .array [.number 1, .object []]), (ascii "b", .string (ascii "x"))]
  distinct := by
    simp only [Distinct, DistinctEntries, DistinctElements, and_true, List.map_nil, List.nodup_nil]
    decide

/-- An injective function with the SHA-256 digest of the text of `sampleDocument`. -/
def sampleDigest (s : String) : String :=
  if s = "\x7b\"a\":[1,\x7b\x7d],\"b\":\"x\"\x7d" then
    "a3c313ad61496efbabe8dd7beb68d639e78983452378343b5838ea506d2cd7c9"
  else "#" ++ s

theorem sampleDigest_injective : Function.Injective sampleDigest := by
  have hhead (s : String) : ("#" ++ s).toList.head? = some '#' := by
    rw [String.toList_append]
    rfl
  intro s t h
  unfold sampleDigest at h
  split_ifs at h with hs ht ht
  · rw [hs, ht]
  · have hdigest := hhead t
    rw [← h] at hdigest
    exact absurd hdigest (by decide)
  · have hdigest := hhead s
    rw [h] at hdigest
    exact absurd hdigest (by decide)
  · have htexts := congrArg String.toList h
    rw [String.toList_append, String.toList_append] at htexts
    exact String.toList_inj.mp (List.append_cancel_left htexts)

theorem evidence_canonical_sample :
    (stableJson digitText sampleDocument.value = stableJson digitText reorderedDocument.value ↔
      Same sampleDocument.value reorderedDocument.value) ∧
    (hashEvidence digitText sampleDigest sampleDocument =
        hashEvidence digitText sampleDigest reorderedDocument ↔
      Same sampleDocument.value reorderedDocument.value) :=
  evidence_canonical digitText sampleDigest_injective sampleDocument reorderedDocument

end Blessing.ControlPlane.StableJson
