import Blessing.Lib.Text
import Mathlib.Data.List.Sort

/-! # JSON values

The values `json.loads` produces. A float is carried by its shortest decimal text, which is what
`str` and `json.dumps` print and what `json.loads` reads back. An object is the list of its entries
in insertion order.

`dumps` with `sort_keys` and then `loads` give back the value with the entries of every object
ordered by key. A text written that way is represented by that value, `sortKeys v`: two texts are
equal exactly if the values are, and reading a text is the identity. -/

namespace Blessing.Lib.Values

/-- A JSON value. -/
inductive Json where
  | null
  | bool (b : Bool)
  | int (n : ℤ)
  | float (repr : String)
  | str (s : String)
  | arr (xs : List Json)
  | obj (kvs : List (String × Json))

/-- The entries of an object. -/
abbrev Dict := List (String × Json)

namespace Json

mutual

/-- Equality of values. -/
def decEq : (a b : Json) → Decidable (a = b)
  | .null, .null => isTrue rfl
  | .bool a, .bool b => decidable_of_iff (a = b) (by simp)
  | .int a, .int b => decidable_of_iff (a = b) (by simp)
  | .float a, .float b => decidable_of_iff (a = b) (by simp)
  | .str a, .str b => decidable_of_iff (a = b) (by simp)
  | .arr a, .arr b => @decidable_of_iff _ (a = b) (by simp) (decEqList a b)
  | .obj a, .obj b => @decidable_of_iff _ (a = b) (by simp) (decEqFields a b)
  | .null, .bool _ | .null, .int _ | .null, .float _ | .null, .str _ | .null, .arr _
  | .null, .obj _ | .bool _, .null | .bool _, .int _ | .bool _, .float _ | .bool _, .str _
  | .bool _, .arr _ | .bool _, .obj _ | .int _, .null | .int _, .bool _ | .int _, .float _
  | .int _, .str _ | .int _, .arr _ | .int _, .obj _ | .float _, .null | .float _, .bool _
  | .float _, .int _ | .float _, .str _ | .float _, .arr _ | .float _, .obj _ | .str _, .null
  | .str _, .bool _ | .str _, .int _ | .str _, .float _ | .str _, .arr _ | .str _, .obj _
  | .arr _, .null | .arr _, .bool _ | .arr _, .int _ | .arr _, .float _ | .arr _, .str _
  | .arr _, .obj _ | .obj _, .null | .obj _, .bool _ | .obj _, .int _ | .obj _, .float _
  | .obj _, .str _ | .obj _, .arr _ => isFalse (by simp)

def decEqList : (a b : List Json) → Decidable (a = b)
  | [], [] => isTrue rfl
  | [], _ :: _ => isFalse (by simp)
  | _ :: _, [] => isFalse (by simp)
  | x :: xs, y :: ys =>
    have := decEq x y
    have := decEqList xs ys
    decidable_of_iff (x = y ∧ xs = ys) (by simp)

def decEqFields : (a b : List (String × Json)) → Decidable (a = b)
  | [], [] => isTrue rfl
  | [], _ :: _ => isFalse (by simp)
  | _ :: _, [] => isFalse (by simp)
  | (k, x) :: xs, (l, y) :: ys =>
    have := decEq x y
    have := decEqFields xs ys
    decidable_of_iff (k = l ∧ x = y ∧ xs = ys) (by simp [and_assoc])

end

instance : DecidableEq Json := decEq

/-- Induction with a hypothesis for every part of a value. -/
@[elab_as_elim]
theorem induction {P : Json → Prop} (null : P .null) (bool : ∀ b, P (.bool b))
    (int : ∀ n, P (.int n)) (float : ∀ r, P (.float r)) (str : ∀ s, P (.str s))
    (arr : ∀ xs, (∀ x ∈ xs, P x) → P (.arr xs))
    (obj : ∀ kvs, (∀ kv ∈ kvs, P kv.2) → P (.obj kvs)) (v : Json) : P v :=
  @Json.rec P (fun xs => ∀ x ∈ xs, P x) (fun kvs => ∀ kv ∈ kvs, P kv.2) (fun kv => P kv.2)
    null bool int float str arr obj
    (by simp) (fun _ _ hx hxs => by simpa using ⟨hx, hxs⟩)
    (by simp) (fun _ _ hx hxs => by simpa using ⟨hx, by simpa using hxs⟩) (fun _ _ h => h) v

/-! ### Access -/

/-- `v[k]` of an object, nothing for a missing key or another kind of value. -/
def get? : Json → String → Option Json
  | .obj kvs, k => (kvs.find? (·.1 == k)).map (·.2)
  | _, _ => none

/-- `v.get(k)`. -/
def get (v : Json) (k : String) : Json := (v.get? k).getD .null

/-- `isinstance(v, dict)`. -/
def isObj : Json → Bool
  | .obj _ => true
  | _ => false

/-- `v in (None, "")`. -/
def isBlank (v : Json) : Bool := v == .null || v == .str ""

/-- The texts of the float zero. -/
def zeroTexts : List String := ["0.0", "-0.0"]

/-- `bool(v)`. -/
def truthy : Json → Bool
  | .null => false
  | .bool b => b
  | .int n => n != 0
  | .float r => !zeroTexts.contains r
  | .str s => s != ""
  | .arr xs => !xs.isEmpty
  | .obj kvs => !kvs.isEmpty

mutual

/-- `repr(v)`. -/
def repr : Json → String
  | .null => "None"
  | .bool b => if b then "True" else "False"
  | .int n => toString n
  | .float r => r
  | .str s => "'" ++ s ++ "'"
  | .arr xs => "[" ++ ", ".intercalate (reprList xs) ++ "]"
  | .obj kvs => "\x7b" ++ ", ".intercalate (reprFields kvs) ++ "\x7d"

def reprList : List Json → List String
  | [] => []
  | x :: xs => repr x :: reprList xs

def reprFields : List (String × Json) → List String
  | [] => []
  | (k, x) :: xs => ("'" ++ k ++ "': " ++ repr x) :: reprFields xs

end

/-- `str(v)`. -/
def toStr : Json → String
  | .str s => s
  | v => repr v

/-! ### Keys in order -/

/-- The order of the entries of an object. -/
def KeyLe (a b : String × Json) : Prop := a.1 ≤ b.1

instance : DecidableRel KeyLe := fun a b => inferInstanceAs (Decidable (a.1 ≤ b.1))

instance : Std.Total KeyLe := ⟨fun a b => le_total a.1 b.1⟩

instance : IsTrans (String × Json) KeyLe := ⟨fun _ _ _ h h' => le_trans (α := String) h h'⟩

mutual

/-- The value with the entries of every object ordered by key. -/
def sortKeys : Json → Json
  | .arr xs => .arr (sortKeysList xs)
  | .obj kvs => .obj ((sortKeysFields kvs).insertionSort KeyLe)
  | .null => .null
  | .bool b => .bool b
  | .int n => .int n
  | .float r => .float r
  | .str s => .str s

def sortKeysList : List Json → List Json
  | [] => []
  | x :: xs => sortKeys x :: sortKeysList xs

def sortKeysFields : List (String × Json) → List (String × Json)
  | [] => []
  | (k, x) :: xs => (k, sortKeys x) :: sortKeysFields xs

end

theorem sortKeysList_eq (xs : List Json) : sortKeysList xs = xs.map sortKeys := by
  induction xs with
  | nil => rfl
  | cons x xs ih => simp [sortKeysList, ih]

theorem sortKeysFields_eq (kvs : List (String × Json)) :
    sortKeysFields kvs = kvs.map fun kv => (kv.1, sortKeys kv.2) := by
  induction kvs with
  | nil => rfl
  | cons kv kvs ih => simp [sortKeysFields, ih]

/-- A change of the values alone commutes with ordering the entries by key. -/
theorem insertionSort_map_snd (f : String → Json → Json) (kvs : List (String × Json)) :
    (kvs.map fun kv => (kv.1, f kv.1 kv.2)).insertionSort KeyLe =
      (kvs.insertionSort KeyLe).map fun kv => (kv.1, f kv.1 kv.2) :=
  (List.map_insertionSort KeyLe KeyLe (fun kv => (kv.1, f kv.1 kv.2)) kvs
    fun _ _ _ _ => Iff.rfl).symm

theorem sortKeys_obj (kvs : List (String × Json)) :
    sortKeys (.obj kvs) = .obj ((kvs.insertionSort KeyLe).map fun kv => (kv.1, sortKeys kv.2)) := by
  rw [sortKeys, sortKeysFields_eq, insertionSort_map_snd fun _ => sortKeys]

theorem find?_orderedInsert (k : String) (kv : String × Json) : ∀ kvs : List (String × Json),
    (kvs.orderedInsert KeyLe kv).find? (·.1 == k) =
      if kv.1 = k then some kv else kvs.find? (·.1 == k)
  | [] => by by_cases h : kv.1 = k <;> simp [h]
  | b :: kvs => by
    rw [List.orderedInsert]
    split_ifs with hle hk hk
    · simp [hk]
    · rw [List.find?_cons_of_neg (by simpa using hk)]
    · have hb : b.1 ≠ k := by
        rintro rfl
        exact hle (show kv.1 ≤ b.1 by rw [hk])
      rw [List.find?_cons_of_neg (by simpa using hb), find?_orderedInsert k kv kvs, if_pos hk]
    · rw [List.find?_cons, List.find?_cons, find?_orderedInsert k kv kvs, if_neg hk]

theorem find?_insertionSort (k : String) (kvs : List (String × Json)) :
    (kvs.insertionSort KeyLe).find? (·.1 == k) = kvs.find? (·.1 == k) := by
  induction kvs with
  | nil => rfl
  | cons kv kvs ih =>
    rw [List.insertionSort_cons, find?_orderedInsert, ih]
    by_cases h : kv.1 = k
    · simp [h]
    · rw [if_neg h, List.find?_cons_of_neg (by simpa using h)]

/-- Ordering the keys does not change what is found under a key. -/
theorem get?_sortKeys (v : Json) (k : String) : v.sortKeys.get? k = (v.get? k).map sortKeys := by
  cases v with
  | obj kvs =>
    rw [sortKeys_obj, get?, get?, List.find?_map]
    simp only [Function.comp_def, find?_insertionSort, Option.map_map]
  | _ => rfl

theorem sortKeys_idem (v : Json) : v.sortKeys.sortKeys = v.sortKeys := by
  induction v using Json.induction with
  | null | bool | int | float | str => rfl
  | arr xs ih =>
    simp only [sortKeys, sortKeysList_eq, List.map_map, Json.arr.injEq, List.map_inj_left]
    exact ih
  | obj kvs ih =>
    rw [sortKeys_obj, sortKeys_obj, insertionSort_map_snd fun _ => sortKeys,
      (List.pairwise_insertionSort KeyLe kvs).insertionSort_eq, List.map_map]
    congr 1
    refine List.map_congr_left fun kv hkv => ?_
    rw [List.mem_insertionSort] at hkv
    simp [ih kv hkv]

end Json

end Blessing.Lib.Values
