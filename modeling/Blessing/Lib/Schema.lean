import Blessing.Lib.Effects
import Blessing.Lib.Values

/-! # Reading the fields of an object

A record is read from an object field by field. Every field is converted and checked on its own, and
the errors of all of them are collected before the record is refused. -/

namespace Blessing.Lib.Schema

open Blessing.Lib.Values

/-- The fields at fault, and what is wrong with them. -/
abbrev Errors := List (String × String)

/-- A value, or all the errors that were found. -/
abbrev Checked (α : Type) := Except Errors α

section

variable {α β : Type}

/-- Both sides are looked at, and their errors are collected. -/
def both (f : Checked (α → β)) (x : Checked α) : Checked β :=
  match f, x with
  | .ok f, .ok a => .ok (f a)
  | .error e, .ok _ => .error e
  | .ok _, .error e => .error e
  | .error e, .error e' => .error (e ++ e')

/-- The errors of a field carry its name. -/
def named (name : String) (x : Except String α) : Checked α := x.mapError fun text => [(name, text)]

/-- A field without a default. -/
def required (payload : Json) (name : String) (convert : Json → Except String α) : Checked α :=
  match payload.get? name with
  | none => .error [(name, "Field required")]
  | some v => named name (convert v)

/-- A field with a default. -/
def withDefault (payload : Json) (name : String) (default : α) (convert : Json → Except String α) :
    Checked α :=
  match payload.get? name with
  | none => .ok default
  | some v => named name (convert v)

/-- `extra="forbid"`: what is read of an object without other keys. -/
def withoutExtra (names : List String) (payload : Json) (x : Checked α) : Checked α :=
  match payload with
  | .obj kvs =>
    both (x.map fun a _ => a) (match (kvs.map Prod.fst).filter fun k => !names.contains k with
      | [] => .ok ()
      | extras => .error (extras.map fun k => (k, "Extra inputs are not permitted")))
  | _ => .error [("", "Input should be a valid dictionary")]

/-- A text. -/
def text : Json → Except String String
  | .str s => .ok s
  | _ => .error "Input should be a valid string"

/-- The values an enumeration expects. -/
def alternatives (values : List String) : String :=
  let quoted := values.map fun value => "'" ++ value ++ "'"
  "Input should be " ++ Text.join ", " quoted.dropLast ++ " or " ++ quoted.getLast?.getD ""

/-- A member of an enumeration, which is found by its value. -/
def member {E : Type} (members : List E) (value : E → String) : Json → Except String E
  | .str s =>
    match Text.memberOf members value s with
    | some e => .ok e
    | none => .error (alternatives (members.map value))
  | _ => .error (alternatives (members.map value))

/-- `x | None` -/
def nullable (convert : Json → Except String α) : Json → Except String (Option α)
  | .null => .ok none
  | v => (convert v).map some

/-! ### What is read -/

@[simp] theorem both_ok (g : α → β) (a : α) : both (.ok g) (.ok a) = .ok (g a) := rfl

@[simp] theorem both_toBool (f : Checked (α → β)) (x : Checked α) :
    (both f x).toBool = (f.toBool && x.toBool) := by
  cases f with
  | error e => cases x <;> rfl
  | ok g => cases x <;> rfl

theorem required_of_get {payload v : Json} {name : String} {convert : Json → Except String α}
    {a : α} (hv : payload.get? name = some v) (ha : convert v = .ok a) :
    required payload name convert = .ok a := by
  rw [required, hv]
  dsimp only
  rw [ha]
  rfl

theorem required_of_error {payload v : Json} {name text : String} {convert : Json → Except String α}
    (hv : payload.get? name = some v) (he : convert v = .error text) :
    required payload name convert = .error [(name, text)] := by
  rw [required, hv]
  dsimp only
  rw [he]
  rfl

theorem withDefault_of_get {payload v : Json} {name : String} {default a : α}
    {convert : Json → Except String α} (hv : payload.get? name = some v) (ha : convert v = .ok a) :
    withDefault payload name default convert = .ok a := by
  rw [withDefault, hv]
  dsimp only
  rw [ha]
  rfl

theorem withoutExtra_of_keys {names : List String} {kvs : Dict} {x : Checked α}
    (h : ∀ kv ∈ kvs, kv.1 ∈ names) : withoutExtra names (.obj kvs) x = x := by
  have hnone : (kvs.map Prod.fst).filter (fun k => !names.contains k) = [] := by
    refine List.filter_eq_nil_iff.mpr fun k hk => ?_
    obtain ⟨kv, hkv, rfl⟩ := List.mem_map.mp hk
    simpa using h kv hkv
  unfold withoutExtra
  dsimp only
  rw [hnone]
  cases x with
  | error e => rfl
  | ok a => rfl

end

end Blessing.Lib.Schema
