import Blessing.Lib.Regex
import Blessing.Lib.Values

/-! # Redaction and prompt checks

`apps/agy_queue/security.py`: the three credential patterns, `redact_text` and `redact_json`, which
every stored text passes through, and the checks of a submitted prompt. -/

namespace Blessing.Queue.Security

open Blessing.Lib.Text Blessing.Lib.Regex Blessing.Lib.Values

/-! ### The patterns -/

/-- `[_-]?` -/
def dash : Pattern := opt (.oneOf ['_', '-'])

/-- `\s*` -/
def spaces : Pattern := .star (.cls isSpace)

/-- `api[_-]?(?:key|secret)` -/
def apiLabel : Pattern := seqs [litCI "api", dash, .alt (litCI "key") (litCI "secret")]

/-- The labels of `_LABELED_SECRET`. -/
def secretLabel : Pattern :=
  alts [apiLabel, litCI "password", litCI "token", litCI "authorization",
    seqs [litCI "private", dash, litCI "key"], seqs [litCI "client", dash, litCI "secret"],
    seqs [litCI "service", dash, litCI "account"]]

/-- `[^\s,'"}]` -/
def secretChar (c : Char) : Bool := !(isSpace c || [',', '\'', '"', '}'].contains c)

/-- `_LABELED_SECRET`: a label, a colon or an equals sign, and a value in optional quotes. -/
def labeledSecret : Pattern :=
  seqs [secretLabel, spaces, .oneOf [':', '='], spaces, .group 1 (opt (.oneOf ['\'', '"'])),
    .group 2 (plus (.cls secretChar)), .backref 1]

/-- `_PRIVATE_KEY` -/
def privateKey : Pattern :=
  seqs [lit "-----BEGIN ", .star (.cls fun c => c.isUpper || c == ' '), lit "PRIVATE KEY-----"]

/-- `[A-Za-z0-9._~+/=-]`, case ignored. -/
def tokenChar (c : Char) : Bool :=
  c.isAlphanum || ['.', '_', '~', '+', '/', '=', '-', 'ı', 'İ', '\u212A', 'ſ'].contains c

/-- `_BEARER`, given the word characters of the host's Unicode tables. -/
def bearer (word : Char → Bool) : Pattern :=
  seqs [.wordBoundary word, litCI "bearer", plus (.cls isSpace), atLeast 16 (.cls tokenChar)]

/-- The keys whose values `redact_json` drops. -/
def secretKey : Pattern :=
  alts [apiLabel, litCI "password", .seq (litCI "token") (.notAhead (litCI "s")),
    litCI "authorization", seqs [litCI "private", dash, litCI "key"],
    seqs [litCI "client", dash, litCI "secret"]]

/-! ### Redaction -/

/-- `replace_secret`: the match up to the first occurrence of its value, and the mark. -/
def replaceSecret (m : Match) : List Char :=
  beforeFirst (m.group 2) m.text ++ "<REDACTED>".toList

section

variable (word : Char → Bool)

/-- The text without private keys and bearer tokens. -/
def withoutTokens (cs : List Char) : List Char :=
  sub (bearer word) (fun _ => "Bearer <REDACTED_TOKEN>".toList)
    (sub privateKey (fun _ => "<REDACTED_PRIVATE_KEY>".toList) cs)

/-- `redact_text` on characters. -/
def redactCharsIn (cs : List Char) : List Char :=
  sub labeledSecret replaceSecret (withoutTokens word cs)

/-- `redact_text`, given the word characters of the host's Unicode tables. -/
def redactTextIn (s : String) : String := String.ofList (redactCharsIn word s.toList)

end

/-- `redact_text`, on texts whose word characters are ASCII characters. -/
def redactText (s : String) : String := redactTextIn isWord s

example : redactText "api-key: 'k1' and more" = "api-key: '<REDACTED> and more" := by decide +kernel

/-- Whether `redact_json` drops the value under this key. -/
def isSecretKey (key : String) : Bool := !(find secretKey key.toList).isEmpty

section

variable (redact : String → String)

mutual

/-- `redact_json`, given `redact_text`. -/
def redactJsonWith : Json → Json
  | .str s => .str (redact s)
  | .arr xs => .arr (redactListWith xs)
  | .obj kvs => .obj (redactFieldsWith kvs)
  | .null => .null
  | .bool b => .bool b
  | .int n => .int n
  | .float r => .float r

def redactListWith : List Json → List Json
  | [] => []
  | x :: xs => redactJsonWith x :: redactListWith xs

def redactFieldsWith : List (String × Json) → List (String × Json)
  | [] => []
  | (k, x) :: xs =>
    (k, if isSecretKey k then .str "<REDACTED>" else redactJsonWith x) :: redactFieldsWith xs

end

example (b : Bool) :
    redactJsonWith redact (.obj [("token", .bool b), ("rows", .arr [.str "x", .null])]) =
    .obj [("token", .str "<REDACTED>"), ("rows", .arr [.str (redact "x"), .null])] := by
  have hsecret : isSecretKey "token" = true := by decide +kernel
  have hopen : isSecretKey "rows" = false := by decide +kernel
  simp [redactJsonWith, redactListWith, redactFieldsWith, hsecret, hopen]

theorem redactListWith_eq (xs : List Json) :
    redactListWith redact xs = xs.map (redactJsonWith redact) := by
  induction xs with
  | nil => rfl
  | cons x xs ih => rw [redactListWith, ih, List.map_cons]

theorem redactFieldsWith_eq (kvs : List (String × Json)) : redactFieldsWith redact kvs =
    kvs.map fun kv => (kv.1, if isSecretKey kv.1 then .str "<REDACTED>"
    else redactJsonWith redact kv.2) := by
  induction kvs with
  | nil => rfl
  | cons kv kvs ih => rw [redactFieldsWith, ih, List.map_cons]

end

/-- `redact_json` -/
def redactJson (v : Json) : Json := redactJsonWith redactText v

/-- `redact_json` on the entries of an object. -/
def redactFields (kvs : List (String × Json)) : List (String × Json) :=
  redactFieldsWith redactText kvs

/-- What `redact_json` makes of the value under a key. -/
def redactUnder (k : String) (v : Json) : Json :=
  if isSecretKey k then .str "<REDACTED>" else redactJson v

@[simp] theorem redactJson_str (s : String) : redactJson (.str s) = .str (redactText s) := by
  rw [redactJson, redactJsonWith]

@[simp] theorem redactJson_arr (xs : List Json) :
    redactJson (.arr xs) = .arr (xs.map redactJson) := by
  rw [redactJson, redactJsonWith, redactListWith_eq]
  rfl

theorem redactFields_eq (kvs : List (String × Json)) :
    redactFields kvs = kvs.map fun kv => (kv.1, redactUnder kv.1 kv.2) :=
  redactFieldsWith_eq redactText kvs

@[simp] theorem redactJson_obj (kvs : List (String × Json)) :
    redactJson (.obj kvs) = .obj (kvs.map fun kv => (kv.1, redactUnder kv.1 kv.2)) := by
  rw [redactJson, redactJsonWith, redactFieldsWith_eq]
  rfl

@[simp] theorem redactJson_null : redactJson .null = .null := by rw [redactJson, redactJsonWith]

@[simp] theorem redactJson_bool (b : Bool) : redactJson (.bool b) = .bool b := by
  rw [redactJson, redactJsonWith]

@[simp] theorem redactJson_int (n : ℤ) : redactJson (.int n) = .int n := by
  rw [redactJson, redactJsonWith]

@[simp] theorem redactJson_float (r : String) : redactJson (.float r) = .float r := by
  rw [redactJson, redactJsonWith]

/-- Redaction looks at keys and texts, not at the order of entries. -/
theorem redactJson_sortKeys (v : Json) : redactJson v.sortKeys = (redactJson v).sortKeys := by
  induction v using Json.induction with
  | null | bool | int | float | str => simp [Json.sortKeys]
  | arr xs ih =>
    simp only [Json.sortKeys, redactJson_arr, Json.sortKeysList_eq, List.map_map,
      Json.arr.injEq, List.map_inj_left]
    exact ih
  | obj kvs ih =>
    simp only [redactJson_obj, Json.sortKeys_obj,
      Json.insertionSort_map_snd redactUnder, List.map_map, Json.obj.injEq]
    refine List.map_congr_left fun kv hkv => ?_
    rw [List.mem_insertionSort] at hkv
    by_cases hk : isSecretKey kv.1
    · simp [redactUnder, hk, Json.sortKeys]
    · simp [redactUnder, hk, ih kv hkv]

/-- Letters a secret cannot do without; times and job identifiers have none of them. -/
def isMark (c : Char) : Bool :=
  c.isAlpha && !(['T', 'Z', 'a', 'b', 'c', 'd', 'e', 'f', 'g', 'y'].contains c)

theorem redactText_of_plain {s : String} (h : ∀ c ∈ s.toList, isMark c = false) :
    redactText s = s := by
  have hp : needs isMark privateKey = true := by decide +kernel
  have hb : needs isMark (bearer isWord) = true := by decide +kernel
  have hl : needs isMark labeledSecret = true := by decide +kernel
  rw [redactText, redactTextIn, redactCharsIn, withoutTokens, sub_eq_of_needs hp _ h,
    sub_eq_of_needs hb _ h, sub_eq_of_needs hl _ h, String.ofList_toList]

/-! ### Prompt checks -/

/-- `_PLACEHOLDERS` -/
def placeholders : List String := ["", "<redacted>", "<secret>", "***", "changeme", "example"]

/-- `_is_placeholder` -/
def isPlaceholder (value : List Char) : Bool :=
  placeholders.contains (lower (strip (String.ofList value)))

/-- `contains_credential_like_content`, given the word characters of the host's Unicode tables. -/
def containsCredentialLikeContentIn (word : Char → Bool) (value : String) : Bool :=
  let cs := value.toList
  !(find privateKey cs).isEmpty || !(find (bearer word) cs).isEmpty ||
    (find labeledSecret cs).any fun m => !isPlaceholder (m.group 2)

/-- `contains_credential_like_content`, on texts whose word characters are ASCII characters. -/
def containsCredentialLikeContent (value : String) : Bool :=
  containsCredentialLikeContentIn isWord value

/-- What the checks of a submitted text raise. -/
inductive InputError where
  /-- `ValueError` -/
  | value (message : String)
  /-- `CredentialLikeContentError` -/
  | credential (message : String)
  deriving DecidableEq, Repr

/-- `validate_prompt` -/
def validatePrompt (prompt : String) : Except InputError String :=
  if (strip prompt).isEmpty then .error (.value "AGY prompt must be a non-empty string")
  else if 200000 < prompt.length then .error (.value "AGY prompt exceeds the 200 KB limit")
  else if containsCredentialLikeContent prompt then
    .error (.credential
      "Prompt contains credential-like content; use a Secret Manager reference instead")
  else .ok prompt

end Blessing.Queue.Security
