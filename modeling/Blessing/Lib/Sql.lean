import Mathlib.Data.List.Basic

/-! # Statements of GoogleSQL

A statement is read into tokens, without the white space and comments between them, and the tokens
are read once from left to right for the paths that stand where a table does: behind `FROM` or
`JOIN`, behind a comma of the same `FROM` list, and at the start of a bracket in such a place. A
name that `WITH` binds is no table where it is in scope: behind the query it stands for, up to the
end of the bracket, and with `RECURSIVE` in all queries of its list. Which characters are white
space is left open.

* `mem_tokens`: a token stands in the statement, and no word stands next to another one.
* `tableReferences`: the paths in the place of a table that no `WITH` in scope binds.
* `intro_of_reference`: what introduces a path is nothing, or the statement from a `FROM` or `JOIN`
  on. -/

namespace Blessing.Lib.Sql

/-! ### Tokens -/

/-- A character of words. -/
def wordChar (c : Char) : Bool := c.isAlphanum || c == '_'

/-- What a token is. -/
inductive Kind where
  /-- letters, digits and underscores -/
  | word
  /-- a name in back-ticks -/
  | quoted (name : List Char)
  /-- a text in quotes -/
  | literal
  | symbol (c : Char)
  deriving DecidableEq

/-- A token, with what follows it in the statement. -/
structure Token where
  kind : Kind
  text : List Char
  rest : List Char
  deriving DecidableEq

/-- The statement from the token on. -/
def Token.start (t : Token) : List Char := t.text ++ t.rest

/-- A quoted text up to its closing quote, and what follows it. A backslash takes the next character
with it. -/
def quoted (close : Char) : List Char → List Char × List Char
  | [] => ([], [])
  | [c] => if c = close then ([], []) else ([c], [])
  | c :: d :: cs =>
    if c = close then ([], d :: cs)
    else if c = '\\' then (c :: d :: (quoted close cs).1, (quoted close cs).2)
    else (c :: (quoted close (d :: cs)).1, (quoted close (d :: cs)).2)

/-- What follows a text in triple quotes. -/
def afterTriple (close : Char) : List Char → List Char
  | [] => []
  | [_] => []
  | c :: d :: cs =>
    if c = '\\' then afterTriple close cs
    else if c = close ∧ d = close ∧ cs.head? = some close then cs.tail
    else afterTriple close (d :: cs)

/-- What follows a comment in `/*` and `*/`. -/
def afterComment : List Char → List Char
  | [] => []
  | c :: cs => if c = '*' ∧ cs.head? = some '/' then cs.tail else afterComment cs

/-- The rest of a line, without what ends it. -/
def afterLine (cs : List Char) : List Char := cs.dropWhile fun c => c != '\n' && c != '\r'

/-- The first piece of a text, a token or else white space or a comment, and what follows it. -/
def piece (space : Char → Bool) : List Char → Option Kind × List Char
  | [] => (none, [])
  | c :: cs =>
    if wordChar c then (some .word, cs.dropWhile wordChar)
    else if space c then (none, cs)
    else if c = '#' then (none, afterLine cs)
    else if c = '-' ∧ cs.head? = some '-' then (none, afterLine cs)
    else if c = '/' ∧ cs.head? = some '*' then (none, afterComment cs.tail)
    else if c = '\x60' then (some (.quoted (quoted c cs).1), (quoted c cs).2)
    else if c = '\'' ∨ c = '"' then
      (some .literal, if cs.take 2 = [c, c] then afterTriple c (cs.drop 2) else (quoted c cs).2)
    else (some (.symbol c), cs)

/-- The tokens of a text, piece by piece. -/
def tokensFrom (space : Char → Bool) : ℕ → List Char → List Token
  | 0, _ => []
  | n + 1, cs =>
    if cs = [] then []
    else
      let (kind, rest) := piece space cs
      match kind with
      | none => tokensFrom space n rest
      | some kind => ⟨kind, cs.take (cs.length - rest.length), rest⟩ :: tokensFrom space n rest

/-- The tokens of a statement. -/
def tokens (space : Char → Bool) (statement : List Char) : List Token :=
  tokensFrom space statement.length statement

/-! ### Where tokens stand -/

/-- Words do not run into each other between the two texts. -/
def Parted (u v : List Char) : Prop :=
  ∀ c ∈ u.getLast?, ∀ d ∈ v.head?, wordChar c = true → wordChar d = false

theorem parted_nil_right (u : List Char) : Parted u [] := by
  intro c _ d hd
  cases hd

theorem parted_of_last {u v : List Char} {c : Char} (hc : wordChar c = false) :
    Parted (u ++ [c]) v := by
  intro d hd e _ hword
  rw [List.getLast?_concat] at hd
  obtain rfl := Option.some.inj hd
  rw [hc] at hword
  cases hword

theorem parted_of_head {u v : List Char} (h : ∀ d ∈ v.head?, wordChar d = false) : Parted u v :=
  fun _ _ d hd _ => h d hd

theorem quoted_rest (close : Char) (cs : List Char) :
    (quoted close cs).2 = [] ∨ ∃ w, cs = w ++ [close] ++ (quoted close cs).2 := by
  fun_induction quoted close cs with
  | case1 => exact .inl rfl
  | case2 => exact .inl rfl
  | case3 => exact .inl rfl
  | case4 d cs => exact .inr ⟨[], rfl⟩
  | case5 d cs hne ih =>
    rcases ih with h | ⟨w, hw⟩
    · exact .inl h
    · exact .inr ⟨'\\' :: d :: w, by rw [List.cons_append, List.cons_append, List.cons_append,
        List.cons_append, ← hw]⟩
  | case6 c d cs hne hslash ih =>
    rcases ih with h | ⟨w, hw⟩
    · exact .inl h
    · exact .inr ⟨c :: w, by rw [List.cons_append, List.cons_append, ← hw]⟩

theorem afterTriple_rest (close : Char) (cs : List Char) :
    afterTriple close cs = [] ∨ ∃ w, cs = w ++ [close] ++ afterTriple close cs := by
  fun_induction afterTriple close cs with
  | case1 => exact .inl rfl
  | case2 => exact .inl rfl
  | case3 d cs ih =>
    rcases ih with h | ⟨w, hw⟩
    · exact .inl h
    · exact .inr ⟨'\\' :: d :: w, by rw [List.cons_append, List.cons_append, List.cons_append,
        List.cons_append, ← hw]⟩
  | case4 c d cs hne hclose =>
    obtain ⟨rfl, rfl, hhead⟩ := hclose
    obtain ⟨rest, rfl⟩ := List.head?_eq_some_iff.mp hhead
    exact .inr ⟨[_, _], rfl⟩
  | case5 c d cs hne hopen ih =>
    rcases ih with h | ⟨w, hw⟩
    · exact .inl h
    · exact .inr ⟨c :: w, by rw [List.cons_append, List.cons_append, ← hw]⟩

theorem afterComment_rest (cs : List Char) :
    afterComment cs = [] ∨ ∃ w, cs = w ++ ['/'] ++ afterComment cs := by
  fun_induction afterComment cs with
  | case1 => exact .inl rfl
  | case2 c cs hclose =>
    obtain ⟨rfl, hhead⟩ := hclose
    obtain ⟨rest, rfl⟩ := List.head?_eq_some_iff.mp hhead
    exact .inr ⟨['*'], rfl⟩
  | case3 c cs hopen ih =>
    rcases ih with h | ⟨w, hw⟩
    · exact .inl h
    · exact .inr ⟨c :: w, by rw [List.cons_append, List.cons_append, ← hw]⟩

theorem exists_piece {close : Char} (hclose : wordChar close = false) {u cs rest : List Char}
    (hu : u ≠ []) (h : rest = [] ∨ ∃ w, cs = w ++ [close] ++ rest) : ∃ w ≠ [], u ++ cs = w ++ rest ∧
    Parted w rest := by
  rcases h with rfl | ⟨w, rfl⟩
  · exact ⟨u ++ cs, by simp [hu], (List.append_nil _).symm, parted_nil_right _⟩
  · exact ⟨u ++ w ++ [close], by simp, by simp, parted_of_last hclose⟩

theorem head_dropWhile {P : Char → Bool} (cs : List Char) :
    ∀ d ∈ (cs.dropWhile P).head?, P d = false := by
  intro d hd
  have hnot := List.head?_dropWhile_not P cs
  rw [Option.mem_def.mp hd] at hnot
  simpa using hnot

/-- **The first piece**: it is not empty, no word goes on behind it, and a word has word
characters. -/
theorem piece_spec (space : Char → Bool) {cs : List Char} (hcs : cs ≠ []) :
    ∃ w ≠ [], cs = w ++ (piece space cs).2 ∧ Parted w (piece space cs).2 ∧
      ((piece space cs).1 = some .word → ∀ c ∈ w, wordChar c = true) := by
  obtain ⟨c, cs, rfl⟩ := List.exists_cons_of_ne_nil hcs
  have hline : ∃ w ≠ [], c :: cs = w ++ afterLine cs ∧ Parted w (afterLine cs) := by
    refine ⟨c :: cs.takeWhile fun c => c != '\n' && c != '\r', by simp, ?_,
      parted_of_head fun d hd => ?_⟩
    · rw [List.cons_append, afterLine, List.takeWhile_append_dropWhile]
    · have hend := head_dropWhile cs d hd
      rcases Bool.and_eq_false_iff.mp hend with h | h
      · obtain rfl : d = '\n' := by simpa using h
        rfl
      · obtain rfl : d = '\r' := by simpa using h
        rfl
  have hone (h : wordChar c = false) : ∃ w ≠ [], c :: cs = w ++ cs ∧ Parted w cs :=
    ⟨[c], by simp, rfl, parted_of_last (u := []) h⟩
  have hquoted (h : wordChar c = false) :
      ∃ w ≠ [], c :: cs = w ++ (quoted c cs).2 ∧ Parted w (quoted c cs).2 :=
    exists_piece (u := [c]) h (by simp) (quoted_rest c cs)
  have hgap {rest : List Char} (h : ∃ w ≠ [], c :: cs = w ++ rest ∧ Parted w rest) :
      ∃ w ≠ [], c :: cs = w ++ rest ∧ Parted w rest ∧ (False → ∀ c ∈ w, wordChar c = true) := by
    obtain ⟨w, hne, hw, hparted⟩ := h
    exact ⟨w, hne, hw, hparted, False.elim⟩
  rw [piece]
  by_cases hword : wordChar c = true
  · rw [if_pos hword]
    refine ⟨c :: cs.takeWhile wordChar, by simp, ?_, parted_of_head (head_dropWhile cs),
      fun _ d hd => ?_⟩
    · rw [List.cons_append, List.takeWhile_append_dropWhile]
    · rcases List.mem_cons.mp hd with rfl | hd
      · exact hword
      · exact List.all_eq_true.mp List.all_takeWhile d hd
  rw [if_neg hword]
  replace hword : wordChar c = false := by simpa using hword
  split_ifs with hspace hhash hdash hslash htick hquote htriple
  · exact hgap (hone hword)
  · exact hgap hline
  · exact hgap hline
  · obtain ⟨rest, rfl⟩ := List.head?_eq_some_iff.mp hslash.2
    exact hgap (exists_piece (u := [c, '*']) (by decide) (by simp) (afterComment_rest rest))
  · simpa using hgap (hquoted hword)
  · obtain ⟨rest, rfl⟩ : ∃ rest, cs = [c, c] ++ rest :=
      ⟨cs.drop 2, by rw [← htriple, List.take_append_drop]⟩
    simpa using hgap (exists_piece (u := [c, c, c]) hword (by simp) (afterTriple_rest c rest))
  · simpa using hgap (hquoted hword)
  · simpa using hgap (hone hword)

/-- **Where a token stands**: in the statement, and a word apart from the word in front of it. -/
theorem mem_tokensFrom {space : Char → Bool} {t : Token} :
    ∀ (n : ℕ) (u cs : List Char), Parted u cs →
    t ∈ tokensFrom space n cs → ∃ v, u ++ cs = v ++ t.start ∧ (t.kind = .word →
      t.text ≠ [] ∧ (∀ c ∈ t.text, wordChar c = true) ∧ ∀ c ∈ v.getLast?, wordChar c = false) := by
  intro n
  induction n with
  | zero =>
    intro u cs _ ht
    cases ht
  | succ n ih =>
    intro u cs hparted ht
    rw [tokensFrom] at ht
    by_cases hcs : cs = []
    · rw [if_pos hcs] at ht
      cases ht
    rw [if_neg hcs] at ht
    obtain ⟨w, hne, hw, hafter, hword⟩ := piece_spec space hcs
    have hparted' : Parted (u ++ w) (piece space cs).2 := by
      intro c hc d hd
      rw [List.getLast?_append_of_ne_nil _ hne] at hc
      exact hafter c hc d hd
    have htext : cs.take (cs.length - (piece space cs).2.length) = w := by
      have hlength : cs.length = w.length + (piece space cs).2.length := by
        rw [← List.length_append, ← hw]
      rw [hlength, Nat.add_sub_cancel]
      nth_rewrite 1 [hw]
      rw [List.take_left]
    have hrest (ht : t ∈ tokensFrom space n (piece space cs).2) : ∃ v, u ++ cs = v ++ t.start ∧
        (t.kind = .word → t.text ≠ [] ∧ (∀ c ∈ t.text, wordChar c = true) ∧
          ∀ c ∈ v.getLast?, wordChar c = false) := by
      obtain ⟨v, hv, hspec⟩ := ih (u ++ w) _ hparted' ht
      refine ⟨v, ?_, hspec⟩
      rw [hw, ← List.append_assoc]
      exact hv
    cases hkind : (piece space cs).1 with
    | none =>
      simp only [hkind] at ht
      exact hrest ht
    | some kind =>
      simp only [hkind, htext] at ht
      rcases List.mem_cons.mp ht with rfl | ht
      · refine ⟨u, ?_, fun h => ?_⟩
        · rw [Token.start, ← hw]
        · have hchars : ∀ c ∈ w, wordChar c = true := hword (by rw [hkind]; exact congrArg some h)
          refine ⟨hne, hchars, fun c hc => ?_⟩
          obtain ⟨d, w', rfl⟩ := List.exists_cons_of_ne_nil hne
          rw [hw] at hparted
          by_contra hlast
          have hnot := hparted c hc d rfl (by simpa using hlast)
          rw [hchars d List.mem_cons_self] at hnot
          cases hnot
      · exact hrest ht

theorem mem_tokens {space : Char → Bool} {statement : List Char} {t : Token}
    (ht : t ∈ tokens space statement) :
    ∃ v, statement = v ++ t.start ∧ (t.kind = .word →
      t.text ≠ [] ∧ (∀ c ∈ t.text, wordChar c = true) ∧ ∀ c ∈ v.getLast?, wordChar c = false) := by
  have hparted : Parted [] statement := by
    intro c hc
    cases hc
  exact mem_tokensFrom _ [] statement hparted ht

/-! ### Names -/

/-- The number a text of digits stands for. -/
def number (base : ℕ) (digits : List Char) : ℕ :=
  digits.foldl (fun n c =>
    n * base + if c.isDigit then c.toNat - 48 else if c.isLower then c.toNat - 87
      else c.toNat - 55) 0

/-- What an escape sequence stands for, and what follows it. -/
def escape : List Char → List Char × List Char
  | 'a' :: cs => (['\x07'], cs)
  | 'b' :: cs => (['\x08'], cs)
  | 'f' :: cs => (['\x0C'], cs)
  | 'n' :: cs => (['\n'], cs)
  | 'r' :: cs => (['\r'], cs)
  | 't' :: cs => (['\t'], cs)
  | 'v' :: cs => (['\x0B'], cs)
  | c :: cs =>
    let digits := if c.isDigit then 3 else if c = 'x' ∨ c = 'X' then 2 else if c = 'u' then 4
      else if c = 'U' then 8 else 0
    if digits = 0 then ([c], cs)
    else if c.isDigit then ([Char.ofNat (number 8 ((c :: cs).take digits))], (c :: cs).drop digits)
    else ([Char.ofNat (number 16 (cs.take digits))], cs.drop digits)
  | [] => ([], [])

/-- A text with its escape sequences read. -/
def unescape : ℕ → List Char → List Char
  | 0, _ => []
  | _ + 1, [] => []
  | n + 1, c :: cs =>
    if c = '\\' then (escape cs).1 ++ unescape n (escape cs).2 else c :: unescape n cs

/-- The identifier a token is. -/
def Token.identifier (t : Token) : List Char :=
  match t.kind with
  | .quoted name => unescape name.length name
  | _ => t.text

/-- The names a token stands for: a name in back-ticks may hold several with dots between them. -/
def Token.names (t : Token) : List (List Char) :=
  match t.kind with
  | .quoted _ => t.identifier.splitOn '.'
  | _ => [t.text]

/-- Lower case of letters. -/
def lower (cs : List Char) : List Char := cs.map Char.toLower

/-- A word is this one, case ignored. -/
def Token.isWord (t : Token) (w : String) : Bool := t.kind == .word && lower t.text == w.toList

/-- The words that are no names. -/
def reserved : List String :=
  ["all", "and", "any", "array", "as", "asc", "assert_rows_modified", "at", "between", "by", "case",
    "cast", "collate", "contains", "create", "cross", "cube", "current", "default",
    "define", "desc",
    "distinct", "else", "end", "enum", "escape", "except", "exclude", "exists", "extract",
    "false", "fetch",
    "following", "for", "from", "full", "group", "grouping", "groups", "hash", "having",
    "if", "ignore", "in", "inner", "intersect", "interval", "into", "is", "join", "lateral", "left",
    "like", "limit",
    "lookup", "merge", "natural", "new", "no", "not", "null", "nulls", "of", "on", "or",
    "order", "outer",
    "over", "partition", "preceding", "proto", "qualify", "range", "recursive", "respect", "right",
    "rollup", "rows", "select", "set", "some", "struct", "tablesample", "then", "to",
    "treat", "true",
    "unbounded", "union", "unnest", "using", "when", "where", "window", "with", "within"]

/-- The words that end a list of tables. -/
def endings : List String :=
  ["select", "where", "group", "having", "qualify", "window", "order", "limit", "union",
    "intersect", "except"]

/-! ### The places of tables -/

/-- A path in the place of a table: the statement from the `FROM` or `JOIN` on that introduces it,
empty if a comma or a bracket does, the names of the path, and the identifier it is, if it is a
single one. -/
structure Reference where
  intro : List Char
  components : List (List Char)
  identifier : Option (List Char) := none
  deriving DecidableEq

/-- The path is this name, case ignored. -/
def Reference.isNamed (r : Reference) (name : List Char) : Bool :=
  r.identifier.any fun identifier => lower identifier == lower name

/-- What a bracket is reading: a list of tables, a list of names for `WITH`, or anything else. -/
inductive Clause where
  | body | fromList | withList
  deriving DecidableEq

/-- An open bracket, or the whole statement. -/
structure Frame where
  close : Option Char := none
  /-- the arguments of `EXTRACT` -/
  extract : Bool := false
  clause : Clause := .body
  /-- a path is expected here, and what introduces it -/
  awaits : Option (List Char) := none
  /-- the names that `WITH` binds here -/
  visible : List (List Char) := []
  /-- the name that is bound next -/
  candidate : List Char := []
  /-- the last `WITH` is recursive -/
  recursive : Bool := false
  /-- so many paths had been found in front of it -/
  mark : ℕ := 0

/-- How a path goes on. -/
inductive Link where
  | none | dot | dash

/-- The reader of a statement. -/
structure Scanner where
  prev : Option Token := none
  /-- the word behind the last token is a name whatever it is -/
  field : Bool := false
  reading : Option (Reference × Link) := none
  frame : Frame := {}
  outer : List Frame := []
  /-- the paths that were read and are not bound, the last one first -/
  found : List Reference := []

/-- The last token is this word. -/
def Scanner.prevIs (s : Scanner) (w : String) : Bool := s.prev.any (·.isWord w)

/-- Nothing stands between the last token and this one. -/
def Scanner.adjacent (s : Scanner) (t : Token) : Bool :=
  s.prev.any (·.rest.length == t.start.length)

/-- The path that is read goes on with this token. Dashes are part of its first name. -/
def Scanner.goOn (s : Scanner) (t : Token) : Option (Reference × Link) :=
  s.reading.bind fun (r, link) =>
    match link, t.kind with
    | .none, .symbol c =>
      if c = '.' then some (r, .dot)
      else if c = '-' ∧ s.adjacent t ∧ r.components.length = 1 ∧ s.prev.any (·.kind == .word) then
        some (r, .dash)
      else none
    | .dot, .word =>
      some ({ r with components := r.components ++ t.names, identifier := none }, .none)
    | .dot, .quoted _ =>
      some ({ r with components := r.components ++ t.names, identifier := none }, .none)
    | .dash, .word =>
      if s.adjacent t then some ({ r with
        components := r.components.map (· ++ '-' :: t.text)
        identifier := r.identifier.map (· ++ '-' :: t.text) }, .none)
      else none
    | _, _ => none

/-- The path that is read ends, unless it is a bound name. Behind it a bracket is that of a
function. -/
def Scanner.finish (s : Scanner) (call : Bool) : Scanner :=
  match s.reading with
  | none => s
  | some (r, _) =>
    { s with
      reading := none
      found := if call || s.frame.visible.any r.isNamed then s.found else r :: s.found }

/-- What is read next in this bracket. -/
def Scanner.expect (s : Scanner) (clause : Clause) (awaits : Option (List Char)) : Scanner :=
  { s with frame := { s.frame with clause := clause, awaits := awaits } }

/-- No path is expected any more. -/
def Scanner.pass (s : Scanner) : Scanner := s.expect s.frame.clause none

/-- A name. -/
def Scanner.name (s : Scanner) (t : Token) : Scanner :=
  match s.frame.awaits with
  | none => s
  | some intro =>
    if s.frame.clause = .withList then
      { s with frame := { s.frame with awaits := none, candidate := t.identifier } }
    else { s.pass with reading := some (⟨intro, t.names, some t.identifier⟩, .none) }

/-- A list of `WITH` begins. -/
def Scanner.withList (s : Scanner) : Scanner :=
  { s with
    frame := { s.frame with
      clause := .withList, awaits := some [], recursive := false, mark := s.found.length } }

/-- A word, where it may be a keyword. -/
def Scanner.word (s : Scanner) (t : Token) : Scanner :=
  if t.isWord "from" then
    if s.frame.extract || s.prevIs "distinct" then s.pass else s.expect .fromList (some t.start)
  else if t.isWord "join" then s.expect s.frame.clause (some t.start)
  else if t.isWord "with" then
    if s.frame.clause = .withList ∨ s.frame.clause = .fromList ∧ s.frame.awaits = none then s
    else s.withList
  else if t.isWord "recursive" then
    if s.frame.clause = .withList ∧ s.prevIs "with" then
      { s with frame := { s.frame with recursive := true } }
    else s
  else if endings.any t.isWord then s.expect .body none
  else if reserved.any t.isWord then s.pass
  else s.name t

/-- The paths that were found, without those that turn out to be a name of the same recursive
list. -/
def Scanner.unbound (s : Scanner) : List Reference :=
  let later := s.found.length - s.frame.mark
  (s.found.take later).filter (fun r => !r.isNamed s.frame.candidate) ++ s.found.drop later

/-- A bracket opens. In the place of a table it holds tables, or a query of its own. -/
def Scanner.openBracket (s : Scanner) (close : Char) : Scanner :=
  let place := close = ')' ∧ s.frame.clause ≠ .withList ∧ s.frame.awaits.isSome
  let expression := s.frame.clause = .withList ∧ s.frame.awaits.isSome
  let binds := close = ')' ∧ s.frame.clause = .withList ∧ s.prevIs "as"
  let visible := if binds then s.frame.candidate :: s.frame.visible else s.frame.visible
  { s with
    frame := {
      close := some close
      extract := s.prevIs "extract"
      clause := if place then .fromList else .body
      awaits := if place then some [] else none
      visible := if s.frame.recursive then visible else s.frame.visible }
    outer := { s.frame with
      clause := if expression then .body else s.frame.clause, awaits := none, visible } :: s.outer
    found := if binds ∧ s.frame.recursive then s.unbound else s.found }

/-- A bracket closes. -/
def Scanner.closeBracket (s : Scanner) (close : Char) : Scanner :=
  match s.outer with
  | frame :: outer =>
    if s.frame.close = some close then { s with frame := frame, outer := outer } else s.pass
  | [] => s.pass

/-- The brackets with what they close with. -/
def brackets : List (Char × Char) := [('(', ')'), ('[', ']'), ('{', '}')]

/-- A symbol. -/
def Scanner.symbol (s : Scanner) (t : Token) (c : Char) : Scanner :=
  match brackets.lookup c with
  | some close => s.openBracket close
  | none =>
    if c = '<' ∧ (s.prevIs "array" || s.prevIs "struct" || s.prevIs "range") then s.openBracket '>'
    else if c = '>' ∧ s.adjacent t ∧ s.prev.any (·.kind == .symbol '|') then s.expect .body none
    else if c = ')' ∨ c = ']' ∨ c = '}' ∨ c = '>' then s.closeBracket c
    else if c = ',' ∧ s.frame.clause ≠ .body then s.expect s.frame.clause (some [])
    else s.pass

/-- A token that is not part of a path that is read. -/
def Scanner.token (s : Scanner) (t : Token) : Scanner :=
  match t.kind with
  | .word => if s.field then s.pass else s.word t
  | .quoted _ => if s.field then s.pass else s.name t
  | .literal => s.pass
  | .symbol c => s.symbol t c

/-- A word behind this token is a name: behind the `@` of a parameter, and behind a dot that does
not end a number. -/
def Scanner.opensField (s : Scanner) (t : Token) : Bool :=
  t.kind == .symbol '@' || t.kind == .symbol '.' &&
    !(s.adjacent t && s.prev.any fun p => p.kind == .word && p.text.head?.any Char.isDigit)

/-- The next token is read. -/
def Scanner.step (s : Scanner) (t : Token) : Scanner :=
  match s.goOn t with
  | some reading => { s with reading := some reading, prev := some t, field := false }
  | none =>
    { (s.finish (t.kind == .symbol '(')).token t with prev := some t, field := s.opensField t }

/-- The reader at the end of the statement. -/
def scan (space : Char → Bool) (statement : List Char) : Scanner :=
  ((tokens space statement).foldl Scanner.step {}).finish false

/-- **The tables of a statement**: the paths in the place of a table that no `WITH` in scope
binds. -/
def tableReferences (space : Char → Bool) (statement : List Char) : List Reference :=
  (scan space statement).found.reverse

-- a name is no table behind the query it stands for, and is one in front of it
example : ((tableReferences (· == ' ')
    "WITH a AS (SELECT * FROM b), b AS (SELECT 1) SELECT * FROM a JOIN b".toList).map
      (·.components)) =
      [["b".toList]] := by decide +kernel

/-! ### What introduces a path -/

/-- Everything the reader keeps as an introduction is good. -/
structure Introduced (good : List Char → Prop) (s : Scanner) : Prop where
  frame : ∀ i ∈ s.frame.awaits, good i
  outer : ∀ f ∈ s.outer, ∀ i ∈ f.awaits, good i
  reading : ∀ x ∈ s.reading, good x.1.intro
  found : ∀ r ∈ s.found, good r.intro

section

variable {good : List Char → Prop} {s : Scanner} {t : Token}

theorem Introduced.finish (h : Introduced good s) (call : Bool) :
    Introduced good (s.finish call) := by
  unfold Scanner.finish
  cases hr : s.reading with
  | none => exact h
  | some x =>
    refine ⟨h.frame, h.outer, fun y hy => (by cases hy), fun r hr' => ?_⟩
    dsimp only at hr'
    split_ifs at hr'
    · exact h.found r hr'
    · rcases List.mem_cons.mp hr' with rfl | hr'
      · exact h.reading _ hr
      · exact h.found r hr'

theorem Introduced.expect (h : Introduced good s) (clause : Clause) {awaits : Option (List Char)}
    (hawaits : ∀ i ∈ awaits, good i) : Introduced good (s.expect clause awaits) :=
  ⟨hawaits, h.outer, h.reading, h.found⟩

theorem Introduced.pass (h : Introduced good s) : Introduced good s.pass :=
  h.expect _ fun i hi => by cases hi

theorem Introduced.name (h : Introduced good s) (t : Token) : Introduced good (s.name t) := by
  unfold Scanner.name
  cases hi : s.frame.awaits with
  | none => exact h
  | some i =>
    dsimp only
    split_ifs
    · exact ⟨h.pass.frame, h.outer, h.reading, h.found⟩
    · refine ⟨h.pass.frame, h.outer, fun x hx => ?_, h.found⟩
      obtain rfl := Option.some.inj hx
      exact h.frame i hi

theorem Introduced.word (h : Introduced good s) (hnil : good [])
    (ht : t.isWord "from" = true ∨ t.isWord "join" = true → good t.start) :
    Introduced good (s.word t) := by
  have hstart (hword : t.isWord "from" = true ∨ t.isWord "join" = true) :
      ∀ i ∈ some t.start, good i := by
    rintro i ⟨⟩
    exact ht hword
  unfold Scanner.word
  by_cases hfrom : t.isWord "from" = true
  · rw [if_pos hfrom]
    split_ifs
    · exact h.pass
    · exact h.expect _ (hstart (.inl hfrom))
  rw [if_neg hfrom]
  by_cases hjoin : t.isWord "join" = true
  · rw [if_pos hjoin]
    exact h.expect _ (hstart (.inr hjoin))
  rw [if_neg hjoin]
  split_ifs
  · exact h
  · refine ⟨fun i hi => ?_, h.outer, h.reading, h.found⟩
    cases hi
    exact hnil
  · exact ⟨h.frame, h.outer, h.reading, h.found⟩
  · exact h
  · exact h.expect _ fun i hi => by cases hi
  · exact h.pass
  · exact h.name t

theorem mem_of_mem_unbound {r : Reference} (h : r ∈ s.unbound) : r ∈ s.found := by
  rcases List.mem_append.mp h with h | h
  · exact List.mem_of_mem_take (List.mem_of_mem_filter h)
  · exact List.mem_of_mem_drop h

theorem Introduced.openBracket (h : Introduced good s) (hnil : good []) (close : Char) :
    Introduced good (s.openBracket close) := by
  refine ⟨fun i hi => ?_, fun f hf i hi => ?_, h.reading, fun r hr => h.found r ?_⟩
  · unfold Scanner.openBracket at hi
    dsimp only at hi
    split_ifs at hi
    · cases hi
      exact hnil
    · cases hi
  · rcases List.mem_cons.mp hf with rfl | hf
    · cases hi
    · exact h.outer f hf i hi
  · unfold Scanner.openBracket at hr
    dsimp only at hr
    split_ifs at hr
    all_goals first | exact mem_of_mem_unbound hr | exact hr

theorem Introduced.closeBracket (h : Introduced good s) (close : Char) :
    Introduced good (s.closeBracket close) := by
  unfold Scanner.closeBracket
  cases houter : s.outer with
  | nil => exact h.pass
  | cons frame outer =>
    dsimp only
    split_ifs
    · have hall := houter ▸ h.outer
      exact ⟨hall _ List.mem_cons_self, fun f hf => hall f (List.mem_cons_of_mem _ hf),
        h.reading, h.found⟩
    · exact h.pass

theorem Introduced.symbol (h : Introduced good s) (hnil : good []) (t : Token) (c : Char) :
    Introduced good (s.symbol t c) := by
  unfold Scanner.symbol
  cases brackets.lookup c with
  | some close => exact h.openBracket hnil close
  | none =>
    dsimp only
    split_ifs
    · exact h.openBracket hnil '>'
    · exact h.expect _ fun i hi => by cases hi
    · exact h.closeBracket c
    · exact h.expect _ fun i hi => by cases hi; exact hnil
    · exact h.pass

theorem Introduced.token (h : Introduced good s) (hnil : good [])
    (ht : t.isWord "from" = true ∨ t.isWord "join" = true → good t.start) :
    Introduced good (s.token t) := by
  unfold Scanner.token
  cases t.kind with
  | word =>
    dsimp only
    split_ifs
    · exact h.pass
    · exact h.word hnil ht
  | quoted name =>
    dsimp only
    split_ifs
    · exact h.pass
    · exact h.name t
  | literal => exact h.pass
  | symbol c => exact h.symbol hnil t c

theorem goOn_intro {x : Reference × Link} (h : s.goOn t = some x) :
    ∃ y ∈ s.reading, x.1.intro = y.1.intro := by
  obtain ⟨⟨r, link⟩, hr, h⟩ := Option.bind_eq_some_iff.mp h
  refine ⟨_, hr, ?_⟩
  dsimp only at h ⊢
  split at h
  all_goals
    try split_ifs at h
    all_goals cases h <;> rfl

/-- **One token** introduces no path but as a `FROM` or `JOIN`. -/
theorem Introduced.step (h : Introduced good s) (hnil : good [])
    (ht : t.isWord "from" = true ∨ t.isWord "join" = true → good t.start) :
    Introduced good (s.step t) := by
  unfold Scanner.step
  cases hgo : s.goOn t with
  | some x =>
    refine ⟨h.frame, h.outer, fun y hy => ?_, h.found⟩
    obtain rfl := Option.some.inj hy
    obtain ⟨z, hz, hintro⟩ := goOn_intro hgo
    rw [hintro]
    exact h.reading z hz
  | none =>
    have htoken := (h.finish (t.kind == .symbol '(')).token hnil ht
    exact ⟨htoken.frame, htoken.outer, htoken.reading, htoken.found⟩

end

/-- **The whole statement**: what introduces a path is nothing, or the statement from a `FROM` or
`JOIN` on. -/
theorem intro_of_reference {space : Char → Bool} {statement : List Char} {r : Reference}
    (hr : r ∈ tableReferences space statement) :
    r.intro = [] ∨ ∃ t ∈ tokens space statement, (t.isWord "from" = true ∨ t.isWord "join" = true) ∧
      r.intro = t.start := by
  let good (i : List Char) : Prop := i = [] ∨ ∃ t ∈ tokens space statement,
    (t.isWord "from" = true ∨ t.isWord "join" = true) ∧ i = t.start
  have hfold : ∀ (ts : List Token) (s : Scanner), ts ⊆ tokens space statement → Introduced good s →
      Introduced good (ts.foldl Scanner.step s) := by
    intro ts
    induction ts with
    | nil => exact fun s _ h => h
    | cons t ts ih =>
      intro s hts h
      obtain ⟨ht, hts⟩ := List.cons_subset.mp hts
      exact ih _ hts (h.step (.inl rfl) fun hword => .inr ⟨t, ht, hword, rfl⟩)
  have hinit : Introduced good {} := by
    refine ⟨?_, ?_, ?_, ?_⟩
    all_goals
      intro x hx
      cases hx
  have hscan : Introduced good (scan space statement) :=
    (hfold _ _ (List.Subset.refl _) hinit).finish false
  exact hscan.found r (List.mem_reverse.mp hr)

end Blessing.Lib.Sql
