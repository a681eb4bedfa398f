import Blessing.Lib.Text

/-! # Backtracking regular expressions

Patterns with greedy repetition, groups, back references, word boundaries and negative look-ahead,
under the backtracking reading: `run r p` lists the ends of all matches of `r` that start at the
position `p`, in the order a backtracking matcher tries them, so the match it reports is the first
of the list. A position is the text still to read together with the character in front of it and
the groups captured so far.

* `matchAt`, `find`, `sub`: the match at a position, all matches from left to right, and their
  replacement. The patterns used here match no empty text; an empty match is passed over.
* `needs P r`: a syntactic check that every match of `r` reads a character with `P`. A text without
  such a character is left alone (`sub_eq_of_needs`). -/

namespace Blessing.Lib.Regex

open Blessing.Lib.Text

/-- A pattern. -/
inductive Pattern where
  | eps
  /-- one character out of a list -/
  | oneOf (cs : List Char)
  /-- one character of a class -/
  | cls (f : Char → Bool)
  | seq (r s : Pattern)
  | alt (r s : Pattern)
  /-- greedy repetition -/
  | star (r : Pattern)
  | group (n : ℕ) (r : Pattern)
  | backref (n : ℕ)
  /-- `\b`, given the word characters -/
  | wordBoundary (word : Char → Bool)
  /-- `(?!r)` -/
  | notAhead (r : Pattern)

/-- A position in the text. -/
structure Pos where
  prev : Option Char
  rest : List Char
  caps : List (ℕ × List Char) := []

/-- The class `\w` of the ASCII characters. -/
def isWord (c : Char) : Bool := c.isAlphanum || c == '_'

/-- Reading the text `w` in front of `rest`. -/
def Pos.skip (p : Pos) (w rest : List Char) : Pos :=
  { p with prev := w.getLast?.or p.prev, rest := rest }

/-- The text read between two positions. -/
def between (p q : Pos) : List Char := p.rest.take (p.rest.length - q.rest.length)

/-- The latest text captured by group `n`. -/
def Pos.cap (p : Pos) (n : ℕ) : Option (List Char) := (p.caps.find? (·.1 == n)).map (·.2)

/-- At a word boundary exactly one of the two neighbours is a word character. -/
def Pos.atBoundary (p : Pos) (word : Char → Bool) : Bool :=
  (p.prev.any word) != (p.rest.head?.any word)

/-- Greedy repetition of a step: longer repetitions first, every round reads something. -/
def starRun (f : Pos → List Pos) : ℕ → Pos → List Pos
  | 0, p => [p]
  | n + 1, p =>
    ((f p).filter fun q => q.rest.length < p.rest.length).flatMap (starRun f n) ++ [p]

/-- The ends of all matches from `p`, in the order of backtracking. -/
def run : Pattern → Pos → List Pos
  | .eps, p => [p]
  | .oneOf cs, p =>
    match p.rest with
    | [] => []
    | c :: rest => if c ∈ cs then [p.skip [c] rest] else []
  | .cls f, p =>
    match p.rest with
    | [] => []
    | c :: rest => if f c then [p.skip [c] rest] else []
  | .seq r s, p => (run r p).flatMap (run s)
  | .alt r s, p => run r p ++ run s p
  | .star r, p => starRun (run r) p.rest.length p
  | .group n r, p => (run r p).map fun q => { q with caps := (n, between p q) :: q.caps }
  | .backref n, p =>
    match p.cap n with
    | none => []
    | some w => if w.isPrefixOf p.rest then [p.skip w (p.rest.drop w.length)] else []
  | .wordBoundary word, p => if p.atBoundary word then [p] else []
  | .notAhead r, p => if (run r p).isEmpty then [p] else []

/-- The match a backtracking matcher reports at `p`. -/
def matchAt (r : Pattern) (p : Pos) : Option Pos := (run r { p with caps := [] }).head?

/-- A reported match: its text and its groups. -/
structure Match where
  text : List Char
  caps : List (ℕ × List Char)

/-- The text of a group, empty if the group took no part. -/
def Match.group (m : Match) (n : ℕ) : List Char := ((m.caps.find? (·.1 == n)).map (·.2)).getD []

/-- The first non-empty match at or after `p` is cut out, with the text in front of it. -/
def nextMatch (r : Pattern) : ℕ → Pos → Option (List Char × Match × Pos)
  | 0, _ => none
  | n + 1, p =>
    match p.rest with
    | [] => none
    | c :: cs =>
      match (matchAt r p).filter fun q => q.rest.length ≤ cs.length with
      | some q => some ([], ⟨between p q, q.caps⟩, { q with caps := [] })
      | none => (nextMatch r n ⟨some c, cs, []⟩).map fun (w, m) => (c :: w, m)

/-- All matches from left to right. -/
def findFrom (r : Pattern) : ℕ → Pos → List Match
  | 0, _ => []
  | n + 1, p =>
    match nextMatch r p.rest.length p with
    | none => []
    | some (_, m, q) => m :: findFrom r n q

/-- `finditer`. -/
def find (r : Pattern) (cs : List Char) : List Match := findFrom r cs.length ⟨none, cs, []⟩

/-- Replacement of all matches from left to right. -/
def subFrom (r : Pattern) (repl : Match → List Char) : ℕ → Pos → List Char
  | 0, p => p.rest
  | n + 1, p =>
    match nextMatch r p.rest.length p with
    | none => p.rest
    | some (w, m, q) => w ++ repl m ++ subFrom r repl n q

/-- `sub`. -/
def sub (r : Pattern) (repl : Match → List Char) (cs : List Char) : List Char :=
  subFrom r repl cs.length ⟨none, cs, []⟩

/-! ### Building patterns -/

/-- The patterns one after the other. -/
def seqs : List Pattern → Pattern
  | [] => .eps
  | r :: rs => .seq r (seqs rs)

/-- The patterns as alternatives, the first one tried first. -/
def alts : List Pattern → Pattern
  | [] => .oneOf []
  | [r] => r
  | r :: rs => .alt r (alts rs)

/-- `r?`, greedy. -/
def opt (r : Pattern) : Pattern := .alt r .eps

/-- `r+`, greedy. -/
def plus (r : Pattern) : Pattern := .seq r (.star r)

/-- `r{n,}`, greedy. -/
def atLeast (n : ℕ) (r : Pattern) : Pattern := .seq (seqs (List.replicate n r)) (.star r)

/-- The characters equal to `c` when case is ignored. The three letters with a further Unicode
variant are listed with it. -/
def foldCase (c : Char) : List Char :=
  if c.toLower == 'i' then ['i', 'I', 'ı', 'İ']
  else if c.toLower == 'k' then ['k', 'K', '\u212A']
  else if c.toLower == 's' then ['s', 'S', 'ſ']
  else [c.toLower, c.toUpper]

/-- A literal text. -/
def lit (s : String) : Pattern := seqs (s.toList.map fun c => .oneOf [c])

/-- A literal text, case ignored. -/
def litCI (s : String) : Pattern := seqs (s.toList.map fun c => .oneOf (foldCase c))

/-! ### Characters a match must read -/

/-- Every match reads a character with `P`. -/
def needs (P : Char → Bool) : Pattern → Bool
  | .oneOf cs => cs.all P
  | .seq r s => needs P r || needs P s
  | .alt r s => needs P r && needs P s
  | .group _ r => needs P r
  | _ => false

theorem starRun_reads {f : Pos → List Pos} (hf : ∀ p, ∀ q ∈ f p, ∃ w, p.rest = w ++ q.rest) :
    ∀ (n : ℕ) (p : Pos), ∀ q ∈ starRun f n p, ∃ w, p.rest = w ++ q.rest
  | 0, p, q, hq => by
    rw [starRun, List.mem_singleton] at hq
    exact ⟨[], by rw [hq]; rfl⟩
  | n + 1, p, q, hq => by
    rw [starRun, List.mem_append, List.mem_flatMap, List.mem_singleton] at hq
    rcases hq with ⟨p', hp', hq⟩ | rfl
    · obtain ⟨v, hv⟩ := hf p p' (List.mem_filter.mp hp').1
      obtain ⟨w, hw⟩ := starRun_reads hf n p' q hq
      exact ⟨v ++ w, by rw [hv, hw, List.append_assoc]⟩
    · exact ⟨[], rfl⟩

/-- **What a match reads**: a piece of the text, with the characters the pattern needs. -/
theorem run_reads (P : Char → Bool) : ∀ (r : Pattern) (p q : Pos), q ∈ run r p →
    ∃ w, p.rest = w ++ q.rest ∧ (needs P r = true → ∃ c ∈ w, P c = true) := by
  intro r
  induction r with
  | eps =>
    intro p q hq
    rw [run, List.mem_singleton] at hq
    exact ⟨[], by rw [hq]; rfl, by simp [needs]⟩
  | oneOf cs =>
    intro p q hq
    rw [run] at hq
    split at hq
    · simp at hq
    · rename_i c rest hrest
      split_ifs at hq with hc
      · rw [List.mem_singleton] at hq
        refine ⟨[c], by rw [hrest, hq]; rfl, fun h => ⟨c, by simp, ?_⟩⟩
        exact List.all_eq_true.mp h c hc
      · simp at hq
  | cls f =>
    intro p q hq
    rw [run] at hq
    split at hq
    · simp at hq
    · rename_i c rest hrest
      split_ifs at hq with hc
      · rw [List.mem_singleton] at hq
        exact ⟨[c], by rw [hrest, hq]; rfl, by simp [needs]⟩
      · simp at hq
  | seq r s ihr ihs =>
    intro p q hq
    rw [run, List.mem_flatMap] at hq
    obtain ⟨p', hp', hq⟩ := hq
    obtain ⟨v, hv, hvP⟩ := ihr p p' hp'
    obtain ⟨w, hw, hwP⟩ := ihs p' q hq
    refine ⟨v ++ w, by rw [hv, hw, List.append_assoc], fun h => ?_⟩
    rw [needs, Bool.or_eq_true] at h
    rcases h with h | h
    · obtain ⟨c, hc, hcP⟩ := hvP h
      exact ⟨c, List.mem_append_left _ hc, hcP⟩
    · obtain ⟨c, hc, hcP⟩ := hwP h
      exact ⟨c, List.mem_append_right _ hc, hcP⟩
  | alt r s ihr ihs =>
    intro p q hq
    rw [run, List.mem_append] at hq
    rcases hq with hq | hq
    · obtain ⟨w, hw, hwP⟩ := ihr p q hq
      exact ⟨w, hw, fun h => hwP (Bool.and_eq_true_iff.mp h).1⟩
    · obtain ⟨w, hw, hwP⟩ := ihs p q hq
      exact ⟨w, hw, fun h => hwP (Bool.and_eq_true_iff.mp h).2⟩
  | star r ih =>
    intro p q hq
    rw [run] at hq
    obtain ⟨w, hw⟩ := starRun_reads
      (fun p q hq => (ih p q hq).imp fun _ h => h.1) p.rest.length p q hq
    exact ⟨w, hw, by simp [needs]⟩
  | group n r ih =>
    intro p q hq
    rw [run, List.mem_map] at hq
    obtain ⟨q', hq', rfl⟩ := hq
    exact ih p q' hq'
  | backref n =>
    intro p q hq
    rw [run] at hq
    split at hq
    · simp at hq
    · rename_i w _
      split_ifs at hq with hw
      · rw [List.mem_singleton] at hq
        refine ⟨w, ?_, by simp [needs]⟩
        obtain ⟨t, ht⟩ := List.isPrefixOf_iff_prefix.mp hw
        simp [hq, Pos.skip, ← ht]
      · simp at hq
  | wordBoundary word =>
    intro p q hq
    rw [run] at hq
    split_ifs at hq
    · rw [List.mem_singleton] at hq
      exact ⟨[], by rw [hq]; rfl, by simp [needs]⟩
    · simp at hq
  | notAhead r ih =>
    intro p q hq
    rw [run] at hq
    split_ifs at hq
    · rw [List.mem_singleton] at hq
      exact ⟨[], by rw [hq]; rfl, by simp [needs]⟩
    · simp at hq

/-- A pattern that needs a character the text does not have matches nowhere in it. -/
theorem nextMatch_eq_none_of_needs {P : Char → Bool} {r : Pattern} (hr : needs P r = true) :
    ∀ (n : ℕ) (p : Pos), (∀ c ∈ p.rest, P c = false) → nextMatch r n p = none
  | 0, _, _ => rfl
  | n + 1, p, hp => by
    have hno : matchAt r p = none := by
      rw [matchAt, List.head?_eq_none_iff, List.eq_nil_iff_forall_not_mem]
      intro q hq
      obtain ⟨w, hw, hP⟩ := run_reads P r _ q hq
      obtain ⟨c, hc, hcP⟩ := hP hr
      have := hp c (hw ▸ List.mem_append_left _ hc)
      simp [this] at hcP
    rw [nextMatch, hno]
    split
    · rfl
    · rename_i c cs hcs
      have hcs' : ∀ c ∈ cs, P c = false := fun d hd => hp d (by rw [hcs]; simp [hd])
      simp [nextMatch_eq_none_of_needs hr n ⟨some c, cs, []⟩ hcs']

theorem sub_eq_of_needs {P : Char → Bool} {r : Pattern} (hr : needs P r = true)
    (repl : Match → List Char) {cs : List Char} (h : ∀ c ∈ cs, P c = false) :
    sub r repl cs = cs := by
  unfold sub
  cases hn : cs.length with
  | zero => rfl
  | succ n => rw [subFrom, nextMatch_eq_none_of_needs hr _ _ h]

end Blessing.Lib.Regex
