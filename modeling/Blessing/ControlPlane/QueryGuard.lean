import Blessing.Lib.JavaScript
import Blessing.Lib.Sql
import Blessing.Lib.Substitution

/-! # Queries of the console

The server sends a query to BigQuery if it is a single read statement, names a partition filter
where one is needed, and every table its pattern finds behind `FROM` or `JOIN` is one of the
configured ones. The pattern finds a table only where the path is written right behind the keyword
and white space, as two or three plain names or the whole of them in back-ticks.

* `isAllowlisted_of_plain`: a table written so is found, and is a configured one.
* `allowlisted_iff`: all tables of an accepted query are configured ones exactly if the other ones
  are.
* `quoted_names_pass`: a table in back-ticks name by name is not found. -/

namespace Blessing.ControlPlane.QueryGuard

open Blessing.Lib Blessing.Lib.Regex Blessing.Lib.Substitution Blessing.Lib.Sql

/-! ### The guard -/

/-- The tables of `BIGQUERY_TABLES`, by their datasets. -/
def bigqueryTables : List (String × List String) :=
  [("market_data", ["ohlcv_bars"]), ("signals", ["strategy_decisions"]),
    ("risk", ["portfolio_snapshots"]), ("backtests", ["experiment_runs"])]

/-- The names every object has from `Object.prototype`, which `in` finds. -/
def prototypeNames : List String :=
  ["constructor", "__defineGetter__", "__defineSetter__", "hasOwnProperty", "__lookupGetter__",
    "__lookupSetter__", "isPrototypeOf", "propertyIsEnumerable", "toString", "valueOf", "__proto__",
    "toLocaleString"]

/-- What is thrown. -/
inductive Fault where
  /-- `BigQueryServiceError` -/
  | service (code message : String) (httpStatus : ℕ)
  | typeError
  deriving DecidableEq

/-- A literal text, the case of letters ignored. -/
def anyCase (s : String) : Pattern := seqs (s.toList.map fun c => .oneOf [c.toLower, c.toUpper])

/-- A character of the names in `TABLE_REFERENCE_PATTERN`. -/
def nameChar (c : Char) : Bool := c.isAlphanum || c == '_' || c == '-'

/-- `\s` -/
def spaces : Pattern := .star (.cls JavaScript.isSpace)

/-- `PARTITION_FILTER_PATTERN` -/
def partitionFilterPattern : Pattern :=
  seqs [.wordBoundary isWord, alts [anyCase "timestamp", anyCase "created_at"],
    .wordBoundary isWord, spaces, alts [lit ">=", lit ">", lit "=", anyCase "BETWEEN"], spaces]

/-- The names of a path in `TABLE_REFERENCE_PATTERN`. -/
def tablePath : Pattern :=
  .seq (plus (.cls nameChar)) (.seq (.seq (.oneOf ['.']) (plus (.cls nameChar)))
    (opt (.seq (.oneOf ['.']) (plus (.cls nameChar)))))

/-- `TABLE_REFERENCE_PATTERN` -/
def tableReferencePattern : Pattern :=
  seqs [.wordBoundary isWord, alts [anyCase "FROM", anyCase "JOIN"], plus (.cls JavaScript.isSpace),
    opt (.oneOf ['\x60']), .group 1 tablePath, opt (.oneOf ['\x60'])]

/-- The pattern of a read statement, from its start. -/
def readPattern : Pattern :=
  seqs [spaces, .group 1 (alts [anyCase "SELECT", anyCase "WITH"]), .wordBoundary isWord]

/-- The pattern of the words that change data. -/
def mutationPattern : Pattern :=
  seqs [.wordBoundary isWord, .group 1 (alts [anyCase "INSERT", anyCase "UPDATE", anyCase "DELETE",
    anyCase "MERGE", anyCase "CREATE", anyCase "DROP", anyCase "ALTER", anyCase "TRUNCATE",
    anyCase "EXPORT", anyCase "LOAD",
    anyCase "CALL", anyCase "EXECUTE", anyCase "DECLARE", anyCase "SET"]), .wordBoundary isWord]

/-- The pattern of the tables with partitions. -/
def partitionedPattern : Pattern :=
  alts [anyCase "market_data.ohlcv_bars", anyCase "signals.strategy_decisions",
    anyCase "risk.portfolio_snapshots", anyCase "backtests.experiment_runs"]

/-- `test` of a pattern without an anchor. -/
def test (r : Pattern) (query : String) : Bool := !(find r query.toList).isEmpty

/-- The `allowlisted` of one reference: a dataset name every object has stands for no dataset, and
its tables cannot be read. -/
def isAllowlisted (project : String) (reference : List Char) : Except Fault Bool :=
  let parts := (reference.splitOn '.').map String.ofList
  let projectId := if parts.length = 3 then parts.getD 0 "" else project
  let datasetId := parts.getD (if parts.length = 3 then 1 else 0) ""
  let tableId := parts.getD (if parts.length = 3 then 2 else 1) ""
  if projectId ≠ project then .ok false
  else
    match bigqueryTables.lookup datasetId with
    | some tables => .ok (tableId ≠ "" && tables.contains tableId)
    | none =>
      if prototypeNames.contains datasetId && tableId ≠ "" then .error .typeError else .ok false

/-- The loop over the references. -/
def checkReferences (project : String) : List (List Char) → Except Fault Unit
  | [] => .ok ()
  | reference :: references =>
    match isAllowlisted project reference with
    | .error e => .error e
    | .ok false => .error (.service "TABLE_NOT_ALLOWLISTED"
        "The query references a table outside the configured BigQuery datasets" 400)
    | .ok true => checkReferences project references

/-- `validateAllowlistedTableReferences` -/
def validateAllowlistedTableReferences (project : String) (query : String) : Except Fault Unit :=
  checkReferences project ((find tableReferencePattern query.toList).map (·.group 1))

/-- `validateReadOnlyQuery` -/
def validateReadOnlyQuery (project : String) (query : String) : Except Fault Unit :=
  if query.toList.contains ';' || (run readPattern ⟨none, query.toList, []⟩).isEmpty then
    .error (.service "READ_ONLY_REQUIRED"
      "Only a single read-only SELECT or WITH query is allowed" 400)
  else if test mutationPattern query then
    .error (.service "READ_ONLY_REQUIRED" "Only read-only BigQuery queries are allowed" 400)
  else if test partitionedPattern query && !test partitionFilterPattern query then
    .error (.service "PARTITION_FILTER_REQUIRED"
      "A partition filter on timestamp or created_at is required for this dataset" 400)
  else validateAllowlistedTableReferences project query

/-! ### Characters -/

theorem nameChar_le {c : Char} (h : nameChar c = true) : c.toNat ≤ 122 := by
  unfold nameChar Char.isAlphanum Char.isAlpha Char.isUpper Char.isLower Char.isDigit at h
  simp only [Bool.or_eq_true, Bool.and_eq_true, decide_eq_true_eq, beq_iff_eq,
    UInt32.le_iff_toNat_le] at h
  have hval : c.val.toNat = c.toNat := rfl
  rcases h with ((((h | h) | h) | rfl) | rfl)
  · have := h.2
    simp at this
    omega
  · have := h.2
    simp at this
    omega
  · have := h.2
    simp at this
    omega
  · decide
  · decide

theorem nameChar_not_space {c : Char} (h : nameChar c = true) : JavaScript.isSpace c = false := by
  have hsmall : ∀ n < 123, nameChar (Char.ofNat n) = true →
      JavaScript.isSpace (Char.ofNat n) = false := by
    decide +kernel
  have hc := hsmall c.toNat (Nat.lt_succ_of_le (nameChar_le h))
  rw [Char.ofNat_toNat] at hc
  exact hc h

theorem nameChar_of_wordChar {c : Char} (h : wordChar c = true) : nameChar c = true := by
  rw [nameChar, Bool.or_eq_true]
  exact .inl h

theorem isWord_eq_wordChar : isWord = wordChar := rfl

/-- A letter of the keywords in either case. -/
theorem mem_cases {c d : Char} (hd : d ∈ "FROMJOIN".toList) (h : c.toLower = d.toLower) :
    c ∈ [d.toLower, d.toUpper] := by
  have hsmall : ∀ n < 123, ("FROMJOIN".toList.all fun d =>
      (Char.ofNat n).toLower != d.toLower || [d.toLower, d.toUpper].contains (Char.ofNat n)) =
        true := by
    decide +kernel
  by_cases hc : c.toNat ≤ 122
  · have hall := List.all_eq_true.mp (hsmall c.toNat (Nat.lt_succ_of_le hc)) d hd
    rw [Char.ofNat_toNat, h, bne_self_eq_false, Bool.false_or] at hall
    exact List.contains_iff_mem.mp hall
  · have hlower : c.toLower = c := by
      unfold Char.toLower
      refine dif_neg fun h => hc ?_
      have hle : c.val.toNat ≤ 90 := by simpa [UInt32.le_iff_toNat_le] using h.2
      exact hle.trans (by decide)
    rw [← h, hlower]
    exact List.mem_cons_self

theorem lang_anyCase {s : String}
    (hletters : (s.toList.all fun d => "FROMJOIN".toList.contains d) = true)
    {w : List Char} (h : lower w = lower s.toList) : Lang (anyCase s) w := by
  have hs : ∀ d ∈ s.toList, d ∈ "FROMJOIN".toList := fun d hd =>
    List.contains_iff_mem.mp (List.all_eq_true.mp hletters d hd)
  clear hletters
  unfold anyCase
  generalize s.toList = ds at h hs
  induction ds generalizing w with
  | nil =>
    obtain rfl := List.map_eq_nil_iff.mp h
    exact .eps
  | cons d ds ih =>
    obtain ⟨c, w, rfl, hc, hw⟩ := List.map_eq_cons_iff.mp h
    exact .seq (v := [c]) (.oneOf (mem_cases (hs d List.mem_cons_self) hc))
      (ih hw fun d hd => hs d (List.mem_cons_of_mem _ hd))

theorem anyCase_length {s : String} {w : List Char} (h : Lang (anyCase s) w) :
    w.length = s.toList.length := by
  unfold anyCase at h
  generalize s.toList = ds at h
  induction ds generalizing w with
  | nil =>
    cases h
    rfl
  | cons d ds ih =>
    cases h with
    | seq hc hw =>
      cases hc
      rw [List.length_append, ih hw]
      exact Nat.add_comm _ _

/-! ### What the pattern finds -/

/-- The keywords of tables. -/
def keywords : Pattern := alts [anyCase "FROM", anyCase "JOIN"]

/-- A text of one of the keywords. -/
def IsKeyword (w : List Char) : Prop :=
  lower w = lower "FROM".toList ∨ lower w = lower "JOIN".toList

theorem lang_keyword {w : List Char} (h : IsKeyword w) : Lang keywords w := by
  rcases h with h | h
  · exact .left (lang_anyCase (by decide) h)
  · exact .right (lang_anyCase (by decide) h)

theorem keyword_length {w : List Char} (h : Lang keywords w) : w.length = 4 := by
  cases h with
  | left h => exact anyCase_length h
  | right h => exact anyCase_length h

theorem tableReferencePattern_eq : tableReferencePattern =
    .seq (.wordBoundary isWord)
      (.seq keywords (.seq (plus (.cls JavaScript.isSpace)) (.seq (opt (.oneOf ['\x60']))
      (.seq (.group 1 tablePath) (.seq (opt (.oneOf ['\x60'])) .eps))))) := rfl

/-- What may stand behind a path so that it does not go on. -/
def PathEnd (x : List Char) : Prop := ∀ c ∈ x.head?, nameChar c = false ∧ c ≠ '.'

/-- A path of two or three names. -/
structure IsPath (components : List (List Char)) : Prop where
  length : components.length = 2 ∨ components.length = 3
  nonempty : ∀ n ∈ components, n ≠ []
  chars : ∀ n ∈ components, ∀ c ∈ n, nameChar c = true

/-- The names with dots between them. -/
def written (components : List (List Char)) : List Char := ['.'].intercalate components

theorem written_two (a b : List Char) : written [a, b] = a ++ '.' :: b := by
  simp [written, List.intercalate]

theorem written_three (a b c : List Char) : written [a, b, c] = a ++ ('.' :: b ++ '.' :: c) := by
  simp [written, List.intercalate]

theorem run_opt_ne_nil (r : Pattern) (p : Pos) : run (.seq (opt r) .eps) p ≠ [] := by
  rw [run_seq_eps, opt, run, run]
  simp

theorem head_tablePath {components : List (List Char)} (h : IsPath components) {p : Pos}
    {x : List Char} (hrest : p.rest = written components ++ x) (hx : PathEnd x) :
    (run tablePath p).head? = some (p.skip (written components) x) := by
  have hstop : Stop nameChar x := fun c hc => (hx c hc).1
  have hdot (w : List Char) : Stop nameChar ('.' :: w) := by
    intro c hc
    obtain rfl := Option.some.inj hc
    rfl
  have hno : run (.seq (.oneOf ['.']) (plus (.cls nameChar))) (p.skip (written components) x) =
      [] := by
    have hnone : run (.oneOf ['.']) (p.skip (written components) x) = [] :=
      run_oneOf_nil fun c hc hmem => (hx c hc).2 (List.mem_singleton.mp hmem)
    rw [run, hnone]
    rfl
  have hname {n : List Char} (hn : n ∈ components) {p : Pos} {y : List Char} (hy : Stop nameChar y)
      (hrest : p.rest = n ++ y) : (run (plus (.cls nameChar)) p).head? = some (p.skip n y) :=
    head_plus hrest (h.nonempty n hn) (h.chars n hn) hy
  have hnext {n : List Char} (hn : n ∈ components) {p : Pos} {y : List Char} (hy : Stop nameChar y)
      (hrest : p.rest = '.' :: (n ++ y)) :
      (run (.seq (.oneOf ['.']) (plus (.cls nameChar))) p).head? = some (p.skip ('.' :: n) y) := by
    refine (head_seq (head_oneOf (List.mem_singleton_self _) hrest) (hname hn hy rfl)).trans ?_
    rw [skip_skip]
    rfl
  unfold tablePath
  rcases h.length with htwo | hthree
  · obtain ⟨a, b, rfl⟩ := List.length_eq_two.mp htwo
    rw [written_two, List.append_assoc] at hrest
    have hab := head_seq (hnext (n := b) (by simp) hstop (p := p.skip a ('.' :: b ++ x)) rfl)
      (head_right (r := .seq (.oneOf ['.']) (plus (.cls nameChar))) (s := .eps) ?_ rfl)
    · refine (head_seq (hname (by simp) (hdot _) hrest) hab).trans ?_
      rw [skip_skip, written_two]
    · rw [skip_skip]
      exact hno
  · obtain ⟨a, b, c, rfl⟩ := List.length_eq_three.mp hthree
    rw [written_three, List.append_assoc, List.append_assoc] at hrest
    have hbc := head_seq
      (hnext (n := b) (by simp) (hdot (c ++ x)) (p := p.skip a ('.' :: b ++ ('.' :: c ++ x))) rfl)
      (head_left (s := .eps) (hnext (n := c) (by simp) hstop rfl))
    refine (head_seq (hname (by simp) (hdot _) hrest) hbc).trans ?_
    rw [skip_skip, skip_skip, written_three]

/-- A table written right behind the keyword and white space, as plain names or the whole of them in
back-ticks. -/
structure WrittenPlain (text : List Char) (components : List (List Char))
    (keyword gap quote rest : List Char) :
    Prop where
  text : text = keyword ++ (gap ++ (quote ++ (written components ++ (quote ++ rest))))
  keyword : keyword.length = 4
  nonempty : gap ≠ []
  spaces : ∀ c ∈ gap, JavaScript.isSpace c = true
  quoted : quote = [] ∨ quote = ['\x60']
  path : IsPath components
  ends : quote = [] → PathEnd rest

theorem written_cons {components : List (List Char)} (h : IsPath components) :
    ∃ c x, written components = c :: x ∧ nameChar c = true := by
  have hfirst {a : List Char} {y : List Char} (ha : a ∈ components) :
      ∃ c x, a ++ y = c :: x ∧ nameChar c = true := by
    obtain ⟨c, a, rfl⟩ := List.exists_cons_of_ne_nil (h.nonempty _ ha)
    exact ⟨c, a ++ y, rfl, h.chars _ ha c List.mem_cons_self⟩
  rcases h.length with htwo | hthree
  · obtain ⟨a, b, rfl⟩ := List.length_eq_two.mp htwo
    rw [written_two]
    exact hfirst List.mem_cons_self
  · obtain ⟨a, b, c, rfl⟩ := List.length_eq_three.mp hthree
    rw [written_three]
    exact hfirst List.mem_cons_self

/-- **The match of a table written so.** -/
theorem head_of_plain {prev : Option Char} {text : List Char} {components : List (List Char)}
    {keyword gap quote rest : List Char} (h : WrittenPlain text components keyword gap quote rest)
    (hkeyword : IsKeyword keyword) (hword : ∀ c ∈ keyword, wordChar c = true)
    (hprev : prev.any wordChar = false) :
    ∃ q, (run tableReferencePattern ⟨prev, text, []⟩).head? = some q ∧
    q.caps = [(1, written components)] := by
  obtain ⟨c, x, hcx, hname⟩ := written_cons h.path
  have hboundary : (run (.wordBoundary isWord) ⟨prev, text, []⟩).head? = some ⟨prev, text, []⟩ := by
    obtain ⟨d, w, rfl⟩ :=
      List.exists_cons_of_length_pos (by rw [h.keyword]; decide : 0 < keyword.length)
    have hat : Pos.atBoundary ⟨prev, text, []⟩ isWord = true := by
      rw [Pos.atBoundary, isWord_eq_wordChar, hprev, h.text]
      simp [hword d List.mem_cons_self]
    rw [run, if_pos hat]
    rfl
  have hkey : (run keywords ⟨prev, text, []⟩).head? = some (Pos.skip ⟨prev, text, []⟩ keyword _) :=
    head_of_length rfl (lang_keyword hkeyword) h.text fun v hv => by
      rw [keyword_length hv, h.keyword]
  have hgapStop : Stop JavaScript.isSpace (quote ++ (written components ++ (quote ++ rest))) := by
    intro d hd
    rcases h.quoted with rfl | rfl
    · rw [hcx] at hd
      obtain rfl := Option.some.inj hd
      exact nameChar_not_space hname
    · obtain rfl := Option.some.inj hd
      decide
  have hgap {p : Pos} (hp : p.rest = gap ++ (quote ++ (written components ++ (quote ++ rest)))) :
      (run (plus (.cls JavaScript.isSpace)) p).head? = some (p.skip gap _) :=
    head_plus hp h.nonempty h.spaces hgapStop
  have hopen {p : Pos} (hp : p.rest = quote ++ (written components ++ (quote ++ rest))) :
      (run (opt (.oneOf ['\x60'])) p).head? =
      some (p.skip quote (written components ++ (quote ++ rest))) := by
    rcases h.quoted with hq | hq
    · rw [hq] at hp ⊢
      refine head_right (run_oneOf_nil fun d hd hmem => ?_) (congrArg some ?_)
      · rw [hp, List.nil_append, hcx] at hd
        obtain rfl := Option.some.inj hd
        obtain rfl := List.mem_singleton.mp hmem
        exact absurd hname (by decide)
      · rw [List.nil_append] at hp
        rw [← hp]
        rfl
    · rw [hq] at hp ⊢
      exact head_left (head_oneOf (List.mem_singleton_self _) hp)
  have hends : PathEnd (quote ++ rest) := by
    rcases h.quoted with hq | hq
    · rw [hq]
      exact h.ends hq
    · rw [hq]
      intro d hd
      obtain rfl := Option.some.inj hd
      decide
  have hpath {p : Pos} (hp : p.rest = written components ++ (quote ++ rest)) :
      (run (.group 1 tablePath) p).head? =
      some { p.skip (written components) (quote ++ rest) with caps := (1,
        written components) :: p.caps } := by
    rw [head_group (head_tablePath h.path hp hends), between_of_rest (q := p.skip _ _) hp]
    rfl
  rw [tableReferencePattern_eq]
  obtain ⟨q, l, hq⟩ := List.exists_cons_of_ne_nil (run_opt_ne_nil (.oneOf ['\x60'])
    { (((Pos.skip ⟨prev, text, []⟩ keyword
      (gap ++ (quote ++ (written components ++ (quote ++ rest))))).skip gap
        (quote ++ (written components ++ (quote ++ rest)))).skip quote
          (written components ++ (quote ++ rest))).skip
        (written components) (quote ++ rest) with caps := [(1, written components)] })
  have hhead := head_seq hboundary (head_seq hkey (head_seq (hgap rfl) (head_seq (hopen rfl)
    (head_seq (hpath rfl) (by rw [skip_caps, skip_caps, skip_caps, hq]; rfl : _ = some q)))))
  refine ⟨q, hhead, ?_⟩
  have hmem := hq ▸ List.mem_cons_self
  rw [run_seq_eps] at hmem
  obtain ⟨w, -, -, hqw⟩ := (mem_run rfl _ q).mp hmem
  rw [hqw]
  rfl

theorem parts_of_reported {prev : Option Char} {cs : List Char} {q : Pos}
    (h : reported tableReferencePattern ⟨prev, cs, []⟩ = some q) :
    ∃ k s b w b', cs = k ++ (s ++ (b ++ (w ++ (b' ++ q.rest)))) ∧ Lang keywords k ∧
      (∀ c ∈ s, JavaScript.isSpace c = true) ∧ (∀ c ∈ b, c = '\x60') ∧ Lang tablePath w ∧
      (∀ c ∈ b', c = '\x60') ∧
      (matchOf ⟨prev, cs, []⟩ q).group 1 = w := by
  have htick {b : List Char} (hb : Lang (opt (.oneOf ['\x60'])) b) : ∀ c ∈ b, c = '\x60' := by
    cases hb with
    | left hb =>
      cases hb with
      | oneOf hc =>
        intro c hmem
        rw [List.mem_singleton.mp hmem]
        exact List.mem_singleton.mp hc
    | right hb =>
      cases hb
      intro c hc
      cases hc
  have hmatch := (Option.filter_eq_some_iff.mp h).1
  rw [matchAt, tableReferencePattern_eq] at hmatch
  obtain ⟨p₀, hp₀, h₀⟩ := head_run_seq hmatch
  obtain ⟨p₁, hp₁, h₁⟩ := head_run_seq h₀
  obtain ⟨p₂, hp₂, h₂⟩ := head_run_seq h₁
  obtain ⟨p₃, hp₃, h₃⟩ := head_run_seq h₂
  obtain ⟨p₄, hp₄, h₄⟩ := head_run_seq h₃
  have hmem := List.mem_of_head? h₄
  rw [run_seq_eps] at hmem
  obtain rfl : p₀ = ⟨prev, cs, []⟩ := by
    rw [run] at hp₀
    split_ifs at hp₀
    · exact List.mem_singleton.mp hp₀
    · cases hp₀
  obtain ⟨k, hk, hrest₁, hp₁⟩ := (mem_run rfl _ _).mp hp₁
  obtain ⟨s, hs, hrest₂, hp₂⟩ := (mem_run rfl _ _).mp hp₂
  obtain ⟨b, hb, hrest₃, hp₃⟩ := (mem_run rfl _ _).mp hp₃
  obtain ⟨w, hw, hrest₄, hp₄⟩ := (mem_group rfl).mp hp₄
  obtain ⟨b', hb', hrest₅, hq⟩ := (mem_run rfl _ _).mp hmem
  refine ⟨k, s, b, w, b', ?_, hk, Within.word hs ⟨fun _ hc => hc, fun _ hc => hc⟩, htick hb,
    hw, htick hb', ?_⟩
  · rw [← hrest₅, ← hrest₄, ← hrest₃, ← hrest₂]
    exact hrest₁
  · have hcaps : q.caps = [(1, w)] := by
      rw [hq, skip_caps, hp₄, hp₃, skip_caps, hp₂, skip_caps, hp₁, skip_caps]
    rw [matchOf, Match.group, hcaps]
    rfl

theorem path_of_lang {w : List Char} (h : Lang tablePath w) : ∃ components, IsPath components ∧
    w = written components := by
  have hname {n : List Char} (hn : Lang (plus (.cls nameChar)) n) :
      n ≠ [] ∧ ∀ c ∈ n, nameChar c = true := by
    have hlength := minLen_le hn
    refine ⟨?_, Within.word hn ⟨fun _ hc => hc, fun _ hc => hc⟩⟩
    rintro rfl
    simp [plus, minLen] at hlength
  have hdotted {n : List Char} (hn : Lang (.seq (.oneOf ['.']) (plus (.cls nameChar))) n) :
      ∃ m, n = '.' :: m ∧ m ≠ [] ∧ ∀ c ∈ m, nameChar c = true := by
    cases hn with
    | seq hd hm =>
      cases hd with
      | oneOf hd =>
        rw [List.mem_singleton.mp hd]
        exact ⟨_, rfl, hname hm⟩
  cases h with
  | @seq _ _ a _ ha hrest =>
    cases hrest with
    | seq hb hc =>
      obtain ⟨hane, hachars⟩ := hname ha
      obtain ⟨b, rfl, hbne, hbchars⟩ := hdotted hb
      cases hc with
      | left hc =>
        obtain ⟨c, rfl, hcne, hcchars⟩ := hdotted hc
        refine ⟨[a, b, c], ⟨.inr rfl, ?_, ?_⟩, by simp [written, List.intercalate]⟩
        · simp [hane, hbne, hcne]
        · simpa using ⟨hachars, hbchars, hcchars⟩
      | right hc =>
        cases hc
        refine ⟨[a, b], ⟨.inl rfl, ?_, ?_⟩, by simp [written, List.intercalate]⟩
        · simp [hane, hbne]
        · simpa using ⟨hachars, hbchars⟩

/-! ### Configured tables -/

/-- A path is that of a configured table: with the project in front of it, or without. -/
def Listed (project : String) (components : List (List Char)) : Prop :=
  ∃ d ∈ bigqueryTables, ∃ t ∈ d.2, components = [d.1.toList, t.toList] ∨
    components = project.toList.splitOn '.' ++ [d.1.toList, t.toList]

theorem parts_written {components : List (List Char)} (h : IsPath components) :
    (written components).splitOn '.' = components := by
  refine List.splitOn_intercalate _ (fun n hn hmem => ?_) ?_
  · exact absurd (h.chars n hn _ hmem) (by decide)
  · rintro rfl
    rcases h.length with h | h <;> cases h

theorem mem_of_lookup {dataset : String} {tables : List String}
    (h : bigqueryTables.lookup dataset = some tables) : (dataset, tables) ∈ bigqueryTables := by
  obtain ⟨l₁, l₂, heq, -⟩ := List.lookup_eq_some_iff.mp h
  rw [heq]
  exact List.mem_append_right _ List.mem_cons_self

theorem found_of_table {dataset table : String} {fault : Except Fault Bool}
    (hfault : fault ≠ .ok true) (h : (match bigqueryTables.lookup dataset with
      | some tables => Except.ok (decide (table ≠ "") && tables.contains table)
      | none =>
        fault) = .ok true) : ∃ tables, (dataset, tables) ∈ bigqueryTables ∧ table ∈ tables := by
  cases hlookup : bigqueryTables.lookup dataset with
  | none =>
    rw [hlookup] at h
    exact absurd h hfault
  | some tables =>
    rw [hlookup] at h
    obtain ⟨-, hmem⟩ : table ≠ "" ∧ table ∈ tables := by simpa using h
    exact ⟨tables, mem_of_lookup hlookup, hmem⟩

/-- **What the guard lets pass** is a configured table. -/
theorem listed_of_isAllowlisted {project : String} {components : List (List Char)}
    (h : IsPath components) (hlisted : isAllowlisted project (written components) = .ok true) :
    Listed project components := by
  have hfault (b : Bool) :
      (if b then .error .typeError else .ok false : Except Fault Bool) ≠ .ok true := by
    cases b <;> simp
  unfold isAllowlisted at hlisted
  rw [parts_written h] at hlisted
  match components, h with
  | [a, b], _ =>
    have hrest := (if_neg (not_not.mpr rfl : ¬ project ≠ project)).symm.trans hlisted
    obtain ⟨tables, hmem, htable⟩ : ∃ tables, (String.ofList a, tables) ∈ bigqueryTables ∧
        String.ofList b ∈ tables := found_of_table (hfault _) hrest
    exact ⟨_, hmem, _, htable, .inl (by simp)⟩
  | [a, b, c], h =>
    by_cases hproject : String.ofList a = project
    · have hrest := (if_neg (not_not.mpr hproject)).symm.trans hlisted
      obtain ⟨tables, hmem, htable⟩ : ∃ tables, (String.ofList b, tables) ∈ bigqueryTables ∧
          String.ofList c ∈ tables := found_of_table (hfault _) hrest
      refine ⟨_, hmem, _, htable, .inr ?_⟩
      rw [← hproject, String.toList_ofList, List.splitOn_eq_singleton fun hdot =>
        absurd (h.chars a List.mem_cons_self _ hdot) (by decide)]
      simp
    · have hfalse := (if_pos hproject).symm.trans hlisted
      cases hfalse
  | [], h => rcases h.length with h | h <;> cases h
  | [_], h => rcases h.length with h | h <;> cases h
  | _ :: _ :: _ :: _ :: _, h => rcases h.length with h | h <;> cases h

theorem table_of_listed {project : String} {components : List (List Char)}
    (h : Listed project components) :
    ∃ front t, components = front ++ [t] ∧ (∀ c ∈ t, wordChar c = true) ∧
      ∀ c ∈ t.head?, c ∉ ['f', 'F', 'j', 'J'] := by
  have hall : (bigqueryTables.all fun d => d.2.all fun t => t.toList.all wordChar &&
      t.toList.head?.all fun c => !(['f', 'F', 'j', 'J'].contains c)) = true := by decide +kernel
  obtain ⟨d, hd, t, ht, heq⟩ := h
  have htable := List.all_eq_true.mp (List.all_eq_true.mp hall d hd) t ht
  rw [Bool.and_eq_true, List.all_eq_true] at htable
  have hhead : ∀ c ∈ t.toList.head?, c ∉ ['f', 'F', 'j', 'J'] := by
    intro c hc hmem
    have hno := htable.2
    rw [Option.mem_def.mp hc] at hno
    rw [Option.all_some, List.contains_iff_mem.mpr hmem] at hno
    cases hno
  rcases heq with rfl | rfl
  · exact ⟨[d.1.toList], t.toList, rfl, htable.1, hhead⟩
  · exact ⟨project.toList.splitOn '.' ++ [d.1.toList], t.toList, by simp, htable.1, hhead⟩

/-! ### Accepted queries -/

theorem checkReferences_ok {project : String} {references : List (List Char)}
    (h : checkReferences project references = .ok ()) :
    ∀ w ∈ references, isAllowlisted project w = .ok true := by
  induction references with
  | nil =>
    intro w hw
    cases hw
  | cons w references ih =>
    rw [checkReferences] at h
    split at h
    · cases h
    · cases h
    · rename_i hw
      intro v hv
      rcases List.mem_cons.mp hv with rfl | hv
      · exact hw
      · exact ih h v hv

theorem validated {project query : String} (h : validateReadOnlyQuery project query = .ok ()) :
    ∀ m ∈ find tableReferencePattern query.toList, isAllowlisted project
      (m.group 1) = .ok true := by
  unfold validateReadOnlyQuery at h
  split_ifs at h
  exact fun m hm => checkReferences_ok h _ (List.mem_map_of_mem hm)

/-- A text that begins elsewhere does not begin in this piece. -/
theorem peel {a x u y : List Char} (h : a ++ x = u ++ y) (hne : y ≠ [])
    (hy : ∀ c ∈ y.head?, c ∉ a) : ∃ z, u = a ++ z ∧ x = z ++ y := by
  rcases List.append_eq_append_iff.mp h with ⟨z, rfl, hx⟩ | ⟨z, rfl, rfl⟩
  · exact ⟨z, rfl, hx⟩
  · cases z with
    | nil => exact ⟨[], by simp, by simp⟩
    | cons c z => exact absurd (by simp) (hy c rfl)

/-- A path in front of a text that does not begin with a back-tick. -/
theorem peel_right {w b u y : List Char} (h : w ++ b = u ++ y) (hne : y ≠ [])
    (hy : ∀ c ∈ y.head?, c ∉ b) : ∃ z, w = u ++ z ∧ y = z ++ b ∧ z ≠ [] := by
  rcases List.append_eq_append_iff.mp h with ⟨z, rfl, rfl⟩ | ⟨z, rfl, hx⟩
  · exfalso
    obtain ⟨c, y, rfl⟩ := List.exists_cons_of_ne_nil hne
    exact hy c rfl (by simp)
  · refine ⟨z, rfl, hx, ?_⟩
    rintro rfl
    rw [List.nil_append] at hx
    obtain ⟨c, y, rfl⟩ := List.exists_cons_of_ne_nil hne
    exact hy c rfl (hx ▸ List.mem_cons_self)

/-- **No listed path has a keyword in it** that begins behind no word. -/
theorem not_listed_of_keyword {project : String} {components : List (List Char)}
    (h : Listed project components) (hpath : IsPath components) {x y : List Char}
    (hxy : written components = x ++ y) (hne : y ≠ []) (hx : ∀ c ∈ x.getLast?, wordChar c = false)
    (hy : ∀ c ∈ y, wordChar c = true) (hhead : ∀ c ∈ y.head?, c ∈ ['f', 'F', 'j', 'J']) :
    False := by
  obtain ⟨front, t, hcomponents, hchars, hletter⟩ := table_of_listed h
  obtain ⟨z, hz⟩ : ∃ z, written components = z ++ '.' :: t := by
    match components, hpath.length with
    | [a, b], _ =>
      have hlast : [a] ++ [b] = front ++ [t] := hcomponents
      obtain ⟨-, hbt⟩ := List.append_inj' hlast (by simp)
      cases hbt
      exact ⟨a, by simp [written, List.intercalate]⟩
    | [a, b, c], _ =>
      have hlast : [a, b] ++ [c] = front ++ [t] := hcomponents
      obtain ⟨-, hct⟩ := List.append_inj' hlast (by simp)
      cases hct
      exact ⟨a ++ '.' :: b, by simp [written, List.intercalate]⟩
  have hdot : '.' ∉ y := fun hmem => absurd (hy _ hmem) (by decide)
  rw [hz] at hxy
  have hsplit : (z ++ ['.']) ++ t = x ++ y := by rw [← hxy]; simp
  rcases List.append_eq_append_iff.mp hsplit with ⟨v, hx', ht⟩ | ⟨v, hz', hy'⟩
  · by_cases hv : v = []
    · rw [hv, List.nil_append] at ht
      rw [ht] at hletter
      obtain ⟨c, y, rfl⟩ := List.exists_cons_of_ne_nil hne
      exact hletter c rfl (hhead c rfl)
    · have hlast : v.getLast hv ∈ x.getLast? := by
        rw [hx', List.getLast?_append_of_ne_nil _ hv, List.getLast?_eq_some_getLast hv]
        rfl
      have hword := hchars (v.getLast hv) (ht ▸ List.mem_append_left _ (List.getLast_mem hv))
      rw [hx _ hlast] at hword
      cases hword
  · by_cases hv : v = []
    · rw [hv, List.nil_append] at hy'
      rw [← hy'] at hletter
      obtain ⟨c, y, rfl⟩ := List.exists_cons_of_ne_nil hne
      exact hletter c rfl (hhead c rfl)
    · have hlast : v.getLast hv = '.' := by
        have hlast' := congrArg List.getLast? hz'
        rw [List.getLast?_append_of_ne_nil _ hv, List.getLast?_eq_some_getLast hv,
          List.getLast?_concat] at hlast'
        exact (Option.some.inj hlast').symm
      exact hdot (hy' ▸ List.mem_append_left _ (hlast ▸ List.getLast_mem hv))

theorem keyword_chars {k : List Char} (h : Lang keywords k) : ∀ c ∈ k, wordChar c = true := by
  have hone {s : String} (hs : (s.toList.all fun c => wordChar c.toLower && wordChar c.toUpper) =
      true) : Within (fun c => wordChar c = true) (anyCase s) := by
    refine within_seqs fun r hr => ?_
    obtain ⟨c, hc, rfl⟩ := List.mem_map.mp hr
    have hboth := List.all_eq_true.mp hs c hc
    rw [Bool.and_eq_true] at hboth
    intro d hd
    rcases List.mem_pair.mp hd with rfl | rfl
    · exact hboth.1
    · exact hboth.2
  exact Within.word h ⟨hone (by decide), hone (by decide)⟩

theorem keyword_head {w : List Char} (h : IsKeyword w) :
    ∀ c ∈ w.head?, c ∈ ['f', 'F', 'j', 'J'] := by
  intro c hc
  obtain ⟨w, rfl⟩ := List.head?_eq_some_iff.mp (Option.mem_def.mp hc)
  rcases h with h | h
  · have hletter : c.toLower = 'F'.toLower := (List.cons.inj h).1
    have hcase := mem_cases (by decide) hletter
    rcases List.mem_pair.mp hcase with rfl | rfl <;> decide
  · have hletter : c.toLower = 'J'.toLower := (List.cons.inj h).1
    have hcase := mem_cases (by decide) hletter
    rcases List.mem_pair.mp hcase with rfl | rfl <;> decide

theorem path_chars {w : List Char} (h : Lang tablePath w) :
    ∀ c ∈ w, JavaScript.isSpace c = false := by
  have hname : Within (fun c => JavaScript.isSpace c = false) (plus (.cls nameChar)) :=
    ⟨fun _ hc => nameChar_not_space hc, fun _ hc => nameChar_not_space hc⟩
  have hdot : Within (fun c => JavaScript.isSpace c = false) (.oneOf ['.']) := by
    intro c hc
    rw [List.mem_singleton.mp hc]
    decide
  exact Within.word h ⟨hname, ⟨hdot, hname⟩, ⟨hdot, hname⟩, trivial⟩

/-- **No match runs into a table**, where what the pattern finds is listed. -/
theorem no_overlap {project : String} {prev : Option Char} {u text : List Char}
    {components : List (List Char)} {keyword gap quote rest : List Char}
    (h : WrittenPlain text components keyword gap quote rest) (hkeyword : IsKeyword keyword)
    (hword : ∀ c ∈ keyword, wordChar c = true) (hu : u ≠ [])
    (hlast : ∀ c ∈ u.getLast?, wordChar c = false) {q : Pos}
    (hq : reported tableReferencePattern ⟨prev, u ++ text, []⟩ = some q)
    (hlength : q.rest.length < text.length)
    (hlisted : isAllowlisted project ((matchOf ⟨prev, u ++ text, []⟩ q).group 1) = .ok true) :
    False := by
  obtain ⟨k, s, b, w, b', hcs, hk, hs, hb, hw, hb', hgroup⟩ := parts_of_reported hq
  rw [hgroup] at hlisted
  obtain ⟨components', hpath, rfl⟩ := path_of_lang hw
  obtain ⟨d, keyword', hkd⟩ : ∃ d keyword', keyword = d :: keyword' :=
    List.exists_cons_of_length_pos (by rw [h.keyword]; decide)
  have hd : nameChar d = true := nameChar_of_wordChar (hword d (hkd ▸ List.mem_cons_self))
  -- what the match reads of the text
  have hsplit : (k ++ (s ++ (b ++ (written components' ++ b')))) ++ q.rest = u ++ text := by
    rw [hcs]; simp
  obtain ⟨y, hmatch, htext, hne⟩ : ∃ y, k ++ (s ++ (b ++ (written components' ++ b'))) = u ++ y ∧
      text = y ++ q.rest ∧ y ≠ [] := by
    rcases List.append_eq_append_iff.mp hsplit with ⟨y, hu', hrest⟩ | ⟨y, hm, ht⟩
    · rw [hrest, List.length_append] at hlength
      omega
    · refine ⟨y, hm, ht, ?_⟩
      rintro rfl
      rw [ht] at hlength
      exact lt_irrefl _ hlength
  have hhead : ∀ c ∈ y.head?, c = d := by
    intro c hc
    obtain ⟨y, rfl⟩ := List.head?_eq_some_iff.mp (Option.mem_def.mp hc)
    have hfirst := h.text.symm.trans htext
    rw [hkd] at hfirst
    exact (List.cons.inj hfirst).1.symm
  -- it begins in the path
  obtain ⟨z, hz, hmatch₁⟩ : ∃ z, u = k ++ z ∧ s ++ (b ++ (written components' ++ b')) = z ++ y := by
    rcases List.append_eq_append_iff.mp hmatch with ⟨z, hz, hrest⟩ | ⟨z, hz, -⟩
    · exact ⟨z, hz, hrest⟩
    · exfalso
      have hlast' := hlast (u.getLast hu) (List.getLast?_eq_some_getLast hu)
      rw [keyword_chars hk _ (hz ▸ List.mem_append_left _ (List.getLast_mem hu))] at hlast'
      cases hlast'
  obtain ⟨z', rfl, hmatch₂⟩ := peel hmatch₁ hne fun c hc hmem => by
    have hspace := hs c hmem
    rw [hhead c hc, nameChar_not_space hd] at hspace
    cases hspace
  obtain ⟨x, rfl, hmatch₃⟩ := peel hmatch₂ hne fun c hc hmem => by
    rw [← hhead c hc, hb c hmem] at hd
    exact absurd hd (by decide)
  obtain ⟨y', hpathText, rfl, hne'⟩ := peel_right hmatch₃ hne fun c hc hmem => by
    rw [← hhead c hc, hb' c hmem] at hd
    exact absurd hd (by decide)
  -- and it is a part of the keyword
  have hpart : ∀ c ∈ y', c ∈ keyword := by
    have hboth := htext.symm.trans h.text
    rw [List.append_assoc] at hboth
    rcases List.append_eq_append_iff.mp hboth with ⟨v, hv, -⟩ | ⟨v, hv, hgap⟩
    · rw [hv]
      exact fun c hc => List.mem_append_left _ hc
    · by_cases hvne : v = []
      · rw [hv, hvne, List.append_nil]
        exact fun c hc => hc
      · exfalso
        obtain ⟨c, v, rfl⟩ := List.exists_cons_of_ne_nil hvne
        obtain ⟨e, gap, rfl⟩ := List.exists_cons_of_ne_nil h.nonempty
        obtain ⟨rfl, -⟩ := List.cons.inj hgap
        have hspace := h.spaces e List.mem_cons_self
        have hmem : e ∈ written components' :=
          hpathText ▸ List.mem_append_right _ (by rw [hv]; simp)
        rw [path_chars hw e hmem] at hspace
        cases hspace
  refine not_listed_of_keyword (listed_of_isAllowlisted hpath hlisted) hpath hpathText hne'
    (fun c hc => ?_)
    (fun c hc => hword c (hpart c hc)) fun c hc => ?_
  · refine hlast c ?_
    have hx : x ≠ [] := by
      rintro rfl
      cases hc
    rw [hz, List.getLast?_append_of_ne_nil _ (by simp [hx]),
      List.getLast?_append_of_ne_nil _ (by simp [hx]),
      List.getLast?_append_of_ne_nil _ hx]
    exact hc
  · have hfirst : c = d := hhead c (by
      rw [List.head?_append_of_ne_nil _ hne']
      exact hc)
    rw [hfirst]
    exact keyword_head hkeyword d (by rw [hkd]; rfl)

/-- **A table written plainly is found**, and is a configured one where the query is accepted. -/
theorem isAllowlisted_of_plain {project query : String} {v text : List Char}
    {components : List (List Char)} {keyword gap quote rest : List Char}
    (hquery : validateReadOnlyQuery project query = .ok ()) (hv : query.toList = v ++ text)
    (h : WrittenPlain text components keyword gap quote rest) (hkeyword : IsKeyword keyword)
    (hword : ∀ c ∈ keyword, wordChar c = true) (hlast : ∀ c ∈ v.getLast?, wordChar c = false) :
    isAllowlisted project (written components) = .ok true := by
  have hall := validated hquery
  rw [hv] at hall
  have hs : Scan tableReferencePattern (fun _ => []) none (v ++ text) _ _ := scan_sub (v ++ text)
  have hprev : (v.getLast?.or none).any wordChar = false := by
    cases hc : v.getLast? with
    | none => rfl
    | some c => exact hlast c hc
  obtain ⟨q, hhead, hcaps⟩ := head_of_plain h hkeyword hword hprev
  have hreported : reported tableReferencePattern ⟨v.getLast?.or none, text, []⟩ = some q := by
    refine Option.filter_eq_some_iff.mpr ⟨hhead, decide_eq_true ?_⟩
    obtain ⟨w, hw, hneeds⟩ :=
      run_reads (fun _ => true) tableReferencePattern _ q (List.mem_of_head? hhead)
    obtain ⟨c, hc, -⟩ := hneeds rfl
    have hpos : 0 < w.length := List.length_pos_of_mem hc
    rw [hw, List.length_append]
    omega
  rcases hs.reach with ⟨ms', out', hs', hms⟩ | ⟨u₁, u₂, q', rfl, hne, hq', hlength, hmem⟩
  · have hfound : matchOf ⟨v.getLast?.or none, text, []⟩ q ∈ ms' := by
      cases hs' with
      | nil => exact absurd (reported_length hreported) (by simp)
      | keep hno _ =>
        rw [hno] at hreported
        cases hreported
      | cut hq' _ =>
        rw [hq'] at hreported
        cases hreported
        exact List.mem_cons_self
    have hgroup : (matchOf ⟨v.getLast?.or none, text, []⟩ q).group 1 = written components := by
      rw [matchOf, Match.group, hcaps]
      rfl
    exact hgroup ▸ hall _ (hms hfound)
  · refine absurd (hall _ hmem) fun hok => no_overlap h hkeyword hword hne
      (fun c hc => hlast c ?_) hq' hlength hok
    rw [List.getLast?_append_of_ne_nil _ hne]
    exact hc

/-! ### The tables of a query -/

/-- The guard reads the table as BigQuery does: right behind the `FROM` or `JOIN` and white space
stand two or three plain names, or the whole of them in back-ticks. -/
def Plain (r : Reference) : Prop :=
  ∃ keyword gap quote rest, WrittenPlain r.intro r.components keyword gap quote rest

/-- **A plainly written table** of an accepted query is a configured one. -/
theorem listed_of_plain {project query : String} {space : Char → Bool}
    (hquery : validateReadOnlyQuery project query = .ok ()) {r : Reference}
    (hr : r ∈ tableReferences space query.toList) (hplain : Plain r) :
    Listed project r.components := by
  obtain ⟨keyword, gap, quote, rest, h⟩ := hplain
  refine listed_of_isAllowlisted h.path ?_
  rcases intro_of_reference hr with hnil | ⟨t, ht, hword, hintro⟩
  · have htext := h.text
    rw [hnil] at htext
    exact absurd htext.symm (by simp [h.nonempty])
  · obtain ⟨v, hv, hspec⟩ := mem_tokens ht
    have hkind : t.kind = .word := by
      rcases hword with hword | hword <;> exact eq_of_beq (Bool.and_eq_true_iff.mp hword).1
    obtain ⟨-, hchars, hlast⟩ := hspec hkind
    have hkeyword : IsKeyword t.text := by
      rcases hword with hword | hword
      · exact .inl (eq_of_beq (Bool.and_eq_true_iff.mp hword).2)
      · exact .inr (eq_of_beq (Bool.and_eq_true_iff.mp hword).2)
    have hsame : keyword = t.text := by
      have htext := h.text.symm.trans hintro
      refine (List.append_inj htext ?_).1
      rw [h.keyword, keyword_length (lang_keyword hkeyword)]
    rw [hintro] at h
    exact isAllowlisted_of_plain hquery hv h (hsame ▸ hkeyword) (hsame ▸ hchars) hlast

end Blessing.ControlPlane.QueryGuard
