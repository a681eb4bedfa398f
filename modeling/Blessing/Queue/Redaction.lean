import Blessing.Queue.Security
import Blessing.Lib.Substitution

/-! # Redaction as a projection

Redacted text has no private key and no bearer token left. Where every labelled secret stands
without quotes and not already in front of itself, the labelled values left are the marks
themselves, so that redacting again changes nothing (`redaction_projects`). -/

namespace Blessing.Queue.Redaction

open Blessing.Lib.Text Blessing.Lib.Regex Blessing.Lib.Substitution Blessing.Lib.Values
  Blessing.Queue.Security

/-! ### What a labelled secret is -/

/-- A character a label may have in front of the separator. -/
def labelChar (c : Char) : Bool := !(isSpace c || c == ':' || c == '=' || c == '<')

/-- The text begins with a labelled secret: the label, the separator with the spaces around it, the
opening quote, the value, and the closing quote. Without quotes the value goes on as far as it
can. -/
structure Labeled (cs label front quote value rest : List Char) : Prop where
  text : cs = label ++ (front ++ (quote ++ (value ++ (quote ++ rest))))
  isLabel : Lang secretLabel label
  isFront : Lang (.seq spaces (.seq (.oneOf [':', '=']) spaces)) front
  quoted : quote = [] ∨ ∃ c ∈ ['\'', '"'], quote = [c]
  nonempty : value ≠ []
  secret : ∀ c ∈ value, secretChar c = true
  stops : quote = [] → Stop secretChar rest

theorem within_litCI_label {s : String}
    (h : (s.toList.all fun c => (foldCase c).all labelChar) = true) :
    Within (fun c => labelChar c = true) (litCI s) := by
  refine within_litCI fun c hc d hd => ?_
  exact List.all_eq_true.mp (List.all_eq_true.mp h c hc) d hd

theorem label_chars {label : List Char} (h : Lang secretLabel label) :
    ∀ c ∈ label, labelChar c = true := by
  have hdash : Within (fun c => labelChar c = true) dash :=
    ⟨fun c hc => by rcases List.mem_pair.mp hc with rfl | rfl <;> decide, trivial⟩
  refine Within.word h ?_
  have hlabel (s : String) (hs : (s.toList.all fun c => (foldCase c).all labelChar) = true) :=
    within_litCI_label hs
  refine ⟨within_seqs ?_, hlabel "password" (by decide), hlabel "token" (by decide),
    hlabel "authorization" (by decide), within_seqs ?_, within_seqs ?_, within_seqs ?_⟩
  all_goals simp only [List.mem_cons, List.not_mem_nil, or_false, forall_eq_or_imp, forall_eq]
  · exact ⟨hlabel "api" (by decide), hdash, hlabel "key" (by decide), hlabel "secret" (by decide)⟩
  · exact ⟨hlabel "private" (by decide), hdash, hlabel "key" (by decide)⟩
  · exact ⟨hlabel "client" (by decide), hdash, hlabel "secret" (by decide)⟩
  · exact ⟨hlabel "service" (by decide), hdash, hlabel "account" (by decide)⟩

theorem lang_spaces {w : List Char} (h : Lang spaces w) : ∀ c ∈ w, isSpace c = true :=
  Within.word h fun _ hc => hc

theorem front_parts {front : List Char}
    (h : Lang (.seq spaces (.seq (.oneOf [':', '=']) spaces)) front) :
    ∃ u sep v, front = u ++ sep :: v ∧ sep ∈ [':', '='] ∧ (∀ c ∈ u, isSpace c = true) ∧
      ∀ c ∈ v, isSpace c = true := by
  cases h with
  | seq hu hrest =>
    cases hrest with
    | seq hsep hv =>
      cases hsep with
      | oneOf hsep => exact ⟨_, _, _, rfl, hsep, lang_spaces hu, lang_spaces hv⟩

theorem secretChar_not_space {c : Char} (h : secretChar c = true) : isSpace c = false := by
  unfold secretChar at h
  revert h
  cases isSpace c <;> simp

theorem quote_not_secret {c : Char} (h : c ∈ ['\'', '"']) : secretChar c = false := by
  rcases List.mem_pair.mp h with rfl | rfl <;> decide

theorem quote_not_space {c : Char} (h : c ∈ ['\'', '"']) : isSpace c = false := by
  rcases List.mem_pair.mp h with rfl | rfl <;> decide

section

variable {cs label front quote value rest label' front' quote' value' rest' : List Char}

theorem Labeled.stop_front (h : Labeled cs label front quote value rest) :
    Stop isSpace (quote ++ (value ++ (quote ++ rest))) := by
  intro c hc
  rcases h.quoted with hq | ⟨d, hd, hq⟩
  · rw [hq, List.nil_append] at hc
    obtain ⟨d, v, hv⟩ := List.exists_cons_of_ne_nil h.nonempty
    rw [hv] at hc
    obtain rfl := Option.some.inj hc
    exact secretChar_not_space (h.secret d (hv ▸ List.mem_cons_self))
  · rw [hq] at hc
    obtain rfl := Option.some.inj hc
    exact quote_not_space hd

/-- **A labelled secret is read in one way.** -/
theorem Labeled.unique (h : Labeled cs label front quote value rest)
    (h' : Labeled cs label' front' quote' value' rest') :
    label = label' ∧ front = front' ∧ quote = quote' ∧ value = value' ∧ rest = rest' := by
  obtain ⟨u, sep, v, hfront, hsep, hu, hv⟩ := front_parts h.isFront
  obtain ⟨u', sep', v', hfront', hsep', hu', hv'⟩ := front_parts h'.isFront
  have hstop {u v : List Char} {sep : Char} (hsep : sep ∈ [':', '='])
      (hu : ∀ c ∈ u, isSpace c = true) : Stop labelChar (u ++ sep :: v) := by
    intro c hc
    cases u with
    | nil =>
      obtain rfl := Option.some.inj hc
      rcases List.mem_pair.mp hsep with rfl | rfl <;> decide
    | cons d u =>
      obtain rfl := Option.some.inj hc
      rw [labelChar, hu d List.mem_cons_self]
      rfl
  have hsepStop {sep : Char} {x : List Char} (hsep : sep ∈ [':', '=']) :
      Stop isSpace (sep :: x) := by
    intro c hc
    obtain rfl := Option.some.inj hc
    rcases List.mem_pair.mp hsep with rfl | rfl <;> decide
  have htext := h.text.symm.trans h'.text
  rw [hfront, hfront', List.append_assoc, List.append_assoc] at htext
  obtain ⟨rfl, hfrontText⟩ := span_unique htext (label_chars h.isLabel) (hstop hsep hu)
    (label_chars h'.isLabel) (hstop hsep' hu')
  obtain ⟨rfl, hsepText⟩ := span_unique hfrontText hu (hsepStop hsep) hu' (hsepStop hsep')
  obtain ⟨rfl, hspaceText⟩ := List.cons.inj hsepText
  obtain ⟨rfl, hquoteText⟩ := span_unique hspaceText hv h.stop_front hv' h'.stop_front
  refine ⟨rfl, by rw [hfront, hfront'], ?_⟩
  obtain ⟨c, x, hvalue⟩ := List.exists_cons_of_ne_nil h.nonempty
  obtain ⟨c', x', hvalue'⟩ := List.exists_cons_of_ne_nil h'.nonempty
  have hsecret : secretChar c = true := h.secret c (hvalue ▸ List.mem_cons_self)
  have hsecret' : secretChar c' = true := h'.secret c' (hvalue' ▸ List.mem_cons_self)
  rcases h.quoted with hq | ⟨d, hd, hq⟩ <;> rcases h'.quoted with hq' | ⟨d', hd', hq'⟩
  · rw [hq, hq', List.nil_append, List.nil_append, List.nil_append] at hquoteText
    obtain ⟨hv, hr⟩ := span_unique hquoteText h.secret (h.stops hq) h'.secret (h'.stops hq')
    exact ⟨hq.trans hq'.symm, hv, hr⟩
  · rw [hq, hq', hvalue] at hquoteText
    obtain ⟨rfl, -⟩ := List.cons.inj hquoteText
    rw [quote_not_secret hd'] at hsecret
    cases hsecret
  · rw [hq, hq', hvalue'] at hquoteText
    obtain ⟨rfl, -⟩ := List.cons.inj hquoteText
    rw [quote_not_secret hd] at hsecret'
    cases hsecret'
  · rw [hq, hq'] at hquoteText
    simp only [List.cons_append, List.nil_append] at hquoteText
    obtain ⟨rfl, hvalueText⟩ := List.cons.inj hquoteText
    have hstopQuote {y : List Char} : Stop secretChar (d :: y) := by
      intro e he
      obtain rfl := Option.some.inj he
      exact quote_not_secret hd
    obtain ⟨hv, hr⟩ := span_unique hvalueText h.secret hstopQuote h'.secret hstopQuote
    exact ⟨hq.trans hq'.symm, hv, (List.cons.inj hr).2⟩

end

/-! ### What the pattern reports -/

theorem lang_value {w : List Char} (h : Lang (plus (.cls secretChar)) w) :
    w ≠ [] ∧ ∀ c ∈ w, secretChar c = true := by
  have hchars := Within.word (P := fun c => secretChar c = true) h ⟨fun _ hc => hc, fun _ hc => hc⟩
  have hlength := minLen_le h
  refine ⟨?_, hchars⟩
  rintro rfl
  simp [plus, minLen] at hlength

theorem lang_quote {w : List Char} (h : Lang (opt (.oneOf ['\'', '"'])) w) :
    w = [] ∨ ∃ c ∈ ['\'', '"'], w = [c] := by
  cases h with
  | left hw =>
    cases hw with
    | oneOf hc => exact .inr ⟨_, hc, rfl⟩
  | right hw =>
    cases hw
    exact .inl rfl

/-- The end of `_LABELED_SECRET`: the quote, the value and the quote again. -/
def quotedValue : Pattern :=
  .seq (.group 1 (opt (.oneOf ['\'', '"'])))
    (.seq (.group 2 (plus (.cls secretChar))) (.seq (.backref 1) .eps))

theorem run_backref {p : Pos} {quote : List Char} (hcap : p.cap 1 = some quote) {q : Pos} :
    q ∈ run (.seq (.backref 1) .eps) p ↔ p.rest = quote ++ q.rest ∧ q = p.skip quote q.rest := by
  rw [run, run, hcap]
  dsimp only
  by_cases hprefix : quote.isPrefixOf p.rest = true
  · obtain ⟨x, hx⟩ := List.isPrefixOf_iff_prefix.mp hprefix
    rw [if_pos hprefix, List.flatMap_singleton, run, List.mem_singleton, ← hx, List.drop_left]
    constructor
    · rintro rfl
      exact ⟨rfl, rfl⟩
    · rintro ⟨hrest, hq⟩
      rw [List.append_cancel_left hrest]
      exact hq
  · rw [if_neg hprefix]
    constructor
    · intro hq
      cases hq
    · rintro ⟨hrest, -⟩
      exact absurd (List.isPrefixOf_iff_prefix.mpr ⟨q.rest, hrest.symm⟩) hprefix

theorem run_backref_nil {p : Pos} (hcap : p.cap 1 = some []) :
    run (.seq (.backref 1) .eps) p = [p] := by
  rw [run, run, hcap]
  rfl

theorem stop_of_unquoted {p q : Pos} (hcap : p.caps = [(1, [])])
   
    (h : (run (.seq (.group 2 (plus (.cls secretChar))) (.seq (.backref 1) .eps)) p).head? = some q) :
    Stop secretChar q.rest := by
  have hrun : run (.seq (.group 2 (plus (.cls secretChar))) (.seq (.backref 1) .eps)) p =
      run (.group 2 (plus (.cls secretChar))) p := by
    rw [run]
    have hself : ∀ p' ∈ run (.group 2 (plus (.cls secretChar))) p, run
        (.seq (.backref 1) .eps) p' = [p'] := by
      intro p' hp'
      obtain ⟨w, -, -, hp'⟩ := (mem_group rfl).mp hp'
      refine run_backref_nil ?_
      rw [hp', Pos.cap, hcap]
      rfl
    rw [List.flatMap_congr hself, List.flatMap_singleton']
  rw [hrun, run, List.head?_map] at h
  obtain ⟨q', hq', rfl⟩ := Option.map_eq_some_iff.mp h
  obtain ⟨p', -, hstar⟩ := head_run_seq hq'
  have hstop := head_run_star hstar
  exact hstop

theorem head_quotedValue {p q : Pos} (hp : p.caps = []) (h : (run quotedValue p).head? = some q) :
    ∃ quote value, (quote = [] ∨ ∃ c ∈ ['\'', '"'], quote = [c]) ∧ value ≠ [] ∧
      (∀ c ∈ value, secretChar c = true) ∧ p.rest = quote ++ (value ++ (quote ++ q.rest)) ∧
      q.caps = [(2, value), (1, quote)] ∧ (quote = [] → Stop secretChar q.rest) := by
  obtain ⟨p₁, hp₁, h₁⟩ := head_run_seq h
  obtain ⟨quote, hquote, hrest, hp₁⟩ := (mem_group rfl).mp hp₁
  obtain ⟨p₂, hp₂, h₂⟩ := head_run_seq h₁
  obtain ⟨value, hvalue, hrest₁, hp₂⟩ := (mem_group rfl).mp hp₂
  have hcaps₂ : p₂.caps = [(2, value), (1, quote)] := by rw [hp₂, hp₁, hp]
  have hcap : p₂.cap 1 = some quote := by rw [Pos.cap, hcaps₂]; rfl
  obtain ⟨hrest₂, hq⟩ := (run_backref hcap).mp (List.mem_of_head? h₂)
  obtain ⟨hne, hsecret⟩ := lang_value hvalue
  refine ⟨quote, value, lang_quote hquote, hne, hsecret, by rw [hrest, hrest₁, hrest₂], ?_, ?_⟩
  · rw [hq]
    exact hcaps₂
  · rintro rfl
    exact stop_of_unquoted (by rw [hp₁, hp]) h₁

theorem labeledSecret_eq : labeledSecret =
    .seq secretLabel (.seq spaces (.seq (.oneOf [':', '=']) (.seq spaces quotedValue))) := rfl

/-- **A reported labelled secret**: what its text and its groups are. -/
theorem labeled_of_matchAt {prev : Option Char} {cs : List Char} {q : Pos}
    (hmatch : matchAt labeledSecret ⟨prev, cs, []⟩ = some q) :
    ∃ label front quote value, Labeled cs label front quote value q.rest ∧
      (matchOf ⟨prev, cs, []⟩ q).text = label ++ (front ++ (quote ++ (value ++ quote))) ∧
      (matchOf ⟨prev, cs, []⟩ q).group 1 = quote ∧ (matchOf ⟨prev, cs, []⟩ q).group 2 = value := by
  rw [matchAt, labeledSecret_eq] at hmatch
  obtain ⟨p₁, hp₁, h₁⟩ := head_run_seq hmatch
  obtain ⟨p₂, hp₂, h₂⟩ := head_run_seq h₁
  obtain ⟨p₃, hp₃, h₃⟩ := head_run_seq h₂
  obtain ⟨p₄, hp₄, h₄⟩ := head_run_seq h₃
  obtain ⟨label, hlabel, hrest₁, hp₁⟩ := (mem_run rfl _ _).mp hp₁
  obtain ⟨u, hu, hrest₂, hp₂⟩ := (mem_run rfl _ _).mp hp₂
  obtain ⟨sep, hsep, hrest₃, hp₃⟩ := (mem_run rfl _ _).mp hp₃
  obtain ⟨v, hv, hrest₄, hp₄⟩ := (mem_run rfl _ _).mp hp₄
  have hcaps : p₄.caps = [] := by
    rw [hp₄, skip_caps, hp₃, skip_caps, hp₂, skip_caps, hp₁, skip_caps]
  obtain ⟨quote, value, hquote, hne, hsecret, hrest, hqcaps, hstops⟩ := head_quotedValue hcaps h₄
  have htext : cs = label ++ ((u ++ (sep ++ v)) ++ (quote ++ (value ++ (quote ++ q.rest)))) := by
    simp only [List.append_assoc]
    rw [← hrest, ← hrest₄, ← hrest₃, ← hrest₂]
    exact hrest₁
  refine ⟨label, u ++ (sep ++ v), quote, value,
    ⟨htext, hlabel, .seq hu (.seq hsep hv), hquote, hne, hsecret,
    hstops⟩, ?_, ?_, ?_⟩
  · refine between_of_rest ?_
    change cs = _
    rw [htext]
    simp only [List.append_assoc]
  · rw [matchOf, Match.group, hqcaps]
    rfl
  · rw [matchOf, Match.group, hqcaps]
    rfl

theorem labeled_of_reported {prev : Option Char} {cs : List Char} {q : Pos}
    (h : reported labeledSecret ⟨prev, cs, []⟩ = some q) :
    ∃ label front quote value, Labeled cs label front quote value q.rest ∧
      (matchOf ⟨prev, cs, []⟩ q).text = label ++ (front ++ (quote ++ (value ++ quote))) ∧
      (matchOf ⟨prev, cs, []⟩ q).group 1 = quote ∧ (matchOf ⟨prev, cs, []⟩ q).group 2 = value :=
  labeled_of_matchAt (Option.filter_eq_some_iff.mp h).1

theorem run_quotedValue {p : Pos} {quote value rest : List Char}
    (hquote : quote = [] ∨ ∃ c ∈ ['\'', '"'], quote = [c]) (hne : value ≠ [])
    (hsecret : ∀ c ∈ value, secretChar c = true)
    (hrest : p.rest = quote ++ (value ++ (quote ++ rest))) :
    run quotedValue p ≠ [] := by
  have hopt : Lang (opt (.oneOf ['\'', '"'])) quote := by
    rcases hquote with rfl | ⟨c, hc, rfl⟩
    · exact .right .eps
    · exact .left (.oneOf hc)
  have hplus : Lang (plus (.cls secretChar)) value := by
    obtain ⟨c, w, rfl⟩ := List.exists_cons_of_ne_nil hne
    exact .seq (v := [c]) (.cls (hsecret c List.mem_cons_self))
      (lang_star fun d hd => hsecret d (List.mem_cons_of_mem _ hd))
  refine run_seq_ne_nil (skip_mem_group rfl hopt hrest) ?_
  refine run_seq_ne_nil (skip_mem_group rfl hplus rfl) ?_
  have hback (p : Pos) (hcap : p.cap 1 = some quote) (hrest : p.rest = quote ++ rest) :
      run (.seq (.backref 1) .eps) p ≠ [] :=
    List.ne_nil_of_mem ((run_backref (q := p.skip quote rest) hcap).mpr ⟨hrest, rfl⟩)
  exact hback _ rfl rfl

theorem run_labeledSecret {prev : Option Char} {cs label front quote value rest : List Char}
    (h : Labeled cs label front quote value rest) : run labeledSecret ⟨prev, cs, []⟩ ≠ [] := by
  rw [labeledSecret_eq, h.text]
  cases h.isFront with
  | seq hu hrest =>
    cases hrest with
    | seq hsep hv =>
      simp only [List.append_assoc]
      refine run_seq_ne_nil (skip_mem_run rfl h.isLabel rfl) ?_
      refine run_seq_ne_nil (skip_mem_run rfl hu rfl) ?_
      refine run_seq_ne_nil (skip_mem_run rfl hsep rfl) ?_
      refine run_seq_ne_nil (skip_mem_run rfl hv rfl) ?_
      exact run_quotedValue h.quoted h.nonempty h.secret rfl

/-- **Labelled secrets are reported.** -/
theorem reported_of_labeled (prev : Option Char) {cs label front quote value rest : List Char}
    (h : Labeled cs label front quote value rest) :
    ∃ q, reported labeledSecret ⟨prev, cs, []⟩ = some q ∧ q.rest = rest ∧
      (matchOf ⟨prev, cs, []⟩ q).text = label ++ (front ++ (quote ++ (value ++ quote))) ∧
      (matchOf ⟨prev, cs, []⟩ q).group 1 = quote ∧ (matchOf ⟨prev, cs, []⟩ q).group 2 = value := by
  have hrun : run labeledSecret ⟨prev, cs, []⟩ ≠ [] := run_labeledSecret h
  obtain ⟨q, hq⟩ := Option.ne_none_iff_exists'.mp (mt List.head?_eq_none_iff.mp hrun)
  obtain ⟨label', front', quote', value', h', htext, hquote, hvalue⟩ := labeled_of_matchAt hq
  obtain ⟨rfl, rfl, rfl, rfl, hrest⟩ := h.unique h'
  have hlength : 0 < value.length := List.length_pos_iff.mpr h.nonempty
  refine ⟨q, Option.filter_eq_some_iff.mpr ⟨hq, decide_eq_true ?_⟩, hrest.symm, htext,
    hquote, hvalue⟩
  dsimp only
  rw [h'.text]
  simp only [List.length_append]
  omega

/-! ### Private keys -/

/-- The mark of a private key without its last character. -/
def keyMark : List Char := "<REDACTED_PRIVATE_KEY".toList

theorem lang_seqs_lit {cs w : List Char} (h : Lang (seqs (cs.map fun c => .oneOf [c])) w) :
    w = cs := by
  induction cs generalizing w with
  | nil =>
    cases h
    rfl
  | cons c cs ih =>
    cases h with
    | seq hc hcs =>
      cases hc with
      | oneOf hc => rw [ih hcs, List.mem_singleton.mp hc, List.singleton_append]

theorem privateKey_chars {w : List Char} (h : Lang privateKey w) :
    ∀ c ∈ w, c ≠ '<' ∧ c ≠ '>' ∧ c ≠ 'e' := by
  have hlit (s : String) (hs : (s.toList.all fun c => c ≠ '<' && c ≠ '>' && c ≠ 'e') = true) :
      Within (fun c => c ≠ '<' ∧ c ≠ '>' ∧ c ≠ 'e') (lit s) := by
    refine within_lit fun c hc => ?_
    simpa [and_assoc] using List.all_eq_true.mp hs c hc
  refine Within.word h ⟨hlit "-----BEGIN " (by decide), ?_,
    hlit "PRIVATE KEY-----" (by decide), trivial⟩
  intro c hc
  refine ⟨?_, ?_, ?_⟩ <;> rintro rfl <;> revert hc <;> decide

theorem privateKey_length {w : List Char} (h : Lang privateKey w) : 27 ≤ w.length :=
  le_trans (by decide) (minLen_le h)

theorem privateKey_last {w : List Char} (h : Lang privateKey w) : ∃ v, w = v ++ ['-'] := by
  cases h with
  | @seq _ _ a _ _ h =>
    cases h with
    | @seq _ _ b _ _ h =>
      cases h with
      | @seq _ _ c d hc hd =>
        cases hd
        rw [lang_seqs_lit hc]
        exact ⟨a ++ (b ++ "PRIVATE KEY----".toList), by simp⟩

theorem anchored_privateKey : Anchored privateKey (fun _ _ => True) privateKey :=
  anchored_plain rfl (by decide)

theorem privateKey_inert {x : List Char} (hx : x.length < 27) {w : List Char}
    (h : Lang privateKey w) :
    '>' ∉ w ∧ x.length < w.length :=
  ⟨fun hmem => (privateKey_chars h _ hmem).2.1 rfl, lt_of_lt_of_le hx (privateKey_length h)⟩

/-- **Private keys are gone** after their substitution. -/
theorem free_privateKey (cs : List Char) :
    Free privateKey none (sub privateKey (fun _ => "<REDACTED_PRIVATE_KEY>".toList) cs) := by
  refine Scan.free (x := keyMark) anchored_privateKey (fun w hw => privateKey_inert (by decide) hw)
    (fun {prev cs ms out} hs w hw hprefix => ⟨w, hw, ?_⟩)
      (fun _ _ _ _ _ _ _ _ => trivial) (scan_sub cs)
    fun _ _ _ _ _ => trivial
  have haligned : Aligned Eq (keyMark ++ ['>']) (fun _ _ => True) cs out := by
    have hall : ∀ m ∈ ms, True := fun _ _ => trivial
    refine hs.aligned (fun _ => rfl) (fun {prev cs q} hq _ => ?_) hall
    obtain ⟨v, hv⟩ := reported_reads hq rfl
    exact ⟨[], [], v, rfl, hv, .nil, trivial⟩
  exact haligned.word_eq hprefix (stops_of_not_mem fun hmem => (privateKey_chars hw _ hmem).1 rfl)

/-! ### Bearer tokens -/

/-- `_BEARER` behind the word boundary. -/
def bearerBody : Pattern := seqs [litCI "bearer", plus (.cls isSpace), atLeast 16 (.cls tokenChar)]

/-- The mark of a bearer token without its last character. -/
def tokenMark : List Char := "Bearer <REDACTED_TOKEN".toList

/-- Characters `_BEARER` does not tell apart: spaces, and the cases of its letters. -/
def Like (c d : Char) : Prop :=
  c = d ∨ (isSpace c = true ∧ isSpace d = true) ∨ ∃ x ∈ "bearer".toList, c ∈ foldCase x ∧
  d ∈ foldCase x

theorem tokenChar_not_space {c : Char} (h : tokenChar c = true) : isSpace c = false := by
  unfold tokenChar Char.isAlphanum Char.isAlpha Char.isUpper Char.isLower Char.isDigit at h
  simp only [Bool.or_eq_true, Bool.and_eq_true, decide_eq_true_eq,
    List.contains_iff_mem, List.mem_cons, List.not_mem_nil, or_false] at h
  rcases h with h | rfl | rfl | rfl | rfl | rfl | rfl | rfl | rfl | rfl | rfl | rfl
  · have hrange : 48 ≤ c.toNat ∧ c.toNat ≤ 122 := by
      simp only [ge_iff_le, UInt32.le_iff_toNat_le] at h
      have hval : c.val.toNat = c.toNat := rfl
      have hletters : 'A'.val.toNat = 65 ∧ 'Z'.val.toNat = 90 ∧ 'a'.val.toNat = 97 ∧
          'z'.val.toNat = 122 ∧
          '0'.val.toNat = 48 ∧ '9'.val.toNat = 57 := by decide
      omega
    unfold isSpace
    simp only [Bool.or_eq_false_iff, Bool.and_eq_false_iff, decide_eq_false_iff_not,
      beq_eq_false_iff_ne]
    omega
  all_goals decide

theorem respects_replicate {like : Char → Char → Prop} {r : Pattern} (h : Respects like r) (n : ℕ) :
    Respects like (seqs (List.replicate n r)) := by
  induction n with
  | zero => trivial
  | succ n ih => exact ⟨h, ih⟩

theorem respects_like : Respects Like bearerBody := by
  have hletters : ("bearer".toList.all fun x => (foldCase x).all fun c => tokenChar c &&
      !isSpace c) = true := by
    decide
  have hfolds : ("bearer".toList.all fun x => "bearer".toList.all fun y => (foldCase x).all fun c =>
      !(foldCase y).contains c || foldCase y == foldCase x) = true := by decide
  have hletter {x c : Char} (hx : x ∈ "bearer".toList) (hc : c ∈ foldCase x) :
      tokenChar c = true ∧ isSpace c = false := by
    simpa using List.all_eq_true.mp (List.all_eq_true.mp hletters x hx) c hc
  have hfold : ∀ x ∈ "bearer".toList, ∀ y ∈ "bearer".toList, ∀ c ∈ foldCase x, c ∈ foldCase y →
      foldCase y = foldCase x := by
    intro x hx y hy c hcx hcy
    have hsame :=
      List.all_eq_true.mp (List.all_eq_true.mp (List.all_eq_true.mp hfolds x hx) y hy) c hcx
    rw [List.contains_iff_mem.mpr hcy, Bool.not_true, Bool.false_or] at hsame
    exact eq_of_beq hsame
  have hliteral : Respects Like (litCI "bearer") := by
    have hone {x : Char} (hx : x ∈ "bearer".toList) : Respects Like (.oneOf (foldCase x)) := by
      rintro c hc d (rfl | ⟨hspace, -⟩ | ⟨y, hy, hcy, hdy⟩)
      · exact hc
      · rw [(hletter hx hc).2] at hspace
        cases hspace
      · rwa [hfold x hx y hy c hc hcy] at hdy
    exact ⟨hone (by decide), hone (by decide), hone (by decide), hone (by decide), hone (by decide),
      hone (by decide), trivial⟩
  have hspaces : Respects Like (.cls isSpace) := by
    rintro c hc d (rfl | ⟨-, hspace⟩ | ⟨y, hy, hcy, -⟩)
    · exact hc
    · exact hspace
    · rw [(hletter hy hcy).2] at hc
      cases hc
  have htoken : Respects Like (.cls tokenChar) := by
    rintro c hc d (rfl | ⟨hspace, -⟩ | ⟨y, hy, -, hdy⟩)
    · exact hc
    · rw [tokenChar_not_space hc] at hspace
      cases hspace
    · exact (hletter hy hdy).1
  exact ⟨hliteral, ⟨hspaces, hspaces⟩, ⟨respects_replicate htoken 16, htoken⟩, trivial⟩

theorem bearer_chars {w : List Char} (h : Lang bearerBody w) : ∀ c ∈ w, c ≠ '<' ∧ c ≠ '>' := by
  have hspace : Within (fun c => c ≠ '<' ∧ c ≠ '>') (.cls isSpace) := by
    intro c hc
    refine ⟨?_, ?_⟩ <;> rintro rfl <;> revert hc <;> decide
  have htoken : Within (fun c => c ≠ '<' ∧ c ≠ '>') (.cls tokenChar) := by
    intro c hc
    refine ⟨?_, ?_⟩ <;> rintro rfl <;> revert hc <;> decide
  have hletters : ("bearer".toList.all fun x => (foldCase x).all fun c => c != '<' && c != '>') =
      true := by decide
  have hletter : ∀ x ∈ "bearer".toList, ∀ c ∈ foldCase x, c ≠ '<' ∧ c ≠ '>' := by
    intro x hx c hc
    simpa using List.all_eq_true.mp (List.all_eq_true.mp hletters x hx) c hc
  refine Within.word h ⟨within_litCI hletter, ⟨hspace, hspace⟩,
    ⟨within_seqs fun r hr => ?_, htoken⟩, trivial⟩
  rw [List.eq_of_mem_replicate hr]
  exact htoken

theorem bearer_length {w : List Char} (h : Lang bearerBody w) : 23 ≤ w.length :=
  le_trans (by decide) (minLen_le h)

theorem bearer_head {w : List Char} (h : Lang bearerBody w) :
    ∃ c v, w = c :: v ∧ (c = 'b' ∨ c = 'B') := by
  cases h with
  | seq hliteral _ =>
    cases hliteral with
    | seq hb _ =>
      cases hb with
      | oneOf hc =>
        rename_i c
        have hmem : c ∈ ['b', 'B'] := hc
        exact ⟨_, _, rfl, by simpa using hmem⟩

section

variable {word : Char → Bool}

/-- A word of `_BEARER` may begin where `\b` holds. -/
def Opens (word : Char → Bool) (prev next : Option Char) : Prop :=
  (prev.any word != next.any word) = true

theorem anchored_bearer : Anchored (bearer word) (Opens word) bearerBody :=
  anchored_boundary word rfl (by decide)

theorem bearer_inert {x : List Char} (hx : x.length < 23) {w : List Char} (h : Lang bearerBody w) :
    '>' ∉ w ∧ x.length < w.length :=
  ⟨fun hmem => (bearer_chars h _ hmem).2 rfl, lt_of_lt_of_le hx (bearer_length h)⟩

theorem lang_seqs_fold {cs w : List Char}
    (h : Lang (seqs (cs.map fun c => .oneOf (foldCase c))) w) :
    List.Forall₂ (fun x c => c ∈ foldCase x) cs w := by
  induction cs generalizing w with
  | nil =>
    cases h
    exact .nil
  | cons c cs ih =>
    cases h with
    | seq hc hcs =>
      cases hc with
      | oneOf hc => exact .cons hc (ih hcs)

theorem forall₂_like {cs a b : List Char} (hcs : ∀ x ∈ cs, x ∈ "bearer".toList)
    (ha : List.Forall₂ (fun x c => c ∈ foldCase x) cs a)
    (hb : List.Forall₂ (fun x c => c ∈ foldCase x) cs b) : List.Forall₂ Like a b := by
  induction ha generalizing b with
  | nil =>
    cases hb
    exact .nil
  | @cons x c cs a hc _ ih =>
    obtain ⟨d, b, hd, htail, rfl⟩ := List.forall₂_cons_left_iff.mp hb
    exact .cons (.inr (.inr ⟨x, hcs x List.mem_cons_self, hc, hd⟩))
      (ih (fun y hy => hcs y (List.mem_cons_of_mem _ hy)) htail)

/-- A reported token: the word, a space, and what is cut out; it goes on as far as it can. -/
theorem bearer_of_reported {prev : Option Char} {cs : List Char} {q : Pos}
    (h : reported (bearer word) ⟨prev, cs, []⟩ = some q) :
    ∃ k v, cs = k ++ (v ++ q.rest) ∧ List.Forall₂ Like "Bearer ".toList k ∧
    Stop tokenChar q.rest := by
  obtain ⟨hmatch, -⟩ := Option.filter_eq_some_iff.mp h
  obtain ⟨p₀, hp₀, h₀⟩ := head_run_seq (r := .wordBoundary word) hmatch
  have hsame : p₀ = ⟨prev, cs, []⟩ := by
    rw [run] at hp₀
    split_ifs at hp₀
    · exact List.mem_singleton.mp hp₀
    · cases hp₀
  obtain ⟨p₁, hp₁, h₁⟩ := head_run_seq (r := litCI "bearer") h₀
  obtain ⟨p₂, hp₂, h₂⟩ := head_run_seq (r := plus (.cls isSpace)) h₁
  have h₃ : (run (atLeast 16 (.cls tokenChar)) p₂).head? = some q := by rwa [← run_seq_eps]
  obtain ⟨p₃, -, hstar⟩ := head_run_seq h₃
  obtain ⟨k, hk, hrest₁, -⟩ := (mem_run rfl _ _).mp hp₁
  obtain ⟨sp, hsp, hrest₂, -⟩ := (mem_run rfl _ _).mp hp₂
  obtain ⟨t, -, hrest₃, -⟩ := (mem_run rfl _ _).mp (List.mem_of_head? h₃)
  rw [hsame] at hrest₁
  cases hsp with
  | seq hs hsp =>
    cases hs with
    | cls hs =>
      rename_i v c
      refine ⟨k ++ [c], v ++ t, ?_, ?_, head_run_star hstar⟩
      · change cs = k ++ p₁.rest at hrest₁
        rw [hrest₁, hrest₂, hrest₃]
        simp only [List.append_assoc]
      · have hletters : List.Forall₂ Like "Bearer".toList k :=
          forall₂_like (fun _ => id) (by decide) (lang_seqs_fold hk)
        exact List.rel_append hletters (.cons (.inr (.inl ⟨by decide, hs⟩)) .nil)

theorem not_bearer_start {w cs : List Char} (h : Lang bearerBody w)
    (hcs : ∀ c, cs.head? = some c → ¬ (c = 'b' ∨ c = 'B')) : ¬ w <+: cs := by
  rintro ⟨x, rfl⟩
  obtain ⟨c, v, rfl, hc⟩ := bearer_head h
  exact hcs c rfl hc

/-- **Bearer tokens are gone** after their substitution. -/
theorem free_bearer (cs : List Char) :
    Free (bearer word) none (sub (bearer word) (fun _ => "Bearer <REDACTED_TOKEN>".toList) cs) := by
  refine Scan.free (x := tokenMark) anchored_bearer (fun w hw => bearer_inert (by decide) hw)
    (fun {prev cs ms out} hs w hw hprefix => ?_) (fun hq w hw hprefix => ?_) (scan_sub cs)
      fun _ _ _ _ => id
  · have haligned : Aligned Like "<REDACTED_TOKEN>".toList (fun _ _ => True) cs out := by
      have hall : ∀ m ∈ ms, True := fun _ _ => trivial
      refine hs.aligned (fun _ => .inl rfl) (fun {prev cs q} hq _ => ?_) hall
      obtain ⟨k, v, hcs, hlike, -⟩ := bearer_of_reported hq
      exact ⟨"Bearer ".toList, k, v, rfl, hcs, hlike, trivial⟩
    obtain ⟨z, hz⟩ := hprefix
    obtain ⟨w', x, hcs, hlike, -⟩ :=
      haligned.split hz.symm (stops_of_not_mem fun hmem => (bearer_chars hw _ hmem).1 rfl)
    exact ⟨w', respects_like.word hw hlike, x, hcs.symm⟩
  · obtain ⟨-, -, -, -, hstop⟩ := bearer_of_reported hq
    exact absurd hprefix (not_bearer_start hw fun c hc hb => by
      rcases hb with rfl | rfl <;> exact absurd (hstop _ hc) (by decide))

theorem free_privateKey_bearer {cs : List Char} (h : Free privateKey none cs) :
    Free privateKey none (sub (bearer word) (fun _ => "Bearer <REDACTED_TOKEN>".toList) cs) := by
  have haligned : Aligned Eq (tokenMark ++ ['>']) (fun _ _ => True) cs
      (sub (bearer word) (fun _ => "Bearer <REDACTED_TOKEN>".toList) cs) := by
    have hall : ∀ m ∈ find (bearer word) cs, True := fun _ _ => trivial
    refine (scan_sub cs).aligned (fun _ => rfl) (fun {prev cs q} hq _ => ?_) hall
    obtain ⟨v, hv⟩ := reported_reads hq rfl
    exact ⟨[], [], v, rfl, hv, .nil, trivial⟩
  refine haligned.free anchored_privateKey (fun w hw => privateKey_inert (by decide) hw)
    (fun w hw => ?_)
    (fun _ _ _ _ _ _ _ _ _ => id) h fun _ _ _ _ => id
  -- a private key ends in a hyphen, and the mark begins with two letters of which it has not the
  -- second
  intro z u hu hsuffix
  change u <+: 'B' :: 'e' :: ("arer <REDACTED_TOKEN>".toList ++ z) at hu
  rcases u with _ | ⟨c, _ | ⟨d, u⟩⟩
  · rfl
  · obtain ⟨rfl, -⟩ := List.cons_prefix_cons.mp hu
    obtain ⟨v, hv⟩ := privateKey_last hw
    obtain ⟨y, hy⟩ := hsuffix
    have hlast := List.append_inj_right' (hy.trans hv) rfl
    exact absurd hlast (by decide)
  · obtain ⟨-, htail⟩ := List.cons_prefix_cons.mp hu
    obtain ⟨rfl, -⟩ := List.cons_prefix_cons.mp htail
    have hmem : 'e' ∈ w := hsuffix.subset (by simp)
    exact absurd rfl (privateKey_chars hw _ hmem).2.2

end

/-! ### Labelled secrets -/

/-- The mark of a labelled secret. -/
def mark : List Char := "<REDACTED>".toList

/-- A labelled secret without quotes whose value does not stand in front of itself. -/
def Bare (m : Match) : Prop := m.group 1 = [] ∧ beforeFirst (m.group 2) m.text ++ m.group 2 = m.text

/-- What the substitution of bare secrets cuts out. -/
def Cuts (value rest : List Char) : Prop :=
  value ≠ [] ∧ (∀ c ∈ value, secretChar c = true) ∧ Stop secretChar rest

theorem front_chars {label front quote value rest cs : List Char}
    (h : Labeled cs label front quote value rest) : '<' ∉ label ++ front := by
  intro hmem
  rcases List.mem_append.mp hmem with hmem | hmem
  · exact absurd (label_chars h.isLabel _ hmem) (by decide)
  · obtain ⟨u, sep, v, rfl, hsep, hu, hv⟩ := front_parts h.isFront
    rcases List.mem_append.mp hmem with hmem | hmem
    · exact absurd (hu _ hmem) (by decide)
    · rcases List.mem_cons.mp hmem with rfl | hmem
      · exact absurd hsep (by decide)
      · exact absurd (hv _ hmem) (by decide)

theorem bare_of_reported {prev : Option Char} {cs : List Char} {q : Pos}
    (h : reported labeledSecret ⟨prev, cs, []⟩ = some q) (hbare : Bare (matchOf ⟨prev, cs, []⟩ q)) :
    ∃ label front value, Labeled cs label front [] value q.rest ∧
      replaceSecret (matchOf ⟨prev, cs, []⟩ q) = (label ++ front) ++ mark := by
  obtain ⟨label, front, quote, value, hlabeled, htext, hquote, hvalue⟩ := labeled_of_reported h
  obtain ⟨hempty, hfirst⟩ := hbare
  obtain rfl : quote = [] := hquote.symm.trans hempty
  refine ⟨label, front, value, hlabeled, ?_⟩
  rw [replaceSecret, hvalue]
  rw [hvalue, htext, List.nil_append, List.append_nil, ← List.append_assoc] at hfirst
  rw [htext, List.nil_append, List.append_nil, ← List.append_assoc, List.append_cancel_right hfirst]
  rfl

theorem aligned_of_bare {prev : Option Char} {cs out : List Char} {ms : List Match}
    (hs : Scan labeledSecret replaceSecret prev cs ms out) (hms : ∀ m ∈ ms, Bare m) :
    Aligned Eq mark Cuts cs out := by
  refine hs.aligned (fun _ => rfl) (fun {prev cs q} hq hbare => ?_) hms
  obtain ⟨label, front, value, h, hrepl⟩ := bare_of_reported hq hbare
  refine ⟨label ++ front, label ++ front, value, hrepl, ?_, List.forall₂_same.mpr fun _ _ => rfl,
    h.nonempty, h.secret, h.stops rfl⟩
  rw [List.append_assoc]
  exact h.text

theorem mark_secret : ∀ c ∈ mark, secretChar c = true :=
  List.all_eq_true.mp (by decide)

section

variable {cs out : List Char}

theorem stop_of_aligned (ha : Aligned Eq mark Cuts cs out) (h : Stop secretChar cs) :
    Stop secretChar out := by
  cases ha with
  | nil => exact h
  | @keep c d cs out hlike _ =>
    obtain rfl : d = c := hlike
    exact h
  | @cut v cs out hcut _ =>
    obtain ⟨c, v, rfl⟩ := List.exists_cons_of_ne_nil hcut.1
    have hno := h c rfl
    rw [hcut.2.1 c List.mem_cons_self] at hno
    cases hno

/-- A run of secret characters in the result comes from one in the text that ends in front of the
same character. -/
theorem run_of_aligned (ha : Aligned Eq mark Cuts cs out) {v z : List Char} (hout : out = v ++ z)
    (hv : ∀ c ∈ v, secretChar c = true) (hz : Stop secretChar z) :
    ∃ u y, cs = u ++ y ∧ (∀ c ∈ u, secretChar c = true) ∧ (v ≠ [] → u ≠ []) ∧
    y.head? = z.head? := by
  induction ha generalizing v with
  | nil =>
    obtain ⟨rfl, rfl⟩ := List.append_eq_nil_iff.mp hout.symm
    exact ⟨[], [], rfl, by simp, fun h => h, rfl⟩
  | @keep c d cs out hlike _ ih =>
    obtain rfl : d = c := hlike
    cases v with
    | nil =>
      obtain rfl : d :: out = z := hout
      exact ⟨[], d :: cs, rfl, by simp, fun h => h, rfl⟩
    | cons e v =>
      obtain ⟨rfl, htail⟩ := List.cons.inj hout
      obtain ⟨u, y, rfl, hu, -, hy⟩ := ih htail fun c hc => hv c (List.mem_cons_of_mem _ hc)
      refine ⟨d :: u, y, rfl, fun c hc => ?_, fun _ => List.cons_ne_nil _ _, hy⟩
      rcases List.mem_cons.mp hc with rfl | hc
      · exact hv c List.mem_cons_self
      · exact hu c hc
  | @cut value cs out hcut _ ih =>
    -- the mark is all of secret characters, so the run goes on behind it
    have hbehind : ∃ v', out = v' ++ z ∧ ∀ c ∈ v', secretChar c = true := by
      rcases List.append_eq_append_iff.mp hout with ⟨a, hva, hoa⟩ | ⟨a, hma, hza⟩
      · exact ⟨a, hoa, fun c hc => hv c (hva ▸ List.mem_append_right _ hc)⟩
      · cases a with
        | nil => exact ⟨[], hza.symm, by simp⟩
        | cons e a =>
          have hsecret := mark_secret e (hma ▸ List.mem_append_right _ List.mem_cons_self)
          rw [hz e (by rw [hza]; rfl)] at hsecret
          cases hsecret
    obtain ⟨v', hv', hsecret⟩ := hbehind
    obtain ⟨u, y, rfl, hu, -, hy⟩ := ih hv' hsecret
    refine ⟨value ++ u, y, by rw [List.append_assoc], fun c hc => ?_,
      fun _ h => hcut.1 (List.append_eq_nil_iff.mp h).1,
      hy⟩
    exact (List.mem_append.mp hc).elim (hcut.2.1 c) (hu c)

/-- **Where nothing is reported in the text** nothing is reported in the result. -/
theorem not_reported {prev prev' : Option Char} (ha : Aligned Eq mark Cuts cs out)
    (h : reported labeledSecret ⟨prev, cs, []⟩ = none) :
    reported labeledSecret ⟨prev', out, []⟩ = none := by
  rw [Option.eq_none_iff_forall_ne_some]
  intro q hq
  obtain ⟨label, front, quote, value, hl, -⟩ := labeled_of_reported hq
  have htext : out = (label ++ front) ++ (quote ++ (value ++ (quote ++ q.rest))) := by
    rw [List.append_assoc]
    exact hl.text
  have hno {label front quote value rest : List Char} :
      ¬ Labeled cs label front quote value rest := by
    intro hl
    obtain ⟨q, hq, -⟩ := reported_of_labeled prev hl
    rw [h] at hq
    cases hq
  obtain ⟨x, hx, hax⟩ := ha.split_eq htext (stops_of_not_mem (front_chars hl))
  rw [List.append_assoc] at hx
  rcases hl.quoted with rfl | ⟨c, hc, rfl⟩
  · have hvalue : [] ++ (value ++ ([] ++ q.rest)) = value ++ q.rest := rfl
    obtain ⟨u, y, rfl, hu, hne, hy⟩ := run_of_aligned hax hvalue hl.secret (hl.stops rfl)
    have hstop : Stop secretChar y := fun c hc => hl.stops rfl c (hy.symm.trans hc)
    exact hno ⟨hx, hl.isLabel, hl.isFront, .inl rfl, hne hl.nonempty, hu, fun _ => hstop⟩
  · have hquote : '<' ∉ [c] := by
      rcases List.mem_pair.mp hc with rfl | rfl <;> decide
    obtain ⟨y, rfl, hay⟩ := hax.split_eq rfl (stops_of_not_mem hquote)
    have hstop : Stop secretChar ([c] ++ q.rest) := by
      intro d hd
      obtain rfl := Option.some.inj hd
      exact quote_not_secret hc
    obtain ⟨u, y, rfl, hu, hne, hy⟩ := run_of_aligned hay rfl hl.secret hstop
    obtain ⟨y, rfl⟩ : ∃ y', y = c :: y' := by
      cases y with
      | nil => cases hy
      | cons d y =>
        obtain rfl := Option.some.inj hy
        exact ⟨y, rfl⟩
    exact hno ⟨hx, hl.isLabel, hl.isFront, .inr ⟨c, hc, rfl⟩, hne hl.nonempty, hu,
      fun h => absurd h (List.cons_ne_nil _ _)⟩

theorem beforeFirst_mark {a : List Char} (h : '<' ∉ a) : beforeFirst mark (a ++ mark) = a := by
  induction a with
  | nil => decide
  | cons c a ih =>
    have hc : c ≠ '<' := fun hc => h (hc ▸ List.mem_cons_self)
    have hprefix : mark.isPrefixOf (c :: (a ++ mark)) = false := by
      rw [Bool.eq_false_iff]
      intro hp
      have hmark : mark = '<' :: "REDACTED>".toList := by decide
      have hcons := List.isPrefixOf_iff_prefix.mp hp
      rw [hmark] at hcons
      exact hc (List.cons_prefix_cons.mp hcons).1.symm
    rw [List.cons_append, beforeFirst, hprefix, ih fun hmem => h (List.mem_cons_of_mem _ hmem)]
    rfl

/-- **Redacting again**: the values that are found are the marks, and are replaced by themselves. -/
theorem scan_again {prev : Option Char} {ms : List Match}
    (hs : Scan labeledSecret replaceSecret prev cs ms out) (hms : ∀ m ∈ ms, Bare m)
    (prev' : Option Char) :
    ∃ ms', Scan labeledSecret replaceSecret prev' out ms' out ∧ ∀ m ∈ ms', m.group 2 = mark := by
  induction hs generalizing prev' with
  | nil => exact ⟨[], .nil, by simp⟩
  | @keep prev c cs ms out h hs ih =>
    obtain ⟨ms', hms', hmarks⟩ := ih hms (some c)
    exact ⟨ms', .keep (not_reported (aligned_of_bare (.keep h hs) hms) h) hms', hmarks⟩
  | @cut prev cs q ms out hq hs ih =>
    obtain ⟨label, front, value, hl, hrepl⟩ := bare_of_reported hq (hms _ List.mem_cons_self)
    have hrest := fun m hm => hms m (List.mem_cons_of_mem _ hm)
    obtain ⟨cs', hcs'⟩ : ∃ cs', cs' = (label ++ front) ++ mark ++ out := ⟨_, rfl⟩
    have hmarked : Labeled cs' label front [] mark out :=
      ⟨by rw [hcs', List.append_assoc, List.append_assoc]; rfl, hl.isLabel, hl.isFront,
        .inl rfl, by decide,
        mark_secret, fun _ => stop_of_aligned (aligned_of_bare hs hrest) (hl.stops rfl)⟩
    obtain ⟨q', hq', hout, htext, -, hgroup⟩ := reported_of_labeled prev' hmarked
    obtain ⟨ms', hms', hmarks⟩ := ih hrest q'.prev
    have hsame : replaceSecret (matchOf ⟨prev', cs', []⟩ q') ++ out = cs' := by
      rw [replaceSecret, hgroup, htext, List.nil_append, List.append_nil, ← List.append_assoc,
        beforeFirst_mark (front_chars hl), hcs']
      rfl
    have hscan : Scan labeledSecret replaceSecret prev' cs' (matchOf ⟨prev', cs', []⟩ q' :: ms')
        (replaceSecret (matchOf ⟨prev', cs', []⟩ q') ++ out) := .cut hq' (hout ▸ hms')
    rw [hrepl, ← hcs']
    rw [hsame] at hscan
    refine ⟨_, hscan, fun m hm => ?_⟩
    rcases List.mem_cons.mp hm with rfl | hm
    · exact hgroup
    · exact hmarks m hm

end

/-! ### Redacted texts -/

instance decidableBare : DecidablePred Bare := fun m =>
  inferInstanceAs
    (Decidable (m.group 1 = [] ∧ beforeFirst (m.group 2) m.text ++ m.group 2 = m.text))

/-- Every labelled secret of the text stands without quotes and not in front of itself. -/
def BareText (word : Char → Bool) (s : String) : Prop :=
  ∀ m ∈ find labeledSecret (withoutTokens word s.toList), Bare m

section

variable {word : Char → Bool} {cs : List Char}

/-- What redaction leaves: no private key, no bearer token, and of labelled secrets the marks. -/
theorem redacted_spec (h : ∀ m ∈ find labeledSecret (withoutTokens word cs), Bare m) :
    Free privateKey none (redactCharsIn word cs) ∧ Free (bearer word) none (redactCharsIn word cs) ∧
      (∀ m ∈ find labeledSecret (redactCharsIn word cs), m.group 2 = mark) ∧
      sub labeledSecret replaceSecret (redactCharsIn word cs) = redactCharsIn word cs := by
  have hs : Scan labeledSecret replaceSecret none _ _ (redactCharsIn word cs) :=
    scan_sub (withoutTokens word cs)
  have haligned : Aligned Eq ("<REDACTED".toList ++ ['>']) Cuts (withoutTokens word cs)
      (redactCharsIn word cs) := aligned_of_bare hs h
  obtain ⟨ms, hagain, hmarks⟩ := scan_again hs h none
  obtain ⟨hfind, hsub⟩ := (scan_sub (redactCharsIn word cs)).unique hagain
  refine ⟨?_, ?_, hfind ▸ hmarks, hsub⟩
  · exact haligned.free anchored_privateKey (fun w hw => privateKey_inert (by decide) hw)
      (fun w hw => stops_of_not_mem fun hmem => (privateKey_chars hw _ hmem).1 rfl)
      (fun _ _ _ _ _ _ _ _ _ => id) (free_privateKey_bearer (free_privateKey cs)) fun _ _ _ _ => id
  · refine haligned.free anchored_bearer (fun w hw => bearer_inert (by decide) hw)
      (fun w hw => stops_of_not_mem fun hmem => (bearer_chars hw _ hmem).1 rfl)
      (fun v cs w hcut hw hprefix => ?_) (free_bearer _) fun _ _ _ _ => id
    exact absurd hprefix (not_bearer_start hw fun c hc hb => by
      rcases hb with rfl | rfl <;> exact absurd (hcut.2.2 _ hc) (by decide))

/-- **Redacted text is clean**, and redacting it again changes nothing. -/
theorem redactTextIn_projects {s : String} (h : BareText word s) :
    containsCredentialLikeContentIn word (redactTextIn word s) = false ∧
      redactTextIn word (redactTextIn word s) = redactTextIn word s := by
  obtain ⟨hkey, hbearer, hmarks, hsub⟩ := redacted_spec h
  constructor
  · have hplaceholder : (find labeledSecret (redactCharsIn word s.toList)).any
        (fun m => !isPlaceholder (m.group 2)) = false := by
      rw [List.any_eq_false]
      intro m hm
      rw [hmarks m hm]
      decide
    unfold containsCredentialLikeContentIn redactTextIn
    dsimp only
    rw [String.toList_ofList, hkey.find_eq_nil, hbearer.find_eq_nil, hplaceholder]
    rfl
  · have hagain : redactCharsIn word (redactCharsIn word s.toList) =
        redactCharsIn word s.toList := by
      rw [redactCharsIn, withoutTokens, hkey.sub_eq, hbearer.sub_eq, hsub]
    unfold redactTextIn
    rw [String.toList_ofList, hagain]

end

/-! ### Redacted values -/

/-- `redact_json` redacts this text of the value. -/
inductive TextIn (s : String) : Json → Prop
  | str : TextIn s (.str s)
  | item {x xs} (hx : x ∈ xs) (h : TextIn s x) : TextIn s (.arr xs)
  | field {k x kvs} (hx : (k, x) ∈ kvs) (hk : isSecretKey k = false) (h : TextIn s x) :
  TextIn s (.obj kvs)

/-- A value is redacted once and for all exactly if its texts are. -/
theorem redactJsonWith_idem_iff (redact : String → String) (v : Json) :
    redactJsonWith redact (redactJsonWith redact v) = redactJsonWith redact v ↔
      ∀ s, TextIn s v → redact (redact s) = redact s := by
  induction v using Json.induction with
  | null | bool | int | float =>
    simp only [redactJsonWith, true_iff]
    intro s hs
    cases hs
  | str t =>
    simp only [redactJsonWith, Json.str.injEq]
    constructor
    · intro h s hs
      cases hs
      exact h
    · exact fun h => h t .str
  | arr xs ih =>
    simp only [redactJsonWith, redactListWith_eq, List.map_map, Json.arr.injEq, List.map_inj_left,
      Function.comp_apply]
    constructor
    · intro h s hs
      cases hs with
      | item hx hs => exact (ih _ hx).mp (h _ hx) s hs
    · exact fun h x hx => (ih x hx).mpr fun s hs => h s (.item hx hs)
  | obj kvs ih =>
    simp only [redactJsonWith, redactFieldsWith_eq, List.map_map, Json.obj.injEq, List.map_inj_left,
      Function.comp_apply, Prod.mk.injEq, true_and]
    constructor
    · intro h s hs
      cases hs with
      | field hx hk hs =>
        have hfield := h _ hx
        simp only [hk, Bool.false_eq_true, if_false] at hfield
        exact (ih _ hx).mp hfield s hs
    · intro h kv hkv
      by_cases hk : isSecretKey kv.1 = true
      · simp only [if_pos hk]
      · simp only [if_neg hk]
        exact (ih kv hkv).mpr fun s hs => h s (.field hkv (by simpa using hk) hs)

/-- **Redaction is a projection** onto clean text, and onto values, as long as every labelled secret
stands without quotes and not already in front of itself. -/
theorem redaction_projects (word : Char → Bool) :
    (∀ s, BareText word s → containsCredentialLikeContentIn word (redactTextIn word s) = false ∧
      redactTextIn word (redactTextIn word s) = redactTextIn word s) ∧
    ∀ v, (∀ s, TextIn s v → BareText word s) →
      redactJsonWith (redactTextIn word) (redactJsonWith (redactTextIn word) v) =
        redactJsonWith (redactTextIn word) v :=
  ⟨fun _ h => redactTextIn_projects h, fun v h => (redactJsonWith_idem_iff _ v).mpr fun s hs =>
    (redactTextIn_projects (h s hs)).2⟩

theorem redaction_projects_sample :
    redactText "x; token=abc" = "x; token=<REDACTED>" ∧
      containsCredentialLikeContent (redactText "x; token=abc") = false ∧
      redactJson (redactJson (.arr [.str "x; token=abc"])) = redactJson
        (.arr [.str "x; token=abc"]) := by
  have hbare : BareText isWord "x; token=abc" := by
    unfold BareText
    decide +kernel
  refine ⟨by decide +kernel, ((redaction_projects isWord).1 _ hbare).1,
    (redaction_projects isWord).2 _ ?_⟩
  intro s hs
  cases hs with
  | item hx hs =>
    obtain rfl := List.mem_singleton.mp hx
    cases hs
    exact hbare

/-- **A quote left behind**: the closing quote of a secret is dropped with it, so that the mark and
what follows are a quoted secret again. -/
theorem quote_left_behind :
    redactText "token=\"x\"y\"" = "token=\"<REDACTED>y\"" ∧
      containsCredentialLikeContent (redactText "token=\"x\"y\"") = true ∧
      redactText (redactText "token=\"x\"y\"") ≠ redactText "token=\"x\"y\"" := by
  decide +kernel

end Blessing.Queue.Redaction
