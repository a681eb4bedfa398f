import Blessing.Lib.Regex
import Mathlib.Data.List.Forall2

/-! # Replacing the matches of a pattern

A pattern without groups, references, boundaries and look-ahead reads the words of a language,
wherever it stands (`mem_run`). A substitution reads its text once from left to right, keeps the
characters at which nothing matches and puts a replacement for every match (`Scan`).

* `scan_sub`: `find` and `sub` are the scan of the text, and there is no other (`Scan.unique`).
* `Free r prev cs`: the pattern matches nowhere in the text. Then there is nothing to find and
  nothing to replace.
* `Scan.word`: what stands in the result in front of the marks of a substitution stands in the
  text. -/

namespace Blessing.Lib.Substitution

open Blessing.Lib.Regex

theorem forall₂_append_left {α β : Type*} {R : α → β → Prop} {v w : List α} {z : List β}
    (h : List.Forall₂ R (v ++ w) z) :
    ∃ x y, List.Forall₂ R v x ∧ List.Forall₂ R w y ∧ z = x ++ y := by
  refine ⟨z.take v.length, z.drop v.length, ?_, ?_, (List.take_append_drop _ z).symm⟩
  · have htake := List.forall₂_take v.length h
    rwa [List.take_left] at htake
  · have hdrop := List.forall₂_drop v.length h
    rwa [List.drop_left] at hdrop

/-! ### Languages -/

/-- The pattern has no groups, references, boundaries and look-ahead. -/
def plain : Pattern → Bool
  | .eps | .oneOf _ | .cls _ => true
  | .seq r s | .alt r s => plain r && plain s
  | .star r => plain r
  | .group _ _ | .backref _ | .wordBoundary _ | .notAhead _ => false

/-- The words a plain pattern reads. -/
inductive Lang : Pattern → List Char → Prop
  | eps : Lang .eps []
  | oneOf {cs c} (h : c ∈ cs) : Lang (.oneOf cs) [c]
  | cls {f c} (h : f c = true) : Lang (.cls f) [c]
  | seq {r s v w} (hv : Lang r v) (hw : Lang s w) : Lang (.seq r s) (v ++ w)
  | left {r s w} (hw : Lang r w) : Lang (.alt r s) w
  | right {r s w} (hw : Lang s w) : Lang (.alt r s) w
  | done {r} : Lang (.star r) []
  | more {r v w} (hne : v ≠ []) (hv : Lang r v) (hw : Lang (.star r) w) : Lang (.star r) (v ++ w)

theorem skip_skip (p : Pos) (v w x y : List Char) : (p.skip v x).skip w y = p.skip (v ++ w) y := by
  simp only [Pos.skip, List.getLast?_append, Option.or_assoc]

@[simp] theorem skip_rest (p : Pos) (w x : List Char) : (p.skip w x).rest = x := rfl

@[simp] theorem skip_caps (p : Pos) (w x : List Char) : (p.skip w x).caps = p.caps := rfl

theorem starRun_self {f : Pos → List Pos} : ∀ (n : ℕ) (p : Pos), p ∈ starRun f n p
  | 0, p => List.mem_singleton_self p
  | n + 1, p => by
    rw [starRun]
    exact List.mem_append_right _ (List.mem_singleton_self p)

/-- The word read between two positions. -/
def Word (r : Pattern) (p q : Pos) : Prop :=
  ∃ w, Lang r w ∧ p.rest = w ++ q.rest ∧ q = p.skip w q.rest

theorem word_of_starRun {r : Pattern} (ih : ∀ p q, q ∈ run r p ↔ Word r p q) (q : Pos) :
    ∀ (n : ℕ) (p : Pos), q ∈ starRun (run r) n p → Word (.star r) p q
  | 0, p, hq => by
    rw [starRun, List.mem_singleton] at hq
    exact ⟨[], .done, by rw [hq]; rfl, by rw [hq]; rfl⟩
  | n + 1, p, hq => by
    rw [starRun, List.mem_append, List.mem_flatMap, List.mem_singleton] at hq
    rcases hq with ⟨q', hq', hq⟩ | rfl
    · obtain ⟨hmem, hshort⟩ := List.mem_filter.mp hq'
      obtain ⟨v, hv, hrest, hq'⟩ := (ih p q').mp hmem
      obtain ⟨w, hw, hrest', hq⟩ := word_of_starRun ih q n q' hq
      have hne : v ≠ [] := by
        rintro rfl
        rw [hrest] at hshort
        simp at hshort
      refine ⟨v ++ w, .more hne hv hw, by rw [hrest, hrest', List.append_assoc], ?_⟩
      rw [hq, hq', skip_skip]
      rfl
    · exact ⟨[], .done, rfl, rfl⟩

/-- A repetition is read in steps, at most one for each character. -/
theorem starRun_of_word {r : Pattern} (ih : ∀ p q, q ∈ run r p ↔ Word r p q) (q : Pos) {s : Pattern}
    {w : List Char} (hw : Lang s w) : s = .star r → ∀ (n : ℕ) (p : Pos), p.rest = w ++ q.rest →
      q = p.skip w q.rest → p.rest.length ≤ n → q ∈ starRun (run r) n p := by
  induction hw with
  | eps | oneOf _ | cls _ | seq _ _ _ _ | left _ _ | right _ _ => intro hs; cases hs
  | done =>
    intro _ n p hrest hq _
    rw [List.nil_append] at hrest
    rw [hq, ← hrest]
    exact starRun_self n p
  | @more s v w hne hv _ _ ihw =>
    rintro ⟨⟩ n p hrest hq hn
    have hlength : 0 < v.length := List.length_pos_iff.mpr hne
    have htotal : p.rest.length = v.length + (w ++ q.rest).length := by
      rw [hrest, List.append_assoc, List.length_append]
    cases n with
    | zero => omega
    | succ n =>
      rw [starRun, List.mem_append, List.mem_flatMap]
      refine .inl ⟨p.skip v (w ++ q.rest), List.mem_filter.mpr ⟨(ih _ _).mpr ⟨v, hv, ?_, rfl⟩, ?_⟩,
        ?_⟩
      · rw [hrest, List.append_assoc, skip_rest]
      · rw [skip_rest]
        exact decide_eq_true (by omega)
      · refine ihw rfl n _ rfl ?_ ?_
        · rw [hq, skip_skip]
          rfl
        · rw [skip_rest]
          omega

/-- **Matches of a plain pattern**: it reads a word of its language. -/
theorem mem_run {r : Pattern} (hr : plain r = true) : ∀ p q : Pos,
    q ∈ run r p ↔ Word r p q := by
  induction r with
  | eps =>
    intro p q
    rw [run, List.mem_singleton]
    constructor
    · rintro rfl
      exact ⟨[], .eps, rfl, rfl⟩
    · rintro ⟨w, hw, hrest, hq⟩
      cases hw
      rw [hq, ← List.nil_append q.rest, ← hrest]
      rfl
  | oneOf cs =>
    intro p q
    rw [run]
    constructor
    · intro hq
      split at hq
      · cases hq
      · next c rest hrest =>
        split_ifs at hq with hc
        · rw [List.mem_singleton.mp hq]
          exact ⟨[c], .oneOf hc, hrest, rfl⟩
        · cases hq
    · rintro ⟨w, hw, hrest, hq⟩
      cases hw with
      | oneOf hc =>
        rw [hrest]
        simp only [List.cons_append, List.nil_append, if_pos hc]
        rw [List.mem_singleton]
        exact hq
  | cls f =>
    intro p q
    rw [run]
    constructor
    · intro hq
      split at hq
      · cases hq
      · next c rest hrest =>
        split_ifs at hq with hc
        · rw [List.mem_singleton.mp hq]
          exact ⟨[c], .cls hc, hrest, rfl⟩
        · cases hq
    · rintro ⟨w, hw, hrest, hq⟩
      cases hw with
      | cls hc =>
        rw [hrest]
        simp only [List.cons_append, List.nil_append, if_pos hc]
        rw [List.mem_singleton]
        exact hq
  | seq r s ihr ihs =>
    obtain ⟨hr, hs⟩ := Bool.and_eq_true_iff.mp hr
    intro p q
    rw [run, List.mem_flatMap]
    constructor
    · rintro ⟨q', hq', hq⟩
      obtain ⟨v, hv, hrest, hq'⟩ := (ihr hr _ _).mp hq'
      obtain ⟨w, hw, hrest', hq⟩ := (ihs hs _ _).mp hq
      refine ⟨v ++ w, .seq hv hw, by rw [hrest, hrest', List.append_assoc], ?_⟩
      rw [hq, hq', skip_skip]
      rfl
    · rintro ⟨x, hx, hrest, hq⟩
      cases hx with
      | @seq _ _ v w hv hw =>
        refine ⟨p.skip v (w ++ q.rest), (ihr hr _ _).mpr ⟨v, hv, ?_, rfl⟩,
          (ihs hs _ _).mpr ⟨w, hw, rfl, ?_⟩⟩
        · rw [hrest, List.append_assoc, skip_rest]
        · rw [hq, skip_skip]
          rfl
  | alt r s ihr ihs =>
    obtain ⟨hr, hs⟩ := Bool.and_eq_true_iff.mp hr
    intro p q
    rw [run, List.mem_append, ihr hr, ihs hs, Word, Word]
    constructor
    · rintro (⟨w, hw, h⟩ | ⟨w, hw, h⟩)
      · exact ⟨w, .left hw, h⟩
      · exact ⟨w, .right hw, h⟩
    · rintro ⟨w, hw, h⟩
      cases hw with
      | left hw => exact .inl ⟨w, hw, h⟩
      | right hw => exact .inr ⟨w, hw, h⟩
  | star r ih =>
    intro p q
    rw [run]
    constructor
    · exact word_of_starRun (ih hr) q _ p
    · rintro ⟨w, hw, hrest, hq⟩
      exact starRun_of_word (ih hr) q hw rfl _ p hrest hq (le_refl _)
  | group | backref | wordBoundary | notAhead => cases hr

/-- A plain pattern matches where a word of its language stands. -/
theorem run_ne_nil {r : Pattern} (hr : plain r = true) {p : Pos} :
    run r p ≠ [] ↔ ∃ w, Lang r w ∧ w <+: p.rest := by
  constructor
  · intro hne
    obtain ⟨q, hq⟩ := List.exists_mem_of_ne_nil _ hne
    obtain ⟨w, hw, hrest, -⟩ := (mem_run hr p q).mp hq
    exact ⟨w, hw, q.rest, hrest.symm⟩
  · rintro ⟨w, hw, x, hrest⟩
    exact List.ne_nil_of_mem ((mem_run hr p (p.skip w x)).mpr ⟨w, hw, hrest.symm, rfl⟩)

/-! ### What words are made of -/

/-- All characters the pattern reads have the property. -/
def Within (P : Char → Prop) : Pattern → Prop
  | .oneOf cs => ∀ c ∈ cs, P c
  | .cls f => ∀ c, f c = true → P c
  | .seq r s | .alt r s => Within P r ∧ Within P s
  | .star r => Within P r
  | .eps | .group _ _ | .backref _ | .wordBoundary _ | .notAhead _ => True

theorem Within.word {P : Char → Prop} {r : Pattern} {w : List Char} (hw : Lang r w)
    (h : Within P r) : ∀ c ∈ w, P c := by
  induction hw with
  | eps => simp
  | oneOf hc => exact fun d hd => List.mem_singleton.mp hd ▸ h _ hc
  | cls hc => exact fun d hd => List.mem_singleton.mp hd ▸ h _ hc
  | seq _ _ ihv ihw => exact fun c hc => (List.mem_append.mp hc).elim (ihv h.1 c) (ihw h.2 c)
  | left _ ih => exact ih h.1
  | right _ ih => exact ih h.2
  | done => simp
  | more _ _ _ ihv ihw => exact fun c hc => (List.mem_append.mp hc).elim (ihv h c) (ihw h c)

theorem within_seqs {P : Char → Prop} {rs : List Pattern} (h : ∀ r ∈ rs, Within P r) :
    Within P (seqs rs) := by
  induction rs with
  | nil => trivial
  | cons r rs ih => exact ⟨h r (by simp), ih fun s hs => h s (by simp [hs])⟩

theorem within_lit {P : Char → Prop} {s : String} (h : ∀ c ∈ s.toList, P c) : Within P (lit s) := by
  refine within_seqs fun r hr => ?_
  obtain ⟨c, hc, rfl⟩ := List.mem_map.mp hr
  exact fun d hd => List.mem_singleton.mp hd ▸ h c hc

theorem within_litCI {P : Char → Prop} {s : String} (h : ∀ c ∈ s.toList, ∀ d ∈ foldCase c, P d) :
    Within P (litCI s) := by
  refine within_seqs fun r hr => ?_
  obtain ⟨c, hc, rfl⟩ := List.mem_map.mp hr
  exact h c hc

/-- A length no word is shorter than. -/
def minLen : Pattern → ℕ
  | .oneOf _ | .cls _ => 1
  | .seq r s => minLen r + minLen s
  | .alt r s => min (minLen r) (minLen s)
  | _ => 0

theorem minLen_le {r : Pattern} {w : List Char} (hw : Lang r w) : minLen r ≤ w.length := by
  induction hw with
  | eps | done | more => exact Nat.zero_le _
  | oneOf _ | cls _ => exact le_refl 1
  | seq _ _ ihv ihw =>
    rw [minLen, List.length_append]
    omega
  | left _ ih =>
    rw [minLen]
    omega
  | right _ ih =>
    rw [minLen]
    omega

/-- The pattern cannot tell these characters apart. -/
def Respects (like : Char → Char → Prop) : Pattern → Prop
  | .oneOf cs => ∀ c ∈ cs, ∀ d, like c d → d ∈ cs
  | .cls f => ∀ c, f c = true → ∀ d, like c d → f d = true
  | .seq r s | .alt r s => Respects like r ∧ Respects like s
  | .star r => Respects like r
  | .eps | .group _ _ | .backref _ | .wordBoundary _ | .notAhead _ => True

theorem Respects.word {like : Char → Char → Prop} {r : Pattern} {w : List Char} (hw : Lang r w)
    (h : Respects like r) : ∀ {w'}, List.Forall₂ like w w' → Lang r w' := by
  induction hw with
  | eps =>
    intro w' hlike
    cases hlike
    exact .eps
  | oneOf hc =>
    intro w' hlike
    obtain ⟨d, x, hd, hx, rfl⟩ := List.forall₂_cons_left_iff.mp hlike
    cases hx
    exact .oneOf (h _ hc d hd)
  | cls hc =>
    intro w' hlike
    obtain ⟨d, x, hd, hx, rfl⟩ := List.forall₂_cons_left_iff.mp hlike
    cases hx
    exact .cls (h _ hc d hd)
  | seq _ _ ihv ihw =>
    intro w' hlike
    obtain ⟨x, y, hx, hy, rfl⟩ := forall₂_append_left hlike
    exact .seq (ihv h.1 hx) (ihw h.2 hy)
  | left _ ih => exact fun hlike => .left (ih h.1 hlike)
  | right _ ih => exact fun hlike => .right (ih h.2 hlike)
  | done =>
    intro w' hlike
    cases hlike
    exact .done
  | more hne _ _ ihv ihw =>
    intro w' hlike
    obtain ⟨x, y, hx, hy, rfl⟩ := forall₂_append_left hlike
    refine .more ?_ (ihv h hx) (ihw h hy)
    rintro rfl
    cases hx
    exact hne rfl

/-! ### Runs of characters -/

/-- A text does not begin with such a character. -/
def Stop (P : Char → Bool) (cs : List Char) : Prop := ∀ c, cs.head? = some c → P c = false

/-- Two ways to split a text behind the same kind of characters are the same. -/
theorem span_unique {P : Char → Bool} {a b a' b' : List Char} (h : a ++ b = a' ++ b')
    (ha : ∀ c ∈ a, P c = true) (hb : Stop P b) (ha' : ∀ c ∈ a', P c = true) (hb' : Stop P b') :
    a = a' ∧ b = b' := by
  have htake {a b : List Char} (ha : ∀ c ∈ a, P c = true) (hb : Stop P b) :
      (a ++ b).takeWhile P = a := by
    rw [List.takeWhile_append_of_pos ha]
    cases b with
    | nil => simp
    | cons c b => rw [List.takeWhile_cons_of_neg (by rw [hb c rfl]; decide), List.append_nil]
  have heq : a = a' := by rw [← htake ha hb, h, htake ha' hb']
  subst heq
  exact ⟨rfl, List.append_cancel_left h⟩

/-! ### The first match -/

theorem between_of_rest {p q : Pos} {w : List Char} (h : p.rest = w ++ q.rest) :
    between p q = w := by
  rw [between, h, List.length_append, Nat.add_sub_cancel, List.take_left]

theorem mem_group {n : ℕ} {r : Pattern} (hr : plain r = true) {p q : Pos} : q ∈ run (.group n r) p ↔
    ∃ w, Lang r w ∧ p.rest = w ++ q.rest ∧
      q = { p.skip w q.rest with caps := (n, w) :: p.caps } := by
  rw [run, List.mem_map]
  constructor
  · rintro ⟨q', hq', rfl⟩
    obtain ⟨w, hw, hrest, heq⟩ := (mem_run hr p q').mp hq'
    refine ⟨w, hw, hrest, ?_⟩
    rw [between_of_rest hrest]
    have hcaps : q'.caps = p.caps := by rw [heq]; rfl
    have hprev : q'.prev = (p.skip w q'.rest).prev := by rw [heq]; rfl
    rw [hcaps, hprev]
    rfl
  · rintro ⟨w, hw, hrest, heq⟩
    refine ⟨p.skip w q.rest, (mem_run hr p _).mpr ⟨w, hw, hrest, rfl⟩, ?_⟩
    rw [between_of_rest (q := p.skip w q.rest) hrest]
    exact heq.symm

theorem run_seq_ne_nil {r s : Pattern} {p p' : Pos} (hr : p' ∈ run r p) (hs : run s p' ≠ []) :
    run (.seq r s) p ≠ [] := by
  obtain ⟨q, hq⟩ := List.exists_mem_of_ne_nil _ hs
  rw [run]
  exact List.ne_nil_of_mem (List.mem_flatMap.mpr ⟨p', hr, hq⟩)

theorem skip_mem_run {r : Pattern} (hr : plain r = true) {p : Pos} {w x : List Char} (hw : Lang r w)
    (hrest : p.rest = w ++ x) : p.skip w x ∈ run r p := (mem_run hr p _).mpr ⟨w, hw, hrest, rfl⟩

theorem skip_mem_group {n : ℕ} {r : Pattern} (hr : plain r = true) {p : Pos} {w x : List Char}
    (hw : Lang r w) (hrest : p.rest = w ++ x) :
    { p.skip w x with caps := (n, w) :: p.caps } ∈ run (.group n r) p :=
  (mem_group hr).mpr ⟨w, hw, hrest, rfl⟩

theorem lang_star {P : Char → Bool} {w : List Char} (h : ∀ c ∈ w, P c = true) :
    Lang (.star (.cls P)) w := by
  induction w with
  | nil => exact .done
  | cons c w ih =>
    exact .more (v := [c]) (by simp) (.cls (h c List.mem_cons_self))
      (ih fun d hd => h d (List.mem_cons_of_mem _ hd))

theorem run_seq_eps {r : Pattern} {p : Pos} : run (.seq r .eps) p = run r p := by
  rw [run]
  exact List.flatMap_singleton' _

theorem head_run_seq {r s : Pattern} {p q : Pos} (h : (run (.seq r s) p).head? = some q) :
    ∃ p' ∈ run r p, (run s p').head? = some q := by
  rw [run, List.head?_flatMap] at h
  exact List.exists_of_findSome?_eq_some h

/-- A greedy repetition of one kind of characters takes all of them first. -/
theorem head_run_star {P : Char → Bool} {p q : Pos} (h : (run (.star (.cls P)) p).head? = some q) :
    Stop P q.rest := by
  rw [run] at h
  have hstar : ∀ (n : ℕ) (p : Pos), p.rest.length ≤ n →
      (starRun (run (.cls P)) n p).head? = some q → Stop P q.rest := by
    intro n
    induction n with
    | zero =>
      intro p hn hq
      obtain rfl := Option.some.inj hq
      rw [List.length_eq_zero_iff.mp (Nat.le_zero.mp hn)]
      intro c hc
      cases hc
    | succ n ih =>
      intro p hn hq
      rw [starRun] at hq
      cases hrest : p.rest with
      | nil =>
        rw [run, hrest] at hq
        obtain rfl := Option.some.inj hq
        rw [hrest]
        intro c hc
        cases hc
      | cons c rest =>
        rw [hrest, List.length_cons] at hn
        by_cases hc : P c = true
        · have hstep : ((run (.cls P) p).filter fun q => q.rest.length < p.rest.length) =
              [p.skip [c] rest] := by
            rw [run, hrest]
            simp [hc]
          rw [hstep, List.flatMap_singleton, List.head?_append_of_ne_nil _
            (List.ne_nil_of_mem (starRun_self n _))] at hq
          exact ih _ (by rw [skip_rest]; omega) hq
        · have hstep : run (.cls P) p = [] := by
            rw [run, hrest]
            simp [hc]
          rw [hstep] at hq
          obtain rfl := Option.some.inj hq
          rw [hrest]
          intro d hd
          obtain rfl := Option.some.inj hd
          simpa using hc
  exact hstar _ p (le_refl _) h

/-- The second position follows the first one in the text. -/
def Follows (p q : Pos) : Prop := ∃ w, p.rest = w ++ q.rest ∧ q.prev = w.getLast?.or p.prev

theorem Follows.refl (p : Pos) : Follows p p := ⟨[], rfl, rfl⟩

theorem Follows.trans {p q r : Pos} (h : Follows p q) (h' : Follows q r) : Follows p r := by
  obtain ⟨v, hv, hprev⟩ := h
  obtain ⟨w, hw, hprev'⟩ := h'
  refine ⟨v ++ w, by rw [hv, hw, List.append_assoc], ?_⟩
  rw [hprev', hprev, List.getLast?_append, Option.or_assoc]

theorem follows_skip {p : Pos} {w x : List Char} (h : p.rest = w ++ x) :
    Follows p (p.skip w x) := ⟨w, h, rfl⟩

/-- **Every match goes on in the text.** -/
theorem run_follows : ∀ (r : Pattern) (p q : Pos), q ∈ run r p → Follows p q := by
  intro r
  induction r with
  | eps =>
    intro p q hq
    rw [run, List.mem_singleton] at hq
    exact hq ▸ .refl p
  | oneOf cs =>
    intro p q hq
    rw [run] at hq
    cases hrest : p.rest with
    | nil =>
      rw [hrest] at hq
      cases hq
    | cons c rest =>
      rw [hrest] at hq
      dsimp only at hq
      split_ifs at hq
      · exact List.mem_singleton.mp hq ▸ follows_skip hrest
      · cases hq
  | cls f =>
    intro p q hq
    rw [run] at hq
    cases hrest : p.rest with
    | nil =>
      rw [hrest] at hq
      cases hq
    | cons c rest =>
      rw [hrest] at hq
      dsimp only at hq
      split_ifs at hq
      · exact List.mem_singleton.mp hq ▸ follows_skip hrest
      · cases hq
  | seq r s ihr ihs =>
    intro p q hq
    obtain ⟨p', hp', hq⟩ := List.mem_flatMap.mp hq
    exact (ihr p p' hp').trans (ihs p' q hq)
  | alt r s ihr ihs =>
    intro p q hq
    exact (List.mem_append.mp hq).elim (ihr p q) (ihs p q)
  | star r ih =>
    have hstar : ∀ (n : ℕ) (p q : Pos), q ∈ starRun (run r) n p → Follows p q := by
      intro n
      induction n with
      | zero =>
        intro p q hq
        exact List.mem_singleton.mp hq ▸ .refl p
      | succ n ihn =>
        intro p q hq
        rcases List.mem_append.mp hq with hq | hq
        · obtain ⟨p', hp', hq⟩ := List.mem_flatMap.mp hq
          exact (ih p p' (List.mem_filter.mp hp').1).trans (ihn p' q hq)
        · exact List.mem_singleton.mp hq ▸ .refl p
    exact fun p q hq => hstar _ p q hq
  | group n r ih =>
    intro p q hq
    obtain ⟨q', hq', rfl⟩ := List.mem_map.mp hq
    exact ih p q' hq'
  | backref n =>
    intro p q hq
    rw [run] at hq
    cases hcap : p.cap n with
    | none =>
      rw [hcap] at hq
      cases hq
    | some w =>
      rw [hcap] at hq
      dsimp only at hq
      split_ifs at hq with hw
      · obtain ⟨x, hx⟩ := List.isPrefixOf_iff_prefix.mp hw
        obtain rfl := List.mem_singleton.mp hq
        refine follows_skip ?_
        rw [← hx, List.drop_left]
      · cases hq
  | wordBoundary word =>
    intro p q hq
    rw [run] at hq
    split_ifs at hq
    · exact List.mem_singleton.mp hq ▸ .refl p
    · cases hq
  | notAhead r ih =>
    intro p q hq
    rw [run] at hq
    split_ifs at hq
    · exact List.mem_singleton.mp hq ▸ .refl p
    · cases hq

/-- The first choice of the first pattern, if the second one matches there. -/
theorem head_seq {r s : Pattern} {p p' q : Pos} (hr : (run r p).head? = some p')
    (hs : (run s p').head? = some q) : (run (.seq r s) p).head? = some q := by
  obtain ⟨l, hl⟩ := List.head?_eq_some_iff.mp hr
  obtain ⟨l', hl'⟩ := List.head?_eq_some_iff.mp hs
  rw [run, hl, List.flatMap_cons, hl']
  rfl

theorem head_left {r s : Pattern} {p q : Pos} (h : (run r p).head? = some q) :
    (run (.alt r s) p).head? = some q := by
  obtain ⟨l, hl⟩ := List.head?_eq_some_iff.mp h
  rw [run, hl]
  rfl

theorem head_right {r s : Pattern} {p q : Pos} (hr : run r p = []) (h : (run s p).head? = some q) :
    (run (.alt r s) p).head? = some q := by
  rwa [run, hr, List.nil_append]

theorem head_group {n : ℕ} {r : Pattern} {p q : Pos} (h : (run r p).head? = some q) :
    (run (.group n r) p).head? = some { q with caps := (n, between p q) :: q.caps } := by
  rw [run, List.head?_map, h]
  rfl

theorem head_oneOf {cs : List Char} {p : Pos} {c : Char} {x : List Char} (hc : c ∈ cs)
    (hrest : p.rest = c :: x) : (run (.oneOf cs) p).head? = some (p.skip [c] x) := by
  rw [run, hrest]
  dsimp only
  rw [if_pos hc]
  rfl

theorem run_oneOf_nil {cs : List Char} {p : Pos} (h : ∀ c ∈ p.rest.head?, c ∉ cs) :
    run (.oneOf cs) p = [] := by
  rw [run]
  cases hrest : p.rest with
  | nil => rfl
  | cons c rest =>
    rw [hrest] at h
    dsimp only
    rw [if_neg (h c rfl)]

/-- Where all words of the pattern have one length there is one match. -/
theorem head_of_length {r : Pattern} (hr : plain r = true) {p : Pos} {w x : List Char}
    (hw : Lang r w) (hrest : p.rest = w ++ x) (hlength : ∀ v, Lang r v → v.length = w.length) :
    (run r p).head? = some (p.skip w x) := by
  obtain ⟨q, l, hl⟩ := List.exists_cons_of_ne_nil (List.ne_nil_of_mem (skip_mem_run hr hw hrest))
  obtain ⟨v, hv, hrest', hq⟩ := (mem_run hr p q).mp (hl ▸ List.mem_cons_self)
  obtain ⟨rfl, rfl⟩ := List.append_inj (hrest.symm.trans hrest') (hlength v hv).symm
  rw [hl]
  exact congrArg some hq

theorem head_star {P : Char → Bool} {p : Pos} {w x : List Char} (hrest : p.rest = w ++ x)
    (hw : ∀ c ∈ w, P c = true) (hx : Stop P x) :
    (run (.star (.cls P)) p).head? = some (p.skip w x) := by
  obtain ⟨q, l, hl⟩ := List.exists_cons_of_ne_nil (List.ne_nil_of_mem
    (skip_mem_run (r := .star (.cls P)) rfl (lang_star hw) hrest))
  have hhead : (run (.star (.cls P)) p).head? = some q := by
    rw [hl]
    rfl
  obtain ⟨v, hv, hrest', hq⟩ := (mem_run (r := .star (.cls P)) rfl p q).mp (List.mem_of_head? hhead)
  obtain ⟨rfl, rfl⟩ := span_unique (hrest.symm.trans hrest') hw hx (Within.word hv fun _ hc => hc)
    (head_run_star hhead)
  rw [hhead]
  exact congrArg some hq

theorem head_plus {P : Char → Bool} {p : Pos} {w x : List Char} (hrest : p.rest = w ++ x)
    (hne : w ≠ []) (hw : ∀ c ∈ w, P c = true) (hx : Stop P x) :
    (run (plus (.cls P)) p).head? = some (p.skip w x) := by
  obtain ⟨c, w, rfl⟩ := List.exists_cons_of_ne_nil hne
  have hone : (run (.cls P) p).head? = some (p.skip [c] (w ++ x)) := by
    rw [run, hrest, List.cons_append]
    dsimp only
    rw [if_pos (hw c List.mem_cons_self)]
    rfl
  refine head_seq hone ?_
  rw [head_star rfl (fun d hd => hw d (List.mem_cons_of_mem _ hd)) hx, skip_skip]
  rfl

/-! ### Scans -/

section

variable (r : Pattern) (repl : Match → List Char)

/-- The match reported at a position, if it is not empty. -/
def reported (p : Pos) : Option Pos := (matchAt r p).filter fun q => q.rest.length < p.rest.length

/-- What a reported match is. -/
def matchOf (p q : Pos) : Match := ⟨between p q, q.caps⟩

/-- A text read from left to right, with the character in front of it: the matches, and the text
with the matches replaced. -/
inductive Scan : Option Char → List Char → List Match → List Char → Prop
  | nil {prev} : Scan prev [] [] []
  | keep {prev c cs ms out} (h : reported r ⟨prev, c :: cs, []⟩ = none)
    (hs : Scan (some c) cs ms out) :
      Scan prev (c :: cs) ms (c :: out)
  | cut {prev cs q ms out} (h : reported r ⟨prev, cs, []⟩ = some q)
    (hs : Scan q.prev q.rest ms out) :
      Scan prev cs (matchOf ⟨prev, cs, []⟩ q :: ms) (repl (matchOf ⟨prev, cs, []⟩ q) ++ out)

variable {r repl} {prev : Option Char} {cs : List Char}

theorem reported_length {p q : Pos} (h : reported r p = some q) : q.rest.length < p.rest.length :=
  of_decide_eq_true (Option.filter_eq_some_iff.mp h).2

theorem reported_reads {r : Pattern} {p q : Pos} (h : reported r p = some q) (hp : p.caps = []) :
    ∃ w, p.rest = w ++ q.rest := by
  obtain ⟨hmatch, -⟩ := Option.filter_eq_some_iff.mp h
  have hmem := List.mem_of_head? hmatch
  rw [← hp] at hmem
  obtain ⟨w, hw, -⟩ := run_reads (fun _ => false) r p q hmem
  exact ⟨w, hw⟩

theorem nextMatch_cons (n : ℕ) (c : Char) : nextMatch r (n + 1) ⟨prev, c :: cs, []⟩ =
    match reported r ⟨prev, c :: cs, []⟩ with
    | some q => some ([], matchOf ⟨prev, c :: cs, []⟩ q, { q with caps := [] })
    | none => (nextMatch r n ⟨some c, cs, []⟩).map fun (w, m) => (c :: w, m) := by
  have hreported : reported r ⟨prev, c :: cs, []⟩ =
      (matchAt r ⟨prev, c :: cs, []⟩).filter fun q => q.rest.length ≤ cs.length := by
    simp only [reported, List.length_cons, Nat.lt_succ_iff]
  rw [hreported]
  rfl

/-- **There is one scan** of a text. -/
theorem Scan.unique {ms ms' : List Match} {out out' : List Char} (h : Scan r repl prev cs ms out)
    (h' : Scan r repl prev cs ms' out') : ms = ms' ∧ out = out' := by
  induction h generalizing ms' out' with
  | nil =>
    cases h' with
    | nil => exact ⟨rfl, rfl⟩
    | cut hq _ => exact absurd (reported_length hq) (by simp)
  | keep hno _ ih =>
    cases h' with
    | keep _ hs' =>
      obtain ⟨rfl, rfl⟩ := ih hs'
      exact ⟨rfl, rfl⟩
    | cut hq _ => rw [hno] at hq; cases hq
  | cut hq _ ih =>
    cases h' with
    | nil => exact absurd (reported_length hq) (by simp)
    | keep hno _ => rw [hno] at hq; cases hq
    | cut hq' hs' =>
      rw [hq] at hq'
      cases hq'
      obtain ⟨rfl, rfl⟩ := ih hs'
      exact ⟨rfl, rfl⟩

/-- The next match comes after characters that are kept. -/
theorem scan_of_nextMatch (repl : Match → List Char) (n : ℕ) {w : List Char} {m : Match} {q : Pos}
    (h : nextMatch r n ⟨prev, cs, []⟩ = some (w, m, q)) :
    q.rest.length < cs.length ∧ q.caps = [] ∧ ∀ {ms out}, Scan r repl q.prev q.rest ms out →
      Scan r repl prev cs (m :: ms) (w ++ (repl m ++ out)) := by
  induction n generalizing prev cs w with
  | zero => cases h
  | succ n ih =>
    cases cs with
    | nil => cases h
    | cons c cs =>
      rw [nextMatch_cons] at h
      cases hr : reported r ⟨prev, c :: cs, []⟩ with
      | some q' =>
        rw [hr] at h
        cases h
        have hlength : q'.rest.length < (c :: cs).length := reported_length hr
        exact ⟨hlength, rfl, fun hs => .cut hr hs⟩
      | none =>
        rw [hr] at h
        obtain ⟨⟨w', m', q'⟩, hnext, heq⟩ := Option.map_eq_some_iff.mp h
        cases heq
        obtain ⟨hlength, hcaps, hscan⟩ := ih hnext
        exact ⟨Nat.lt_succ_of_lt hlength, hcaps, fun hs => .keep hr (hscan hs)⟩

theorem scan_of_nextMatch_none (n : ℕ) (hn : cs.length ≤ n)
    (h : nextMatch r n ⟨prev, cs, []⟩ = none) : Scan r repl prev cs [] cs := by
  induction n generalizing prev cs with
  | zero =>
    rw [List.length_eq_zero_iff.mp (Nat.le_zero.mp hn)]
    exact .nil
  | succ n ih =>
    cases cs with
    | nil => exact .nil
    | cons c cs =>
      rw [nextMatch_cons] at h
      cases hr : reported r ⟨prev, c :: cs, []⟩ with
      | some q' =>
        rw [hr] at h
        cases h
      | none =>
        rw [hr] at h
        exact .keep hr (ih (Nat.le_of_succ_le_succ hn) (Option.map_eq_none_iff.mp h))

/-- **Substitution is a scan**: its matches and its result. -/
theorem scan_sub (cs : List Char) : Scan r repl none cs (find r cs) (sub r repl cs) := by
  have hfrom : ∀ (n : ℕ) (prev : Option Char) (cs : List Char), cs.length ≤ n →
      Scan r repl prev cs (findFrom r n ⟨prev, cs, []⟩) (subFrom r repl n ⟨prev, cs, []⟩) := by
    intro n
    induction n with
    | zero =>
      intro prev cs hn
      rw [List.length_eq_zero_iff.mp (Nat.le_zero.mp hn)]
      exact .nil
    | succ n ih =>
      intro prev cs hn
      rw [findFrom, subFrom]
      dsimp only
      cases hnext : nextMatch r cs.length ⟨prev, cs, []⟩ with
      | none => exact scan_of_nextMatch_none _ (le_refl _) hnext
      | some x =>
        obtain ⟨w, m, ⟨prev', cs', caps⟩⟩ := x
        obtain ⟨hlength, rfl, hscan⟩ := scan_of_nextMatch repl _ hnext
        dsimp only at hlength ⊢
        rw [List.append_assoc]
        exact hscan (ih prev' cs' (by omega))
  exact hfrom _ none cs (le_refl _)

/-- **A place in the text**: the scan comes there, or a match from further left goes beyond it. -/
theorem Scan.reach {ms : List Match} {out u v : List Char} (hs : Scan r repl prev (u ++ v) ms out) :
    (∃ ms' out', Scan r repl (u.getLast?.or prev) v ms' out' ∧ ms' ⊆ ms) ∨
      ∃ u₁ u₂ q, u = u₁ ++ u₂ ∧ u₂ ≠ [] ∧ reported r ⟨u₁.getLast?.or prev, u₂ ++ v, []⟩ = some q ∧
        q.rest.length < v.length ∧ matchOf ⟨u₁.getLast?.or prev, u₂ ++ v, []⟩ q ∈ ms := by
  generalize hcs : u ++ v = cs at hs
  induction hs generalizing u with
  | @nil prev =>
    obtain ⟨rfl, rfl⟩ := List.append_eq_nil_iff.mp hcs
    exact .inl ⟨[], [], .nil, List.Subset.refl _⟩
  | @keep prev c cs ms out hno hs ih =>
    cases u with
    | nil =>
      obtain rfl : v = c :: cs := hcs
      exact .inl ⟨ms, _, .keep hno hs, List.Subset.refl _⟩
    | cons d u =>
      obtain ⟨rfl, rfl⟩ := List.cons.inj hcs
      have hlast (w : List Char) : (d :: w).getLast?.or prev = w.getLast?.or (some d) := by
        rw [List.getLast?_cons]
        cases w.getLast? <;> rfl
      rcases ih rfl with ⟨ms', out', hs', hms⟩ | ⟨u₁, u₂, q, rfl, hne, hq, hlength, hmem⟩
      · exact .inl ⟨ms', out', by rwa [hlast], hms⟩
      · exact .inr ⟨d :: u₁, u₂, q, rfl, hne, by rwa [hlast], hlength, by rwa [hlast]⟩
  | @cut prev cs q ms out hq hs ih =>
    by_cases hu : u = []
    · subst hu
      obtain rfl : v = cs := hcs
      exact .inl ⟨_, _, .cut hq hs, List.Subset.refl _⟩
    by_cases hlength : q.rest.length < v.length
    · subst hcs
      exact .inr ⟨[], u, q, rfl, hu, hq, hlength, List.mem_cons_self⟩
    obtain ⟨w, hw, hprev⟩ :=
      run_follows r _ q (List.mem_of_head? (Option.filter_eq_some_iff.mp hq).1)
    dsimp only at hw hprev
    rw [← hcs] at hw
    obtain ⟨x, rfl, hx⟩ : ∃ x, u = w ++ x ∧ q.rest = x ++ v := by
      rcases List.append_eq_append_iff.mp hw with ⟨x, rfl, hv⟩ | ⟨x, hu, hrest⟩
      · have hzero : x = [] := by
          rw [hv, List.length_append] at hlength
          exact List.length_eq_zero_iff.mp (by omega)
        exact ⟨[], by rw [hzero, List.append_nil, List.append_nil], by rw [hv, hzero]; rfl⟩
      · exact ⟨x, hu, hrest⟩
    have hlast (y : List Char) : (w ++ y).getLast?.or prev = y.getLast?.or q.prev := by
      rw [hprev, List.getLast?_append, Option.or_assoc]
    rcases ih hx.symm with ⟨ms', out', hs', hms⟩ | ⟨u₁, u₂, q', rfl, hne, hq', hlength', hmem⟩
    · exact .inl ⟨ms', out', by rwa [hlast], fun m hm => List.mem_cons_of_mem _ (hms hm)⟩
    · refine .inr ⟨w ++ u₁, u₂, q', (List.append_assoc _ _ _).symm, hne, ?_, hlength', ?_⟩
      · rwa [hlast]
      · rw [hlast]
        exact List.mem_cons_of_mem _ hmem

/-! ### Texts without a match -/

/-- The pattern matches nowhere in the text. -/
def Free (r : Pattern) : Option Char → List Char → Prop
  | _, [] => True
  | prev, c :: cs => run r ⟨prev, c :: cs, []⟩ = [] ∧ Free r (some c) cs

theorem Free.scan (repl : Match → List Char) (h : Free r prev cs) : Scan r repl prev cs [] cs := by
  induction cs generalizing prev with
  | nil => exact .nil
  | cons c cs ih =>
    refine .keep ?_ (ih h.2)
    rw [reported, matchAt, h.1]
    rfl

theorem Free.find_eq_nil (h : Free r none cs) : find r cs = [] := by
  have hs : Scan r (fun _ => []) none cs (find r cs) (sub r (fun _ => []) cs) := scan_sub cs
  exact (hs.unique (h.scan _)).1

theorem Free.sub_eq (h : Free r none cs) : sub r repl cs = cs :=
  ((scan_sub cs).unique (h.scan _)).2

theorem free_append {a b : List Char} : Free r prev (a ++ b) ↔
    (∀ x y, a = x ++ y → y ≠ [] → run r ⟨x.getLast?.or prev, y ++ b, []⟩ = []) ∧
      Free r (a.getLast?.or prev) b := by
  induction a generalizing prev with
  | nil =>
    simp only [List.nil_append, List.getLast?_nil, Option.none_or, iff_and_self]
    intro _ x y hxy hy
    exact absurd (List.append_eq_nil_iff.mp hxy.symm).2 hy
  | cons c a ih =>
    rw [List.cons_append, Free, ih]
    have hlast (x : List Char) : (c :: x).getLast?.or prev = x.getLast?.or (some c) := by
      cases x <;> simp [List.getLast?_cons]
    rw [hlast]
    constructor
    · rintro ⟨hrun, hinner, hfree⟩
      refine ⟨fun x y hxy hy => ?_, hfree⟩
      cases x with
      | nil =>
        obtain rfl : c :: a = y := hxy
        exact hrun
      | cons d x =>
        obtain ⟨rfl, htail⟩ := List.cons.inj hxy
        rw [hlast]
        exact hinner x y htail hy
    · rintro ⟨hinner, hfree⟩
      refine ⟨hinner [] (c :: a) rfl (List.cons_ne_nil _ _), fun x y hxy hy => ?_, hfree⟩
      have hrun := hinner (c :: x) y (congrArg (c :: ·) hxy) hy
      rwa [hlast] at hrun

end

/-! ### Patterns that match where a word stands -/

/-- The pattern matches where a word of the body stands, if the characters in front of it and at its
beginning allow it. -/
structure Anchored (r : Pattern) (opens : Option Char → Option Char → Prop) (body : Pattern) :
    Prop where
  run_iff : ∀ p, run r p ≠ [] ↔ opens p.prev p.rest.head? ∧ ∃ w, Lang body w ∧ w <+: p.rest
  shorter : ∀ p, ∀ q ∈ run r p, q.rest.length < p.rest.length

theorem anchored_plain {r : Pattern} (hr : plain r = true) (hlen : 0 < minLen r) :
    Anchored r (fun _ _ => True) r where
  run_iff p := by rw [run_ne_nil hr, true_and]
  shorter p q hq := by
    obtain ⟨w, hw, hrest, -⟩ := (mem_run hr p q).mp hq
    have := minLen_le hw
    rw [hrest, List.length_append]
    omega

theorem anchored_boundary {r : Pattern} (word : Char → Bool) (hr : plain r = true)
    (hlen : 0 < minLen r) :
    Anchored (.seq (.wordBoundary word) r) (fun prev next =>
      (prev.any word != next.any word) = true) r := by
  have hrun (p : Pos) : run (.seq (.wordBoundary word) r) p = if p.atBoundary word then
      run r p else [] := by
    rw [run, run]
    by_cases h : p.atBoundary word = true
    · rw [if_pos h, if_pos h, List.flatMap_singleton]
    · rw [if_neg h, if_neg h]
      rfl
  constructor
  case run_iff =>
    intro p
    rw [hrun, ← run_ne_nil hr]
    change _ ↔ p.atBoundary word = true ∧ _
    by_cases h : p.atBoundary word = true
    · rw [if_pos h]
      exact ⟨fun hne => ⟨h, hne⟩, fun hne => hne.2⟩
    · rw [if_neg h]
      exact ⟨fun hne => absurd rfl hne, fun hne => absurd hne.1 h⟩
  case shorter =>
    intro p q hq
    rw [hrun] at hq
    split_ifs at hq
    · exact (anchored_plain hr hlen).shorter p q hq
    · cases hq

section

variable {r : Pattern} {opens : Option Char → Option Char → Prop} {body : Pattern} {x : List Char}

theorem Anchored.run_eq_nil (hr : Anchored r opens body) {p : Pos} (hp : p.caps = [])
    (h : reported r p = none) : run r p = [] := by
  obtain ⟨prev, cs, caps⟩ := p
  cases hp
  by_contra hne
  obtain ⟨q, hq⟩ := Option.ne_none_iff_exists'.mp (mt List.head?_eq_none_iff.mp hne)
  have hshort := hr.shorter _ q (List.mem_of_head? hq)
  rw [reported, matchAt, hq, Option.filter_eq_none_iff] at h
  exact h q rfl (decide_eq_true hshort)

/-- A mark is too short for a word. -/
theorem Anchored.inert (hr : Anchored r opens body)
    (hbody : ∀ w, Lang body w → '>' ∉ w ∧ x.length < w.length) {y z : List Char} (hy : y <:+ x)
    {prev : Option Char} :
    run r ⟨prev, y ++ '>' :: z, []⟩ = [] := by
  by_contra hne
  obtain ⟨-, w, hw, hprefix⟩ := (hr.run_iff _).mp hne
  obtain ⟨hmark, hlength⟩ := hbody w hw
  have hle := hy.length_le
  obtain ⟨t, ht⟩ := hprefix
  rcases List.append_eq_append_iff.mp ht with ⟨u, rfl, -⟩ | ⟨u, rfl, hu⟩
  · rw [List.length_append] at hle
    omega
  · cases u with
    | nil =>
      rw [List.append_nil] at hlength
      omega
    | cons c u =>
      obtain ⟨rfl, -⟩ := List.cons.inj hu
      simp at hmark

end

/-! ### Texts side by side -/

/-- Two texts read side by side: characters that are alike, and a mark in place of a piece that is
cut out. -/
inductive Aligned (like : Char → Char → Prop) (mark : List Char)
    (cuts : List Char → List Char → Prop) :
    List Char → List Char → Prop
  | nil : Aligned like mark cuts [] []
  | keep {c d cs out} (h : like d c) (ha : Aligned like mark cuts cs out) :
      Aligned like mark cuts (c :: cs) (d :: out)
  | cut {v cs out} (h : cuts v cs) (ha : Aligned like mark cuts cs out) :
      Aligned like mark cuts (v ++ cs) (mark ++ out)

section

variable {like : Char → Char → Prop} {mark : List Char} {cuts : List Char → List Char → Prop}
  {cs out w : List Char}

theorem Aligned.append {k k' : List Char} (h : List.Forall₂ like k k')
    (ha : Aligned like mark cuts cs out) : Aligned like mark cuts (k' ++ cs) (k ++ out) := by
  induction h with
  | nil => exact ha
  | cons hlike _ ih => exact .keep hlike ih

/-- A word is stopped by a mark: it does not end in a beginning of the mark. -/
def Stops (mark w : List Char) : Prop := ∀ z u, u <+: mark ++ z → u <:+ w → u = []

theorem stops_of_not_mem {c : Char} {x : List Char} (h : c ∉ w) : Stops (c :: x) w := by
  intro z u hu hw
  cases u with
  | nil => rfl
  | cons d u =>
    obtain ⟨rfl, -⟩ := List.cons_prefix_cons.mp hu
    exact absurd (hw.subset List.mem_cons_self) h

/-- **Words in front of the marks**: what stands in the second text stands in the first one, and
what follows is read side by side. -/
theorem Aligned.split (ha : Aligned like mark cuts cs out) {z : List Char} (hw : out = w ++ z)
    (hstop : Stops mark w) :
    ∃ w' x, cs = w' ++ x ∧ List.Forall₂ like w w' ∧ Aligned like mark cuts x z := by
  induction ha generalizing w with
  | nil =>
    obtain ⟨rfl, rfl⟩ := List.append_eq_nil_iff.mp hw.symm
    exact ⟨[], [], rfl, .nil, .nil⟩
  | @keep c d cs out hlike ha ih =>
    cases w with
    | nil =>
      obtain rfl : d :: out = z := hw
      exact ⟨[], c :: cs, rfl, .nil, .keep hlike ha⟩
    | cons e w =>
      obtain ⟨rfl, htail⟩ := List.cons.inj hw
      have hstop' : Stops mark w := fun z u hu hs => hstop z u hu (hs.trans (List.suffix_cons d w))
      obtain ⟨w', x, rfl, hlikes, hx⟩ := ih htail hstop'
      exact ⟨c :: w', x, rfl, .cons hlike hlikes, hx⟩
  | @cut v cs out h ha ih =>
    obtain rfl := hstop out w ⟨z, hw.symm⟩ List.suffix_rfl
    obtain rfl : mark ++ out = z := hw
    exact ⟨[], v ++ cs, rfl, .nil, .cut h ha⟩

theorem Aligned.split_eq (ha : Aligned Eq mark cuts cs out) {z : List Char} (hw : out = w ++ z)
    (hstop : Stops mark w) : ∃ x, cs = w ++ x ∧ Aligned Eq mark cuts x z := by
  obtain ⟨w', x, hcs, heq, hx⟩ := ha.split hw hstop
  rw [List.forall₂_eq_eq_eq] at heq
  exact ⟨x, heq ▸ hcs, hx⟩

theorem Aligned.word_eq (ha : Aligned Eq mark cuts cs out) (hw : w <+: out) (hstop : Stops mark w) :
    w <+: cs := by
  obtain ⟨z, hz⟩ := hw
  obtain ⟨x, hx, -⟩ := ha.split_eq hz.symm hstop
  exact ⟨x, hx.symm⟩

theorem Scan.aligned {r : Pattern} {repl : Match → List Char} {good : Match → Prop}
    (hrefl : ∀ c, like c c)
    (hcut : ∀ {prev cs q}, reported r ⟨prev, cs, []⟩ = some q → good (matchOf ⟨prev, cs, []⟩ q) →
      ∃ k k' v, repl (matchOf ⟨prev, cs, []⟩ q) = k ++ mark ∧ cs = k' ++ (v ++ q.rest) ∧
      List.Forall₂ like k k' ∧ cuts v q.rest) {prev : Option Char} {ms : List Match}
    (hs : Scan r repl prev cs ms out) (hms : ∀ m ∈ ms, good m) :
    Aligned like mark cuts cs out := by
  induction hs with
  | nil => exact .nil
  | keep _ _ ih => exact .keep (hrefl _) (ih hms)
  | @cut prev cs q ms out hq _ ih =>
    obtain ⟨k, k', v, hrepl, hcs, hlike, hcuts⟩ := hcut hq (hms _ List.mem_cons_self)
    have hnext := ih fun m hm => hms m (List.mem_cons_of_mem _ hm)
    rw [hrepl, List.append_assoc, hcs]
    exact .append hlike (.cut hcuts hnext)

variable {r : Pattern} {opens : Option Char → Option Char → Prop} {body : Pattern} {x : List Char}
  {prev prev' : Option Char}

theorem Anchored.free_mark (hr : Anchored r opens body)
    (hbody : ∀ w, Lang body w → '>' ∉ w ∧ x.length < w.length) (h : Free r (some '>') out) :
    Free r prev (x ++ ['>'] ++ out) := by
  rw [free_append]
  constructor
  · intro y z hyz hz
    obtain rfl | ⟨z', b, rfl⟩ := List.eq_nil_or_concat' z
    · exact absurd rfl hz
    · rw [← List.append_assoc] at hyz
      obtain ⟨hx, hlast⟩ := List.append_inj' hyz rfl
      rw [← hlast, List.append_assoc]
      exact hr.inert hbody ⟨y, hx.symm⟩
  · simpa using h

/-- **A pattern that does not match in the first text** does not match in the second one. -/
theorem Aligned.free (hr : Anchored r opens body)
    (hbody : ∀ w, Lang body w → '>' ∉ w ∧ x.length < w.length)
    (hstop : ∀ w, Lang body w → Stops (x ++ ['>']) w)
    (hcuts : ∀ v cs w, cuts v cs → Lang body w → w <+: cs → ∀ a b next, opens a next → opens b next)
    (ha : Aligned Eq (x ++ ['>']) cuts cs out) (hfree : Free r prev cs)
    (hprev : ∀ w, Lang body w → w <+: cs → ∀ next, opens prev' next → opens prev next) :
    Free r prev' out := by
  induction ha generalizing prev prev' with
  | nil => trivial
  | @keep c d cs out hlike ha ih =>
    obtain rfl : d = c := hlike
    refine ⟨?_, ih hfree.2 fun _ _ _ _ h => h⟩
    by_contra hne
    obtain ⟨hopens, w, hw, hprefix⟩ := (hr.run_iff _).mp hne
    have hstands : w <+: d :: cs := (Aligned.keep (d := d) rfl ha).word_eq hprefix (hstop w hw)
    exact (hr.run_iff ⟨prev, d :: cs, []⟩).mpr ⟨hprev w hw hstands _ hopens, w, hw, hstands⟩ hfree.1
  | @cut v cs out hcut ha ih =>
    exact hr.free_mark hbody (ih (free_append.mp hfree).2 fun w hw hstands next =>
      hcuts v cs w hcut hw hstands _ _ next)

/-- **A pattern whose matches are replaced by a mark** does not match in the result. -/
theorem Scan.free (hr : Anchored r opens body)
    (hbody : ∀ w, Lang body w → '>' ∉ w ∧ x.length < w.length)
    (hmove : ∀ {prev cs ms out}, Scan r (fun _ => x ++ ['>']) prev cs ms out →
      ∀ w, Lang body w → w <+: out → ∃ w', Lang body w' ∧ w' <+: cs)
    (hcuts : ∀ {prev cs q}, reported r ⟨prev, cs, []⟩ = some q → ∀ w, Lang body w → w <+: q.rest →
      ∀ a b next, opens a next → opens b next) {ms : List Match}
    (hs : Scan r (fun _ => x ++ ['>']) prev cs ms out)
    (hprev : ∀ w, Lang body w → w <+: cs → ∀ next, opens prev' next → opens prev next) :
    Free r prev' out := by
  induction hs generalizing prev' with
  | nil => trivial
  | @keep prev c cs ms out hno hs ih =>
    refine ⟨?_, ih fun _ _ _ _ h => h⟩
    by_contra hne
    obtain ⟨hopens, w, hw, hprefix⟩ := (hr.run_iff _).mp hne
    obtain ⟨w', hw', hstands⟩ := hmove (.keep hno hs) w hw hprefix
    have hrun :=
      (hr.run_iff ⟨prev, c :: cs, []⟩).mpr ⟨hprev w' hw' hstands _ hopens, w', hw', hstands⟩
    exact hrun (hr.run_eq_nil rfl hno)
  | cut hq _ ih =>
    exact hr.free_mark hbody (ih fun w hw hstands next => hcuts hq w hw hstands _ _ next)

end

end Blessing.Lib.Substitution
