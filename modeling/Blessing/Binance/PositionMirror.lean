import Blessing.Binance.Ledger
import Blessing.Lib.Effects
import Blessing.Lib.Machine

/-! # The mirror of the positions

`on_position_update` is the only way to the positions table. The mirror is what the calls of it say
when every call is an upsert under the symbol and the side. A position that leaves the list of
`replace_positions`, or that `clear_positions_for_symbol` removes, is never announced as closed, so
the mirror keeps it: the mirror follows the ledger exactly as long as that does not happen. -/

namespace Blessing.Binance.PositionMirror

open Blessing.Lib Blessing.Lib.Values Blessing.Lib.Table Blessing.Lib.Machine Blessing.Lib.Effects
open Blessing.Binance.Models Blessing.Binance.Ledger

/-- A row `replace_positions` and `upsert_position` take. -/
inductive PositionRow where
  | payload (raw : Json)
  | position (p : ExchangePosition)

/-- `_to_exchange_position` -/
def PositionRow.toPosition : PositionRow → Except Exn ExchangePosition
  | .payload raw => toExchangePosition raw
  | .position p => .ok p

/-- `(p.symbol, p.position_side)` -/
def positionKey (p : ExchangePosition) : String × PositionSide := (p.symbol, p.positionSide)

/-- `p.quantity != Decimal("0")` -/
def isActive (p : ExchangePosition) : Bool := !p.quantity.isZero

/-- `old_active` of `replace_positions` -/
def oldActive (l : InMemoryLedger) : List (String × PositionSide) :=
  (l.positions.filter isActive).map positionKey

/-- A call of the ledger: the calls of `on_position_update` it makes, and the ledger after it. -/
abbrev Notified := List ExchangePosition × InMemoryLedger

/-- `replace_positions` -/
def replacePositions (rows : List PositionRow) (markInitialized : Bool) (l : InMemoryLedger) :
    Except Exn Notified := do
  let positions ← rows.mapM PositionRow.toPosition
  return (positions.filter fun p => isActive p || (oldActive l).contains (positionKey p),
    { l with positions, initialized := l.initialized || markInitialized })

/-- `upsert_position` -/
def upsertPosition (row : PositionRow) (l : InMemoryLedger) : Except Exn Notified := do
  let p ← row.toPosition
  let oldActive := ((lookup positionKey (positionKey p) l.positions).map isActive).getD false
  return (if isActive p || oldActive then [p] else [],
    { l with positions := placePosition p l.positions, version := l.version + 1 })

/-- An operation on the positions of the ledger. -/
inductive Operation where
  | replace (rows : List PositionRow) (markInitialized : Bool)
  | upsert (row : PositionRow)
  | clear (symbol : String)

/-- The call of an operation. `clear_positions_for_symbol` makes no call of the callback. -/
def Operation.call : Operation → InMemoryLedger → Except Exn Notified
  | .replace rows markInitialized, l => replacePositions rows markInitialized l
  | .upsert row, l => upsertPosition row l
  | .clear symbol, l => .ok ([], clearPositionsForSymbol symbol l)

/-- The ledger and the mirror of its positions. -/
structure Mirrored where
  ledger : InMemoryLedger
  mirror : List ExchangePosition

/-- A new ledger, and an empty mirror. -/
def start : Mirrored := ⟨empty, []⟩

/-- An operation: a call that raises changes nothing, the calls of the callback are upserts. -/
def step (s : Mirrored) (op : Operation) : List ExchangePosition × Mirrored :=
  match op.call s.ledger with
  | .error _ => ([], s)
  | .ok (notified, ledger) =>
    (notified, ⟨ledger, notified.foldl (fun m p => upsert positionKey p m) s.mirror⟩)

/-- The mirror and the ledger have the same active positions. -/
def Follows (s : Mirrored) : Prop :=
  (s.mirror.filter isActive).Perm (s.ledger.positions.filter isActive)

instance (s : Mirrored) : Decidable (Follows s) := List.decidablePerm _ _

/-- The rows the ledger takes keep its active positions in sight: each of them has a row, and no row
of an active position is followed by a second one, other than a closed one the ledger did not
hold. -/
def Listed (l : InMemoryLedger) (positions : List ExchangePosition) : Prop :=
  (∀ p ∈ l.positions, isActive p → ∃ r ∈ positions, positionKey r = positionKey p) ∧
    positions.Pairwise fun r z => positionKey z = positionKey r → isActive r →
      ¬ isActive z ∧ positionKey r ∉ oldActive l

/-- No active position leaves the ledger unannounced. -/
def Covered (l : InMemoryLedger) : Operation → Prop
  | .replace rows _ => ∀ positions, rows.mapM PositionRow.toPosition = .ok positions →
      Listed l positions
  | .upsert row => ∀ p, row.toPosition = .ok p → isActive p →
      ∀ q ∈ l.positions.eraseP (fun q => positionKey q = positionKey p),
        positionKey q = positionKey p → ¬ isActive q
  | .clear symbol => ∀ p ∈ l.positions, Text.upper p.symbol = Text.upper symbol → ¬ isActive p

/-! ### The positions of one key -/

/-- The active positions of a key. -/
def held (k : String × PositionSide) (t : List ExchangePosition) : List ExchangePosition :=
  (t.filter fun p => positionKey p = k).filter isActive

/-- What the mirror says of a key. -/
def mirrored (k : String × PositionSide) (m : List ExchangePosition) : List ExchangePosition :=
  (lookup positionKey k m).toList.filter isActive

variable {k : String × PositionSide} {m t rows : List ExchangePosition} {p : ExchangePosition}

theorem held_eq (hn : (m.map positionKey).Nodup) : held k m = mirrored k m := by
  have hfilter : (m.filter fun p => positionKey p = k) = (lookup positionKey k m).toList := by
    induction m with
    | nil => rfl
    | cons q m ih =>
      rw [List.map_cons, List.nodup_cons] at hn
      rw [List.filter_cons, lookup_cons]
      by_cases hk : positionKey q = k
      · have hrest : lookup positionKey k m = none :=
          lookup_eq_none.mpr fun r hr h => hn.1 (hk.trans h.symm ▸ List.mem_map_of_mem hr)
        rw [ih hn.2, hrest]
        simp [hk]
      · simp [hk, ih hn.2]
  rw [held, hfilter, mirrored]

theorem held_eq_nil : held k t = [] ↔ ∀ p ∈ t, positionKey p = k → ¬ isActive p := by
  rw [held, List.filter_eq_nil_iff]
  exact ⟨fun h p hp hk => h p (List.mem_filter.mpr ⟨hp, by simpa using hk⟩),
    fun h p hp => h p (List.mem_filter.mp hp).1 (by simpa using (List.mem_filter.mp hp).2)⟩

theorem held_cons (q : ExchangePosition) (t : List ExchangePosition) : held k (q :: t) =
    if positionKey q = k then [q].filter isActive ++ held k t else held k t := by
  rw [held, List.filter_cons]
  by_cases hq : positionKey q = k
  · rw [if_pos (by simpa using hq), if_pos hq, held, ← List.filter_append]
    rfl
  · rw [if_neg (by simpa using hq), if_neg hq, held]

theorem mirrored_length : (mirrored k m).length ≤ 1 := by
  have h : (lookup positionKey k m).toList.length ≤ 1 := by
    cases lookup positionKey k m <;> simp
  exact (List.length_filter_le _ _).trans h

theorem follows_iff_held {s : Mirrored} (hn : (s.mirror.map positionKey).Nodup) :
    Follows s ↔ ∀ k, mirrored k s.mirror = held k s.ledger.positions := by
  have hswap : ∀ k (t : List ExchangePosition),
      held k t = (t.filter isActive).filter fun p => positionKey p = k := fun k t => by
    rw [held, List.filter_filter, List.filter_filter]
    exact List.filter_congr fun p _ => Bool.and_comm _ _
  constructor
  · intro h k
    have hperm : (held k s.mirror).Perm (held k s.ledger.positions) := by
      rw [hswap, hswap]
      exact h.filter _
    rw [held_eq hn] at hperm
    have hlen := mirrored_length (k := k) (m := s.mirror)
    cases hm : mirrored k s.mirror with
    | nil => rw [hm] at hperm; exact (List.nil_perm.mp hperm).symm
    | cons p ps =>
      rw [hm, List.length_cons] at hlen
      have hps : ps = [] := List.length_eq_zero_iff.mp (by omega)
      subst hps
      rw [hm] at hperm
      exact List.singleton_perm.mp hperm
  · intro h
    refine List.perm_iff_count.mpr fun p => ?_
    have hcount : ∀ t : List ExchangePosition,
        (t.filter isActive).count p = (held (positionKey p) t).count p := fun t => by
      rw [hswap]
      exact (List.count_filter (by simp)).symm
    rw [hcount, hcount, held_eq hn, h]

/-- The calls of the callback as upserts: the last call of a key stands. -/
theorem mirrored_notified (notified : List ExchangePosition) :
    mirrored k (notified.foldl (fun m p => upsert positionKey p m) m) =
      match (notified.filter fun p => positionKey p = k).getLast? with
      | some p => [p].filter isActive
      | none => mirrored k m := by
  rw [mirrored, lookup_foldl_upsert]
  cases (notified.filter fun p => positionKey p = k).getLast? <;> rfl

theorem mem_oldActive {l : InMemoryLedger} : k ∈ oldActive l ↔ held k l.positions ≠ [] := by
  simp only [oldActive, List.mem_map, List.mem_filter, ne_eq, held_eq_nil, not_forall, not_not]
  constructor
  · rintro ⟨p, ⟨hp, ha⟩, hk⟩
    exact ⟨p, hp, hk, ha⟩
  · rintro ⟨p, hp, hk, ha⟩
    exact ⟨p, ⟨hp, ha⟩, hk⟩

/-! ### `upsert_position` -/

theorem key_eq {q : ExchangePosition} :
    (q.symbol = p.symbol ∧ q.positionSide = p.positionSide) ↔ positionKey q = positionKey p := by
  simp [positionKey]

theorem held_split (p : ExchangePosition) (t : List ExchangePosition) : held (positionKey p) t =
    mirrored (positionKey p) t ++
      held (positionKey p) (t.eraseP fun q => positionKey q = positionKey p) := by
  induction t with
  | nil => rfl
  | cons q t ih =>
    rw [held_cons, mirrored, lookup_cons]
    by_cases hq : positionKey q = positionKey p
    · rw [if_pos hq, if_pos hq, List.eraseP_cons_of_pos (by simpa using hq)]
      rfl
    · rw [if_neg hq, if_neg hq, List.eraseP_cons_of_neg (by simpa using hq),
        held_cons, if_neg hq, ih, mirrored]

/-- The position takes the place of the first row of its key. -/
theorem held_placePosition (p : ExchangePosition) (t : List ExchangePosition) :
    held (positionKey p) (placePosition p t) = [p].filter isActive ++
      held (positionKey p) (t.eraseP fun q => positionKey q = positionKey p) := by
  induction t with
  | nil => simp [placePosition, held]
  | cons q t ih =>
    rw [placePosition]
    by_cases hq : positionKey q = positionKey p
    · rw [if_pos (key_eq.mpr hq), List.eraseP_cons_of_pos (by simpa using hq),
        held_cons, if_pos rfl]
    · rw [if_neg (fun h => hq (key_eq.mp h)), List.eraseP_cons_of_neg (by simpa using hq),
        held_cons, held_cons, if_neg hq, if_neg hq, ih]

theorem held_placePosition_other (hk : positionKey p ≠ k) :
    held k (placePosition p t) = held k t := by
  induction t with
  | nil => simp [placePosition, held, hk]
  | cons q t ih =>
    rw [placePosition]
    by_cases hq : positionKey q = positionKey p
    · rw [if_pos (key_eq.mpr hq), held_cons, held_cons, if_neg hk, if_neg (hq ▸ hk)]
    · rw [if_neg (fun h => hq (key_eq.mp h)), held_cons, held_cons, ih]

/-- Writing one position keeps the agreement, unless an active row of the same key stays behind
it. -/
theorem agrees_upsert (h : ∀ k, mirrored k m = held k t) (p : ExchangePosition) :
    (∀ k, mirrored k
      ((if isActive p || ((lookup positionKey (positionKey p) t).map isActive).getD false
        then [p] else []).foldl (fun m p => upsert positionKey p m) m) =
        held k (placePosition p t)) ↔
      (isActive p → ∀ q ∈ t.eraseP (fun q => positionKey q = positionKey p),
        positionKey q = positionKey p → ¬ isActive q) := by
  set rest := held (positionKey p) (t.eraseP fun q => positionKey q = positionKey p) with hrest
  have hother : ∀ k, positionKey p ≠ k → ∀ b : Bool,
      mirrored k ((if b then [p] else []).foldl (fun m p => upsert positionKey p m) m) =
        held k (placePosition p t) := fun k hk b => by
    rw [held_placePosition_other hk, mirrored_notified, h]
    cases b <;> simp [hk]
  have hself : ∀ b : Bool,
      mirrored (positionKey p) ((if b then [p] else []).foldl
        (fun m p => upsert positionKey p m) m) =
        if b then [p].filter isActive else held (positionKey p) t := fun b => by
    rw [mirrored_notified, h]
    cases b <;> simp
  rw [← held_eq_nil, ← hrest]
  constructor
  · intro hall ha
    have hp := hall (positionKey p)
    rw [hself, held_placePosition, ← hrest, ha] at hp
    simpa [ha] using hp
  · intro hcond k
    by_cases hk : positionKey p = k
    · subst hk
      rw [hself, held_placePosition, ← hrest]
      cases ha : isActive p with
      | true => simp [ha, hcond ha]
      | false =>
        have hsplit : held (positionKey p) t = mirrored (positionKey p) t ++ rest := held_split p t
        cases hl : lookup positionKey (positionKey p) t with
        | none => simp [ha, hsplit, mirrored, hl]
        | some q =>
          cases hq : isActive q with
          | false => simp [ha, hq, hsplit, mirrored, hl]
          | true =>
            -- the first row was active, so the mirror has no second one
            have hlen := mirrored_length (k := positionKey p) (m := m)
            rw [h, hsplit, mirrored, hl] at hlen
            simp only [Option.toList_some, List.filter_cons, hq, if_true, List.filter_nil,
              List.cons_append, List.nil_append, List.length_cons] at hlen
            have hnil : rest = [] := List.length_eq_zero_iff.mp (by omega)
            simp [ha, hq, hnil]
    · exact hother k hk _

/-! ### `replace_positions` -/

/-- At most one member passes: no member that passes is followed by another. -/
theorem filter_length_le_one (rows : List ExchangePosition) {P : ExchangePosition → Bool} :
    (rows.filter P).length ≤ 1 ↔ rows.Pairwise fun r z => P r → ¬ P z := by
  have hpair : (rows.filter P).Pairwise (fun _ _ => False) ↔
      rows.Pairwise fun r z => P r → ¬ P z := List.pairwise_filter
  rw [← hpair]
  rcases rows.filter P with _ | ⟨r, _ | ⟨z, rs⟩⟩
  · simp
  · simp
  · exact ⟨fun h => by simp at h, fun h => (List.rel_of_pairwise_cons h (List.mem_cons_self)).elim⟩

/-- The last member is the only one that passes, if any does: all others do not pass. -/
theorem filter_eq_last (rows : List ExchangePosition) (a : ExchangePosition)
    {P : ExchangePosition → Bool} :
    [a].filter P = (rows ++ [a]).filter P ↔ (rows ++ [a]).Pairwise fun r _ => ¬ P r := by
  have hsame : (rows.Pairwise fun r _ => ¬ P r) ∧ (∀ r ∈ rows, ¬ P r) ↔ ∀ r ∈ rows, ¬ P r :=
    ⟨And.right, fun h => ⟨List.pairwise_of_forall_mem_list fun r hr _ _ => h r hr, h⟩⟩
  rw [List.filter_append, List.pairwise_append]
  simp only [List.pairwise_singleton, true_and, List.mem_singleton, forall_eq, hsame]
  rw [List.self_eq_append_left, List.filter_eq_nil_iff]

/-- The rows keep the agreement at a key: a key held active has a row, and only its last row is
active; another key has at most one active row. -/
theorem agrees_replace_at {l : InMemoryLedger} (h : mirrored k m = held k l.positions) :
    mirrored k ((rows.filter fun p => isActive p || (oldActive l).contains (positionKey p)).foldl
        (fun m p => upsert positionKey p m) m) = held k rows ↔
      (k ∈ oldActive l → rows.filter (fun p => positionKey p = k) ≠ []) ∧
        (rows.filter fun p => positionKey p = k).Pairwise fun r z =>
          isActive r → ¬ isActive z ∧ k ∉ oldActive l := by
  have hnotified :
      (rows.filter fun p => isActive p || (oldActive l).contains (positionKey p)).filter
      (fun p => positionKey p = k) = (rows.filter fun p => positionKey p = k).filter
        fun p => isActive p || (oldActive l).contains k := by
    rw [List.filter_filter, List.filter_filter]
    refine List.filter_congr fun p _ => ?_
    by_cases hp : positionKey p = k
    · simp [hp]
    · simp [hp]
  rw [mirrored_notified, hnotified, held]
  set own := rows.filter fun p => positionKey p = k
  by_cases hold : k ∈ oldActive l
  · have hall : (own.filter fun p => isActive p || (oldActive l).contains k) = own :=
      List.filter_eq_self.mpr fun p _ => by simp [hold]
    rw [hall]
    rcases List.eq_nil_or_concat' own with hnil | ⟨front, a, ha⟩
    · have hne : mirrored k m ≠ [] := h ▸ mem_oldActive.mp hold
      simp [hnil, hold, hne]
    · rw [ha, List.getLast?_concat]
      have hlast := filter_eq_last front a (P := isActive)
      simp only [hold, not_true_eq_false, and_false, imp_false, true_implies]
      rw [hlast]
      simp
  · have hactive : (own.filter fun p => isActive p || (oldActive l).contains k) =
        own.filter isActive :=
      List.filter_congr fun p _ => by simp [hold]
    have hnone : mirrored k m = [] := by
      rw [h]
      exact not_not.mp fun hne => hold (mem_oldActive.mpr hne)
    have hone := filter_length_le_one own (P := isActive)
    simp only [hold, not_false_eq_true, and_true, false_implies, true_and]
    rw [hactive, ← hone]
    rcases List.eq_nil_or_concat' (own.filter isActive) with hnil | ⟨front, a, ha⟩
    · simp [hnil, hnone]
    · have hmem : a ∈ own.filter isActive :=
        ha ▸ List.mem_append_right front (List.mem_singleton_self a)
      have hactive : isActive a = true := (List.mem_filter.mp hmem).2
      rw [ha, List.getLast?_concat]
      simp [hactive]

theorem listed_iff {l : InMemoryLedger} : Listed l rows ↔ ∀ k,
    (k ∈ oldActive l → rows.filter (fun p => positionKey p = k) ≠ []) ∧
      (rows.filter fun p => positionKey p = k).Pairwise fun r z =>
        isActive r → ¬ isActive z ∧ k ∉ oldActive l := by
  rw [Listed, forall_and]
  refine and_congr ?_ ?_
  · have hex : ∀ k, rows.filter (fun p => positionKey p = k) ≠ [] ↔ ∃ r ∈ rows, positionKey r = k :=
      fun k => by simp [List.filter_eq_nil_iff]
    simp only [hex]
    constructor
    · intro h k hk
      obtain ⟨p, hp, rfl⟩ := List.mem_map.mp hk
      obtain ⟨hp, ha⟩ := List.mem_filter.mp hp
      exact h p hp ha
    · intro h p hp ha
      exact h _ (List.mem_map_of_mem (List.mem_filter.mpr ⟨hp, ha⟩))
  · simp only [List.pairwise_iff_forall_sublist]
    constructor
    · intro h k r z hsub
      have hr : positionKey r = k := by simpa using (List.mem_filter.mp (hsub.subset (by simp))).2
      have hz : positionKey z = k := by simpa using (List.mem_filter.mp (hsub.subset (by simp))).2
      have := h (hsub.trans List.filter_sublist) (hz.trans hr.symm)
      rwa [hr] at this
    · intro h r z hsub hkey
      refine h (positionKey r) ?_
      have hfilter := hsub.filter fun p => decide (positionKey p = positionKey r)
      simpa [hkey] using hfilter

/-! ### Runs -/

theorem held_clear (symbol : String) :
    held k (t.filter fun p => Text.upper p.symbol != Text.upper symbol) =
      if Text.upper k.1 = Text.upper symbol then [] else held k t := by
  induction t with
  | nil => simp [held]
  | cons q t ih =>
    rw [List.filter_cons, held_cons]
    by_cases hq : positionKey q = k
    · have hsymbol : q.symbol = k.1 := congrArg Prod.fst hq
      rw [hsymbol, if_pos hq]
      by_cases hs : Text.upper k.1 = Text.upper symbol
      · rw [if_neg (by simpa using hs), ih, if_pos hs, if_pos hs]
      · rw [if_pos (by simpa using hs), held_cons, if_pos hq, ih, if_neg hs, if_neg hs]
    · rw [if_neg hq, ← ih]
      split_ifs
      · rw [held_cons, if_neg hq]
      · rfl

theorem nodup_notified (notified : List ExchangePosition) (hn : (m.map positionKey).Nodup) :
    ((notified.foldl (fun m p => upsert positionKey p m) m).map positionKey).Nodup := by
  induction notified generalizing m with
  | nil => exact hn
  | cons p notified ih => exact ih (nodup_upsert hn p)

variable {s : Mirrored}

theorem nodup_step (hn : (s.mirror.map positionKey).Nodup) (op : Operation) :
    ((step s op).2.mirror.map positionKey).Nodup := by
  rw [step]
  cases op.call s.ledger with
  | error _ => exact hn
  | ok called => exact nodup_notified called.1 hn

/-- One operation keeps the mirror in step if and only if nothing active leaves unannounced. -/
theorem follows_step (hn : (s.mirror.map positionKey).Nodup) (h : Follows s) (op : Operation) :
    Follows (step s op).2 ↔ Covered s.ledger op := by
  have hagree := (follows_iff_held hn).mp h
  rw [follows_iff_held (nodup_step hn op)]
  cases op with
  | replace rows markInitialized =>
    simp only [step, Operation.call, replacePositions, Covered]
    cases hrows : rows.mapM PositionRow.toPosition with
    | error _ => simpa using hagree
    | ok positions =>
      simp only [Except.ok.injEq, forall_eq']
      rw [listed_iff]
      exact forall_congr' fun k => agrees_replace_at (hagree k)
  | upsert row =>
    simp only [step, Operation.call, upsertPosition, Covered]
    cases row.toPosition with
    | error _ => simpa using hagree
    | ok p =>
      simp only [Except.ok.injEq, forall_eq']
      exact agrees_upsert hagree p
  | clear symbol =>
    simp only [step, Operation.call, clearPositionsForSymbol, Covered, List.foldl_nil, hagree,
      held_clear]
    constructor
    · intro hall p hp hsym
      have hk := hall (positionKey p)
      rw [if_pos (show Text.upper (positionKey p).1 = _ from hsym)] at hk
      exact held_eq_nil.mp hk p hp rfl
    · intro hclosed k
      split_ifs with hs
      · refine held_eq_nil.mpr fun p hp hk => hclosed p hp ?_
        rw [← hs, ← hk]
        rfl
      · rfl

/-- **The mirror follows the ledger along a run exactly as long as every active position that leaves
the ledger is announced.** -/
theorem mirror_follows_iff (ops : List Operation) :
    (∀ front, front <+: ops → Follows (run step start front).2) ↔
      Admitted step (fun s op => Covered s.ledger op) start ops := by
  have hrun : ∀ (s : Mirrored), (s.mirror.map positionKey).Nodup → Follows s →
      ((∀ front, front <+: ops → Follows (run step s front).2) ↔
        Admitted step (fun s op => Covered s.ledger op) s ops) := by
    induction ops with
    | nil =>
      intro s _ h
      simp [Admitted, h]
    | cons op ops ih =>
      intro s hn h
      rw [Admitted, ← follows_step hn h op]
      constructor
      · intro hall
        have hstep : Follows (step s op).2 := hall [op] (by simp)
        refine ⟨hstep, (ih _ (nodup_step hn op) hstep).mp fun front hfront => ?_⟩
        exact hall (op :: front) (by simpa using hfront)
      · rintro ⟨hstep, hrest⟩ front hfront
        cases front with
        | nil => exact h
        | cons op' front =>
          obtain ⟨rfl, htail⟩ := List.cons_prefix_cons.mp hfront
          exact (ih _ (nodup_step hn op') hstep).mpr hrest front htail
  exact hrun start (by simp [start]) (by decide)

/-- A position of the account. -/
def samplePosition : ExchangePosition where
  symbol := "ETHUSDC"
  positionSide := .both
  quantity := Decimal.ofNat 1
  entryPrice := Decimal.ofNat 2000
  markPrice := some (Decimal.ofNat 2000)
  unrealizedPnl := Decimal.ofNat 0
  liquidationPrice := none
  leverage := Decimal.ofNat 1
  marginType := "cross"
  eventTime := .null
  source := "UNKNOWN"

/-- A bootstrap with the position, and one after it was closed: the exchange does not list it. -/
theorem closed_position_stays_mirrored : ¬ ∀ (ops front : List Operation), front <+: ops →
    Follows (run step start front).2 := fun h =>
  absurd (h [.replace [.position samplePosition] true, .replace [] false]
    [.replace [.position samplePosition] true, .replace [] false] List.prefix_rfl)
      (by decide +kernel)

end Blessing.Binance.PositionMirror
