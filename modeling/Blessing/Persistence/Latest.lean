import Blessing.Lib.Effects
import Blessing.Persistence.Columns
import Blessing.Persistence.Outbox
import Mathlib.Data.List.Induction

/-! # The latest observation

The events of one row of `orders` or `positions` overwrite it unconditionally. As long as each of
them is applied after those appended before it, and no event is dropped for the key of another one,
the row says what the last observation said. A failed attempt breaks that order: its event waits for
a retry while a later one is due. -/

namespace Blessing.Persistence.Latest

open Blessing.Lib Blessing.Lib.Values Blessing.Lib.Table Blessing.Lib.Machine Blessing.Lib.Effects
open Blessing.Binance.Models
open Blessing.Persistence.Tables Blessing.Persistence.Columns Blessing.Persistence.Outbox

variable {sha256 : String → String} {instant : Json → Option ℤ} {C : Type}

/-- A row of a table: the observations whose events write it, what they say and what is kept of
it. -/
structure Target (sha256 : String → String) (instant : Json → Option ℤ) (C : Type) where
  family : Observation → Bool
  read : Database → Option C
  said : Observation → C
  stored : Observation → C
  Representable : Observation → Prop
  start : read Database.empty = none
  keeps : ∀ o, Representable o → stored o = said o
  write : ∀ o t t', family o = true → applyEvent sha256 instant o t = .ok t' →
    read t' = some (stored o)
  frame : ∀ o t t', family o = false → applyEvent sha256 instant o t = .ok t' → read t' = read t

/-- The rows of the outbox appended before the one with an event id. -/
def before (id : String) (outbox : List OutboxRow) : List OutboxRow :=
  outbox.takeWhile fun r => r.eventId != id

theorem before_middle {pre post : List OutboxRow} {row : OutboxRow}
    (hn : ((pre ++ row :: post).map OutboxRow.eventId).Nodup) :
    before row.eventId (pre ++ row :: post) = pre := by
  rw [List.map_append, List.nodup_append] at hn
  rw [before, List.takeWhile_append_of_pos]
  · simp
  · exact fun r hr => by simpa using hn.2.2 _ (List.mem_map_of_mem hr) _ (by simp)

namespace Target

variable (tg : Target sha256 instant C)

/-- The events of a row, and whether they are processed. -/
def events (s : Store) : List (Observation × Bool) :=
  (s.outbox.filter fun r => tg.family r.observation).map fun r => (r.observation, r.processed)

/-- The observation of the row that a run appended last. -/
def latest (is : List Input) : Option Observation :=
  (is.filterMap fun
    | .append o => if tg.family o then some o else none
    | .dispatch .. => none).getLast?

/-- The condition on a step: an observation of the row fits its columns, and where its key is taken
already the last one said the same; an event of the row is claimed after those appended before
it. -/
def InOrder (s : Store) : Input → Prop
  | .append o => tg.family o = true → Fits o ∧ tg.Representable o ∧
      (s.outbox.any (conflicts sha256 o) = true →
        (tg.events s).getLast?.map (fun e => tg.said e.1) = some (tg.said o))
  | .dispatch now _ _ => ∀ row ∈ claim now s.outbox, tg.family row.observation = true →
      ∀ r ∈ before row.eventId s.outbox, tg.family r.observation = true → r.processed = true

instance [DecidableEq C] [DecidablePred tg.Representable] (s : Store) :
    ∀ i, Decidable (tg.InOrder s i)
  | .append o => inferInstanceAs (Decidable (tg.family o = true → Fits o ∧ tg.Representable o ∧
      (s.outbox.any (conflicts sha256 o) = true →
        (tg.events s).getLast?.map (fun e => tg.said e.1) = some (tg.said o))))
  | .dispatch now _ _ => inferInstanceAs (Decidable (∀ row ∈ claim now s.outbox,
      tg.family row.observation = true → ∀ r ∈ before row.eventId s.outbox,
        tg.family r.observation = true → r.processed = true))

/-- The events of the row are processed in the order they were appended in, and the row says what
the last processed one said. -/
structure Ordered (s : Store) (last : Option Observation) : Prop where
  keyed : Keyed sha256 s
  split : ∃ done pending : List Observation,
    tg.events s = done.map (fun o => (o, true)) ++ pending.map (fun o => (o, false)) ∧
      tg.read s.tables = done.getLast?.map tg.stored
  fits : ∀ e ∈ tg.events s, tg.Representable e.1
  last : (tg.events s).getLast?.map (fun e => tg.said e.1) = last.map tg.said

variable {tg} {s : Store} {last : Option Observation}

theorem events_of_core {s' : Store}
    (h : s'.outbox.map OutboxRow.core = s.outbox.map OutboxRow.core) :
    tg.events s' = tg.events s := by
  have hview : ∀ rows : List OutboxRow,
      (rows.filter fun r => tg.family r.observation).map (fun r => (r.observation, r.processed)) =
        ((rows.map OutboxRow.core).filter fun c => tg.family c.1).map fun c => (c.1, c.2.2) := by
    intro rows
    rw [List.filter_map, List.map_map]
    rfl
  rw [events, events, hview, h, hview]

theorem events_append (outbox outbox' : List OutboxRow) (t : Database) :
    tg.events ⟨outbox ++ outbox', t⟩ = tg.events ⟨outbox, t⟩ ++ tg.events ⟨outbox', t⟩ := by
  simp [events, List.filter_append]

/-- The first pending event, where those before it are processed. -/
theorem first_pending {done pending : List Observation} {pre post : List (Observation × Bool)}
    {o : Observation} (hpre : ∀ e ∈ pre, e.2 = true)
    (h : pre ++ (o, false) :: post =
      done.map (fun o => (o, true)) ++ pending.map (fun o => (o, false))) :
    ∃ rest, pending = o :: rest ∧ pre = done.map (fun o => (o, true)) ∧
      post = rest.map fun o => (o, false) := by
  induction done generalizing pre with
  | nil =>
    cases pending with
    | nil => simp at h
    | cons o' rest =>
      cases pre with
      | nil =>
        simp only [List.nil_append, List.map_nil, List.map_cons, List.cons.injEq, Prod.mk.injEq,
          and_true] at h
        exact ⟨rest, by rw [h.1], rfl, h.2⟩
      | cons e pre =>
        simp only [List.cons_append, List.map_nil, List.nil_append, List.map_cons,
          List.cons.injEq] at h
        have he := hpre e (by simp)
        rw [h.1] at he
        cases he
  | cons d done ih =>
    cases pre with
    | nil => simp at h
    | cons e pre =>
      simp only [List.cons_append, List.map_cons, List.cons.injEq] at h
      obtain ⟨rest, hpending, hdone, hpost⟩ :=
        ih (fun e he => hpre e (List.mem_cons_of_mem _ he)) h.2
      exact ⟨rest, hpending, by rw [h.1, hdone]; rfl, hpost⟩

/-- An append of another row, or one that is dropped, changes nothing here. -/
theorem ordered_append (h : tg.Ordered s last) {o : Observation} (hok : tg.InOrder s (.append o)) :
    tg.Ordered (appendOutbox sha256 o s) (if tg.family o then some o else last) := by
  have hkeyed : Keyed sha256 (appendOutbox sha256 o s) := keyed_step instant h.keyed (.append o)
  by_cases hconflict : Fits o ∧ ¬ s.outbox.any (conflicts sha256 o) = true
  · have happ : appendOutbox sha256 o s = ⟨s.outbox ++
        [⟨o, eventId sha256 o.eventType o.idempotencyKey, false, 0, o.createdAt⟩], s.tables⟩ :=
      if_pos hconflict
    have hevents : tg.events (appendOutbox sha256 o s) =
        tg.events s ++ if tg.family o then [(o, false)] else [] := by
      rw [happ, events_append]
      congr 1
      by_cases hfamily : tg.family o = true <;> simp [events, hfamily]
    have htables : (appendOutbox sha256 o s).tables = s.tables := by rw [happ]
    obtain ⟨done, pending, hsplit, hread⟩ := h.split
    by_cases hfamily : tg.family o = true
    · rw [if_pos hfamily] at hevents ⊢
      refine ⟨hkeyed, ⟨done, pending ++ [o], ?_, htables ▸ hread⟩, fun e he => ?_, ?_⟩
      · rw [hevents, hsplit]
        simp
      · rw [hevents, List.mem_append, List.mem_singleton] at he
        obtain he | rfl := he
        · exact h.fits e he
        · exact (hok hfamily).2.1
      · rw [hevents]
        simp
    · rw [if_neg hfamily, List.append_nil] at hevents
      rw [if_neg hfamily]
      exact ⟨hkeyed, ⟨done, pending, by rw [hevents, hsplit], htables ▸ hread⟩, hevents ▸ h.fits,
        hevents ▸ h.last⟩
  · have hsame : appendOutbox sha256 o s = s := if_neg hconflict
    rw [hsame]
    by_cases hfamily : tg.family o = true
    · obtain ⟨hfits, -, hlast⟩ := hok hfamily
      rw [if_pos hfamily]
      refine ⟨h.keyed, h.split, h.fits, hlast ?_⟩
      by_contra hno
      exact hconflict ⟨hfits, hno⟩
    · rw [if_neg hfamily]
      exact h

theorem ordered_dispatch (h : tg.Ordered s last) {now : ℤ} {fault : Bool} {retryAt : Option ℤ}
    (hok : tg.InOrder s (.dispatch now fault retryAt)) :
    tg.Ordered (dispatchOne sha256 instant now fault retryAt s).2 last := by
  have hkeyed : Keyed sha256 (dispatchOne sha256 instant now fault retryAt s).2 :=
    keyed_step instant h.keyed (.dispatch now fault retryAt)
  obtain ⟨htables, hcore⟩ | ⟨pre, row, post, tables, hsplit, hpending, hclaim, happly, hs'⟩ :=
    dispatch_cases instant h.keyed now fault retryAt
  · have hevents : tg.events (dispatchOne sha256 instant now fault retryAt s).2 = tg.events s :=
      events_of_core hcore
    refine ⟨hkeyed, ?_, hevents ▸ h.fits, hevents ▸ h.last⟩
    rw [hevents, htables]
    exact h.split
  · rw [hs'] at hkeyed ⊢
    obtain ⟨done, pending, hevents, hread⟩ := h.split
    have hall : tg.events s = tg.events ⟨pre, tables⟩ ++ tg.events ⟨row :: post, tables⟩ := by
      rw [← events_append, ← hsplit]
      rfl
    by_cases hfamily : tg.family row.observation = true
    · have hmid : ∀ r : OutboxRow, r.observation = row.observation →
          tg.events ⟨r :: post, tables⟩ = (row.observation, r.processed) :: tg.events
            ⟨post, tables⟩ :=
        fun r hr => by simp [events, hr, hfamily]
      have hnew : tg.events ⟨pre ++ markProcessed row :: post, tables⟩ =
          tg.events ⟨pre, tables⟩ ++ (row.observation, true) :: tg.events ⟨post, tables⟩ := by
        rw [events_append, hmid (markProcessed row) rfl]
        rfl
      rw [hmid row rfl, hpending] at hall
      -- the events before the claimed one are processed
      have hbefore : ∀ e ∈ tg.events ⟨pre, tables⟩, e.2 = true := by
        intro e he
        simp only [events, List.mem_map, List.mem_filter] at he
        obtain ⟨r, ⟨hr, hrf⟩, rfl⟩ := he
        refine hok row hclaim hfamily r ?_ hrf
        rw [hsplit, before_middle (hsplit ▸ h.keyed.nodup)]
        exact hr
      obtain ⟨rest, rfl, hdone, hrest⟩ := first_pending hbefore (hall.symm.trans hevents)
      refine ⟨hkeyed, ⟨done ++ [row.observation], rest, ?_, ?_⟩, fun e he => ?_, ?_⟩
      · rw [hnew, hdone, hrest]
        simp
      · rw [tg.write _ _ _ hfamily happly]
        simp
      · rw [hnew, List.mem_append, List.mem_cons] at he
        obtain he | rfl | he := he
        · exact h.fits e (by rw [hall]; simp [he])
        · exact h.fits (row.observation, false) (by rw [hall]; simp)
        · exact h.fits e (by rw [hall]; simp [he])
      · rw [← h.last, hnew, hall]
        simp only [List.getLast?_append, List.getLast?_cons]
        cases (tg.events ⟨post, tables⟩).getLast? <;> rfl
    · have hmid : ∀ r : OutboxRow, r.observation = row.observation →
          tg.events ⟨r :: post, tables⟩ = tg.events ⟨post, tables⟩ :=
        fun r hr => by simp [events, hr, hfamily]
      have hsame : tg.events ⟨pre ++ markProcessed row :: post, tables⟩ = tg.events s := by
        rw [events_append, hmid (markProcessed row) rfl, hall, hmid row rfl]
      refine ⟨hkeyed, ⟨done, pending, by rw [hsame, hevents], ?_⟩, hsame ▸ h.fits, hsame ▸ h.last⟩
      rw [tg.frame _ _ _ (by simpa using hfamily) happly]
      exact hread

theorem ordered_run (tg : Target sha256 instant C) {is : List Input}
    (h : Admitted (step sha256 instant) tg.InOrder .empty is) :
    tg.Ordered (run (step sha256 instant) .empty is).2 (tg.latest is) := by
  induction is using List.reverseRecOn with
  | nil => exact ⟨keyed_empty, ⟨[], [], rfl, tg.start⟩, by simp [events, Store.empty], rfl⟩
  | append_singleton is i ih =>
    rw [admitted_append] at h
    have hih := ih h.1
    rw [run_snoc]
    cases i with
    | append o =>
      have hlatest : tg.latest (is ++ [.append o]) =
          if tg.family o then some o else tg.latest is := by
        by_cases hfamily : tg.family o = true <;> simp [latest, hfamily]
      rw [hlatest]
      exact ordered_append hih h.2.1
    | dispatch now fault retryAt =>
      have hlatest : tg.latest (is ++ [.dispatch now fault retryAt]) = tg.latest is := by
        simp [latest]
      rw [hlatest]
      exact ordered_dispatch hih h.2.1

/-- **The latest observation**: in every run in which the events of a row are applied in order, once
they are processed the row says what the last observation said. -/
theorem row_is_latest (tg : Target sha256 instant C) {is : List Input}
    (h : Admitted (step sha256 instant) tg.InOrder .empty is)
    (hdone : ∀ e ∈ tg.events (run (step sha256 instant) .empty is).2, e.2 = true) {o : Observation}
    (ho : tg.latest is = some o) :
    tg.read (run (step sha256 instant) .empty is).2.tables = some (tg.said o) := by
  obtain ⟨-, ⟨done, pending, hevents, hread⟩, hfits, hlast⟩ := ordered_run tg h
  obtain rfl : pending = [] := by
    cases pending with
    | nil => rfl
    | cons o' rest => simpa using hdone (o', false) (by rw [hevents]; simp)
  rw [List.map_nil, List.append_nil] at hevents
  rw [hevents, ho, List.getLast?_map] at hlast
  rw [hread]
  cases hd : done.getLast? with
  | none =>
    rw [hd] at hlast
    simp at hlast
  | some o' =>
    rw [hd] at hlast
    have hmem : (o', true) ∈ tg.events (run (step sha256 instant) .empty is).2 := by
      rw [hevents]
      exact List.mem_map_of_mem (List.mem_of_getLast? hd)
    rw [Option.map_some, tg.keeps o' (hfits _ hmem)]
    simpa using hlast

end Target

end Blessing.Persistence.Latest
