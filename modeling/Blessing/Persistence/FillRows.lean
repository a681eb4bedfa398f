import Blessing.Persistence.Columns
import Blessing.Persistence.ExactlyOnce
import Blessing.Persistence.Outbox

/-! # Fills in the database

The fills a ledger accepts go to the table `fills` by way of the outbox. The ledger, the outbox and
the storage id tell two fills of one venue apart by symbol and trade id; the conflict target of the
table has no symbol, so a second fill with the trade id of another symbol overwrites the first
one. -/

namespace Blessing.Persistence.FillRows

open Blessing.Lib Blessing.Lib.Values Blessing.Lib.Table Blessing.Lib.Machine Blessing.Lib.Effects
open Blessing.Binance.Models Blessing.Binance.Ledger
open Blessing.Persistence.Tables Blessing.Persistence.Columns Blessing.Persistence.Outbox
open Blessing.Persistence.ExactlyOnce

/-! ### What a row says -/

/-- The symbol, the side, the amounts and the order ids of a fill. -/
structure Content where
  symbol : Option String
  side : String
  quantity : ℚ
  price : ℚ
  fee : ℚ
  clientOrderId : Option String
  exchangeOrderId : Option String
  deriving DecidableEq

def contentOfFill (f : ExchangeFill) : Content where
  symbol := some f.symbol
  side := f.side.value
  quantity := f.quantity.toRat
  price := f.price.toRat
  fee := f.commission.toRat
  clientOrderId := some f.clientOrderId
  exchangeOrderId := some f.exchangeOrderId

def contentOfRow (r : FillRow) : Content where
  symbol := r.symbol
  side := r.side
  quantity := r.quantity.toRat
  price := r.price.toRat
  fee := r.fee.toRat
  clientOrderId := r.clientOrderId
  exchangeOrderId := r.exchangeOrderId

/-- The columns can hold what a fill says. -/
def Representable (f : ExchangeFill) : Prop :=
  f.symbol.length ≤ 32 ∧ f.clientOrderId.length ≤ 64 ∧ f.exchangeOrderId.length ≤ 64 ∧
    TenPlaces f.quantity ∧ TenPlaces f.price ∧ TenPlaces f.commission

instance (f : ExchangeFill) : Decidable (Representable f) :=
  inferInstanceAs (Decidable (_ ∧ _ ∧ _ ∧ _ ∧ _ ∧ _))

/-- The content of the row of a fill. -/
def storedContent (f : ExchangeFill) : Content where
  symbol := some (cut 32 f.symbol)
  side := f.side.value
  quantity := (rounded f.quantity).toRat
  price := (rounded f.price).toRat
  fee := (rounded f.commission).toRat
  clientOrderId := some (cut 64 f.clientOrderId)
  exchangeOrderId := some (cut 64 f.exchangeOrderId)

/-- The conflict target of the row of a fill. -/
def storedTarget (f : ExchangeFill) (instrument : Instrument) : String × String :=
  (cut 32 instrument.venue, cut 64 f.exchangeTradeId)

/-- What the columns of a row hold fits them. -/
def Column (c : Content) : Prop :=
  (∀ s ∈ c.symbol, s.length ≤ 32) ∧ (∀ s ∈ c.clientOrderId, s.length ≤ 64) ∧
    (∀ s ∈ c.exchangeOrderId, s.length ≤ 64) ∧ (c.quantity * 10 ^ 10).den = 1 ∧
      (c.price * 10 ^ 10).den = 1 ∧ (c.fee * 10 ^ 10).den = 1

theorem representable_of_column {f : ExchangeFill} (h : Column (contentOfFill f)) :
    Representable f := by
  obtain ⟨hs, hc, he, hq, hp, hf⟩ := h
  exact ⟨hs _ rfl, hc _ rfl, he _ rfl, hq, hp, hf⟩

theorem storedContent_eq {f : ExchangeFill} (h : Representable f) :
    storedContent f = contentOfFill f := by
  obtain ⟨hs, hc, he, hq, hp, hf⟩ := h
  rw [storedContent, contentOfFill, cut_of_le hs, cut_of_le hc, cut_of_le he,
    rounded_of_tenPlaces hq, rounded_of_tenPlaces hp, rounded_of_tenPlaces hf]

variable {sha256 : String → String} {instant : Json → Option ℤ}

theorem fillRow_ok {f : ExchangeFill} {instrument : Instrument} {row : FillRow}
    (h : fillRow sha256 instant f instrument = .ok row) :
    row.target = storedTarget f instrument ∧ contentOfRow row = storedContent f ∧
      Column (contentOfRow row) := by
  unfold fillRow at h
  simp only [except_bind_ok] at h
  obtain ⟨fillId, -, clientOrderId, hclient, exchangeOrderId, hexchange, tradeId, htrade,
      symbol, hsymbol,
    venue, hvenue, price, hprice, quantity, hquantity, fee, hfee, asset, -, at', -, h⟩ := h
  cases h
  obtain ⟨rfl, hclient⟩ := varchar_ok hclient
  obtain ⟨rfl, hexchange⟩ := varchar_ok hexchange
  obtain ⟨rfl, -⟩ := varchar_ok htrade
  obtain ⟨rfl, hsymbol⟩ := varchar_ok hsymbol
  obtain ⟨rfl, -⟩ := varchar_ok hvenue
  obtain rfl := amount_ok hprice
  obtain rfl := amount_ok hquantity
  obtain rfl := amount_ok hfee
  refine ⟨rfl, rfl, ?_, ?_, ?_, tenPlaces_rounded _, tenPlaces_rounded _, tenPlaces_rounded _⟩
  · intro s hs
    cases hs
    exact hsymbol
  · intro s hs
    cases hs
    exact hclient
  · intro s hs
    cases hs
    exact hexchange

/-! ### One statement -/

/-- The targets are apart, and every row fits its columns. -/
structure Sound (t : Database) : Prop where
  targets : (t.fills.map FillRow.target).Nodup
  columns : ∀ r ∈ t.fills, Column (contentOfRow r)

/-- Saving a fill: a new row, or the row with its target says something else. -/
theorem saveFill_cases {f : ExchangeFill} {instrument : Instrument} {t t' : Database}
    (h : saveFill sha256 instant f instrument t = .ok t') :
    ∃ row, fillRow sha256 instant f instrument = .ok row ∧
      (row.target ∉ t.fills.map FillRow.target ∧ t'.fills = t.fills ++ [row] ∨
        row.target ∈ t.fills.map FillRow.target ∧
          t'.fills = t.fills.map fun r => if r.target == row.target then
            { row with fillId := r.fillId, symbol := r.symbol, side := r.side } else r) := by
  unfold saveFill at h
  simp only [except_bind_ok] at h
  obtain ⟨t₁, hinstrument, row, hrow, fills, hfills, -, -, -, -, h⟩ := h
  cases h
  have hsame : t₁.fills = t.fills := by
    unfold ensureInstrument at hinstrument
    simp only [except_guard_ok] at hinstrument
    obtain ⟨-, -, h⟩ := hinstrument
    cases h
    rfl
  refine ⟨row, hrow, ?_⟩
  rw [hsame, upsertFillRow] at hfills
  cases hlookup : lookup FillRow.target row.target t.fills with
  | none =>
    rw [hlookup] at hfills
    simp only at hfills
    split_ifs at hfills
    cases hfills
    exact .inl ⟨fun hmem => by simpa [hlookup] using lookup_isSome.mpr hmem, rfl⟩
  | some r =>
    rw [hlookup] at hfills
    cases hfills
    refine .inr ⟨lookup_isSome.mp (by rw [hlookup]; rfl), ?_⟩
    rfl

theorem saveFill_sound {f : ExchangeFill} {instrument : Instrument} {t t' : Database} (ht : Sound t)
    (h : saveFill sha256 instant f instrument t = .ok t') : Sound t' ∧
      ∀ target ∈ t'.fills.map FillRow.target,
        target ∈ t.fills.map FillRow.target ∨ target = storedTarget f instrument := by
  obtain ⟨row, hrow, hcases⟩ := saveFill_cases h
  obtain ⟨htarget, -, hcolumn⟩ := fillRow_ok hrow
  obtain ⟨hnew, hfills⟩ | ⟨hmem, hfills⟩ := hcases
  · refine ⟨⟨?_, fun r hr => ?_⟩, fun target hmem => ?_⟩
    · rw [hfills, List.map_append, List.nodup_append]
      refine ⟨ht.targets, by simp, fun target hmem target' hmem' he => hnew ?_⟩
      rw [← List.mem_singleton.mp hmem', ← he]
      exact hmem
    · rw [hfills, List.mem_append, List.mem_singleton] at hr
      obtain hr | rfl := hr
      · exact ht.columns r hr
      · exact hcolumn
    · rw [hfills, List.map_append, List.mem_append] at hmem
      exact hmem.imp_right fun hmem => by simpa [htarget] using hmem
  · have htargets : t'.fills.map FillRow.target = t.fills.map FillRow.target := by
      rw [hfills, List.map_map]
      refine List.map_congr_left fun r _ => ?_
      simp only [Function.comp_apply]
      split_ifs with he
      · exact (beq_iff_eq.mp he).symm
      · rfl
    refine ⟨⟨by rw [htargets]; exact ht.targets, fun r hr => ?_⟩,
      fun target hmem => .inl (htargets ▸ hmem)⟩
    rw [hfills, List.mem_map] at hr
    obtain ⟨r', hr', rfl⟩ := hr
    split_ifs
    · obtain ⟨-, hc, he, hq, hp, hf⟩ := hcolumn
      exact ⟨(ht.columns r' hr').1, hc, he, hq, hp, hf⟩
    · exact ht.columns r' hr'

theorem fills_saveOrder {order : ExecutionOrder} {timestamp : ℤ} {instrument : Instrument}
    {t t' : Database} (h : saveOrder order timestamp instrument t = .ok t') :
    t'.fills = t.fills := by
  unfold saveOrder ensureInstrument at h
  simp only [except_bind_ok, except_guard_ok] at h
  obtain ⟨t₁, ⟨-, -, h₁⟩, row, -, -, -, h⟩ := h
  cases h
  cases h₁
  rfl

theorem fills_savePosition {p : ExchangePosition} {instrument : Instrument} {t t' : Database}
    (h : savePosition instant p instrument t = .ok t') : t'.fills = t.fills := by
  unfold savePosition ensureInstrument at h
  simp only [except_bind_ok, except_guard_ok] at h
  obtain ⟨t₁, ⟨-, -, h₁⟩, row, -, -, -, h⟩ := h
  cases h
  cases h₁
  rfl

theorem fills_applyEvent {o : Observation} {t t' : Database}
    (ho : ∀ f timestamp instrument, o ≠ .fill f timestamp instrument)
    (h : applyEvent sha256 instant o t = .ok t') : t'.fills = t.fills := by
  cases o with
  | fill f timestamp instrument => exact absurd rfl (ho f timestamp instrument)
  | order order timestamp instrument => exact fills_saveOrder h
  | position p timestamp instrument => exact fills_savePosition h
  | riskSnapshot timestamp =>
    cases h
    rfl

/-! ### The events of the fills -/

/-- A fill and the instrument rules it was enqueued with. -/
abbrev Entry := ExchangeFill × Instrument

/-- The fill of an observation. -/
def fillOf : Observation → Option Entry
  | .fill f _ instrument => some (f, instrument)
  | _ => none

/-- The conflict target of an entry. -/
def Entry.target (e : Entry) : String × String := storedTarget e.1 e.2

/-- The event id of an entry. -/
def Entry.outboxId (sha256 : String → String) (e : Entry) : String :=
  eventId sha256 "FILL" (fillIdentity e.1 e.2)

/-- The fills of the outbox, and whether they are processed. -/
def fillEvents (s : Store) : List (Entry × Bool) :=
  s.outbox.filterMap fun r => (fillOf r.observation).map fun e => (e, r.processed)

/-- The fills a run appends. -/
def fillObservations (is : List Input) : List Observation :=
  is.filterMap fun
    | .append (.fill f t instrument) => some (.fill f t instrument)
    | _ => none

theorem fillEvents_of_core {s s' : Store}
    (h : s'.outbox.map OutboxRow.core = s.outbox.map OutboxRow.core) :
    fillEvents s' = fillEvents s := by
  have hview : ∀ rows : List OutboxRow,
      rows.filterMap (fun r => (fillOf r.observation).map fun e => (e, r.processed)) =
        (rows.map OutboxRow.core).filterMap fun c => (fillOf c.1).map fun e => (e, c.2.2) := by
    intro rows
    rw [List.filterMap_map]
    rfl
  rw [fillEvents, fillEvents, hview, h, hview]

theorem eventId_of_fill {s : Store} (hk : Keyed sha256 s) {r : OutboxRow} (hr : r ∈ s.outbox)
    {e : Entry} (he : fillOf r.observation = some e) : r.eventId = e.outboxId sha256 := by
  rw [hk.ids r hr]
  cases ho : r.observation with
  | fill f t instrument =>
    rw [ho] at he
    cases he
    rfl
  | order | position | riskSnapshot =>
    rw [ho] at he
    cases he

theorem nodup_outboxId {s : Store} (hk : Keyed sha256 s) :
    ((fillEvents s).map fun e => e.1.outboxId sha256).Nodup := by
  have hids : ((fillEvents s).map fun e => e.1.outboxId sha256) =
      (s.outbox.filter fun r => (fillOf r.observation).isSome).map OutboxRow.eventId := by
    rw [fillEvents]
    have hall : ∀ r ∈ s.outbox, ∀ e, fillOf r.observation = some e →
        r.eventId = e.outboxId sha256 := fun r hr e => eventId_of_fill hk hr
    generalize s.outbox = rows at hall
    induction rows with
    | nil => rfl
    | cons r rows ih =>
      have htail := ih fun r hr => hall r (List.mem_cons_of_mem _ hr)
      cases he : fillOf r.observation with
      | none => simpa [he] using htail
      | some e => simpa [he, hall r (by simp) e he] using htail
  rw [hids]
  exact hk.nodup.sublist (List.filter_sublist.map _)

/-- What a step does to the fills. -/
inductive Change (sha256 : String → String) (instant : Json → Option ℤ) (s s' : Store) :
    Input → Prop
  /-- nothing -/
  | same (i : Input) (hevents : fillEvents s' = fillEvents s)
      (hfills : s'.tables.fills = s.tables.fills) : Change sha256 instant s s' i
  /-- a fill is appended -/
  | append (f : ExchangeFill) (t : ℤ) (instrument : Instrument)
      (hevents : fillEvents s' = fillEvents s ++ [((f, instrument), false)])
      (htables : s'.tables = s.tables) : Change sha256 instant s s' (.append (.fill f t instrument))
  /-- a pending fill is saved -/
  | save (i : Input) (pre post : List (Entry × Bool)) (e : Entry)
      (hbefore : fillEvents s = pre ++ (e, false) :: post)
      (hafter : fillEvents s' = pre ++ (e, true) :: post)
      (hsave : saveFill sha256 instant e.1 e.2 s.tables = .ok s'.tables) :
        Change sha256 instant s s' i

theorem change_step (instant : Json → Option ℤ) {s : Store} (hk : Keyed sha256 s) (i : Input) :
    Change sha256 instant s (step sha256 instant s i).2 i := by
  cases i with
  | append o =>
    obtain hsame | ⟨-, -, happ⟩ := append_cases sha256 o s
    · exact .same _ (by rw [step, hsame]) (by rw [step, hsame])
    · have hevents : fillEvents (appendOutbox sha256 o s) =
          fillEvents s ++ ((fillOf o).map fun e => (e, false)).toList := by
        rw [happ, fillEvents, fillEvents, List.filterMap_append]
        cases ho : fillOf o <;> simp [ho]
      have htables : (appendOutbox sha256 o s).tables = s.tables := by rw [happ]
      cases o with
      | fill f t instrument => exact .append f t instrument hevents htables
      | order | position | riskSnapshot =>
        exact .same _ (by rw [step, hevents]; simp [fillOf]) (by rw [step, htables])
  | dispatch now fault retryAt =>
    obtain ⟨htables, hcore⟩ | ⟨pre, row, post, tables, hsplit, hpending, -, happly, hs'⟩ :=
      dispatch_cases instant hk now fault retryAt
    · exact .same _ (fillEvents_of_core hcore) (by rw [step, htables])
    · have hstep : (step sha256 instant s (.dispatch now fault retryAt)).2 = _ := hs'
      have hview : ∀ r : OutboxRow, fillEvents ⟨pre ++ r :: post, tables⟩ =
          fillEvents ⟨pre, tables⟩ ++ ((fillOf r.observation).map fun e => (e,
            r.processed)).toList ++
            fillEvents ⟨post, tables⟩ := by
        intro r
        cases hr : fillOf r.observation <;>
          simp [fillEvents, List.filterMap_append, hr]
      have hbefore : fillEvents s = fillEvents ⟨pre ++ row :: post, tables⟩ := by
        rw [fillEvents, fillEvents, hsplit]
      cases ho : row.observation with
      | fill f t instrument =>
        rw [ho] at happly
        refine .save _ (fillEvents ⟨pre, tables⟩) (fillEvents ⟨post, tables⟩) (f,
          instrument) ?_ ?_ ?_
        · rw [hbefore, hview, ho, hpending]
          simp [fillOf]
        · rw [hstep, hview, markProcessed, ho]
          simp [fillOf]
        · rw [hstep]
          exact happly
      | order | position | riskSnapshot =>
        rw [ho] at happly
        refine .same _ ?_ ?_
        · rw [hstep, hbefore, hview, hview, markProcessed, ho]
          rfl
        · rw [hstep]
          exact fills_applyEvent (by simp) happly

/-! ### Every run -/

/-- The entries a run appends. -/
def appended (is : List Input) : List Entry := (fillObservations is).filterMap fillOf

theorem appended_append (is js : List Input) :
    appended (is ++ js) = appended is ++ appended js := by
  simp [appended, fillObservations, List.filterMap_append]

/-- What holds of every run: no more rows than targets, no more events than fills. -/
structure Loose (sha256 : String → String) (s : Store) (done : List Entry) : Prop where
  keyed : Keyed sha256 s
  sound : Sound s.tables
  events : ((fillEvents s).map Prod.fst).Sublist done
  targets : ∀ target ∈ s.tables.fills.map FillRow.target,
    target ∈ ((fillEvents s).map Prod.fst).map Entry.target

variable {s : Store} {done : List Entry}

theorem loose_step (h : Loose sha256 s done) (i : Input) :
    Loose sha256 (step sha256 instant s i).2 (done ++ appended [i]) := by
  have hkeyed := keyed_step instant h.keyed i
  obtain ⟨i, hevents, hfills⟩ | ⟨f, t, instrument, hevents, htables⟩ |
    ⟨i, pre, post, e, hbefore, hafter, hsave⟩ := change_step instant h.keyed i
  · refine ⟨hkeyed, ⟨hfills ▸ h.sound.targets, hfills ▸ h.sound.columns⟩, ?_, ?_⟩
    · rw [hevents]
      exact h.events.trans (List.sublist_append_left _ _)
    · rw [hevents, hfills]
      exact h.targets
  · refine ⟨hkeyed, htables ▸ h.sound, ?_, fun target hmem => ?_⟩
    · rw [hevents, List.map_append]
      exact h.events.append (List.Sublist.refl _)
    · rw [hevents, List.map_append, List.map_append, List.mem_append]
      exact .inl (h.targets target (htables ▸ hmem))
  · obtain ⟨hsound, hmore⟩ := saveFill_sound h.sound hsave
    have hfirst : ((fillEvents (step sha256 instant s i).2).map Prod.fst) =
        (fillEvents s).map Prod.fst := by rw [hbefore, hafter]; simp
    refine ⟨hkeyed, hsound, ?_, fun target hmem => ?_⟩
    · rw [hfirst]
      exact h.events.trans (List.sublist_append_left _ _)
    · rw [hfirst]
      obtain hold | rfl := hmore target hmem
      · exact h.targets target hold
      · rw [hbefore]
        simp [Entry.target]

theorem loose_run (sha256 : String → String) (instant : Json → Option ℤ) (is : List Input) :
    Loose sha256 (run (step sha256 instant) .empty is).2 (appended is) := by
  induction is using List.reverseRecOn with
  | nil =>
    exact ⟨keyed_empty,
      ⟨by simp [Store.empty, Database.empty], by simp [Store.empty, Database.empty]⟩,
      by simp [fillEvents, Store.empty, appended, fillObservations],
      by simp [Store.empty, Database.empty]⟩
  | append_singleton is i ih =>
    rw [run_snoc, appended_append]
    exact loose_step ih i

/-! ### Runs without a collision -/

/-- The outbox and the table tell the entries apart. -/
def Apart (sha256 : String → String) (es : List Entry) : Prop :=
  es.Pairwise fun e e' => e.target ≠ e'.target ∧ e.outboxId sha256 ≠ e'.outboxId sha256

/-- Every fill has its event, and every processed one its row. -/
structure Tight (s : Store) (done : List Entry) : Prop where
  events : (fillEvents s).map Prod.fst = done
  rows : (s.tables.fills.map fun r => (r.target, contentOfRow r)).Perm
    (((fillEvents s).filter Prod.snd).map fun e => (e.1.target, storedContent e.1.1))

theorem eventType_of_eventId {o : Observation} {key key' : String}
    (h : eventId sha256 o.eventType key = eventId sha256 "FILL" key') : ∃ e, fillOf o = some e := by
  have htext := congrArg String.toList h
  cases o with
  | fill f t instrument => exact ⟨_, rfl⟩
  | order | position | riskSnapshot =>
    exfalso
    simp [eventId, Observation.eventType] at htext

theorem append_accepted (hk : Keyed sha256 s) {f : ExchangeFill} {t : ℤ} {instrument : Instrument}
    (hfits : Fits (.fill f t instrument))
    (hnew : Entry.outboxId sha256 (f, instrument) ∉
      (fillEvents s).map fun e => e.1.outboxId sha256) :
    fillEvents (appendOutbox sha256 (.fill f t instrument) s) =
      fillEvents s ++ [((f, instrument), false)] := by
  have hid : ∀ r ∈ s.outbox, r.eventId ≠ Entry.outboxId sha256 (f, instrument) := by
    intro r hr he
    rw [hk.ids r hr] at he
    obtain ⟨e, hfill⟩ := eventType_of_eventId he
    refine hnew (List.mem_map.mpr ⟨(e, r.processed), ?_, ?_⟩)
    · exact List.mem_filterMap.mpr ⟨r, hr, by rw [hfill]; rfl⟩
    · rw [← eventId_of_fill hk hr hfill, hk.ids r hr]
      exact he
  have hno : ¬ s.outbox.any (conflicts sha256 (.fill f t instrument)) = true := by
    rw [List.any_eq_true]
    rintro ⟨r, hr, hconflict⟩
    simp only [conflicts, Bool.or_eq_true, Bool.and_eq_true, beq_iff_eq] at hconflict
    obtain he | ⟨htype, hkey⟩ := hconflict
    · exact hid r hr he
    · refine hid r hr ?_
      rw [hk.ids r hr, htype, hkey]
      rfl
  rw [appendOutbox, if_pos ⟨hfits, hno⟩, fillEvents, List.filterMap_append]
  rfl

theorem tight_step (hk : Keyed sha256 s) (h : Tight s done) {i : Input}
    (hapart : Apart sha256 (done ++ appended [i])) (hfits : ∀ o ∈ fillObservations [i], Fits o) :
    Tight (step sha256 instant s i).2 (done ++ appended [i]) := by
  have hnone : appended [i] = [] ∨ ∃ f t instrument, i = .append (.fill f t instrument) := by
    cases i with
    | append o =>
      cases o with
      | fill f t instrument => exact .inr ⟨f, t, instrument, rfl⟩
      | order | position | riskSnapshot => exact .inl rfl
    | dispatch => exact .inl rfl
  obtain hnone | ⟨f, t, instrument, rfl⟩ := hnone
  · rw [hnone, List.append_nil] at hapart ⊢
    obtain ⟨i, hevents, hfills⟩ | ⟨f, t, instrument, hevents, htables⟩ |
      ⟨i, pre, post, e, hbefore, hafter, hsave⟩ := change_step instant hk i
    · exact ⟨by rw [hevents, h.events], by rw [hevents, hfills]; exact h.rows⟩
    · simp [appended, fillObservations, fillOf] at hnone
    · have hfirst : (fillEvents s).map Prod.fst = pre.map Prod.fst ++ e :: post.map Prod.fst := by
        rw [hbefore]
        simp
      refine ⟨by rw [hafter, ← h.events, hbefore]; simp, ?_⟩
      obtain ⟨row, hrow, hcases⟩ := saveFill_cases hsave
      obtain ⟨htarget, hcontent, -⟩ := fillRow_ok hrow
      -- no processed fill has the target of the new row
      have hnew : row.target ∉ s.tables.fills.map FillRow.target := by
        intro hmem
        have hmem' : row.target ∈ (s.tables.fills.map fun r => (r.target, contentOfRow r)).map
            Prod.fst := by simpa using hmem
        rw [(h.rows.map Prod.fst).mem_iff, List.map_map, List.mem_map] at hmem'
        obtain ⟨x, hx, hxt⟩ := hmem'
        rw [List.mem_filter, hbefore, List.mem_append, List.mem_cons] at hx
        have hpair : (pre.map Prod.fst ++ e :: post.map Prod.fst).Pairwise fun e e' =>
            e.target ≠ e'.target ∧ e.outboxId sha256 ≠ e'.outboxId sha256 := by
          rw [← hfirst, h.events]
          exact hapart
        rw [List.pairwise_append, List.pairwise_cons] at hpair
        obtain ⟨-, ⟨hpost, -⟩, hpre⟩ := hpair
        have hxe : x.1.target = e.target := hxt.trans htarget
        obtain ⟨hx | rfl | hx, hdone⟩ := hx
        · exact (hpre x.1 (List.mem_map_of_mem hx) e (by simp)).1 hxe
        · exact absurd hdone (by simp)
        · exact (hpost x.1 (List.mem_map_of_mem hx)).1 hxe.symm
      obtain ⟨-, hfills⟩ | ⟨hold, -⟩ := hcases
      · have hrows := h.rows
        have hsaid : (row.target, contentOfRow row) = (e.target, storedContent e.1) := by
          rw [htarget, hcontent]
          rfl
        rw [hbefore, List.filter_append, List.filter_cons_of_neg (by simp),
          List.map_append] at hrows
        rw [hfills, hafter, List.filter_append, List.filter_cons_of_pos (by simp), List.map_append,
          List.map_append, List.map_cons, List.map_cons, List.map_nil, hsaid]
        refine (hrows.append_right _).trans ?_
        rw [List.append_assoc]
        exact (List.perm_append_singleton _ _).append_left _
      · exact absurd hold hnew
  · have hid : Entry.outboxId sha256 (f, instrument) ∉
        (fillEvents s).map fun e => e.1.outboxId sha256 := by
      intro hmem
      obtain ⟨x, hx, he⟩ := List.mem_map.mp hmem
      refine (List.pairwise_append.mp hapart).2.2 x.1 ?_ (f, instrument) ?_ |>.2 he
      · rw [← h.events]
        exact List.mem_map_of_mem hx
      · simp [appended, fillObservations, fillOf]
    have hevents :=
      append_accepted hk (hfits (.fill f t instrument) (by simp [fillObservations])) hid
    have htables : (appendOutbox sha256 (.fill f t instrument) s).tables = s.tables := by
      obtain hsame | ⟨-, -, happ⟩ := append_cases sha256 (.fill f t instrument) s
      · rw [hsame]
      · rw [happ]
    refine ⟨?_, ?_⟩
    · rw [step, hevents, List.map_append, h.events]
      rfl
    · rw [step, hevents, htables, List.filter_append]
      simpa using h.rows

/-! ### Distinct fills -/

/-- The fills a new ledger accepts from a sequence of calls: those its callback is called with. -/
def accepted (calls : List ExchangeFill) : List ExchangeFill :=
  (appendAll Blessing.Binance.Ledger.empty calls).1

/-- The time of a fill for its event. -/
def fillTime (f : ExchangeFill) : Json :=
  if f.eventTime = .null then f.transactionTime else f.eventTime

/-- `enqueue_fill`: nothing is enqueued where the time of the fill raises. -/
def enqueueFill (instant : Json → Option ℤ) (rules : ExchangeFill → Instrument) (f : ExchangeFill) :
    Option Observation :=
  (instant (fillTime f)).map fun t => .fill f t (rules f)

/-- Every fill is enqueued and appended in turn, between any other events and dispatches. -/
def Persisted (instant : Json → Option ℤ) (rules : ExchangeFill → Instrument)
    (fills : List ExchangeFill) (is : List Input) : Prop :=
  fills.map (enqueueFill instant rules) = (fillObservations is).map some ∧
    ∀ o ∈ fillObservations is, Fits o

/-- The table, the outbox and the columns keep the fills apart and whole. -/
def Separate (sha256 : String → String) (rules : ExchangeFill → Instrument)
    (fills : List ExchangeFill) : Prop :=
  Apart sha256 (fills.map fun f => (f, rules f)) ∧ ∀ f ∈ fills, Representable f

instance (es : List Entry) : Decidable (Apart sha256 es) :=
  inferInstanceAs (Decidable (List.Pairwise _ _))

instance (rules : ExchangeFill → Instrument) (fills : List ExchangeFill) (is : List Input) :
    Decidable (Persisted instant rules fills is) := inferInstanceAs (Decidable (_ ∧ _))

instance (rules : ExchangeFill → Instrument) (fills : List ExchangeFill) :
    Decidable (Separate sha256 rules fills) := inferInstanceAs (Decidable (_ ∧ _))

theorem tight_run (instant : Json → Option ℤ) {es : List Entry} (hapart : Apart sha256 es)
    (is : List Input) (hinitial : appended is <+: es) (hfits : ∀ o ∈ fillObservations is, Fits o) :
    Tight (run (step sha256 instant) .empty is).2 (appended is) := by
  induction is using List.reverseRecOn with
  | nil =>
    exact ⟨by simp [fillEvents, Store.empty, appended, fillObservations],
      by simp [fillEvents, Store.empty, Database.empty]⟩
  | append_singleton is i ih =>
    have hobs : fillObservations (is ++ [i]) = fillObservations is ++ fillObservations [i] := by
      simp [fillObservations, List.filterMap_append]
    rw [run_snoc, appended_append]
    rw [appended_append] at hinitial
    rw [hobs] at hfits
    refine tight_step (loose_run sha256 instant is).keyed
      (ih ((List.prefix_append _ _).trans hinitial)
      fun o ho => hfits o (List.mem_append_left _ ho)) (hapart.sublist hinitial.sublist)
      fun o ho => hfits o (List.mem_append_right _ ho)

theorem filterMap_fillOf {rules : ExchangeFill → Instrument} {fills : List ExchangeFill}
    {os : List Observation} (h : fills.map (enqueueFill instant rules) = os.map some) :
    os.filterMap fillOf = fills.map fun f => (f, rules f) := by
  induction fills generalizing os with
  | nil =>
    cases os with
    | nil => rfl
    | cons o os => simp at h
  | cons f fills ih =>
    cases os with
    | nil => simp at h
    | cons o os =>
      simp only [List.map_cons, List.cons.injEq] at h
      obtain ⟨t, -, rfl⟩ := Option.map_eq_some_iff.mp h.1
      simp [fillOf, ih h.2]

/-- A table with as many rows as fills has one for each: nothing collided. -/
theorem apart_of_length {s : Store} {es : List Entry} (h : Loose sha256 s es)
    (hlen : s.tables.fills.length = es.length) : Apart sha256 es := by
  have hle : s.tables.fills.length ≤ (fillEvents s).length := by
    have hsub := (List.subperm_of_subset h.sound.targets h.targets).length_le
    simpa using hsub
  have hevents : (fillEvents s).map Prod.fst = es := by
    refine h.events.eq_of_length_le ?_
    rw [← hlen, List.length_map]
    exact hle
  have hids : (es.map (Entry.outboxId sha256)).Nodup := by
    have hn := nodup_outboxId h.keyed
    rw [← hevents, List.map_map]
    exact hn
  have htargets : (es.map Entry.target).Nodup := by
    have hperm : (s.tables.fills.map FillRow.target).Perm (es.map Entry.target) := by
      refine (List.subperm_of_subset h.sound.targets ?_).perm_of_length_le (by simp [hlen])
      rw [← hevents]
      exact h.targets
    exact hperm.nodup_iff.mp h.sound.targets
  rw [List.nodup_iff_pairwise_ne, List.pairwise_map] at hids htargets
  exact htargets.and hids

/-- **Fills in the database**: along every run that persists the fills a ledger accepts, between any
other events, faults and retries, once every fill is processed the table `fills` holds one row for
each of them with its symbol, side, amounts and order ids if and only if no two of them share the
venue and the trade id or an event id, and the columns can hold them. -/
theorem fills_stay_distinct (sha256 : String → String) (instant : Json → Option ℤ)
    (calls : List ExchangeFill) (rules : ExchangeFill → Instrument) {is : List Input}
    (hp : Persisted instant rules (accepted calls) is)
    (hdone : ∀ e ∈ fillEvents (run (step sha256 instant) .empty is).2, e.2 = true) :
    ((run (step sha256 instant) .empty is).2.tables.fills.map contentOfRow).Perm
        ((accepted calls).map contentOfFill) ↔ Separate sha256 rules (accepted calls) := by
  have hes := filterMap_fillOf hp.1
  have hloose := loose_run sha256 instant is
  rw [appended, hes] at hloose
  constructor
  · intro hperm
    refine ⟨apart_of_length hloose (by simpa using hperm.length_eq), fun f hf => ?_⟩
    have hmem : contentOfFill f ∈ (accepted calls).map contentOfFill := List.mem_map_of_mem hf
    obtain ⟨r, hr, hcontent⟩ := List.mem_map.mp (hperm.mem_iff.mpr hmem)
    exact representable_of_column (hcontent ▸ hloose.sound.columns r hr)
  · rintro ⟨hapart, hrep⟩
    have htight := tight_run instant hapart is ⟨[], by rw [appended, hes, List.append_nil]⟩
      hp.2
    have hrows := htight.rows.map Prod.snd
    rw [List.filter_eq_self.mpr hdone, List.map_map, List.map_map] at hrows
    have hcontents : ((fillEvents (run (step sha256 instant) .empty is).2).map
        (Prod.snd ∘ fun e : Entry × Bool => (e.1.target, storedContent e.1.1))) =
          (accepted calls).map contentOfFill := by
      have hevents := htight.events
      rw [appended, hes] at hevents
      have hmap := congrArg (List.map fun e : Entry => storedContent e.1) hevents
      rw [List.map_map, List.map_map] at hmap
      refine hmap.trans (List.map_congr_left fun f hf => storedContent_eq (hrep f hf))
    rw [hcontents] at hrows
    exact hrows

/-- The digests of the texts below. -/
def digests : List (String × String) := [
    ("FILL:BINANCE_MAINNET:ETHUSDC:1",
      "6753db835d977d4d489e4a63c5ab133f709c032d61e1c44f656afd1daf3d90c5"),
    ("BINANCE_MAINNET:ETHUSDC:1",
      "68dd1511ea5be748c7bc695d9a26507d6b533c3c0b1ae99f3f697af9f6370a46"),
    ("FILL:BINANCE_MAINNET:ETHUSDC:2",
      "936f6e4f23b3ce34d7b3a4ba8e04787fe10be36ecf56b9b07bcf124b32a5fbbe"),
    ("BINANCE_MAINNET:ETHUSDC:2",
      "7ac911e0ee79ee6669e56a03ec92fa22c8a0e3289b47f899856896d48c81179a"),
    ("FILL:BINANCE_MAINNET:BTCUSDC:1",
      "424a65a3e9b24e028d8b5861b9564b0132d3dac28056e2a82b964d07ffefe71c"),
    ("BINANCE_MAINNET:BTCUSDC:1",
      "344fc015984494a4109add51561f10693feb237d9cc292b57f6244b742406321"),
    ("ORDER:BAI-ETHUSDC:NEW:2023-11-14T22:13:20+00:00",
      "38395b983343c379fe5febd3e774757eb3e350261491b19ec7ec649c5c5029de"),
    ("ORDER:BAI-BTCUSDC:NEW:2023-11-14T22:13:20+00:00",
      "217760870cce55d47a1d5ef366529ca810aad69cbe4f775d8e46e6e691802a25")]

def digest (s : String) : String := ((digests.find? fun e => e.1 == s).map Prod.snd).getD s

/-- Exchange times are milliseconds. -/
def millis : Json → Option ℤ
  | .int n => some (1000 * n)
  | _ => none

/-- The rules of a symbol. -/
def rulesOf (symbol : String) : Instrument where
  symbol
  venue := "BINANCE_MAINNET"
  tickSize := ⟨false, 1, -2⟩
  stepSize := ⟨false, 1, -3⟩
  minNotional := Decimal.ofNat 20

/-- A trade of an order of its symbol. -/
def traded (symbol tradeId : String) : ExchangeFill :=
  { reported "BINANCE_MAINNET" symbol tradeId with clientOrderId := "BAI-" ++ symbol }

example : accepted [traded "ETHUSDC" "1", traded "ETHUSDC" "1"] = [traded "ETHUSDC" "1"] := by
  decide +kernel

/-- The order of a trade. -/
def parentOrder (symbol : String) : ExecutionOrder where
  symbol
  side := .buy
  quantity := Decimal.ofNat 2
  price := Decimal.ofNat 2000
  clientOrderId := ⟨"BAI-" ++ symbol, by simp⟩
  status := "NEW"
  exchangeOrderId := some "7"

/-- Each fill after its order, appended and dispatched. -/
def persistRun (fills : List ExchangeFill) : List Input :=
  fills.flatMap fun f =>
    [.append (.order (parentOrder f.symbol) 1700000000000000 (rulesOf f.symbol)),
      .dispatch 1700000001000000 false none,
      .append (.fill f 1700000000000000 (rulesOf f.symbol)),
      .dispatch 1700000001000000 false none]

/-- Two trades of one symbol. -/
theorem fills_stay_distinct_trades :
    let fills := [traded "ETHUSDC" "1", traded "ETHUSDC" "2"]
    ((run (step digest millis) .empty (persistRun fills)).2.tables.fills.map contentOfRow).Perm
      ((accepted fills).map contentOfFill) :=
  (fills_stay_distinct digest millis _ (fun f => rulesOf f.symbol) (by decide +kernel)
    (by decide +kernel)).mpr (by decide +kernel)

/-- Trades of two symbols with one trade id: the ledger accepts both, and one row is left. -/
theorem other_symbol_overwrites :
    let fills := [traded "ETHUSDC" "1", traded "BTCUSDC" "1"]
    accepted fills = fills ∧ Persisted millis (fun f => rulesOf f.symbol) fills (persistRun fills) ∧
      (∀ r ∈ (run (step digest millis) .empty (persistRun fills)).2.outbox, r.processed = true) ∧
      ¬ ((run (step digest millis) .empty (persistRun fills)).2.tables.fills.map contentOfRow).Perm
        (fills.map contentOfFill) := by
  decide +kernel

end Blessing.Persistence.FillRows
