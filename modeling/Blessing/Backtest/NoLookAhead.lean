import Blessing.Backtest.EventDataset

/-! # No look-ahead in the dataset join

What `build_historical_events` returns depends on the observations as a set, and up to an instant
only on those observed until then. The binary searches, the sorted lists and the index of the
funding are first replaced by what they mean (`Joined`); causality is then a statement about
observations. -/

namespace Blessing.Backtest.NoLookAhead

open Blessing.Lib Blessing.Lib.Values Blessing.Lib.Effects Blessing.Lib.Table Blessing.Lib.Collect
open Blessing.Lib.Bisect
open Blessing.Backtest.VisionRows Blessing.Backtest.EventDataset

/-! ### What is observed -/

/-- A row is that kline. -/
def ObservesKline (s : Source) : KlineObservation → Prop := Observed parseVisionKlineRow s.klineRows

/-- A row is that mark price. -/
def ObservesMark (s : Source) : MarkPriceObservation → Prop :=
  Observed parseVisionMarkPriceRow s.markPriceRows

/-- A row is that quote. -/
def ObservesBook (s : Source) : BookTickerObservation → Prop :=
  Observed parseVisionBookTickerRow s.bookTickerRows

/-- The last quote at or before an instant: by its time, then by its id. -/
def LatestBook (s : Source) (t : ℤ) (book : BookTickerObservation) : Prop :=
  ObservesBook s book ∧ book.eventTime ≤ t ∧
    ∀ other, ObservesBook s other → other.eventTime ≤ t → bookRank other ≤ bookRank book

/-- The kline is the first one that closes at or after an instant. -/
def FirstKline (s : Source) (t : ℤ) (kline : KlineObservation) : Prop :=
  t ≤ kline.eventTime ∧ ∀ other, ObservesKline s other → t ≤ other.eventTime →
    kline.eventTime ≤ other.eventTime

/-- What the event of a kline is made of. -/
structure Joined (seconds : ℤ → ℚ) (o : Options) (s : Source) (kline : KlineObservation)
    (mark : MarkPriceObservation) (book : BookTickerObservation)
    (funding : Option FundingRateObservation) : Prop where
  observed : ObservesKline s kline
  marked : ObservesMark s mark
  sameOpen : mark.openTimeMs = kline.openTimeMs
  markTime : mark.eventTime ≤ kline.eventTime
  quoted : LatestBook s kline.eventTime book
  fresh : seconds (kline.eventTime - book.eventTime) ≤ o.maxBookAgeSec
  settled : ∀ f, funding = some f ↔ f ∈ s.fundingRates ∧ FirstKline s f.fundingTime kline

/-- What an event shows of the observations it is made of. -/
structure Carries (e : HistoricalMarketEvent) (kline : KlineObservation)
    (mark : MarkPriceObservation) (book : BookTickerObservation)
    (funding : Option FundingRateObservation) : Prop where
  time : e.eventTime = kline.eventTime
  prices : e.openPrice = kline.openPrice ∧ e.high = kline.high ∧ e.low = kline.low ∧
    e.close = kline.close
  trades : e.volume = kline.volume ∧ e.tradeCount = kline.tradeCount
  quote : e.bestBid = book.bestBid ∧ e.bestAsk = book.bestAsk ∧ e.bidQty = book.bidQty ∧
    e.askQty = book.askQty
  markPrice : e.markPrice = mark.markPrice
  funding : e.fundingRate = funding.map (·.fundingRate) ∧ e.fundingEvent = funding.isSome

/-- The same rows in any order and number, and the same funding in any order. -/
structure SameRows (s s' : Source) : Prop where
  klines : ∀ row, row ∈ s.klineRows ↔ row ∈ s'.klineRows
  marks : ∀ row, row ∈ s.markPriceRows ↔ row ∈ s'.markPriceRows
  books : ∀ row, row ∈ s.bookTickerRows ↔ row ∈ s'.bookTickerRows
  funding : s.fundingRates.Perm s'.fundingRates

/-- The same observations up to an instant. -/
structure AgreeUntil (t : ℤ) (s s' : Source) : Prop where
  klines : ∀ kline, kline.eventTime ≤ t → (ObservesKline s kline ↔ ObservesKline s' kline)
  marks : ∀ mark, mark.eventTime ≤ t → (ObservesMark s mark ↔ ObservesMark s' mark)
  books : ∀ book, book.eventTime ≤ t → (ObservesBook s book ↔ ObservesBook s' book)
  funding : ∀ f, f.fundingTime ≤ t → (f ∈ s.fundingRates ↔ f ∈ s'.fundingRates)

/-- The event is the first one at or after an instant. -/
def FirstEvent (events : List HistoricalMarketEvent) (t : ℤ) (e : HistoricalMarketEvent) : Prop :=
  e ∈ events ∧ t ≤ e.eventTime ∧ ∀ other ∈ events, t ≤ other.eventTime →
  e.eventTime ≤ other.eventTime

/-! ### Sorted observations -/

section Sorted

variable {rows rows' : List Json}

theorem uniqueKlines_ok {klines : List KlineObservation} (h : uniqueKlines rows = .ok klines) :
    ∃ t, collect parseVisionKlineRow KlineObservation.openTimeMs
      (.value "conflicting duplicate kline observations") rows = .ok t ∧
      klines = sortedBy KlineObservation.openTimeMs t := by
  unfold uniqueKlines at h
  obtain ⟨t, ht, h⟩ := except_bind_ok.mp h
  obtain ⟨-, h⟩ := except_guard_ok.mp h
  obtain ⟨-, h⟩ := except_guard_ok.mp h
  cases h
  exact ⟨t, ht, rfl⟩

theorem mem_uniqueKlines {klines : List KlineObservation} (h : uniqueKlines rows = .ok klines)
    {k : KlineObservation} : k ∈ klines ↔ Observed parseVisionKlineRow rows k := by
  obtain ⟨t, ht, rfl⟩ := uniqueKlines_ok h
  exact (sorted_collect_ok (fun _ _ h => h) ht).2 k

theorem uniqueKlines_congr (hrows : ∀ row, row ∈ rows ↔ row ∈ rows')
    {klines : List KlineObservation} (h : uniqueKlines rows = .ok klines) :
    uniqueKlines rows' = .ok klines := by
  obtain ⟨t, ht, -⟩ := uniqueKlines_ok h
  have hrank (a b : KlineObservation) (h : a.openTimeMs = b.openTimeMs) :
      a.openTimeMs = b.openTimeMs := h
  obtain ⟨t', ht', hsorted⟩ := sorted_collect_congr hrank hrows ht
  unfold uniqueKlines at h ⊢
  rw [ht] at h
  rw [ht', ← h]
  change (if sortedBy KlineObservation.openTimeMs t' = [] then _ else _) = _
  rw [hsorted]
  rfl

theorem uniqueMarkPrices_ok {marks : List MarkPriceObservation}
    (h : uniqueMarkPrices rows = .ok marks) :
    collect parseVisionMarkPriceRow MarkPriceObservation.openTimeMs
      (.value "conflicting duplicate mark-price observations") rows = .ok marks ∧ marks ≠ [] := by
  unfold uniqueMarkPrices at h
  obtain ⟨t, ht, h⟩ := except_bind_ok.mp h
  obtain ⟨hne, h⟩ := except_guard_ok.mp h
  cases h
  exact ⟨ht, hne⟩

theorem uniqueMarkPrices_congr (hrows : ∀ row, row ∈ rows ↔ row ∈ rows')
    {marks : List MarkPriceObservation} (h : uniqueMarkPrices rows = .ok marks) :
    ∃ marks', uniqueMarkPrices rows' = .ok marks' ∧ ∀ k,
      lookup MarkPriceObservation.openTimeMs k marks' =
      lookup MarkPriceObservation.openTimeMs k marks := by
  obtain ⟨ht, hne⟩ := uniqueMarkPrices_ok h
  obtain ⟨marks', ht', hmem⟩ := collect_congr hrows ht
  have hne' : marks' ≠ [] := by
    obtain ⟨m, hm⟩ := List.exists_mem_of_ne_nil marks hne
    exact List.ne_nil_of_mem ((hmem m).mpr hm)
  refine ⟨marks', ?_, fun k => Option.ext fun m => ?_⟩
  · unfold uniqueMarkPrices
    rw [ht']
    exact if_neg hne'
  · rw [lookup_collect ht', lookup_collect ht, ← (collect_ok ht').2.1,
      ← (collect_ok ht).2.1, hmem m]

theorem updateId_of_bookRank (a b : BookTickerObservation) (h : bookRank a = bookRank b) :
    a.updateId = b.updateId := congrArg (fun rank => (ofLex rank).2) h

theorem eventTime_of_bookRank {a b : BookTickerObservation} (h : bookRank a ≤ bookRank b) :
    a.eventTime ≤ b.eventTime := by
  rcases Prod.Lex.le_iff.mp h with hlt | ⟨heq, -⟩
  · exact le_of_lt hlt
  · exact le_of_eq heq

theorem sortedBookTickers_ok {books : List BookTickerObservation}
    (h : sortedBookTickers rows = .ok books) :
    ∃ t, collect parseVisionBookTickerRow BookTickerObservation.updateId
      (.value "conflicting duplicate bookTicker update ID") rows = .ok t ∧
      books = sortedBy bookRank t := by
  unfold sortedBookTickers at h
  obtain ⟨t, ht, h⟩ := except_bind_ok.mp h
  obtain ⟨-, h⟩ := except_guard_ok.mp h
  cases h
  exact ⟨t, ht, rfl⟩

theorem sortedBookTickers_congr (hrows : ∀ row, row ∈ rows ↔ row ∈ rows')
    {books : List BookTickerObservation} (h : sortedBookTickers rows = .ok books) :
    sortedBookTickers rows' = .ok books := by
  obtain ⟨t, ht, -⟩ := sortedBookTickers_ok h
  obtain ⟨t', ht', hsorted⟩ := sorted_collect_congr updateId_of_bookRank hrows ht
  unfold sortedBookTickers at h ⊢
  rw [ht] at h
  rw [ht', ← h]
  change (if sortedBy bookRank t' = [] then _ else _) = _
  rw [hsorted]
  rfl

theorem latest_iff {books : List BookTickerObservation} (h : sortedBookTickers rows = .ok books)
    {t : ℤ} {book : BookTickerObservation} :
    (books.take (bisectRight (books.map (·.eventTime)) t)).getLast? = some book ↔
      Observed parseVisionBookTickerRow rows book ∧ book.eventTime ≤ t ∧
        ∀ other, Observed parseVisionBookTickerRow rows other → other.eventTime ≤ t →
          bookRank other ≤ bookRank book := by
  obtain ⟨u, hu, rfl⟩ := sortedBookTickers_ok h
  obtain ⟨hstrict, hmem⟩ := sorted_collect_ok updateId_of_bookRank hu
  have htimes : ((sortedBy bookRank u).map (·.eventTime)).Pairwise (· ≤ ·) :=
    List.pairwise_map.mpr (hstrict.imp fun hlt => eventTime_of_bookRank (le_of_lt hlt))
  rw [take_bisectRight htimes, getLast?_iff (hstrict.filter _)]
  simp only [List.mem_filter, hmem, decide_eq_true_eq, and_assoc, and_imp]

end Sorted

/-! ### Funding -/

section Funding

variable {seconds : ℤ → ℚ} {eventTimes : List ℤ} {symbol : String} {tolerance : ℚ}

/-- The place a funding observation is attached to. -/
def place (eventTimes : List ℤ) (f : FundingRateObservation) : ℕ :=
  bisectLeft eventTimes f.fundingTime

theorem foldlM_attachOne_ok {fs : List FundingRateObservation}
    {attached out : List (ℕ × FundingRateObservation)} (hn : (attached.map Prod.fst).Nodup)
    (h : fs.foldlM (attachOne seconds eventTimes symbol tolerance) attached = .ok out) :
    out = attached ++ fs.map (fun f => (place eventTimes f, f)) ∧ (out.map Prod.fst).Nodup ∧
      ∀ f ∈ fs, place eventTimes f < eventTimes.length := by
  induction fs generalizing attached with
  | nil =>
    cases h
    exact ⟨(List.append_nil _).symm, hn, by simp⟩
  | cons f fs ih =>
    rw [List.foldlM_cons] at h
    obtain ⟨next, hone, hrest⟩ := except_bind_ok.mp h
    unfold attachOne at hone
    obtain ⟨-, hone⟩ := except_guard_ok.mp hone
    cases htime : eventTimes[bisectLeft eventTimes f.fundingTime]? with
    | none =>
      simp only [htime] at hone
      cases hone
    | some t =>
      simp only [htime] at hone
      obtain ⟨-, hone⟩ := except_guard_ok.mp hone
      obtain ⟨hnew, hone⟩ := except_guard_ok.mp hone
      obtain rfl : attached ++ [(place eventTimes f, f)] = next := Except.ok.inj hone
      obtain ⟨hlt, -⟩ := List.getElem?_eq_some_iff.mp htime
      have hnext : ((attached ++ [(place eventTimes f, f)]).map Prod.fst).Nodup := by
        rw [List.map_append, List.nodup_append]
        refine ⟨hn, List.nodup_singleton _, ?_⟩
        rintro i hi j hj rfl
        exact hnew (by rwa [List.mem_singleton.mp hj] at hi)
      obtain ⟨rfl, hout, hplaces⟩ := ih hnext hrest
      refine ⟨by simp [place], hout, fun g hg => ?_⟩
      rcases List.mem_cons.mp hg with rfl | hg
      · exact hlt
      · exact hplaces g hg

variable {fs fs' : List FundingRateObservation} {attached : List (ℕ × FundingRateObservation)}

/-- What is attached: every observation at its place, and no two at one. -/
theorem attachFunding_ok (h : attachFunding seconds eventTimes fs symbol tolerance = .ok attached) :
    (attached.map Prod.fst).Nodup ∧
      (∀ i f, (i, f) ∈ attached ↔ f ∈ fs ∧ place eventTimes f = i) ∧
      (∀ f ∈ fs, place eventTimes f < eventTimes.length) ∧ (fs.map (place eventTimes)).Nodup := by
  have hnil : (([] : List (ℕ × FundingRateObservation)).map Prod.fst).Nodup := List.nodup_nil
  obtain ⟨rfl, hnodup, hplaces⟩ := foldlM_attachOne_ok hnil h
  refine ⟨hnodup, fun i f => ?_, fun f hf => hplaces f (mem_sortedBy.mpr hf), ?_⟩
  · simp only [List.nil_append, List.mem_map, mem_sortedBy, Prod.mk.injEq]
    constructor
    · rintro ⟨g, hg, rfl, rfl⟩
      exact ⟨hg, rfl⟩
    · rintro ⟨hf, rfl⟩
      exact ⟨f, hf, rfl, rfl⟩
  · rw [List.nil_append, List.map_map] at hnodup
    exact ((List.perm_insertionSort _ fs).map _).nodup_iff.mp hnodup

theorem attachFunding_perm (hperm : fs.Perm fs')
    (h : attachFunding seconds eventTimes fs symbol tolerance = .ok attached) :
    attachFunding seconds eventTimes fs' symbol tolerance = .ok attached := by
  have htimes : (fs.map FundingRateObservation.fundingTime).Nodup :=
    List.pairwise_map.mpr ((List.pairwise_map.mp (attachFunding_ok h).2.2.2).imp fun hne heq =>
      hne (congrArg (bisectLeft eventTimes) heq))
  have hsorted : sortedBy FundingRateObservation.fundingTime fs' =
      sortedBy FundingRateObservation.fundingTime fs := by
    refine eq_of_mem_iff (sortedBy_strict ((hperm.map _).nodup_iff.mp htimes))
      (sortedBy_strict htimes)
      fun f => ?_
    rw [mem_sortedBy, mem_sortedBy, hperm.mem_iff]
  unfold attachFunding at h ⊢
  rw [hsorted]
  exact h

/-- The observation that is attached at an index. -/
theorem lookup_attached (h : attachFunding seconds eventTimes fs symbol tolerance = .ok attached)
    {i : ℕ} {f : FundingRateObservation} : (lookup Prod.fst i attached).map Prod.snd = some f ↔
      f ∈ fs ∧ place eventTimes f = i := by
  obtain ⟨hnodup, hmem, -⟩ := attachFunding_ok h
  rw [← hmem, Option.map_eq_some_iff]
  constructor
  · rintro ⟨⟨j, g⟩, hlookup, rfl⟩
    have hj : j = i := key_of_lookup hlookup
    exact hj ▸ mem_of_lookup hlookup
  · exact fun hif => ⟨(i, f), lookup_of_mem hnodup hif, rfl⟩

end Funding

/-! ### The join -/

section Join

variable {seconds : ℤ → ℚ} {isalnum : Char → Bool} {o : Options} {symbol : String}
    {kline : KlineObservation} {mark : MarkPriceObservation} {book : BookTickerObservation}
    {funding : Option FundingRateObservation} {e : HistoricalMarketEvent}

theorem newEvent_carries (h : newEvent o symbol kline mark book funding = .ok e) :
    Carries e kline mark book funding := by
  unfold newEvent at h
  obtain ⟨-, h⟩ := except_guard_ok.mp h
  split_ifs at h with hsource hvenue hsupported
  · cases h
    exact ⟨rfl, ⟨rfl, rfl, rfl, rfl⟩, ⟨rfl, rfl⟩, ⟨rfl, rfl, rfl, rfl⟩, rfl, ⟨rfl, rfl⟩⟩
  all_goals cases h

theorem joinOne_ok {marks : List MarkPriceObservation} {books : List BookTickerObservation}
    {attached : List (ℕ × FundingRateObservation)} {index : ℕ}
    (h : joinOne seconds o symbol marks books attached (kline, index) = .ok e) :
    ∃ mark book, lookup MarkPriceObservation.openTimeMs kline.openTimeMs marks = some mark ∧
      mark.eventTime ≤ kline.eventTime ∧
      (books.take (bisectRight (books.map (·.eventTime)) kline.eventTime)).getLast? = some book ∧
      seconds (kline.eventTime - book.eventTime) ≤ o.maxBookAgeSec ∧
      newEvent o symbol kline mark book ((lookup Prod.fst index attached).map Prod.snd) =
      .ok e := by
  unfold joinOne at h
  dsimp only at h
  cases hmark : lookup MarkPriceObservation.openTimeMs kline.openTimeMs marks with
  | none =>
    simp only [hmark] at h
    cases h
  | some mark =>
    simp only [hmark] at h
    obtain ⟨htime, h⟩ := except_guard_ok.mp h
    cases hbook : (books.take (bisectRight (books.map (·.eventTime)) kline.eventTime)).getLast? with
    | none =>
      simp only [hbook] at h
      cases h
    | some book =>
      simp only [hbook] at h
      obtain ⟨hage, h⟩ := except_guard_ok.mp h
      exact ⟨mark, book, rfl, not_lt.mp htime, rfl, not_lt.mp (not_or.mp hage).2, h⟩

theorem pairwise_of_steps {events : List HistoricalMarketEvent} {us : List Unit}
    (h : (events.zip events.tail).mapM (checkStep seconds) = .ok us) :
    events.Pairwise fun a b => a.eventTime < b.eventTime := by
  have hsteps : ∀ pair ∈ events.zip events.tail, pair.1.eventTime < pair.2.eventTime := by
    intro pair hpair
    obtain ⟨u, -, hu⟩ := forall₂_mem_left (except_mapM_ok.mp h) hpair
    unfold checkStep at hu
    obtain ⟨hlt, -⟩ := except_guard_ok.mp hu
    exact not_le.mp hlt
  have htrans : IsTrans HistoricalMarketEvent fun a b => a.eventTime < b.eventTime :=
    ⟨fun _ _ _ => lt_trans⟩
  exact List.isChain_iff_pairwise.mp (isChain_of_zip_tail hsteps)

theorem validate_ok {events out : List HistoricalMarketEvent}
    (h : validateHistoricalEvents seconds events = .ok out) :
    out = events ∧ events.Pairwise fun a b => a.eventTime < b.eventTime := by
  cases events with
  | nil => cases h
  | cons first rest =>
    unfold validateHistoricalEvents at h
    obtain ⟨us, hsteps, h⟩ := except_bind_ok.mp h
    obtain ⟨ids, -, h⟩ := except_bind_ok.mp h
    cases h
    exact ⟨rfl, pairwise_of_steps hsteps⟩

theorem build_ok {s : Source} {events : List HistoricalMarketEvent}
    (h : buildHistoricalEvents seconds isalnum o s = .ok events) :
    ∃ symbol klines marks books attached, uniqueKlines s.klineRows = .ok klines ∧
      uniqueMarkPrices s.markPriceRows = .ok marks ∧
      sortedBookTickers s.bookTickerRows = .ok books ∧
      attachFunding seconds (klines.map (·.eventTime)) s.fundingRates symbol o.fundingToleranceSec =
        .ok attached ∧
      normaliseSymbol isalnum o.symbol = .ok symbol ∧
      List.Forall₂ (fun item e => joinOne seconds o symbol marks books attached item = .ok e)
        klines.zipIdx events ∧
      events.Pairwise fun a b => a.eventTime < b.eventTime := by
  unfold buildHistoricalEvents at h
  obtain ⟨-, -, h⟩ := except_bind_ok.mp h
  obtain ⟨symbol, hsymbol, h⟩ := except_bind_ok.mp h
  obtain ⟨klines, hklines, h⟩ := except_bind_ok.mp h
  obtain ⟨marks, hmarks, h⟩ := except_bind_ok.mp h
  obtain ⟨books, hbooks, h⟩ := except_bind_ok.mp h
  obtain ⟨attached, hattached, h⟩ := except_bind_ok.mp h
  obtain ⟨built, hbuilt, h⟩ := except_bind_ok.mp h
  obtain ⟨rfl, hstrict⟩ := validate_ok h
  exact ⟨symbol, klines, marks, books, attached, hklines, hmarks, hbooks, hattached, hsymbol,
    except_mapM_ok.mp hbuilt, hstrict⟩

theorem eventTimes_eq {klines : List KlineObservation} {marks : List MarkPriceObservation}
    {books : List BookTickerObservation} {attached : List (ℕ × FundingRateObservation)}
    {events : List HistoricalMarketEvent}
    (h : List.Forall₂ (fun item e => joinOne seconds o symbol marks books attached item = .ok e)
      klines.zipIdx events) : klines.map (·.eventTime) = events.map (·.eventTime) := by
  have htimes : List.Forall₂ (· = ·) (klines.zipIdx.map (·.1.eventTime))
      (events.map (·.eventTime)) := by
    rw [List.forall₂_map_left_iff, List.forall₂_map_right_iff]
    refine h.imp fun item e hjoin => ?_
    obtain ⟨mark, book, -, -, -, -, hnew⟩ := joinOne_ok hjoin
    exact (newEvent_carries hnew).time.symm
  rw [List.forall₂_eq_eq_eq] at htimes
  rw [← htimes, ← List.zipIdx_map_fst 0 klines, List.map_map, List.zipIdx_map_fst]
  rfl

theorem klines_strict {klines : List KlineObservation} {marks : List MarkPriceObservation}
    {books : List BookTickerObservation} {attached : List (ℕ × FundingRateObservation)}
    {events : List HistoricalMarketEvent}
    (h : List.Forall₂ (fun item e => joinOne seconds o symbol marks books attached item = .ok e)
      klines.zipIdx events) (hstrict : events.Pairwise fun a b => a.eventTime < b.eventTime) :
    klines.Pairwise fun a b => a.eventTime < b.eventTime := by
  have hmap : (klines.map (·.eventTime)).Pairwise (· < ·) := by
    rw [eventTimes_eq h]
    exact List.pairwise_map.mpr hstrict
  exact List.pairwise_map.mp hmap

/-- A kline is the first one at or after a funding if the funding is placed at it. -/
theorem place_eq_iff {rows : List Json} {klines : List KlineObservation}
    (hklines : uniqueKlines rows = .ok klines)
    (hstrict : klines.Pairwise fun a b => a.eventTime < b.eventTime) {i : ℕ}
    (hi : klines[i]? = some kline) {f : FundingRateObservation} :
    place (klines.map (·.eventTime)) f = i ↔
    f.fundingTime ≤ kline.eventTime ∧
      ∀ other, Observed parseVisionKlineRow rows other → f.fundingTime ≤ other.eventTime →
        kline.eventTime ≤ other.eventTime := by
  have htimes : (klines.map (·.eventTime)).Pairwise (· ≤ ·) :=
    List.pairwise_map.mpr (hstrict.imp le_of_lt)
  have hplace : klines[place (klines.map (·.eventTime)) f]? =
      klines.find? fun k => f.fundingTime ≤ k.eventTime := getElem?_bisectLeft htimes f.fundingTime
  have hmem : kline ∈ klines := List.mem_of_getElem? hi
  have hfirst : klines.find? (fun k => f.fundingTime ≤ k.eventTime) = some kline ↔
      f.fundingTime ≤ kline.eventTime ∧ ∀ other, Observed parseVisionKlineRow rows other →
        f.fundingTime ≤ other.eventTime → kline.eventTime ≤ other.eventTime := by
    rw [find?_iff hstrict]
    simp only [hmem, decide_eq_true_eq, true_and, mem_uniqueKlines hklines]
  rw [← hfirst, ← hplace]
  constructor
  · rintro rfl
    exact hi
  · intro hsame
    have hnodup : klines.Nodup := hstrict.imp fun hlt heq => absurd (heq ▸ hlt) (lt_irrefl _)
    obtain ⟨hlt, -⟩ := List.getElem?_eq_some_iff.mp hsame
    exact (List.getElem?_inj hlt hnodup).mp (hsame.trans hi.symm)

variable {s s' : Source} {events events' : List HistoricalMarketEvent}

/-- **The events of a build**: those made of what is observed. -/
theorem mem_events (h : buildHistoricalEvents seconds isalnum o s = .ok events) :
    ∃ symbol, normaliseSymbol isalnum o.symbol = .ok symbol ∧
      (∀ kline, ObservesKline s kline → ∃ e ∈ events, ∃ mark book funding,
        Joined seconds o s kline mark book funding ∧
          newEvent o symbol kline mark book funding = .ok e) ∧
      ∀ e ∈ events, ∃ kline mark book funding, Joined seconds o s kline mark book funding ∧
        newEvent o symbol kline mark book funding = .ok e := by
  obtain ⟨symbol, klines, marks, books, attached, hklines, hmarks, hbooks, hattached, hsymbol,
      hall, hstrict⟩ :=
    build_ok h
  have htimes := klines_strict hall hstrict
  have hjoined (kline : KlineObservation) (i : ℕ) (e : HistoricalMarketEvent)
      (hi : klines[i]? = some kline)
      (hjoin : joinOne seconds o symbol marks books attached (kline, i) = .ok e) :
      ∃ mark book funding, Joined seconds o s kline mark book funding ∧
        newEvent o symbol kline mark book funding = .ok e := by
    obtain ⟨mark, book, hmark, htime, hbook, hfresh, hnew⟩ := joinOne_ok hjoin
    obtain ⟨hobserved, hopen⟩ := (lookup_collect (uniqueMarkPrices_ok hmarks).1).mp hmark
    refine ⟨mark, book, _, ⟨?_, hobserved, hopen, htime, (latest_iff hbooks).mp hbook, hfresh,
      fun f => ?_⟩, hnew⟩
    · exact (mem_uniqueKlines hklines).mp (List.mem_of_getElem? hi)
    · rw [lookup_attached hattached, place_eq_iff hklines htimes hi]
      rfl
  refine ⟨symbol, hsymbol, fun kline hkline => ?_, fun e he => ?_⟩
  · obtain ⟨i, hi⟩ := List.mem_iff_getElem?.mp ((mem_uniqueKlines hklines).mpr hkline)
    obtain ⟨e, he, hjoin⟩ := forall₂_mem_left hall (List.mk_mem_zipIdx_iff_getElem?.mpr hi)
    exact ⟨e, he, hjoined kline i e hi hjoin⟩
  · obtain ⟨⟨kline, i⟩, hitem, hjoin⟩ := forall₂_mem_right hall he
    exact ⟨kline, hjoined kline i e (List.mk_mem_zipIdx_iff_getElem?.mp hitem) hjoin⟩

theorem events_strict (h : buildHistoricalEvents seconds isalnum o s = .ok events) :
    events.Pairwise fun a b => a.eventTime < b.eventTime := by
  obtain ⟨_, _, _, _, _, -, -, -, -, -, -, hstrict⟩ := build_ok h
  exact hstrict

theorem eq_of_eventTime (h : buildHistoricalEvents seconds isalnum o s = .ok events)
    {e' : HistoricalMarketEvent} (he : e ∈ events) (he' : e' ∈ events)
    (htime : e.eventTime = e'.eventTime) : e = e' := by
  have hnodup : (events.map (·.eventTime)).Nodup :=
    List.pairwise_map.mpr ((events_strict h).imp fun hlt => ne_of_lt hlt)
  exact List.inj_on_of_nodup_map hnodup he he' htime

/-- What an event is made of is determined by its kline. -/
theorem Joined.unique (h : buildHistoricalEvents seconds isalnum o s = .ok events)
    (hj : Joined seconds o s kline mark book funding) {mark' : MarkPriceObservation}
    {book' : BookTickerObservation} {funding' : Option FundingRateObservation}
    (hj' : Joined seconds o s kline mark' book' funding') :
    mark' = mark ∧ book' = book ∧ funding' = funding := by
  obtain ⟨_, _, _, _, _, -, hmarks, hbooks, -⟩ := build_ok h
  obtain ⟨t, ht, -⟩ := sortedBookTickers_ok hbooks
  refine ⟨?_, ?_, Option.ext fun f => (hj'.settled f).trans (hj.settled f).symm⟩
  · exact observed_unique (uniqueMarkPrices_ok hmarks).1 hj'.marked hj.marked
      (hj'.sameOpen.trans hj.sameOpen.symm)
  · obtain ⟨hobserved, htime, hmax⟩ := hj.quoted
    obtain ⟨hobserved', htime', hmax'⟩ := hj'.quoted
    have hrank : bookRank book' = bookRank book :=
      le_antisymm (hmax book' hobserved' htime') (hmax' book hobserved htime)
    exact observed_unique ht hobserved' hobserved (updateId_of_bookRank _ _ hrank)

theorem AgreeUntil.symm {t : ℤ} (hagree : AgreeUntil t s s') : AgreeUntil t s' s :=
  ⟨fun k hk => (hagree.klines k hk).symm, fun m hm => (hagree.marks m hm).symm,
    fun b hb => (hagree.books b hb).symm, fun f hf => (hagree.funding f hf).symm⟩

/-- What an event is made of does not depend on later observations. -/
theorem Joined.transfer {t : ℤ} (hagree : AgreeUntil t s s') (hk : kline.eventTime ≤ t)
    (hj : Joined seconds o s kline mark book funding) :
    Joined seconds o s' kline mark book funding := by
  obtain ⟨hobserved, htime, hmax⟩ := hj.quoted
  have hquoted : LatestBook s' kline.eventTime book := by
    refine ⟨(hagree.books book (htime.trans hk)).mp hobserved, htime, fun other hother hle => ?_⟩
    exact hmax other ((hagree.books other (hle.trans hk)).mpr hother) hle
  have hfirst {u u' : Source} (huu : AgreeUntil t u u') (f : FundingRateObservation)
      (hf : FirstKline u f.fundingTime kline) : FirstKline u' f.fundingTime kline := by
    refine ⟨hf.1, fun other hother hle => ?_⟩
    by_cases hlate : other.eventTime ≤ t
    · exact hf.2 other ((huu.klines other hlate).mpr hother) hle
    · exact hk.trans (le_of_lt (not_le.mp hlate))
  refine ⟨(hagree.klines kline hk).mp hj.observed,
    (hagree.marks mark (hj.markTime.trans hk)).mp hj.marked,
    hj.sameOpen, hj.markTime, hquoted, hj.fresh, fun f => (hj.settled f).trans ?_⟩
  constructor
  · rintro ⟨hf, hkline⟩
    exact ⟨(hagree.funding f (hkline.1.trans hk)).mp hf, hfirst hagree f hkline⟩
  · rintro ⟨hf, hkline⟩
    exact ⟨(hagree.funding f (hkline.1.trans hk)).mpr hf, hfirst hagree.symm f hkline⟩

/-- An event up to an instant is an event of every source that agrees until then. -/
theorem mem_of_agree {t : ℤ} (h : buildHistoricalEvents seconds isalnum o s = .ok events)
    (h' : buildHistoricalEvents seconds isalnum o s' = .ok events') (hagree : AgreeUntil t s s')
    (he : e ∈ events) (ht : e.eventTime ≤ t) : e ∈ events' := by
  obtain ⟨symbol, hsymbol, -, hmade⟩ := mem_events h
  obtain ⟨symbol', hsymbol', hevents', -⟩ := mem_events h'
  obtain rfl : symbol = symbol' := by simpa [hsymbol] using hsymbol'
  obtain ⟨kline, mark, book, funding, hj, hnew⟩ := hmade e he
  have hk : kline.eventTime ≤ t := (newEvent_carries hnew).time ▸ ht
  have hj' : Joined seconds o s' kline mark book funding := hj.transfer hagree hk
  obtain ⟨e', he', mark', book', funding', hj'', hnew'⟩ := hevents' kline hj'.observed
  obtain ⟨rfl, rfl, rfl⟩ := hj'.unique h' hj''
  obtain rfl : e = e' := by simpa [hnew] using hnew'
  exact he'

/-- Up to an instant the events depend only on what is observed until then. -/
theorem filter_of_agree {t : ℤ} (h : buildHistoricalEvents seconds isalnum o s = .ok events)
    (h' : buildHistoricalEvents seconds isalnum o s' = .ok events') (hagree : AgreeUntil t s s') :
    events'.filter (fun e => e.eventTime ≤ t) = events.filter fun e => e.eventTime ≤ t := by
  refine eq_of_mem_iff ((events_strict h').filter _) ((events_strict h).filter _) fun e => ?_
  simp only [List.mem_filter, decide_eq_true_eq]
  constructor
  · exact fun ⟨he, ht⟩ => ⟨mem_of_agree h' h hagree.symm he ht, ht⟩
  · exact fun ⟨he, ht⟩ => ⟨mem_of_agree h h' hagree he ht, ht⟩

/-- The order of the rows and their repetitions do not matter. -/
theorem build_congr (hrows : SameRows s s')
    (h : buildHistoricalEvents seconds isalnum o s = .ok events) :
    buildHistoricalEvents seconds isalnum o s' = .ok events := by
  unfold buildHistoricalEvents at h ⊢
  obtain ⟨u, hoptions, h⟩ := except_bind_ok.mp h
  obtain ⟨symbol, hsymbol, h⟩ := except_bind_ok.mp h
  obtain ⟨klines, hklines, h⟩ := except_bind_ok.mp h
  obtain ⟨marks, hmarks, h⟩ := except_bind_ok.mp h
  obtain ⟨books, hbooks, h⟩ := except_bind_ok.mp h
  obtain ⟨attached, hattached, h⟩ := except_bind_ok.mp h
  obtain ⟨marks', hmarks', hlookup⟩ := uniqueMarkPrices_congr hrows.marks hmarks
  have hjoin : joinOne seconds o symbol marks' books attached =
      joinOne seconds o symbol marks books attached := by
    funext item
    unfold joinOne
    dsimp only
    rw [hlookup]
  refine except_bind_ok.mpr ⟨u, hoptions, except_bind_ok.mpr ⟨symbol, hsymbol, ?_⟩⟩
  refine except_bind_ok.mpr ⟨klines, uniqueKlines_congr hrows.klines hklines, ?_⟩
  refine except_bind_ok.mpr ⟨marks', hmarks', ?_⟩
  refine except_bind_ok.mpr ⟨books, sortedBookTickers_congr hrows.books hbooks, ?_⟩
  refine except_bind_ok.mpr ⟨attached, attachFunding_perm hrows.funding hattached, ?_⟩
  rw [hjoin]
  exact h

/-- The event of a kline is the first one at or after an instant if the kline is. -/
theorem firstEvent_iff (h : buildHistoricalEvents seconds isalnum o s = .ok events)
    (he : e ∈ events) (htime : e.eventTime = kline.eventTime) {t : ℤ} : FirstEvent events t e ↔
    FirstKline s t kline := by
  obtain ⟨symbol, -, hevents, hmade⟩ := mem_events h
  unfold FirstEvent FirstKline
  rw [htime]
  constructor
  · rintro ⟨-, hle, hmin⟩
    refine ⟨hle, fun other hother hlate => ?_⟩
    obtain ⟨e', he', mark, book, funding, -, hnew⟩ := hevents other hother
    have htime' : e'.eventTime = other.eventTime := (newEvent_carries hnew).time
    exact htime' ▸ hmin e' he' (htime'.symm ▸ hlate)
  · rintro ⟨hle, hmin⟩
    refine ⟨he, hle, fun e' he' hlate => ?_⟩
    obtain ⟨other, mark, book, funding, hj, hnew⟩ := hmade e' he'
    have htime' : e'.eventTime = other.eventTime := (newEvent_carries hnew).time
    exact htime'.symm ▸ hmin other hj.observed (htime' ▸ hlate)

/-- Every funding has a first kline, and no two funding observations are the same. -/
theorem exists_firstKline (h : buildHistoricalEvents seconds isalnum o s = .ok events) :
    s.fundingRates.Nodup ∧ ∀ f ∈ s.fundingRates, ∃ kline, ObservesKline s kline ∧
      FirstKline s f.fundingTime kline := by
  obtain ⟨symbol, klines, marks, books, attached, hklines, -, -, hattached, -, hall, hstrict⟩ :=
    build_ok h
  obtain ⟨-, -, hplaces, hnodup⟩ := attachFunding_ok hattached
  have htimes := klines_strict hall hstrict
  refine ⟨hnodup.of_map _, fun f hf => ?_⟩
  have hlt : place (klines.map (·.eventTime)) f < klines.length := by
    simpa using hplaces f hf
  have hi := List.getElem?_eq_getElem hlt
  exact ⟨_, (mem_uniqueKlines hklines).mp (List.mem_of_getElem? hi),
    (place_eq_iff hklines htimes hi).mp rfl⟩

theorem existsUnique_event (h : buildHistoricalEvents seconds isalnum o s = .ok events)
    (hkline : ObservesKline s kline) : ∃! e, e ∈ events ∧ ∃ mark book funding,
      Joined seconds o s kline mark book funding ∧ Carries e kline mark book funding := by
  obtain ⟨symbol, -, hevents, -⟩ := mem_events h
  obtain ⟨e, he, mark, book, funding, hj, hnew⟩ := hevents kline hkline
  refine ⟨e, ⟨he, mark, book, funding, hj, newEvent_carries hnew⟩, ?_⟩
  rintro e' ⟨he', mark', book', funding', -, hcarries⟩
  exact eq_of_eventTime h he' he (hcarries.time.trans (newEvent_carries hnew).time.symm)

/-- Every funding is carried by one event, the first one at or after it. -/
theorem existsUnique_settlement (h : buildHistoricalEvents seconds isalnum o s = .ok events)
    {f : FundingRateObservation} (hf : f ∈ s.fundingRates) :
    ∃! e, FirstEvent events f.fundingTime e ∧ e.fundingRate = some f.fundingRate := by
  obtain ⟨symbol, -, hevents, -⟩ := mem_events h
  obtain ⟨kline, hkline, hfirst⟩ := (exists_firstKline h).2 f hf
  obtain ⟨e, he, mark, book, funding, hj, hnew⟩ := hevents kline hkline
  have hcarries := newEvent_carries hnew
  have hsettled : funding = some f := (hj.settled f).mpr ⟨hf, hfirst⟩
  refine ⟨e, ⟨(firstEvent_iff h he hcarries.time).mpr hfirst, ?_⟩, ?_⟩
  · rw [hcarries.funding.1, hsettled]
    rfl
  · rintro e' ⟨⟨he', hle', hmin'⟩, -⟩
    obtain ⟨-, hle, hmin⟩ := (firstEvent_iff h he hcarries.time).mpr hfirst
    exact eq_of_eventTime h he' he (le_antisymm (hmin' e he hle) (hmin e' he' hle'))

/-- An event that carries funding carries that of one observation. -/
theorem existsUnique_funding (h : buildHistoricalEvents seconds isalnum o s = .ok events)
    (he : e ∈ events) (hfunding : e.fundingRate.isSome = true) :
    ∃! f, f ∈ s.fundingRates ∧ FirstEvent events f.fundingTime e := by
  obtain ⟨symbol, -, -, hmade⟩ := mem_events h
  obtain ⟨kline, mark, book, funding, hj, hnew⟩ := hmade e he
  have hcarries := newEvent_carries hnew
  rw [hcarries.funding.1, Option.isSome_map] at hfunding
  obtain ⟨f, rfl⟩ := Option.isSome_iff_exists.mp hfunding
  obtain ⟨hf, hfirst⟩ := (hj.settled f).mp rfl
  refine ⟨f, ⟨hf, (firstEvent_iff h he hcarries.time).mpr hfirst⟩, ?_⟩
  rintro g ⟨hg, hfirst'⟩
  have hsome : some f = some g :=
    (hj.settled g).mpr ⟨hg, (firstEvent_iff h he hcarries.time).mp hfirst'⟩
  exact (Option.some.inj hsome).symm

/-- **No look-ahead.** What a build returns depends neither on the order of the rows nor on
repetitions; every kline has one event, which carries the last quote and the mark price observed
until its close; every funding is carried by one event, the first one at or after it; and up to any
instant the events are those of every source that observes the same until then. -/
theorem build_causal (h : buildHistoricalEvents seconds isalnum o s = .ok events) :
    (∀ s', SameRows s s' → buildHistoricalEvents seconds isalnum o s' = .ok events) ∧
    (∀ kline, ObservesKline s kline → ∃! e, e ∈ events ∧ ∃ mark book funding,
      Joined seconds o s kline mark book funding ∧ Carries e kline mark book funding) ∧
    (∀ e ∈ events, ∃ kline mark book funding,
      Joined seconds o s kline mark book funding ∧ Carries e kline mark book funding) ∧
    (s.fundingRates.Nodup ∧ ∀ f ∈ s.fundingRates,
      ∃! e, FirstEvent events f.fundingTime e ∧ e.fundingRate = some f.fundingRate) ∧
    (∀ e ∈ events, e.fundingRate.isSome = true →
      ∃! f, f ∈ s.fundingRates ∧ FirstEvent events f.fundingTime e) ∧
    ∀ t s' events', AgreeUntil t s s' → buildHistoricalEvents seconds isalnum o s' = .ok events' →
      events'.filter (fun e => e.eventTime ≤ t) = events.filter fun e => e.eventTime ≤ t := by
  refine ⟨fun s' hrows => build_congr hrows h, fun kline => existsUnique_event h, fun e he => ?_,
    ⟨(exists_firstKline h).1, fun f => existsUnique_settlement h⟩, fun e => existsUnique_funding h,
    fun t s' events' hagree h' => filter_of_agree h h' hagree⟩
  obtain ⟨symbol, -, -, hmade⟩ := mem_events h
  obtain ⟨kline, mark, book, funding, hj, hnew⟩ := hmade e he
  exact ⟨kline, mark, book, funding, hj, newEvent_carries hnew⟩

end Join

/-! ### A dataset -/

/-- A row of texts. -/
def textRow (cells : List String) : Json := .arr (cells.map Json.str)

/-- Two minutes with quotes, out of order and repeated, and a funding at the end of the first
one. -/
def sampleSource : Source where
  klineRows := [
    textRow ["open_time", "open", "high", "low", "close", "volume", "close_time", "quote", "count"],
    textRow ["1700000100000", "10", "12", "9", "11", "5", "1700000159999", "0", "3"],
    textRow ["1700000040000", "10", "11", "9", "10", "5", "1700000099999", "0", "2"],
    textRow ["1700000040000", "10", "11", "9", "10", "5", "1700000099999", "0", "2"]]
  markPriceRows := [
    textRow ["1700000040000", "10", "11", "9", "10.5", "0", "1700000099999"],
    textRow ["1700000100000", "10", "11", "9", "10.75", "0", "1700000159999"]]
  bookTickerRows := [
    textRow ["8", "10.9", "1", "11", "1", "1700000150000", "1700000150000"],
    textRow ["7", "9.9", "1", "10", "1", "1700000090000", "1700000090000"],
    textRow ["9", "12", "1", "13", "1", "1700000170000", "1700000170000"]]
  fundingRates := [⟨"ETHUSDC", 1700000099999000, 1 / 10000⟩]

theorem build_causal_sample : ∃ events,
    buildHistoricalEvents (fun us => us / 1000000) Char.isAlphanum ⟨"ethusdc", "BINANCE_MAINNET",
      "BINANCE_PUBLIC_MAINNET_READ_ONLY", 60, 60⟩ sampleSource = .ok events ∧
      ∀ f ∈ sampleSource.fundingRates,
        ∃! e, FirstEvent events f.fundingTime e ∧ e.fundingRate = some f.fundingRate := by
  obtain ⟨events, h⟩ :
      ∃ events, buildHistoricalEvents (fun us => us / 1000000) Char.isAlphanum ⟨"ethusdc",
      "BINANCE_MAINNET", "BINANCE_PUBLIC_MAINNET_READ_ONLY", 60, 60⟩ sampleSource = .ok events := by
    refine exists_of_toBool ?_
    decide +kernel
  exact ⟨events, h, (build_causal h).2.2.2.1.2⟩

end Blessing.Backtest.NoLookAhead
