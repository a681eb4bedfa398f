import Blessing.Lib.ExactSum
import Blessing.Binance.Recovery

/-! # The loss of the day

`BinanceReconciliation._daily_realized_pnl` against an exchange that serves a list of income rows in
pages. The sum it returns is that of the whole list, or it is unknown. -/

namespace Blessing.Binance.DailyLoss

open Blessing.Lib Blessing.Lib.Values Blessing.Lib.Effects
open Blessing.Binance.Models Blessing.Binance.Account Blessing.Binance.Ledger
    Blessing.Binance.RestClient
open Blessing.Binance.Recovery

/-! ### Rows -/

/-- The income of the pair that counts. -/
def qualifies (item : Json) : Bool :=
  normalized (getOr item "asset" (.str "")) = "USDC" ∧
  normalized (getOr item "symbol" (.str "")) = "ETHUSDC" ∧
    ["REALIZED_PNL", "COMMISSION", "FUNDING_FEE"].contains
      (normalized (getOr item "incomeType" (.str "")))

/-- The income of a row, if it is present, numeric and finite. -/
def incomeOf (item : Json) : Option Decimal :=
  if (item.get "income").isBlank then none
  else (decimalOf (item.get "income")).bind Decimal.Number.finite?

/-- A row that is an object, with a known income if it counts. -/
def Usable (item : Json) : Prop :=
  item.isObj = true ∧ (qualifies item = true → (incomeOf item).isSome = true)

instance (item : Json) : Decidable (Usable item) := inferInstanceAs (Decidable (_ ∧ _))

/-- The incomes that count. -/
def incomes (rows : List Json) : List Decimal :=
  rows.filterMap fun item => if qualifies item then incomeOf item else none

/-- A row that counts adds its income, or makes the sum unknown. -/
theorem addIncome_qualifying {item : Json} (hobj : item.isObj = true)
    (hqualifies : qualifies item = true) (total : Decimal) (rest : List Json) :
    addIncome total (item :: rest) = (incomeOf item).bind fun d =>
      addIncome (total.add d) rest := by
  obtain ⟨hasset, hsymbol, htype⟩ := of_decide_eq_true hqualifies
  have hpair : ¬ (normalized (getOr item "asset" (.str "")) ≠ "USDC" ∨
      normalized (getOr item "symbol" (.str "")) ≠ "ETHUSDC") :=
    not_or.mpr ⟨not_not.mpr hasset, not_not.mpr hsymbol⟩
  rw [addIncome, if_neg (by simp [hobj]), if_neg hpair, if_neg (not_not.mpr htype), incomeOf]
  split_ifs with hblank
  · rfl
  · cases decimalOf (item.get "income") with
    | none => rfl
    | some number => cases number <;> rfl

theorem addIncome_skipped {item : Json} (hobj : item.isObj = true)
    (hskipped : qualifies item = false) (total : Decimal) (rest : List Json) :
    addIncome total (item :: rest) = addIncome total rest := by
  rw [addIncome, if_neg (by simp [hobj])]
  by_cases hpair : normalized (getOr item "asset" (.str "")) ≠ "USDC" ∨
      normalized (getOr item "symbol" (.str "")) ≠ "ETHUSDC"
  · rw [if_pos hpair]
  · rw [if_neg hpair, if_pos]
    obtain ⟨hasset, hsymbol⟩ := not_or.mp hpair
    intro htype
    have hcounts : qualifies item = true :=
      decide_eq_true ⟨not_not.mp hasset, not_not.mp hsymbol, htype⟩
    exact absurd hcounts (ne_true_of_eq_false hskipped)

theorem addIncome_eq (total : Decimal) (rows : List Json) :
    addIncome total rows = if ∀ item ∈ rows, Usable item then
      some ((incomes rows).foldl Decimal.add total)
      else none := by
  induction rows generalizing total with
  | nil => rfl
  | cons item rest ih =>
    simp only [List.forall_mem_cons]
    by_cases hobj : item.isObj = true
    · cases hqualifies : qualifies item with
      | true =>
        rw [addIncome_qualifying hobj hqualifies, incomes, List.filterMap_cons]
        simp only [hqualifies, if_true]
        cases hincome : incomeOf item with
        | none =>
          have hunusable : ¬ Usable item := fun h => by simpa [hincome] using h.2 hqualifies
          rw [if_neg fun h => hunusable h.1]
          rfl
        | some d =>
          have husable : Usable item := ⟨hobj, fun _ => by rw [hincome]; rfl⟩
          simp only [husable, true_and]
          exact ih (total.add d)
      | false =>
        have husable : Usable item := ⟨hobj, fun h => by simp [hqualifies] at h⟩
        have hincomes : incomes (item :: rest) = incomes rest :=
          List.filterMap_cons_none (by rw [if_neg (by simp [hqualifies])])
        rw [addIncome_skipped hobj hqualifies, ih, hincomes]
        simp only [husable, true_and]
    · rw [addIncome, if_pos (by simpa using hobj), if_neg fun h => hobj h.1.1]

theorem addIncome_append (total : Decimal) (page rest : List Json) :
    addIncome total (page ++ rest) = (addIncome total page).bind fun t => addIncome t rest := by
  simp only [addIncome_eq, List.forall_mem_append]
  by_cases hpage : ∀ item ∈ page, Usable item
  · simp only [if_pos hpage, Option.bind_some, incomes, List.filterMap_append, List.foldl_append]
    simp only [eq_true hpage, true_and]
  · rw [if_neg hpage, if_neg fun h => hpage h.1]
    rfl

/-! ### Pages -/

/-- The request for a page of incomes. -/
def incomeRequest (client : Client) (start : ℤ) (page : ℕ) : Request :=
  ⟨incomePath client, [("symbol", .str "ETHUSDC"), ("startTime", .int (start / 1000)),
    ("endTime", .int (client.now / 1000)), ("page", .int page), ("limit", .int 1000)]⟩

/-- The exchange serves the rows in pages of 1000: page `p` holds the rows from `1000 (p - 1)`
on. -/
def Serves (client : Client) (rows : List Json) : Prop :=
  ∀ n start page, client.answer n (incomeRequest client start (page + 1)) =
    .ok (.arr ((rows.drop (1000 * page)).take 1000))

variable {client : Client} {rows : List Json}

theorem request_page (hserves : Serves client rows) (start : ℤ) (page : ℕ) (s : State) :
    ∃ s', (request client (incomeRequest client start (page + 1))).run s =
      .ok (.arr ((rows.drop (1000 * page)).take 1000)) s' ∧ s'.log.length = s.log.length + 1 := by
  refine ⟨{ s with log := s.log ++ [(incomeRequest client start (page + 1),
    .ok (.arr ((rows.drop (1000 * page)).take 1000)))] }, ?_, List.length_append⟩
  unfold request
  rw [run_get_bind, hserves]
  rfl

theorem incomePages_succ_run {start : ℤ} {fuel page : ℕ} {total : Decimal} {s t : State}
   
    (hrequest : (request client (incomeRequest client start (page + 1))).run s = .ok (.arr rows) t) :
    (incomePages client start (fuel + 1) (page + 1) total).run s =
      (match addIncome total rows with
      | none => pure none
      | some total =>
        if rows.length < 1000 then pure (some total)
        else incomePages client start fuel (page + 1 + 1) total : M (Option Decimal)).run t := by
  unfold incomeRequest at hrequest
  rw [incomePages]
  exact run_bind_of_ok hrequest

/-- The loop over the pages: what is left is summed up, if it fits into the requests that are
left. -/
theorem incomePages_run (hserves : Serves client rows) (start : ℤ) (fuel page : ℕ) (total : Decimal)
    (s : State) :
    ∃ s', (incomePages client start fuel (page + 1) total).run s =
      .ok (if (rows.drop (1000 * page)).length < 1000 * fuel then
        addIncome total (rows.drop (1000 * page))
        else none) s' ∧ s'.log.length ≤ s.log.length + fuel := by
  induction fuel generalizing page total s with
  | zero => exact ⟨s, rfl, le_rfl⟩
  | succ fuel ih =>
    obtain ⟨t, hrequest, hlog⟩ := request_page hserves start page s
    have hsplit := addIncome_append total ((rows.drop (1000 * page)).take 1000)
      ((rows.drop (1000 * page)).drop 1000)
    rw [List.take_append_drop] at hsplit
    have hnext : (rows.drop (1000 * page)).drop 1000 = rows.drop (1000 * (page + 1)) := by
      rw [List.drop_drop]
      congr 1
    rw [incomePages_succ_run hrequest]
    cases hpage : addIncome total ((rows.drop (1000 * page)).take 1000) with
    | none =>
      rw [hpage, Option.bind_none] at hsplit
      refine ⟨t, ?_, by omega⟩
      rw [hsplit, ite_self]
      rfl
    | some sum =>
      rw [hpage, Option.bind_some] at hsplit
      dsimp only
      have hlength : ((rows.drop (1000 * page)).take 1000).length = min 1000
          (rows.drop (1000 * page)).length :=
        List.length_take
      split_ifs with hshort hfits hfits
      · have hall : (rows.drop (1000 * page)).drop 1000 = [] := by
          exact List.drop_eq_nil_of_le (by omega)
        rw [hall] at hsplit
        exact ⟨t, by rw [hsplit]; rfl, by omega⟩
      · omega
      · obtain ⟨s', hloop, hlog'⟩ := ih (page + 1) sum t
        refine ⟨s', ?_, by omega⟩
        rw [hloop, if_pos, hsplit, hnext]
        rw [← hnext, List.length_drop]
        omega
      · obtain ⟨s', hloop, hlog'⟩ := ih (page + 1) sum t
        refine ⟨s', ?_, by omega⟩
        rw [hloop, if_neg]
        rw [← hnext, List.length_drop]
        omega

/-! ### The sum -/

/-- The incomes are summed up without rounding: they are multiples of one power of ten, and their
magnitudes stay below 28 of its digits together. -/
def SumsExactly (ds : List Decimal) : Prop :=
  ∃ e : ℤ, -999999 ≤ e ∧ e ≤ 0 ∧ (∀ d ∈ ds, e ≤ d.exp) ∧
    (ds.map fun d => |d.toRat|).sum < 10 ^ Decimal.prec * 10 ^ e

/-- What the loss of the day has to be: known only as the sum of the whole list, unknown for a list
that does not fit into the pages or has an unusable row. -/
def CompleteOrUnknown (client : Client) (rows : List Json) (s : State) : Prop :=
  ∃ total known s', (dailyRealizedPnl client).run s = .ok (total, known) s' ∧
    s'.log.length ≤ s.log.length + 100 ∧
    (known = true → ∃ t, total = some t ∧ t = Decimal.sum (incomes rows) ∧
      (SumsExactly (incomes rows) → t.toRat = ((incomes rows).map Decimal.toRat).sum) ∧
      (∀ item ∈ rows, Usable item) ∧ rows.length < 100000) ∧
    (100000 ≤ rows.length ∨ (∃ item ∈ rows, ¬ Usable item) → total = none ∧ known = false)

theorem sum_exact {ds : List Decimal} (h : SumsExactly ds) :
    (Decimal.sum ds).toRat = (ds.map Decimal.toRat).sum := by
  obtain ⟨e, -, he, hexps, hbound⟩ := h
  have hzero : (Decimal.ofNat 0).toRat = 0 := by decide +kernel
  have hsum := Decimal.foldl_add_exact (show e ≤ (Decimal.ofNat 0).exp from he) hexps
    (by rw [hzero, abs_zero, zero_add]; exact hbound)
  rw [hzero, zero_add] at hsum
  exact hsum

theorem dailyRealizedPnl_run (henv : client.env = .mainnet) (hserves : Serves client rows)
    (s : State) :
    ∃ s', (dailyRealizedPnl client).run s = .ok (if rows.length < 100000 ∧
      ∀ item ∈ rows, Usable item then
        (some (Decimal.sum (incomes rows)), true) else (none, false)) s' ∧
      s'.log.length ≤ s.log.length + 100 := by
  obtain ⟨s', hloop, hlog⟩ :=
    incomePages_run hserves (client.now - client.now % 86400000000) 100 0 (.ofNat 0)
    { s with dailyLossWindow := some (client.now - client.now % 86400000000,
        client.now - client.now % 86400000000 + 86400000000) }
  refine ⟨s', ?_, hlog⟩
  unfold dailyRealizedPnl
  rw [if_neg (by simp [henv]), run_modify_bind, run_tryCatch, run_bind_of_ok hloop]
  rw [Nat.mul_zero, List.drop_zero, addIncome_eq]
  by_cases hlength : rows.length < 100000
  · by_cases husable : ∀ item ∈ rows, Usable item
    · rw [if_pos hlength, if_pos husable, if_pos ⟨hlength, husable⟩]
      rfl
    · rw [if_pos hlength, if_neg husable, if_neg fun h => husable h.2]
      rfl
  · rw [if_neg hlength, if_neg fun h => hlength h.1]
    rfl

/-- **The loss of the day is complete or unknown**: what is returned is the sum over all rows that
the exchange has, and nothing is returned where that sum cannot be known. -/
theorem daily_loss_complete (henv : client.env = .mainnet) (hserves : Serves client rows)
    (s : State) : CompleteOrUnknown client rows s := by
  obtain ⟨s', hrun, hlog⟩ := dailyRealizedPnl_run henv hserves s
  by_cases hgood : rows.length < 100000 ∧ ∀ item ∈ rows, Usable item
  · rw [if_pos hgood] at hrun
    refine ⟨_, _, s', hrun, hlog, fun _ => ⟨_, rfl, rfl, sum_exact, hgood.2, hgood.1⟩, ?_⟩
    rintro (hlong | ⟨item, hitem, hbad⟩)
    · omega
    · exact absurd (hgood.2 item hitem) hbad
  · rw [if_neg hgood] at hrun
    exact ⟨_, _, s', hrun, hlog, fun h => absurd h Bool.false_ne_true, fun _ => ⟨rfl, rfl⟩⟩

/-! ### Two exchanges -/

/-- The answer that holds the page a request asks for. -/
def servePages (rows : List Json) (_ : ℕ) (r : Request) : Except Exn Json :=
  match r.params.find? fun p => p.1 == "page" with
  | some (_, .int page) => .ok (.arr ((rows.drop (1000 * (page - 1).toNat)).take 1000))
  | _ => .error (.value "page is missing")

/-- A mainnet client of an exchange that has the rows. -/
def mainnetClient (rows : List Json) : Client :=
  ⟨.mainnet, false, 1700000000000000, servePages rows⟩

theorem serves_mainnetClient (rows : List Json) : Serves (mainnetClient rows) rows := by
  intro n start page
  have hpage : ((page + 1 : ℕ) - 1 : ℤ).toNat = page := by omega
  change Except.ok (Json.arr ((rows.drop (1000 * ((page + 1 : ℕ) - 1 : ℤ).toNat)).take 1000)) = _
  rw [hpage]

/-- A row of the pair. -/
def pairRow (incomeType income : String) : Json :=
  .obj [("asset", .str "USDC"), ("symbol", .str "ETHUSDC"), ("incomeType", .str incomeType),
    ("income", .str income)]

/-- A loss and its commission. -/
theorem daily_loss_complete_commission : CompleteOrUnknown
    (mainnetClient [pairRow "REALIZED_PNL" "-12.5", pairRow "COMMISSION" "-0.02"])
    [pairRow "REALIZED_PNL" "-12.5", pairRow "COMMISSION" "-0.02"] { ledger := Ledger.empty } :=
  daily_loss_complete rfl (serves_mainnetClient _) _

/-- Incomes whose sum has 29 digits. -/
def longRows : List Json :=
  [pairRow "REALIZED_PNL" "100000000000000000000", pairRow "FUNDING_FEE" "0.00000001"]

/-- A sum of 29 digits is rounded: the smaller income is lost. -/
theorem income_rounded :
    ∃ t s', (∀ item ∈ longRows, Usable item) ∧ Serves (mainnetClient longRows) longRows ∧
    (dailyRealizedPnl (mainnetClient longRows)).run { ledger := Ledger.empty } =
    .ok (some t, true) s' ∧
    t.toRat ≠ ((incomes longRows).map Decimal.toRat).sum := by
  have husable : ∀ item ∈ longRows, Usable item := by decide +kernel
  have hserves := serves_mainnetClient longRows
  obtain ⟨s', hrun, -⟩ := dailyRealizedPnl_run rfl hserves { ledger := Ledger.empty }
  rw [if_pos ⟨by decide, husable⟩] at hrun
  refine ⟨_, s', husable, hserves, hrun, ?_⟩
  have hincomes : incomes longRows = [⟨false, 100000000000000000000, 0⟩, ⟨false, 1, -8⟩] := by
    decide +kernel
  have hsum : Decimal.sum [⟨false, 100000000000000000000, 0⟩, ⟨false, 1, -8⟩] =
      ⟨false, 1000000000000000000000000000, -7⟩ := by decide +kernel
  rw [hincomes, hsum]
  norm_num [Decimal.toRat_eq]

end Blessing.Binance.DailyLoss
