import Blessing.Binance.Account
import Blessing.Binance.AccountGate
import Blessing.Lib.Effects

/-! # The account snapshot and the liquidation gate

What `build_account_snapshot` shows of an account in exact arithmetic.

`snapshot_sound`: the build divides by nothing that is zero, its totals are those of the rows, and a
snapshot the liquidation gate accepts has every active row on the safe side of its liquidation
price. -/

namespace Blessing.Binance.Liquidation

open Blessing.Lib Blessing.Lib.Values Blessing.Lib.Rounding Blessing.Lib.Effects
open Blessing.Binance.Models
open Blessing.Binance.Account Blessing.Binance.AccountGate

/-! ### No division by zero -/

section

variable {c : Context}

/-- The failure is no division by zero. -/
abbrev Defined {α : Type} (x : Except Failure α) : Prop := Raises (· ≠ .divisionByZero) x

theorem defined_checked {α : Type} (x : Except Exn α) : Defined (checked x) := by
  cases x with
  | ok a => exact .ok a
  | error e => exact .error (by simp)

theorem defined_invalid {α : Type} (message : String) :
    Defined (throw (invalid message) : Except Failure α) := .error (by simp [invalid])

theorem defined_quotient {a b : ℚ} (h : b ≠ 0) : Defined (quotient c a b) := by
  rw [quotient, if_neg h]
  exact .ok _

theorem defined_liquidationDistance (position : Json) (amount markPrice : ℚ) :
    Defined (liquidationDistance c position amount markPrice) := by
  unfold liquidationDistance
  cases liquidationPriceOf position with
  | none => exact .ok none
  | some liquidationPrice =>
    dsimp only
    by_cases hunusable : markPrice ≤ 0 ∨ amount = 0
    · rw [if_pos hunusable]
      exact .ok none
    · have hmark : markPrice ≠ 0 := (not_le.mp fun h => hunusable (.inl h)).ne'
      rw [if_neg hunusable]
      exact .ite (.bind (defined_quotient hmark) fun _ => .ok _)
        (.ite (.bind (defined_quotient hmark) fun _ => .ok _) (.ok none))

theorem defined_buffer (b : Backing) (notional : ℚ) : Defined (b.buffer c notional) := by
  unfold Backing.buffer
  split_ifs with h
  · exact .bind (defined_quotient h.2.2.ne') fun _ => .ok _
  · exact .ok none

theorem defined_checkNotional (position : Json) (symbol : String) (computed : ℚ) :
    Defined (checkNotional c position symbol computed) := by
  unfold checkNotional
  refine .ite (.ok ()) ?_
  split
  · exact .error (by simp [invalid])
  · exact .ite (.error (by simp [invalid])) (.ok ())
  · exact .error (by simp [invalid])

/-- A check in front of a computation that divides by nothing that is zero. -/
theorem defined_guard {α : Type} {p : Prop} [Decidable p] {message : String}
    {k : PUnit → Except Failure α} (hk : Defined (k ⟨⟩)) :
    Defined (if p then throw (invalid message) >>= k else k ⟨⟩) :=
  .ite (.bind (defined_invalid message) fun _ => hk) hk

theorem defined_activePosition (env : BinanceEnvironment) (configuredSymbol : String)
    (position : Json) (amount : ℚ) :
    Defined (activePosition c env configuredSymbol position amount) := by
  unfold activePosition
  refine defined_guard (defined_guard (defined_guard (defined_guard ?_)))
  refine .bind (defined_checked _) fun markPrice => defined_guard ?_
  exact .bind (defined_checkNotional _ _ _) fun _ => .ok _

theorem defined_distanceOf (backing : Backing) (position : Json) (amount markPrice notional : ℚ) :
    Defined (distanceOf c backing position amount markPrice notional) := by
  refine .bind (defined_liquidationDistance _ _ _) fun distance => ?_
  cases distance with
  | none => exact defined_buffer _ _
  | some d => exact .ok _

theorem defined_addPosition (env : BinanceEnvironment) (configuredSymbol : String)
    (backing : Backing) (exposure : Exposure) (position : Json) :
    Defined (addPosition c env configuredSymbol backing exposure position) := by
  unfold addPosition
  refine defined_guard (.bind (defined_checked _) fun amount => .ite (.ok _) ?_)
  refine .bind (defined_activePosition _ _ _ _) fun active => ?_
  exact .bind (defined_distanceOf _ _ _ _ _) fun _ => .ok _

theorem defined_leverageOf (marginBalance totalInitialMargin : ℚ) (exposure : Exposure) :
    Defined (leverageOf c marginBalance totalInitialMargin exposure) := by
  unfold leverageOf
  split_ifs with hpos
  · exact .bind (defined_quotient hpos.ne') fun _ =>
      .bind (defined_quotient hpos.ne') fun _ => .ok _
  · exact .error (by simp [invalid])
  · exact .ok _

theorem defined_foldlM (positions : List Json) (env : BinanceEnvironment)
    (configuredSymbol : String) (backing : Backing) (exposure : Exposure) :
    Defined (positions.foldlM (addPosition c env configuredSymbol backing) exposure) := by
  induction positions generalizing exposure with
  | nil => exact .ok exposure
  | cons position positions ih =>
    rw [List.foldlM_cons]
    exact .bind (defined_addPosition _ _ _ _ _) ih

theorem defined_buildAccountSnapshot (account : Json) (positionRisk : List Json)
    (env : BinanceEnvironment) (daily : DailyLoss) (configuredSymbol : String) (now : Datetime) :
    Defined (buildAccountSnapshot c account positionRisk env daily configuredSymbol now) := by
  unfold buildAccountSnapshot
  refine defined_guard ?_
  refine .bind (defined_checked _) fun asset => ?_
  refine .bind (defined_checked _) fun walletBalance => .bind (defined_checked _)
    fun marginBalance => ?_
  refine .bind (defined_checked _) fun availableBalance => .bind (defined_checked _)
    fun unrealized => ?_
  refine .bind (defined_checked _) fun initial => .bind (defined_checked _) fun maint => ?_
  refine .bind (defined_checked _) fun positionInitial => ?_
  split
  · exact defined_invalid _
  · refine .bind (defined_foldlM _ _ _ _ _) fun exposure => ?_
    exact .bind (defined_leverageOf _ _ _) fun _ => .ok _

end

/-! ### What the rows say -/

/-- The number a cell of the payload holds. -/
def number (v : Json) : ℚ :=
  match decimalOf v with
  | some (.finite d) => d.toRat
  | _ => 0

/-- `positionAmt` -/
def amountOf (position : Json) : ℚ := number (position.get "positionAmt")

/-- `markPrice` -/
def markOf (position : Json) : ℚ := number (position.get "markPrice")

/-- The notional of a row. -/
def notionalOf (position : Json) : ℚ := |amountOf position| * markOf position

/-- The rows with a position. -/
def activeRows (positionRisk : List Json) : List Json := positionRisk.filter fun p => amountOf p ≠ 0

/-- The row is on the safe side of a usable liquidation price, and its side is that of its
amount. -/
structure Safe (position : Json) : Prop where
  price : 0 < number (position.get "liquidationPrice")
  long : 0 < amountOf position → number (position.get "liquidationPrice") < markOf position ∧
    sideOf position ∈ ["LONG", "BOTH"]
  short : amountOf position < 0 → markOf position < number (position.get "liquidationPrice") ∧
    sideOf position ∈ ["SHORT", "BOTH"]

theorem checked_ok {α : Type} {x : Except Exn α} {a : α} : checked x = .ok a ↔ x = .ok a := by
  cases x <;> simp [checked, Except.mapError]

theorem amountOf_of_ok {position : Json} {d : Decimal} (h : positionAmount position = .ok d) :
    amountOf position = d.toRat := by
  unfold positionAmount field at h
  split_ifs at h
  · obtain ⟨value, hvalue, h⟩ := except_bind_ok.mp h
    obtain rfl := Except.ok.inj hvalue
    obtain ⟨-, h⟩ := except_guard_ok.mp h
    cases hd : decimalOf (position.get "positionAmt") with
    | none => simp [hd] at h
    | some n =>
      cases n with
      | finite a =>
        rw [hd] at h
        obtain rfl := Except.ok.inj h
        simp [amountOf, number, hd]
      | inf | nan => simp [hd] at h
  · cases h

theorem markOf_of_ok {position : Json} {symbol : String} {d : Decimal}
    (h : markPriceOf position symbol = .ok d) : markOf position = d.toRat := by
  unfold markPriceOf at h
  dsimp only at h
  split_ifs at h
  cases hd : decimalOf (position.get "markPrice") with
  | none => simp [hd] at h
  | some n =>
    cases n with
    | finite a =>
      simp only [hd] at h
      split_ifs at h
      obtain rfl := Except.ok.inj h
      simp [markOf, number, hd]
    | inf | nan => simp [hd] at h

theorem activePosition_ok {env : BinanceEnvironment} {configuredSymbol : String} {position : Json}
    {markPrice notional : ℚ}
    (h : activePosition .exact env configuredSymbol position (amountOf position) =
      .ok (markPrice, notional)) :
    markPrice = markOf position ∧ notional = notionalOf position := by
  unfold activePosition at h
  obtain ⟨-, h⟩ := except_guard_ok.mp h
  obtain ⟨-, h⟩ := except_guard_ok.mp h
  obtain ⟨-, h⟩ := except_guard_ok.mp h
  obtain ⟨-, h⟩ := except_guard_ok.mp h
  obtain ⟨mark, hmark, h⟩ := except_bind_ok.mp h
  obtain ⟨-, h⟩ := except_guard_ok.mp h
  obtain ⟨-, -, h⟩ := except_bind_ok.mp h
  obtain ⟨rfl, rfl⟩ := Prod.mk.inj (Except.ok.inj h)
  have hmark := markOf_of_ok (checked_ok.mp hmark)
  simp [hmark, notionalOf]

theorem addPosition_ok {env : BinanceEnvironment} {configuredSymbol : String} {backing : Backing}
    {exposure exposure' : Exposure} {position : Json}
    (h : addPosition .exact env configuredSymbol backing exposure position = .ok exposure') :
    (amountOf position = 0 ∧ exposure' = exposure) ∨
    (amountOf position ≠ 0 ∧ ∃ distance,
      distanceOf .exact backing position (amountOf position) (markOf position)
        (notionalOf position) =
        .ok distance ∧
      exposure' = {
        totalNotional := exposure.totalNotional + notionalOf position
        distances := exposure.distances ++ distance.toList
        liquidationKnown := exposure.liquidationKnown && distance.isSome
        hasActive := true }) := by
  unfold addPosition at h
  obtain ⟨-, h⟩ := except_guard_ok.mp h
  obtain ⟨d, hd, h⟩ := except_bind_ok.mp h
  have hamount := amountOf_of_ok (checked_ok.mp hd)
  rw [← hamount] at h
  by_cases hzero : amountOf position = 0
  · rw [if_pos hzero] at h
    exact .inl ⟨hzero, (Except.ok.inj h).symm⟩
  · rw [if_neg hzero] at h
    obtain ⟨⟨markPrice, notional⟩, hactive, h⟩ := except_bind_ok.mp h
    obtain ⟨hmark, hnotional⟩ := activePosition_ok hactive
    rw [hmark, hnotional] at h
    obtain ⟨distance, hdistance, h⟩ := except_bind_ok.mp h
    exact .inr ⟨hzero, distance, hdistance, (Except.ok.inj h).symm⟩

/-- What the loop over the rows gives. -/
structure Summed (backing : Backing) (before : Exposure) (rows : List Json) (after : Exposure) :
    Prop where
  total : after.totalNotional = before.totalNotional + ((activeRows rows).map notionalOf).sum
  active : after.hasActive = (before.hasActive || rows.any fun p => amountOf p ≠ 0)
  known : after.liquidationKnown = true → before.liquidationKnown = true ∧
    ∀ p ∈ rows, amountOf p ≠ 0 → ∃ d ∈ after.distances,
      distanceOf .exact backing p (amountOf p) (markOf p) (notionalOf p) = .ok (some d)
  kept : ∀ d ∈ before.distances, d ∈ after.distances

theorem foldlM_ok {env : BinanceEnvironment} {configuredSymbol : String} {backing : Backing}
    {rows : List Json} {before after : Exposure}
    (h : rows.foldlM (addPosition .exact env configuredSymbol backing) before = .ok after) :
    Summed backing before rows after := by
  induction rows generalizing before with
  | nil =>
    obtain rfl := Except.ok.inj h
    exact ⟨by simp [activeRows], by simp, fun h => ⟨h, by simp⟩, fun d hd => hd⟩
  | cons row rows ih =>
    rw [List.foldlM_cons] at h
    obtain ⟨next, hnext, h⟩ := except_bind_ok.mp h
    obtain ⟨htotal, hactive, hknown, hkept⟩ := ih h
    rcases addPosition_ok hnext with ⟨hzero, rfl⟩ | ⟨hrow, distance, hdistance, rfl⟩
    · refine ⟨?_, by simpa [hzero] using hactive, fun hk => ?_, hkept⟩
      · simpa [activeRows, hzero] using htotal
      · refine ⟨(hknown hk).1, fun p hp hne => ?_⟩
        rcases List.mem_cons.mp hp with rfl | hp
        · exact absurd hzero hne
        · exact (hknown hk).2 p hp hne
    · refine ⟨?_, by simpa [hrow] using hactive, fun hk => ?_, fun d hd => hkept d (by simp [hd])⟩
      · rw [htotal]
        simp only [activeRows, ne_eq, hrow, not_false_eq_true, decide_true, List.filter_cons_of_pos,
          List.map_cons, List.sum_cons]
        ring
      · obtain ⟨hsome, hrows⟩ := hknown hk
        rw [Bool.and_eq_true] at hsome
        obtain ⟨d, rfl⟩ := Option.isSome_iff_exists.mp hsome.2
        refine ⟨hsome.1, fun p hp hne => ?_⟩
        rcases List.mem_cons.mp hp with rfl | hp
        · exact ⟨d, hkept d (by simp), hdistance⟩
        · exact hrows p hp hne

/-! ### Positive distances -/

theorem percent_pos {d : ℚ} (h : 0 < percent .exact d) : 0 < d := by
  simp only [percent, Context.exact_mul, lt_min_iff, lt_max_iff, lt_irrefl, false_or] at h
  linarith [h.2]

theorem quotient_ok {a b d : ℚ} (h : quotient .exact a b = .ok d) : b ≠ 0 ∧ d = a / b := by
  unfold quotient at h
  split_ifs at h with hb
  exact ⟨hb, (Except.ok.inj h).symm⟩

theorem liquidationPriceOf_ok {position : Json} {price : ℚ}
    (h : liquidationPriceOf position = some price) :
    0 < price ∧ price = number (position.get "liquidationPrice") := by
  unfold liquidationPriceOf at h
  split_ifs at h
  cases hd : decimalOf (position.get "liquidationPrice") with
  | none => simp [hd] at h
  | some n =>
    cases n with
    | finite a =>
      simp only [hd] at h
      split_ifs at h with hpos
      obtain rfl := Option.some.inj h
      exact ⟨hpos, by simp [number, hd]⟩
    | inf | nan => simp [hd] at h

/-- **A positive liquidation distance** puts the row on the safe side. -/
theorem safe_of_distance {position : Json} {d : ℚ}
    (h : liquidationDistance .exact position (amountOf position) (markOf position) = .ok (some d))
    (hpos : 0 < d) : Safe position := by
  unfold liquidationDistance at h
  cases hprice : liquidationPriceOf position with
  | none =>
    rw [hprice] at h
    cases h
  | some price =>
    rw [hprice] at h
    obtain ⟨hprice0, hprice⟩ := liquidationPriceOf_ok hprice
    dsimp only at h
    split_ifs at h with hunusable hlong hshort
    · cases h
    · obtain ⟨q, hq, h⟩ := except_bind_ok.mp h
      obtain ⟨hmark, rfl⟩ := quotient_ok hq
      obtain rfl := Option.some.inj (Except.ok.inj h)
      have hmark : 0 < markOf position := not_le.mp fun h => hunusable (.inl h)
      have hdistance := (div_pos_iff_of_pos_right hmark).mp (percent_pos hpos)
      refine ⟨hprice ▸ hprice0, fun _ => ⟨by simpa [hprice] using hdistance, ?_⟩,
        fun hneg => absurd hlong.2 (not_lt.mpr hneg.le)⟩
      rcases hlong.1 with hside | hside <;> simp [hside]
    · obtain ⟨q, hq, h⟩ := except_bind_ok.mp h
      obtain ⟨hmark, rfl⟩ := quotient_ok hq
      obtain rfl := Option.some.inj (Except.ok.inj h)
      have hmark : 0 < markOf position := not_le.mp fun h => hunusable (.inl h)
      have hdistance := (div_pos_iff_of_pos_right hmark).mp (percent_pos hpos)
      refine ⟨hprice ▸ hprice0, fun hneg => absurd hshort.2 (not_lt.mpr hneg.le),
        fun _ => ⟨by simpa [hprice] using hdistance, ?_⟩⟩
      rcases hshort.1 with hside | hside <;> simp [hside]
    · cases h

/-- A positive buffer means that the margin covers the maintenance margin. -/
theorem covered_of_buffer {b : Backing} {notional d : ℚ}
    (h : b.buffer .exact notional = .ok (some d)) (hpos : 0 < d) :
    b.portfolioMargin = true ∧ b.maintMargin < b.marginBalance := by
  unfold Backing.buffer at h
  have hbacked : b.portfolioMargin = true ∧ 0 < b.marginBalance ∧ 0 < notional := by
    by_contra hbacked
    rw [if_neg hbacked] at h
    cases h
  rw [if_pos hbacked] at h
  obtain ⟨q, hq, h⟩ := except_bind_ok.mp h
  obtain ⟨-, rfl⟩ := quotient_ok hq
  obtain rfl := Option.some.inj (Except.ok.inj h)
  have hheadroom := (div_pos_iff_of_pos_right hbacked.2.2).mp (percent_pos hpos)
  simp only [Context.exact_sub, lt_max_iff, lt_irrefl, sub_pos, false_or] at hheadroom
  exact ⟨hbacked.1, hheadroom⟩

/-- The row has no distance of its own from its liquidation. -/
def WithoutDistance (position : Json) : Prop :=
  liquidationDistance .exact position (amountOf position) (markOf position) = .ok none

/-- A row with a positive distance is safe, or backed by the account. -/
theorem safe_or_backed {b : Backing} {position : Json} {d : ℚ}
    (h : distanceOf .exact b position (amountOf position) (markOf position) (notionalOf position) =
      .ok (some d)) (hpos : 0 < d) :
    Safe position ∨ WithoutDistance position ∧ b.portfolioMargin = true ∧
      b.maintMargin < b.marginBalance := by
  unfold distanceOf at h
  obtain ⟨distance, hdistance, h⟩ := except_bind_ok.mp h
  cases distance with
  | some own =>
    obtain rfl := Option.some.inj (Except.ok.inj h)
    exact .inl (safe_of_distance hdistance hpos)
  | none => exact .inr ⟨hdistance, covered_of_buffer h hpos⟩

/-! ### The snapshot -/

/-- What a snapshot shows of the payload it is built from. -/
structure Sound (account : Json) (positionRisk : List Json) (s : ExchangeAccountSnapshot) :
    Prop where
  total : s.totalPositionNotional = ((activeRows positionRisk).map notionalOf).sum
  leverage : 0 < s.marginBalance → s.effectiveLeverage * s.marginBalance = s.totalPositionNotional
  liquidation : liquidationSafetyIsKnownAndPositive s = true → ∀ p ∈ activeRows positionRisk,
    Safe p ∨ WithoutDistance p ∧ (account.get "portfolioMargin").truthy = true ∧
      s.totalMaintMargin < s.marginBalance

theorem leverageOf_ok {marginBalance totalInitialMargin leverage utilization : ℚ}
    {exposure : Exposure}
    (h : leverageOf .exact marginBalance totalInitialMargin exposure = .ok (leverage, utilization))
    (hpos : 0 < marginBalance) : leverage * marginBalance = exposure.totalNotional := by
  rw [leverageOf, if_pos hpos] at h
  obtain ⟨l, hl, h⟩ := except_bind_ok.mp h
  obtain ⟨u, -, h⟩ := except_bind_ok.mp h
  obtain ⟨rfl, -⟩ := Prod.mk.inj (Except.ok.inj h)
  obtain ⟨hne, rfl⟩ := quotient_ok hl
  exact div_mul_cancel₀ _ hne

/-- **The account snapshot**: in exact arithmetic the build divides by nothing that is zero, and the
snapshot it builds is sound. -/
theorem snapshot_sound (account : Json) (positionRisk : List Json) (env : BinanceEnvironment)
    (daily : DailyLoss) (configuredSymbol : String) (now : Datetime) :
    buildAccountSnapshot .exact account positionRisk env daily configuredSymbol now ≠
        .error .divisionByZero ∧
      ∀ s, buildAccountSnapshot .exact account positionRisk env daily configuredSymbol now = .ok s →
        Sound account positionRisk s := by
  refine ⟨fun h => defined_buildAccountSnapshot _ _ _ _ _ _ _ h rfl, fun s h => ?_⟩
  unfold buildAccountSnapshot at h
  obtain ⟨-, h⟩ := except_guard_ok.mp h
  obtain ⟨asset, -, h⟩ := except_bind_ok.mp h
  obtain ⟨walletBalance, -, h⟩ := except_bind_ok.mp h
  obtain ⟨marginBalance, -, h⟩ := except_bind_ok.mp h
  obtain ⟨availableBalance, -, h⟩ := except_bind_ok.mp h
  obtain ⟨unrealizedPnl, -, h⟩ := except_bind_ok.mp h
  obtain ⟨totalInitialMargin, -, h⟩ := except_bind_ok.mp h
  obtain ⟨totalMaintMargin, -, h⟩ := except_bind_ok.mp h
  obtain ⟨positionInitialMargin, -, h⟩ := except_bind_ok.mp h
  split at h
  · cases h
  obtain ⟨exposure, hexposure, h⟩ := except_bind_ok.mp h
  obtain ⟨htotal, hactive, hknown, -⟩ := foldlM_ok hexposure
  obtain ⟨⟨leverage, utilization⟩, hleverage, h⟩ := except_bind_ok.mp h
  obtain rfl := Except.ok.inj h
  refine ⟨by simpa using htotal, fun hpos => leverageOf_ok hleverage hpos, fun hsafe p hp => ?_⟩
  obtain ⟨hp, hne⟩ : p ∈ positionRisk ∧ amountOf p ≠ 0 := by simpa [activeRows] using hp
  have hhas : exposure.hasActive = true := by
    rw [hactive]
    simpa using ⟨p, hp, hne⟩
  -- the safety is known, so every active row has a distance, and the smallest of them is positive
  have hall : exposure.liquidationKnown = true := by
    by_contra hunknown
    simp [liquidationSafetyIsKnownAndPositive, hunknown] at hsafe
  obtain ⟨d, hd, hdistance⟩ := (hknown hall).2 p hp hne
  have hpos : 0 < d := by
    obtain ⟨m, hm⟩ := Option.isSome_iff_exists.mp (List.isSome_min?_of_mem hd)
    have hmin : 0 < m := by
      simpa [liquidationSafetyIsKnownAndPositive, hall, hhas, hm] using hsafe
    exact hmin.trans_le ((List.min?_eq_some_iff.mp hm).2 d hd)
  rcases safe_or_backed hdistance hpos with hsafe | ⟨hwithout, hbacked⟩
  · exact .inl hsafe
  · exact .inr ⟨hwithout, hbacked⟩

/-- An account with collateral for two positions. -/
def sampleAccount : Json := .obj [("assets", .arr [.obj [("asset", .str "USDT"),
  ("walletBalance", .str "100"), ("marginBalance", .str "90"), ("availableBalance", .str "45"),
  ("unrealizedProfit", .str "-10"), ("initialMargin", .str "45"), ("maintMargin", .str "4.5"),
  ("positionInitialMargin", .str "45")]])]

/-- A row of a symbol with both sides. -/
def sampleRow (positionSide positionAmt liquidationPrice notional : String) : Json :=
  .obj [("symbol", .str "BTCUSDT"), ("positionAmt", .str positionAmt),
    ("positionSide", .str positionSide), ("markPrice", .str "120"),
    ("liquidationPrice", .str liquidationPrice), ("notional", .str notional),
    ("marginType", .str "cross"), ("leverage", .str "2")]

/-- A long position above its liquidation price, a short one below its own and a row without a
position. -/
def sampleRows : List Json :=
  [sampleRow "LONG" "0.5" "90" "60", sampleRow "SHORT" "-0.25" "168" "-30",
    sampleRow "BOTH" "0" "0" "0"]

/-- What the snapshot of a payload shows. -/
def shown (s : ExchangeAccountSnapshot) : ℚ × Option ℚ × String :=
  (s.totalPositionNotional, s.minLiquidationDistancePct, s.liquidationSafety)

/-- The snapshot of the positions. -/
theorem snapshot_sound_sample : ∃ s : ExchangeAccountSnapshot,
    shown s = (90, some 25, "KNOWN") ∧ Sound sampleAccount sampleRows s := by
  let build := buildAccountSnapshot .exact sampleAccount sampleRows .testnet
    ⟨none, false, "UNKNOWN", false, false, none, none⟩ "BTCUSDT" ⟨0, some 0⟩
  have hbuild : build.toOption.map shown = some (90, some 25, "KNOWN") := by decide +kernel
  cases hs : build with
  | error e =>
    rw [hs] at hbuild
    cases hbuild
  | ok s =>
    rw [hs] at hbuild
    exact ⟨s, Option.some.inj hbuild, (snapshot_sound _ _ _ _ _ _).2 s hs⟩

end Blessing.Binance.Liquidation
