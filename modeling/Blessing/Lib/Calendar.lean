import Blessing.Lib.DateTime
import Mathlib.Data.List.Lex
import Mathlib.Tactic.Linarith
import Mathlib.Tactic.Ring

/-! # The order of time texts

The calendar functions are inverse to each other and keep the order of days, decimal texts of one
width are ordered as the numbers they denote, and so the texts of two instants are ordered as the
instants are, at the resolution of the text.

* `ymd2ord_ord2ymd`, `valid_ord2ymd`: the date of a day number is a date, and has this number.
* `ymd2ord_lt`: a later date has a larger day number.
* `isoMillis_lt_iff`: time texts are ordered as milliseconds.
* `fromIsoformat_isoMillis`: the parser reads a time text back, without the microseconds. -/

namespace Blessing.Lib.DateTime

/-! ### Dates -/

/-- A date of the calendar. -/
structure Valid (y m d : ℕ) : Prop where
  year : 1 ≤ y
  month : 1 ≤ m
  month_le : m ≤ 12
  day : 1 ≤ d
  day_le : d ≤ daysInMonth y m

/-- The month and the day of a day of a year, counted from 0. -/
def monthDay (leap : Bool) (n : ℕ) : ℕ × ℕ :=
  let month := (n + 50) / 32
  let preceding := daysBeforeMonthTable.getD month 0 + if 2 < month && leap then 1 else 0
  if n < preceding then
    let month := month - 1
    let preceding :=
      preceding - (daysInMonthTable.getD month 0 + if month == 2 && leap then 1 else 0)
    (month, n - preceding + 1)
  else (month, n - preceding + 1)

/-- The months and days of a common and of a leap year, one by one. -/
theorem monthDay_spec : ∀ leap : Bool, ∀ n < 365 + leap.toNat,
    1 ≤ (monthDay leap n).1 ∧ (monthDay leap n).1 ≤ 12 ∧ 1 ≤ (monthDay leap n).2 ∧
      (monthDay leap n).2 ≤ (if (monthDay leap n).1 == 2 && leap then 29
        else daysInMonthTable.getD (monthDay leap n).1 0) ∧
      daysBeforeMonthTable.getD (monthDay leap n).1 0 +
        (if 2 < (monthDay leap n).1 && leap then 1 else 0) + (monthDay leap n).2 = n + 1 := by
  decide +kernel

theorem isLeap_iff (y : ℕ) : isLeap y = true ↔ y % 4 = 0 ∧ (y % 100 ≠ 0 ∨ y % 400 = 0) := by
  simp [isLeap]

/-- A year counted in cycles of 400, 100, 4 and 1 years. -/
theorem year_spec {a b c e : ℕ} (hb : b ≤ 3) (hc : c ≤ 24) (he : e ≤ 3) :
    daysBeforeYear (a * 400 + 1 + b * 100 + c * 4 + e) =
        a * 146097 + b * 36524 + c * 1461 + e * 365 ∧
      (isLeap (a * 400 + 1 + b * 100 + c * 4 + e) = (e == 3 && (c != 24 || b == 3))) := by
  constructor
  · unfold daysBeforeYear
    omega
  · rw [Bool.eq_iff_iff, isLeap_iff]
    simp only [Bool.and_eq_true, Bool.or_eq_true, beq_iff_eq, bne_iff_ne]
    omega

theorem valid_monthDay {y r : ℕ} {leap : Bool} (hy : 1 ≤ y) (hleap : isLeap y = leap)
    (hr : r < 365 + leap.toNat) :
    Valid y (monthDay leap r).1 (monthDay leap r).2 ∧
      ymd2ord y (monthDay leap r).1 (monthDay leap r).2 = daysBeforeYear y + r + 1 := by
  obtain ⟨hm, hm', hd, hd', hn⟩ := monthDay_spec leap r hr
  refine ⟨⟨hy, hm, hm', hd, ?_⟩, ?_⟩
  · rw [daysInMonth, hleap]
    exact hd'
  · rw [ymd2ord, daysBeforeMonth, hleap]
    omega

theorem valid_lastDay {y : ℕ} (hy : 1 ≤ y) (hleap : isLeap y = true) :
    Valid y 12 31 ∧ ymd2ord y 12 31 = daysBeforeYear y + 366 := by
  refine ⟨⟨hy, by decide, by decide, by decide, Nat.le_refl 31⟩, ?_⟩
  rw [ymd2ord, daysBeforeMonth, hleap]
  rfl

/-- **Day numbers**: the date of a day number is a date and has this number. -/
theorem ord2ymd_spec (n : ℕ) :
    Valid (ord2ymd n).1 (ord2ymd n).2.1 (ord2ymd n).2.2 ∧
      ymd2ord (ord2ymd n).1 (ord2ymd n).2.1 (ord2ymd n).2.2 = n + 1 := by
  have hcycles : n = n / 146097 * 146097 + n % 146097 / 36524 * 36524 +
      n % 146097 % 36524 / 1461 * 1461 + n % 146097 % 36524 % 1461 / 365 * 365 +
      n % 146097 % 36524 % 1461 % 365 := by omega
  have hr : n % 146097 % 36524 % 1461 % 365 < 365 := Nat.mod_lt _ (by decide)
  have hb : n % 146097 / 36524 ≤ 4 := by omega
  have hb' : n % 146097 / 36524 = 4 → n % 146097 % 36524 = 0 := by omega
  have hc : n % 146097 % 36524 / 1461 ≤ 24 := by omega
  have he : n % 146097 % 36524 % 1461 / 365 ≤ 4 := by omega
  have he' : n % 146097 % 36524 % 1461 / 365 = 4 →
      n % 146097 % 36524 % 1461 % 365 = 0 ∧ n % 146097 % 36524 / 1461 ≤ 23 := by omega
  have hzero : n % 146097 % 36524 = 0 → n % 146097 % 36524 / 1461 = 0 ∧
      n % 146097 % 36524 % 1461 / 365 = 0 ∧ n % 146097 % 36524 % 1461 % 365 = 0 := by omega
  unfold ord2ymd
  dsimp only
  generalize n / 146097 = a at *
  generalize n % 146097 / 36524 = b at *
  generalize n % 146097 % 36524 / 1461 = c at *
  generalize n % 146097 % 36524 % 1461 / 365 = e at *
  generalize n % 146097 % 36524 % 1461 % 365 = r at *
  by_cases hedge : (e == 4 || b == 4) = true
  · rw [if_pos hedge]
    rw [Bool.or_eq_true, beq_iff_eq, beq_iff_eq] at hedge
    by_cases hb4 : b = 4
    · -- the last day of a cycle of 400 years
      obtain ⟨hc0, he0, hr0⟩ := hzero (hb' hb4)
      obtain ⟨hbefore, hleap⟩ := @year_spec a 3 24 3 (by decide) (by decide) (by decide)
      have hy : a * 400 + 1 + b * 100 + c * 4 + e - 1 = a * 400 + 1 + 3 * 100 + 24 * 4 + 3 := by
        omega
      rw [hy]
      obtain ⟨hvalid, hord⟩ := valid_lastDay (by omega) hleap
      exact ⟨hvalid, hord.trans (by omega)⟩
    · -- the last day of a cycle of four years
      obtain ⟨hr0, hc23⟩ := he' (by omega)
      obtain ⟨hbefore, hleap⟩ := @year_spec a b c 3 (by omega) (by omega) (by decide)
      have hy : a * 400 + 1 + b * 100 + c * 4 + e - 1 = a * 400 + 1 + b * 100 + c * 4 + 3 := by
        omega
      have hc24 : (c != 24) = true := by
        rw [bne_iff_ne]
        omega
      rw [hc24] at hleap
      rw [hy]
      obtain ⟨hvalid, hord⟩ := valid_lastDay (by omega) hleap
      exact ⟨hvalid, hord.trans (by omega)⟩
  · rw [if_neg hedge]
    rw [Bool.or_eq_true, beq_iff_eq, beq_iff_eq] at hedge
    obtain ⟨hbefore, hleap⟩ := @year_spec a b c e (by omega) hc (by omega)
    obtain ⟨hvalid, hord⟩ := valid_monthDay (r := r) (by omega) hleap (by omega)
    rw [hbefore] at hord
    unfold monthDay at hvalid hord
    dsimp only at hvalid hord
    split_ifs at hvalid hord ⊢
    all_goals exact ⟨hvalid, hord.trans (by omega)⟩

theorem daysBeforeMonth_lt {y m m' : ℕ} (hm : 1 ≤ m) (hlt : m < m') (hm' : m' ≤ 12) :
    daysBeforeMonth y m + daysInMonth y m ≤ daysBeforeMonth y m' := by
  have htable : ∀ leap : Bool, ∀ m ≤ 12, ∀ m' ≤ 12, 1 ≤ m → m < m' →
      daysBeforeMonthTable.getD m 0 + (if 2 < m && leap then 1 else 0) +
          (if m == 2 && leap then 29 else daysInMonthTable.getD m 0) ≤
        daysBeforeMonthTable.getD m' 0 + if 2 < m' && leap then 1 else 0 := by
    decide +kernel
  exact htable (isLeap y) m (by omega) m' hm' hm hlt

theorem daysBeforeMonth_le {y m : ℕ} (hm : m ≤ 12) :
    daysBeforeMonth y m + daysInMonth y m ≤ 365 + (isLeap y).toNat := by
  have htable : ∀ leap : Bool, ∀ m ≤ 12,
      daysBeforeMonthTable.getD m 0 + (if 2 < m && leap then 1 else 0) +
          (if m == 2 && leap then 29 else daysInMonthTable.getD m 0) ≤ 365 + leap.toNat := by
    decide +kernel
  exact htable (isLeap y) m hm

theorem daysBeforeYear_succ (k : ℕ) :
    daysBeforeYear (k + 1 + 1) = daysBeforeYear (k + 1) + 365 + (isLeap (k + 1)).toNat := by
  have hleap : (isLeap (k + 1)).toNat =
      (if 4 ∣ k + 1 then 1 else 0) - (if 100 ∣ k + 1 then 1 else 0) + if 400 ∣ k + 1 then 1
      else 0 := by
    have h100 : 100 ∣ k + 1 → 4 ∣ k + 1 := fun h => Nat.dvd_trans (by decide) h
    have h400 : 400 ∣ k + 1 → 100 ∣ k + 1 := fun h => Nat.dvd_trans (by decide) h
    have hiff : isLeap (k + 1) = true ↔ 4 ∣ k + 1 ∧ (¬ 100 ∣ k + 1 ∨ 400 ∣ k + 1) := by
      rw [isLeap_iff, Nat.dvd_iff_mod_eq_zero, Nat.dvd_iff_mod_eq_zero, Nat.dvd_iff_mod_eq_zero]
    cases hl : isLeap (k + 1) <;> rw [hl] at hiff <;> split_ifs <;> first | rfl | (exfalso; tauto)
  have hle : (k / 100) ≤ k / 4 := Nat.div_le_div_left (by decide) (by decide)
  unfold daysBeforeYear
  rw [hleap, Nat.add_sub_cancel, Nat.add_sub_cancel, Nat.succ_div, Nat.succ_div, Nat.succ_div]
  generalize k / 4 = a at *
  generalize k / 100 = b at *
  generalize k / 400 = c
  split_ifs <;> omega

theorem daysBeforeYear_lt {y y' : ℕ} (hy : 1 ≤ y) (hlt : y < y') :
    daysBeforeYear y + 365 + (isLeap y).toNat ≤ daysBeforeYear y' := by
  induction y', hlt using Nat.le_induction with
  | base =>
    obtain ⟨k, rfl⟩ := Nat.exists_eq_add_of_le' hy
    exact (daysBeforeYear_succ k).ge
  | succ n hn ih =>
    obtain ⟨k, rfl⟩ := Nat.exists_eq_add_of_le' (show 1 ≤ n by omega)
    have hnext := daysBeforeYear_succ k
    omega

/-- **Later dates**: a later date has a larger day number. -/
theorem ymd2ord_lt {y m d y' m' d' : ℕ} (h : Valid y m d) (h' : Valid y' m' d')
    (hlt : y < y' ∨ y = y' ∧ (m < m' ∨ m = m' ∧ d < d')) : ymd2ord y m d < ymd2ord y' m' d' := by
  have hday := h.day_le
  have hday' := h'.day
  unfold ymd2ord
  rcases hlt with hy | ⟨rfl, hm | ⟨rfl, hd⟩⟩
  · have hyear := daysBeforeYear_lt h.year hy
    have hmonth := daysBeforeMonth_le (y := y) h.month_le
    omega
  · have hmonth := daysBeforeMonth_lt (y := y) h.month hm h'.month_le
    omega
  · omega

/-- Dates are ordered as their day numbers. -/
theorem ord2ymd_lt_iff (n n' : ℕ) :
    ((ord2ymd n).1 < (ord2ymd n').1 ∨ (ord2ymd n).1 = (ord2ymd n').1 ∧
      ((ord2ymd n).2.1 < (ord2ymd n').2.1 ∨
        (ord2ymd n).2.1 = (ord2ymd n').2.1 ∧ (ord2ymd n).2.2 < (ord2ymd n').2.2)) ↔ n < n' := by
  obtain ⟨hvalid, hord⟩ := ord2ymd_spec n
  obtain ⟨hvalid', hord'⟩ := ord2ymd_spec n'
  constructor
  · intro h
    have := ymd2ord_lt hvalid hvalid' h
    omega
  · intro h
    by_contra hno
    by_cases heq : (ord2ymd n).1 = (ord2ymd n').1 ∧ (ord2ymd n).2.1 = (ord2ymd n').2.1 ∧
        (ord2ymd n).2.2 = (ord2ymd n').2.2
    · rw [heq.1, heq.2.1, heq.2.2] at hord
      omega
    · have := ymd2ord_lt hvalid' hvalid (by omega)
      omega

theorem year_lt {n : ℕ} (h : n < daysBeforeYear 10000) : (ord2ymd n).1 < 10 ^ 4 := by
  obtain ⟨hvalid, hord⟩ := ord2ymd_spec n
  by_contra hno
  have hyear : daysBeforeYear 10000 ≤ daysBeforeYear (ord2ymd n).1 := by
    unfold daysBeforeYear
    omega
  have hday := hvalid.day
  unfold ymd2ord at hord
  omega

/-! ### Decimal texts -/

theorem length_digits (w n : ℕ) : (digits w n).length = w := by simp [digits]

theorem digits_succ (w n : ℕ) :
    digits (w + 1) n = Char.ofNat (48 + n / 10 ^ w % 10) :: digits w n := by
  simp [digits, List.range_succ]

theorem digit_lt_iff {d d' : ℕ} (hd : d < 10) (hd' : d' < 10) :
    Char.ofNat (48 + d) < Char.ofNat (48 + d') ↔ d < d' := by
  have hall : ∀ d < 10, ∀ d' < 10, (Char.ofNat (48 + d) < Char.ofNat (48 + d') ↔ d < d') := by
    decide
  exact hall d hd d' hd'

theorem digit_inj {d d' : ℕ} (hd : d < 10) (hd' : d' < 10) :
    Char.ofNat (48 + d) = Char.ofNat (48 + d') ↔ d = d' := by
  have hall : ∀ d < 10, ∀ d' < 10, (Char.ofNat (48 + d) = Char.ofNat (48 + d') ↔ d = d') := by
    decide
  exact hall d hd d' hd'

theorem mod_succ_pow (n w : ℕ) : n % 10 ^ (w + 1) = n / 10 ^ w % 10 * 10 ^ w + n % 10 ^ w := by
  rw [pow_succ, Nat.mod_mul, Nat.mul_comm, Nat.add_comm]

theorem digits_append_lt_iff {w n n' : ℕ} {l l' : List Char} :
    digits w n ++ l < digits w n' ++ l' ↔
      n % 10 ^ w < n' % 10 ^ w ∨ n % 10 ^ w = n' % 10 ^ w ∧ l < l' := by
  induction w with
  | zero => simp [digits, Nat.mod_one]
  | succ w ih =>
    rw [digits_succ, digits_succ, List.cons_append, List.cons_append, List.cons_lt_cons_iff, ih,
      digit_lt_iff (Nat.mod_lt _ (by decide)) (Nat.mod_lt _ (by decide)),
      digit_inj (Nat.mod_lt _ (by decide)) (Nat.mod_lt _ (by decide)), mod_succ_pow,
      mod_succ_pow n']
    have hpos : 0 < 10 ^ w := Nat.pow_pos (by decide)
    have hn : n % 10 ^ w < 10 ^ w := Nat.mod_lt _ hpos
    have hn' : n' % 10 ^ w < 10 ^ w := Nat.mod_lt _ hpos
    generalize n / 10 ^ w % 10 = a
    generalize n' / 10 ^ w % 10 = a'
    generalize n % 10 ^ w = b at hn ⊢
    generalize n' % 10 ^ w = b' at hn' ⊢
    generalize 10 ^ w = p at *
    rcases Nat.lt_trichotomy a a' with h | rfl | h
    · have : a * p + b < a' * p + b' := by nlinarith
      simp [h, this]
    · simp
    · have : a' * p + b' < a * p + b := by nlinarith
      have hne : ¬ a < a' := by omega
      have hne' : a ≠ a' := by omega
      have hlt : ¬ a * p + b < a' * p + b' := by omega
      have heq : a * p + b ≠ a' * p + b' := by omega
      simp [hne, hne', hlt, heq]

/-! ### Time texts -/

theorem cons_append_lt_iff {c : Char} {l l' : List Char} : [c] ++ l < [c] ++ l' ↔ l < l' := by
  rw [List.singleton_append, List.singleton_append, List.cons_lt_cons_iff]
  simp

theorem day_lt {t : Instant} : t.1 / microsPerDay < daysBeforeYear 10000 :=
  Nat.div_lt_of_lt_mul (Nat.mul_comm _ _ ▸ t.2)

/-- The parts of an instant, as its text has them. -/
structure Parts (t : Instant) (y m d h mi s ms : ℕ) : Prop where
  date : ord2ymd (t.1 / microsPerDay) = (y, m, d)
  hour : h = t.1 % microsPerDay / microsPerSecond / 3600
  minute : mi = t.1 % microsPerDay / microsPerSecond / 60 % 60
  second : s = t.1 % microsPerDay / microsPerSecond % 60
  milli : ms = t.1 % microsPerSecond / 1000

theorem exists_parts (t : Instant) : ∃ y m d h mi s ms, Parts t y m d h mi s ms :=
  ⟨_, _, _, _, _, _, _, ⟨rfl, rfl, rfl, rfl, rfl⟩⟩

section

variable {t t' : Instant} {y m d h mi s ms y' m' d' h' mi' s' ms' : ℕ}

theorem Parts.text (hp : Parts t y m d h mi s ms) : isoMillis t =
    digits 4 y ++
    (['-'] ++ (digits 2 m ++ (['-'] ++ (digits 2 d ++ (['T'] ++ (digits 2 h ++ ([':'] ++
      (digits 2 mi ++ ([':'] ++ (digits 2 s ++ (['.'] ++ digits 3 ms))))))))))) := by
  rw [isoMillis, hp.date, hp.hour, hp.minute, hp.second, hp.milli]
  simp only [List.append_assoc]

theorem Parts.valid (hp : Parts t y m d h mi s ms) :
    Valid y m d ∧ ymd2ord y m d = t.1 / microsPerDay + 1 := by
  have hspec := ord2ymd_spec (t.1 / microsPerDay)
  rw [hp.date] at hspec
  exact hspec

theorem Parts.lt (hp : Parts t y m d h mi s ms) :
    y < 10 ^ 4 ∧ m < 10 ^ 2 ∧ d < 10 ^ 2 ∧ h < 24 ∧ mi < 60 ∧ s < 60 ∧ ms < 1000 := by
  have hyear := year_lt (day_lt (t := t))
  rw [hp.date] at hyear
  have hvalid := hp.valid.1
  have hmonth := hvalid.month_le
  have hday : d ≤ 31 := by
    have htable : ∀ leap : Bool, ∀ m ≤ 12,
        (if m == 2 && leap then 29 else daysInMonthTable.getD m 0) ≤ 31 := by decide +kernel
    exact le_trans hvalid.day_le (htable (isLeap y) m hmonth)
  rw [hp.hour, hp.minute, hp.second, hp.milli]
  unfold microsPerDay microsPerSecond
  refine ⟨hyear, ?_, ?_, ?_, ?_, ?_, ?_⟩ <;> omega

/-- The milliseconds of an instant. -/
def Instant.millis (t : Instant) : ℕ := t.1 / 1000

theorem Parts.millis (hp : Parts t y m d h mi s ms) : t.millis =
    (t.1 / microsPerDay) * 86400000 + (h * 3600 + mi * 60 + s) * 1000 + ms := by
  rw [hp.hour, hp.minute, hp.second, hp.milli, Instant.millis]
  unfold microsPerDay microsPerSecond
  omega

theorem timeOfDay_lt_iff (hmi : mi < 60) (hs : s < 60) (hms : ms < 1000) (hmi' : mi' < 60)
    (hs' : s' < 60) (hms' : ms' < 1000) :
    (h < h' ∨ h = h' ∧ (mi < mi' ∨ mi = mi' ∧ (s < s' ∨ s = s' ∧ ms < ms'))) ↔
      (h * 3600 + mi * 60 + s) * 1000 + ms < (h' * 3600 + mi' * 60 + s') * 1000 + ms' := by
  constructor
  · rintro (hlt | ⟨rfl, hlt | ⟨rfl, hlt | ⟨rfl, hlt⟩⟩⟩) <;> omega
  · intro hlt
    by_cases hh : h = h' <;> by_cases hm : mi = mi' <;> by_cases hsec : s = s' <;> omega

theorem timeOfDay_lt (hh : h < 24) (hmi : mi < 60) (hs : s < 60) (hms : ms < 1000) :
    (h * 3600 + mi * 60 + s) * 1000 + ms < 86400000 := by
  omega

theorem dayThenTime_lt_iff {n n' u u' k : ℕ} (hu : u < k) (hu' : u' < k) :
    n * k + u < n' * k + u' ↔ n < n' ∨ n = n' ∧ u < u' := by
  constructor
  · intro hlt
    rcases Nat.lt_trichotomy n n' with hn | rfl | hn
    · exact .inl hn
    · exact .inr ⟨rfl, by omega⟩
    · have hmul := Nat.mul_le_mul_right k (Nat.succ_le_of_lt hn)
      rw [Nat.succ_mul] at hmul
      omega
  · rintro (hn | ⟨rfl, hlt⟩)
    · have hmul := Nat.mul_le_mul_right k (Nat.succ_le_of_lt hn)
      rw [Nat.succ_mul] at hmul
      omega
    · omega

theorem date_eq_iff {n n' : ℕ} (hday : (y < y' ∨ y = y' ∧ (m < m' ∨ m = m' ∧ d < d')) ↔ n < n')
    (hday' : (y' < y ∨ y' = y ∧ (m' < m ∨ m' = m ∧ d' < d)) ↔ n' < n) :
    n = n' ↔ y = y' ∧ m = m' ∧ d = d' := by
  constructor
  · rintro rfl
    have hno := mt hday.mp (Nat.lt_irrefl n)
    have hno' := mt hday'.mp (Nat.lt_irrefl n)
    clear hday hday'
    omega
  · rintro ⟨rfl, rfl, rfl⟩
    have hno := mt hday.mpr (by omega)
    have hno' := mt hday'.mpr (by omega)
    clear hday hday'
    omega

/-- The order of two texts whose first three parts are a date, in the order of its day. -/
theorem dateThenTime_iff {p q r s u v w : Prop} :
    (p ∨ q ∧ (r ∨ s ∧ (u ∨ v ∧ w))) ↔ (p ∨ q ∧ (r ∨ s ∧ u)) ∨ (q ∧ s ∧ v) ∧ w := by
  tauto

/-- Time texts are ordered part by part. -/
theorem Parts.text_lt_iff (hp : Parts t y m d h mi s ms) (hp' : Parts t' y' m' d' h' mi' s' ms')
    (l : List Char) :
    isoMillis t ++ l < isoMillis t' ++ l ↔
      (y < y' ∨ y = y' ∧ (m < m' ∨ m = m' ∧ (d < d' ∨ d = d' ∧ (h < h' ∨ h = h' ∧
        (mi < mi' ∨ mi = mi' ∧ (s < s' ∨ s = s' ∧ ms < ms')))))) := by
  obtain ⟨hy, hm, hd, hh, hmi, hs, hms⟩ := hp.lt
  obtain ⟨hy', hm', hd', hh', hmi', hs', hms'⟩ := hp'.lt
  have hirrefl : ¬ l < l := List.lt_irrefl l
  have two {n : ℕ} (hn : n < 60) : n % 10 ^ 2 = n := Nat.mod_eq_of_lt (by omega)
  have three {n : ℕ} (hn : n < 1000) : n % 10 ^ 3 = n := Nat.mod_eq_of_lt (by omega)
  rw [hp.text, hp'.text]
  simp only [List.append_assoc, digits_append_lt_iff, cons_append_lt_iff, Nat.mod_eq_of_lt hy,
    Nat.mod_eq_of_lt hy', Nat.mod_eq_of_lt hm, Nat.mod_eq_of_lt hm', Nat.mod_eq_of_lt hd,
    Nat.mod_eq_of_lt hd', two (show h < 60 by omega), two (show h' < 60 by omega),
    two hmi, two hmi', two hs, two hs', three hms, three hms', hirrefl, and_false, or_false]

/-- **Time texts** are ordered as milliseconds, whatever stands behind them. -/
theorem isoMillis_lt_iff (t t' : Instant) (l : List Char) :
    isoMillis t ++ l < isoMillis t' ++ l ↔ t.millis < t'.millis := by
  obtain ⟨y, m, d, h, mi, s, ms, hp⟩ := exists_parts t
  obtain ⟨y', m', d', h', mi', s', ms', hp'⟩ := exists_parts t'
  obtain ⟨-, -, -, hh, hmi, hs, hms⟩ := hp.lt
  obtain ⟨-, -, -, hh', hmi', hs', hms'⟩ := hp'.lt
  have hday := ord2ymd_lt_iff (t.1 / microsPerDay) (t'.1 / microsPerDay)
  have hday' := ord2ymd_lt_iff (t'.1 / microsPerDay) (t.1 / microsPerDay)
  rw [hp.date, hp'.date] at hday hday'
  dsimp only at hday hday'
  rw [hp.text_lt_iff hp' l, dateThenTime_iff, timeOfDay_lt_iff hmi hs hms hmi' hs' hms', hday,
    ← date_eq_iff hday hday',
    ← dayThenTime_lt_iff (timeOfDay_lt hh hmi hs hms) (timeOfDay_lt hh' hmi' hs' hms'),
    ← Nat.add_assoc, ← Nat.add_assoc, ← hp.millis, ← hp'.millis]

end

/-! ### Reading a time text -/

theorem isAsciiDigit_ofNat {d : ℕ} (hd : d < 10) :
    isAsciiDigit (Char.ofNat (48 + d)) = true ∧ (Char.ofNat (48 + d)).toNat - 48 = d := by
  have hall : ∀ d < 10, isAsciiDigit (Char.ofNat (48 + d)) = true ∧
      (Char.ofNat (48 + d)).toNat - 48 = d := by decide
  exact hall d hd

theorem foldl_digits (w n a : ℕ) :
    (digits w n).foldl (fun n c => n * 10 + (c.toNat - 48)) a = a * 10 ^ w + n % 10 ^ w := by
  induction w generalizing a with
  | zero => simp [digits, Nat.mod_one]
  | succ w ih =>
    rw [digits_succ, List.foldl_cons, ih, (isAsciiDigit_ofNat (Nat.mod_lt _ (by decide))).2,
      mod_succ_pow, pow_succ]
    ring

theorem numberOf_digits {w n : ℕ} (hw : 0 < w) (hn : n < 10 ^ w) :
    number (digits w n) = some n ∧ numberOf w (digits w n) = some n := by
  have hempty : (digits w n).isEmpty = false := by
    rw [List.isEmpty_eq_false_iff, ← List.length_pos_iff, length_digits]
    exact hw
  have hall : (digits w n).all isAsciiDigit = true := by
    rw [List.all_eq_true]
    intro c hc
    obtain ⟨d, hd, rfl⟩ := mem_digits hc
    exact (isAsciiDigit_ofNat hd).1
  have hnumber : number (digits w n) = some n := by
    rw [number, hempty, hall, foldl_digits, Nat.mod_eq_of_lt hn]
    simp
  refine ⟨hnumber, ?_⟩
  rw [numberOf, length_digits, hnumber]
  simp

theorem digit_ne {c : Char} (h : isAsciiDigit c = true) :
    c ≠ '-' ∧ c ≠ 'W' ∧ c ≠ '+' ∧ c ≠ 'Z' := by
  refine ⟨?_, ?_, ?_, ?_⟩ <;> rintro rfl <;> exact absurd h (by decide)

theorem digits_two (n : ℕ) : ∃ a b, digits 2 n = [a, b] ∧ isAsciiDigit a = true := by
  refine ⟨_, _, rfl, ?_⟩
  exact (isAsciiDigit_ofNat (Nat.mod_lt _ (by decide))).1

theorem parseDate_digits {y m d : ℕ} (hy : y < 10 ^ 4) (hm : m < 10 ^ 2) (hd : d < 10 ^ 2)
    (hvalid : Valid y m d) :
    parseDate (digits 4 y ++ (['-'] ++ (digits 2 m ++ (['-'] ++ digits 2 d)))) =
      some (ymd2ord y m d - 1) := by
  have hyear := (numberOf_digits (by decide) hy).2
  have hmonth := (numberOf_digits (by decide) hm).2
  have hday := (numberOf_digits (by decide) hd).2
  obtain ⟨a₁, a₂, a₃, a₄, ha⟩ : ∃ a₁ a₂ a₃ a₄, digits 4 y = [a₁, a₂, a₃, a₄] := ⟨_, _, _, _, rfl⟩
  obtain ⟨b₁, b₂, hb, hb₁⟩ := digits_two m
  obtain ⟨c₁, c₂, hc, -⟩ := digits_two d
  rw [ha] at hyear ⊢
  rw [hb] at hmonth ⊢
  rw [hc] at hday ⊢
  have hweek := (digit_ne hb₁).2.1
  have hcheck : (1 ≤ y && 1 ≤ m && m ≤ 12 && 1 ≤ d && d ≤ daysInMonth y m) = true := by
    simp [hvalid.year, hvalid.month, hvalid.month_le, hvalid.day, hvalid.day_le]
  simp [parseDate, hyear, hmonth, hday, hweek, hvalid.year, hvalid.month,
    hvalid.month_le, hvalid.day, hvalid.day_le]

theorem parseTime_digits {h mi s ms : ℕ} (hh : h < 10 ^ 2) (hmi : mi < 10 ^ 2) (hs : s < 10 ^ 2)
    (hms : ms < 10 ^ 3) :
    parseTime (digits 2 h ++ ([':'] ++ (digits 2 mi ++ ([':'] ++ (digits 2 s ++ (['.'] ++
      digits 3 ms)))))) = some (h, mi, s, ms * 1000) := by
  have hhour := (numberOf_digits (by decide) hh).2
  have hminute := (numberOf_digits (by decide) hmi).2
  have hsecond := (numberOf_digits (by decide) hs).2
  have hmilli := (numberOf_digits (by decide) hms).1
  obtain ⟨a₁, a₂, ha, -⟩ := digits_two h
  obtain ⟨b₁, b₂, hb, -⟩ := digits_two mi
  obtain ⟨c₁, c₂, hc, -⟩ := digits_two s
  obtain ⟨d₁, d₂, d₃, hd⟩ : ∃ d₁ d₂ d₃, digits 3 ms = [d₁, d₂, d₃] := ⟨_, _, _, rfl⟩
  rw [ha] at hhour ⊢
  rw [hb] at hminute ⊢
  rw [hc] at hsecond ⊢
  rw [hd] at hmilli ⊢
  simp [parseTime, parseFraction, hhour, hminute, hsecond, hmilli]

theorem zonePos_append {l : List Char} (h : ∀ c ∈ l, c ≠ '-' ∧ c ≠ '+' ∧ c ≠ 'Z') :
    zonePos (l ++ ['Z']) = some l.length := by
  have hminus : '-' ∉ l := fun hmem => (h _ hmem).1 rfl
  have hplus : '+' ∉ l := fun hmem => (h _ hmem).2.1 rfl
  have hzone : 'Z' ∉ l := fun hmem => (h _ hmem).2.2 rfl
  simp [zonePos, hminus, hplus, List.idxOf_append_of_notMem hzone]

theorem findSeparator_digits {y m d : ℕ} (l : List Char) :
    findSeparator (digits 4 y ++ (['-'] ++ (digits 2 m ++ (['-'] ++ digits 2 d))) ++ l) =
    some 10 := by
  obtain ⟨a₁, a₂, a₃, a₄, ha⟩ : ∃ a₁ a₂ a₃ a₄, digits 4 y = [a₁, a₂, a₃, a₄] := ⟨_, _, _, _, rfl⟩
  obtain ⟨b₁, b₂, hb, hb₁⟩ := digits_two m
  obtain ⟨c₁, c₂, hc, -⟩ := digits_two d
  rw [ha, hb, hc]
  simp [findSeparator, (digit_ne hb₁).2.1]

theorem parseTimeZone_digits {h mi s ms : ℕ} (hh : h < 24) (hmi : mi < 60) (hs : s < 60)
    (hms : ms < 1000) :
    parseTimeZone ((digits 2 h ++ ([':'] ++ (digits 2 mi ++ ([':'] ++ (digits 2 s ++ (['.'] ++
      digits 3 ms)))))) ++ ['Z']) = some (microsOf (h, mi, s, ms * 1000), some 0) := by
  have htime := parseTime_digits (show h < 10 ^ 2 by omega) (show mi < 10 ^ 2 by omega)
    (show s < 10 ^ 2 by omega) (show ms < 10 ^ 3 by omega)
  have hmarks : ∀ c ∈ digits 2 h ++ ([':'] ++ (digits 2 mi ++ ([':'] ++ (digits 2 s ++ (['.'] ++
      digits 3 ms))))), c ≠ '-' ∧ c ≠ '+' ∧ c ≠ 'Z' := by
    intro c hc
    have hdigit {w n : ℕ} (h : c ∈ digits w n) : c ≠ '-' ∧ c ≠ '+' ∧ c ≠ 'Z' := by
      obtain ⟨d, hd, rfl⟩ := mem_digits h
      obtain ⟨hminus, -, hplus, hzone⟩ := digit_ne (isAsciiDigit_ofNat hd).1
      exact ⟨hminus, hplus, hzone⟩
    simp only [List.mem_append, List.mem_singleton] at hc
    rcases hc with hc | rfl | hc | rfl | hc | rfl | hc
    all_goals first | exact hdigit hc | decide
  have hzone := zonePos_append hmarks
  generalize hl : digits 2 h ++ ([':'] ++ (digits 2 mi ++ ([':'] ++ (digits 2 s ++ (['.'] ++
      digits 3 ms))))) = l at htime hzone
  have hlength : l.length = 12 := by
    rw [← hl]
    simp [length_digits]
  have hutc : parseZone (l ++ ['Z']) l.length = some 0 := by
    simp [parseZone]
  have hshort : ¬ (l ++ ['Z']).length < 2 := by
    rw [List.length_append]
    omega
  unfold parseTimeZone
  rw [if_neg hshort]
  simp [hzone, htime, hutc, show ¬ 23 < h by omega,
    show ¬ 59 < mi by omega, show ¬ 59 < s by omega]

/-- **A time text is read back** as its instant, without the microseconds. -/
theorem fromIsoformat_isoMillis (t : Instant) :
    fromIsoformat (isoMillis t ++ ['Z']) = some (t.millis * 1000, some 0) := by
  obtain ⟨y, m, d, h, mi, s, ms, hp⟩ := exists_parts t
  obtain ⟨hy, hm, hd, hh, hmi, hs, hms⟩ := hp.lt
  obtain ⟨hvalid, hord⟩ := hp.valid
  have hdate := parseDate_digits hy hm hd hvalid
  have htime := parseTimeZone_digits hh hmi hs hms
  have hsep := @findSeparator_digits y m d
  have htext : isoMillis t ++ ['Z'] =
      (digits 4 y ++ (['-'] ++ (digits 2 m ++ (['-'] ++ digits 2 d)))) ++ ('T' ::
        ((digits 2 h ++ ([':'] ++ (digits 2 mi ++ ([':'] ++ (digits 2 s ++ (['.'] ++
          digits 3 ms)))))) ++ ['Z'])) := by
    rw [hp.text]
    simp only [List.append_assoc, List.cons_append, List.nil_append]
  rw [htext]
  generalize hl : digits 4 y ++ (['-'] ++ (digits 2 m ++ (['-'] ++ digits 2 d))) = date
    at hdate hsep ⊢
  generalize digits 2 h ++ ([':'] ++ (digits 2 mi ++ ([':'] ++ (digits 2 s ++ (['.'] ++
    digits 3 ms))))) ++ ['Z'] = time at htime ⊢
  have hlength : date.length = 10 := by
    rw [← hl]
    simp [length_digits]
  have hshort : ¬ (date ++ 'T' :: time).length < 7 := by
    rw [List.length_append]
    omega
  have htake : (date ++ 'T' :: time).take 10 = date := List.take_left' hlength
  have hdrop : (date ++ 'T' :: time).drop (10 + 1) = time := by
    rw [← List.drop_drop, List.drop_left' hlength]
    rfl
  have htail : time.isEmpty = false := by
    by_contra hempty
    rw [Bool.not_eq_false, List.isEmpty_iff] at hempty
    rw [hempty] at htime
    cases htime
  have hmicros : (ymd2ord y m d - 1) * microsPerDay + microsOf (h, mi, s, ms * 1000) =
      t.millis * 1000 := by
    rw [hord, hp.millis, microsOf, Nat.add_sub_cancel]
    generalize t.1 / microsPerDay = day
    dsimp only
    unfold microsPerDay microsPerSecond
    omega
  unfold fromIsoformat
  rw [if_neg hshort]
  simp only [hsep, Option.bind_eq_bind, Option.bind_some, htake, hdrop, htail, hdate,
    htime, hmicros, Bool.false_eq_true, if_false]
  rfl

end Blessing.Lib.DateTime
