import Mathlib.Data.List.Basic
import Mathlib.Tactic.NormNum

/-! # Calendar time and its ISO 8601 texts

An instant is the number of microseconds since the first of January of the year 1, and a datetime
text denotes an instant together with an optional offset from UTC. The calendar functions and the
parser are those of the standard library (`ord2ymd`, `fromisoformat`), including the order in which
the parser looks for the separator of date and time. -/

namespace Blessing.Lib.DateTime

/-! ### The calendar -/

def isLeap (y : ℕ) : Bool := y % 4 == 0 && (y % 100 != 0 || y % 400 == 0)

/-- Days before the first of January of the year `y ≥ 1`. -/
def daysBeforeYear (y : ℕ) : ℕ := (y - 1) * 365 + (y - 1) / 4 - (y - 1) / 100 + (y - 1) / 400

/-- Days before the first of the month, in a common year. -/
def daysBeforeMonthTable : List ℕ := [0, 0, 31, 59, 90, 120, 151, 181, 212, 243, 273, 304, 334]

def daysInMonthTable : List ℕ := [0, 31, 28, 31, 30, 31, 30, 31, 31, 30, 31, 30, 31]

def daysInMonth (y m : ℕ) : ℕ :=
  if m == 2 && isLeap y then 29 else daysInMonthTable.getD m 0

def daysBeforeMonth (y m : ℕ) : ℕ :=
  daysBeforeMonthTable.getD m 0 + if 2 < m && isLeap y then 1 else 0

/-- Day number of a date, the first of January of the year 1 being day 1. -/
def ymd2ord (y m d : ℕ) : ℕ := daysBeforeYear y + daysBeforeMonth y m + d

/-- The date of a day number, counted from 0. -/
def ord2ymd (n : ℕ) : ℕ × ℕ × ℕ :=
  let n400 := n / 146097
  let n := n % 146097
  let n100 := n / 36524
  let n := n % 36524
  let n4 := n / 1461
  let n := n % 1461
  let n1 := n / 365
  let n := n % 365
  let year := n400 * 400 + 1 + n100 * 100 + n4 * 4 + n1
  if n1 == 4 || n100 == 4 then (year - 1, 12, 31)
  else
    let leap := n1 == 3 && (n4 != 24 || n100 == 3)
    let month := (n + 50) / 32
    let preceding := daysBeforeMonthTable.getD month 0 + if 2 < month && leap then 1 else 0
    if n < preceding then
      let month := month - 1
      let preceding :=
        preceding - (daysInMonthTable.getD month 0 + if month == 2 && leap then 1 else 0)
      (year, month, n - preceding + 1)
    else (year, month, n - preceding + 1)

/-! ### Instants -/

def microsPerSecond : ℕ := 1000000

def microsPerDay : ℕ := 86400 * microsPerSecond

/-- One past the last instant of the year 9999. -/
def maxMicros : ℕ := daysBeforeYear 10000 * microsPerDay

/-- An instant of the years 1 to 9999, as a datetime in UTC can hold it. -/
def Instant := { t : ℕ // t < maxMicros }

/-- The instant with this microsecond count; outside the years 1 to 9999 the datetime overflows. -/
def instant? (t : ℤ) : Option Instant :=
  if h : 0 ≤ t ∧ t < maxMicros then some ⟨t.toNat, by omega⟩ else none

/-- The decimal digits of `n`, padded to `w` places. -/
def digits (w n : ℕ) : List Char :=
  (List.range w).reverse.map fun i => Char.ofNat (48 + n / 10 ^ i % 10)

/-- `isoformat(timespec="milliseconds")` of an instant in UTC, without the offset. -/
def isoMillis (t : Instant) : List Char :=
  let (y, m, d) := ord2ymd (t.1 / microsPerDay)
  let s := t.1 % microsPerDay / microsPerSecond
  digits 4 y ++ ['-'] ++ digits 2 m ++ ['-'] ++ digits 2 d ++ ['T'] ++ digits 2 (s / 3600) ++
    [':'] ++ digits 2 (s / 60 % 60) ++ [':'] ++ digits 2 (s % 60) ++ ['.'] ++
    digits 3 (t.1 % microsPerSecond / 1000)

theorem mem_digits {w n : ℕ} {c : Char} (h : c ∈ digits w n) :
    ∃ d < 10, c = Char.ofNat (48 + d) := by
  simp only [digits, List.mem_map] at h
  obtain ⟨i, -, rfl⟩ := h
  exact ⟨_, Nat.mod_lt _ (by decide), rfl⟩

theorem mem_isoMillis {t : Instant} {c : Char} (h : c ∈ isoMillis t) :
    (∃ d < 10, c = Char.ofNat (48 + d)) ∨ c ∈ ['-', 'T', ':', '.'] := by
  simp only [isoMillis, List.mem_append, List.mem_singleton] at h
  rcases h with ((((((((((((h | h) | h) | h) | h) | h) | h) | h) | h) | h) | h) | h) | h)
  all_goals first | exact .inl (mem_digits h) | exact .inr (by simp [h])

/-! ### Parsing -/

def isAsciiDigit (c : Char) : Bool := '0' ≤ c && c ≤ '9'

/-- A non-empty text of digits as a number. -/
def number (cs : List Char) : Option ℕ :=
  if cs.isEmpty || !cs.all isAsciiDigit then none
  else some (cs.foldl (fun n c => n * 10 + (c.toNat - 48)) 0)

/-- Exactly `w` digits as a number. -/
def numberOf (w : ℕ) (cs : List Char) : Option ℕ := if cs.length == w then number cs else none

/-- `_find_isoformat_datetime_separator`. -/
def findSeparator (cs : List Char) : Option ℕ :=
  let at? (i : ℕ) := cs[i]?
  if cs.length == 7 then some 7
  else if at? 4 == some '-' then
    if at? 5 == some 'W' then
      if 8 < cs.length && at? 8 == some '-' then
        if cs.length == 9 then none
        else if 10 < cs.length && ((at? 10).any isAsciiDigit) then some 8
        else some 10
      else some 8
    else some 10
  else if at? 4 == some 'W' then
    let idx := 7 + ((cs.drop 7).takeWhile isAsciiDigit).length
    if idx < 9 then some idx else if idx % 2 == 0 then some 7 else some 8
  else some 8

/-- Day number of the day `d` of the ISO week `w`. -/
def isoWeekDay (y w d : ℕ) : Option ℕ :=
  let firstWeekday := ymd2ord y 1 1 % 7
  let has53 := firstWeekday == 4 || (firstWeekday == 3 && isLeap y)
  if 1 ≤ y && y ≤ 9999 && 1 ≤ w && (w ≤ 52 || (w == 53 && has53)) && 1 ≤ d && d ≤ 7 then
    -- the first ISO week is the one with the first Thursday of the year
    let jan1 := daysBeforeYear y
    let monday := jan1 - (jan1 % 7) + if jan1 % 7 ≤ 3 then 0 else 7
    some (monday + (w - 1) * 7 + (d - 1))
  else none

/-- `_parse_isoformat_date`: the day number counted from 0. -/
def parseDate (cs : List Char) : Option ℕ := do
  let y ← numberOf 4 (cs.take 4)
  let sep := cs[4]? == some '-'
  let rest := cs.drop (if sep then 5 else 4)
  if rest.head? == some 'W' then
    let w ← numberOf 2 ((rest.drop 1).take 2)
    let tail := rest.drop 3
    if tail.isEmpty then isoWeekDay y w 1
    else if (tail.head? == some '-') != sep then none
    else
      let d ← numberOf 1 ((if sep then tail.drop 1 else tail).take 1)
      isoWeekDay y w d
  else
    let m ← numberOf 2 (rest.take 2)
    let tail := rest.drop 2
    if (tail.head? == some '-') != sep then none
    else
      let d ← numberOf 2 ((if sep then tail.drop 1 else tail).take 2)
      if 1 ≤ y && 1 ≤ m && m ≤ 12 && 1 ≤ d && d ≤ daysInMonth y m then
        some (ymd2ord y m d - 1)
      else none

/-- The fraction of a second behind the separator: six digits count, the others are dropped. -/
def parseFraction (cs : List Char) : Option ℕ := do
  let n ← number (cs.take 6)
  if !(cs.drop 6).all isAsciiDigit then none
  else some (n * 10 ^ (6 - (cs.take 6).length))

/-- `_parse_hh_mm_ss_ff`: hours, minutes, seconds and microseconds. -/
def parseTime (cs : List Char) : Option (ℕ × ℕ × ℕ × ℕ) := do
  let fraction (h m s : ℕ) (rest : List Char) : Option (ℕ × ℕ × ℕ × ℕ) :=
    match rest with
    | [] => some (h, m, s, 0)
    | c :: rest =>
      if c == '.' || c == ',' then (parseFraction rest).map fun f => (h, m, s, f) else none
  let h ← numberOf 2 (cs.take 2)
  let rest := cs.drop 2
  if rest.isEmpty then return (h, 0, 0, 0)
  let sep := rest.head? == some ':'
  let rest := if sep then rest.drop 1 else rest
  let m ← numberOf 2 (rest.take 2)
  let rest := rest.drop 2
  if rest.isEmpty then return (h, m, 0, 0)
  if sep && rest.head? != some ':' then none
  let rest := if sep then rest.drop 1 else rest
  let s ← numberOf 2 (rest.take 2)
  fraction h m s (rest.drop 2)

def microsOf (t : ℕ × ℕ × ℕ × ℕ) : ℕ :=
  (t.1 * 3600 + t.2.1 * 60 + t.2.2.1) * microsPerSecond + t.2.2.2

/-- The position of the time zone mark: the first `-`, else the first `+`, else the first `Z`. -/
def zonePos (cs : List Char) : Option ℕ :=
  let first (c : Char) := if c ∈ cs then some (cs.idxOf c) else none
  (first '-').or ((first '+').or (first 'Z'))

/-- The offset behind the time: microseconds east of UTC, less than a day. -/
def parseZone (cs : List Char) (pos : ℕ) : Option ℤ :=
  if pos + 1 == cs.length && cs[pos]? == some 'Z' then some 0
  else
    let zone := cs.drop (pos + 1)
    if [0, 1, 3].contains zone.length then none
    else (parseTime zone).bind fun t =>
      let offset : ℤ := if cs[pos]? == some '-' then -(microsOf t) else microsOf t
      if -(microsPerDay : ℤ) < offset ∧ offset < microsPerDay then some offset else none

/-- `_parse_isoformat_time`: microseconds of the day and the offset, if one is given. -/
def parseTimeZone (cs : List Char) : Option (ℕ × Option ℤ) := do
  if cs.length < 2 then none
  let zone := zonePos cs
  let (h, m, s, f) ← parseTime (match zone with | some pos => cs.take pos | none => cs)
  if 23 < h || 59 < m || 59 < s then none
  let micros := microsOf (h, m, s, f)
  match zone with
  | none => return (micros, none)
  | some pos => return (micros, some (← parseZone cs pos))

/-- `datetime.fromisoformat`: microseconds of the local time and the offset, if one is given. -/
def fromIsoformat (cs : List Char) : Option (ℕ × Option ℤ) := do
  if cs.length < 7 then none
  let pos ← findSeparator cs
  let day ← parseDate (cs.take pos)
  let tail := cs.drop (pos + 1)
  if tail.isEmpty then return (day * microsPerDay, none)
  let (micros, offset) ← parseTimeZone tail
  return (day * microsPerDay + micros, offset)

/-- The instant in UTC; a text without an offset is taken to be in UTC. -/
def utcOf (d : ℕ × Option ℤ) : Option Instant := instant? (d.1 - d.2.getD 0)

/-- The instant `s` seconds later. -/
def addSeconds (t : Instant) (s : ℤ) : Option Instant := instant? (t.1 + s * microsPerSecond)

end Blessing.Lib.DateTime
