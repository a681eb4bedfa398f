import Blessing.Lib.Calendar
import Blessing.Queue.Sqlite

/-! # Queue timestamps

The queue keeps its times as texts of `utc_iso` and lets SQL compare the texts. A text is the
rendering of an instant at the resolution of milliseconds, so the comparison of two texts is the
comparison of the instants, and the end of a lease that `_lease_expiry` computes from a text is the
text of the later instant.

* `utcIso?_lt_iff`, `utcIso?_le_iff`: texts are ordered as milliseconds.
* `leaseExpiry_utcIso?`: the lease end is the text of the instant `ttl` seconds later.
* `timestamps_sort_as_time`: what this means for `claim_next` and `recover_expired`. -/

namespace Blessing.Queue.Timestamps

open Blessing.Lib.DateTime
open Blessing.Queue.Models Blessing.Queue.Storage Blessing.Queue.Sqlite

/-- An aware datetime: the microseconds of the local time and the offset from UTC, both in range. -/
structure Aware where
  micros : ℕ
  offset : ℤ
  inYears : micros < maxMicros
  inDay : -(microsPerDay : ℤ) < offset ∧ offset < microsPerDay

/-- The instant of a datetime: microseconds in UTC. -/
def Aware.instant (t : Aware) : ℤ := t.micros - t.offset

/-- The instant at the resolution of milliseconds. -/
def Aware.millis (t : Aware) : ℤ := t.instant / 1000

/-- `utc_iso` of an aware datetime; nothing where the conversion to UTC leaves the years 1 to
9999. -/
def Aware.utcIso? (t : Aware) : Option String := (utcOf (t.micros, some t.offset)).map utcIso

/-! ### Instants and their texts -/

theorem instant?_eq_some {n : ℤ} {u : Instant} : instant? n = some u ↔ (u.1 : ℤ) = n := by
  unfold instant?
  by_cases hrange : 0 ≤ n ∧ n < maxMicros
  · rw [dif_pos hrange]
    constructor
    · intro h
      obtain rfl := Option.some.inj h
      exact Int.toNat_of_nonneg hrange.1
    · intro h
      refine congrArg some (Subtype.ext ?_)
      dsimp only
      omega
  · rw [dif_neg hrange]
    constructor
    · intro h
      cases h
    · intro h
      have hlt := u.2
      omega

theorem utcIso?_eq_some {t : Aware} {s : String} :
    t.utcIso? = some s ↔ ∃ u : Instant, (u.1 : ℤ) = t.instant ∧ utcIso u = s := by
  unfold Aware.utcIso? utcOf
  rw [Option.map_eq_some_iff]
  simp only [instant?_eq_some, Option.getD_some]
  rfl

theorem millis_eq {t : Aware} {u : Instant} (h : (u.1 : ℤ) = t.instant) : t.millis = u.millis := by
  unfold Aware.millis Instant.millis
  rw [← h]
  omega

theorem utcIso_lt_iff (u u' : Instant) : utcIso u < utcIso u' ↔ u.millis < u'.millis := by
  rw [String.lt_iff_toList_lt, utcIso, utcIso, String.toList_ofList, String.toList_ofList]
  exact isoMillis_lt_iff u u' ['Z']

theorem utcIso_congr {u u' : Instant} (h : u.millis = u'.millis) : utcIso u = utcIso u' := by
  rcases lt_trichotomy (utcIso u) (utcIso u') with hlt | heq | hlt
  · rw [utcIso_lt_iff] at hlt
    omega
  · exact heq
  · rw [utcIso_lt_iff] at hlt
    omega

theorem instant?_congr {n n' : ℤ} (h : n / 1000 = n' / 1000) :
    (instant? n).map utcIso = (instant? n').map utcIso := by
  have hmax : maxMicros = daysBeforeYear 10000 * 86400000 * 1000 := by
    unfold maxMicros microsPerDay microsPerSecond
    omega
  have hrange : (0 ≤ n ∧ n < maxMicros) ↔ (0 ≤ n' ∧ n' < maxMicros) := by
    rw [hmax]
    omega
  unfold instant?
  by_cases hin : 0 ≤ n ∧ n < maxMicros
  · rw [dif_pos hin, dif_pos (hrange.mp hin)]
    refine congrArg some (utcIso_congr ?_)
    unfold Instant.millis
    dsimp only
    omega
  · rw [dif_neg hin, dif_neg (mt hrange.mpr hin)]

section

variable {t t' : Aware} {s s' : String}

theorem utcIso?_lt_iff (h : t.utcIso? = some s) (h' : t'.utcIso? = some s') :
    s < s' ↔ t.millis < t'.millis := by
  obtain ⟨u, hu, rfl⟩ := utcIso?_eq_some.mp h
  obtain ⟨u', hu', rfl⟩ := utcIso?_eq_some.mp h'
  rw [utcIso_lt_iff, millis_eq hu, millis_eq hu']
  omega

theorem utcIso?_le_iff (h : t.utcIso? = some s) (h' : t'.utcIso? = some s') :
    s ≤ s' ↔ t.millis ≤ t'.millis := by
  rw [← not_lt, utcIso?_lt_iff h' h, not_lt]

/-! ### Leases -/

/-- A text is read back as its milliseconds, so a whole number of seconds later both have one
text. -/
theorem leaseExpiry_utcIso? {ttl : ℤ} (h : t.utcIso? = some s)
    (hlater : t'.instant = t.instant + ttl * microsPerSecond) : leaseExpiry s ttl = t'.utcIso? := by
  obtain ⟨u, hu, rfl⟩ := utcIso?_eq_some.mp h
  have hread : fromIsoformat (utcIso u).toList = some (u.millis * 1000, some 0) := by
    rw [utcIso, String.toList_ofList, fromIsoformat_isoMillis]
  -- the milliseconds of an instant are an instant of the same range
  obtain ⟨v, hv⟩ : ∃ v : Instant, v.1 = u.millis * 1000 :=
    ⟨⟨u.millis * 1000, lt_of_le_of_lt (Nat.div_mul_le_self u.1 1000) u.2⟩, rfl⟩
  have hutc : utcOf (u.millis * 1000, some 0) = some v := instant?_eq_some.mpr (by simp [hv])
  have hmillis : ((v.1 : ℤ) + ttl * microsPerSecond) / 1000 =
      ((t'.micros : ℤ) - t'.offset) / 1000 := by
    have hinstant : (t'.micros : ℤ) - t'.offset = u.1 + ttl * microsPerSecond := by
      rw [hu, ← hlater]
      rfl
    rw [hinstant, hv]
    unfold Instant.millis microsPerSecond
    omega
  rw [leaseExpiry, hread, Option.bind_eq_bind, Option.bind_some, hutc, Option.bind_eq_bind,
    Option.bind_some]
  exact (Option.map_eq_bind ..).symm.trans (instant?_congr hmillis)

/-- **Queue timestamps sort as time.** Texts of datetimes are ordered as the instants in
milliseconds, the lease end is the text of the instant `ttl` seconds later, a retry is due when its
instant has come and a lease has expired when its end is past. -/
theorem timestamps_sort_as_time (h : t.utcIso? = some s) (h' : t'.utcIso? = some s') :
    (s ≤ s' ↔ t.millis ≤ t'.millis) ∧
    (∀ (ttl : ℤ) (e : Aware), e.instant = t.instant + ttl * microsPerSecond →
      leaseExpiry s ttl = e.utcIso?) ∧
    (∀ kinds jobs job, job.nextAttemptAt = some s →
      claimable s' kinds jobs job =
        (claimable s' kinds jobs { job with nextAttemptAt := none } &&
          decide (t.millis ≤ t'.millis))) ∧
    (∀ job, job.leaseUntil = some s →
      expired s' job = (job.status == .running && decide (t.millis < t'.millis))) := by
  have hle := utcIso?_le_iff h h'
  have hlt := utcIso?_lt_iff h h'
  refine ⟨hle, fun ttl e he => leaseExpiry_utcIso? h he, ?_, ?_⟩
  · intro kinds jobs job hjob
    unfold claimable
    rw [hjob]
    simp only [Option.all_some, Option.all_none, decide_eq_decide.mpr hle, Bool.and_true]
    ac_rfl
  · intro job hjob
    unfold expired
    rw [hjob, Option.any_some, decide_eq_decide.mpr hlt]

end

/-- A datetime half a millisecond before midnight in a zone two hours east of UTC. -/
def leapEvening : Aware where
  micros := ymd2ord 2028 2 29 * microsPerDay - 500
  offset := 7200 * microsPerSecond
  inYears := by decide +kernel
  inDay := by decide +kernel

/-- The first instant of March of the same year, in UTC. -/
def firstOfMarch : Aware where
  micros := (ymd2ord 2028 3 1 - 1) * microsPerDay
  offset := 0
  inYears := by decide +kernel
  inDay := by decide +kernel

theorem timestamps_sort_as_time_leapDay :
    (("2028-02-29T21:59:59.999Z" ≤ "2028-03-01T00:00:00.000Z") ↔
      leapEvening.millis ≤ firstOfMarch.millis) ∧
    (∀ (ttl : ℤ) (e : Aware), e.instant = leapEvening.instant + ttl * microsPerSecond →
      leaseExpiry "2028-02-29T21:59:59.999Z" ttl = e.utcIso?) :=
  have hevening : leapEvening.utcIso? = some "2028-02-29T21:59:59.999Z" := by decide +kernel
  have hfirst : firstOfMarch.utcIso? = some "2028-03-01T00:00:00.000Z" := by decide +kernel
  have h := timestamps_sort_as_time hevening hfirst
  ⟨h.1, h.2.1⟩

end Blessing.Queue.Timestamps
