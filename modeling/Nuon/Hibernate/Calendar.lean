import Mathlib.Data.Int.Defs

/-!
# Hibernation: the calendar of `tor_localtime_r` and `mktime`

`edge_of_accounting_period_containing` breaks a time into a `struct tm` with `tor_localtime_r`,
moves its day or its month, and turns it back into a time with `mktime`, which normalises a
`tm_mon` or a `tm_mday` out of range. Both are C library calls outside the sources; with local
time taken as UTC they are the proleptic Gregorian calendar, modelled here over `Int` days.

Days are counted from 1970-01-01, and months by one index `12 * year + month`.
`monthStartDay k` is the day month `k` begins on. `civilFromDays` inverts it
(`civilFromDays_spec`), every month has 28 to 31 days (`monthStartDay_succ`), so a day of the
month up to 28 names exactly one day of each month (`civilFromDays_monthStartDay`).
-/

namespace Nuon.Hibernate

/-- Days from 0000-03-01 to the first of March of year `y`: a year from March ends with the leap
day, if its year has one. -/
def marchYearStart (y : Int) : Int :=
  365 * y + y / 4 - y / 100 + y / 400

/-- The day, counted from 1970-01-01, on which month `k` begins; month `12 * y + m` is month `m`
(from `0`, January) of year `y`. `(153 * p + 2) / 5` is the offset of the `p`-th month after
March. -/
def monthStartDay (k : Int) : Int :=
  marchYearStart ((k - 2) / 12) + (153 * ((k - 2) % 12) + 2) / 5 - 719468

/-- The year (from March) within a 400-year era, and the day of that year, of day `doe` of the
era: its first three centuries have 36524 days, a four-year cycle 1461, and the first three
years of a cycle 365. -/
def yearOfEra (doe : Int) : Int × Int :=
  let century := min (doe / 36524) 3
  let doc := doe - 36524 * century
  let year := min (doc % 1461 / 365) 3
  (100 * century + 4 * (doc / 1461) + year, doc % 1461 - 365 * year)

/-- The month index and the day of the month (from `1`) of day `days`. -/
def civilFromDays (days : Int) : Int × Int :=
  let z := days + 719468
  let yd := yearOfEra (z % 146097)
  let month := (5 * yd.2 + 2) / 153
  (12 * (400 * (z / 146097) + yd.1) + month + 2, yd.2 - (153 * month + 2) / 5 + 1)

/-- The fields of `struct tm` that `edge_of_accounting_period_containing` reads or sets.
`tm_yday` is read by no one, and `tm_isdst = -1` asks `mktime` to find out about summer time, of
which UTC has none. -/
structure Tm where
  tmSec : Int
  tmMin : Int
  tmHour : Int
  tmMday : Int
  tmMon : Int
  tmYear : Int
  tmWday : Int
  deriving Repr, DecidableEq

/-- Modelled from the spec: `tor_localtime_r(&now, &tm)` with local time taken as UTC. Day `0`,
1970-01-01, was a Thursday. -/
def torLocaltimeR (now : Int) : Tm :=
  let days := now / 86400
  let secs := now % 86400
  let civil := civilFromDays days
  { tmSec := secs % 60, tmMin := secs / 60 % 60, tmHour := secs / 3600, tmMday := civil.2,
    tmMon := civil.1 % 12, tmYear := civil.1 / 12 - 1900, tmWday := (days + 4) % 7 }

/-- Modelled from the spec: `mktime(&tm)` in UTC. A month out of `0..11` moves the year, and a
day, hour, minute or second out of range moves the result linearly, as C asks of `mktime`. -/
def mktime (tm : Tm) : Int :=
  (monthStartDay (12 * (tm.tmYear + 1900) + tm.tmMon) + tm.tmMday - 1) * 86400 +
    tm.tmHour * 3600 + tm.tmMin * 60 + tm.tmSec

/-! ## Years and months -/

/-- A year from March has 365 or 366 days. -/
theorem marchYearStart_succ (y : Int) :
    365 ≤ marchYearStart (y + 1) - marchYearStart y ∧
      marchYearStart (y + 1) - marchYearStart y ≤ 366 := by
  unfold marchYearStart; omega

private theorem marchYearStart_era (era y : Int) :
    marchYearStart (400 * era + y) = 146097 * era + marchYearStart y := by
  unfold marchYearStart; omega

/-- Where the year of an era begins, counted in centuries, four-year cycles and years. -/
theorem marchYearStart_cycles {century cycle year : Int} (centuries : 0 ≤ century ∧ century ≤ 3)
    (cycles : 0 ≤ cycle ∧ cycle ≤ 24) (years : 0 ≤ year ∧ year ≤ 3) :
    marchYearStart (100 * century + 4 * cycle + year) =
      36524 * century + 1461 * cycle + 365 * year := by
  unfold marchYearStart; omega

/-- The last year of a four-year cycle ends with a leap day unless it ends one of the first three
centuries of an era. -/
theorem marchYearStart_leap {century cycle : Int} (cycles : 0 ≤ cycle ∧ cycle ≤ 24) (notCentury : cycle = 24 → century = 3) :
    marchYearStart (100 * century + 4 * cycle + 3 + 1) =
      marchYearStart (100 * century + 4 * cycle + 3) + 366 := by
  unfold marchYearStart; omega

/-- `yearOfEra` finds the year a day of the era falls in. -/
theorem yearOfEra_spec (doe : Int) (lo : 0 ≤ doe) (hi : doe < 146097) :
    0 ≤ (yearOfEra doe).1 ∧ (yearOfEra doe).1 < 400 ∧
      marchYearStart (yearOfEra doe).1 + (yearOfEra doe).2 = doe ∧ 0 ≤ (yearOfEra doe).2 ∧
      (yearOfEra doe).2 < marchYearStart ((yearOfEra doe).1 + 1) - marchYearStart (yearOfEra doe).1 := by
  unfold yearOfEra
  dsimp only
  have centuries : 0 ≤ min (doe / 36524) 3 ∧ min (doe / 36524) 3 ≤ 3 := by omega
  have doc : 0 ≤ doe - 36524 * min (doe / 36524) 3 ∧ doe - 36524 * min (doe / 36524) 3 ≤ 36524 ∧
      (min (doe / 36524) 3 < 3 → doe - 36524 * min (doe / 36524) 3 < 36524) := by
    omega
  generalize min (doe / 36524) 3 = century at *
  have cycles : 0 ≤ (doe - 36524 * century) / 1461 ∧ (doe - 36524 * century) / 1461 ≤ 24 := by
    omega
  by_cases leapDay : (doe - 36524 * century) % 1461 = 1460
  · rw [show min ((doe - 36524 * century) % 1461 / 365) 3 = 3 by omega,
      marchYearStart_leap cycles (by omega), marchYearStart_cycles centuries cycles (by omega)]
    omega
  · have length := marchYearStart_succ
      (100 * century + 4 * ((doe - 36524 * century) / 1461) +
        min ((doe - 36524 * century) % 1461 / 365) 3)
    rw [marchYearStart_cycles centuries cycles (by omega)] at length ⊢
    omega

/-- A month has 28 to 31 days. -/
theorem monthStartDay_succ (k : Int) :
    28 ≤ monthStartDay (k + 1) - monthStartDay k ∧ monthStartDay (k + 1) - monthStartDay k ≤ 31 := by
  unfold monthStartDay
  by_cases february : (k - 2) % 12 = 11
  · rw [show (k + 1 - 2) / 12 = (k - 2) / 12 + 1 by omega, show (k + 1 - 2) % 12 = 0 by omega]
    have := marchYearStart_succ ((k - 2) / 12)
    omega
  · rw [show (k + 1 - 2) / 12 = (k - 2) / 12 by omega,
      show (k + 1 - 2) % 12 = (k - 2) % 12 + 1 by omega]
    omega

/-- Months begin in order, each at least 28 days after the one before. -/
theorem monthStartDay_le_of_lt {k k' : Int} (lt : k < k') :
    monthStartDay k + 28 ≤ monthStartDay k' := by
  refine Int.le_induction (P := fun k' => monthStartDay k + 28 ≤ monthStartDay k')
    (by have := (monthStartDay_succ k).1; omega) (fun k' _ earlier => ?_) k' lt
  have := (monthStartDay_succ k').1
  omega

/-- The month `p` months after March of year `y` begins `(153 * p + 2) / 5` days after it. -/
theorem monthStartDay_march {y p : Int} (lo : 0 ≤ p) (hi : p < 12) :
    monthStartDay (12 * y + p + 2) = marchYearStart y + (153 * p + 2) / 5 - 719468 := by
  rw [monthStartDay, show (12 * y + p + 2 - 2) / 12 = y by omega,
    show (12 * y + p + 2 - 2) % 12 = p by omega]

/-! ## Days -/

/-- `civilFromDays` names the month a day falls in and the day of that month. -/
theorem civilFromDays_spec (days : Int) :
    monthStartDay (civilFromDays days).1 + (civilFromDays days).2 - 1 = days ∧
      1 ≤ (civilFromDays days).2 ∧
      monthStartDay (civilFromDays days).1 + (civilFromDays days).2 ≤
        monthStartDay ((civilFromDays days).1 + 1) := by
  obtain ⟨yearLo, yearHi, start, dayLo, dayHi⟩ :=
    yearOfEra_spec ((days + 719468) % 146097) (by omega) (by omega)
  have eras : days + 719468 = 146097 * ((days + 719468) / 146097) + (days + 719468) % 146097 := by
    omega
  unfold civilFromDays
  dsimp only
  generalize yearOfEra ((days + 719468) % 146097) = yd at *
  generalize (days + 719468) / 146097 = era at *
  generalize (days + 719468) % 146097 = doe at *
  obtain ⟨yoe, doy⟩ := yd
  dsimp only at *
  have yearLength := marchYearStart_succ yoe
  have month : 0 ≤ (5 * doy + 2) / 153 ∧ (5 * doy + 2) / 153 < 12 := by omega
  have nextYear := marchYearStart_era era (yoe + 1)
  rw [monthStartDay_march month.1 month.2, marchYearStart_era]
  by_cases february : (5 * doy + 2) / 153 = 11
  · rw [february, show 12 * (400 * era + yoe) + 11 + 2 + 1 = 12 * (400 * era + yoe + 1) + 0 + 2 by omega,
      monthStartDay_march (by omega) (by omega), show 400 * era + yoe + 1 = 400 * era + (yoe + 1) by omega]
    omega
  · rw [show 12 * (400 * era + yoe) + (5 * doy + 2) / 153 + 2 + 1 =
        12 * (400 * era + yoe) + ((5 * doy + 2) / 153 + 1) + 2 by omega,
      monthStartDay_march (by omega) (by omega), marchYearStart_era]
    omega

/-- A day of the month up to 28 names one day of every month. -/
theorem civilFromDays_monthStartDay {k mday : Int} (lo : 1 ≤ mday) (hi : mday ≤ 28) :
    civilFromDays (monthStartDay k + mday - 1) = (k, mday) := by
  obtain ⟨start, dayLo, dayHi⟩ := civilFromDays_spec (monthStartDay k + mday - 1)
  generalize civilFromDays (monthStartDay k + mday - 1) = civil at *
  have length := (monthStartDay_succ k).1
  obtain ⟨k', mday'⟩ := civil
  dsimp only at *
  rcases Int.lt_trichotomy k' k with earlier | rfl | later
  · have := monthStartDay_le_of_lt (show k' + 1 ≤ k by omega)
    rcases (show k' + 1 = k ∨ k' + 1 < k by omega) with rfl | before
    · omega
    · have := monthStartDay_le_of_lt before; omega
  · rw [show mday' = mday by omega]
  · have := monthStartDay_le_of_lt later; omega

/-! ## Breaking a time down and back -/

@[simp] private theorem torLocaltimeR_tmSec (now : Int) : (torLocaltimeR now).tmSec = now % 86400 % 60 :=
  rfl

/-- The minute of `tor_localtime_r`. -/
@[simp] theorem torLocaltimeR_tmMin (now : Int) :
    (torLocaltimeR now).tmMin = now % 86400 / 60 % 60 :=
  rfl

/-- The hour of `tor_localtime_r`. -/
@[simp] theorem torLocaltimeR_tmHour (now : Int) : (torLocaltimeR now).tmHour = now % 86400 / 3600 :=
  rfl

/-- The day of the month of `tor_localtime_r`. -/
@[simp] theorem torLocaltimeR_tmMday (now : Int) :
    (torLocaltimeR now).tmMday = (civilFromDays (now / 86400)).2 :=
  rfl

/-- The day of the week of `tor_localtime_r`, Thursday being `4`. -/
@[simp] theorem torLocaltimeR_tmWday (now : Int) : (torLocaltimeR now).tmWday = (now / 86400 + 4) % 7 :=
  rfl

/-- The year and month `tor_localtime_r` gives name the month `civilFromDays` finds. -/
theorem torLocaltimeR_monthIndex (now : Int) :
    12 * ((torLocaltimeR now).tmYear + 1900) + (torLocaltimeR now).tmMon =
      (civilFromDays (now / 86400)).1 := by
  simp only [torLocaltimeR]; omega

/-- `mktime` of a time whose year and month name month `k`. -/
theorem mktime_eq {tm : Tm} {k : Int} (index : 12 * (tm.tmYear + 1900) + tm.tmMon = k) :
    mktime tm = (monthStartDay k + tm.tmMday - 1) * 86400 + tm.tmHour * 3600 + tm.tmMin * 60 +
      tm.tmSec := by
  rw [mktime, index]

end Nuon.Hibernate
