import Mathlib.Tactic.SplitIfs
import Mathlib.Tactic.Ring
import Mathlib.Data.Int.Basic

/-!
# The proleptic Gregorian calendar

Days are numbered from 1970-01-01, as ECMAScript does: the day a year begins on, the days before a
month, and the year, month and day a day number has. A wall clock adds the time of day. The two
directions undo each other.
-/

namespace ReputationKey.Base

namespace Civil

/-- The day number a year begins on. -/
def dayFromYear (year : ℤ) : ℤ :=
  365 * (year - 1970) + (year - 1969) / 4 - (year - 1901) / 100 + (year - 1601) / 400

/-- The days a leap year has more. -/
def leapDays (year : ℤ) : ℤ :=
  if year % 4 = 0 ∧ (year % 100 ≠ 0 ∨ year % 400 = 0) then 1 else 0

/-- The days of a year before one of its months, January being 0: a month takes 367 twelfths of a
day in the mean, February two less or one less. -/
def daysBeforeMonth (leap month : ℤ) : ℤ :=
  (367 * month + 5) / 12 + if month ≤ 1 then 0 else leap - 2

/-- The day number of a date, whose month, January being 0, and day may run over. -/
def makeDay (year month day : ℤ) : ℤ :=
  let year := year + month / 12
  dayFromYear year + daysBeforeMonth (leapDays year) (month % 12) + day - 1

/-- The year of a day number: a first guess, and one off either way. -/
def yearOfDay (day : ℤ) : ℤ :=
  let guess := 1970 + 400 * day / 146097
  if day < dayFromYear guess then guess - 1
  else if dayFromYear (guess + 1) ≤ day then guess + 1
  else guess

/-- The month, January being 0, of a day of a year, the first being 0. -/
def monthOfYearDay (leap day : ℤ) : ℤ :=
  (12 * (if day < 59 + leap then day else day + 2 - leap) + 6) / 367

/-- The month of a day number, January being 0. -/
def monthOfDay (day : ℤ) : ℤ :=
  monthOfYearDay (leapDays (yearOfDay day)) (day - dayFromYear (yearOfDay day))

/-- The day of the month of a day number, the first being 1. -/
def dateOfDay (day : ℤ) : ℤ :=
  day - dayFromYear (yearOfDay day) -
    daysBeforeMonth (leapDays (yearOfDay day)) (monthOfDay day) + 1

/-- The weekday of a day number, Sunday being 0. -/
def weekday (day : ℤ) : ℤ := (day + 4) % 7

/-! ## Years -/

theorem dayFromYear_succ (year : ℤ) :
    dayFromYear (year + 1) = dayFromYear year + 365 + leapDays year := by
  simp only [dayFromYear, leapDays]
  split_ifs <;> omega

theorem leapDays_nonneg (year : ℤ) : 0 ≤ leapDays year := by
  simp only [leapDays]
  split_ifs <;> omega

theorem leapDays_le (year : ℤ) : leapDays year ≤ 1 := by
  simp only [leapDays]
  split_ifs <;> omega

/-- The first guess at a year is off by one at most. -/
theorem guess_spec (day : ℤ) : dayFromYear (1970 + 400 * day / 146097 - 1) ≤ day ∧
    day < dayFromYear (1970 + 400 * day / 146097 + (1 + 1)) := by
  simp only [dayFromYear]
  omega

/-- A day number lies in its year. -/
theorem yearOfDay_spec (day : ℤ) :
    dayFromYear (yearOfDay day) ≤ day ∧ day < dayFromYear (yearOfDay day + 1) := by
  obtain ⟨hlow, hhigh⟩ := guess_spec day
  simp only [yearOfDay]
  by_cases hbefore : day < dayFromYear (1970 + 400 * day / 146097)
  · rw [if_pos hbefore, sub_add_cancel]
    exact ⟨hlow, hbefore⟩
  · rw [if_neg hbefore]
    by_cases hafter : dayFromYear (1970 + 400 * day / 146097 + 1) ≤ day
    · rw [if_pos hafter]
      exact ⟨hafter, by rwa [add_assoc _ 1 1]⟩
    · rw [if_neg hafter]
      exact ⟨not_lt.1 hbefore, not_le.1 hafter⟩

theorem dayFromYear_mono {a b : ℤ} (h : a ≤ b) : dayFromYear a ≤ dayFromYear b := by
  simp only [dayFromYear]
  omega

/-- No other year has the day number. -/
theorem yearOfDay_eq {year day : ℤ} (start : dayFromYear year ≤ day)
    (stop : day < dayFromYear (year + 1)) : yearOfDay day = year := by
  obtain ⟨hstart, hstop⟩ := yearOfDay_spec day
  rcases lt_trichotomy (yearOfDay day) year with hlt | heq | hgt
  · have := dayFromYear_mono (show yearOfDay day + 1 ≤ year by omega)
    omega
  · exact heq
  · have := dayFromYear_mono (show year + 1 ≤ yearOfDay day by omega)
    omega

/-! ## Months and days -/

/-- The days of a month, January being 0. -/
def daysInMonth (year month : ℤ) : ℤ :=
  daysBeforeMonth (leapDays year) (month + 1) - daysBeforeMonth (leapDays year) month

theorem monthOfYearDay_spec {leap day : ℤ} (nonneg : 0 ≤ day) (bound : day < 365 + leap)
    (hleap : 0 ≤ leap) (hleap' : leap ≤ 1) :
    0 ≤ monthOfYearDay leap day ∧ monthOfYearDay leap day < 12 ∧
      daysBeforeMonth leap (monthOfYearDay leap day) ≤ day ∧
      day < daysBeforeMonth leap (monthOfYearDay leap day + 1) := by
  simp only [monthOfYearDay, daysBeforeMonth]
  split_ifs <;> omega

/-- The day of a year that a day number is. -/
theorem yearDay_spec (day : ℤ) :
    0 ≤ day - dayFromYear (yearOfDay day) ∧
      day - dayFromYear (yearOfDay day) < 365 + leapDays (yearOfDay day) := by
  have h := yearOfDay_spec day
  rw [dayFromYear_succ] at h
  omega

theorem monthOfDay_spec (day : ℤ) : 0 ≤ monthOfDay day ∧ monthOfDay day < 12 ∧
    1 ≤ dateOfDay day ∧ dateOfDay day ≤ daysInMonth (yearOfDay day) (monthOfDay day) := by
  obtain ⟨hnonneg, hbound⟩ := yearDay_spec day
  have h := monthOfYearDay_spec hnonneg hbound (leapDays_nonneg _) (leapDays_le _)
  rw [← monthOfDay] at h
  simp only [dateOfDay, daysInMonth]
  omega

/-- A day number is that of its own year, month and day. -/
theorem makeDay_ofDay (day : ℤ) : makeDay (yearOfDay day) (monthOfDay day) (dateOfDay day) = day := by
  obtain ⟨hlow, hhigh, -, -⟩ := monthOfDay_spec day
  have hdiv : monthOfDay day / 12 = 0 := by omega
  have hmod : monthOfDay day % 12 = monthOfDay day := by omega
  simp only [makeDay, hdiv, hmod, add_zero, dateOfDay]
  omega

example : (List.range 12).map (fun month : ℕ ↦ daysBeforeMonth 0 month) =
    [0, 31, 59, 90, 120, 151, 181, 212, 243, 273, 304, 334] := by decide

theorem daysBeforeMonth_mono {leap a b : ℤ} (hleap : 0 ≤ leap) (h : a ≤ b) :
    daysBeforeMonth leap a ≤ daysBeforeMonth leap b := by
  simp only [daysBeforeMonth]
  split_ifs <;> omega

/-- A date is that of its own day number. -/
theorem ofDay_makeDay {year month day : ℤ} (hlow : 0 ≤ month) (hhigh : month < 12) (hday : 1 ≤ day)
    (hdays : day ≤ daysInMonth year month) :
    yearOfDay (makeDay year month day) = year ∧ monthOfDay (makeDay year month day) = month ∧
      dateOfDay (makeDay year month day) = day := by
  have hdiv : month / 12 = 0 := by omega
  have hmod : month % 12 = month := by omega
  have hleap := leapDays_nonneg year
  have hleap' := leapDays_le year
  have hfirst := daysBeforeMonth_mono hleap hlow
  have hlast := daysBeforeMonth_mono hleap (show month + 1 ≤ 12 by omega)
  have hzero : daysBeforeMonth (leapDays year) 0 = 0 := by
    simp [daysBeforeMonth]
  have htwelve : daysBeforeMonth (leapDays year) 12 = 365 + leapDays year := by
    simp only [daysBeforeMonth]
    omega
  rw [daysInMonth] at hdays
  simp only [makeDay, hdiv, hmod, add_zero]
  generalize hD : dayFromYear year + daysBeforeMonth (leapDays year) month + day - 1 = D
  have hyear : yearOfDay D = year := by
    apply yearOfDay_eq
    · omega
    · rw [dayFromYear_succ]
      omega
  have hmonth : monthOfDay D = month := by
    obtain ⟨hnonneg, hbound⟩ := yearDay_spec D
    obtain ⟨hm, hm', hstart, hstop⟩ :=
      monthOfYearDay_spec hnonneg hbound (leapDays_nonneg _) (leapDays_le _)
    rw [← monthOfDay, hyear] at *
    rcases lt_trichotomy (monthOfDay D) month with hlt | heq | hgt
    · have := daysBeforeMonth_mono hleap (show monthOfDay D + 1 ≤ month by omega)
      omega
    · exact heq
    · have := daysBeforeMonth_mono hleap (show month + 1 ≤ monthOfDay D by omega)
      omega
  refine ⟨hyear, hmonth, ?_⟩
  rw [dateOfDay, hmonth, hyear]
  omega

/-! ## First days of months -/

/-- A day of a month counts on from another. -/
theorem makeDay_add (year month day more : ℤ) :
    makeDay year month (day + more) = makeDay year month day + more := by
  simp only [makeDay]
  ring

/-- Months carry over into years. -/
theorem makeDay_carry (year month day : ℤ) :
    makeDay year month day = makeDay (year + month / 12) (month % 12) day := by
  have hdiv : month % 12 / 12 = 0 := by omega
  have hmod : month % 12 % 12 = month % 12 := by omega
  simp only [makeDay, hdiv, hmod, add_zero]

theorem daysInMonth_bounds {year month : ℤ} (low : 0 ≤ month) (high : month < 12) :
    28 ≤ daysInMonth year month ∧ daysInMonth year month ≤ 31 := by
  have hleap := leapDays_nonneg year
  have hleap' := leapDays_le year
  simp only [daysInMonth, daysBeforeMonth]
  split_ifs <;> omega

/-- The first day of a month, which may run over, is of that month. -/
theorem ofDay_first (year month : ℤ) :
    yearOfDay (makeDay year month 1) = year + month / 12 ∧
      monthOfDay (makeDay year month 1) = month % 12 ∧ dateOfDay (makeDay year month 1) = 1 := by
  have hlow : 0 ≤ month % 12 := by omega
  have hhigh : month % 12 < 12 := by omega
  have hdays := (@daysInMonth_bounds (year + month / 12) (month % 12) hlow hhigh).1
  rw [makeDay_carry]
  exact ofDay_makeDay hlow hhigh le_rfl (by omega)

/-- The first day of a month is followed, after the month's own days, by that of the next. -/
theorem makeDay_next (year month : ℤ) : makeDay year (month + 1) 1 =
    makeDay year month 1 + daysInMonth (year + month / 12) (month % 12) := by
  by_cases hlast : month % 12 = 11
  · have hdiv : (month + 1) / 12 = month / 12 + 1 := by omega
    have hmod : (month + 1) % 12 = 0 := by omega
    have hyear := dayFromYear_succ (year + month / 12)
    simp only [makeDay, daysInMonth, daysBeforeMonth, hlast, hdiv, hmod, ← add_assoc]
    omega
  · have hdiv : (month + 1) / 12 = month / 12 := by omega
    have hmod : (month + 1) % 12 = month % 12 + 1 := by omega
    simp only [makeDay, hdiv, hmod, daysInMonth]
    ring

/-- Later months begin on later days. -/
theorem makeDay_mono {year first last : ℤ} (h : first ≤ last) :
    makeDay year first 1 ≤ makeDay year last 1 := by
  obtain ⟨more, rfl⟩ := Int.le.dest h
  induction more with
  | zero => rw [Nat.cast_zero, add_zero]
  | succ more ih =>
      have hnext := makeDay_next year (first + more)
      have hdays := @daysInMonth_bounds (year + (first + more) / 12) ((first + more) % 12)
        (by omega) (by omega)
      have hmore := ih (by omega)
      rw [Nat.cast_succ, ← add_assoc]
      omega

/-- A day counts on from the first of its month. -/
theorem first_of_month (day : ℤ) :
    makeDay (yearOfDay day) (monthOfDay day) 1 + (dateOfDay day - 1) = day := by
  have hadd := makeDay_add (yearOfDay day) (monthOfDay day) 1 (dateOfDay day - 1)
  rw [← hadd, add_sub_cancel, makeDay_ofDay]

/-- A day comes before the first of the next month. -/
theorem lt_next_month (day : ℤ) : day < makeDay (yearOfDay day) (monthOfDay day + 1) 1 := by
  obtain ⟨hlow, hhigh, -, hdays⟩ := monthOfDay_spec day
  have hfirst := first_of_month day
  have hdiv : monthOfDay day / 12 = 0 := by omega
  have hmod : monthOfDay day % 12 = monthOfDay day := by omega
  rw [makeDay_next, hdiv, hmod, add_zero]
  omega

end Civil

open Civil

/-! ## Wall clocks -/

/-- The fields a clock on the wall shows, the first month and the first day being 1. -/
structure WallClock where
  year : ℤ
  month : ℤ
  day : ℤ
  hour : ℤ
  minute : ℤ
  second : ℤ
  millisecond : ℤ
  deriving DecidableEq, Repr

namespace WallClock

/-- The clock at so many milliseconds after the start of 1970. -/
def ofEpoch (epoch : ℤ) : WallClock where
  year := yearOfDay (epoch / 86400000)
  month := monthOfDay (epoch / 86400000) + 1
  day := dateOfDay (epoch / 86400000)
  hour := epoch % 86400000 / 3600000
  minute := epoch % 3600000 / 60000
  second := epoch % 60000 / 1000
  millisecond := epoch % 1000

/-- The milliseconds after the start of 1970 of a clock, whose fields may run over. -/
def toEpoch (clock : WallClock) : ℤ :=
  makeDay clock.year (clock.month - 1) clock.day * 86400000 + clock.hour * 3600000 +
    clock.minute * 60000 + clock.second * 1000 + clock.millisecond

theorem toEpoch_ofEpoch (epoch : ℤ) : (ofEpoch epoch).toEpoch = epoch := by
  have hday := makeDay_ofDay (epoch / 86400000)
  simp only [toEpoch, ofEpoch, add_sub_cancel_right, hday]
  omega

theorem ofEpoch_injective {a b : ℤ} (h : ofEpoch a = ofEpoch b) : a = b := by
  rw [← toEpoch_ofEpoch a, h, toEpoch_ofEpoch]

end WallClock

end ReputationKey.Base
