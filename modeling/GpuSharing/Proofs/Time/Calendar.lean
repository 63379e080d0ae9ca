import GpuSharing.Time.Calendar
import Mathlib

/-!
# Days and dates

Every number of days has a date, which is one of the calendar, and the days to this date are
that number again.
-/

set_option autoImplicit false

namespace GpuSharing.Date

section Years

/-- The year that a day of a century lies in. Four years have 1460 days and a leap day, and
each century before has left out one of its leap days. -/
theorem year_of_century {century day year : Int} (cycle : 0 ≤ century ∧ century < 4)
    (low : 0 ≤ day) (high : day < 36524) (is : year = (day - (24 * century + day) / 1460) / 365) :
    0 ≤ year ∧ year < 100 ∧ 365 * year + year / 4 ≤ day ∧
      day < 365 * (year + 1) + (year + 1) / 4 := by
  obtain ⟨first, last⟩ := cycle
  subst is
  interval_cases century <;> omega

/-- A year of 366 days that begins in March ends in the February of a leap year. -/
theorem yearOfCycle_spec {day : Int} (low : 0 ≤ day) (high : day < 146097) :
    let year := yearOfCycle day
    let dayOfYear := day - (365 * year + year / 4 - year / 100)
    0 ≤ year ∧ year < 400 ∧ 0 ≤ dayOfYear ∧ dayOfYear ≤ 365 ∧
      (dayOfYear = 365 → isLeapYear (year + 1)) := by
  intro year dayOfYear
  -- Only the last of the four centuries keeps its leap day, which is the last day of the cycle.
  rcases eq_or_ne day 146096 with rfl | inner
  · decide +kernel
  · have split : year = 100 * (day / 36524) +
        (day % 36524 - (24 * (day / 36524) + day % 36524) / 1460) / 365 := by
      simp only [year, yearOfCycle]
      omega
    have century : 0 ≤ day / 36524 ∧ day / 36524 < 4 := by omega
    obtain ⟨from_zero, below, begun, ahead⟩ := year_of_century century
      (Int.emod_nonneg day (by decide)) (Int.emod_lt_of_pos day (by decide)) rfl
    generalize (day % 36524 - (24 * (day / 36524) + day % 36524) / 1460) / 365 = rest at *
    have hundreds : year / 100 = day / 36524 := by omega
    have quarters : year / 4 = 25 * (day / 36524) + rest / 4 := by omega
    have inCentury : dayOfYear = day % 36524 - (365 * rest + rest / 4) := by omega
    refine ⟨by omega, by omega, by omega, by omega, fun long => ?_⟩
    have last : rest % 4 = 3 := by omega
    have short : rest ≠ 99 := by omega
    have fourth : (year + 1) % 4 = 0 := by omega
    have inside : (year + 1) % 100 ≠ 0 := by omega
    simp [isLeapYear, fourth, inside]

end Years

section Months

variable {year dayOfYear : Int}

/-- The twelve months of a year that begins in March. -/
theorem monthFromMarch_bounds (low : 0 ≤ dayOfYear) (high : dayOfYear ≤ 365) :
    0 ≤ (5 * dayOfYear + 2) / 153 ∧ (5 * dayOfYear + 2) / 153 < 12 := by
  omega

theorem toDays_ofDayOfYear (low : 0 ≤ dayOfYear) (high : dayOfYear ≤ 365) :
    (ofDayOfYear year dayOfYear).toDays = daysToMarch year + dayOfYear - 719468 := by
  obtain ⟨march, february⟩ := monthFromMarch_bounds low high
  unfold toDays ofDayOfYear daysBeforeMonth
  generalize month : (5 * dayOfYear + 2) / 153 = monthFromMarch at *
  interval_cases monthFromMarch <;> simp <;> omega

theorem isValid_ofDayOfYear (low : 0 ≤ dayOfYear) (high : dayOfYear ≤ 365)
    (leap : dayOfYear = 365 → isLeapYear (year + 1)) : (ofDayOfYear year dayOfYear).isValid := by
  obtain ⟨march, february⟩ := monthFromMarch_bounds low high
  unfold isValid ofDayOfYear daysBeforeMonth monthLength
  generalize month : (5 * dayOfYear + 2) / 153 = monthFromMarch at *
  -- The lengths of the months follow no rule, and only February asks for the year.
  interval_cases monthFromMarch <;> simp <;> grind

end Months

section Cycles

variable (year cycle : Int)

theorem daysToMarch_add_cycles :
    daysToMarch (year + cycle * 400) = daysToMarch year + cycle * 146097 := by
  have fourths : (year + cycle * 400) / 4 = year / 4 + cycle * 100 := by omega
  have hundreds : (year + cycle * 400) / 100 = year / 100 + cycle * 4 := by omega
  have cycles : (year + cycle * 400) / 400 = year / 400 + cycle := by omega
  simp only [daysToMarch, fourths, hundreds, cycles]
  omega

theorem isLeapYear_add_cycles : isLeapYear (year + cycle * 400) = isLeapYear year := by
  have fourths : (year + cycle * 400) % 4 = year % 4 := by omega
  have hundreds : (year + cycle * 400) % 100 = year % 100 := by omega
  simp [isLeapYear, fourths, hundreds]

end Cycles

section Days

variable (days : Int)

theorem yearOfCycle_days :
    let day := (days + 719468) % 146097
    let year := yearOfCycle day
    let dayOfYear := day - (365 * year + year / 4 - year / 100)
    0 ≤ year ∧ year < 400 ∧ 0 ≤ dayOfYear ∧ dayOfYear ≤ 365 ∧
      (dayOfYear = 365 → isLeapYear (year + 1)) :=
  yearOfCycle_spec (Int.emod_nonneg _ (by decide)) (Int.emod_lt_of_pos _ (by decide))

theorem toDays_ofDays : (ofDays days).toDays = days := by
  obtain ⟨from_zero, below, first, last, -⟩ := yearOfCycle_days days
  rw [ofDays, toDays_ofDayOfYear first last, daysToMarch_add_cycles, daysToMarch,
    Int.ediv_eq_zero_of_lt from_zero below]
  omega

theorem isValid_ofDays : (ofDays days).isValid := by
  obtain ⟨-, -, first, last, leap⟩ := yearOfCycle_days days
  refine isValid_ofDayOfYear first last fun long => ?_
  rw [Int.add_right_comm, isLeapYear_add_cycles]
  exact leap long

theorem bounds_of_isValid {date : Date} (valid : date.isValid) :
    date.month ≤ 12 ∧ date.day ≤ 31 := by
  have longest : monthLength date.year date.month ≤ 31 := by
    unfold monthLength
    grind
  simp only [isValid, Bool.and_eq_true, decide_eq_true_eq] at valid
  omega

end Days

end GpuSharing.Date
