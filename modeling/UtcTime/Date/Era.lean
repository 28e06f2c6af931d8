/-
Module: UtcTime.Date.Era
Purpose: The 400-year cycle of the calendar, counted in days from a 1 March. A year that begins in
  March has its leap day at its very end, so the place of a day within the cycle determines year,
  month and day by closed formulas. This module holds the formulas and their bounds.
Trusted boundary: none
Main exports: Era.yearOf, Era.yearStart, Era.dayOfYear, Era.monthOf, Era.monthStart,
  Era.yearStart_le, Era.lt_yearStart_succ, Era.dayOfMonth_le_daysInMonth
-/
import UtcTime.Date.Basic

namespace UtcTime.Era

/-- The number of days in 400 years. -/
def days : Nat := 146097

/-- The year of the cycle, from 0 to 399, on which a day of the cycle falls. The quotients take out
the leap days of the years, centuries and cycle before it. -/
def yearOf (day : Nat) : Nat :=
  (day - day / 1460 + day / 36524 - day / 146096) / 365

/-- The first day of a year of the cycle. -/
def yearStart (year : Nat) : Nat :=
  365 * year + year / 4 - year / 100

/-- The place of a day of the cycle in its year, from 0 to 365. -/
def dayOfYear (day : Nat) : Nat :=
  day - yearStart (yearOf day)

/-- The month on which a day of the year falls, from 0 for March to 11 for February. -/
def monthOf (dayOfYear : Nat) : Nat :=
  (5 * dayOfYear + 2) / 153

/-- The first day of a month in its year. From March on, the months come in groups of five with 153
days. -/
def monthStart (month : Nat) : Nat :=
  (153 * month + 2) / 5

/-- The number by which the calendar calls a month that is counted from March. -/
def calendarMonth (month : Nat) : Nat :=
  if month < 10 then month + 3 else month - 9

/-- The place of a calendar month in the year that begins in March. -/
def monthFromMarch (month : Nat) : Nat :=
  if 2 < month then month - 3 else month + 9

/-! ### The year of a day

The formula for the year is monotone, and right at both ends of each year; so it is right between
them. The ends are looked at one by one, for the 400 years of the cycle. -/

/-- A day of the cycle falls on one of its 400 years. -/
theorem yearOf_lt {day : Nat} (h : day < days) : yearOf day < 400 := by
  simp only [yearOf, days] at *
  omega

theorem yearOf_le_yearOf_succ {day : Nat} (h : day < days) : yearOf day ≤ yearOf (day + 1) := by
  have : day - day / 1460 + day / 36524 - day / 146096 ≤
      (day + 1) - (day + 1) / 1460 + (day + 1) / 36524 - (day + 1) / 146096 := by
    simp only [days] at h
    omega
  exact Nat.div_le_div_right this

/-- Later days fall on later years. -/
theorem yearOf_mono {first second : Nat} (hle : first ≤ second) (h : second < days) :
    yearOf first ≤ yearOf second := by
  induction second with
  | zero => simp_all
  | succ second ih =>
      rcases Nat.lt_or_eq_of_le hle with hlt | rfl
      · exact Nat.le_trans (ih (by omega) (by omega)) (yearOf_le_yearOf_succ (by omega))
      · exact Nat.le_refl _

/-- Each year of the cycle begins with a day of that year. -/
theorem yearOf_yearStart : ∀ year < 400, yearOf (yearStart year) = year := by
  decide +kernel

/-- The day before the next year begins is still a day of the year. -/
theorem yearOf_yearStart_succ_sub_one : ∀ year < 400, yearOf (yearStart (year + 1) - 1) = year := by
  decide +kernel

/-- A day does not lie before the beginning of its year. -/
theorem yearStart_le {day : Nat} (h : day < days) : yearStart (yearOf day) ≤ day := by
  have hyear := yearOf_lt h
  apply Nat.le_of_not_lt
  intro hlt
  have hne : yearOf day ≠ 0 := by
    intro hzero
    rw [hzero] at hlt
    simp [yearStart] at hlt
  have hend := yearOf_yearStart_succ_sub_one (yearOf day - 1) (by omega)
  rw [Nat.sub_add_cancel (by omega)] at hend
  have hmono : yearOf day ≤ yearOf (yearStart (yearOf day) - 1) :=
    yearOf_mono (by omega) (by simp only [yearStart, days]; omega)
  omega

/-- A day lies before the beginning of the next year. The last year of the cycle ends with the
cycle, one day later than the formula for the next beginning says. -/
theorem lt_yearStart_succ {day : Nat} (h : day < days) :
    day < yearStart (yearOf day + 1) ∨ yearOf day = 399 := by
  have hyear := yearOf_lt h
  rcases Nat.lt_or_ge day (yearStart (yearOf day + 1)) with hlt | hge
  · exact .inl hlt
  · refine .inr (Nat.le_antisymm (by omega) (Nat.le_of_not_lt fun hlt => ?_))
    have hstart := yearOf_yearStart (yearOf day + 1) (by omega)
    have hmono := yearOf_mono hge h
    omega

/-- No year has a day past number 365. -/
theorem dayOfYear_le {day : Nat} (h : day < days) : dayOfYear day ≤ 365 := by
  have hstart := yearStart_le h
  have hyear := yearOf_lt h
  rcases lt_yearStart_succ h with hlt | hlast
  · simp only [dayOfYear, yearStart] at *
    omega
  · simp only [dayOfYear, yearStart, days] at *
    rw [hlast] at hstart ⊢
    omega

/-- Only a year that ends in a leap February has a day with number 365. -/
theorem isLeap_of_dayOfYear {day : Nat} (h : day < days) (hlast : dayOfYear day = 365) :
    Date.IsLeap (yearOf day + 1 : Nat) := by
  have hstart := yearStart_le h
  have hyear := yearOf_lt h
  simp only [Date.IsLeap]
  rcases lt_yearStart_succ h with hlt | hlastYear
  · simp only [dayOfYear, yearStart] at *
    omega
  · omega

/-! ### The month of a day

Twelve months from March on, the last of which takes what is left of the year. -/

/-- A day of the year falls on one of its twelve months. -/
theorem monthOf_le {dayOfYear : Nat} (h : dayOfYear ≤ 365) : monthOf dayOfYear ≤ 11 := by
  simp only [monthOf]
  omega

/-- A day does not lie before the beginning of its month. -/
theorem monthStart_monthOf_le (dayOfYear : Nat) : monthStart (monthOf dayOfYear) ≤ dayOfYear := by
  simp only [monthStart, monthOf]
  omega

theorem calendarMonth_pos (month : Nat) : 1 ≤ calendarMonth month := by
  simp only [calendarMonth]
  split <;> omega

theorem calendarMonth_le {month : Nat} (h : month ≤ 11) : calendarMonth month ≤ 12 := by
  simp only [calendarMonth]
  split <;> omega

/-- The day of the month that the formulas give exists in its month. In a year without a leap day
the last day of the year must not be number 365. -/
theorem dayOfMonth_le_daysInMonth {dayOfYear : Nat} {year : Int} (h : dayOfYear ≤ 365)
    (hleap : dayOfYear = 365 → Date.IsLeap year) :
    dayOfYear - monthStart (monthOf dayOfYear) + 1 ≤
      Date.daysInMonth year (calendarMonth (monthOf dayOfYear)) := by
  have hmonth := monthOf_le h
  have hlt : 5 * dayOfYear + 2 < 153 * (monthOf dayOfYear + 1) := by
    simp only [monthOf]
    omega
  generalize monthOf dayOfYear = month at *
  have hcases : month = 0 ∨ month = 1 ∨ month = 2 ∨ month = 3 ∨ month = 4 ∨ month = 5 ∨ month = 6 ∨
      month = 7 ∨ month = 8 ∨ month = 9 ∨ month = 10 ∨ month = 11 := by omega
  rcases hcases with rfl | rfl | rfl | rfl | rfl | rfl | rfl | rfl | rfl | rfl | rfl | rfl
  case inr.inr.inr.inr.inr.inr.inr.inr.inr.inr.inr =>
    -- February is the only month whose length asks for the year.
    change dayOfYear - 337 + 1 ≤ if Date.IsLeap year then 29 else 28
    split
    · omega
    · next hcommon =>
        have hne : dayOfYear ≠ 365 := fun hlast => hcommon (hleap hlast)
        omega
  all_goals
    simp [monthStart, calendarMonth, Date.daysInMonth]
    omega

end UtcTime.Era
