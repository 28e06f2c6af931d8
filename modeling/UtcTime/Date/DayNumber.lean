/-
Module: UtcTime.Date.DayNumber
Purpose: Numbering the days of the calendar: day 0 is 1970-01-01, later days count up and earlier
  days count down. Both directions are closed formulas on the 400-year cycle.
Trusted boundary: none
Main exports: Date.ofDayNumber, Date.dayNumber
-/
import UtcTime.Date.Era

namespace UtcTime.Date

/-- The days from 0000-03-01, on which a 400-year cycle begins, to 1970-01-01. -/
def cycleOffset : Int := 719468

/-- The 400-year cycle of a day, counted from the one that begins on 0000-03-01. -/
def cycleOf (dayNumber : Int) : Int :=
  (dayNumber + cycleOffset) / Era.days

/-- The place of a day in its 400-year cycle. -/
def dayOfCycle (dayNumber : Int) : Nat :=
  (dayNumber + cycleOffset - cycleOf dayNumber * Era.days).toNat

/-- A day of the cycle is one of its days, before the epoch too. -/
theorem dayOfCycle_lt (dayNumber : Int) : dayOfCycle dayNumber < Era.days := by
  simp only [dayOfCycle, cycleOf, Era.days]
  omega

/-- The month of a day by its calendar number. -/
def monthOfDay (dayNumber : Int) : Nat :=
  Era.calendarMonth (Era.monthOf (Era.dayOfYear (dayOfCycle dayNumber)))

/-- The day of the month of a day. -/
def dayOfMonth (dayNumber : Int) : Nat :=
  let dayOfYear := Era.dayOfYear (dayOfCycle dayNumber)
  dayOfYear - Era.monthStart (Era.monthOf dayOfYear) + 1

/-- The calendar year of a day. January and February end the year that began in March, so they
belong to the next calendar year. -/
def yearOfDay (dayNumber : Int) : Int :=
  let year := Era.yearOf (dayOfCycle dayNumber) + cycleOf dayNumber * 400
  if monthOfDay dayNumber ≤ 2 then year + 1 else year

/-- The day of the month is one that the month has. -/
theorem dayOfMonth_le (dayNumber : Int) :
    dayOfMonth dayNumber ≤ daysInMonth (yearOfDay dayNumber) (monthOfDay dayNumber) := by
  have hcycle := dayOfCycle_lt dayNumber
  refine Era.dayOfMonth_le_daysInMonth (Era.dayOfYear_le hcycle) fun hlast => ?_
  have hleap := Era.isLeap_of_dayOfYear hcycle hlast
  have hmonth : monthOfDay dayNumber = 2 := by
    simp only [monthOfDay, hlast]
    rfl
  simp only [yearOfDay, hmonth, IsLeap] at *
  omega

/-- The date of a numbered day. -/
def ofDayNumber (dayNumber : Int) : Date where
  year := yearOfDay dayNumber
  month := monthOfDay dayNumber
  day := dayOfMonth dayNumber
  month_pos := Era.calendarMonth_pos _
  month_le := Era.calendarMonth_le (Era.monthOf_le (Era.dayOfYear_le (dayOfCycle_lt dayNumber)))
  day_pos := by simp [dayOfMonth]
  day_le := dayOfMonth_le dayNumber

/-- The year that begins on 1 March and holds the date. -/
def marchYear (date : Date) : Int :=
  if date.month ≤ 2 then date.year - 1 else date.year

/-- The place of the date in the year that begins on 1 March. -/
def dayOfMarchYear (date : Date) : Nat :=
  Era.monthStart (Era.monthFromMarch date.month) + date.day - 1

/-- The year of the 400-year cycle that holds the date. -/
def yearOfCycle (date : Date) : Nat :=
  (date.marchYear - date.marchYear / 400 * 400).toNat

/-- The number of a date. -/
def dayNumber (date : Date) : Int :=
  date.marchYear / 400 * Era.days
    + (Era.yearStart date.yearOfCycle + date.dayOfMarchYear : Nat) - cycleOffset

end UtcTime.Date
