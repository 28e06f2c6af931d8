/-
Module: UtcTime.Proofs.DayNumbering
Purpose: The two closed formulas between dates and day numbers are inverse to each other, and
  together they are the Gregorian calendar: a number belongs to the one date with that count of
  days, and the next number to the next date.
Trusted boundary: none
Main exports: Date.dayNumber_ofDayNumber, Date.ofDayNumber_dayNumber, Date.succ,
  Date.ofDayNumber_add_one, Date.dayNumber_is_gregorian
-/
import UtcTime.Proofs.CalendarCount

namespace UtcTime

namespace Era

theorem monthFromMarch_calendarMonth {month : Nat} (h : month ≤ 11) :
    monthFromMarch (calendarMonth month) = month := by
  simp only [monthFromMarch, calendarMonth]
  split <;> split <;> omega

end Era

namespace Date

/-! ### From numbers to dates and back

The date of a number has the cycle, the year of the cycle and the day of the year that the formulas
took from the number. -/

/-- The year that begins in March has its place in the cycle. -/
theorem marchYear_ofDayNumber (n : Int) :
    (ofDayNumber n).marchYear = Era.yearOf (dayOfCycle n) + cycleOf n * 400 := by
  simp only [marchYear, ofDayNumber, yearOfDay]
  split <;> omega

/-- The day has its place in the year that begins in March. -/
theorem dayOfMarchYear_ofDayNumber (n : Int) :
    (ofDayNumber n).dayOfMarchYear = Era.dayOfYear (dayOfCycle n) := by
  have hmonth := Era.monthOf_le (Era.dayOfYear_le (dayOfCycle_lt n))
  have hstart := Era.monthStart_monthOf_le (Era.dayOfYear (dayOfCycle n))
  simp only [dayOfMarchYear, ofDayNumber, monthOfDay, dayOfMonth,
    Era.monthFromMarch_calendarMonth hmonth]
  omega

/-- The date of a number has that number. -/
theorem dayNumber_ofDayNumber (n : Int) : (ofDayNumber n).dayNumber = n := by
  have hlt := dayOfCycle_lt n
  have hyear := Era.yearOf_lt hlt
  have hstart := Era.yearStart_le hlt
  have hcycle : (ofDayNumber n).marchYear / 400 = cycleOf n := by
    rw [marchYear_ofDayNumber]
    omega
  have hyearOfCycle : (ofDayNumber n).yearOfCycle = Era.yearOf (dayOfCycle n) := by
    rw [yearOfCycle, hcycle, marchYear_ofDayNumber]
    omega
  rw [dayNumber, hcycle, hyearOfCycle, dayOfMarchYear_ofDayNumber, Era.dayOfYear]
  simp only [dayOfCycle, cycleOf, Era.days] at *
  omega

/-- The number of a date belongs to that date. Different dates have different numbers, so this
follows from the other direction. -/
theorem ofDayNumber_dayNumber (date : Date) : ofDayNumber date.dayNumber = date :=
  dayNumber_injective (dayNumber_ofDayNumber _)

/-! ### The next date

The next day of the month, or the first of the next month, or New Year's Day. It has the next
number, and a number has one date. -/

/-- The date after a date: the next day of the month, else the first of the next month, else the
first of the next year. -/
def succ (date : Date) : Date :=
  if hday : date.day < daysInMonth date.year date.month then
    { date with day := date.day + 1, day_pos := Nat.succ_pos _, day_le := hday }
  else if hmonth : date.month < 12 then
    { year := date.year, month := date.month + 1, day := 1
      month_pos := Nat.succ_pos _, month_le := hmonth, day_pos := Nat.le_refl 1
      day_le := daysInMonth_pos _ (Nat.succ_pos _) hmonth }
  else
    { year := date.year + 1, month := 1, day := 1
      month_pos := Nat.le_refl 1, month_le := by decide, day_pos := Nat.le_refl 1
      day_le := daysInMonth_pos _ (Nat.le_refl 1) (by decide) }

/-- The next date has the next number. -/
theorem dayNumber_succ (date : Date) : date.succ.dayNumber = date.dayNumber + 1 := by
  have hpos := date.day_pos
  have hday := date.day_le
  have hmonth := daysBeforeMonth_add_one date.year date.month_pos
  rw [dayNumber_eq_newYear_add, dayNumber_eq_newYear_add, succ]
  split
  · simp only [dayOfYear]
    omega
  · split
    · simp only [dayOfYear]
      omega
    · have hlast : date.month = 12 := by
        have := date.month_le
        omega
      have hyear := newYear_add_one date.year
      have hjan : daysBeforeMonth (date.year + 1) 1 = 0 := rfl
      rw [hlast, daysBeforeMonth_thirteen] at hmonth
      simp only [dayOfYear, hlast, hjan] at *
      omega

/-- The next number has the next date. -/
theorem ofDayNumber_add_one (n : Int) : ofDayNumber (n + 1) = (ofDayNumber n).succ := by
  apply dayNumber_injective
  rw [dayNumber_succ, dayNumber_ofDayNumber, dayNumber_ofDayNumber]

/-! ### Years of 16 bits

The day numbers of the dates with such a year are an interval. -/

/-- The first day of the year 0. -/
def firstDay : Date := ⟨0, 1, 1, by decide, by decide, by decide, by decide⟩

/-- The last day of the last year that 16 bits hold. -/
def lastDay : Date := ⟨65535, 12, 31, by decide, by decide, by decide, by decide⟩

/-- The numbers between these days are those of the years that 16 bits hold. -/
theorem year_mem_iff (date : Date) :
    (0 ≤ date.year ∧ date.year ≤ 65535) ↔
      firstDay.dayNumber ≤ date.dayNumber ∧ date.dayNumber ≤ lastDay.dayNumber := by
  have hfirst : firstDay.dayNumber = newYear 0 := rfl
  have hlast : lastDay.dayNumber + 1 = newYear 65536 := rfl
  have hlow := le_year_iff date 0
  have hhigh := le_year_iff date 65536
  omega

/-- The closed formulas are the Gregorian calendar. The number of a date is the plain count of days;
a number within the years of 16 bits belongs to the one date with that count; number 0 is
1970-01-01, and from each number to the next the calendar goes on by one day. -/
theorem dayNumber_is_gregorian :
    (∀ date : Date, 0 ≤ date.year → date.dayNumber = date.plainCount) ∧
    (∀ n : Int, firstDay.plainCount ≤ n → n ≤ lastDay.plainCount →
      (0 ≤ (ofDayNumber n).year ∧ (ofDayNumber n).year ≤ 65535 ∧ (ofDayNumber n).plainCount = n) ∧
      ∀ date : Date, 0 ≤ date.year → date.plainCount = n → date = ofDayNumber n) ∧
    ((ofDayNumber 0).year = 1970 ∧ (ofDayNumber 0).month = 1 ∧ (ofDayNumber 0).day = 1) ∧
    ∀ n : Int, ofDayNumber (n + 1) = (ofDayNumber n).succ := by
  refine ⟨fun _ => dayNumber_eq_plainCount, ?_, by decide, ofDayNumber_add_one⟩
  intro n hfirst hlast
  rw [← dayNumber_eq_plainCount (by decide)] at hfirst hlast
  have hn := dayNumber_ofDayNumber n
  have hyear := (year_mem_iff (ofDayNumber n)).2 (by rw [hn]; exact ⟨hfirst, hlast⟩)
  refine ⟨⟨hyear.1, hyear.2, ?_⟩, ?_⟩
  · rw [← dayNumber_eq_plainCount hyear.1, hn]
  · intro date hdate hcount
    rw [← dayNumber_eq_plainCount hdate] at hcount
    rw [← hcount, ofDayNumber_dayNumber]

end Date

end UtcTime
