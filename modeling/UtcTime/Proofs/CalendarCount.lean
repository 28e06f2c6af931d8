/-
Module: UtcTime.Proofs.CalendarCount
Purpose: The closed formula for the number of a date counts the days of the Gregorian calendar. The
  formula works on years that begin in March; here it is brought to calendar years, where the number
  of a date is that of the new year before it and its place in the year. Both parts are sums of the
  lengths of years and months, so later dates have greater numbers.
Trusted boundary: none
Main exports: Date.daysInYear, Date.dayOfYear, Date.plainCount, Date.newYear,
  Date.dayNumber_eq_newYear_add, Date.le_year_iff, Date.dayNumber_eq_plainCount, Date.Before,
  Date.dayNumber_lt_of_before, Date.dayNumber_injective
-/
import Mathlib.Algebra.BigOperators.Intervals
import Mathlib.Algebra.Order.BigOperators.Group.Finset
import Mathlib.Tactic.IntervalCases
import UtcTime.Date.DayNumber

namespace UtcTime.Date

/-- The number of days in a year. -/
def daysInYear (year : Int) : Nat :=
  if IsLeap year then 366 else 365

/-- The days of a year before the first of a month. -/
def daysBeforeMonth (year : Int) (month : Nat) : Nat :=
  ∑ earlier ∈ Finset.Ico 1 month, daysInMonth year earlier

/-- The days from the beginning of the year 0 to that of another year. -/
def daysBeforeYear (year : Nat) : Nat :=
  ∑ earlier ∈ Finset.range year, daysInYear earlier

/-- The place of a date in its year, from 0 for 1 January. -/
def dayOfYear (date : Date) : Nat :=
  daysBeforeMonth date.year date.month + (date.day - 1)

/-- The number of a date by plain counting: all days of the years since the year 0, those of the
months of its own year, and those of its month, less the 719528 days of the years before 1970. For
years before the year 0 the count says nothing. -/
def plainCount (date : Date) : Int :=
  (daysBeforeYear date.year.toNat + date.dayOfYear : Nat) - 719528

/-! ### Months

Lengths of months summed up within a year, against the formula that groups them by five from March
on. -/

theorem daysInMonth_pos (year : Int) {month : Nat} (hpos : 1 ≤ month) (hle : month ≤ 12) :
    1 ≤ daysInMonth year month := by
  interval_cases month
  case «2» =>
    simp only [daysInMonth]
    split <;> decide
  all_goals simp [daysInMonth]

theorem daysInMonth_le (year : Int) (month : Nat) : daysInMonth year month ≤ 31 := by
  have hfeb : (if IsLeap year then 29 else 28) ≤ 31 := by
    split <;> decide
  unfold daysInMonth
  split
  all_goals first
    | exact hfeb
    | decide

/-- Only February has its length from the year. -/
theorem daysInMonth_congr (year other : Int) {month : Nat} (hne : month ≠ 2) :
    daysInMonth year month = daysInMonth other month := by
  unfold daysInMonth
  split
  all_goals first
    | exact absurd rfl hne
    | rfl

theorem daysInYear_eq (year : Int) : daysInYear year = 337 + daysInMonth year 2 := by
  simp only [daysInYear, daysInMonth]
  split <;> rfl

theorem daysBeforeMonth_add_one (year : Int) {month : Nat} (h : 1 ≤ month) :
    daysBeforeMonth year (month + 1) = daysBeforeMonth year month + daysInMonth year month :=
  Finset.sum_Ico_succ_top h _

/-- A month is over when a later one begins. -/
theorem daysBeforeMonth_add_daysInMonth_le (year : Int) {month later : Nat} (hpos : 1 ≤ month)
    (hlt : month < later) :
    daysBeforeMonth year month + daysInMonth year month ≤ daysBeforeMonth year later := by
  rw [← daysBeforeMonth_add_one year hpos]
  exact Finset.sum_le_sum_of_subset (Finset.Ico_subset_Ico_right hlt)

/-- The months of a year that begins in March are as long as those of the calendar. February is left
out, for it ends the year. -/
theorem monthStart_monthFromMarch_add_one (year : Int) {month : Nat} (hpos : 1 ≤ month)
    (hle : month ≤ 12) (hne : month ≠ 2) :
    Era.monthStart (Era.monthFromMarch month + 1) =
      Era.monthStart (Era.monthFromMarch month) + daysInMonth year month := by
  interval_cases month
  case «2» => exact absurd rfl hne
  all_goals rfl

/-- January and February end the year that began in March, 306 days before. -/
theorem daysBeforeMonth_of_le (year : Int) {month : Nat} (hpos : 1 ≤ month) (hle : month ≤ 2) :
    daysBeforeMonth year month + 306 = Era.monthStart (Era.monthFromMarch month) := by
  have hjan : daysBeforeMonth year 1 = 0 := rfl
  have hfeb : daysBeforeMonth year 2 = 31 := rfl
  interval_cases month
  · rw [hjan]; rfl
  · rw [hfeb]; rfl

/-- The other months lie in the year that begins in March, 306 days before the new year. The month
after December counts too, for the length of the whole year. -/
theorem daysBeforeMonth_of_lt (year : Int) {month : Nat} (hlt : 2 < month) (hle : month ≤ 13) :
    daysBeforeMonth year month + 306 =
      daysInYear year + Era.monthStart (Era.monthFromMarch month) := by
  induction month, hlt using Nat.le_induction with
  | base =>
      have hfeb : daysBeforeMonth year 2 = 31 := rfl
      have hstart : Era.monthStart (Era.monthFromMarch 3) = 0 := rfl
      rw [daysInYear_eq, daysBeforeMonth_add_one year (by decide), hfeb, hstart]
      omega
  | succ month hlt ih =>
      have hnext : Era.monthFromMarch (month + 1) = Era.monthFromMarch month + 1 := by
        have hmarch : 2 < month := hlt
        simp only [Era.monthFromMarch, if_pos hmarch, if_pos (Nat.lt_succ_of_lt hmarch)]
        omega
      have hmonth := ih (by omega)
      rw [daysBeforeMonth_add_one year (by omega), hnext,
        monthStart_monthFromMarch_add_one year (by omega) (by omega) (by omega)]
      omega

/-- The months make up the year. -/
theorem daysBeforeMonth_thirteen (year : Int) : daysBeforeMonth year 13 = daysInYear year := by
  have hyear := daysBeforeMonth_of_lt year (by decide : 2 < 13) (Nat.le_refl 13)
  have hstart : Era.monthStart (Era.monthFromMarch 13) = 306 := rfl
  omega

theorem dayOfYear_lt (date : Date) : date.dayOfYear < daysInYear date.year := by
  have hle := daysBeforeMonth_add_daysInMonth_le date.year date.month_pos
    (Nat.lt_succ_of_le date.month_le)
  rw [daysBeforeMonth_thirteen] at hle
  have hpos := date.day_pos
  have hday := date.day_le
  simp only [dayOfYear]
  omega

/-! ### Years

Lengths of years summed up, against the formula with its quotients. A year from March to February is
as long as the calendar year in which it ends. -/

/-- The number of the 1 March of a year. -/
def marchStart (year : Int) : Int :=
  year / 400 * Era.days + (Era.yearStart (year - year / 400 * 400).toNat : Nat) - cycleOffset

/-- The number of the 1 January of a year, which is 306 days after the 1 March before it. -/
def newYear (year : Int) : Int :=
  marchStart (year - 1) + 306

/-- From one 1 March to the next it is as long as the year in which it ends, for that year has the
leap day. The last year of a cycle is set apart because the next one belongs to another cycle. -/
theorem marchStart_add_one (year : Int) :
    marchStart (year + 1) = marchStart year + daysInYear (year + 1) := by
  have hpos : 0 ≤ year - year / 400 * 400 := by omega
  have hlt : year - year / 400 * 400 < 400 := by omega
  by_cases hlast : year - year / 400 * 400 = 399
  · have hnext : (year + 1) / 400 = year / 400 + 1 := by omega
    have hleap : IsLeap (year + 1) := by
      simp only [IsLeap]
      omega
    simp only [marchStart, daysInYear, if_pos hleap, hnext, Era.yearStart, Era.days]
    omega
  · have hnext : (year + 1) / 400 = year / 400 := by omega
    by_cases hleap : IsLeap (year + 1)
    · simp only [marchStart, daysInYear, if_pos hleap, hnext, Era.yearStart, Era.days]
      simp only [IsLeap] at hleap
      omega
    · simp only [marchStart, daysInYear, if_neg hleap, hnext, Era.yearStart, Era.days]
      simp only [IsLeap] at hleap
      omega

/-- From one New Year to the next it is as long as the year. -/
theorem newYear_add_one (year : Int) : newYear (year + 1) = newYear year + daysInYear year := by
  have hmarch := marchStart_add_one (year - 1)
  rw [Int.sub_add_cancel] at hmarch
  simp only [newYear, Int.add_sub_cancel]
  omega

/-- A year is over when a later one begins. -/
theorem newYear_add_daysInYear_le {year later : Int} (hlt : year < later) :
    newYear year + daysInYear year ≤ newYear later := by
  rw [← newYear_add_one]
  induction later, hlt using Int.leInduction with
  | base => exact Int.le_refl _
  | succ later _ ih =>
      rw [newYear_add_one later]
      omega

theorem daysBeforeYear_add_one (year : Nat) :
    daysBeforeYear (year + 1) = daysBeforeYear year + daysInYear year :=
  Finset.sum_range_succ _ _

/-- From the year 0 on, new years are as far apart as the years between them are long. -/
theorem newYear_eq_daysBeforeYear (year : Nat) :
    newYear year = daysBeforeYear year - 719528 := by
  induction year with
  | zero => rfl
  | succ year ih =>
      rw [daysBeforeYear_add_one, Nat.cast_succ, newYear_add_one, ih]
      omega

/-! ### Dates

The number of a date is that of New Year's Day and the place of the date in its year. So numbers are
in the order of dates. -/

/-- The closed formula in terms of the year that begins in March. -/
theorem dayNumber_eq_marchStart_add (date : Date) :
    date.dayNumber = marchStart date.marchYear + date.dayOfMarchYear := by
  simp only [dayNumber, marchStart, yearOfCycle]
  omega

/-- The closed formula in terms of the calendar year. -/
theorem dayNumber_eq_newYear_add (date : Date) :
    date.dayNumber = newYear date.year + date.dayOfYear := by
  have hpos := date.day_pos
  rw [dayNumber_eq_marchStart_add]
  by_cases hmonth : date.month ≤ 2
  · have hstart := daysBeforeMonth_of_le date.year date.month_pos hmonth
    simp only [newYear, marchYear, if_pos hmonth, dayOfMarchYear, dayOfYear]
    omega
  · have hstart := daysBeforeMonth_of_lt date.year (by omega) (Nat.le_succ_of_le date.month_le)
    have hyear := marchStart_add_one (date.year - 1)
    rw [Int.sub_add_cancel] at hyear
    simp only [newYear, marchYear, if_neg hmonth, dayOfMarchYear, dayOfYear, hyear]
    omega

/-- The year of a date is read off its number by comparison with new years. -/
theorem le_year_iff (date : Date) (year : Int) :
    year ≤ date.year ↔ newYear year ≤ date.dayNumber := by
  rw [dayNumber_eq_newYear_add]
  rcases Int.lt_trichotomy year date.year with hlt | heq | hgt
  · have hle := newYear_add_daysInYear_le hlt
    omega
  · rw [heq]
    omega
  · have hle := newYear_add_daysInYear_le hgt
    have hday := date.dayOfYear_lt
    omega

/-- The closed formula counts what plain counting counts. -/
theorem dayNumber_eq_plainCount {date : Date} (h : 0 ≤ date.year) :
    date.dayNumber = date.plainCount := by
  have hyear := newYear_eq_daysBeforeYear date.year.toNat
  rw [Int.toNat_of_nonneg h] at hyear
  rw [dayNumber_eq_newYear_add, hyear, plainCount]
  omega

/-- The leap day is the one day that is missing in a common year. -/
theorem day_le_daysInMonth_iff (date : Date) {year : Int} (hyear : ¬ IsLeap year) :
    date.day ≤ daysInMonth year date.month ↔ ¬ (date.month = 2 ∧ date.day = 29) := by
  have hle := date.day_le
  by_cases hmonth : date.month = 2
  · have hcommon : daysInMonth year 2 = 28 := if_neg hyear
    have hfeb : daysInMonth date.year 2 ≤ 29 := by
      simp only [daysInMonth]
      split <;> decide
    rw [hmonth] at hle
    rw [hmonth, hcommon]
    omega
  · rw [daysInMonth_congr year date.year hmonth]
    simp [hle, hmonth]

/-- The order of the calendar: by year, then by month, then by day. -/
def Before (a b : Date) : Prop :=
  a.year < b.year ∨ a.year = b.year ∧ (a.month < b.month ∨ a.month = b.month ∧ a.day < b.day)

/-- Of two dates one comes first, unless they are the same. -/
theorem before_or_eq_or_before (a b : Date) : a.Before b ∨ a = b ∨ b.Before a := by
  rw [Date.ext_iff]
  simp only [Before]
  omega

/-- Earlier dates have smaller numbers. -/
theorem dayNumber_lt_of_before {a b : Date} (h : a.Before b) : a.dayNumber < b.dayNumber := by
  rw [dayNumber_eq_newYear_add, dayNumber_eq_newYear_add]
  rcases h with hyear | ⟨hyear, hmonth | ⟨hmonth, hday⟩⟩
  · have hle := newYear_add_daysInYear_le hyear
    have hday := a.dayOfYear_lt
    omega
  · have hle := daysBeforeMonth_add_daysInMonth_le a.year a.month_pos hmonth
    have hday := a.day_le
    have hpos := a.day_pos
    simp only [dayOfYear, ← hyear]
    omega
  · have hpos := a.day_pos
    simp only [dayOfYear, ← hyear, ← hmonth]
    omega

/-- A date whose year, month and day are nowhere greater is not later. -/
theorem dayNumber_le {a b : Date} (hyear : a.year ≤ b.year) (hmonth : a.month ≤ b.month)
    (hday : a.day ≤ b.day) : a.dayNumber ≤ b.dayNumber := by
  rcases before_or_eq_or_before a b with hlt | heq | hgt
  · exact Int.le_of_lt (dayNumber_lt_of_before hlt)
  · rw [heq]
  · exfalso
    rcases hgt with hgt | ⟨-, hgt | ⟨-, hgt⟩⟩
    · exact Int.not_lt.2 hyear hgt
    · exact Nat.not_lt.2 hmonth hgt
    · exact Nat.not_lt.2 hday hgt

theorem dayNumber_injective {a b : Date} (h : a.dayNumber = b.dayNumber) : a = b := by
  rcases before_or_eq_or_before a b with hlt | heq | hlt
  · exact absurd h (Int.ne_of_lt (dayNumber_lt_of_before hlt))
  · exact heq
  · exact absurd h.symm (Int.ne_of_lt (dayNumber_lt_of_before hlt))

end UtcTime.Date
