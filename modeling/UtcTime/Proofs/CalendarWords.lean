/-
Module: UtcTime.Proofs.CalendarWords
Purpose: The calendar computed in machine words. Each step of the closed formulas puts its result
  into a word of 8 to 128 bits, and a result that the word does not hold ends the computation. It
  never does: for every day number that a word of 64 bits still holds when counted from 0000-03-01,
  every count of nanoseconds without sign and every date and time with a year of 16 bits, the words
  go through the exact values.
Trusted boundary: none
Main exports: Word, Word.put?, Date.inWords?, Date.numberInWords?, DateTime.fieldsInWords?,
  DateTime.epochSecondsInWords?, DateTime.epochNanosInWords?, Date.inWords?_eq,
  Date.numberInWords?_eq, DateTime.fieldsInWords?_eq, DateTime.epochNanosInWords?_eq,
  DateTime.words_suffice
-/
import UtcTime.Proofs.EpochTime

namespace UtcTime

/-- The machine words that the calendar is computed in. -/
inductive Word where
  | unsigned8
  | unsigned16
  | unsigned32
  | unsigned64
  | signed64
  | signed128
deriving DecidableEq, Repr

namespace Word

/-- The least integer that the word can hold. -/
def least : Word → Int
  | unsigned8 | unsigned16 | unsigned32 | unsigned64 => 0
  | signed64 => -9223372036854775808
  | signed128 => -170141183460469231731687303715884105728

/-- The greatest integer that the word can hold. -/
def greatest : Word → Int
  | unsigned8 => 255
  | unsigned16 => 65535
  | unsigned32 => 4294967295
  | unsigned64 => 18446744073709551615
  | signed64 => 9223372036854775807
  | signed128 => 170141183460469231731687303715884105727

/-- An integer that the word can hold. -/
def Holds (word : Word) (n : Int) : Prop := word.least ≤ n ∧ n ≤ word.greatest

instance (word : Word) (n : Int) : Decidable (word.Holds n) :=
  inferInstanceAs (Decidable (word.least ≤ n ∧ n ≤ word.greatest))

/-- Puts a result into a word. One that would wrap around or be cut off is none. -/
def put? (word : Word) (n : Int) : Option Int :=
  if word.Holds n then some n else none

/-- A result that the word holds goes on as it is. -/
theorem put?_bind {α : Type} {word : Word} {n : Int} (rest : Int → Option α)
    (hleast : word.least ≤ n) (hgreatest : n ≤ word.greatest) :
    (word.put? n).bind rest = rest n := by
  rw [put?, if_pos ⟨hleast, hgreatest⟩, Option.bind_some]

theorem put?_eq_some {word : Word} {n : Int} (hleast : word.least ≤ n)
    (hgreatest : n ≤ word.greatest) : word.put? n = some n :=
  if_pos ⟨hleast, hgreatest⟩

end Word

open Word

/-! ### The formulas of the cycle

The closed formulas for a year of the cycle and for a month of the year, with the word that each of
their steps is done in. Each lemma gives the range of arguments for which no step leaves its word;
within it the result is that of the formula on numbers without bound. -/

namespace Era

def yearInWords? (day : Int) : Option Int := do
  let days ← unsigned32.put? (day - day / 1460)
  let days ← unsigned32.put? (days + day / 36524)
  let days ← unsigned32.put? (days - day / 146096)
  return days / 365

def yearStartInWords? (year : Int) : Option Int := do
  let days ← unsigned32.put? (365 * year)
  let days ← unsigned32.put? (days + year / 4)
  unsigned32.put? (days - year / 100)

def monthInWords? (dayOfYear : Int) : Option Int := do
  let days ← unsigned32.put? (5 * dayOfYear)
  let days ← unsigned32.put? (days + 2)
  return days / 153

def monthStartInWords? (month : Int) : Option Int := do
  let days ← unsigned32.put? (153 * month)
  let days ← unsigned32.put? (days + 2)
  return days / 5

def calendarMonthInWords? (month : Int) : Option Int := do
  let month ← if month < 10 then unsigned32.put? (month + 3) else unsigned32.put? (month - 9)
  unsigned8.put? month

def monthFromMarchInWords? (month : Int) : Option Int :=
  if 2 < month then unsigned32.put? (month - 3) else unsigned32.put? (month + 9)

variable {day year dayOfYear month : Nat}

/-- The year of a day of the cycle is found without a step below zero: what is taken off is always
less than what is there. -/
theorem yearInWords?_eq (h : day < days) : yearInWords? day = some (yearOf day : Int) := by
  simp only [days] at h
  simp only [yearInWords?, yearOf, bind, pure]
  rw [put?_bind, put?_bind, put?_bind]
  all_goals simp only [least, greatest, Option.some.injEq]
  all_goals omega

theorem yearStartInWords?_eq (h : year < 400) :
    yearStartInWords? year = some (yearStart year : Int) := by
  simp only [yearStartInWords?, yearStart, bind]
  rw [put?_bind, put?_bind, put?_eq_some]
  all_goals simp only [least, greatest, Option.some.injEq]
  all_goals omega

theorem monthInWords?_eq (h : dayOfYear ≤ 365) :
    monthInWords? dayOfYear = some (monthOf dayOfYear : Int) := by
  simp only [monthInWords?, monthOf, bind, pure]
  rw [put?_bind, put?_bind]
  all_goals simp only [least, greatest, Option.some.injEq]
  all_goals omega

/-- The first day of a month in a year that begins in March. One month past the last is still held.
-/
theorem monthStartInWords?_eq (h : month ≤ 12) :
    monthStartInWords? month = some (monthStart month : Int) := by
  simp only [monthStartInWords?, monthStart, bind, pure]
  rw [put?_bind, put?_bind]
  all_goals simp only [least, greatest, Option.some.injEq]
  all_goals omega

/-- A month counted from March has its number in the calendar, and a byte holds that. -/
theorem calendarMonthInWords?_eq (h : month ≤ 11) :
    calendarMonthInWords? month = some (calendarMonth month : Int) := by
  have hcase : (month : Int) < 10 ↔ month < 10 := by omega
  simp only [calendarMonthInWords?, calendarMonth, bind, hcase]
  split
  all_goals
    rw [put?_bind, put?_eq_some]
    all_goals simp only [least, greatest, Option.some.injEq]
    all_goals omega

theorem monthFromMarch_le (h : 1 ≤ month) (hle : month ≤ 12) : monthFromMarch month ≤ 11 := by
  simp only [monthFromMarch]
  split <;> omega

theorem monthFromMarchInWords?_eq (h : 1 ≤ month) (hle : month ≤ 12) :
    monthFromMarchInWords? month = some (monthFromMarch month : Int) := by
  have hcase : 2 < (month : Int) ↔ 2 < month := by omega
  simp only [monthFromMarchInWords?, monthFromMarch, hcase]
  split
  all_goals
    rw [put?_eq_some]
    all_goals simp only [least, greatest, Option.some.injEq]
    all_goals omega

end Era

/-! ### Quotients that round down

Words divide toward zero. Quotients and remainders that round down are made from that, and their
steps stay within 64 bits for all but the numbers next to the least one. -/

/-- A quotient that rounds down, by a division that rounds toward zero. A negative number is lowered
first, as far as the quotient that rounds down stays the same. -/
def floorInWords? (n divisor : Int) : Option Int :=
  if 0 ≤ n then some (n.tdiv divisor)
  else do
    let lowered ← signed64.put? (n - (divisor - 1))
    return lowered.tdiv divisor

/-- The quotient that rounds down, and the remainder as a word without sign. -/
def splitInWords? (n divisor : Int) : Option (Int × Int) := do
  let quotient ← floorInWords? n divisor
  let multiple ← signed64.put? (quotient * divisor)
  let remainder ← signed64.put? (n - multiple)
  let remainder ← unsigned32.put? remainder
  return (quotient, remainder)

section

variable {n divisor : Int}

/-- The lowered number is a multiple of the divisor less than the number, or less than a multiple
past it, so that rounding toward zero brings it to the quotient of the number. -/
theorem tdiv_lowered (hneg : n < 0) (hpos : 0 < divisor) :
    (n - (divisor - 1)).tdiv divisor = n / divisor := by
  have hsplit := Int.mul_ediv_add_emod n divisor
  have hremainder := Int.emod_nonneg n (Int.ne_of_gt hpos)
  have hlt := Int.emod_lt_of_pos n hpos
  have hopposite : divisor - 1 - n = (divisor - 1 - n % divisor) + divisor * -(n / divisor) := by
    rw [Int.mul_neg]
    omega
  rw [← Int.neg_neg (n - (divisor - 1)), Int.neg_sub, Int.neg_tdiv,
    Int.tdiv_eq_ediv_of_nonneg (by omega), hopposite,
    Int.add_mul_ediv_left _ _ (Int.ne_of_gt hpos),
    Int.ediv_eq_zero_of_lt (by omega) (by omega), Int.zero_add, Int.neg_neg]

/-- The quotient rounds down for every number that is still a word when it is lowered by less than
the divisor. -/
theorem floorInWords?_eq (hpos : 0 < divisor) (hlow : signed64.least ≤ n - (divisor - 1)) :
    floorInWords? n divisor = some (n / divisor) := by
  simp only [floorInWords?, bind, pure]
  split
  next hn => rw [Int.tdiv_eq_ediv_of_nonneg hn]
  next hn =>
    rw [put?_bind _ hlow, tdiv_lowered (by omega) hpos]
    simp only [greatest]
    omega

/-- Quotient and remainder are the ones that round down, and the remainder is a word without a sign.
-/
theorem splitInWords?_eq (hpos : 0 < divisor) (hdivisor : divisor ≤ unsigned32.greatest)
    (hlow : signed64.least ≤ n - (divisor - 1)) (hhigh : n ≤ signed64.greatest) :
    splitInWords? n divisor = some (n / divisor, n % divisor) := by
  have hmultiple : n / divisor * divisor = n - n % divisor := by
    rw [Int.mul_comm, Int.emod_def]
    omega
  have hremainder := Int.emod_nonneg n (Int.ne_of_gt hpos)
  have hlt := Int.emod_lt_of_pos n hpos
  simp only [splitInWords?, bind, pure]
  rw [floorInWords?_eq hpos hlow, Option.bind_some, hmultiple, put?_bind, Int.sub_sub_self,
    put?_bind, put?_bind]
  all_goals simp only [least, greatest] at *
  all_goals omega

end

/-! ### From day numbers to dates

The way from a day number to its date, with the number of the day counted from 0000-03-01 as its
first step. This step is the only one that can leave its word. -/

namespace Date

/-- The calendar year of a month, from the year that began in March. -/
def calendarYearInWords? (marchYear month : Int) : Option Int :=
  if month ≤ 2 then signed64.put? (marchYear + 1) else some marchYear

/-- January and February belong to the calendar year after the one that began in March. -/
theorem calendarYearInWords?_eq {marchYear : Int} {month : Nat} (hlow : signed64.least ≤ marchYear)
    (hhigh : marchYear < signed64.greatest) :
    calendarYearInWords? marchYear month =
      some (if month ≤ 2 then marchYear + 1 else marchYear) := by
  have hcase : (month : Int) ≤ 2 ↔ month ≤ 2 := by omega
  simp only [calendarYearInWords?, hcase]
  split
  · exact put?_eq_some (by omega) (by omega)
  · rfl

/-- What the way from a day number to its date goes through. -/
structure Steps where
  dayOfCycle : Int
  yearOfCycle : Int
  dayOfYear : Int
  monthFromMarch : Int
  year : Int
  month : Int
  day : Int
deriving DecidableEq, Repr

/-- The date of a day number. -/
def inWords? (dayNumber : Int) : Option Steps := do
  let shifted ← signed64.put? (dayNumber + 719468)
  let (cycle, dayOfCycle) ← splitInWords? shifted 146097
  let yearOfCycle ← Era.yearInWords? dayOfCycle
  let cycleYear ← signed64.put? (cycle * 400)
  let marchYear ← signed64.put? (yearOfCycle + cycleYear)
  let yearStart ← Era.yearStartInWords? yearOfCycle
  let dayOfYear ← unsigned32.put? (dayOfCycle - yearStart)
  let monthFromMarch ← Era.monthInWords? dayOfYear
  let monthStart ← Era.monthStartInWords? monthFromMarch
  let day ← unsigned32.put? (dayOfYear - monthStart)
  let day ← unsigned32.put? (day + 1)
  let day ← unsigned8.put? day
  let month ← Era.calendarMonthInWords? monthFromMarch
  let year ← calendarYearInWords? marchYear month
  return { dayOfCycle, yearOfCycle, dayOfYear, monthFromMarch, year, month, day }

/-- The exact values of these steps. -/
def steps (dayNumber : Int) : Steps where
  dayOfCycle := dayOfCycle dayNumber
  yearOfCycle := Era.yearOf (dayOfCycle dayNumber)
  dayOfYear := Era.dayOfYear (dayOfCycle dayNumber)
  monthFromMarch := Era.monthOf (Era.dayOfYear (dayOfCycle dayNumber))
  year := yearOfDay dayNumber
  month := monthOfDay dayNumber
  day := dayOfMonth dayNumber

/-- The steps stay within the cycle, its years and their months, and end on a day that the month has
in that year of the cycle. -/
structure Steps.InCycle (steps : Steps) : Prop where
  dayOfCycle : 0 ≤ steps.dayOfCycle ∧ steps.dayOfCycle ≤ 146096
  yearOfCycle : 0 ≤ steps.yearOfCycle ∧ steps.yearOfCycle ≤ 399
  dayOfYear : 0 ≤ steps.dayOfYear ∧ steps.dayOfYear ≤ 365
  monthFromMarch : 0 ≤ steps.monthFromMarch ∧ steps.monthFromMarch ≤ 11
  month : 1 ≤ steps.month ∧ steps.month ≤ 12
  day : 1 ≤ steps.day ∧ steps.day ≤ daysInMonth (steps.year % 400) steps.month.toNat

/-- The length of a month depends on the place of the year in its cycle only. -/
theorem daysInMonth_emod (year : Int) (month : Nat) :
    daysInMonth (year % 400) month = daysInMonth year month := by
  have hleap : IsLeap (year % 400) ↔ IsLeap year := by
    simp only [IsLeap]
    omega
  simp only [daysInMonth, hleap]

/-- The exact values of the steps stay within the cycle, the year and the month. -/
theorem inCycle_steps (n : Int) : (steps n).InCycle where
  dayOfCycle := ⟨Int.natCast_nonneg _, Int.ofNat_le.2 (Nat.le_of_lt_succ (dayOfCycle_lt n))⟩
  yearOfCycle :=
    ⟨Int.natCast_nonneg _, Int.ofNat_le.2 (Nat.le_of_lt_succ (Era.yearOf_lt (dayOfCycle_lt n)))⟩
  dayOfYear := ⟨Int.natCast_nonneg _, Int.ofNat_le.2 (Era.dayOfYear_le (dayOfCycle_lt n))⟩
  monthFromMarch :=
    ⟨Int.natCast_nonneg _, Int.ofNat_le.2 (Era.monthOf_le (Era.dayOfYear_le (dayOfCycle_lt n)))⟩
  month := ⟨Int.ofNat_le.2 (ofDayNumber n).month_pos, Int.ofNat_le.2 (ofDayNumber n).month_le⟩
  day := by
    rw [daysInMonth_emod]
    exact ⟨Int.ofNat_le.2 (ofDayNumber n).day_pos, Int.ofNat_le.2 (dayOfMonth_le n)⟩

/-- The day of the cycle is the remainder of the day number counted from 0000-03-01. -/
theorem dayOfCycle_eq_emod (n : Int) : (dayOfCycle n : Int) = (n + 719468) % 146097 := by
  simp only [dayOfCycle, cycleOf, cycleOffset, Era.days]
  omega

/-- In words a day number has the date that it has, if it can be counted from 0000-03-01. A negative
number is then far enough from the least one to be lowered by a cycle. -/
theorem inWords?_eq {n : Int} (hn : signed64.Holds n) (h : signed64.Holds (n + 719468)) :
    inWords? n = some (steps n) := by
  have hlt := dayOfCycle_lt n
  have hyear := Era.yearOf_lt hlt
  have hstart := Era.yearStart_le hlt
  have hday := Era.dayOfYear_le hlt
  have hmonth := Era.monthOf_le hday
  have hmonthStart := Era.monthStart_monthOf_le (Era.dayOfYear (dayOfCycle n))
  have hdays := Nat.le_trans (dayOfMonth_le n) (daysInMonth_le _ _)
  have hcycle : (n + 719468) / 146097 = cycleOf n := rfl
  have hleast : -9223372036854775808 ≤ n := hn.1
  have hgreatest : n + 719468 ≤ 9223372036854775807 := h.2
  have hdayOfYear : (dayOfCycle n : Int) - Era.yearStart (Era.yearOf (dayOfCycle n)) =
      Era.dayOfYear (dayOfCycle n) := by
    simp only [Era.dayOfYear]
    omega
  have hdayOfMonth : (Era.dayOfYear (dayOfCycle n) : Int)
      - Era.monthStart (Era.monthOf (Era.dayOfYear (dayOfCycle n))) + 1 = dayOfMonth n := by
    simp only [dayOfMonth]
    omega
  -- The steps are done in their order; that each result is held by its word is left to the end.
  simp only [inWords?, bind, pure]
  rw [put?_bind _ h.1 h.2, splitInWords?_eq (by decide) (by decide) _ h.2, Option.bind_some,
    hcycle, ← dayOfCycle_eq_emod, Era.yearInWords?_eq hlt, Option.bind_some,
    put?_bind, put?_bind, Era.yearStartInWords?_eq hyear, Option.bind_some, hdayOfYear, put?_bind,
    Era.monthInWords?_eq hday, Option.bind_some, Era.monthStartInWords?_eq (by omega),
    Option.bind_some, put?_bind, hdayOfMonth, put?_bind, put?_bind,
    Era.calendarMonthInWords?_eq hmonth, Option.bind_some, calendarYearInWords?_eq,
    Option.bind_some]
  · rfl
  all_goals simp only [least, greatest]
  all_goals omega

/-! ### From dates to day numbers

The way back. It starts from a year of 16 bits without a sign, so that all of its steps are small.
-/

/-- The year that begins in March and holds a month of a calendar year. -/
def marchYearInWords? (year month : Int) : Option Int :=
  if month ≤ 2 then signed64.put? (year - 1) else some year

/-- The year of the cycle that holds a date, and the number of the date. -/
def numberInWords? (year month day : Int) : Option (Int × Int) := do
  let marchYear ← marchYearInWords? year month
  let (cycle, yearOfCycle) ← splitInWords? marchYear 400
  let monthFromMarch ← Era.monthFromMarchInWords? month
  let monthStart ← Era.monthStartInWords? monthFromMarch
  let dayOfYear ← unsigned32.put? (monthStart + day)
  let dayOfYear ← unsigned32.put? (dayOfYear - 1)
  let yearStart ← Era.yearStartInWords? yearOfCycle
  let dayOfCycle ← unsigned32.put? (yearStart + dayOfYear)
  let cycleStart ← signed64.put? (cycle * 146097)
  let number ← signed64.put? (cycleStart + dayOfCycle)
  let number ← signed64.put? (number - 719468)
  return (yearOfCycle, number)

variable {date : Date}

/-- The year of the cycle is the remainder of the year that begins in March, also before the year
zero. -/
theorem yearOfCycle_eq_emod : (date.yearOfCycle : Int) = date.marchYear % 400 := by
  simp only [yearOfCycle]
  omega

/-- January and February of a year of 16 bits belong to the year before, which may be the year
before zero. -/
theorem marchYearInWords?_eq (h : unsigned16.Holds date.year) :
    marchYearInWords? date.year date.month = some date.marchYear := by
  have hcase : (date.month : Int) ≤ 2 ↔ date.month ≤ 2 := by omega
  simp only [Holds, least, greatest] at h
  simp only [marchYearInWords?, marchYear, hcase]
  split
  · exact put?_eq_some (by simp only [least]; omega) (by simp only [greatest]; omega)
  · rfl

/-- In words a date with a year of 16 bits has the number that it has. -/
theorem numberInWords?_eq (h : unsigned16.Holds date.year) :
    numberInWords? date.year date.month date.day =
      some ((date.yearOfCycle : Int), date.dayNumber) := by
  have hyear : -1 ≤ date.marchYear ∧ date.marchYear ≤ 65535 := by
    simp only [Holds, least, greatest] at h
    simp only [marchYear]
    omega
  have hyearOfCycle := @yearOfCycle_eq_emod date
  have hmonth := Era.monthFromMarch_le date.month_pos date.month_le
  have hmonthStart : Era.monthStart (Era.monthFromMarch date.month) ≤ 337 := by
    simp only [Era.monthStart]
    omega
  have hday := date.day_pos
  have hdays := Nat.le_trans date.day_le (daysInMonth_le _ _)
  have hdayOfYear : (Era.monthStart (Era.monthFromMarch date.month) : Int) + date.day - 1 =
      date.dayOfMarchYear := by
    simp only [dayOfMarchYear]
    omega
  have hyearStart : Era.yearStart date.yearOfCycle ≤ 146000 := by
    simp only [Era.yearStart]
    omega
  have hnumber : date.marchYear / 400 * 146097
      + (Era.yearStart date.yearOfCycle + date.dayOfMarchYear : Int) - 719468 = date.dayNumber := by
    simp only [dayNumber, cycleOffset, Era.days, Nat.cast_add, Nat.cast_ofNat]
  simp only [numberInWords?, bind, pure]
  rw [marchYearInWords?_eq h, Option.bind_some, splitInWords?_eq (by decide) (by decide),
    Option.bind_some, ← hyearOfCycle,
    Era.monthFromMarchInWords?_eq date.month_pos date.month_le, Option.bind_some,
    Era.monthStartInWords?_eq (by omega), Option.bind_some, put?_bind, hdayOfYear, put?_bind,
    Era.yearStartInWords?_eq (by omega), Option.bind_some, put?_bind, put?_bind, put?_bind, hnumber,
    put?_bind]
  all_goals simp only [least, greatest]
  all_goals omega

end Date

/-! ### Dates with a time of day

Counts of nanoseconds are split into days and a time of day in 64 bits without a sign, and put
together again in 128 bits with one. -/

namespace DateTime

/-- The fields of a date and time as they are stored. -/
@[ext] structure Fields where
  year : Int
  month : Int
  day : Int
  hour : Int
  minute : Int
  second : Int
  nanosecond : Int
deriving DecidableEq, Repr

def fields (time : DateTime) : Fields where
  year := time.year
  month := time.month
  day := time.day
  hour := time.hour
  minute := time.minute
  second := time.second
  nanosecond := time.nanosecond

/-- The fields of a count of nanoseconds from the epoch. -/
def fieldsInWords? (nanos : Int) : Option Fields := do
  let seconds := nanos / 1000000000
  let secondOfDay := seconds % 86400
  let dayNumber ← signed64.put? (seconds / 86400)
  let date ← Date.inWords? dayNumber
  let year ← unsigned16.put? date.year
  let hour ← unsigned8.put? (secondOfDay / 3600)
  let minute ← unsigned8.put? (secondOfDay % 3600 / 60)
  let second ← unsigned8.put? (secondOfDay % 60)
  let nanosecond ← unsigned32.put? (nanos % 1000000000)
  return { year, month := date.month, day := date.day, hour, minute, second, nanosecond }

/-- The whole seconds from the epoch. -/
def epochSecondsInWords? (fields : Fields) : Option Int := do
  let (_, dayNumber) ← Date.numberInWords? fields.year fields.month fields.day
  let days ← signed64.put? (dayNumber * 86400)
  let hours ← signed64.put? (fields.hour * 3600)
  let seconds ← signed64.put? (days + hours)
  let minutes ← signed64.put? (fields.minute * 60)
  let seconds ← signed64.put? (seconds + minutes)
  signed64.put? (seconds + fields.second)

/-- The nanoseconds from the epoch. -/
def epochNanosInWords? (fields : Fields) : Option Int := do
  let seconds ← epochSecondsInWords? fields
  let nanos ← signed128.put? (seconds * 1000000000)
  signed128.put? (nanos + fields.nanosecond)

/-- In words a count without a sign has the date and time that it has, the year in 16 bits. -/
theorem fieldsInWords?_eq {nanos : Int} (h : unsigned64.Holds nanos) :
    fieldsInWords? nanos = some (ofEpochNanos nanos).fields := by
  simp only [Holds, least, greatest] at h
  have hyear := year_ofEpochNanos_bounds h.1 (by omega)
  have hyear' : (ofEpochNanos nanos).year = (Date.steps (nanos / 1000000000 / 86400)).year := rfl
  simp only [fieldsInWords?, bind, pure]
  rw [put?_bind, Date.inWords?_eq, Option.bind_some, ← hyear', put?_bind, put?_bind, put?_bind,
    put?_bind, put?_bind]
  · refine congrArg some (Fields.ext rfl rfl rfl ?_ ?_ ?_ ?_)
    all_goals simp only [fields, ofEpochNanos]
    all_goals omega
  all_goals simp only [Holds, least, greatest]
  all_goals omega

variable {time : DateTime}

theorem dayNumber_bounds (h : unsigned16.Holds time.year) :
    -719528 ≤ time.dayNumber ∧ time.dayNumber ≤ 23217003 :=
  (Date.year_mem_iff time.toDate).1 h

/-- The seconds of dates with a year of 16 bits. They are far from leaving 64 bits. -/
theorem epochSeconds_bounds (h : unsigned16.Holds time.year) :
    -62167219200 ≤ time.epochSeconds ∧ time.epochSeconds < 2005949145600 := by
  have hnumber := dayNumber_bounds h
  have hhour := time.hour_lt
  have hminute := time.minute_lt
  have hsecond := time.second_lt
  simp only [epochSeconds]
  omega

theorem epochSecondsInWords?_eq (h : unsigned16.Holds time.year) :
    epochSecondsInWords? time.fields = some time.epochSeconds := by
  have hnumber := dayNumber_bounds h
  have hhour := time.hour_lt
  have hminute := time.minute_lt
  have hsecond := time.second_lt
  simp only [epochSecondsInWords?, fields, bind]
  rw [Date.numberInWords?_eq h, Option.bind_some, put?_bind, put?_bind, put?_bind, put?_bind,
    put?_bind, put?_eq_some]
  · simp only [epochSeconds, Option.some.injEq]
    omega
  all_goals simp only [least, greatest]
  all_goals omega

/-- In words a date and time has the nanoseconds that it has. They need more than 64 bits for most
of these years. -/
theorem epochNanosInWords?_eq (h : unsigned16.Holds time.year) :
    epochNanosInWords? time.fields = some time.epochNanos := by
  have hseconds := epochSeconds_bounds h
  have hnanosecond := time.nanosecond_lt
  simp only [epochNanosInWords?, bind]
  rw [epochSecondsInWords?_eq h, Option.bind_some, put?_bind, put?_eq_some]
  · rfl
  all_goals simp only [fields, least, greatest]
  all_goals omega

end DateTime

/-- No step of the calendar leaves its word. Every day number of 64 bits that has 64 bits also when
counted from 0000-03-01 has in words the date that it has, and the way to it stays within the cycle,
the year and the months; the day is one that the month has in that year of the cycle. The date and
time of every count of 64 bits without sign is reached in words, its year in 16 bits. A date and
time whose year has 16 bits leads in words to its day number, by a year of the cycle below 400, and
to its seconds and nanoseconds from the epoch. -/
theorem DateTime.words_suffice :
    (∀ n : Int, signed64.Holds n → signed64.Holds (n + 719468) →
      ∃ steps, Date.inWords? n = some steps ∧ steps.InCycle ∧
        steps.year = (Date.ofDayNumber n).year ∧ steps.month = (Date.ofDayNumber n).month ∧
        steps.day = (Date.ofDayNumber n).day) ∧
    (∀ nanos : Int, unsigned64.Holds nanos →
      fieldsInWords? nanos = some (ofEpochNanos nanos).fields ∧
        unsigned16.Holds (ofEpochNanos nanos).year) ∧
    ∀ time : DateTime, unsigned16.Holds time.year →
      (∃ yearOfCycle, Date.numberInWords? time.year time.month time.day =
          some (yearOfCycle, time.dayNumber) ∧ 0 ≤ yearOfCycle ∧ yearOfCycle ≤ 399) ∧
      epochSecondsInWords? time.fields = some time.epochSeconds ∧
      epochNanosInWords? time.fields = some time.epochNanos := by
  refine ⟨?_, ?_, ?_⟩
  · intro n hn h
    exact ⟨Date.steps n, Date.inWords?_eq hn h, Date.inCycle_steps n, rfl, rfl, rfl⟩
  · intro nanos h
    refine ⟨fieldsInWords?_eq h, ?_⟩
    simp only [Holds, least, greatest] at *
    have hyear := year_ofEpochNanos_bounds h.1 (by omega)
    omega
  · intro time h
    refine ⟨⟨time.yearOfCycle, Date.numberInWords?_eq h, ?_⟩, epochSecondsInWords?_eq h,
      epochNanosInWords?_eq h⟩
    have hyear := @Date.yearOfCycle_eq_emod time.toDate
    omega

/-- The greatest day number of 64 bits cannot be counted from 0000-03-01. -/
example : Date.inWords? 9223372036854775807 = none := by decide

end UtcTime
