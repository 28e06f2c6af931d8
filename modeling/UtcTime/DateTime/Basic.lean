/-
Module: UtcTime.DateTime.Basic
Purpose: A date together with a time of day, to the nanosecond, and as a nanosecond count from the
  epoch, 1970-01-01 00:00. There are no leap seconds: every minute has sixty seconds and every day
  twenty-four hours. Times before the epoch count down.
Trusted boundary: none
Main exports: DateTime, DateTime.ofFields?, DateTime.clock, and the order by fields;
  DateTime.ofEpochNanos, DateTime.epochSeconds, DateTime.epochNanos
-/
import UtcTime.Date.DayNumber
import UtcTime.TimeUnit

namespace UtcTime

/-- A date and a time of day. -/
@[ext] structure DateTime extends Date where
  hour : Nat
  minute : Nat
  second : Nat
  /-- The nanoseconds of the second. -/
  nanosecond : Nat
  hour_lt : hour < 24
  minute_lt : minute < 60
  second_lt : second < 60
  nanosecond_lt : nanosecond < 1000000000
deriving DecidableEq

namespace DateTime

/-- The date and time with the given fields, if every field is within its bounds and the calendar
has the date. -/
def ofFields? (year : Int) (month day hour minute second nanosecond : Nat) : Option DateTime := do
  let date ← Date.ofFields? year month day
  if h : (hour < 24 ∧ minute < 60) ∧ second < 60 ∧ nanosecond < 1000000000 then
    some ⟨date, hour, minute, second, nanosecond, h.1.1, h.1.2, h.2.1, h.2.2⟩
  else
    none

/-- The value of a clock field. The fraction of the second is read in three groups of digits. -/
def clock (time : DateTime) : ClockField → Nat
  | .hour => time.hour
  | .minute => time.minute
  | .second => time.second
  | .milli => time.nanosecond / 1000000
  | .micro => time.nanosecond / 1000 % 1000
  | .nano => time.nanosecond % 1000

/-- The order of the fields, most significant first. -/
protected def compare (a b : DateTime) : Ordering :=
  compare a.year b.year
    |>.then (compare a.month b.month)
    |>.then (compare a.day b.day)
    |>.then (compare a.hour b.hour)
    |>.then (compare a.minute b.minute)
    |>.then (compare a.second b.second)
    |>.then (compare a.nanosecond b.nanosecond)

instance : Ord DateTime := ⟨DateTime.compare⟩

instance : LT DateTime := ltOfOrd

instance : LE DateTime := leOfOrd

instance : Max DateTime := maxOfLe

instance : Min DateTime := minOfLe

/-- A date and time is made of its own fields, and of no others. -/
theorem ofFields?_eq_some_iff {year : Int} {month day hour minute second nanosecond : Nat}
    {time : DateTime} :
    ofFields? year month day hour minute second nanosecond = some time ↔
      time.year = year ∧ time.month = month ∧ time.day = day ∧ time.hour = hour ∧
        time.minute = minute ∧ time.second = second ∧ time.nanosecond = nanosecond := by
  simp only [ofFields?, Option.bind_eq_bind, Option.bind_eq_some_iff, Date.ofFields?_eq_some_iff]
  constructor
  · rintro ⟨date, ⟨rfl, rfl, rfl⟩, h⟩
    split at h
    · cases h; simp
    · contradiction
  · rintro ⟨rfl, rfl, rfl, rfl, rfl, rfl, rfl⟩
    exact ⟨time.toDate, ⟨rfl, rfl, rfl⟩, by
      simp [time.hour_lt, time.minute_lt, time.second_lt, time.nanosecond_lt]⟩

/-! ### Counting from the epoch

Division rounds down here, so that the second of the day and the nanosecond of the second are in
their bounds on both sides of the epoch. -/

/-- The date and time that lies `nanos` nanoseconds after the epoch. -/
def ofEpochNanos (nanos : Int) : DateTime :=
  let seconds := nanos / 1000000000
  let secondOfDay := (seconds % 86400).toNat
  { toDate := Date.ofDayNumber (seconds / 86400)
    hour := secondOfDay / 3600
    minute := secondOfDay % 3600 / 60
    second := secondOfDay % 60
    nanosecond := (nanos % 1000000000).toNat
    hour_lt := by omega
    minute_lt := by omega
    second_lt := by omega
    nanosecond_lt := by omega }

/-- The whole seconds from the epoch to a date and time. -/
def epochSeconds (time : DateTime) : Int :=
  time.dayNumber * 86400 + (time.hour * 3600 + time.minute * 60 + time.second : Nat)

/-- The nanoseconds from the epoch to a date and time. -/
def epochNanos (time : DateTime) : Int :=
  time.epochSeconds * 1000000000 + time.nanosecond

end DateTime

end UtcTime
