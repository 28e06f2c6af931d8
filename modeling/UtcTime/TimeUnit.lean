/-
Module: UtcTime.TimeUnit
Purpose: The units in which spans are given, and the six fields of a clock with their place in the
  nanosecond count.
Trusted boundary: none
Main exports: TimeUnit, TimeUnit.nanos, ClockField, ClockField.unit, ClockField.limit,
  ClockField.width
-/

namespace UtcTime

inductive TimeUnit where
  | nanosecond
  | microsecond
  | millisecond
  | second
  | minute
  | hour
  | day
deriving DecidableEq, Repr

namespace TimeUnit

/-- The length of the unit in nanoseconds. -/
def nanos : TimeUnit → Nat
  | nanosecond => 1
  | microsecond => 1000
  | millisecond => 1000000
  | second => 1000000000
  | minute => 60 * 1000000000
  | hour => 60 * 60 * 1000000000
  | day => 24 * 60 * 60 * 1000000000

end TimeUnit

/-- What a clock shows below the day: hour, minute and second, then the fraction of the second in
three groups of three digits. -/
inductive ClockField where
  | hour
  | minute
  | second
  | milli
  | micro
  | nano
deriving DecidableEq, Repr

namespace ClockField

/-- The unit that the field counts. -/
def unit : ClockField → TimeUnit
  | hour => .hour
  | minute => .minute
  | second => .second
  | milli => .millisecond
  | micro => .microsecond
  | nano => .nanosecond

/-- The field counts from zero up to, but not including, this number. -/
def limit : ClockField → Nat
  | hour => 24
  | minute | second => 60
  | milli | micro | nano => 1000

/-- The number of digits in which the field is written. -/
def width : ClockField → Nat
  | hour | minute | second => 2
  | milli | micro | nano => 3

/-- The value of the field in a number of nanoseconds: its digit in the mixed radix of clock
fields. -/
def digit (field : ClockField) (nanos : Nat) : Nat :=
  nanos / field.unit.nanos % field.limit

/-- A digit is below the number of its units in the next greater one. -/
theorem digit_lt (field : ClockField) (nanos : Nat) : field.digit nanos < field.limit :=
  Nat.mod_lt _ (by cases field <;> decide)

end ClockField

end UtcTime
