/-
Module: UtcTime.Proofs.SpanParts
Purpose: Days and the six fields of a clock are the digits of a number of nanoseconds in a mixed radix,
  so they make up the number, and with its sign a finite span. For the time since the epoch they are
  also what the calendar shows, which splits off the second before it looks at the date and the time
  of day.
Trusted boundary: none
Main exports: ClockField.ofDigits_digit, Span.magnitude_eq, Span.eq_of_parts,
  Instant.clock_toDateTime, Instant.dayNumber_toDateTime
-/
import UtcTime.Proofs.EpochTime

namespace UtcTime

namespace ClockField

/-- The number of nanoseconds in a number of days and the digits of a clock. -/
def ofDigits (days : Nat) (digit : ClockField → Nat) : Nat :=
  (((((days * 24 + digit .hour) * 60 + digit .minute) * 60 + digit .second) * 1000 +
    digit .milli) * 1000 + digit .micro) * 1000 + digit .nano

/-- A number of nanoseconds is made up of its days and its digits. -/
theorem ofDigits_digit (nanos : Nat) :
    ofDigits (nanos / TimeUnit.day.nanos) (fun field => field.digit nanos) = nanos := by
  simp only [ofDigits, digit, unit, limit, TimeUnit.nanos]
  omega

end ClockField

namespace Span

theorem magnitude_eq (span : Span) :
    ClockField.ofDigits span.days span.clock = span.magnitude :=
  ClockField.ofDigits_digit span.magnitude

/-- Finite spans with the same sign and the same parts are the same. -/
theorem eq_of_parts {a b : Span} (ha : a.isFinite) (hb : b.isFinite)
    (hsign : a.isNegative = b.isNegative) (hdays : a.days = b.days)
    (hclock : ∀ field, a.clock field = b.clock field) : a = b := by
  have hmagnitude : a.magnitude = b.magnitude := by
    rw [← a.magnitude_eq, ← b.magnitude_eq, hdays, funext hclock]
  cases a with
  | infinite negative => simp [isFinite] at ha
  | finite count =>
      cases b with
      | infinite negative => simp [isFinite] at hb
      | finite other =>
          simp only [isNegative, decide_eq_decide] at hsign
          simp only [magnitude] at hmagnitude
          have hval : count.val = other.val := by omega
          exact congrArg finite (Count.ext hval)

end Span

namespace Instant

/-- The clock of an instant shows the digits of its count. -/
theorem clock_toDateTime (t : Instant) (field : ClockField) :
    t.toDateTime.clock field = field.digit t.nanos := by
  cases field
  all_goals
    simp only [toDateTime, DateTime.ofEpochNanos, DateTime.clock, ClockField.digit, ClockField.unit,
      ClockField.limit, TimeUnit.nanos]
    omega

/-- The date of an instant is numbered by the whole days of its count. -/
theorem dayNumber_toDateTime (t : Instant) :
    t.toDateTime.dayNumber = (t.nanos / TimeUnit.day.nanos : Nat) := by
  have hday := Date.dayNumber_ofDayNumber ((t.nanos : Int) / 1000000000 / 86400)
  simp only [toDateTime, DateTime.ofEpochNanos, TimeUnit.nanos, hday]
  omega

/-- The time since the epoch has the days and the clock of the instant. -/
theorem clock_sinceEpoch (t : Instant) (field : ClockField) :
    t.sinceEpoch.clock field = t.toDateTime.clock field :=
  (t.clock_toDateTime field).symm

theorem days_sinceEpoch (t : Instant) : (t.sinceEpoch.days : Int) = t.toDateTime.dayNumber :=
  t.dayNumber_toDateTime.symm

end Instant

end UtcTime
