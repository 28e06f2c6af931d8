/-
Module: UtcTime.ClockTime
Purpose: Spans and instants as other programs hold them: a length without sign as whole seconds and
  nanoseconds, and a reading of the system clock as a signed distance from the epoch.
Trusted boundary: none
Main exports: Elapsed, ClockTime, Span.ofElapsed?, Span.toElapsed?, Instant.ofClockTime?,
  Instant.toClockTime
-/
import UtcTime.Instant.Basic

namespace UtcTime

/-- A length of time in whole seconds, as many as 64 bits hold, and nanoseconds. -/
@[ext] structure Elapsed where
  seconds : Nat
  nanos : Nat
  seconds_lt : seconds < 18446744073709551616
  nanos_lt : nanos < 1000000000

namespace Elapsed

instance : DecidableEq Elapsed := fun a b =>
  decidable_of_iff (a.seconds = b.seconds ∧ a.nanos = b.nanos) Elapsed.ext_iff.symm

/-- The length with the given parts, if they are within their bounds. -/
def ofParts? (seconds nanos : Nat) : Option Elapsed :=
  if h : seconds < 18446744073709551616 ∧ nanos < 1000000000 then some ⟨seconds, nanos, h.1, h.2⟩ else none

/-- The whole length in nanoseconds. -/
def total (elapsed : Elapsed) : Nat :=
  elapsed.seconds * 1000000000 + elapsed.nanos

end Elapsed

/-- A reading of the system clock, which may lie before the epoch. -/
@[ext] structure ClockTime where
  /-- The nanoseconds from the epoch to the reading. -/
  offset : Int
deriving DecidableEq

namespace ClockTime

/-- The reading a given length after the epoch. -/
def after (elapsed : Elapsed) : ClockTime := ⟨elapsed.total⟩

/-- The reading a given length before the epoch. -/
def before (elapsed : Elapsed) : ClockTime := ⟨-elapsed.total⟩

/-- The whole seconds from the epoch to the reading, rounded down. -/
def seconds (time : ClockTime) : Int := time.offset / 1000000000

/-- The nanoseconds of the last second. -/
def nanos (time : ClockTime) : Nat := (time.offset % 1000000000).toNat

end ClockTime

namespace Span

/-- The seconds of a count need no more than 64 bits. -/
theorem toElapsed_seconds_lt (count : Count) :
    count.val.toNat / 1000000000 < 18446744073709551616 := by
  have hle := count.fits.2
  simp only [Count.greatest] at hle
  omega

theorem toElapsed_nanos_lt (count : Count) : count.val.toNat % 1000000000 < 1000000000 :=
  Nat.mod_lt _ (by decide)

/-- The span of a given length. -/
def ofElapsed? (elapsed : Elapsed) : Except ArithmeticFault Span :=
  ofNanos? elapsed.total

/-- The length of a finite span that is not negative. Other spans have no such form. -/
def toElapsed? : Span → Except ArithmeticFault Elapsed
  | finite count =>
      if 0 ≤ count.val then
        .ok ⟨count.val.toNat / 1000000000, count.val.toNat % 1000000000,
          toElapsed_seconds_lt count, toElapsed_nanos_lt count⟩
      else
        .error .outOfRange
  | infinite _ => .error .outOfRange

end Span

namespace Instant

/-- The instant of a clock reading. It must not lie before the epoch. -/
def ofClockTime? (time : ClockTime) : Except ArithmeticFault Instant :=
  ofNanos? time.offset

def toClockTime (t : Instant) : ClockTime := ⟨t.nanos⟩

end Instant

end UtcTime
