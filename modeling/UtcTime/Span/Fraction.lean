/-
Module: UtcTime.Span.Fraction
Purpose: Spans and binary64 numbers. A product or quotient is formed by one float operation and then
  cut toward zero to whole nanoseconds; an infinite span comes only from an infinite operand, never
  from a float result that grew too large.
Trusted boundary: none
Main exports: Span.ofFloatNanos?, Span.ofFloatUnits?, Span.mulFloat?, Span.divFloat?, Span.total
-/
import UtcTime.Binary64.Basic
import UtcTime.Span.Basic

namespace UtcTime.Span

/-- The whole nanoseconds of a float count. A count that does not fit is a fault, and so is an
infinite one. -/
def ofFloatNanos? (x : Float) : Except ArithmeticFault Span :=
  match Binary64.ofFloat x with
  | .nan => .error .notANumber
  | .infinite _ => .error .overflow
  | .finite negative significand exponent =>
      ofNanos? (Binary64.truncate negative significand exponent)

/-- The span of `x` units, cut toward zero to whole nanoseconds. An infinite number of units is the
infinite span of that sign. -/
def ofFloatUnits? (unit : TimeUnit) (x : Float) : Except ArithmeticFault Span :=
  match Binary64.ofFloat x with
  | .infinite negative => .ok (infinite negative)
  | _ => ofFloatNanos? (x * Float.ofNat unit.nanos)

/-- The product with a float. Zero times infinity, either way round, has no value. -/
def mulFloat? (span : Span) (factor : Float) : Except ArithmeticFault Span :=
  match Binary64.ofFloat factor, span with
  | .nan, _ => .error .notANumber
  | .infinite negative, finite count =>
      if count.val = 0 then .error .undefinedInfinity
      else .ok (infinite (negative != decide (count.val < 0)))
  | .infinite negative, infinite spanNegative => .ok (infinite (spanNegative != negative))
  | .finite .., finite count => ofFloatNanos? (Float.ofInt count.val * factor)
  | .finite negative significand _, infinite spanNegative =>
      if significand = 0 then .error .undefinedInfinity
      else .ok (infinite (spanNegative != negative))

/-- The quotient by a float. A zero divisor of either sign is a fault before the span is looked
at; a finite span divided by infinity is zero. -/
def divFloat? (span : Span) (divisor : Float) : Except ArithmeticFault Span :=
  match Binary64.ofFloat divisor, span with
  | .nan, _ => .error .notANumber
  | .infinite _, infinite _ => .error .undefinedInfinity
  | .infinite _, finite count => ofFloatNanos? (Float.ofInt count.val / divisor)
  | .finite negative significand _, _ =>
      if significand = 0 then .error .divisionByZero
      else
        match span with
        | finite count => ofFloatNanos? (Float.ofInt count.val / divisor)
        | infinite spanNegative => .ok (infinite (spanNegative != negative))

/-- The length of a span in units, to the nearest float: the count is rounded to a float first, and
then divided. -/
def total (span : Span) (unit : TimeUnit) : Float :=
  match span with
  | finite count => Float.ofInt count.val / Float.ofNat unit.nanos
  | infinite negative => Binary64.infinityFloat negative

end UtcTime.Span
