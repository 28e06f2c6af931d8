/-
Module: UtcTime.Fault
Purpose: The reasons for which an operation on spans, instants or templates has no result, and the
  one place where each of them is put into words.
Trusted boundary: none
Main exports: ArithmeticFault, TemplateFault, ReadingFault, Fault, Fault.message
-/
import UtcTime.Text.Measure

namespace UtcTime

/-- Why a computation on spans and instants has no result. -/
inductive ArithmeticFault where
  /-- The value is no instant: it is infinite, lies before the epoch or past the last instant. -/
  | outOfRange
  /-- The exact nanosecond count does not fit. -/
  | overflow
  /-- Infinite operands whose combination has no meaning, such as the sum of opposite infinities. -/
  | undefinedInfinity
  | divisionByZero
  | notANumber
deriving DecidableEq, Repr

/-- Why a text is no template. -/
inductive TemplateFault where
  /-- The text ends in an unpaired percent sign. -/
  | trailingPercent
  /-- The character after a percent sign names no field of this kind of template. -/
  | unknownPlaceholder (placeholder : Char)
deriving DecidableEq, Repr

/-- Why a text does not follow a template. Offsets count the UTF-8 bytes before the fault. -/
inductive ReadingFault where
  | expectedLiteral (text : String) (offset : Nat)
  | expectedDigits (width offset : Nat)
  /-- The digits are there, but their value lies outside the bounds of the field. -/
  | outsideBounds (value offset min max : Nat)
  | trailingText (offset : Nat)
  /-- Every field is fine by itself, but the calendar has no such day. -/
  | noSuchDate (year month day : Nat)
deriving DecidableEq, Repr

/-- Any failure of the library, together with the text that caused it where there is one. -/
inductive Fault where
  | arithmetic (fault : ArithmeticFault)
  | template (source : String) (fault : TemplateFault)
  | reading (input : String) (fault : ReadingFault)
deriving DecidableEq, Repr

namespace ArithmeticFault

def message : ArithmeticFault → String
  | outOfRange => "Value out of range for a timestamp"
  | overflow => "Nanosecond count overflowed"
  | undefinedInfinity => "Operation on infinite durations has no defined result"
  | divisionByZero => "Division by zero"
  | notANumber => "Argument is not a number"

end ArithmeticFault

namespace TemplateFault

def message : TemplateFault → String
  | trailingPercent => "pattern ends with '%'"
  | unknownPlaceholder placeholder => s!"unknown placeholder '%{placeholder}'"

end TemplateFault

namespace ReadingFault

def message : ReadingFault → String
  | expectedLiteral text offset => s!"expected '{text}' at offset {offset}"
  | expectedDigits width offset => s!"expected {width} digits at offset {offset}"
  | outsideBounds value offset min max => s!"{value} at offset {offset} is outside {min}..={max}"
  | trailingText offset => s!"unexpected trailing text at offset {offset}"
  | noSuchDate year month day =>
      let date := Text.padded 4 year ++ '-' :: Text.padded 2 month ++ '-' :: Text.padded 2 day
      s!"{String.ofList date} is not a valid date"

end ReadingFault

namespace Fault

/-- Whether the failure is one of value and range, as opposed to one of text. -/
def isArithmetic : Fault → Bool
  | arithmetic _ => true
  | template .. | reading .. => false

def message : Fault → String
  | arithmetic fault => fault.message
  | template source fault => s!"Invalid pattern '{source}': {fault.message}"
  | reading input fault => s!"Cannot parse '{input}': {fault.message}"

end Fault

end UtcTime
