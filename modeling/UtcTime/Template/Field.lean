/-
Module: UtcTime.Template.Field
Purpose: The fields that templates can name, in three kinds: those of an instant on the calendar,
  those of a finite span, and those of an infinite one. Clock fields are common to the first two.
Trusted boundary: none
Main exports: CalendarField, SignField, SpanField, CalendarField.width, CalendarField.least,
  CalendarField.greatest, and the alphabet of each kind
-/
import UtcTime.Template.Token
import UtcTime.TimeUnit

namespace UtcTime

/-- A field of a date and time. -/
inductive CalendarField where
  | year
  | month
  | day
  | clock (field : ClockField)
deriving DecidableEq, Repr

/-- How the sign of a span is written. -/
inductive SignField where
  /-- A plus or a minus. -/
  | always
  /-- A minus before negative spans, and nothing before others. -/
  | ifNegative
deriving DecidableEq, Repr

/-- A field of a finite span. -/
inductive SpanField where
  | sign (field : SignField)
  /-- The number of whole days. -/
  | days
  /-- The number of whole days, a `d` and a space, if there is at least one day. -/
  | daysIfAny
  | clock (field : ClockField)
deriving DecidableEq, Repr

namespace ClockField

instance : Alphabet ClockField where
  expand?
    | 'H' => some [.field .hour]
    | 'M' => some [.field .minute]
    | 'S' => some [.field .second]
    | 'T' => some [.field .hour, .literal [':'], .field .minute, .literal [':'], .field .second]
    | '3' => some [.field .milli]
    | '6' => some [.field .micro]
    | '9' => some [.field .nano]
    | _ => none

end ClockField

namespace CalendarField

instance : Alphabet CalendarField where
  expand?
    | 'Y' => some [.field .year]
    | 'm' => some [.field .month]
    | 'd' => some [.field .day]
    | 'F' => some [.field .year, .literal ['-'], .field .month, .literal ['-'], .field .day]
    | other => (Alphabet.expand? other).map (List.map (Token.lift .clock))

/-- The number of digits of the field. -/
def width : CalendarField → Nat
  | year => 4
  | month | day => 2
  | clock field => field.width

/-- The least value of the field that can be read. -/
def least : CalendarField → Nat
  | month | day => 1
  | year | clock _ => 0

/-- The greatest value of the field that can be read. -/
def greatest : CalendarField → Nat
  | year => 9999
  | month => 12
  | day => 31
  | clock field => field.limit - 1

end CalendarField

namespace SignField

instance : Alphabet SignField where
  expand?
    | '+' => some [.field .always]
    | '-' => some [.field .ifNegative]
    | _ => none

/-- The sign of a span. -/
def text (negative : Bool) : SignField → List Char
  | always => if negative then ['-'] else ['+']
  | ifNegative => if negative then ['-'] else []

end SignField

namespace SpanField

instance : Alphabet SpanField where
  expand?
    | 'd' => some [.field .days]
    | 'D' => some [.field .daysIfAny]
    | other =>
        match Alphabet.expand? other with
        | some expansion => some (expansion.map (Token.lift .sign))
        | none => (Alphabet.expand? other).map (List.map (Token.lift .clock))

end SpanField

end UtcTime
