/-
Module: UtcTime.Template.Text
Purpose: Writing spans and instants by a template, and reading instants back by one. The fields of a
  span show its length without the sign.
Trusted boundary: none
Main exports: Span.fieldText, Span.format, DateTime.fieldValue, DateTime.fieldText, Instant.format,
  InstantTemplate.read?
-/
import UtcTime.Instant.Basic
import UtcTime.Template.Basic
import UtcTime.Template.Reading

namespace UtcTime

/-! ### Spans

Every field can be written for every span. An infinite one is written by tokens of its own, which
name no field but the sign. -/

namespace Span

/-- The text of a field of a finite span. -/
def fieldText (span : Span) : SpanField → List Char
  | .sign field => field.text span.isNegative
  | .days => Text.decimal span.days
  | .daysIfAny => if 0 < span.days then Text.decimal span.days ++ ['d', ' '] else []
  | .clock field => Text.padded field.width (span.clock field)

/-- The text of a span by a template. The two halves of the template do not mix. -/
def format (span : Span) (template : SpanTemplate) : String :=
  String.ofList <|
    if span.isFinite then Token.render span.fieldText template.finite
    else Token.render (SignField.text span.isNegative) template.infinite

instance : ToString Span := ⟨fun span => span.format .standard⟩

end Span

/-! ### Instants

The fields of an instant are those of its date and time; reading puts a date and time together from
the values that a text gives, and asks whether an instant has it. -/

namespace DateTime

/-- The number that a field shows. -/
def fieldValue (time : DateTime) : CalendarField → Nat
  | .year => time.year.toNat
  | .month => time.month
  | .day => time.day
  | .clock field => time.clock field

/-- The text of a field: its number, with zeros in front to the width of the field. -/
def fieldText (time : DateTime) (field : CalendarField) : List Char :=
  Text.padded field.width (time.fieldValue field)

end DateTime

namespace Instant

/-- The text of an instant by a template. -/
def format (t : Instant) (template : InstantTemplate) : String :=
  String.ofList (Token.render t.toDateTime.fieldText template.tokens)

/-- Compiles a template and writes the instant by it. Only the template can be at fault. -/
def formatWith? (t : Instant) (source : String) : Except Fault String :=
  (InstantTemplate.ofString? source).map t.format

instance : ToString Instant := ⟨fun t => t.format .standard⟩

end Instant

namespace InstantTemplate

/-- The instant that a text gives by the template. Faults of the text, from left to right, come
before a date that does not exist, and that before an instant out of range. -/
def read? (template : InstantTemplate) (input : String) : Except Fault Instant :=
  match Token.read? template.tokens 0 input.toList {} with
  | .error fault => .error (.reading input fault)
  | .ok values =>
      match values.toDateTime? with
      | none => .error (.reading input (.noSuchDate values.year values.month values.day))
      | some time => (Instant.ofDateTime? time).mapError .arithmetic

end InstantTemplate

end UtcTime
