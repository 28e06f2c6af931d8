/-
Module: UtcTime.Template.Reading
Purpose: Reading a date and time by a template. Every field has a fixed number of digits, so the
  text is taken apart from left to right and the place of each token is known in advance. Fields
  that the template does not name keep their value at the epoch; of a field named twice the last
  value counts.
Trusted boundary: none
Main exports: FieldValues, FieldValues.set, FieldValues.toDateTime?, CalendarField.read?,
  Token.read?
-/
import UtcTime.DateTime.Basic
import UtcTime.Template.Field

namespace UtcTime

/-- The values of the fields of a date and time, each within the bounds of its field. Together they
need not be a date. -/
structure FieldValues where
  year : Nat := 1970
  month : Nat := 1
  day : Nat := 1
  clock : ClockField → Nat := fun _ => 0

namespace FieldValues

def get (values : FieldValues) : CalendarField → Nat
  | .year => values.year
  | .month => values.month
  | .day => values.day
  | .clock field => values.clock field

def set (values : FieldValues) (field : CalendarField) (value : Nat) : FieldValues :=
  match field with
  | .year => { values with year := value }
  | .month => { values with month := value }
  | .day => { values with day := value }
  | .clock field =>
      { values with clock := fun other => if other = field then value else values.clock other }

/-- The nanoseconds of the second, from its three groups of digits. -/
def nanosecond (values : FieldValues) : Nat :=
  values.clock .milli * 1000000 + values.clock .micro * 1000 + values.clock .nano

/-- The date and time with these values, if the calendar has it. -/
def toDateTime? (values : FieldValues) : Option DateTime :=
  DateTime.ofFields? values.year values.month values.day (values.clock .hour)
    (values.clock .minute) (values.clock .second) values.nanosecond

/-- A field that is set has its new value, and all others keep theirs. -/
@[simp] theorem get_set (values : FieldValues) (field other : CalendarField) (value : Nat) :
    (values.set field value).get other = if other = field then value else values.get other := by
  cases field <;> cases other <;> simp [get, set]

end FieldValues

namespace CalendarField

/-- Reads the digits of a field from the front of a text that begins at `offset`. Missing digits
count before a value out of bounds. -/
def read? (field : CalendarField) (offset : Nat) (text : List Char) :
    Except ReadingFault (Nat × List Char) :=
  match Text.readDigits? field.width text with
  | none => .error (.expectedDigits field.width offset)
  | some (value, rest) =>
      if field.least ≤ value ∧ value ≤ field.greatest then .ok (value, rest)
      else .error (.outsideBounds value offset field.least field.greatest)

end CalendarField

namespace Token

/-- Reads a text that begins at `offset` by a list of tokens, and adds what it finds to `values`.
The text must end where the tokens end. -/
def read? : List (Token CalendarField) → Nat → List Char → FieldValues →
    Except ReadingFault FieldValues
  | [], offset, text, values =>
      if text.isEmpty then .ok values else .error (.trailingText offset)
  | .literal chars :: tokens, offset, text, values =>
      match chars.isPrefixOf? text with
      | none => .error (.expectedLiteral (String.ofList chars) offset)
      | some rest => read? tokens (offset + Text.byteLength chars) rest values
  | .field f :: tokens, offset, text, values =>
      match f.read? offset text with
      | .error fault => .error fault
      | .ok (value, rest) => read? tokens (offset + f.width) rest (values.set f value)

end Token

end UtcTime
