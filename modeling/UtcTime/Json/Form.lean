/-
Module: UtcTime.Json.Form
Purpose: The JSON forms of instants and spans. An instant is a string in the precise format, and is
  also read from the standard format. A finite span is its nanosecond count; the infinite spans are
  words.
Trusted boundary: none
Main exports: FormFault, Instant.toJson, Instant.ofJson?, Span.toJson, Span.ofJson?
-/
import UtcTime.Json.Value
import UtcTime.Template.Text

namespace UtcTime

/-- What a JSON value should have been. -/
inductive Form where
  | instant
  | span
deriving DecidableEq, Repr

/-- Why a JSON value is no instant or no span. -/
inductive FormFault where
  /-- A value of a kind that the form does not use. -/
  | wrongKind (found : Json) (wanted : Form)
  /-- A value of the right kind that stands for nothing. -/
  | wrongValue (found : Json) (wanted : Form)
  /-- A string that does not give an instant. -/
  | unreadable (fault : Fault)

namespace Form

/-- The form in words. -/
def description : Form → String
  | instant => "a UTC timestamp such as 2009-02-11T12:53:09.123456789Z"
  | span => "a nanosecond count, \"inf\" or \"-inf\""

end Form

namespace FormFault

def message : FormFault → String
  | wrongKind found wanted => s!"invalid type: {found.describe}, expected {wanted.description}"
  | wrongValue found wanted => s!"invalid value: {found.describe}, expected {wanted.description}"
  | unreadable fault => fault.message

end FormFault

namespace Instant

def toJson (t : Instant) : Json := .string (t.format .precise)

/-- The instant that a string gives, by the precise format or else by the standard one. The fault
of a string that follows neither is that of the standard format. -/
def ofText? (s : String) : Except Fault Instant :=
  match InstantTemplate.precise.read? s with
  | .ok t => .ok t
  | .error _ => InstantTemplate.standard.read? s

def ofJson? : Json → Except FormFault Instant
  | .string s => (ofText? s).mapError .unreadable
  | other => .error (.wrongKind other .instant)

end Instant

namespace Span

def toJson : Span → Json
  | finite count => .integer count.val
  | infinite negative => .string (if negative then "-inf" else "inf")

def ofJson? : Json → Except FormFault Span
  | .integer n => (ofNanos? n).mapError fun _ => .wrongValue (.integer n) .span
  | .string s =>
      if s = "inf" then .ok infinity
      else if s = "-inf" then .ok negInfinity
      else .error (.wrongValue (.string s) .span)
  | other => .error (.wrongKind other .span)

end Span

end UtcTime
