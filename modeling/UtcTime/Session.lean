/-
Module: UtcTime.Session
Purpose: A session holds one span and one instant and carries out commands on them. A command that
  fails changes neither.
Trusted boundary: none
Main exports: Session, Command, SessionFault, Session.run, Session.runAll
-/
import UtcTime.Operation
import UtcTime.Span.Fraction
import UtcTime.Template.Text

namespace UtcTime

/-- A span and an instant to work on. -/
structure Session where
  span : Span
  instant : Instant
deriving DecidableEq

/-- The span that a command works with. -/
inductive Operand where
  | given (span : Span)
  /-- The span that the session holds at the time. -/
  | current

/-- What a session can be told to do. A template that is left out is the standard one. -/
inductive Command where
  | setSpan (operand : Operand)
  | addSpan (operand : Operand)
  | subtractSpan (operand : Operand)
  | negateSpan
  | multiplySpan (factor : Int)
  | divideSpan (divisor : Int)
  | multiplySpanByFloat (factor : Float)
  | divideSpanByFloat (divisor : Float)
  /-- Takes the time from the instant of a nanosecond count to the instant of the session. -/
  | measureSince (nanos : Int)
  | measureSinceEpoch
  | formatSpan (template infinite : Option String)
  | addToInstant (operand : Operand)
  | subtractFromInstant (operand : Operand)
  | setInstantFromSpan
  | readInstant (text : String) (template : Option String)
  | formatInstant (template : Option String)
  /-- Formats the instant, and reads it back by the same template. -/
  | reformatInstant (template : Option String)

/-- Why a command failed. -/
inductive SessionFault where
  | fault (fault : Fault)
  | operation (fault : OperationFault)
deriving DecidableEq

/-- The result of a command: the session after it, and the text that it gave, if any. -/
structure Outcome where
  session : Session
  output : Option String := none

namespace InstantTemplate

/-- The template of a text, or the standard one without a text. -/
def ofOption? : Option String → Except Fault InstantTemplate
  | none => .ok standard
  | some source => ofString? source

end InstantTemplate

namespace SpanTemplate

/-- The template of two texts, each of which may be left out. The one for finite spans is compiled
first. -/
def ofOptions? (source infinite : Option String) : Except Fault SpanTemplate := do
  let template ←
    match source with
    | none => .ok standard
    | some source => ofString? source
  match infinite with
  | none => return template
  | some infinite => template.withInfinite? infinite

end SpanTemplate

namespace Session

/-- The span that an operand stands for. -/
def operand (session : Session) : Operand → Span
  | .given span => span
  | .current => session.span

/-- The session with another span, if that span could be computed. -/
def withSpan {ε : Type} (session : Session) (toFault : ε → SessionFault)
    (result : Except ε Span) : Except SessionFault Outcome :=
  match result with
  | .ok span => .ok { session := { session with span } }
  | .error fault => .error (toFault fault)

/-- The session with another instant, if that instant could be computed. -/
def withInstant {ε : Type} (session : Session) (toFault : ε → SessionFault)
    (result : Except ε Instant) : Except SessionFault Outcome :=
  match result with
  | .ok instant => .ok { session := { session with instant } }
  | .error fault => .error (toFault fault)

/-- The unchanged session and a text, if that text could be made. -/
def withOutput (session : Session) (result : Except Fault String) :
    Except SessionFault Outcome :=
  match result with
  | .ok text => .ok { session, output := some text }
  | .error fault => .error (.fault fault)

/-- Carries out one command. -/
def run (session : Session) : Command → Except SessionFault Outcome
  | .setSpan operand => .ok { session := { session with span := session.operand operand } }
  | .addSpan operand => session.withSpan .operation (session.span.plus (session.operand operand))
  | .subtractSpan operand =>
      session.withSpan .operation (session.span.minus (session.operand operand))
  | .negateSpan => session.withSpan .operation session.span.opposite
  | .multiplySpan factor => session.withSpan .operation (session.span.times factor)
  | .divideSpan divisor => session.withSpan .operation (session.span.dividedBy divisor)
  | .multiplySpanByFloat factor =>
      session.withSpan (.fault ∘ .arithmetic) (session.span.mulFloat? factor)
  | .divideSpanByFloat divisor =>
      session.withSpan (.fault ∘ .arithmetic) (session.span.divFloat? divisor)
  | .measureSince nanos =>
      session.withSpan (.fault ∘ .arithmetic) ((Instant.ofNanos? nanos).map session.instant.since)
  | .measureSinceEpoch => .ok { session := { session with span := session.instant.sinceEpoch } }
  | .formatSpan template infinite =>
      session.withOutput ((SpanTemplate.ofOptions? template infinite).map session.span.format)
  | .addToInstant operand =>
      session.withInstant .operation (session.instant.plus (session.operand operand))
  | .subtractFromInstant operand =>
      session.withInstant .operation (session.instant.minus (session.operand operand))
  | .setInstantFromSpan =>
      session.withInstant (.fault ∘ .arithmetic) (Instant.ofSpan? session.span)
  | .readInstant text template =>
      session.withInstant .fault
        (InstantTemplate.ofOption? template >>= fun template => template.read? text)
  | .formatInstant template =>
      session.withOutput ((InstantTemplate.ofOption? template).map session.instant.format)
  | .reformatInstant template =>
      match InstantTemplate.ofOption? template with
      | .error fault => .error (.fault fault)
      | .ok template =>
          let text := session.instant.format template
          match template.read? text with
          | .error fault => .error (.fault fault)
          | .ok instant => .ok { session := { session with instant }, output := some text }

/-- A line of the record of a session: what it held after a command, and what the command gave. -/
structure Entry where
  session : Session
  output : Option String
  fault : Option SessionFault

/-- What becomes of a session by one command, failed or not. -/
def advance (session : Session) (command : Command) : Entry :=
  match session.run command with
  | .ok outcome => { session := outcome.session, output := outcome.output, fault := none }
  | .error fault => { session, output := none, fault := some fault }

/-- Carries out commands one after the other, and records each of them. -/
def runAll (session : Session) : List Command → List Entry
  | [] => []
  | command :: commands =>
      let entry := session.advance command
      entry :: entry.session.runAll commands

end Session

end UtcTime
