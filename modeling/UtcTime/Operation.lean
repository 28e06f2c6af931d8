/-
Module: UtcTime.Operation
Purpose: The operators on spans and instants as a user writes them in an expression. A failure says
  which operation failed, besides why.
Trusted boundary: none
Main exports: Operation, OperationFault, OperationFault.message, Operation.attempt, and the
  operators on Span and Instant
-/
import UtcTime.Instant.Basic

namespace UtcTime

inductive Operation where
  | addSpans
  | subtractSpans
  | negateSpan
  | multiplySpan
  | divideSpan
  | addToInstant
  | subtractFromInstant
deriving DecidableEq, Repr

/-- A failed operation and its cause. -/
structure OperationFault where
  operation : Operation
  cause : ArithmeticFault
deriving DecidableEq, Repr

namespace Operation

/-- What could not be done, in words. -/
def complaint : Operation → String
  | addSpans => "cannot add durations"
  | subtractSpans => "cannot subtract durations"
  | negateSpan => "cannot negate duration"
  | multiplySpan => "cannot multiply duration"
  | divideSpan => "cannot divide duration"
  | addToInstant => "cannot add duration to timestamp"
  | subtractFromInstant => "cannot subtract duration from timestamp"

/-- The result of a computation as the result of an operation. -/
def attempt {α : Type} (operation : Operation) (result : Except ArithmeticFault α) :
    Except OperationFault α :=
  result.mapError (⟨operation, ·⟩)

end Operation

namespace OperationFault

def message (fault : OperationFault) : String :=
  fault.operation.complaint ++ ": " ++ fault.cause.message

end OperationFault

namespace Span

def plus (a b : Span) : Except OperationFault Span := Operation.addSpans.attempt (a.add? b)

def minus (a b : Span) : Except OperationFault Span := Operation.subtractSpans.attempt (a.sub? b)

def opposite (a : Span) : Except OperationFault Span := Operation.negateSpan.attempt a.neg?

def times (a : Span) (factor : Int) : Except OperationFault Span :=
  Operation.multiplySpan.attempt (a.mul? factor)

def dividedBy (a : Span) (divisor : Int) : Except OperationFault Span :=
  Operation.divideSpan.attempt (a.div? divisor)

end Span

namespace Instant

def plus (t : Instant) (span : Span) : Except OperationFault Instant :=
  Operation.addToInstant.attempt (t.add? span)

def minus (t : Instant) (span : Span) : Except OperationFault Instant :=
  Operation.subtractFromInstant.attempt (t.sub? span)

end Instant

end UtcTime
