/-
Module: UtcTime.Binary64.Basic
Purpose: What a binary64 number stands for: not a number, an infinity, or an exact integer multiple
  of a power of two. Everything that depends on the value of a float goes through this view, so it
  is decided in exact integers.
Trusted boundary: none
Main exports: Binary64, Binary64.ofFloat, Binary64.truncate
-/

namespace UtcTime

/-- The meaning of a binary64 number. -/
inductive Binary64 where
  | nan
  | infinite (negative : Bool)
  /-- The number `significand * 2 ^ exponent`, negated if `negative`. Zero keeps its sign. -/
  | finite (negative : Bool) (significand : Nat) (exponent : Int)
deriving DecidableEq, Repr

namespace Binary64

/-- The leading one of a significand of 53 bits. -/
def leadingOne : Nat := 4503599627370496

/-- The number that a bit pattern encodes: one bit of sign, eleven of exponent, fifty-two of
fraction. The least exponent belongs to the numbers without a leading one, the greatest to the
infinities and to what is not a number. -/
def ofBits (bits : Nat) : Binary64 :=
  let negative := decide (bits >>> 63 % 2 = 1)
  let biased : Nat := bits >>> 52 % 2048
  let fraction : Nat := bits % leadingOne
  if biased = 2047 then
    if fraction = 0 then infinite negative else nan
  else if biased = 0 then
    finite negative fraction (-1074)
  else
    finite negative (leadingOne + fraction) (biased - 1075)

def ofFloat (x : Float) : Binary64 :=
  ofBits x.toBits.toNat

/-- The integer part of `significand * 2 ^ exponent`. -/
def floorScaled (significand : Nat) (exponent : Int) : Nat :=
  significand <<< exponent.toNat >>> (-exponent).toNat

/-- The number without its fraction, rounded toward zero. -/
def truncate (negative : Bool) (significand : Nat) (exponent : Int) : Int :=
  let whole : Int := floorScaled significand exponent
  if negative then -whole else whole

/-- The float that is infinite in the given direction. -/
def infinityFloat (negative : Bool) : Float :=
  if negative then -(1.0 / 0.0) else 1.0 / 0.0

end Binary64

end UtcTime
