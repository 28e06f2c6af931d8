/-
Module: UtcTime.Json.Number
Purpose: The value of a number literal in JSON text. A literal without fraction and exponent that
  fits 64 bits is an integer; any other number is a float. A float is formed from as many leading
  digits as fit 64 bits, scaled once by a power of ten.
Trusted boundary: none
Main exports: Json.NumberLiteral, Json.NumberLiteral.value?
-/
import UtcTime.Count
import UtcTime.Json.Value

namespace UtcTime.Json

/-- The parts of a number literal. -/
structure NumberLiteral where
  negative : Bool
  /-- The digits before the point. -/
  whole : List Char
  /-- The digits after the point, if there is one. -/
  fraction : Option (List Char)
  exponent : Option Int

namespace NumberLiteral

/-- The greatest unsigned 64-bit integer. -/
def greatestWord : Nat := 18446744073709551615

/-- Appends digits to a number while it fits 64 bits, and gives it with the number of digits that
were taken. -/
def takeDigits (n : Nat) : List Char → Nat × Nat
  | [] => (n, 0)
  | c :: rest =>
      let longer := 10 * n + (c.toNat - '0'.toNat)
      if longer ≤ greatestWord then
        let (result, taken) := takeDigits longer rest
        (result, taken + 1)
      else
        (n, 0)

/-- A power of ten as a float. -/
def powerOfTen (exponent : Nat) : Float := Float.ofScientific 1 false exponent

/-- Divides a float by a power of ten, in steps of the greatest power that a float holds. -/
def scaleDown (x : Float) (places : Nat) : Float :=
  if x == 0 then x
  else if places ≤ 308 then x / powerOfTen places
  else scaleDown (x / powerOfTen 308) (places - 308)
termination_by places

/-- Multiplies a float by a power of ten. A result too large for a float is no number. -/
def scale? (x : Float) (exponent : Int) : Option Float :=
  if exponent < 0 then some (scaleDown x exponent.natAbs)
  else if exponent ≤ 308 then
    let scaled := x * powerOfTen exponent.toNat
    if scaled.isInf then none else some scaled
  else if x == 0 then some x
  else none

/-- The literal as a float. Digits before the point that were left out raise the exponent; digits
after the point that were left out do not count. -/
def float? (literal : NumberLiteral) : Option Float :=
  let (whole, taken) := takeDigits 0 literal.whole
  let left : Int := (literal.whole.length - taken : Nat)
  let (significand, places) := takeDigits whole (literal.fraction.getD [])
  let exponent := left - places + literal.exponent.getD 0
  (scale? (Float.ofNat significand) exponent).map fun x => if literal.negative then -x else x

/-- The value of the literal. Minus zero is a float, since no integer has that sign. -/
def value? (literal : NumberLiteral) : Option Json :=
  let n := Nat.ofDigitChars 10 literal.whole 0
  if literal.fraction.isNone ∧ literal.exponent.isNone then
    if ¬ literal.negative ∧ n ≤ greatestWord then some (integer n)
    else if literal.negative ∧ 0 < n ∧ Count.Fits (-n) then some (integer (-n))
    else literal.float?.map float
  else
    literal.float?.map float

end NumberLiteral

end UtcTime.Json
