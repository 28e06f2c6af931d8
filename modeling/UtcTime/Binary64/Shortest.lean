/-
Module: UtcTime.Binary64.Shortest
Purpose: The shortest decimal that reads back as a given binary64 number. The numbers that round to
  it form an interval. The decimal is sought on coarser and coarser grids of powers of ten, from the
  coarsest down, in exact integers: the first grid with a point in the interval wins, and of two
  such points the nearer.
Trusted boundary: none
Main exports: Decimal, Binary64.shortest
-/
import UtcTime.Binary64.Basic

namespace UtcTime

/-- The number `digits * 10 ^ exponent`. -/
structure Decimal where
  digits : Nat
  exponent : Int
deriving DecidableEq, Repr

namespace Decimal

/-- The same number without zeros at the end of its digits. -/
def trim (d : Decimal) : Decimal :=
  if h : d.digits ≠ 0 ∧ d.digits % 10 = 0 then
    trim ⟨d.digits / 10, d.exponent + 1⟩
  else
    d
termination_by d.digits
decreasing_by omega

end Decimal

namespace Binary64

/-- The numbers that round to a binary64 number, and the number itself, all in one power of ten as
unit. An end belongs to the interval if the significand is even. -/
structure RoundingInterval where
  value : Nat
  low : Nat
  high : Nat
  closed : Bool
  exponent : Int

namespace RoundingInterval

/-- The interval of the positive number `significand * 2 ^ exponent`. Its ends lie halfway to the
neighbours; below a power of two the neighbour is nearer by half, unless the numbers are already as
dense as they get. In quarters of the last place all of this is whole. -/
def of (significand : Nat) (exponent : Int) : RoundingInterval :=
  let scale := if exponent < 2 then Nat.pow 5 (2 - exponent).toNat else Nat.pow 2 (exponent - 2).toNat
  let gapBelow := if significand = leadingOne ∧ -1074 < exponent then 1 else 2
  { value := 4 * significand * scale
    low := (4 * significand - gapBelow) * scale
    high := (4 * significand + 2) * scale
    closed := significand % 2 = 0
    exponent := if exponent < 2 then exponent - 2 else 0 }

def contains (interval : RoundingInterval) (n : Nat) : Bool :=
  if interval.closed then interval.low ≤ n ∧ n ≤ interval.high
  else interval.low < n ∧ n < interval.high

/-- The point of the grid of multiples of `10 ^ places` that reads back, if there is one, in units
of the grid. The two points around the value are tried. At equal distance the even one is taken. -/
def onGrid? (interval : RoundingInterval) (places : Nat) : Option Nat :=
  let unit := Nat.pow 10 places
  let below := interval.value / unit
  let above := below + 1
  match interval.contains (below * unit), interval.contains (above * unit) with
  | true, true =>
      match compare (2 * interval.value) ((below + above) * unit) with
      | .lt => some below
      | .gt => some above
      | .eq => some (if below % 2 = 0 then below else above)
  | true, false => some below
  | false, true => some above
  | false, false => none

/-- The first point that reads back on the grids from `10 ^ places` down. On the finest grid the
value itself does. -/
def firstPoint (interval : RoundingInterval) : Nat → Decimal
  | 0 => ⟨interval.value, interval.exponent⟩
  | places + 1 =>
      match interval.onGrid? (places + 1) with
      | some n => ⟨n, interval.exponent + (places + 1 : Nat)⟩
      | none => interval.firstPoint places

end RoundingInterval

/-- The shortest decimal that reads back as `significand * 2 ^ exponent`. -/
def shortest (significand : Nat) (exponent : Int) : Decimal :=
  if significand = 0 then ⟨0, 0⟩
  else
    let interval := RoundingInterval.of significand exponent
    (interval.firstPoint (Nat.toDigits 10 interval.value).length).trim

end Binary64

end UtcTime
