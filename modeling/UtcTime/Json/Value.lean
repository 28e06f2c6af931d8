/-
Module: UtcTime.Json.Value
Purpose: JSON values, as far as they tell numbers apart: an integer written as such is an integer,
  every other number is a float. Also the words by which a message names a value.
Trusted boundary: none
Main exports: Json, Json.floatText, Json.describe
-/
import UtcTime.Binary64.Shortest
import UtcTime.Text.Measure

namespace UtcTime

inductive Json where
  | null
  | bool (b : Bool)
  | integer (n : Int)
  | float (x : Float)
  | string (s : String)
  | array (elements : List Json)
  | object (members : List (String × Json))

namespace Json

/-- The digits of a positive decimal as a number is written: positionally where the first digit
stands between the fifth place after the point and the sixteenth before it, with a zero after the
point if there is nothing else, and otherwise with one digit before the point and a signed
exponent. -/
def decimalText (d : Decimal) : List Char :=
  let digits := Text.decimal d.digits
  let leading := d.exponent + digits.length - 1
  if -5 ≤ leading ∧ leading < 16 then
    if 0 ≤ d.exponent then
      digits ++ List.replicate d.exponent.toNat '0' ++ ['.', '0']
    else if 0 ≤ leading then
      let whole := leading.toNat + 1
      digits.take whole ++ '.' :: digits.drop whole
    else
      '0' :: '.' :: List.replicate (-leading - 1).toNat '0' ++ digits
  else
    let mantissa :=
      match digits with
      | first :: second :: rest => first :: '.' :: second :: rest
      | _ => digits
    let sign := if leading < 0 then '-' else '+'
    mantissa ++ 'e' :: sign :: Text.decimal leading.natAbs

/-- The shortest text of a float that reads back. What is no number is written as `null`. -/
def floatText (x : Float) : String :=
  match Binary64.ofFloat x with
  | .nan | .infinite _ => "null"
  | .finite negative significand exponent =>
      let sign := if negative then ['-'] else []
      String.ofList (sign ++ decimalText (Binary64.shortest significand exponent))

/-- What a value is, in the words of a message. -/
def describe : Json → String
  | null => "null"
  | bool b => s!"boolean `{b}`"
  | integer n => s!"integer `{n}`"
  | float x => s!"floating point `{floatText x}`"
  | string s => s!"string {Text.quoted s}"
  | array _ => "sequence"
  | object _ => "map"

end Json

end UtcTime
