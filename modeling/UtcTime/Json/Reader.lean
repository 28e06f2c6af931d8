/-
Module: UtcTime.Json.Reader
Purpose: Reading JSON text. A reader takes its piece from the front of the text and gives it with
  what follows.
Trusted boundary: none
Main exports: Json.ofString?
-/
import UtcTime.Json.Number

namespace UtcTime.Json

/-- Drops white space from the front of a text. -/
def skipBlank (text : List Char) : List Char :=
  text.dropWhile fun c => c = ' ' ∨ c = '\n' ∨ c = '\r' ∨ c = '\t'

/-! ### Numbers

A number is taken apart into digits first. What they are worth is decided afterwards, by their
number and size. -/

/-- Takes the digits from the front of a text. There must be one at least. -/
def readDigits? (text : List Char) : Option (List Char × List Char) :=
  match text.span Char.isDigit with
  | ([], _) => none
  | split => some split

/-- The digits before the point: a zero stands alone. -/
def readWhole? : List Char → Option (List Char × List Char)
  | '0' :: rest => some (['0'], rest)
  | text => readDigits? text

def readFraction? : List Char → Option (Option (List Char) × List Char)
  | '.' :: rest => (readDigits? rest).map fun (digits, rest) => (some digits, rest)
  | text => some (none, text)

/-- The exponent, after its sign. -/
def readExponentDigits? (negative : Bool) (text : List Char) : Option (Option Int × List Char) :=
  (readDigits? text).map fun (digits, rest) =>
    let n : Int := Nat.ofDigitChars 10 digits 0
    (some (if negative then -n else n), rest)

def readExponent? : List Char → Option (Option Int × List Char)
  | 'e' :: '+' :: rest | 'E' :: '+' :: rest => readExponentDigits? false rest
  | 'e' :: '-' :: rest | 'E' :: '-' :: rest => readExponentDigits? true rest
  | 'e' :: rest | 'E' :: rest => readExponentDigits? false rest
  | text => some (none, text)

def readNumber? (text : List Char) : Option (Json × List Char) := do
  let (negative, text) :=
    match text with
    | '-' :: rest => (true, rest)
    | _ => (false, text)
  let (whole, text) ← readWhole? text
  let (fraction, text) ← readFraction? text
  let (exponent, text) ← readExponent? text
  let value ← NumberLiteral.value? { negative, whole, fraction, exponent }
  return (value, text)

/-! ### Strings

Escapes are undone while a string is read, and two of them may stand for one character. -/

/-- The value of a hexadecimal digit. -/
def hexDigit? (c : Char) : Option Nat :=
  if c.isDigit then some (c.toNat - '0'.toNat)
  else if 'a' ≤ c ∧ c ≤ 'f' then some (c.toNat - 'a'.toNat + 10)
  else if 'A' ≤ c ∧ c ≤ 'F' then some (c.toNat - 'A'.toNat + 10)
  else none

/-- The code unit of four hexadecimal digits. -/
def codeUnit? (a b c d : Char) : Option Nat := do
  return ((((← hexDigit? a) * 16 + (← hexDigit? b)) * 16 + (← hexDigit? c)) * 16 + (← hexDigit? d))

/-- The character of a single code unit. One half of a surrogate pair is no character. -/
def charOfUnit? (unit : Nat) : Option Char :=
  if 0xD800 ≤ unit ∧ unit < 0xE000 then none else some (Char.ofNat unit)

/-- The character of a surrogate pair. -/
def charOfPair? (high low : Nat) : Option Char :=
  if (0xD800 ≤ high ∧ high < 0xDC00) ∧ 0xDC00 ≤ low ∧ low < 0xE000 then
    some (Char.ofNat (0x10000 + (high - 0xD800) * 0x400 + (low - 0xDC00)))
  else
    none

/-- The character that a one-letter escape stands for. -/
def escaped? : Char → Option Char
  | '"' => some '"'
  | '\\' => some '\\'
  | '/' => some '/'
  | 'b' => some '\x08'
  | 'f' => some '\x0c'
  | 'n' => some '\n'
  | 'r' => some '\r'
  | 't' => some '\t'
  | _ => none

/-- Takes the characters of a string up to the closing quote from the front of a text. -/
def readChars? : List Char → Option (List Char × List Char)
  | [] => none
  | '"' :: rest => some ([], rest)
  | '\\' :: 'u' :: a :: b :: c :: d :: '\\' :: 'u' :: e :: f :: g :: h :: rest => do
      let first ← codeUnit? a b c d
      let second ← codeUnit? e f g h
      match charOfPair? first second with
      | some char =>
          let (chars, rest) ← readChars? rest
          return (char :: chars, rest)
      | none =>
          let char ← charOfUnit? first
          let (chars, rest) ← readChars? ('\\' :: 'u' :: e :: f :: g :: h :: rest)
          return (char :: chars, rest)
  | '\\' :: 'u' :: a :: b :: c :: d :: rest => do
      let char ← charOfUnit? (← codeUnit? a b c d)
      let (chars, rest) ← readChars? rest
      return (char :: chars, rest)
  | '\\' :: letter :: rest => do
      let char ← escaped? letter
      let (chars, rest) ← readChars? rest
      return (char :: chars, rest)
  | char :: rest => do
      if char = '\\' ∨ char.toNat < 32 then none
      let (chars, rest) ← readChars? rest
      return (char :: chars, rest)

/-! ### Values

Every value takes at least one character, so the length of the text bounds the depth of the
readers below. -/

mutual

/-- Takes a value from the front of a text. -/
def readValue? : Nat → List Char → Option (Json × List Char)
  | 0, _ => none
  | depth + 1, text =>
      match skipBlank text with
      | 'n' :: 'u' :: 'l' :: 'l' :: rest => some (null, rest)
      | 't' :: 'r' :: 'u' :: 'e' :: rest => some (bool true, rest)
      | 'f' :: 'a' :: 'l' :: 's' :: 'e' :: rest => some (bool false, rest)
      | '"' :: rest =>
          (readChars? rest).map fun (chars, rest) => (string (String.ofList chars), rest)
      | '[' :: rest =>
          match skipBlank rest with
          | ']' :: rest => some (array [], rest)
          | rest => (readElements? depth rest).map fun (elements, rest) => (array elements, rest)
      | '\x7b' :: rest =>
          match skipBlank rest with
          | '\x7d' :: rest => some (object [], rest)
          | rest => (readMembers? depth rest).map fun (members, rest) => (object members, rest)
      | text => readNumber? text

/-- Takes the elements of an array, and the bracket that ends it. -/
def readElements? : Nat → List Char → Option (List Json × List Char)
  | 0, _ => none
  | depth + 1, text => do
      let (element, text) ← readValue? depth text
      match skipBlank text with
      | ']' :: rest => return ([element], rest)
      | ',' :: rest =>
          let (elements, rest) ← readElements? depth rest
          return (element :: elements, rest)
      | _ => none

/-- Takes the members of an object, and the brace that ends it. -/
def readMembers? : Nat → List Char → Option (List (String × Json) × List Char)
  | 0, _ => none
  | depth + 1, text => do
      let '"' :: text := skipBlank text | none
      let (name, text) ← readChars? text
      let ':' :: text := skipBlank text | none
      let (value, text) ← readValue? depth text
      let member := (String.ofList name, value)
      match skipBlank text with
      | '\x7d' :: rest => return ([member], rest)
      | ',' :: rest =>
          let (members, rest) ← readMembers? depth rest
          return (member :: members, rest)
      | _ => none

end

/-- The value that a JSON text stands for. Nothing but white space may surround it. -/
def ofString? (text : String) : Option Json := do
  let (value, rest) ← readValue? (text.length + 1) text.toList
  if (skipBlank rest).isEmpty then some value else none

end UtcTime.Json
