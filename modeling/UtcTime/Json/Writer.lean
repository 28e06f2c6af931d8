/-
Module: UtcTime.Json.Writer
Purpose: Writing JSON text without white space.
Trusted boundary: none
Main exports: Json.text
-/
import UtcTime.Json.Value

namespace UtcTime.Json

/-- How a character is written in a string. -/
def escape (c : Char) : List Char :=
  match c with
  | '"' => ['\\', '"']
  | '\\' => ['\\', '\\']
  | '\x08' => ['\\', 'b']
  | '\x0c' => ['\\', 'f']
  | '\n' => ['\\', 'n']
  | '\r' => ['\\', 'r']
  | '\t' => ['\\', 't']
  | _ =>
      if c.toNat < 32 then '\\' :: 'u' :: (Nat.toDigits 16 c.toNat).leftpad 4 '0' else [c]

/-- A string between quotes. -/
def stringText (s : String) : List Char :=
  '"' :: s.toList.flatMap escape ++ ['"']

mutual

/-- The characters of a value. -/
def chars : Json → List Char
  | null => ['n', 'u', 'l', 'l']
  | bool true => ['t', 'r', 'u', 'e']
  | bool false => ['f', 'a', 'l', 's', 'e']
  | integer n => (toString n).toList
  | float x => (floatText x).toList
  | string s => stringText s
  | array [] => ['[', ']']
  | array (element :: elements) => '[' :: chars element ++ elementChars elements
  | object [] => ['\x7b', '\x7d']
  | object ((name, value) :: members) =>
      '\x7b' :: stringText name ++ ':' :: chars value ++ memberChars members

/-- The elements of an array after the first, and its end. -/
def elementChars : List Json → List Char
  | [] => [']']
  | element :: elements => ',' :: chars element ++ elementChars elements

/-- The members of an object after the first, and its end. -/
def memberChars : List (String × Json) → List Char
  | [] => ['\x7d']
  | (name, value) :: members =>
      ',' :: stringText name ++ ':' :: chars value ++ memberChars members

end

/-- The text of a value. -/
def text (value : Json) : String := String.ofList value.chars

end UtcTime.Json
