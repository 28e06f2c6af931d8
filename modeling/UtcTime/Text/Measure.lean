/-
Module: UtcTime.Text.Measure
Purpose: The size of text in bytes, its decimal numerals, and its quoted form for messages. Text is
  handled as a list of characters; positions reported to a user count UTF-8 bytes.
Trusted boundary: none
Main exports: Text.byteLength, Text.decimal, Text.padded, Text.readDigits?, Text.quoted
-/

namespace UtcTime.Text

/-- The number of bytes that the characters take in UTF-8. -/
def byteLength : List Char → Nat
  | [] => 0
  | c :: text => c.utf8Size + byteLength text

/-- The decimal digits of a number, most significant first, without leading zeros. -/
def decimal (n : Nat) : List Char :=
  Nat.toDigits 10 n

/-- The decimal digits of a number, with zeros in front up to the given width. A number that needs
more digits keeps them all. -/
def padded (width n : Nat) : List Char :=
  (decimal n).leftpad width '0'

/-- Reads a number of exactly `width` ASCII digits from the front of a text, and gives it with what
follows. -/
def readDigits? (width : Nat) (text : List Char) : Option (Nat × List Char) :=
  let digits := text.take width
  if digits.length = width ∧ digits.all Char.isDigit then
    some (Nat.ofDigitChars 10 digits 0, text.drop width)
  else
    none

@[simp] theorem byteLength_nil : byteLength [] = 0 := rfl

@[simp] theorem byteLength_cons (c : Char) (text : List Char) :
    byteLength (c :: text) = c.utf8Size + byteLength text := rfl

/-- The bytes of joined texts add up. -/
@[simp] theorem byteLength_append (first second : List Char) :
    byteLength (first ++ second) = byteLength first + byteLength second := by
  induction first with
  | nil => rw [List.nil_append, byteLength_nil, Nat.zero_add]
  | cons c first ih => rw [List.cons_append, byteLength_cons, byteLength_cons, ih, Nat.add_assoc]

/-! ### Quoting

A text in a message stands between quotes. Quotes, backslashes and ASCII control characters are
written as escapes; other characters stand for themselves. -/

/-- How a character is written between quotes. -/
def escapeForDisplay (c : Char) : List Char :=
  match c with
  | '"' => ['\\', '"']
  | '\\' => ['\\', '\\']
  | '\n' => ['\\', 'n']
  | '\r' => ['\\', 'r']
  | '\t' => ['\\', 't']
  | _ =>
      if c.toNat = 0 then ['\\', '0']
      else if c.toNat < 32 ∨ c.toNat = 127 then
        ['\\', 'u', '\x7b'] ++ Nat.toDigits 16 c.toNat ++ ['\x7d']
      else [c]

/-- The text between double quotes, with escapes. -/
def quoted (text : String) : String :=
  String.ofList ('"' :: text.toList.flatMap escapeForDisplay ++ ['"'])

end UtcTime.Text
