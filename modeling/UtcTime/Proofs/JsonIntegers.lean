/-
Module: UtcTime.Proofs.JsonIntegers
Purpose: Integers in JSON text. The reader makes an integer only of what fits a word of 64 bits, with
  sign or without, and everything else that is written without fraction and exponent becomes a float.
  An integer that fits such a word is read back from the text that is written for it.
Trusted boundary: none
Main exports: Json.IsWord, Json.isWord_of_ofString?, Json.ofString?_text_integer
-/
import Mathlib.Data.List.TakeWhile
import UtcTime.Json.Reader
import UtcTime.Json.Writer
import UtcTime.Proofs.FieldText

namespace UtcTime

namespace Text

theorem isDigit_of_mem_decimal {n : Nat} {c : Char} (h : c ∈ decimal n) : c.isDigit :=
  Nat.isDigit_of_mem_toDigits (by decide) (by decide) h

/-- A numeral begins with a digit. -/
theorem exists_decimal_eq_cons (n : Nat) : ∃ c rest, decimal n = c :: rest ∧ c.isDigit := by
  cases hdigits : decimal n with
  | nil => exact absurd hdigits Nat.toDigits_ne_nil
  | cons c rest => exact ⟨c, rest, rfl, isDigit_of_mem_decimal (hdigits ▸ List.mem_cons_self)⟩

/-- A numeral that begins with a zero is that of zero. -/
theorem decimal_of_zero {n : Nat} {rest : List Char} (h : decimal n = '0' :: rest) :
    rest = [] := by
  -- Otherwise the digits behind the zero would have the same value, and be one digit fewer.
  by_contra hne
  have hdigits : rest.all Char.isDigit := by
    rw [List.all_eq_true]
    intro c hc
    exact isDigit_of_mem_decimal (h ▸ List.mem_cons_of_mem _ hc)
  have hvalue : Nat.ofDigitChars 10 rest 0 = n := by
    calc Nat.ofDigitChars 10 rest 0
        = Nat.ofDigitChars 10 ('0' :: rest) 0 := by
          rw [ofDigitChars_cons, Nat.sub_self, Nat.zero_mul, Nat.zero_add]
      _ = Nat.ofDigitChars 10 (decimal n) 0 := by rw [h]
      _ = n := Nat.ofDigitChars_ten_toDigits
  have hlt := ofDigitChars_lt hdigits
  rw [hvalue] at hlt
  have hlength := (Nat.length_toDigits_le_iff (by decide) (List.length_pos_iff.2 hne)).2 hlt
  rw [← decimal, h, List.length_cons] at hlength
  omega

end Text

namespace Json

open NumberLiteral (greatestWord)

/-- The integer fits 64 bits, with sign or without. -/
def IsWord (n : Int) : Prop := Count.least ≤ n ∧ n ≤ greatestWord

theorem isWord_of_fits {n : Int} (h : Count.Fits n) : IsWord n := by
  refine ⟨h.1, Int.le_trans h.2 ?_⟩
  decide

/-! ### Integers that are read

The text of a number becomes an integer in one place of the reader only, and that place asks whether
it fits a word. -/

theorem isWord_of_value? {literal : NumberLiteral} {n : Int}
    (h : literal.value? = some (integer n)) : IsWord n := by
  have hfloat : literal.float?.map float ≠ some (integer n) := by
    cases literal.float? <;> simp
  simp only [NumberLiteral.value?] at h
  split at h
  · split at h
    · next hfits =>
        cases h
        have hle := hfits.2
        simp only [IsWord, Count.least]
        omega
    · split at h
      · next hfits =>
          cases h
          have hle := hfits.2.2.1
          refine ⟨hle, ?_⟩
          omega
      · exact absurd h hfloat
  · exact absurd h hfloat

/-- What is read as a number is the value of a literal. -/
theorem exists_literal_of_readNumber? {text rest : List Char} {value : Json}
    (h : readNumber? text = some (value, rest)) :
    ∃ literal : NumberLiteral, literal.value? = some value := by
  simp only [readNumber?.eq_def, Option.bind_eq_bind, Option.bind_eq_some_iff] at h
  obtain ⟨whole, -, fraction, -, exponent, -, result, hresult, hpair⟩ := h
  cases hpair
  exact ⟨_, hresult⟩

/-- A value that is wrapped as one of another kind is no integer. -/
theorem map_ne_integer {α : Type} {f : α → Json} {result : Option (α × List Char)} {n : Int}
    {rest : List Char} (hf : ∀ a, f a ≠ integer n) :
    (result.map fun (a, rest) => (f a, rest)) ≠ some (integer n, rest) := by
  intro h
  obtain ⟨⟨a, _⟩, -, hpair⟩ := Option.map_eq_some_iff.1 h
  exact hf a (congrArg Prod.fst hpair)

/-- Only a number is read as an integer. -/
theorem isWord_of_readValue? {depth : Nat} {text rest : List Char} {n : Int}
    (h : readValue? depth text = some (integer n, rest)) : IsWord n := by
  cases depth with
  | zero => cases h
  | succ depth =>
      rw [readValue?] at h
      -- Constants, strings, arrays and objects come first; what they give is no integer.
      split at h
      · cases h
      · cases h
      · cases h
      · exact absurd h (map_ne_integer (f := fun chars => string (String.ofList chars)) nofun)
      · split at h
        · cases h
        · exact absurd h (map_ne_integer (f := array) nofun)
      · split at h
        · cases h
        · exact absurd h (map_ne_integer (f := object) nofun)
      · obtain ⟨literal, hliteral⟩ := exists_literal_of_readNumber? h
        exact isWord_of_value? hliteral

/-- The integer of a JSON text fits a word. -/
theorem isWord_of_ofString? {text : String} {n : Int} (h : ofString? text = some (integer n)) :
    IsWord n := by
  simp only [ofString?, Option.bind_eq_bind, Option.bind_eq_some_iff] at h
  obtain ⟨⟨value, rest⟩, hread, hvalue⟩ := h
  split at hvalue
  · cases hvalue
    exact isWord_of_readValue? hread
  · cases hvalue

/-! ### Integers that are written

The text of an integer is its numeral, with a minus sign if it is negative. The reader takes all of
it, and finds no fraction or exponent behind it. -/

section

variable (n : Nat)

theorem readDigits?_decimal : readDigits? (Text.decimal n) = some (Text.decimal n, []) := by
  have htake : (Text.decimal n).takeWhile Char.isDigit = Text.decimal n :=
    List.takeWhile_eq_self_iff.2 fun _ => Text.isDigit_of_mem_decimal
  have hdrop : (Text.decimal n).dropWhile Char.isDigit = [] :=
    List.dropWhile_eq_nil_iff.2 fun _ => Text.isDigit_of_mem_decimal
  rw [readDigits?, List.span_eq_takeWhile_dropWhile, htake, hdrop]
  split
  · next hnil => exact absurd (Prod.ext_iff.1 hnil).1 Nat.toDigits_ne_nil
  · rfl

/-- A numeral is read in full: no zero comes first, unless it is all there is. -/
theorem readWhole?_decimal : readWhole? (Text.decimal n) = some (Text.decimal n, []) := by
  rw [readWhole?.eq_def]
  split
  · next rest hzero =>
      rw [hzero, Text.decimal_of_zero hzero]
  · exact readDigits?_decimal n

/-- Without fraction and exponent, a number has the value of its sign and digits. -/
theorem readNumber?_decimal {value : Json}
    (h : NumberLiteral.value? ⟨false, Text.decimal n, none, none⟩ = some value) :
    readNumber? (Text.decimal n) = some (value, []) := by
  have hwhole := readWhole?_decimal n
  obtain ⟨c, rest, hdigits, hdigit⟩ := Text.exists_decimal_eq_cons n
  have hne : c ≠ '-' := by
    rintro rfl
    exact absurd hdigit (by decide)
  rw [hdigits] at hwhole h ⊢
  simp [readNumber?.eq_def, hwhole, hne, readFraction?, readExponent?, h]

theorem readNumber?_neg_decimal {value : Json}
    (h : NumberLiteral.value? ⟨true, Text.decimal n, none, none⟩ = some value) :
    readNumber? ('-' :: Text.decimal n) = some (value, []) := by
  simp [readNumber?.eq_def, readWhole?_decimal, readFraction?, readExponent?, h]

end

theorem value?_decimal {n : Nat} (h : n ≤ greatestWord) :
    NumberLiteral.value? ⟨false, Text.decimal n, none, none⟩ = some (integer n) := by
  simp [NumberLiteral.value?, Text.decimal, h]

/-- The opposite of a numeral has an integer value if it is a count and not zero. -/
theorem value?_neg_decimal {n : Nat} (hpos : 0 < n) (hfits : Count.Fits (-n)) :
    NumberLiteral.value? ⟨true, Text.decimal n, none, none⟩ = some (integer (-n)) := by
  simp [NumberLiteral.value?, Text.decimal, hpos, hfits]

/-- An integer that fits a word is read back as a number from its digits. -/
theorem readNumber?_toString {n : Int} (h : IsWord n) :
    readNumber? (toString n).toList = some (integer n, []) := by
  cases n with
  | ofNat n =>
      change readNumber? n.repr.toList = _
      rw [Nat.toList_repr]
      exact readNumber?_decimal n (value?_decimal (Int.ofNat_le.1 h.2))
  | negSucc n =>
      have hfits : Count.Fits (-((n + 1 : Nat) : Int)) := by
        refine ⟨h.1, ?_⟩
        simp only [Count.greatest]
        omega
      change readNumber? ("-" ++ (n + 1).repr).toList = _
      rw [String.toList_append, Nat.toList_repr]
      exact readNumber?_neg_decimal (n + 1) (value?_neg_decimal (Nat.succ_pos n) hfits)

/-- A text that begins with a digit or a minus sign is read as a number. -/
theorem readValue?_eq_readNumber? {c : Char} (h : c.isDigit ∨ c = '-') (depth : Nat)
    (text : List Char) : readValue? (depth + 1) (c :: text) = readNumber? (c :: text) := by
  have hne : ∀ other : Char, ¬ other.isDigit → other ≠ '-' → c ≠ other := by
    rintro other hdigit hminus rfl
    exact h.elim hdigit hminus
  have hskip : skipBlank (c :: text) = c :: text := by
    apply List.dropWhile_cons_of_neg
    simp [hne ' ', hne '\n', hne '\r', hne '\t']
  rw [readValue?, hskip]
  -- No value of another kind begins with such a character.
  split
  · next heq => exact absurd (List.cons.inj heq).1 (hne 'n' (by decide) (by decide))
  · next heq => exact absurd (List.cons.inj heq).1 (hne 't' (by decide) (by decide))
  · next heq => exact absurd (List.cons.inj heq).1 (hne 'f' (by decide) (by decide))
  · next heq => exact absurd (List.cons.inj heq).1 (hne '"' (by decide) (by decide))
  · next heq => exact absurd (List.cons.inj heq).1 (hne '[' (by decide) (by decide))
  · next heq => exact absurd (List.cons.inj heq).1 (hne '\x7b' (by decide) (by decide))
  · rfl

/-- The text of an integer begins with a digit or a minus sign. -/
theorem exists_toString_eq_cons (n : Int) :
    ∃ c text, (toString n).toList = c :: text ∧ (c.isDigit ∨ c = '-') := by
  cases n with
  | ofNat n =>
      obtain ⟨c, rest, hdigits, hdigit⟩ := Text.exists_decimal_eq_cons n
      exact ⟨c, rest, Nat.toList_repr.trans hdigits, Or.inl hdigit⟩
  | negSucc n =>
      refine ⟨'-', (n + 1).repr.toList, ?_, Or.inr rfl⟩
      change ("-" ++ (n + 1).repr).toList = _
      rw [String.toList_append]
      rfl

/-- An integer that fits a word is read back from its text. -/
theorem ofString?_text_integer {n : Int} (h : IsWord n) :
    ofString? (integer n).text = some (integer n) := by
  obtain ⟨c, text, hchars, hfirst⟩ := exists_toString_eq_cons n
  have hread := readNumber?_toString h
  have htext : (integer n).text.toList = c :: text := by
    rw [Json.text, String.toList_ofList]
    exact hchars
  rw [hchars] at hread
  rw [ofString?, htext, readValue?_eq_readNumber? hfirst, hread]
  rfl

end Json

end UtcTime
