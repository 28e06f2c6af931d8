/-
Module: UtcTime.Proofs.TextBytes
Purpose: Texts as the bytes that encode them in UTF-8. Comparing characters from the front of a text
  on is the same as comparing bytes, and digits read as characters are the digits that stand among
  the bytes.
Trusted boundary: none
Main exports: Text.bytes, Text.slice, Text.HasDigits, Text.numeral, Text.bytes_prefix_iff,
  Text.Follows, Text.Follows.readDigits?_eq
-/
import UtcTime.Text.Measure

namespace UtcTime.Text

/-- The bytes of a text in UTF-8. -/
def bytes (text : List Char) : List UInt8 :=
  text.flatMap String.utf8EncodeChar

/-- The bytes at an offset, as many as asked for or as there are. -/
def slice (input : List UInt8) (offset width : Nat) : List UInt8 :=
  (input.drop offset).take width

/-- Whether a byte is an ASCII digit. -/
def isDigitByte (byte : UInt8) : Bool :=
  '0'.toNat ≤ byte.toNat ∧ byte.toNat ≤ '9'.toNat

/-- At an offset stand as many ASCII digits as asked for. -/
def HasDigits (input : List UInt8) (offset width : Nat) : Prop :=
  (slice input offset width).length = width ∧ (slice input offset width).all isDigitByte

instance (input : List UInt8) (offset width : Nat) : Decidable (HasDigits input offset width) :=
  inferInstanceAs (Decidable (_ ∧ _))

/-- The decimal value of the digits at an offset. -/
def numeral (input : List UInt8) (offset width : Nat) : Nat :=
  (slice input offset width).foldl (fun value byte => 10 * value + (byte.toNat - '0'.toNat)) 0

/-! ### Texts and bytes

Encoding goes character by character, so that joined texts have joined bytes, and no text is lost in
its bytes. -/

@[simp] theorem bytes_append (first second : List Char) :
    bytes (first ++ second) = bytes first ++ bytes second := by
  simp [bytes]

@[simp] theorem length_bytes (text : List Char) : (bytes text).length = byteLength text := by
  induction text with
  | nil => rfl
  | cons c text ih =>
      rw [bytes, List.flatMap_cons, List.length_append, String.length_utf8EncodeChar]
      exact congrArg (c.utf8Size + ·) ih

/-- The bytes are those of the string as it is stored. -/
theorem bytes_toList (s : String) : bytes s.toList = s.toByteArray.data.toList := by
  rw [← String.utf8Encode_toList]
  simp [bytes, List.utf8Encode]

/-- No character begins with the bytes of another one, so texts that agree on bytes agree on
characters. -/
theorem bytes_prefix_iff {first second : List Char} :
    bytes first <+: bytes second ↔ first <+: second := by
  constructor
  · rintro ⟨rest, hrest⟩
    apply List.isPrefix_of_utf8Encode_append_eq_utf8Encode rest.toByteArray
    simp only [List.utf8Encode]
    rw [← List.toByteArray_append]
    exact congrArg List.toByteArray hrest
  · rintro ⟨rest, rfl⟩
    exact ⟨bytes rest, (bytes_append first rest).symm⟩

/-- Different texts have different bytes. -/
theorem bytes_injective {first second : List Char} (h : bytes first = bytes second) :
    first = second := by
  have hprefix : first <+: second := bytes_prefix_iff.1 (h ▸ List.prefix_rfl)
  have hback : second <+: first := bytes_prefix_iff.1 (h ▸ List.prefix_rfl)
  exact hprefix.eq_of_length (Nat.le_antisymm hprefix.length_le hback.length_le)

/-! ### Digits

A digit is encoded as one byte, its own number. So a numeral has the same digits as text and as
bytes. -/

theorem utf8EncodeChar_of_isDigit {c : Char} (h : c.isDigit) :
    String.utf8EncodeChar c = [UInt8.ofNat c.toNat] := by
  have hle : c.toNat ≤ 127 := by
    have hdigit := (Char.isDigit_iff_toNat.1 h).2
    exact Nat.le_trans hdigit (by decide)
  have hval : c.val.toNat ≤ 127 := hle
  rw [String.utf8EncodeChar]
  exact if_pos hval

theorem toNat_byte_of_isDigit {c : Char} (h : c.isDigit) : (UInt8.ofNat c.toNat).toNat = c.toNat := by
  have hdigit := (Char.isDigit_iff_toNat.1 h).2
  have hnine : '9'.toNat = 57 := rfl
  rw [UInt8.toNat_ofNat']
  exact Nat.mod_eq_of_lt (by omega)

/-- The bytes of a numeral are its digits. -/
theorem bytes_of_digits {digits : List Char} (h : digits.all Char.isDigit) :
    bytes digits = digits.map fun c => UInt8.ofNat c.toNat := by
  induction digits with
  | nil => rfl
  | cons c digits ih =>
      rw [List.all_cons, Bool.and_eq_true] at h
      rw [List.map_cons, ← ih h.2, bytes, List.flatMap_cons, utf8EncodeChar_of_isDigit h.1]
      rfl

theorem byteLength_of_digits {digits : List Char} (h : digits.all Char.isDigit) :
    byteLength digits = digits.length := by
  rw [← length_bytes, bytes_of_digits h, List.length_map]

theorem all_isDigitByte_bytes {digits : List Char} (h : digits.all Char.isDigit) :
    (bytes digits).all isDigitByte := by
  rw [bytes_of_digits h, List.all_map, List.all_eq_true]
  intro c hc
  have hdigit := List.all_eq_true.1 h c hc
  simp only [Function.comp_apply, isDigitByte, toNat_byte_of_isDigit hdigit, decide_eq_true_eq]
  exact Char.isDigit_iff_toNat.1 hdigit

/-- The digits have the value of their bytes. -/
theorem foldl_bytes_of_digits {digits : List Char} (h : digits.all Char.isDigit) (value : Nat) :
    (bytes digits).foldl (fun value byte => 10 * value + (byte.toNat - '0'.toNat)) value =
      Nat.ofDigitChars 10 digits value := by
  rw [bytes_of_digits h]
  induction digits generalizing value with
  | nil => rfl
  | cons c digits ih =>
      rw [List.all_cons, Bool.and_eq_true] at h
      rw [List.map_cons, List.foldl_cons, ih h.2, Nat.ofDigitChars_cons, toNat_byte_of_isDigit h.1]

/-- Bytes that are digits encode digits. -/
theorem exists_digits {digits : List UInt8} (h : digits.all isDigitByte) :
    ∃ chars : List Char, bytes chars = digits ∧ chars.all Char.isDigit := by
  have hchar : ∀ n ≤ 57, (Char.ofNat n).toNat = n := by decide
  induction digits with
  | nil => exact ⟨[], rfl, rfl⟩
  | cons byte digits ih =>
      rw [List.all_cons, Bool.and_eq_true] at h
      obtain ⟨chars, hbytes, hchars⟩ := ih h.2
      have hbyte : '0'.toNat ≤ byte.toNat ∧ byte.toNat ≤ '9'.toNat := by
        simpa only [isDigitByte, decide_eq_true_eq] using h.1
      have htoNat := hchar byte.toNat hbyte.2
      have hdigit : (Char.ofNat byte.toNat).isDigit := by
        rw [Char.isDigit_iff_toNat, htoNat]
        exact hbyte
      refine ⟨Char.ofNat byte.toNat :: chars, ?_, ?_⟩
      · rw [← hbytes, bytes, List.flatMap_cons, utf8EncodeChar_of_isDigit hdigit, htoNat,
          UInt8.ofNat_toNat]
        rfl
      · rw [List.all_cons, hdigit, hchars, Bool.and_self]

/-! ### Reading digits

What the reader takes for a numeral of a fixed width: exactly so many digits, whatever follows. -/

/-- Digits at the front of a text are read. -/
theorem readDigits?_append {digits : List Char} (h : digits.all Char.isDigit) (rest : List Char) :
    readDigits? digits.length (digits ++ rest) = some (Nat.ofDigitChars 10 digits 0, rest) := by
  simp [readDigits?, h]

/-- Nothing but digits is read. -/
theorem exists_digits_of_readDigits? {width : Nat} {text : List Char} {result : Nat × List Char}
    (h : readDigits? width text = some result) :
    ∃ digits : List Char,
      text = digits ++ result.2 ∧ digits.length = width ∧ digits.all Char.isDigit := by
  simp only [readDigits?] at h
  split at h
  · next hdigits =>
      cases h
      exact ⟨text.take width, (List.take_append_drop width text).symm, hdigits.1, hdigits.2⟩
  · contradiction

/-! ### Reading on from an offset

A reader holds the characters that are left and the number of bytes before them. -/

/-- The text that is left from an offset of the input on. -/
def Follows (input : List UInt8) (offset : Nat) (text : List Char) : Prop :=
  offset ≤ input.length ∧ input.drop offset = bytes text

theorem follows_zero (text : List Char) : Follows (bytes text) 0 text :=
  ⟨Nat.zero_le _, List.drop_zero⟩

namespace Follows

variable {input : List UInt8} {offset : Nat} {text : List Char}

theorem slice_eq (h : Follows input offset text) (width : Nat) :
    slice input offset width = (bytes text).take width := by
  rw [slice, h.2]

/-- The input ends where the text that is left is empty. -/
theorem length_eq_iff (h : Follows input offset text) : input.length = offset ↔ text = [] := by
  have hlength : input.length - offset = byteLength text := by
    rw [← List.length_drop, h.2, length_bytes]
  have hle := h.1
  cases text with
  | nil =>
      rw [byteLength_nil] at hlength
      simp only [iff_true]
      omega
  | cons c rest =>
      have hpos := c.utf8Size_pos
      rw [byteLength_cons] at hlength
      simp only [reduceCtorEq, iff_false]
      omega

/-- What follows some characters stands behind their bytes. -/
theorem advance {first rest : List Char} (h : Follows input offset (first ++ rest)) :
    Follows input (offset + byteLength first) rest := by
  obtain ⟨hle, hdrop⟩ := h
  have hlength : input.length - offset = byteLength first + byteLength rest := by
    rw [← List.length_drop, hdrop, length_bytes, byteLength_append]
  refine ⟨by omega, ?_⟩
  rw [← List.drop_drop, hdrop, bytes_append, ← length_bytes, List.drop_left]

/-- A text begins with some characters if their bytes stand at its offset. -/
theorem slice_eq_bytes_iff (h : Follows input offset text) (chars : List Char) :
    slice input offset (byteLength chars) = bytes chars ↔ chars <+: text := by
  rw [h.slice_eq, ← bytes_prefix_iff, List.prefix_iff_eq_take, length_bytes, eq_comm]

/-- Digits at the front of the text that is left are digits among the bytes. -/
theorem hasDigits {digits rest : List Char} (h : Follows input offset (digits ++ rest))
    (hdigits : digits.all Char.isDigit) :
    HasDigits input offset digits.length ∧
      numeral input offset digits.length = Nat.ofDigitChars 10 digits 0 := by
  have hslice : slice input offset digits.length = bytes digits := by
    rw [← byteLength_of_digits hdigits, h.slice_eq_bytes_iff]
    exact List.prefix_append digits rest
  refine ⟨⟨?_, ?_⟩, ?_⟩
  · rw [hslice, length_bytes, byteLength_of_digits hdigits]
  · rw [hslice]
    exact all_isDigitByte_bytes hdigits
  · rw [numeral, hslice]
    exact foldl_bytes_of_digits hdigits 0

/-- Digits among the bytes are digits at the front of the text that is left. -/
theorem exists_digits_of_hasDigits {width : Nat} (h : Follows input offset text)
    (hdigits : HasDigits input offset width) :
    ∃ digits rest : List Char,
      text = digits ++ rest ∧ digits.length = width ∧ digits.all Char.isDigit := by
  obtain ⟨digits, hbytes, hall⟩ := exists_digits hdigits.2
  have hwidth : byteLength digits = width := by
    rw [← length_bytes, hbytes, hdigits.1]
  have hprefix : digits <+: text := by
    rw [← h.slice_eq_bytes_iff, hwidth, hbytes]
  obtain ⟨rest, hrest⟩ := hprefix
  exact ⟨digits, rest, hrest.symm, by rw [← byteLength_of_digits hall, hwidth], hall⟩

/-- Reading digits from the text that is left gives the number that stands at its offset. -/
theorem readDigits?_eq (h : Follows input offset text) (width : Nat) :
    readDigits? width text =
      if HasDigits input offset width then some (numeral input offset width, text.drop width)
      else none := by
  by_cases hdigits : HasDigits input offset width
  · obtain ⟨digits, rest, rfl, rfl, hall⟩ := h.exists_digits_of_hasDigits hdigits
    rw [if_pos hdigits, (h.hasDigits hall).2, List.drop_left]
    exact readDigits?_append hall rest
  · rw [if_neg hdigits]
    cases hread : readDigits? width text with
    | none => rfl
    | some result =>
        obtain ⟨digits, htext, hlength, hall⟩ := exists_digits_of_readDigits? hread
        subst htext hlength
        exact absurd (h.hasDigits hall).1 hdigits

/-- What follows some digits stands as many bytes behind. -/
theorem advance_digits {width : Nat} (h : Follows input offset text)
    (hdigits : HasDigits input offset width) : Follows input (offset + width) (text.drop width) := by
  obtain ⟨digits, rest, rfl, rfl, hall⟩ := h.exists_digits_of_hasDigits hdigits
  rw [List.drop_left, ← byteLength_of_digits hall]
  exact h.advance

end Follows

end UtcTime.Text
