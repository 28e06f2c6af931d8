/-
Module: UtcTime.Proofs.FieldText
Purpose: What stands in a text for the fields of an instant. Every field of an instant is within the
  bounds that its reader checks, so it is written in as many digits as the reader takes, and the
  reader gets the number back.
Trusted boundary: none
Main exports: Text.length_padded, Text.readDigits?_padded_append, Instant.fieldValue_bounds,
  Instant.length_fieldText, Instant.hasFields, CalendarField.read?_fieldText_append
-/
import UtcTime.Proofs.EpochTime
import UtcTime.Proofs.FieldValues
import UtcTime.Proofs.TextBytes
import UtcTime.Template.Text

namespace UtcTime

namespace Text

/-- Zeros in front fill a number up to the width, if it is not too long. -/
theorem length_padded {width n : Nat} (hwidth : 0 < width) (h : n < 10 ^ width) :
    (padded width n).length = width := by
  have hle : (Nat.toDigits 10 n).length ≤ width :=
    (Nat.length_toDigits_le_iff (by decide) hwidth).2 h
  rw [padded, decimal, List.length_leftpad]
  exact Nat.max_eq_left hle

theorem isDigit_padded (width n : Nat) : (padded width n).all Char.isDigit := by
  rw [List.all_eq_true]
  intro c hc
  rw [padded, decimal, List.leftpad, List.mem_append] at hc
  rcases hc with hzero | hdigit
  · rw [List.eq_of_mem_replicate hzero]
    decide
  · exact Nat.isDigit_of_mem_toDigits (by decide) (by decide) hdigit

/-- Zeros in front do not change the value. -/
theorem ofDigitChars_padded (width n : Nat) : Nat.ofDigitChars 10 (padded width n) 0 = n := by
  rw [padded, decimal, List.leftpad, Nat.ofDigitChars_append, Nat.ofDigitChars_replicate_zero,
    Nat.mul_zero, Nat.ofDigitChars_ten_toDigits]

/-- The first digit of a numeral counts the power of ten above the rest. -/
theorem ofDigitChars_cons (c : Char) (digits : List Char) :
    Nat.ofDigitChars 10 (c :: digits) 0 =
      (c.toNat - '0'.toNat) * 10 ^ digits.length + Nat.ofDigitChars 10 digits 0 := by
  rw [Nat.ofDigitChars_cons, Nat.mul_zero, Nat.zero_add, Nat.ofDigitChars_eq_ofDigitChars_zero,
    Nat.mul_comm]

/-- A numeral is below the power of ten that has one more digit. -/
theorem ofDigitChars_lt {digits : List Char} (h : digits.all Char.isDigit) :
    Nat.ofDigitChars 10 digits 0 < 10 ^ digits.length := by
  induction digits with
  | nil => decide
  | cons c digits ih =>
      rw [List.all_cons, Bool.and_eq_true] at h
      have hrest := ih h.2
      have hdigit : c.toNat - '0'.toNat ≤ 9 := by
        have hnine := (Char.isDigit_iff_toNat.1 h.1).2
        exact Nat.sub_le_sub_right hnine '0'.toNat
      have hscaled := Nat.mul_le_mul_right (10 ^ digits.length) hdigit
      rw [ofDigitChars_cons, List.length_cons, Nat.pow_succ]
      omega

/-- Numerals of one length differ in value if they differ at all: the first digit is the quotient by
the power of ten above the rest, and the rest is the remainder. -/
theorem ofDigitChars_injective {first second : List Char} (hfirst : first.all Char.isDigit)
    (hsecond : second.all Char.isDigit) (hlength : first.length = second.length)
    (h : Nat.ofDigitChars 10 first 0 = Nat.ofDigitChars 10 second 0) : first = second := by
  induction first generalizing second with
  | nil => exact (List.eq_nil_of_length_eq_zero hlength.symm).symm
  | cons c first ih =>
      cases second with
      | nil => cases hlength
      | cons d second =>
          rw [List.all_cons, Bool.and_eq_true] at hfirst hsecond
          have hlength : first.length = second.length := Nat.succ.inj hlength
          have hbelow := ofDigitChars_lt hfirst.2
          have hbelow' := ofDigitChars_lt hsecond.2
          rw [ofDigitChars_cons, ofDigitChars_cons, ← hlength] at h
          rw [← hlength] at hbelow'
          have hdigit : c.toNat - '0'.toNat = d.toNat - '0'.toNat := by
            have hquotient := congrArg (· / 10 ^ first.length) h
            simpa [Nat.mul_add_div, Nat.mul_comm, Nat.div_eq_of_lt, hbelow, hbelow'] using hquotient
          have hrest : Nat.ofDigitChars 10 first 0 = Nat.ofDigitChars 10 second 0 := by
            rw [hdigit] at h
            exact Nat.add_left_cancel h
          have hc := (Char.isDigit_iff_toNat.1 hfirst.1).1
          have hd := (Char.isDigit_iff_toNat.1 hsecond.1).1
          have hchar : c = d := Char.toNat_inj.1 (by omega)
          rw [hchar, ih hfirst.2 hsecond.2 hlength hrest]

/-- Digits are what is written for their value in their width. -/
theorem padded_ofDigitChars {digits : List Char} (hpos : 0 < digits.length)
    (h : digits.all Char.isDigit) :
    padded digits.length (Nat.ofDigitChars 10 digits 0) = digits :=
  ofDigitChars_injective (isDigit_padded _ _) h (length_padded hpos (ofDigitChars_lt h))
    (ofDigitChars_padded _ _)

/-- A number is read back from as many digits as it was written in. -/
theorem readDigits?_padded_append {width n : Nat} (hwidth : 0 < width) (h : n < 10 ^ width)
    (rest : List Char) : readDigits? width (padded width n ++ rest) = some (n, rest) := by
  have hread := readDigits?_append (isDigit_padded width n) rest
  rw [length_padded hwidth h, ofDigitChars_padded] at hread
  exact hread

end Text

namespace CalendarField

theorem width_pos (f : CalendarField) : 0 < f.width := by
  cases f with
  | clock field => cases field <;> decide
  | _ => decide

/-- The digits of a field suffice for its greatest value. -/
theorem greatest_lt (f : CalendarField) : f.greatest < 10 ^ f.width := by
  cases f with
  | clock field => cases field <;> decide
  | _ => decide

end CalendarField

namespace DateTime

/-- The clock shows no more than its fields can. -/
theorem clock_lt (time : DateTime) (field : ClockField) : time.clock field < field.limit := by
  have hnano := time.nanosecond_lt
  cases field with
  | hour => exact time.hour_lt
  | minute => exact time.minute_lt
  | second => exact time.second_lt
  | milli => exact Nat.div_lt_of_lt_mul hnano
  | micro => exact Nat.mod_lt _ (by decide)
  | nano => exact Nat.mod_lt _ (by decide)

theorem hasFields_fieldValue {time : DateTime} (h : 0 ≤ time.year) :
    time.HasFields time.fieldValue :=
  ⟨(Int.toNat_of_nonneg h).symm, rfl, rfl, fun _ => rfl⟩

/-- What a date and time shows is what it has in its fields. -/
theorem HasFields.fieldValue {time : DateTime} {value : CalendarField → Nat}
    (h : time.HasFields value) : time.fieldValue = value := by
  funext f
  cases f with
  | year =>
      have hyear := congrArg Int.toNat h.year
      rwa [Int.toNat_natCast] at hyear
  | month => exact h.month
  | day => exact h.day
  | clock field => exact h.clock field

end DateTime

namespace Instant

theorem hasFields (t : Instant) : t.toDateTime.HasFields t.toDateTime.fieldValue :=
  DateTime.hasFields_fieldValue (Int.le_trans (by decide) t.year_bounds.1)

/-- Every field of an instant is within the bounds that its reader checks. -/
theorem fieldValue_bounds (t : Instant) (f : CalendarField) :
    f.least ≤ t.toDateTime.fieldValue f ∧ t.toDateTime.fieldValue f ≤ f.greatest := by
  cases f with
  | year =>
      have hyear := t.year_bounds
      simp only [DateTime.fieldValue, CalendarField.least, CalendarField.greatest]
      omega
  | month => exact ⟨t.toDateTime.month_pos, t.toDateTime.month_le⟩
  | day =>
      exact ⟨t.toDateTime.day_pos, Nat.le_trans t.toDateTime.day_le (Date.daysInMonth_le _ _)⟩
  | clock field => exact ⟨Nat.zero_le _, Nat.le_sub_one_of_lt (t.toDateTime.clock_lt field)⟩

theorem fieldValue_lt (t : Instant) (f : CalendarField) :
    t.toDateTime.fieldValue f < 10 ^ f.width :=
  Nat.lt_of_le_of_lt (t.fieldValue_bounds f).2 f.greatest_lt

/-- Every field of an instant is written in as many digits as the field has. -/
theorem length_fieldText (t : Instant) (f : CalendarField) :
    (t.toDateTime.fieldText f).length = f.width :=
  Text.length_padded f.width_pos (t.fieldValue_lt f)

theorem byteLength_fieldText (t : Instant) (f : CalendarField) :
    Text.byteLength (t.toDateTime.fieldText f) = f.width :=
  (Text.byteLength_of_digits (Text.isDigit_padded _ _)).trans (t.length_fieldText f)

/-- No field of an instant is below its value at the epoch. -/
theorem initial_le_fieldValue (t : Instant) (f : CalendarField) :
    f.initial ≤ t.toDateTime.fieldValue f := by
  cases f with
  | year =>
      have hyear := t.year_bounds.1
      simp only [DateTime.fieldValue, CalendarField.initial]
      omega
  | month => exact t.toDateTime.month_pos
  | day => exact t.toDateTime.day_pos
  | clock field => exact Nat.zero_le _

end Instant

/-- The reader of a field gets back what was written for it. -/
theorem CalendarField.read?_fieldText_append (t : Instant) (f : CalendarField) (offset : Nat)
    (rest : List Char) :
    f.read? offset (t.toDateTime.fieldText f ++ rest) =
      .ok (t.toDateTime.fieldValue f, rest) := by
  rw [read?, DateTime.fieldText, Text.readDigits?_padded_append f.width_pos (t.fieldValue_lt f)]
  exact if_pos (t.fieldValue_bounds f)

end UtcTime
