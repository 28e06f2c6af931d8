/-
Module: UtcTime.Proofs.SpanDigits
Purpose: The days and the clock of a span are the digits of its magnitude in the mixed radix of clock
  fields, and no other digits make up the same magnitude. They are computed one by one on words of 64
  bits, the magnitude of the least count included, and given out in words of 8 or 16 bits; none of these
  words loses anything. With the sign they make up the count, and the opposite span has the same.
Trusted boundary: none
Main exports: ClockField.ofDigits_eq_iff, Span.magnitudeWord, Span.clockWord, Span.daysWord,
  Span.toNat_magnitudeWord, Span.clockWord_eq, Span.val_eq_of_parts, Span.magnitude_of_neg?,
  Span.components_are_digits
-/
import UtcTime.Proofs.SpanParts
import UtcTime.Span.Basic

namespace UtcTime

namespace ClockField

/-- Digits below their limits are those of the number that they make up. -/
theorem ofDigits_eq_iff {days nanos : Nat} {digits : ClockField → Nat}
    (h : ∀ field, digits field < field.limit) :
    ofDigits days digits = nanos ↔
      days = nanos / TimeUnit.day.nanos ∧ ∀ field, digits field = field.digit nanos := by
  constructor
  · rintro rfl
    have hhour : digits .hour < 24 := h .hour
    have hminute : digits .minute < 60 := h .minute
    have hsecond : digits .second < 60 := h .second
    have hmilli : digits .milli < 1000 := h .milli
    have hmicro : digits .micro < 1000 := h .micro
    have hnano : digits .nano < 1000 := h .nano
    constructor
    · simp only [ofDigits, TimeUnit.nanos]
      omega
    · intro field
      cases field
      all_goals
        simp only [ofDigits, digit, unit, limit, TimeUnit.nanos]
        omega
  · rintro ⟨rfl, hdigits⟩
    rw [funext hdigits]
    exact ofDigits_digit nanos

/-- A number cut to the word in which a field is given out: 8 bits, or 16 for a group of three
digits. -/
def narrow : ClockField → UInt64 → Nat
  | hour, word | minute, word | second, word => word.toUInt8.toNat
  | milli, word | micro, word | nano, word => word.toUInt16.toNat

/-- Nothing is cut off below the limit of the field. -/
theorem narrow_eq {field : ClockField} {word : UInt64} (h : word.toNat < field.limit) :
    field.narrow word = word.toNat := by
  cases field
  all_goals
    simp only [limit] at h
    simp only [narrow, UInt64.toNat_toUInt8, UInt64.toNat_toUInt16]
    apply Nat.mod_eq_of_lt
    omega

end ClockField

namespace Span

/-! ### Parts in machine words

The parts as they are computed: the count without sign in a word of 64 bits, its quotients and
remainders in words, and the fields cut to 8 and to 16 bits. Nothing is cut off. -/

/-- The 64 bits of the magnitude. A negative count is turned around in its own 64 bits, and the bits
are then taken without sign. -/
def magnitudeWord : Span → UInt64
  | finite count => if count.val < 0 then -UInt64.ofInt count.val else UInt64.ofInt count.val
  | infinite _ => 0

def daysWord (span : Span) : UInt64 :=
  span.magnitudeWord / UInt64.ofNat TimeUnit.day.nanos

/-- A field of the clock, computed on its own and cut to its word. -/
def clockWord (span : Span) (field : ClockField) : Nat :=
  field.narrow
    (span.magnitudeWord / UInt64.ofNat field.unit.nanos % UInt64.ofNat field.limit)

theorem toNat_bits (n : Int) : (UInt64.ofInt n).toNat = (n % 2 ^ 64).toNat := by
  apply UInt64.toNat_ofNat_of_lt'
  simp only [UInt64.size]
  omega

/-- The magnitude of the least count, which is no count, has a word without sign like all others. -/
theorem toNat_magnitudeWord (span : Span) : span.magnitudeWord.toNat = span.magnitude := by
  cases span with
  | infinite negative => rfl
  | finite count =>
      have hfits := Count.fits_iff.1 count.fits
      simp only [magnitudeWord, magnitude]
      split
      · -- Going up to 2 ^ 64 and back down takes the bits of a negative count to its size.
        rw [UInt64.toNat_neg, toNat_bits]
        simp only [UInt64.size]
        omega
      · rw [toNat_bits]
        omega

/-- No days are cut off by their word. -/
theorem toNat_daysWord (span : Span) : span.daysWord.toNat = span.days := by
  rw [daysWord, UInt64.toNat_div, toNat_magnitudeWord, UInt64.toNat_ofNat_of_lt' (by decide)]
  rfl

/-- No word that a field goes through is too narrow for it. -/
theorem clockWord_eq (span : Span) (field : ClockField) :
    span.clockWord field = span.clock field := by
  have hunit : field.unit.nanos < UInt64.size := by cases field <;> decide
  have hlimit : field.limit < UInt64.size := by cases field <;> decide
  have hword : (span.magnitudeWord / UInt64.ofNat field.unit.nanos %
      UInt64.ofNat field.limit).toNat = span.clock field := by
    rw [UInt64.toNat_mod, UInt64.toNat_div, toNat_magnitudeWord, UInt64.toNat_ofNat_of_lt' hunit,
      UInt64.toNat_ofNat_of_lt' hlimit]
    rfl
  have hlt := field.digit_lt span.magnitude
  rw [← clock, ← hword] at hlt
  exact (ClockField.narrow_eq hlt).trans hword

/-! ### Parts and sign

The parts show the length only. The sign has to be put to them to get the count back. -/

/-- A count is made up of its sign and the parts of its span. -/
theorem val_eq_of_parts (count : Count) :
    count.val = (if (finite count).isNegative then -1 else 1) *
      ClockField.ofDigits (finite count).days (finite count).clock := by
  rw [magnitude_eq]
  simp only [isNegative, magnitude, decide_eq_true_eq]
  split <;> omega

/-- A span and its opposite have the same length. -/
theorem magnitude_of_neg? {span opposite : Span} (h : span.neg? = .ok opposite) :
    opposite.magnitude = span.magnitude := by
  cases span with
  | infinite negative =>
      cases h
      rfl
  | finite count =>
      obtain ⟨other, hval, rfl⟩ := ofNanos?_eq_ok_iff.1 h
      simp only [magnitude, hval, Int.natAbs_neg]

/-- Days and clock of a finite span are the digits of its magnitude: they make it up, the fields of
the clock stay below their limits, and there are no others like that. The words in which they are
computed and given out lose nothing, for any count. Sign, days and clock make up the count, so finite
spans that agree in all of them are the same; and a span and its opposite, where there is one, have the
same days and clock. -/
theorem components_are_digits :
    (∀ count : Count, let span := finite count
      (((((span.days * 24 + span.clock .hour) * 60 + span.clock .minute) * 60 +
        span.clock .second) * 1000 + span.clock .milli) * 1000 + span.clock .micro) * 1000 +
        span.clock .nano = count.val.natAbs) ∧
    (∀ (span : Span) (field : ClockField), span.clock field < field.limit) ∧
    (∀ (span : Span) (days : Nat) (digits : ClockField → Nat),
      (∀ field, digits field < field.limit) →
        (ClockField.ofDigits days digits = span.magnitude ↔
          days = span.days ∧ ∀ field, digits field = span.clock field)) ∧
    (∀ span : Span, span.daysWord.toNat = span.days ∧
      ∀ field, span.clockWord field = span.clock field) ∧
    (∀ count : Count, count.val = (if (finite count).isNegative then -1 else 1) *
      ClockField.ofDigits (finite count).days (finite count).clock) ∧
    (∀ a b : Span, a.isFinite → b.isFinite → a.isNegative = b.isNegative → a.days = b.days →
      (∀ field, a.clock field = b.clock field) → a = b) ∧
    ∀ span opposite : Span, span.neg? = .ok opposite →
      opposite.days = span.days ∧ ∀ field, opposite.clock field = span.clock field := by
  refine ⟨?_, ?_, ?_, ?_, val_eq_of_parts, ?_, ?_⟩
  · intro count
    exact magnitude_eq (finite count)
  · intro span field
    exact field.digit_lt span.magnitude
  · intro span days digits hlimit
    exact ClockField.ofDigits_eq_iff hlimit
  · intro span
    exact ⟨span.toNat_daysWord, span.clockWord_eq⟩
  · intro a b ha hb hsign hdays hclock
    exact eq_of_parts ha hb hsign hdays hclock
  · intro span opposite h
    have hmagnitude := magnitude_of_neg? h
    simp only [days, clock, hmagnitude, implies_true, and_self]

/-- The least count has a magnitude and parts, and no opposite. -/
example : let span := finite ⟨Count.least, by decide⟩
    span.magnitudeWord = 9223372036854775808 ∧ span.days = 106751 ∧ span.clock .hour = 23 ∧
      span.clock .minute = 47 ∧ span.clock .nano = 808 ∧ span.neg? = .error .overflow := by
  decide

end Span

end UtcTime
