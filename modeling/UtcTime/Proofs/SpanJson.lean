/-
Module: UtcTime.Proofs.SpanJson
Purpose: The JSON form of spans. A reader hands over an integer in a word with sign if it is negative and
  otherwise in a word without, and both words stand for the span of the exact count, if there is one. A
  span has one form, integer or word, and nothing else in JSON gives a span. The text of the form is read
  back as the form.
Trusted boundary: none
Main exports: Span.ofUnsigned?, Span.ofSigned, Span.ofUnsigned?_eq, Span.ofSigned_eq, Json.IsSpanForm,
  Span.ofJson?_eq_ok_iff, Span.ofString?_text_toJson, Span.ofJson?_is_inverse
-/
import UtcTime.Json.Form
import UtcTime.Proofs.JsonIntegers

namespace UtcTime

namespace Span

/-! ### Integers as they are handed over

The two ways in which a reader hands over an integer. Neither wraps around: the span has the exact
value of the word, or there is none. -/

/-- The span of a count in a word without sign. The upper half of these words holds no counts. -/
def ofUnsigned? (word : UInt64) : Except FormFault Span :=
  match Count.ofInt? word.toNat with
  | some count => .ok (finite count)
  | none => .error (.wrongValue (.integer word.toNat) .span)

/-- The span of a count in a word with sign. Each of these words holds a count. -/
def ofSigned (word : Int64) : Span :=
  finite ⟨word.toInt, by
    have hlow := word.le_toInt
    have hhigh := word.toInt_lt
    rw [Count.fits_iff]
    omega⟩

/-- The integer of a count gives the span of that count. -/
theorem ofJson?_val (count : Count) : ofJson? (.integer count.val) = .ok (finite count) := by
  have hnanos : ofNanos? count.val = .ok (finite count) := ofNanos?_eq_ok_iff.2 ⟨_, rfl, rfl⟩
  rw [ofJson?, hnanos]
  rfl

/-- A word without sign gives what its integer gives. -/
theorem ofUnsigned?_eq (word : UInt64) : ofUnsigned? word = ofJson? (.integer word.toNat) := by
  rw [ofUnsigned?, ofJson?, ofNanos?]
  cases Count.ofInt? word.toNat with
  | none => rfl
  | some count => rfl

theorem ofSigned_eq (word : Int64) : .ok (ofSigned word) = ofJson? (.integer word.toInt) :=
  (ofJson?_val _).symm

end Span

/-- The integer of a JSON text is handed over in one of the two words, with sign if it is negative. -/
theorem Json.exists_word_of_ofString? {text : String} {n : Int}
    (h : Json.ofString? text = some (.integer n)) :
    (0 ≤ n ∧ ∃ word : UInt64, n = word.toNat) ∨ (n < 0 ∧ ∃ word : Int64, n = word.toInt) := by
  obtain ⟨hleast, hgreatest⟩ := Json.isWord_of_ofString? h
  simp only [Count.least, NumberLiteral.greatestWord] at hleast hgreatest
  rcases Int.lt_or_le n 0 with hneg | hpos
  · refine Or.inr ⟨hneg, Int64.ofInt n, ?_⟩
    rw [Int64.toInt_ofInt_of_le (by omega) (by omega)]
  · refine Or.inl ⟨hpos, UInt64.ofNat n.toNat, ?_⟩
    rw [UInt64.toNat_ofNat_of_lt' (by simp only [UInt64.size]; omega)]
    omega

/-- An integer that is a count, or the word for one of the infinite spans. -/
inductive Json.IsSpanForm : Json → Prop where
  | integer {n : Int} (fits : Count.Fits n) : IsSpanForm (.integer n)
  | infinity : IsSpanForm (.string "inf")
  | negInfinity : IsSpanForm (.string "-inf")

namespace Span

/-- Why a value that is no form of a span is refused: integers and strings for what they say, and all
others for what they are. -/
def refusal : Json → FormFault
  | .integer n => .wrongValue (.integer n) .span
  | .string s => .wrongValue (.string s) .span
  | other => .wrongKind other .span

/-! ### Values that give spans

The forms of spans are met one by one, and everything else is shown to be refused. Which values give
spans, which span they give and with what fault the others are refused then follows by cases on
being a form. -/

variable {json : Json} {span : Span}

theorem isSpanForm_toJson (span : Span) : span.toJson.IsSpanForm := by
  cases span with
  | finite count => exact .integer count.fits
  | infinite negative =>
      cases negative with
      | true => exact .negInfinity
      | false => exact .infinity

/-- What is written for a span gives the span. -/
theorem ofJson?_toJson (span : Span) : ofJson? span.toJson = .ok span := by
  cases span with
  | finite count => exact ofJson?_val count
  | infinite negative => cases negative <;> rfl

theorem exists_toJson_eq (h : json.IsSpanForm) : ∃ span : Span, span.toJson = json := by
  cases h with
  | integer fits => exact ⟨finite ⟨_, fits⟩, rfl⟩
  | infinity => exact ⟨infinity, rfl⟩
  | negInfinity => exact ⟨negInfinity, rfl⟩

/-- What is no form of a span is refused, with the value or its kind in the fault. -/
theorem ofJson?_of_not_isSpanForm (h : ¬ json.IsSpanForm) :
    ofJson? json = .error (refusal json) := by
  cases json with
  | integer n =>
      have hnanos : ofNanos? n = .error .overflow := by
        apply ofNanos?_eq_error_iff.2
        exact ⟨fun fits => h (.integer fits), rfl⟩
      rw [ofJson?, hnanos]
      rfl
  | string s =>
      have hne : s ≠ "inf" := by
        rintro rfl
        exact h .infinity
      have hne' : s ≠ "-inf" := by
        rintro rfl
        exact h .negInfinity
      rw [ofJson?, if_neg hne, if_neg hne']
      rfl
  | null | bool | float | array | object => rfl

/-- A JSON value gives a span exactly if it is the form of the span. -/
theorem ofJson?_eq_ok_iff : ofJson? json = .ok span ↔ span.toJson = json := by
  constructor
  · intro h
    by_cases hform : json.IsSpanForm
    · obtain ⟨other, rfl⟩ := exists_toJson_eq hform
      rw [ofJson?_toJson] at h
      cases h
      rfl
    · rw [ofJson?_of_not_isSpanForm hform] at h
      cases h
  · rintro rfl
    exact ofJson?_toJson span

/-- The values that give spans are the forms. -/
theorem exists_ofJson?_eq_ok_iff : (∃ span, ofJson? json = .ok span) ↔ json.IsSpanForm := by
  constructor
  · rintro ⟨span, h⟩
    rw [← ofJson?_eq_ok_iff.1 h]
    exact isSpanForm_toJson span
  · intro h
    obtain ⟨span, rfl⟩ := exists_toJson_eq h
    exact ⟨span, ofJson?_toJson span⟩

/-- The values that are refused are the others, and each has its own refusal. -/
theorem ofJson?_eq_error_iff {fault : FormFault} :
    ofJson? json = .error fault ↔ ¬ json.IsSpanForm ∧ fault = refusal json := by
  by_cases hform : json.IsSpanForm
  · obtain ⟨span, hspan⟩ := exists_ofJson?_eq_ok_iff.2 hform
    simp [hspan, hform]
  · simp [ofJson?_of_not_isSpanForm hform, hform, eq_comm]

/-- What is written for a span is read back, whatever its count. -/
theorem ofString?_text_toJson (span : Span) :
    Json.ofString? span.toJson.text = some span.toJson := by
  cases span with
  | finite count => exact Json.ofString?_text_integer (Json.isWord_of_fits count.fits)
  | infinite negative => cases negative <;> rfl

/-- Spans and their JSON forms are inverse to each other. The form of a span gives the span, also after
it was written as text and read again. A value gives a span exactly if it is an integer that is a count,
or one of the two words; no two values give the same span, and the form of the span is the value. All
others are refused. An integer that was read comes in one of two words, with sign if it is negative and
else without, and either word gives what the integer gives. -/
theorem ofJson?_is_inverse :
    (∀ span : Span, ofJson? span.toJson = .ok span ∧
      Json.ofString? span.toJson.text = some span.toJson) ∧
    (∀ json : Json, (∃ span, ofJson? json = .ok span) ↔ json.IsSpanForm) ∧
    (∀ (json other : Json) (span : Span), ofJson? json = .ok span → ofJson? other = .ok span →
      json = other) ∧
    (∀ (json : Json) (span : Span), ofJson? json = .ok span → span.toJson = json) ∧
    (∀ (json : Json) (fault : FormFault), ofJson? json = .error fault ↔
      ¬ json.IsSpanForm ∧ fault = refusal json) ∧
    (∀ (text : String) (n : Int), Json.ofString? text = some (.integer n) →
      (0 ≤ n ∧ ∃ word : UInt64, n = word.toNat) ∨ (n < 0 ∧ ∃ word : Int64, n = word.toInt)) ∧
    (∀ word : UInt64, ofUnsigned? word = ofJson? (.integer word.toNat)) ∧
    ∀ word : Int64, .ok (ofSigned word) = ofJson? (.integer word.toInt) := by
  refine ⟨?_, ?_, ?_, ?_, ?_, ?_, ofUnsigned?_eq, ofSigned_eq⟩
  · intro span
    exact ⟨ofJson?_toJson span, ofString?_text_toJson span⟩
  · intro json
    exact exists_ofJson?_eq_ok_iff
  · intro json other span h h'
    exact (ofJson?_eq_ok_iff.1 h).symm.trans (ofJson?_eq_ok_iff.1 h')
  · intro json span h
    exact ofJson?_eq_ok_iff.1 h
  · intro json fault
    exact ofJson?_eq_error_iff
  · intro text n h
    exact Json.exists_word_of_ofString? h

/-- A word without sign past the greatest count does not turn into a negative count. -/
example : ofUnsigned? 18446744073709551615 =
    .error (.wrongValue (.integer 18446744073709551615) .span) := rfl

end Span

end UtcTime
