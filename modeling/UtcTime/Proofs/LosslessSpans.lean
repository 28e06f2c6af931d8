/-
Module: UtcTime.Proofs.LosslessSpans
Purpose: Which templates for spans lose nothing. A template has to show a sign, the days and every field
  of the clock, and that is enough: although signs and days differ in width and nothing parts them from
  literal text, equal texts have equal parts. The dashes of a text count its sign; with the sign known,
  every token grows with the days, so texts of one length have tokens of one length, and stand in the
  same places.
Trusted boundary: none
Main exports: Token.measure_eq_of_render_eq, Token.fieldText_eq_of_render_eq, Token.Lossless,
  Token.lossless_iff, Span.eq_of_render_eq, Span.lossless_of_injective,
  SpanTemplate.format_injective_iff
-/
import UtcTime.Proofs.FormatAfterRead
import UtcTime.Proofs.PlaceholderMeaning

namespace UtcTime

/-! ### Equal texts of the same tokens

Two ways of writing fields that lead to the same text overall. A measure that adds up over the text,
and is no greater for any field, has to be the same for each of them; taken for the length, this
puts every token at the same place. -/

namespace Token

variable {Field : Type} {first second : Field → List Char} {tokens : List (Token Field)}

theorem render_congr (h : ∀ f, .field f ∈ tokens → first f = second f) :
    render first tokens = render second tokens := by
  apply List.flatMap_congr
  intro token htoken
  cases token with
  | literal chars => rfl
  | field f => exact h f htoken

section

variable {measure : List Char → Nat}

/-- A measure that adds up over a text, such as its length, is no greater for the whole text if it is
no greater for any field. -/
theorem measure_render_le (hadd : ∀ s t, measure (s ++ t) = measure s + measure t)
    (hle : ∀ f, .field f ∈ tokens → measure (first f) ≤ measure (second f)) :
    measure (render first tokens) ≤ measure (render second tokens) := by
  induction tokens with
  | nil => exact Nat.le_refl _
  | cons token tokens ih =>
      have hrest := ih fun f hf => hle f (List.mem_cons_of_mem _ hf)
      rw [render_cons, render_cons, hadd, hadd]
      cases token with
      | literal chars => exact Nat.add_le_add_left hrest _
      | field f => exact Nat.add_le_add (hle f List.mem_cons_self) hrest

/-- If it is the same for the whole text, it is so for every field. -/
theorem measure_eq_of_render_eq (hadd : ∀ s t, measure (s ++ t) = measure s + measure t)
    (hle : ∀ f, .field f ∈ tokens → measure (first f) ≤ measure (second f))
    (h : measure (render first tokens) = measure (render second tokens)) :
    ∀ f, .field f ∈ tokens → measure (first f) = measure (second f) := by
  induction tokens with
  | nil => simp
  | cons token tokens ih =>
      have hle' : ∀ f, .field f ∈ tokens → measure (first f) ≤ measure (second f) :=
        fun f hf => hle f (List.mem_cons_of_mem _ hf)
      have hrest := measure_render_le hadd hle'
      rw [render_cons, render_cons, hadd, hadd] at h
      intro f hf
      rcases List.mem_cons.1 hf with rfl | hf
      · -- The rest cannot make up for a field that measures less.
        have hfield := hle f List.mem_cons_self
        simp only [text] at h
        omega
      · apply ih hle' _ f hf
        cases token with
        | literal chars => exact Nat.add_left_cancel h
        | field g =>
            have hfield := hle g List.mem_cons_self
            simp only [text] at h
            omega

end

/-- Tokens of the same length stand at the same places, so they can be told apart. -/
theorem fieldText_eq_of_render_eq
    (hlength : ∀ f, .field f ∈ tokens → (first f).length = (second f).length)
    (h : render first tokens = render second tokens) :
    ∀ f, .field f ∈ tokens → first f = second f := by
  induction tokens with
  | nil => simp
  | cons token tokens ih =>
      rw [render_cons, render_cons] at h
      have htoken : (token.text first).length = (token.text second).length := by
        cases token with
        | literal chars => rfl
        | field f => exact hlength f List.mem_cons_self
      obtain ⟨hfirst, hrest⟩ := List.append_inj h htoken
      intro f hf
      rcases List.mem_cons.1 hf with rfl | hf
      · exact hfirst
      · exact ih (fun g hg => hlength g (List.mem_cons_of_mem _ hg)) hrest f hf

/-- The tokens show a sign, the days, and all that a clock shows. -/
structure Lossless (tokens : List (Token SpanField)) : Prop where
  sign : ∃ sign, .field (.sign sign) ∈ tokens
  days : .field .days ∈ tokens ∨ .field .daysIfAny ∈ tokens
  clock : ∀ field, .field (.clock field) ∈ tokens

end Token

/-! ### Numerals

Numerals determine their numbers, get no shorter for greater numbers, and have no dash. -/

namespace Text

theorem decimal_injective {m n : Nat} (h : decimal m = decimal n) : m = n := by
  have hvalue := congrArg (Nat.ofDigitChars 10 · 0) h
  simpa [decimal, Nat.ofDigitChars_ten_toDigits] using hvalue

theorem padded_injective {width m n : Nat} (h : padded width m = padded width n) : m = n := by
  have hvalue := congrArg (Nat.ofDigitChars 10 · 0) h
  simpa [ofDigitChars_padded] using hvalue

/-- A greater number does not have fewer digits. -/
theorem length_decimal_le {m n : Nat} (h : m ≤ n) : (decimal m).length ≤ (decimal n).length := by
  have hpos : 0 < (Nat.toDigits 10 n).length := Nat.length_toDigits_pos
  have hlt := (Nat.length_toDigits_le_iff (by decide) hpos).1 (Nat.le_refl _)
  exact (Nat.length_toDigits_le_iff (by decide) hpos).2 (Nat.lt_of_le_of_lt h hlt)

theorem dash_not_mem_decimal (n : Nat) : '-' ∉ decimal n := by
  intro hdash
  have hdigit := Nat.isDigit_of_mem_toDigits (by decide) (by decide) hdash
  revert hdigit
  decide

theorem dash_not_mem_padded (width n : Nat) : '-' ∉ padded width n := by
  intro hdash
  have hdigit := List.all_eq_true.1 (isDigit_padded width n) _ hdash
  revert hdigit
  decide

end Text

/-! ### From equal texts to equal spans

The sign comes first, since it is told by dashes however wide the days are; then the lengths of all
fields; then the fields themselves. -/

namespace Span

variable {a b : Span} {tokens : List (Token SpanField)}

/-- A sign is the only field with a dash, and has one just for negative spans. -/
theorem count_dash_fieldText (span : Span) (f : SpanField) :
    (span.fieldText f).count '-' =
      match f with
      | .sign _ => span.isNegative.toNat
      | _ => 0 := by
  cases f with
  | sign sign =>
      cases sign <;> cases hsign : span.isNegative <;> simp [fieldText, SignField.text, hsign]
  | days => exact List.count_eq_zero.2 (Text.dash_not_mem_decimal _)
  | daysIfAny =>
      apply List.count_eq_zero.2
      simp only [fieldText]
      split
      · simp [Text.dash_not_mem_decimal]
      · simp
  | clock field => exact List.count_eq_zero.2 (Text.dash_not_mem_padded _ _)

theorem length_fieldText_clock (span : Span) (field : ClockField) :
    (span.fieldText (.clock field)).length = field.width :=
  Text.length_padded field.width_pos (field.digit_lt_pow span.magnitude)

/-- Between spans of one sign, no field gets shorter with more days. -/
theorem length_fieldText_le (hsign : a.isNegative = b.isNegative) (hdays : a.days ≤ b.days)
    (f : SpanField) : (a.fieldText f).length ≤ (b.fieldText f).length := by
  have hdecimal := Text.length_decimal_le hdays
  cases f with
  | sign sign => simp only [fieldText, hsign, Nat.le_refl]
  | days => exact hdecimal
  | daysIfAny =>
      simp only [fieldText]
      split
      · next hpos =>
          rw [if_pos (Nat.lt_of_lt_of_le hpos hdays), List.length_append, List.length_append]
          exact Nat.add_le_add_right hdecimal _
      · exact Nat.zero_le _
  | clock field => rw [length_fieldText_clock, length_fieldText_clock]

/-- A text shows by its dashes whether its span is negative. -/
theorem isNegative_eq_of_render_eq {sign : SignField} (hsign : .field (.sign sign) ∈ tokens)
    (h : Token.render a.fieldText tokens = Token.render b.fieldText tokens) :
    a.isNegative = b.isNegative := by
  wlog hle : a.isNegative.toNat ≤ b.isNegative.toNat generalizing a b
  · exact (this h.symm (Nat.le_of_not_le hle)).symm
  have hfields : ∀ f, .field f ∈ tokens →
      (a.fieldText f).count '-' ≤ (b.fieldText f).count '-' := by
    intro f _
    rw [count_dash_fieldText, count_dash_fieldText]
    cases f with
    | sign sign => exact hle
    | days => exact Nat.le_refl _
    | daysIfAny => exact Nat.le_refl _
    | clock field => exact Nat.le_refl _
  have hcount := Token.measure_eq_of_render_eq (fun _ _ => List.count_append) hfields
    (congrArg (List.count '-') h) _ hsign
  rw [count_dash_fieldText, count_dash_fieldText] at hcount
  exact Function.LeftInverse.injective Bool.ofNat_toNat hcount

/-- With the sign known, fields have the same length in texts that are equal. -/
theorem length_fieldText_eq_of_render_eq (hsign : a.isNegative = b.isNegative)
    (h : Token.render a.fieldText tokens = Token.render b.fieldText tokens) :
    ∀ f, .field f ∈ tokens → (a.fieldText f).length = (b.fieldText f).length := by
  wlog hdays : a.days ≤ b.days generalizing a b
  · intro f hf
    exact (this hsign.symm h.symm (Nat.le_of_not_le hdays) f hf).symm
  exact Token.measure_eq_of_render_eq (fun _ _ => List.length_append)
    (fun f _ => length_fieldText_le hsign hdays f) (congrArg List.length h)

/-- Days that are left out are zero, and others are told by their numeral. -/
theorem days_eq_of_fieldText_daysIfAny (h : a.fieldText .daysIfAny = b.fieldText .daysIfAny) :
    a.days = b.days := by
  simp only [fieldText] at h
  split at h <;> split at h
  · exact Text.decimal_injective (List.append_cancel_right h)
  · simp at h
  · simp at h
  · omega

/-- A text of lossless tokens is that of one finite span only. -/
theorem eq_of_render_eq (hlossless : Token.Lossless tokens) (ha : a.isFinite) (hb : b.isFinite)
    (h : Token.render a.fieldText tokens = Token.render b.fieldText tokens) : a = b := by
  obtain ⟨sign, hsign⟩ := hlossless.sign
  have hnegative := isNegative_eq_of_render_eq hsign h
  have htext := Token.fieldText_eq_of_render_eq (length_fieldText_eq_of_render_eq hnegative h) h
  apply eq_of_parts ha hb hnegative
  · rcases hlossless.days with hdays | hdays
    · exact Text.decimal_injective (htext _ hdays)
    · exact days_eq_of_fieldText_daysIfAny (htext _ hdays)
  · intro field
    exact Text.padded_injective (htext _ (hlossless.clock field))

/-! ### What a template without a field mixes up

For each field that a template may lack, two finite spans that differ in this field only. -/

/-- The span of one unit. -/
def one (unit : TimeUnit) : Span :=
  finite ⟨unit.nanos, by cases unit <;> decide⟩

/-- The span of one nanosecond back. -/
def oneBack : Span := finite ⟨-1, by decide⟩

/-- One nanosecond and one nanosecond back differ in the sign only. -/
theorem fieldText_oneBack {f : SpanField} (hsign : ∀ sign, f ≠ .sign sign) :
    oneBack.fieldText f = (one .nanosecond).fieldText f := by
  cases f with
  | sign sign => exact absurd rfl (hsign sign)
  | days => rfl
  | daysIfAny => rfl
  | clock field => rfl

theorem fieldText_one_day {f : SpanField} (hdays : f ≠ .days) (hdaysIfAny : f ≠ .daysIfAny) :
    (one .day).fieldText f = zero.fieldText f := by
  cases f with
  | sign sign => rfl
  | days => exact absurd rfl hdays
  | daysIfAny => exact absurd rfl hdaysIfAny
  | clock field => cases field <;> rfl

/-- One unit of a clock field and no time differ in this field only. -/
theorem fieldText_one_unit {field : ClockField} {f : SpanField} (hne : f ≠ .clock field) :
    (one field.unit).fieldText f = zero.fieldText f := by
  cases f with
  | sign sign => cases field <;> rfl
  | days => cases field <;> rfl
  | daysIfAny => cases field <;> rfl
  | clock other => cases field <;> cases other <;> first | rfl | exact absurd rfl hne

/-- Tokens that give different finite spans different texts are lossless. -/
theorem lossless_of_injective
    (h : ∀ a b : Span, a.isFinite → b.isFinite →
      Token.render a.fieldText tokens = Token.render b.fieldText tokens → a = b) :
    Token.Lossless tokens where
  sign := by
    by_contra habsent
    have heq := h oneBack (one .nanosecond) rfl rfl <| Token.render_congr fun f hf =>
      fieldText_oneBack fun sign hsign => habsent ⟨sign, hsign ▸ hf⟩
    revert heq
    decide
  days := by
    by_contra habsent
    rw [not_or] at habsent
    have heq := h (one .day) zero rfl rfl <| Token.render_congr fun f hf =>
      fieldText_one_day (fun hdays => habsent.1 (hdays ▸ hf)) fun hdays => habsent.2 (hdays ▸ hf)
    revert heq
    decide
  clock field := by
    by_contra habsent
    have heq := h (one field.unit) zero rfl rfl <| Token.render_congr fun f hf =>
      fieldText_one_unit fun hclock => habsent (hclock ▸ hf)
    revert heq
    cases field <;> decide

end Span

/-! ### Reading it off the text of a template

A field is among the tokens exactly if one of its placeholders is in the text. The placeholder of
the time of day shows three fields at once. -/

namespace SpanField

/-- The placeholders that show a field. -/
def placeholders : SpanField → List Char
  | sign .always => ['+']
  | sign .ifNegative => ['-']
  | days => ['d']
  | daysIfAny => ['D']
  | clock .hour => ['H', 'T']
  | clock .minute => ['M', 'T']
  | clock .second => ['S', 'T']
  | clock .milli => ['3']
  | clock .micro => ['6']
  | clock .nano => ['9']

/-- The placeholders of a field are those with the field in their expansion. -/
theorem mem_placeholders_iff (f : SpanField) (x : Char) :
    x ∈ f.placeholders ↔
      ∃ expansion, Token.ofPlaceholder? x = some expansion ∧ .field f ∈ expansion := by
  constructor
  · intro hx
    rcases f with (_ | _) | _ | _ | (_ | _ | _ | _ | _ | _)
    all_goals
      simp only [placeholders, List.mem_cons, List.not_mem_nil, or_false] at hx
    case clock.hour | clock.minute | clock.second =>
      rcases hx with rfl | rfl <;> exact ⟨_, rfl, by decide⟩
    all_goals
      subst hx
      exact ⟨_, rfl, by decide⟩
  · rintro ⟨expansion, hx, hf⟩
    have hplaceholder := (Token.isPlaceholder_iff x).1 (Option.isSome_of_eq_some hx)
    simp only [isSome_expand?_iff, List.mem_cons, List.not_mem_nil, or_false] at hplaceholder
    rcases hplaceholder with rfl | rfl | rfl | rfl | rfl | rfl | rfl | rfl | rfl | rfl | rfl | rfl
    all_goals
      cases hx
      simp only [List.map_cons, List.map_nil, Token.lift, List.mem_cons, List.not_mem_nil,
        reduceCtorEq, Token.field.injEq, false_or, or_false] at hf
    all_goals
      rcases hf with rfl | rfl | rfl <;> simp [placeholders]

/-- A field is shown exactly if one of its placeholders is in the text. -/
theorem field_mem_iff {text : List Char} {tokens : List (Token SpanField)}
    (h : Token.compile SpanField text = .ok tokens) (f : SpanField) :
    .field f ∈ tokens ↔ ∃ x ∈ f.placeholders, TemplateText.Has text x := by
  simp only [Token.field_mem_iff_of_compile h, mem_placeholders_iff, and_comm]

end SpanField

open TemplateText (Has interpret)

/-- Tokens lose nothing exactly if their text has the placeholders for it. -/
theorem Token.lossless_iff {text : List Char} {tokens : List (Token SpanField)}
    (h : Token.compile SpanField text = .ok tokens) :
    Lossless tokens ↔
      (Has text '+' ∨ Has text '-') ∧ (Has text 'd' ∨ Has text 'D') ∧
        (∀ x ∈ ['H', 'M', 'S'], Has text x ∨ Has text 'T') ∧ ∀ x ∈ ['3', '6', '9'], Has text x := by
  have hsign : (∃ sign, .field (.sign sign) ∈ tokens) ↔ Has text '+' ∨ Has text '-' := by
    constructor
    · rintro ⟨sign, hsign⟩
      rw [SpanField.field_mem_iff h] at hsign
      cases sign with
      | always => exact Or.inl (by simpa [SpanField.placeholders] using hsign)
      | ifNegative => exact Or.inr (by simpa [SpanField.placeholders] using hsign)
    · rintro (hplus | hminus)
      · exact ⟨.always, (SpanField.field_mem_iff h _).2 ⟨_, List.mem_singleton_self _, hplus⟩⟩
      · exact ⟨.ifNegative, (SpanField.field_mem_iff h _).2 ⟨_, List.mem_singleton_self _, hminus⟩⟩
  have hdays : .field .days ∈ tokens ∨ .field .daysIfAny ∈ tokens ↔ Has text 'd' ∨ Has text 'D' := by
    simp [SpanField.field_mem_iff h, SpanField.placeholders]
  have hclock : (∀ field, .field (.clock field) ∈ tokens) ↔
      (∀ x ∈ ['H', 'M', 'S'], Has text x ∨ Has text 'T') ∧ ∀ x ∈ ['3', '6', '9'], Has text x := by
    simp only [SpanField.field_mem_iff h]
    constructor
    · intro hclock
      have htime := And.intro (hclock .hour) (And.intro (hclock .minute) (hclock .second))
      have hfraction := And.intro (hclock .milli) (And.intro (hclock .micro) (hclock .nano))
      constructor
      · simpa [SpanField.placeholders] using htime
      · simpa [SpanField.placeholders] using hfraction
    · rintro ⟨htime, hfraction⟩ field
      simp only [List.forall_mem_cons] at htime hfraction
      cases field <;> simp [SpanField.placeholders, htime, hfraction]
  rw [← hsign, ← hdays, ← hclock]
  exact ⟨fun hlossless => ⟨hlossless.sign, hlossless.days, hlossless.clock⟩,
    fun ⟨hsign, hdays, hclock⟩ => ⟨hsign, hdays, hclock⟩⟩

namespace Span

variable {a b : Span} {template : SpanTemplate}

theorem format_of_isFinite (ha : a.isFinite) :
    a.format template = String.ofList (Token.render a.fieldText template.finite) := by
  rw [format, if_pos ha]

/-- A template tells finite spans apart exactly if its tokens for them lose nothing. -/
theorem format_injective_iff_lossless :
    (∀ a b : Span, a.isFinite → b.isFinite → a.format template = b.format template → a = b) ↔
      Token.Lossless template.finite := by
  constructor
  · intro h
    apply lossless_of_injective
    intro a b ha hb heq
    apply h a b ha hb
    rw [format_of_isFinite ha, format_of_isFinite hb, heq]
  · intro hlossless a b ha hb heq
    rw [format_of_isFinite ha, format_of_isFinite hb, String.ofList_inj] at heq
    exact eq_of_render_eq hlossless ha hb heq

/-- The standard text of a finite span is what the standard template says. -/
theorem toString_finite (count : Count) :
    toString (finite count) =
      String.ofList (interpret (Placeholder.span (count.val < 0) count.val.natAbs)
        SpanTemplate.standardSource.toList) :=
  format_finite count (SpanTemplate.ofString?_eq_ok_iff.1 SpanTemplate.ofString?_standardSource).1

theorem toString_infinite (negative : Bool) :
    toString (infinite negative) =
      String.ofList (interpret (Placeholder.sign negative)
        SpanTemplate.standardInfiniteSource.toList) :=
  format_infinite negative
    (SpanTemplate.withInfinite?_eq_ok_iff.1 SpanTemplate.withInfinite?_standardInfiniteSource).1

/-- In the standard texts only finite spans have a point. -/
theorem toString_finite_ne_infinite (count : Count) (negative : Bool) :
    toString (finite count) ≠ toString (infinite negative) := by
  intro h
  rw [toString_finite, toString_infinite, String.ofList_inj] at h
  have hpoint : '.' ∈ interpret (Placeholder.span (count.val < 0) count.val.natAbs)
      SpanTemplate.standardSource.toList :=
    List.mem_flatMap.2 ⟨.plain '.', by decide +kernel, List.mem_singleton_self _⟩
  rw [h] at hpoint
  revert hpoint
  cases negative <;> decide +kernel

/-- The standard texts of the infinite spans are different. -/
theorem eq_of_toString_infinite {negative other : Bool}
    (h : toString (infinite negative) = toString (infinite other)) : negative = other := by
  rw [toString_infinite, toString_infinite, String.ofList_inj] at h
  revert h
  cases negative <;> cases other <;> decide +kernel

/-- The standard text tells all spans apart, finite and infinite ones. -/
theorem toString_injective (h : toString a = toString b) : a = b := by
  have hstandard : Token.Lossless SpanTemplate.standard.finite := by
    rw [Token.lossless_iff
      (SpanTemplate.ofString?_eq_ok_iff.1 SpanTemplate.ofString?_standardSource).1]
    -- Otherwise the decision may go through all characters.
    simp only [List.forall_mem_cons, List.not_mem_nil, false_implies, implies_true]
    decide +kernel
  cases a with
  | finite count =>
      cases b with
      | finite other => exact format_injective_iff_lossless.2 hstandard _ _ rfl rfl h
      | infinite negative => exact absurd h (toString_finite_ne_infinite count negative)
  | infinite negative =>
      cases b with
      | finite other => exact absurd h.symm (toString_finite_ne_infinite other negative)
      | infinite other => exact congrArg infinite (eq_of_toString_infinite h)

end Span

/-- A template gives different finite spans different texts just if it shows, with the placeholder of
the time of day written out, a sign, the days, and every field of the clock, wherever it shows them and
whatever stands between them. The standard template does so, and its texts for the infinite spans are
two others. -/
theorem SpanTemplate.format_injective_iff :
    (∀ (source : String) (template : SpanTemplate), SpanTemplate.ofString? source = .ok template →
      ((∀ a b : Span, a.isFinite → b.isFinite → a.format template = b.format template → a = b) ↔
        (Has source.toList '+' ∨ Has source.toList '-') ∧
        (Has source.toList 'd' ∨ Has source.toList 'D') ∧
        (∀ x ∈ ['H', 'M', 'S'], Has source.toList x ∨ Has source.toList 'T') ∧
        ∀ x ∈ ['3', '6', '9'], Has source.toList x)) ∧
    ∀ a b : Span, toString a = toString b → a = b := by
  constructor
  · intro source template h
    rw [Span.format_injective_iff_lossless,
      Token.lossless_iff (SpanTemplate.ofString?_eq_ok_iff.1 h).1]
  · intro a b h
    exact Span.toString_injective h

/-- Signs and days are told apart from a literal dash and a literal digit in front of them. -/
theorem SpanTemplate.format_injective_iff_of_dash_and_digit :
    ∃ template : SpanTemplate, SpanTemplate.ofString? "-%-7%d%T.%3%6%9" = .ok template ∧
      ∀ a b : Span, a.isFinite → b.isFinite → a.format template = b.format template → a = b := by
  have hcompile : (Token.compile SpanField "-%-7%d%T.%3%6%9".toList).isOk := by cbv
  have htemplate := ofString?_eq_ok (Token.ofString?_eq_ofConstant hcompile)
  refine ⟨_, htemplate, (format_injective_iff.1 _ _ htemplate).2 ?_⟩
  simp only [List.forall_mem_cons, List.not_mem_nil, false_implies, implies_true]
  decide +kernel

end UtcTime
