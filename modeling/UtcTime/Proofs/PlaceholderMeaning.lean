/-
Module: UtcTime.Proofs.PlaceholderMeaning
Purpose: What each placeholder shows, told from the date and the count of nanoseconds alone, for each of
  the three kinds of template. Numbers of a fixed width are written place by place. Instants and spans
  are written by the text of a template just as these tables say.
Trusted boundary: none
Main exports: Text.places, Placeholder.calendar, Placeholder.span, Placeholder.sign,
  Instant.format_eq_interpret, Span.format_finite, Span.format_infinite,
  SpanTemplate.compile_of_ofOptions?, TemplateText.format_is_direct
-/
import UtcTime.Proofs.SpanParts
import UtcTime.Proofs.TemplateGrammar
import UtcTime.Proofs.TemplateMeaning
import UtcTime.Proofs.TemplateText
import UtcTime.Session

namespace UtcTime

/-! ### Numbers of a fixed width

Padding a numeral with zeros and writing it place by place are two ways to the same text, as long as
the number fits its width. -/

namespace Text

/-- The decimal digits of a number in its lowest places, the highest of them first. -/
def places : Nat → Nat → List Char
  | 0, _ => []
  | width + 1, n => places width (n / 10) ++ [Nat.digitChar (n % 10)]

theorem length_places (width n : Nat) : (places width n).length = width := by
  induction width generalizing n with
  | zero => rfl
  | succ width ih => simp [places, ih]

theorem isDigit_places (width n : Nat) : (places width n).all Char.isDigit := by
  induction width generalizing n with
  | zero => rfl
  | succ width ih => simp [places, ih, Nat.isDigit_digitChar, Nat.mod_lt]

/-- The places of a number that fits them have its value. -/
theorem ofDigitChars_places {width n : Nat} (h : n < 10 ^ width) :
    Nat.ofDigitChars 10 (places width n) 0 = n := by
  induction width generalizing n with
  | zero =>
      have hzero : n = 0 := by simpa using h
      simp [places, hzero]
  | succ width ih =>
      have hdigit : n % 10 < 10 := Nat.mod_lt n (by decide)
      have hrest : n / 10 < 10 ^ width := by
        rw [Nat.pow_succ] at h
        exact Nat.div_lt_of_lt_mul (by omega)
      rw [places, Nat.ofDigitChars_append, ih hrest,
        Nat.ofDigitChars_cons_digitChar_of_lt_ten hdigit, Nat.ofDigitChars_nil]
      exact Nat.div_add_mod n 10

/-- A number that fits its width is written with one digit in each place. -/
theorem padded_eq_places {width n : Nat} (hwidth : 0 < width) (h : n < 10 ^ width) :
    padded width n = places width n := by
  apply ofDigitChars_injective (isDigit_padded width n) (isDigit_places width n)
  · rw [length_padded hwidth h, length_places]
  · rw [ofDigitChars_padded, ofDigitChars_places h]

end Text

namespace ClockField

theorem width_pos (field : ClockField) : 0 < field.width := by
  cases field <;> decide

/-- The digits of a clock field suffice for its values. -/
theorem digit_lt_pow (field : ClockField) (nanos : Nat) :
    field.digit nanos < 10 ^ field.width := by
  apply Nat.lt_of_lt_of_le (field.digit_lt nanos)
  cases field <;> decide

end ClockField

/-! ### The tables

The meaning of each placeholder as a function of numbers, without tokens and without the fields of a
date and time. -/

namespace Placeholder

open Text (places decimal)

/-- What a clock shows of a number of nanoseconds. -/
def clock (nanos : Nat) : Char → List Char
  | 'H' => places 2 (nanos / 3600000000000 % 24)
  | 'M' => places 2 (nanos / 60000000000 % 60)
  | 'S' => places 2 (nanos / 1000000000 % 60)
  | 'T' =>
      places 2 (nanos / 3600000000000 % 24) ++ ':' :: places 2 (nanos / 60000000000 % 60) ++
        ':' :: places 2 (nanos / 1000000000 % 60)
  | '3' => places 3 (nanos / 1000000 % 1000)
  | '6' => places 3 (nanos / 1000 % 1000)
  | '9' => places 3 (nanos % 1000)
  | _ => []

/-- What the calendar shows of the instant on a date, so many nanoseconds after the epoch. -/
def calendar (date : Date) (nanos : Nat) : Char → List Char
  | 'Y' => places 4 date.year.toNat
  | 'm' => places 2 date.month
  | 'd' => places 2 date.day
  | 'F' =>
      places 4 date.year.toNat ++ '-' :: places 2 date.month ++ '-' :: places 2 date.day
  | other => clock nanos other

/-- How a sign is shown. -/
def sign (negative : Bool) : Char → List Char
  | '+' => if negative then ['-'] else ['+']
  | '-' => if negative then ['-'] else []
  | _ => []

/-- What is shown of a finite span of so many nanoseconds without its sign. -/
def span (negative : Bool) (nanos : Nat) : Char → List Char
  | '+' => sign negative '+'
  | '-' => sign negative '-'
  | 'd' => decimal (nanos / 86400000000000)
  | 'D' =>
      if nanos / 86400000000000 = 0 then [] else decimal (nanos / 86400000000000) ++ ['d', ' ']
  | other => clock nanos other

/-- The placeholders of a clock show the same in all tables. -/
theorem calendar_of_clock (date : Date) (nanos : Nat) {x : Char}
    (h : (@Alphabet.expand? ClockField _ x).isSome) : calendar date nanos x = clock nanos x := by
  simp only [ClockField.isSome_expand?_iff, List.mem_cons, List.not_mem_nil, or_false] at h
  rcases h with rfl | rfl | rfl | rfl | rfl | rfl | rfl <;> rfl

theorem span_of_clock (negative : Bool) (nanos : Nat) {x : Char}
    (h : (@Alphabet.expand? ClockField _ x).isSome) : span negative nanos x = clock nanos x := by
  simp only [ClockField.isSome_expand?_iff, List.mem_cons, List.not_mem_nil, or_false] at h
  rcases h with rfl | rfl | rfl | rfl | rfl | rfl | rfl <;> rfl

theorem span_of_sign (negative : Bool) (nanos : Nat) {x : Char}
    (h : (@Alphabet.expand? SignField _ x).isSome) : span negative nanos x = sign negative x := by
  simp only [SignField.isSome_expand?_iff, List.mem_cons, List.not_mem_nil, or_false] at h
  rcases h with rfl | rfl <;> rfl

end Placeholder

/-! ### What the tokens of a placeholder write

One lemma for each alphabet: the expansion of a placeholder, rendered, is the entry of the table.
The wider alphabets use what is proved for those that they contain. -/

/-- Tokens of a narrower alphabet write the same as a part of a wider one. -/
theorem Token.render_map_lift {Field Wider : Type} (wider : Field → Wider)
    (wideText : Wider → List Char) (tokens : List (Token Field)) :
    Token.render wideText (tokens.map (Token.lift wider)) =
      Token.render (fun f => wideText (wider f)) tokens := by
  induction tokens with
  | nil => rfl
  | cons token tokens ih =>
      simp only [Token.render, List.map_cons, List.flatMap_cons] at ih ⊢
      rw [ih]
      cases token <;> rfl

section

variable {x : Char}

/-- The clock of a number of nanoseconds. -/
theorem ClockField.render_expand? (nanos : Nat) {expansion : List (Token ClockField)}
    (h : Alphabet.expand? x = some expansion) :
    Token.render (fun field => Text.padded field.width (field.digit nanos)) expansion =
      Placeholder.clock nanos x := by
  have hplaces : (fun field : ClockField => Text.padded field.width (field.digit nanos)) =
      fun field => Text.places field.width (field.digit nanos) :=
    funext fun field => Text.padded_eq_places field.width_pos (field.digit_lt_pow nanos)
  rw [hplaces]
  simp only [Alphabet.expand?] at h
  split at h
  case h_8 => cases h
  all_goals
    cases h
    simp [Token.render, Placeholder.clock, ClockField.width, ClockField.digit, ClockField.unit,
      ClockField.limit, TimeUnit.nanos]

/-- The calendar of an instant. Every field fits its width, the year among them. -/
theorem CalendarField.render_expand? (t : Instant) {expansion : List (Token CalendarField)}
    (h : Alphabet.expand? x = some expansion) :
    Token.render t.toDateTime.fieldText expansion =
      Placeholder.calendar t.toDateTime.toDate t.nanos x := by
  have hplaces : ∀ f : CalendarField,
      t.toDateTime.fieldText f = Text.places f.width (t.toDateTime.fieldValue f) :=
    fun f => Text.padded_eq_places f.width_pos (t.fieldValue_lt f)
  have hclock : (fun field => t.toDateTime.fieldText (.clock field)) =
      fun field : ClockField => Text.padded field.width (field.digit t.nanos) := by
    funext field
    rw [← t.clock_toDateTime field]
    rfl
  simp only [Alphabet.expand?] at h
  split at h
  case h_5 =>
    obtain ⟨clockExpansion, hx, rfl⟩ := Option.map_eq_some_iff.1 h
    rw [Token.render_map_lift, hclock, ClockField.render_expand? t.nanos hx,
      Placeholder.calendar_of_clock _ _ (Option.isSome_of_eq_some hx)]
  all_goals
    cases h
    simp [hplaces, Token.render, Placeholder.calendar, CalendarField.width, DateTime.fieldValue]

/-- The sign of a span. -/
theorem SignField.render_expand? (negative : Bool) {expansion : List (Token SignField)}
    (h : Alphabet.expand? x = some expansion) :
    Token.render (SignField.text negative) expansion = Placeholder.sign negative x := by
  simp only [Alphabet.expand?] at h
  split at h
  case h_3 => cases h
  all_goals
    cases h
    simp [Token.render, Placeholder.sign, SignField.text]

/-- The days and the clock of a finite span, which both show its length without the sign. -/
theorem SpanField.render_expand? (count : Count) {expansion : List (Token SpanField)}
    (h : Alphabet.expand? x = some expansion) :
    Token.render (Span.finite count).fieldText expansion =
      Placeholder.span (count.val < 0) count.val.natAbs x := by
  simp only [Alphabet.expand?] at h
  split at h
  case h_1 =>
    cases h
    simp [Token.render, Placeholder.span, Span.fieldText, Span.days, Span.magnitude, TimeUnit.nanos]
  case h_2 =>
    cases h
    simp only [Token.render, List.flatMap_cons, List.flatMap_nil, List.append_nil, Span.fieldText,
      Nat.pos_iff_ne_zero, ne_eq, ite_not]
    rfl
  case h_3 =>
    split at h
    · next signExpansion hx =>
        cases h
        rw [Token.render_map_lift, Placeholder.span_of_sign _ _ (Option.isSome_of_eq_some hx)]
        exact SignField.render_expand? (count.val < 0) hx
    · obtain ⟨clockExpansion, hx, rfl⟩ := Option.map_eq_some_iff.1 h
      rw [Token.render_map_lift, Placeholder.span_of_clock _ _ (Option.isSome_of_eq_some hx)]
      exact ClockField.render_expand? count.val.natAbs hx

end

/-! ### Writing by the text of a template

The tokens of a text write it piece by piece, so the tables say what is written. -/

open TemplateText (interpret)

/-- An instant is written as its template says, with the table of its own date and count. -/
theorem Instant.format_eq_interpret {source : String} {template : InstantTemplate}
    (h : InstantTemplate.ofString? source = .ok template) (t : Instant) :
    t.format template =
      String.ofList (interpret (Placeholder.calendar t.toDateTime.toDate t.nanos) source.toList) := by
  have hcompile := (InstantTemplate.ofString?_eq_ok_iff.1 h).1
  exact congrArg String.ofList
    (Token.render_eq_interpret (fun _ _ => CalendarField.render_expand? t) hcompile)

namespace SpanTemplate

theorem exists_of_bind_eq_ok {ε α β : Type} {f : α → Except ε β} {result : Except ε α} {b : β}
    (h : (result >>= f) = .ok b) : ∃ a, result = .ok a ∧ f a = .ok b := by
  cases result with
  | error e => cases h
  | ok a => exact ⟨a, rfl, h⟩

/-- The two texts that make a template for spans are compiled apart from each other; a text that is
left out is the standard one. -/
theorem compile_of_ofOptions? {source infinite : Option String} {template : SpanTemplate}
    (h : ofOptions? source infinite = .ok template) :
    Token.compile SpanField (source.getD standardSource).toList = .ok template.finite ∧
      Token.compile SignField (infinite.getD standardInfiniteSource).toList =
        .ok template.infinite := by
  obtain ⟨base, hfinite, hstandard, hrest⟩ : ∃ base : SpanTemplate,
      Token.compile SpanField (source.getD standardSource).toList = .ok base.finite ∧
        base.infinite = standard.infinite ∧
          infinite.elim (.ok base) base.withInfinite? = .ok template := by
    cases source with
    | none =>
        obtain ⟨hcompile, hinfinite⟩ := ofString?_eq_ok_iff.1 ofString?_standardSource
        exact ⟨standard, hcompile, hinfinite, by cases infinite <;> exact h⟩
    | some source =>
        obtain ⟨base, hbase, hrest⟩ := exists_of_bind_eq_ok h
        obtain ⟨hcompile, hinfinite⟩ := ofString?_eq_ok_iff.1 hbase
        exact ⟨base, hcompile, hinfinite, by cases infinite <;> exact hrest⟩
  cases infinite with
  | none =>
      obtain rfl : base = template := Except.ok.inj hrest
      rw [hstandard]
      exact ⟨hfinite, (withInfinite?_eq_ok_iff.1 withInfinite?_standardInfiniteSource).1⟩
  | some infinite =>
      obtain ⟨hinfinite, hsame⟩ := withInfinite?_eq_ok_iff.1 hrest
      rw [hsame]
      exact ⟨hfinite, hinfinite⟩

end SpanTemplate

namespace Span

variable {finite : String} {template : SpanTemplate}

/-- A finite span is written as the first text of its template says. -/
theorem format_finite (count : Count)
    (h : Token.compile SpanField finite.toList = .ok template.finite) :
    (Span.finite count).format template =
      String.ofList
        (interpret (Placeholder.span (count.val < 0) count.val.natAbs) finite.toList) :=
  congrArg String.ofList (Token.render_eq_interpret (fun _ _ => SpanField.render_expand? count) h)

theorem format_infinite {infinite : String} (negative : Bool)
    (h : Token.compile SignField infinite.toList = .ok template.infinite) :
    (Span.infinite negative).format template =
      String.ofList (interpret (Placeholder.sign negative) infinite.toList) :=
  congrArg String.ofList
    (Token.render_eq_interpret (fun _ _ => SignField.render_expand? negative) h)

end Span

/-- A template writes what its text says, read from left to right: every character stands for itself,
and every placeholder for what its table tells. For an instant the table is told from the count of
nanoseconds and from the one date whose plain count of days belongs to it, and for a finite span from
its sign and its count without sign. An infinite span is written by the other text of its template, told
from its sign alone. Neither of the two texts has a part in what the other one writes. -/
theorem TemplateText.format_is_direct :
    (∀ t : Instant, let date := t.toDateTime.toDate
      (0 ≤ date.year ∧ date.plainCount = (t.nanos / 86400000000000 : Nat)) ∧
      ∀ (source : String) (template : InstantTemplate),
        InstantTemplate.ofString? source = .ok template →
        t.format template =
          String.ofList (interpret (Placeholder.calendar date t.nanos) source.toList)) ∧
    (∀ (source infinite : Option String) (template : SpanTemplate),
      SpanTemplate.ofOptions? source infinite = .ok template →
      (∀ count : Count, (Span.finite count).format template =
        String.ofList (interpret (Placeholder.span (count.val < 0) count.val.natAbs)
          (source.getD SpanTemplate.standardSource).toList)) ∧
      ∀ negative : Bool, (Span.infinite negative).format template =
        String.ofList (interpret (Placeholder.sign negative)
          (infinite.getD SpanTemplate.standardInfiniteSource).toList)) ∧
    (∀ (source infinite other : Option String) (first second : SpanTemplate),
      SpanTemplate.ofOptions? source infinite = .ok first →
      SpanTemplate.ofOptions? source other = .ok second →
      ∀ count : Count, (Span.finite count).format first = (Span.finite count).format second) ∧
    ∀ (source other infinite : Option String) (first second : SpanTemplate),
      SpanTemplate.ofOptions? source infinite = .ok first →
      SpanTemplate.ofOptions? other infinite = .ok second →
      ∀ negative : Bool,
        (Span.infinite negative).format first = (Span.infinite negative).format second := by
  refine ⟨?_, ?_, ?_, ?_⟩
  · intro t
    have hyear : 0 ≤ t.toDateTime.year := Int.le_trans (by decide) t.year_bounds.1
    refine ⟨⟨hyear, ?_⟩, fun source template h => Instant.format_eq_interpret h t⟩
    rw [← Date.dayNumber_eq_plainCount hyear]
    exact t.dayNumber_toDateTime
  · intro source infinite template h
    obtain ⟨hfinite, hinfinite⟩ := SpanTemplate.compile_of_ofOptions? h
    exact ⟨fun count => Span.format_finite count hfinite,
      fun negative => Span.format_infinite negative hinfinite⟩
  · intro source infinite other first second hfirst hsecond count
    rw [Span.format_finite count (SpanTemplate.compile_of_ofOptions? hfirst).1,
      Span.format_finite count (SpanTemplate.compile_of_ofOptions? hsecond).1]
  · intro source other infinite first second hfirst hsecond negative
    rw [Span.format_infinite negative (SpanTemplate.compile_of_ofOptions? hfirst).2,
      Span.format_infinite negative (SpanTemplate.compile_of_ofOptions? hsecond).2]

/-- The least finite span, one nanosecond longer than any span that is not negative, next to a percent
sign; and the negative infinity by a text of its own. -/
theorem TemplateText.format_is_direct_of_least :
    ∃ template : SpanTemplate,
      SpanTemplate.ofOptions? (some "%+%D%%%T.%3%6%9") (some "%+oo") = .ok template ∧
      (Span.finite ⟨-9223372036854775808, by decide⟩).format template =
        "-106751d %23:47:16.854775808" ∧
      Span.negInfinity.format template = "-oo" := by
  have hfinite : (Token.compile SpanField "%+%D%%%T.%3%6%9".toList).isOk := by cbv
  have hinfinite : (Token.compile SignField "%+oo".toList).isOk := by cbv
  obtain ⟨base, hbase⟩ : ∃ base, SpanTemplate.ofString? "%+%D%%%T.%3%6%9" = .ok base :=
    ⟨_, SpanTemplate.ofString?_eq_ok (Token.ofString?_eq_ofConstant hfinite)⟩
  obtain ⟨template, htemplate⟩ : ∃ template, base.withInfinite? "%+oo" = .ok template :=
    ⟨_, SpanTemplate.withInfinite?_eq_ok (Token.ofString?_eq_ofConstant hinfinite)⟩
  have hoptions :
      SpanTemplate.ofOptions? (some "%+%D%%%T.%3%6%9") (some "%+oo") = .ok template := by
    simp only [SpanTemplate.ofOptions?, hbase]
    exact htemplate
  obtain ⟨hdirect, hinfinity⟩ := format_is_direct.2.1 _ _ _ hoptions
  refine ⟨template, hoptions, ?_, ?_⟩
  · rw [hdirect]
    decide +kernel
  · rw [Span.negInfinity, hinfinity]
    decide +kernel

end UtcTime
