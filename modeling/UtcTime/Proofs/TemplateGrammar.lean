/-
Module: UtcTime.Proofs.TemplateGrammar
Purpose: The grammar of each kind of template. A kind has its own placeholders and accepts the text
  that is well formed with them. The compilers of the kinds have fields of different types; read as
  fields of one type they are one compiler, whose table tells what each kind may hold.
Trusted boundary: none
Main exports: TemplateKind, TemplateKind.placeholders, AnyField, TemplateKind.Has,
  TemplateKind.isPlaceholder_iff, TemplateKind.compile_alphabet, TemplateKind.ofString?_is_grammar
-/
import UtcTime.Proofs.CompiledTokens

namespace UtcTime

/-! ### Alphabets as lists of characters

The characters that each alphabet has an expansion for. The wider alphabets look up the narrower
ones for what they do not define themselves. -/

/-- The characters that name the time of day, all of it or one field. -/
theorem ClockField.isSome_expand?_iff (x : Char) :
    (@Alphabet.expand? ClockField _ x).isSome ↔ x ∈ ['H', 'M', 'S', 'T', '3', '6', '9'] := by
  simp only [Alphabet.expand?]
  split <;> simp_all

theorem SignField.isSome_expand?_iff (x : Char) :
    (@Alphabet.expand? SignField _ x).isSome ↔ x ∈ ['+', '-'] := by
  simp only [Alphabet.expand?]
  split <;> simp_all

theorem CalendarField.isSome_expand?_iff (x : Char) :
    (@Alphabet.expand? CalendarField _ x).isSome ↔
      x ∈ ['Y', 'm', 'd', 'F', 'H', 'M', 'S', 'T', '3', '6', '9'] := by
  rw [Alphabet.expand?, CalendarField.instAlphabet]
  dsimp only
  split
  case h_5 =>
    rw [Option.isSome_map, ClockField.isSome_expand?_iff]
    simp_all
  all_goals simp

theorem SpanField.isSome_expand?_iff (x : Char) :
    (@Alphabet.expand? SpanField _ x).isSome ↔
      x ∈ ['+', '-', 'd', 'D', 'H', 'M', 'S', 'T', '3', '6', '9'] := by
  have hsign := SignField.isSome_expand?_iff x
  rw [Alphabet.expand?, SpanField.instAlphabet]
  dsimp only
  split
  case h_3 =>
    -- Signs are looked up before clock fields, and the two have no character in common.
    split
    · next expansion h =>
        rw [h] at hsign
        have hmem : x ∈ ['+', '-'] := hsign.1 rfl
        exact iff_of_true rfl (List.mem_append_left _ hmem)
    · next h =>
        rw [h] at hsign
        rw [Option.isSome_map, ClockField.isSome_expand?_iff]
        simp_all
  all_goals simp

/-! ### Kinds of template

The three kinds have fields of their own types. They are gathered here so that what holds of all is
stated once. -/

/-- What a template writes. -/
inductive TemplateKind where
  | instant
  | finiteSpan
  | infiniteSpan
deriving DecidableEq, Repr

/-- A field of a template of any kind. -/
inductive AnyField where
  | year
  | month
  | day
  | clock (field : ClockField)
  | sign (field : SignField)
  | days
  | daysIfAny
deriving DecidableEq, Repr

namespace TemplateKind

/-- The fields that a template of the kind can name. -/
def Field : TemplateKind → Type
  | instant => CalendarField
  | finiteSpan => SpanField
  | infiniteSpan => SignField

instance : (kind : TemplateKind) → Alphabet kind.Field
  | instant => inferInstanceAs (Alphabet CalendarField)
  | finiteSpan => inferInstanceAs (Alphabet SpanField)
  | infiniteSpan => inferInstanceAs (Alphabet SignField)

instance : (kind : TemplateKind) → LawfulAlphabet kind.Field
  | instant => inferInstanceAs (LawfulAlphabet CalendarField)
  | finiteSpan => inferInstanceAs (LawfulAlphabet SpanField)
  | infiniteSpan => inferInstanceAs (LawfulAlphabet SignField)

/-- The characters that stand for fields after a percent sign. -/
def fieldNames : TemplateKind → List Char
  | instant => ['Y', 'm', 'd', 'F', 'H', 'M', 'S', 'T', '3', '6', '9']
  | finiteSpan => ['+', '-', 'd', 'D', 'H', 'M', 'S', 'T', '3', '6', '9']
  | infiniteSpan => ['+', '-']

/-- The characters that may follow a percent sign. -/
def placeholders (kind : TemplateKind) : List Char :=
  kind.fieldNames ++ ['%']

/-- The alphabet of a kind has the characters of its list. -/
theorem isSome_expand?_iff (kind : TemplateKind) (x : Char) :
    (@Alphabet.expand? kind.Field _ x).isSome ↔ x ∈ kind.fieldNames := by
  cases kind with
  | instant => exact CalendarField.isSome_expand?_iff x
  | finiteSpan => exact SpanField.isSome_expand?_iff x
  | infiniteSpan => exact SignField.isSome_expand?_iff x

/-- The doubled percent sign is a placeholder of every kind, next to those that name fields. -/
theorem isPlaceholder_iff (kind : TemplateKind) (x : Char) :
    Token.IsPlaceholder kind.Field x ↔ x ∈ kind.placeholders := by
  rw [Token.isPlaceholder_iff, isSome_expand?_iff, placeholders, List.mem_append,
    List.mem_singleton]
  exact or_comm

/-- The placeholders of a kind are those of its list. -/
theorem isPlaceholder_eq (kind : TemplateKind) :
    Token.IsPlaceholder kind.Field = (· ∈ kind.placeholders) :=
  funext fun x => propext (kind.isPlaceholder_iff x)

/-! ### One table for all kinds

Fields of the three types are read as fields of one type. One table then says what each placeholder
stands for in each kind, and compiling by it gives the same tokens. -/

/-- A field of the kind as one of all fields. -/
def widen : (kind : TemplateKind) → kind.Field → AnyField
  | instant => fun (f : CalendarField) =>
      match f with
      | .year => .year
      | .month => .month
      | .day => .day
      | .clock f => .clock f
  | finiteSpan => fun (f : SpanField) =>
      match f with
      | .sign f => .sign f
      | .days => .days
      | .daysIfAny => .daysIfAny
      | .clock f => .clock f
  | infiniteSpan => .sign

/-- Whether a template of the kind can show the field. -/
def Has : TemplateKind → AnyField → Prop
  | instant, .year | instant, .month | instant, .day | instant, .clock _ => True
  | finiteSpan, .sign _ | finiteSpan, .days | finiteSpan, .daysIfAny | finiteSpan, .clock _ => True
  | infiniteSpan, .sign _ => True
  | _, _ => False

theorem has_widen (kind : TemplateKind) (f : kind.Field) : kind.Has (kind.widen f) := by
  cases kind with
  | instant => cases f <;> trivial
  | finiteSpan => cases f <;> trivial
  | infiniteSpan => trivial

/-- What each placeholder stands for in each kind of template. -/
def expand? : TemplateKind → Char → Option (List (Token AnyField))
  | instant, 'H' | finiteSpan, 'H' => some [.field (.clock .hour)]
  | instant, 'M' | finiteSpan, 'M' => some [.field (.clock .minute)]
  | instant, 'S' | finiteSpan, 'S' => some [.field (.clock .second)]
  | instant, 'T' | finiteSpan, 'T' =>
      some [.field (.clock .hour), .literal [':'], .field (.clock .minute), .literal [':'],
        .field (.clock .second)]
  | instant, '3' | finiteSpan, '3' => some [.field (.clock .milli)]
  | instant, '6' | finiteSpan, '6' => some [.field (.clock .micro)]
  | instant, '9' | finiteSpan, '9' => some [.field (.clock .nano)]
  | instant, 'Y' => some [.field .year]
  | instant, 'm' => some [.field .month]
  | instant, 'd' => some [.field .day]
  | instant, 'F' => some [.field .year, .literal ['-'], .field .month, .literal ['-'], .field .day]
  | finiteSpan, 'd' => some [.field .days]
  | finiteSpan, 'D' => some [.field .daysIfAny]
  | finiteSpan, '+' | infiniteSpan, '+' => some [.field (.sign .always)]
  | finiteSpan, '-' | infiniteSpan, '-' => some [.field (.sign .ifNegative)]
  | _, _ => none

/-- The alphabet of a kind among the fields of all kinds. -/
@[reducible] def alphabet (kind : TemplateKind) : Alphabet AnyField := ⟨kind.expand?⟩

/-- The table and the alphabet of a kind agree. -/
theorem expand?_eq (kind : TemplateKind) (x : Char) :
    kind.expand? x =
      (@Alphabet.expand? kind.Field _ x).map (List.map (Token.lift kind.widen)) := by
  have hnames := kind.isSome_expand?_iff x
  unfold expand?
  split
  case h_25 =>
    -- The last row of the table: the character names no field of the kind.
    have hx : x ∉ kind.fieldNames := by
      cases kind <;> simp_all [fieldNames]
    rw [← hnames, Option.not_isSome_iff_eq_none] at hx
    rw [hx]
    rfl
  all_goals rfl

/-- Compiling by the one table gives the tokens of the kind, read as tokens of all kinds. -/
theorem compile_alphabet (kind : TemplateKind) (text : List Char) :
    @Token.compile AnyField kind.alphabet text =
      (Token.compile kind.Field text).map (List.map (Token.lift kind.widen)) :=
  @Token.compile_eq_map_lift _ _ kind.widen _ kind.alphabet kind.expand?_eq text

/-- No field of another kind is among the tokens of a kind. -/
theorem has_of_field_mem {kind : TemplateKind} {tokens : List (Token kind.Field)} {f : AnyField}
    (h : .field f ∈ tokens.map (Token.lift kind.widen)) : kind.Has f := by
  obtain ⟨token, -, htoken⟩ := List.mem_map.1 h
  cases token with
  | literal chars => cases htoken
  | field g =>
      cases htoken
      exact kind.has_widen g

/-! ### Templates from their text

All that the grammar says of a kind, put together. -/

/-- Each kind of template accepts its grammar and nothing else. A text is compiled exactly if it is
well formed with the placeholders of the kind, which are listed first. Otherwise the fault holds the
text unchanged, and the first place where it stops being well formed. The tokens of a template are in
normal form; they are those that the one table for all kinds gives, and every field among them is one
of the kind, so that no writer or reader meets a field it does not know. Two templates written one
after the other are the template of the joined tokens. -/
theorem ofString?_is_grammar (kind : TemplateKind) (source : String) :
    (kind.placeholders = match kind with
      | instant => ['Y', 'm', 'd', 'F', 'H', 'M', 'S', 'T', '3', '6', '9', '%']
      | finiteSpan => ['+', '-', 'd', 'D', 'H', 'M', 'S', 'T', '3', '6', '9', '%']
      | infiniteSpan => ['+', '-', '%']) ∧
    ((∃ tokens, Token.ofString? kind.Field source = .ok tokens) ↔
      TemplateText.WellFormed (· ∈ kind.placeholders) source.toList) ∧
    (∀ fault : Fault, Token.ofString? kind.Field source = .error fault ↔
      ∃ cause, TemplateText.FirstFault (· ∈ kind.placeholders) source.toList cause ∧
        fault = .template source cause) ∧
    (TemplateFault.trailingPercent.message = "pattern ends with '%'" ∧
      ∀ x : Char, (TemplateFault.unknownPlaceholder x).message =
        "unknown placeholder '%" ++ toString x ++ "'") ∧
    (∀ tokens, Token.ofString? kind.Field source = .ok tokens →
      Token.Normal tokens ∧
      @Token.ofString? AnyField kind.alphabet source =
        .ok (tokens.map (Token.lift kind.widen)) ∧
      ∀ f, .field f ∈ tokens.map (Token.lift kind.widen) → kind.Has f) ∧
    ∀ (other : String) (tokens more : List (Token kind.Field)),
      Token.ofString? kind.Field source = .ok tokens →
      Token.ofString? kind.Field other = .ok more →
      Token.ofString? kind.Field (source ++ other) = .ok (Token.join tokens more) := by
  rw [← kind.isPlaceholder_eq]
  refine ⟨?_, ?_, ?_, ⟨rfl, ?_⟩, ?_, ?_⟩
  · cases kind <;> rfl
  · rw [← Token.exists_compile_eq_ok_iff]
    exact exists_congr fun _ => Token.ofString?_eq_ok_iff
  · intro fault
    rw [Token.ofString?_eq_error_iff]
    exact exists_congr fun _ => and_congr_left' Token.compile_eq_error_iff
  · intro x
    rfl
  · intro tokens htokens
    have hcompile := Token.ofString?_eq_ok_iff.1 htokens
    refine ⟨Token.normal_of_compile hcompile, ?_, fun _ => has_of_field_mem⟩
    rw [Token.ofString?, compile_alphabet, hcompile]
    rfl
  · intro other tokens more htokens hmore
    rw [Token.ofString?_eq_ok_iff] at htokens hmore ⊢
    rw [String.toList_append, Token.compile_append htokens, hmore]
    rfl

end TemplateKind

end UtcTime
