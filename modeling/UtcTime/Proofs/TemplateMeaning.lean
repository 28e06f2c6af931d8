/-
Module: UtcTime.Proofs.TemplateMeaning
Purpose: What a template writes determines the tokens that it compiles to. Two instants tell all
  tokens apart: at one of them no two fields begin with the same digits, and no field begins with the
  digit that it has at the other. So the first token that differs shows in the text of one of them,
  if the tokens are in normal form. Templates that write the same therefore read the same too.
Trusted boundary: none
Main exports: Instant.telling, Token.SameText, Token.eq_of_sameText,
  InstantTemplate.format_eq_iff_tokens_eq
-/
import UtcTime.Proofs.CompiledTokens
import UtcTime.Proofs.FieldText

namespace UtcTime

/-! ### Two instants that tell fields apart

Fields have different widths and stand side by side without a mark between them. Two instants are
chosen for which the first digits give a field away nevertheless. -/

namespace Instant

/-- 2034-11-12 13:14:15.160170180. Every field begins with two digits of its own. -/
def telling : Instant := ⟨2046950055160170180, by decide⟩

end Instant

namespace CalendarField

/-- The two digits with which the field begins at the telling instant. -/
def tellingDigits : CalendarField → List Char
  | year => ['2', '0']
  | month => ['1', '1']
  | day => ['1', '2']
  | clock .hour => ['1', '3']
  | clock .minute => ['1', '4']
  | clock .second => ['1', '5']
  | clock .milli => ['1', '6']
  | clock .micro => ['1', '7']
  | clock .nano => ['1', '8']

/-- The field that begins with two digits. -/
def ofTellingDigits? : List Char → Option CalendarField
  | ['2', '0'] => some year
  | ['1', '1'] => some month
  | ['1', '2'] => some day
  | ['1', '3'] => some (clock .hour)
  | ['1', '4'] => some (clock .minute)
  | ['1', '5'] => some (clock .second)
  | ['1', '6'] => some (clock .milli)
  | ['1', '7'] => some (clock .micro)
  | ['1', '8'] => some (clock .nano)
  | _ => none

theorem ofTellingDigits?_tellingDigits (f : CalendarField) :
    ofTellingDigits? f.tellingDigits = some f := by
  cases f with
  | clock field => cases field <;> rfl
  | _ => rfl

theorem tellingDigits_injective {f g : CalendarField} (h : f.tellingDigits = g.tellingDigits) :
    f = g := by
  apply Option.some.inj
  rw [← ofTellingDigits?_tellingDigits f, h, ofTellingDigits?_tellingDigits]

theorem two_le_width (f : CalendarField) : 2 ≤ f.width := by
  cases f with
  | clock field => cases field <;> decide
  | _ => decide

theorem take_fieldText_telling (f : CalendarField) :
    (Instant.telling.toDateTime.fieldText f).take 2 = f.tellingDigits := by
  cases f with
  | clock field => cases field <;> decide
  | _ => decide

/-- No field begins with the same digit at both instants. -/
theorem head?_fieldText_ne (f : CalendarField) :
    (Instant.epoch.toDateTime.fieldText f).head? ≠
      (Instant.telling.toDateTime.fieldText f).head? := by
  cases f with
  | clock field => cases field <;> decide
  | _ => decide

end CalendarField

namespace Instant

theorem fieldText_ne_nil (t : Instant) (f : CalendarField) : t.toDateTime.fieldText f ≠ [] := by
  intro hnil
  have hlength := t.length_fieldText f
  rw [hnil] at hlength
  exact Nat.ne_of_lt f.width_pos hlength

end Instant

/-! ### Tokens that write the same

By induction on both lists, with a case for each pair of first tokens. Equal pairs are taken off,
and unequal ones shown to write different texts for one of the two instants. -/

namespace Token

/-- Two lists of tokens write the same text for every instant. -/
def SameText (first second : List (Token CalendarField)) : Prop :=
  ∀ t : Instant, render t.toDateTime.fieldText first = render t.toDateTime.fieldText second

variable {first second tokens : List (Token CalendarField)}

theorem SameText.symm (h : SameText first second) : SameText second first :=
  fun t => (h t).symm

/-- Text that does not begin with a literal does not always begin with the same character. -/
theorem not_forall_head?_render (halone : ∀ chars rest, tokens ≠ .literal chars :: rest)
    (c : Char) : ¬ ∀ t : Instant, (render t.toDateTime.fieldText tokens).head? = some c := by
  intro h
  cases tokens with
  | nil => cases h .epoch
  | cons token tokens =>
      cases token with
      | literal chars => exact halone chars tokens rfl
      | field f =>
          have hhead : ∀ t : Instant, (t.toDateTime.fieldText f).head? = some c := by
            intro t
            rw [← h t]
            exact (List.head?_append_of_ne_nil _ (t.fieldText_ne_nil f)).symm
          exact f.head?_fieldText_ne ((hhead .epoch).trans (hhead .telling).symm)

/-- Tokens in normal form that write nothing are none. -/
theorem eq_nil_of_sameText (hnormal : Normal tokens) (h : SameText [] tokens) : tokens = [] := by
  cases tokens with
  | nil => rfl
  | cons token tokens =>
      have hempty := List.append_eq_nil_iff.1 (h .epoch).symm
      cases token with
      | literal chars => exact absurd hempty.1 (normal_literal_cons.1 hnormal).1
      | field f => exact absurd hempty.1 (Instant.epoch.fieldText_ne_nil f)

/-- Literal text and a field never write the same. -/
theorem not_sameText_literal_field {chars : List Char} {f : CalendarField} (hchars : chars ≠ []) :
    ¬ SameText (.literal chars :: first) (.field f :: second) := by
  intro h
  cases chars with
  | nil => exact hchars rfl
  | cons c chars =>
      apply @not_forall_head?_render (.field f :: second) nofun c
      intro t
      rw [← h t]
      rfl

/-- The first two digits at the telling instant are those of the first field. -/
theorem SameText.field_cons {f g : CalendarField}
    (h : SameText (.field f :: first) (.field g :: second)) : f = g ∧ SameText first second := by
  have htake : ∀ (f : CalendarField) (rest : List Char),
      (Instant.telling.toDateTime.fieldText f ++ rest).take 2 = f.tellingDigits := by
    intro f rest
    rw [List.take_append_of_le_length, f.take_fieldText_telling]
    rw [Instant.length_fieldText]
    exact f.two_le_width
  have hdigits := congrArg (List.take 2) (h .telling)
  obtain rfl : f = g := CalendarField.tellingDigits_injective ((htake f _).symm.trans
    (hdigits.trans (htake g _)))
  exact ⟨rfl, fun t => List.append_cancel_left (h t)⟩

/-- If one literal text is a longer form of the other, then what follows the shorter one always
begins with the same character, which no field does. -/
theorem SameText.eq_of_prefix {chars more : List Char}
    (halone : ∀ chars rest, first ≠ .literal chars :: rest)
    (h : SameText (.literal chars :: first) (.literal more :: second)) (hinitial : chars <+: more) :
    chars = more := by
  obtain ⟨rest, rfl⟩ := hinitial
  have hrest : ∀ t : Instant, render t.toDateTime.fieldText first =
      rest ++ render t.toDateTime.fieldText second := by
    intro t
    have hboth := h t
    rw [render, List.flatMap_cons, List.flatMap_cons, List.append_assoc] at hboth
    exact List.append_cancel_left hboth
  cases rest with
  | nil => exact (List.append_nil chars).symm
  | cons c rest =>
      refine absurd ?_ (not_forall_head?_render halone c)
      intro t
      rw [hrest t]
      rfl

/-- Literal texts in front are the same, since no more literal text stands behind them. -/
theorem SameText.literal_cons {chars more : List Char} (hfirst : Normal (.literal chars :: first))
    (hsecond : Normal (.literal more :: second))
    (h : SameText (.literal chars :: first) (.literal more :: second)) :
    chars = more ∧ SameText first second := by
  have hchars : chars = more := by
    -- Both are prefixes of the text of the epoch.
    have hfront : chars <+: render Instant.epoch.toDateTime.fieldText (.literal more :: second) :=
      ⟨_, h .epoch⟩
    rcases List.prefix_or_prefix_of_prefix hfront ⟨_, rfl⟩ with hinitial | hinitial
    · exact h.eq_of_prefix (normal_literal_cons.1 hfirst).2.1 hinitial
    · exact (h.symm.eq_of_prefix (normal_literal_cons.1 hsecond).2.1 hinitial).symm
  subst hchars
  exact ⟨rfl, fun t => List.append_cancel_left (h t)⟩

/-- Tokens in normal form are determined by what they write. -/
theorem eq_of_sameText (hfirst : Normal first) (hsecond : Normal second)
    (h : SameText first second) : first = second := by
  induction first generalizing second with
  | nil => exact (eq_nil_of_sameText hsecond h).symm
  | cons token first ih =>
      cases second with
      | nil => exact eq_nil_of_sameText hfirst h.symm
      | cons next second =>
          cases token with
          | field f =>
              cases next with
              | field g =>
                  obtain ⟨rfl, hrest⟩ := h.field_cons
                  rw [ih (normal_field_cons.1 hfirst) (normal_field_cons.1 hsecond) hrest]
              | literal more =>
                  have hmore := (normal_literal_cons.1 hsecond).1
                  exact absurd h.symm (not_sameText_literal_field hmore)
          | literal chars =>
              obtain ⟨hchars, -, hnormal⟩ := normal_literal_cons.1 hfirst
              cases next with
              | field g => exact absurd h (not_sameText_literal_field hchars)
              | literal more =>
                  obtain ⟨rfl, hrest⟩ := h.literal_cons hfirst hsecond
                  rw [ih hnormal (normal_literal_cons.1 hsecond).2.2 hrest]

end Token

/-! ### Templates that write the same

The result is carried over from tokens to templates, which remember their text besides. -/

namespace InstantTemplate

/-- A text is compiled to the template with its tokens, which remembers it. -/
theorem ofString?_eq_ok_iff {source : String} {template : InstantTemplate} :
    ofString? source = .ok template ↔
      Token.compile CalendarField source.toList = .ok template.tokens ∧
        template.source = source := by
  rw [← Token.ofString?_eq_ok_iff, ofString?]
  cases template with
  | mk text tokens =>
      cases Token.ofString? CalendarField source with
      | error fault => simp
      | ok other =>
          constructor
          · intro h
            cases h
            exact ⟨rfl, rfl⟩
          · rintro ⟨htokens, rfl⟩
            cases htokens
            rfl

/-- The tokens of a template are in normal form. -/
theorem normal_of_ofString? {source : String} {template : InstantTemplate}
    (h : ofString? source = .ok template) : Token.Normal template.tokens :=
  Token.normal_of_compile (ofString?_eq_ok_iff.1 h).1

theorem sameText_iff {first second : InstantTemplate} :
    (∀ t : Instant, t.format first = t.format second) ↔
      Token.SameText first.tokens second.tokens :=
  forall_congr' fun _ => String.ofList_inj

/-- Reading looks at nothing of a template but its tokens. -/
theorem read?_eq_of_tokens_eq {first second : InstantTemplate} (h : first.tokens = second.tokens)
    (input : String) : first.read? input = second.read? input := by
  rw [read?, read?, h]

/-- Templates write the same for every instant exactly if they have the same tokens, however they
were spelt. So templates that write the same read every text the same way, and refuse it for the same
reason at the same place. -/
theorem format_eq_iff_tokens_eq {source other : String} {first second : InstantTemplate}
    (hfirst : ofString? source = .ok first) (hsecond : ofString? other = .ok second) :
    ((∀ t : Instant, t.format first = t.format second) ↔ first.tokens = second.tokens) ∧
      ((∀ t : Instant, t.format first = t.format second) →
        ∀ input : String, first.read? input = second.read? input) := by
  have htokens : (∀ t : Instant, t.format first = t.format second) →
      first.tokens = second.tokens := fun h =>
    Token.eq_of_sameText (normal_of_ofString? hfirst) (normal_of_ofString? hsecond)
      (sameText_iff.1 h)
  refine ⟨⟨htokens, ?_⟩, fun h => read?_eq_of_tokens_eq (htokens h)⟩
  intro h t
  rw [Instant.format, Instant.format, h]

/-- The standard template, spelt with a placeholder for each field. -/
theorem format_eq_iff_tokens_eq_of_spelling :
    ∃ first second : InstantTemplate, ofString? "%FT%T.%3Z" = .ok first ∧
      ofString? "%Y-%m-%dT%H:%M:%S.%3Z" = .ok second ∧ first.source ≠ second.source ∧
        (∀ t : Instant, t.format first = t.format second) ∧ first.tokens = second.tokens ∧
        ∀ input : String, first.read? input = second.read? input := by
  have hcompile : (Token.compile CalendarField "%Y-%m-%dT%H:%M:%S.%3Z".toList).isOk := by cbv
  obtain ⟨second, hsecond, hsource, htokens⟩ : ∃ second : InstantTemplate,
      ofString? "%Y-%m-%dT%H:%M:%S.%3Z" = .ok second ∧ standard.source ≠ second.source ∧
        standard.tokens = second.tokens :=
    ⟨_, ofString?_eq_ok (Token.ofString?_eq_ofConstant hcompile), by decide, by cbv⟩
  obtain ⟨hmeaning, hread⟩ := format_eq_iff_tokens_eq ofString?_standardSource hsecond
  have hformat := hmeaning.2 htokens
  exact ⟨_, second, ofString?_standardSource, hsecond, hsource, hformat, htokens, hread hformat⟩

end InstantTemplate

end UtcTime
