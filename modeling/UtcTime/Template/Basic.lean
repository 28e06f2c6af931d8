/-
Module: UtcTime.Template.Basic
Purpose: Templates for instants and for spans, and the built-in ones.
Trusted boundary: none
Main exports: InstantTemplate, InstantTemplate.ofString?, InstantTemplate.standard,
  InstantTemplate.precise, SpanTemplate, SpanTemplate.ofString?, SpanTemplate.withInfinite?,
  SpanTemplate.standard
-/
import UtcTime.Template.Field

namespace UtcTime

/-- A template for instants. It remembers its text, so two spellings of one format differ. -/
structure InstantTemplate where
  source : String
  tokens : List (Token CalendarField)
deriving DecidableEq

/-- A pair of templates for spans. Only what they compile to counts. -/
structure SpanTemplate where
  finite : List (Token SpanField)
  infinite : List (Token SignField)
deriving DecidableEq

namespace Token

/-- Compiles the text of a template, and names that text in a fault. -/
def ofString? (Field : Type) [Alphabet Field] (source : String) :
    Except Fault (List (Token Field)) :=
  (compile Field source.toList).mapError (.template source)

/-- The tokens of a text that is known to be a template. -/
def ofConstant (Field : Type) [Alphabet Field] (source : String) : List (Token Field) :=
  (ofString? Field source).toOption.getD []

/-- A text that compiles is the template of its constant tokens. -/
theorem ofString?_eq_ofConstant {Field : Type} [Alphabet Field] {source : String}
    (h : (compile Field source.toList).isOk) :
    ofString? Field source = .ok (ofConstant Field source) := by
  cases hcompile : compile Field source.toList with
  | error fault =>
      rw [hcompile] at h
      cases h
  | ok tokens =>
      have hsource : ofString? Field source = .ok tokens := by
        rw [ofString?, hcompile]
        rfl
      rw [ofConstant, hsource]
      rfl

end Token

namespace InstantTemplate

def ofString? (source : String) : Except Fault InstantTemplate := do
  return { source, tokens := ← Token.ofString? CalendarField source }

/-- Milliseconds, as in `2009-02-11T12:53:09.123Z`. -/
def standardSource : String := "%FT%T.%3Z"

/-- Nanoseconds, as in `2009-02-11T12:53:09.123456789Z`. Nothing is lost in this format. -/
def preciseSource : String := "%FT%T.%3%6%9Z"

def standard : InstantTemplate where
  source := standardSource
  tokens := Token.ofConstant CalendarField standardSource

def precise : InstantTemplate where
  source := preciseSource
  tokens := Token.ofConstant CalendarField preciseSource

instance : Inhabited InstantTemplate := ⟨standard⟩

instance : ToString InstantTemplate := ⟨source⟩

/-- A text that compiles is the template of its tokens. -/
theorem ofString?_eq_ok {source : String} {tokens : List (Token CalendarField)}
    (h : Token.ofString? CalendarField source = .ok tokens) :
    ofString? source = .ok { source, tokens } := by
  rw [ofString?, h]
  rfl

/-- The text of the standard template compiles to it. -/
theorem ofString?_standardSource : ofString? standardSource = .ok standard := by
  have hcompile : (Token.compile CalendarField standardSource.toList).isOk := by cbv
  exact ofString?_eq_ok (Token.ofString?_eq_ofConstant hcompile)

/-- The text of the precise template compiles to it. -/
theorem ofString?_preciseSource : ofString? preciseSource = .ok precise := by
  have hcompile : (Token.compile CalendarField preciseSource.toList).isOk := by cbv
  exact ofString?_eq_ok (Token.ofString?_eq_ofConstant hcompile)

end InstantTemplate

namespace SpanTemplate

/-- Days and time of day with nanoseconds, as in `1428d 21:33:09.123456789`. -/
def standardSource : String := "%-%dd %T.%3%6%9"

/-- The word `inf`, after a minus if need be. -/
def standardInfiniteSource : String := "%-inf"

def standard : SpanTemplate where
  finite := Token.ofConstant SpanField standardSource
  infinite := Token.ofConstant SignField standardInfiniteSource

instance : Inhabited SpanTemplate := ⟨standard⟩

/-- The template that writes finite spans in the given way, and infinite ones in the standard way. -/
def ofString? (source : String) : Except Fault SpanTemplate := do
  return { standard with finite := ← Token.ofString? SpanField source }

/-- The template with another way of writing infinite spans. -/
def withInfinite? (template : SpanTemplate) (source : String) : Except Fault SpanTemplate := do
  return { template with infinite := ← Token.ofString? SignField source }

theorem ofString?_eq_ok {source : String} {tokens : List (Token SpanField)}
    (h : Token.ofString? SpanField source = .ok tokens) :
    ofString? source = .ok { standard with finite := tokens } := by
  rw [ofString?, h]
  rfl

/-- A text that compiles replaces the tokens for infinite spans. -/
theorem withInfinite?_eq_ok {template : SpanTemplate} {source : String}
    {tokens : List (Token SignField)} (h : Token.ofString? SignField source = .ok tokens) :
    template.withInfinite? source = .ok { template with infinite := tokens } := by
  rw [withInfinite?, h]
  rfl

theorem ofString?_standardSource : ofString? standardSource = .ok standard := by
  have hcompile : (Token.compile SpanField standardSource.toList).isOk := by cbv
  rw [ofString?_eq_ok (Token.ofString?_eq_ofConstant hcompile), standard]

/-- Setting the standard text for infinite spans changes nothing. -/
theorem withInfinite?_standardInfiniteSource :
    standard.withInfinite? standardInfiniteSource = .ok standard := by
  have hcompile : (Token.compile SignField standardInfiniteSource.toList).isOk := by cbv
  rw [withInfinite?_eq_ok (Token.ofString?_eq_ofConstant hcompile), standard]

end SpanTemplate

end UtcTime
