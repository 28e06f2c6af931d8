/-
Module: UtcTime.Proofs.FormatAfterRead
Purpose: What becomes of a text that is read by a template and written by it again. Every token is
  written where it was read, so literal text and the last token of each field come back as they
  were. Only an earlier token of a field that occurs again is overwritten, by the later one. Where no
  field occurs twice, the text itself comes back, so there is one text for each instant.
Trusted boundary: none
Main exports: Token.text, Token.slice_of_render, Token.eq_of_slices, InstantTemplate.NamesOnce,
  InstantTemplate.Rewrites, InstantTemplate.Accepts.fieldValue, InstantTemplate.format_after_read
-/
import UtcTime.Proofs.ReadAfterFormat

namespace UtcTime

namespace Text

variable {input : List UInt8} {place width : Nat}

/-- A numeral is written as the digits that it was read from. -/
theorem bytes_padded_numeral (hwidth : 0 < width) (h : HasDigits input place width) :
    bytes (padded width (numeral input place width)) = slice input place width := by
  obtain ⟨digits, hbytes, hall⟩ := exists_digits h.2
  have hlength : digits.length = width := by
    rw [← byteLength_of_digits hall, ← length_bytes, hbytes, h.1]
  have hnumeral : numeral input place width = Nat.ofDigitChars 10 digits 0 := by
    rw [numeral, ← hbytes]
    exact foldl_bytes_of_digits hall 0
  rw [hnumeral, ← hbytes, ← hlength, padded_ofDigitChars (by rwa [hlength]) hall]

end Text

/-! ### Tokens at their places

What is written for a token stands at the place of the token, whatever the values of the fields are.
So two texts by the same tokens can be compared token by token. -/

namespace Token

/-- The text of one token, given the text of each field. -/
def text {Field : Type} (fieldText : Field → List Char) : Token Field → List Char
  | .literal chars => chars
  | .field f => fieldText f

theorem render_cons {Field : Type} (fieldText : Field → List Char) (token : Token Field)
    (tokens : List (Token Field)) :
    render fieldText (token :: tokens) = token.text fieldText ++ render fieldText tokens := by
  cases token <;> rfl

variable {input second : List UInt8} {start : Nat} {tokens : List (Token CalendarField)}

/-- A token of an instant takes as many bytes as it is wide. -/
theorem byteLength_text (t : Instant) (token : Token CalendarField) :
    Text.byteLength (token.text t.toDateTime.fieldText) = token.width := by
  cases token with
  | literal chars => rfl
  | field f => exact t.byteLength_fieldText f

/-- In the text that tokens make of an instant, each of them stands at its place. -/
theorem slice_of_render {t : Instant}
    (h : Text.Follows input start (render t.toDateTime.fieldText tokens)) {i : Nat}
    {token : Token CalendarField} (hi : tokens[i]? = some token) :
    Text.slice input (offset start tokens i) token.width =
      Text.bytes (token.text t.toDateTime.fieldText) := by
  induction tokens generalizing start i with
  | nil => simp at hi
  | cons first tokens ih =>
      rw [render_cons] at h
      cases i with
      | zero =>
          cases hi
          rw [offset_zero, ← byteLength_text t, h.slice_eq_bytes_iff]
          exact List.prefix_append _ _
      | succ i =>
          have hrest := h.advance
          rw [byteLength_text] at hrest
          rw [offset_cons_succ]
          exact ih hrest hi

/-- A field that occurs has a last occurrence. -/
theorem exists_lastIndex? {f : CalendarField} {i : Nat} (hi : tokens[i]? = some (.field f)) :
    ∃ last, lastIndex? tokens f = some last ∧ tokens[last]? = some (.field f) := by
  have hlt : i < tokens.length := (List.getElem?_eq_some_iff.1 hi).1
  cases hlast : lastIndex? tokens f with
  | none =>
      have hnone := List.find?_eq_none.1 hlast i (by simp [hlt])
      simp [hi] at hnone
  | some last =>
      have hfound := List.find?_some hlast
      exact ⟨last, rfl, by simpa using hfound⟩

/-- A field that does not occur keeps the value that it has without a token. -/
theorem valueIn_of_not_mem {absent : CalendarField → Nat} {f : CalendarField}
    (h : .field f ∉ tokens) : valueIn input start tokens absent f = absent f := by
  cases hlast : lastIndex? tokens f with
  | none => simp only [valueIn, hlast]
  | some last =>
      have hfound := List.find?_some hlast
      have hmem : tokens[last]? = some (.field f) := by simpa using hfound
      exact absurd (List.mem_of_getElem? hmem) h

/-- Two inputs that end with the tokens and agree at the place of each of them are the same from the
first token on. -/
theorem eq_of_slices (hlength : input.length = offset start tokens tokens.length)
    (hlength' : second.length = offset start tokens tokens.length)
    (h : ∀ (i : Nat) (token : Token CalendarField), tokens[i]? = some token →
      Text.slice input (offset start tokens i) token.width =
        Text.slice second (offset start tokens i) token.width) :
    input.drop start = second.drop start := by
  induction tokens generalizing start with
  | nil =>
      rw [List.length_nil, offset_zero] at hlength hlength'
      rw [← hlength, List.drop_length, hlength, ← hlength', List.drop_length]
  | cons first tokens ih =>
      rw [List.length_cons, offset_cons_succ] at hlength hlength'
      have hfirst := h 0 first rfl
      rw [offset_zero] at hfirst
      have hrest : input.drop (start + first.width) = second.drop (start + first.width) := by
        apply ih hlength hlength'
        intro i token hi
        have hnext := h (i + 1) token hi
        rwa [offset_cons_succ] at hnext
      calc input.drop start
          = Text.slice input start first.width ++ input.drop (start + first.width) := by
            rw [Text.slice, ← List.drop_drop, List.take_append_drop]
        _ = Text.slice second start first.width ++ second.drop (start + first.width) := by
            rw [hfirst, hrest]
        _ = second.drop start := by
            rw [Text.slice, ← List.drop_drop, List.take_append_drop]

end Token

namespace InstantTemplate

/-- No field occurs twice among the tokens. -/
def NamesOnce (template : InstantTemplate) : Prop :=
  ∀ (f : CalendarField) (i j : Nat), template.tokens[i]? = some (.field f) →
    template.tokens[j]? = some (.field f) → i = j

/-- The bytes of a text that stand at the place of a token. -/
def slice (template : InstantTemplate) (text : String) (i width : Nat) : List UInt8 :=
  Text.slice (Text.bytes text.toList) (Token.offset 0 template.tokens i) width

/-- How the text that is written differs from the one that was read: it has the same length in bytes
and the same literal text, the last token of a field is the same, and an earlier one repeats it. -/
structure Rewrites (template : InstantTemplate) (input output : String) : Prop where
  utf8ByteSize : output.utf8ByteSize = input.utf8ByteSize
  literal : ∀ (i : Nat) (chars : List Char), template.tokens[i]? = some (.literal chars) →
    template.slice output i (Text.byteLength chars) =
      template.slice input i (Text.byteLength chars)
  last : ∀ (f : CalendarField) (j : Nat), Token.lastIndex? template.tokens f = some j →
    template.slice output j f.width = template.slice input j f.width
  earlier : ∀ (f : CalendarField) (i j : Nat), template.tokens[i]? = some (.field f) →
    Token.lastIndex? template.tokens f = some j →
    template.slice output i f.width = template.slice input j f.width

variable {template : InstantTemplate} {input : String} {t : Instant}

/-- An accepted text gives the fields of its instant. -/
theorem Accepts.fieldValue (h : template.Accepts input t) :
    t.toDateTime.fieldValue = template.valueIn input := by
  obtain ⟨-, -, time, hfields, -, hnanos⟩ := h
  have htime : t.toDateTime = time := by
    rw [Instant.toDateTime, hnanos, DateTime.ofEpochNanos_epochNanos]
  rw [htime, hfields.fieldValue]

/-- The values that a text gives do not change when it is written again: a field that is not named
has its value at the epoch both times. -/
theorem Accepts.valueIn_format (h : template.Accepts input t) :
    template.valueIn (t.format template) = template.valueIn input := by
  rw [(conforms_format template t).2]
  funext f
  by_cases hf : template.Names f
  · rw [shown_of_names hf, h.fieldValue]
  · rw [shown_of_not_names hf, valueIn, Token.valueIn_of_not_mem hf]

/-- The instant of a text is read back from what is written for it. -/
theorem Accepts.format (h : template.Accepts input t) :
    template.Accepts (t.format template) t := by
  have hvalues := h.valueIn_format
  obtain ⟨-, hdate, time, hfields, hrange, hnanos⟩ := h
  refine ⟨(conforms_format template t).1, ?_, time, ?_, hrange, hnanos⟩
  · rwa [HasDate, hvalues]
  · rwa [hvalues]

/-- What is written for an instant has the text of each token at its place. -/
theorem slice_format {i : Nat} {token : Token CalendarField}
    (hi : template.tokens[i]? = some token) :
    template.slice (t.format template) i token.width =
      Text.bytes (token.text t.toDateTime.fieldText) := by
  have htext : (t.format template).toList =
      Token.render t.toDateTime.fieldText template.tokens := String.toList_ofList
  rw [slice, htext]
  exact Token.slice_of_render (Text.follows_zero _) hi

/-- A field is written with the digits of its last token. -/
theorem Accepts.slice_field (h : template.Accepts input t) {f : CalendarField} {i last : Nat}
    (hi : template.tokens[i]? = some (.field f))
    (hlast : Token.lastIndex? template.tokens f = some last) :
    template.slice (t.format template) i f.width = template.slice input last f.width := by
  have hfound : template.tokens[last]? = some (.field f) := by
    simpa using List.find?_some hlast
  have hdigits := (h.1.fit last (.field f) hfound).1
  have hvalue : t.toDateTime.fieldValue f =
      Text.numeral (Text.bytes input.toList) (Token.offset 0 template.tokens last) f.width := by
    rw [h.fieldValue, valueIn, Token.valueIn, hlast]
  have hslice := slice_format (t := t) hi
  rw [Token.text, DateTime.fieldText, hvalue, Text.bytes_padded_numeral f.width_pos hdigits]
    at hslice
  exact hslice

theorem Accepts.rewrites (h : template.Accepts input t) :
    template.Rewrites input (t.format template) where
  utf8ByteSize := by
    have hlength := (conforms_format template t).1.length.trans h.1.length.symm
    rwa [Text.bytes_toList, Text.bytes_toList] at hlength
  literal i chars hi := (slice_format hi).trans (h.1.fit i (.literal chars) hi).symm
  last _ _ hlast := h.slice_field (by simpa using List.find?_some hlast) hlast
  earlier _ _ _ := h.slice_field

/-- Without repeated fields the text itself is written again. -/
theorem Accepts.format_eq (h : template.Accepts input t) (honce : template.NamesOnce) :
    t.format template = input := by
  have hlength := (conforms_format template t).1.length
  have hbytes : Text.bytes (t.format template).toList = Text.bytes input.toList := by
    refine Token.eq_of_slices hlength h.1.length ?_
    intro i token hi
    cases token with
    | literal chars => exact h.rewrites.literal i chars hi
    | field f =>
        obtain ⟨last, hlast, hfound⟩ := Token.exists_lastIndex? hi
        obtain rfl := honce f i last hi hfound
        exact h.rewrites.last f i hlast
  exact String.toList_inj.1 (Text.bytes_injective hbytes)

/-- A text that is read as an instant differs from what the template writes of it only where a field
occurs again later: the new text is as long, agrees in all literal text and in the last token of
every field, has that token in the place of every earlier one, and is read as the same instant. If no
field occurs twice, it is the text that was read, and no other text is read as this instant. -/
theorem format_after_read (template : InstantTemplate) (input : String) (t : Instant)
    (h : template.read? input = .ok t) :
    template.Rewrites input (t.format template) ∧
    template.read? (t.format template) = .ok t ∧
    (template.NamesOnce → t.format template = input ∧
      ∀ other : String, template.read? other = .ok t → other = input) := by
  have haccepts := read?_eq_ok_iff.1 h
  refine ⟨haccepts.rewrites, haccepts.format.read?_eq, ?_⟩
  intro honce
  have hformat := haccepts.format_eq honce
  refine ⟨hformat, ?_⟩
  intro other hother
  have hsame := (read?_eq_ok_iff.1 hother).format_eq honce
  rw [← hsame, hformat]

/-- The day of the month, written twice. -/
def dayTwice : InstantTemplate := ⟨"%d.%d", [.field .day, .literal ['.'], .field .day]⟩

/-- The month and the day of the month. -/
def monthAndDay : InstantTemplate := ⟨"%m-%d", [.field .month, .literal ['-'], .field .day]⟩

/-- Of two days in one text the later counts, and takes the place of the earlier when the text is
written again; a month and a day come back as they were, from no other text. -/
theorem format_after_read_of_days :
    (dayTwice.read? "31.07" = .ok ⟨518400000000000, by decide⟩ ∧
      dayTwice.Rewrites "31.07" "07.07" ∧
      dayTwice.read? "07.07" = .ok ⟨518400000000000, by decide⟩) ∧
    monthAndDay.read? "02-28" = .ok ⟨5011200000000000, by decide⟩ ∧ monthAndDay.NamesOnce ∧
    ∀ other : String,
      monthAndDay.read? other = .ok ⟨5011200000000000, by decide⟩ → other = "02-28" := by
  have htwice : dayTwice.read? "31.07" = .ok ⟨518400000000000, by decide⟩ := by decide
  have hdate : monthAndDay.read? "02-28" = .ok ⟨5011200000000000, by decide⟩ := by decide
  have honce : monthAndDay.NamesOnce := by
    intro f i j hi hj
    simp only [monthAndDay, List.getElem?_cons] at hi hj
    grind
  have hformat : Instant.format ⟨518400000000000, by decide⟩ dayTwice = "07.07" := by decide
  obtain ⟨hrewrites, hread, -⟩ := format_after_read _ _ _ htwice
  rw [hformat] at hrewrites hread
  exact ⟨⟨htwice, hrewrites, hread⟩, hdate, honce,
    ((format_after_read _ _ _ hdate).2.2 honce).2⟩

end InstantTemplate

end UtcTime
