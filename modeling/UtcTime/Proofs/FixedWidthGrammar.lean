/-
Module: UtcTime.Proofs.FixedWidthGrammar
Purpose: What a template accepts, said without a reader. Every token has a fixed width in bytes, so
  its place is known before anything is read, and whether it fits there can be asked of each token
  alone. Reading succeeds exactly on the texts in which every token fits, and otherwise reports the
  first thing that is wrong.
Trusted boundary: none
Main exports: Token.offset, Token.Fits, Token.Fails, Token.lastIndex?, Token.valueIn,
  InstantTemplate.Conforms, InstantTemplate.Accepts, InstantTemplate.FirstFault,
  InstantTemplate.read?_is_fixed_width
-/
import Mathlib.Data.List.Basic
import UtcTime.Proofs.EpochTime
import UtcTime.Proofs.FieldValues
import UtcTime.Proofs.TextBytes
import UtcTime.Template.Text

namespace UtcTime

namespace Token

/-- The number of bytes that a token takes. -/
def width : Token CalendarField → Nat
  | .literal chars => Text.byteLength chars
  | .field f => f.width

/-- The place of a token in a list that begins at `start`: the tokens before it take up the bytes
in between. -/
def offset (start : Nat) (tokens : List (Token CalendarField)) (i : Nat) : Nat :=
  start + ((tokens.take i).map width).sum

/-- A token fits the bytes at its place: literal text is there, or digits whose value is within the
bounds of the field. -/
def Fits (input : List UInt8) (place : Nat) : Token CalendarField → Prop
  | .literal chars => Text.slice input place (Text.byteLength chars) = Text.bytes chars
  | .field f =>
      Text.HasDigits input place f.width ∧
        f.least ≤ Text.numeral input place f.width ∧ Text.numeral input place f.width ≤ f.greatest

/-- What is wrong with a token that does not fit. Missing digits come before a value out of
bounds. -/
inductive Fails (input : List UInt8) (place : Nat) : Token CalendarField → ReadingFault → Prop where
  | literal {chars : List Char}
      (differs : Text.slice input place (Text.byteLength chars) ≠ Text.bytes chars) :
      Fails input place (.literal chars) (.expectedLiteral (String.ofList chars) place)
  | digits {f : CalendarField} (missing : ¬ Text.HasDigits input place f.width) :
      Fails input place (.field f) (.expectedDigits f.width place)
  | bounds {f : CalendarField} (present : Text.HasDigits input place f.width)
      (outside : ¬ (f.least ≤ Text.numeral input place f.width ∧
        Text.numeral input place f.width ≤ f.greatest)) :
      Fails input place (.field f)
        (.outsideBounds (Text.numeral input place f.width) place f.least f.greatest)

/-- Every token of a list that begins at `start` fits. -/
def AllFit (input : List UInt8) (start : Nat) (tokens : List (Token CalendarField)) : Prop :=
  ∀ (i : Nat) (token : Token CalendarField), tokens[i]? = some token →
    token.Fits input (offset start tokens i)

/-- The first token that does not fit has this fault. -/
def FailsFirst (input : List UInt8) (start : Nat) (tokens : List (Token CalendarField))
    (fault : ReadingFault) : Prop :=
  ∃ (i : Nat) (token : Token CalendarField), tokens[i]? = some token ∧
    token.Fails input (offset start tokens i) fault ∧
    ∀ j < i, ∀ earlier : Token CalendarField, tokens[j]? = some earlier →
      earlier.Fits input (offset start tokens j)

/-- The index of the last token that names a field. -/
def lastIndex? (tokens : List (Token CalendarField)) (f : CalendarField) : Option Nat :=
  (List.range tokens.length).reverse.find? fun i => tokens[i]? = some (.field f)

/-- The value that the bytes give to a field: that of the last token that names it, or else the one
it has without a token. -/
def valueIn (input : List UInt8) (start : Nat) (tokens : List (Token CalendarField))
    (absent : CalendarField → Nat) (f : CalendarField) : Nat :=
  match lastIndex? tokens f with
  | some i => Text.numeral input (offset start tokens i) f.width
  | none => absent f

/-! ### Lists of tokens from the front

What the grammar says of a list, token by token: each equation takes off the first token and moves
on by its width. -/

section

variable {input : List UInt8} {start : Nat} {token : Token CalendarField}
  {tokens : List (Token CalendarField)}

@[simp] theorem offset_zero : offset start tokens 0 = start := by
  simp [offset]

@[simp] theorem offset_cons_succ (i : Nat) :
    offset start (token :: tokens) (i + 1) = offset (start + token.width) tokens i := by
  simp [offset, Nat.add_assoc]

theorem Fails.not_fits {place : Nat} {fault : ReadingFault} (h : token.Fails input place fault) :
    ¬ token.Fits input place := by
  cases h with
  | literal differs => exact differs
  | digits missing => exact fun hfits => missing hfits.1
  | bounds _ outside => exact fun hfits => outside hfits.2

theorem allFit_nil : AllFit input start [] := by
  intro i token h
  simp at h

theorem allFit_cons :
    AllFit input start (token :: tokens) ↔
      token.Fits input start ∧ AllFit input (start + token.width) tokens := by
  constructor
  · intro h
    refine ⟨by simpa using h 0 token rfl, ?_⟩
    intro i other hi
    simpa using h (i + 1) other hi
  · rintro ⟨hfirst, hrest⟩ i other hi
    cases i with
    | zero =>
        cases hi
        simpa using hfirst
    | succ i => simpa using hrest i other hi

theorem not_failsFirst_nil {fault : ReadingFault} : ¬ FailsFirst input start [] fault := by
  rintro ⟨i, token, hi, -⟩
  simp at hi

theorem failsFirst_cons {fault : ReadingFault} :
    FailsFirst input start (token :: tokens) fault ↔
      token.Fails input start fault ∨
        token.Fits input start ∧ FailsFirst input (start + token.width) tokens fault := by
  constructor
  · rintro ⟨i, other, hi, hfails, hearlier⟩
    cases i with
    | zero =>
        cases hi
        exact Or.inl (by simpa using hfails)
    | succ i =>
        refine Or.inr ⟨by simpa using hearlier 0 (Nat.succ_pos i) token rfl, i, other, hi, ?_, ?_⟩
        · simpa using hfails
        · intro j hj earlier hearly
          simpa using hearlier (j + 1) (Nat.succ_lt_succ hj) earlier hearly
  · rintro (hfails | ⟨hfits, i, other, hi, hfails, hearlier⟩)
    · exact ⟨0, token, rfl, by simpa using hfails, fun j hj => absurd hj (Nat.not_lt_zero j)⟩
    · refine ⟨i + 1, other, hi, by simpa using hfails, ?_⟩
      intro j hj earlier hearly
      cases j with
      | zero =>
          cases hearly
          simpa using hfits
      | succ j => simpa using hearlier j (Nat.lt_of_succ_lt_succ hj) earlier hearly

/-- A later token for the field counts more than the first token of the list. -/
theorem lastIndex?_cons (f : CalendarField) :
    lastIndex? (token :: tokens) f =
      ((lastIndex? tokens f).map (· + 1)).or (if token = .field f then some 0 else none) := by
  have hfirst : [0].find? (fun i => (token :: tokens)[i]? = some (.field f)) =
      if token = .field f then some 0 else none := by
    by_cases h : token = .field f <;> simp [h]
  simp only [lastIndex?, List.length_cons, List.range_succ_eq_map, List.reverse_cons,
    ← List.map_reverse, List.find?_append, List.find?_map]
  rw [hfirst]
  rfl

theorem valueIn_nil (absent : CalendarField → Nat) (f : CalendarField) :
    valueIn input start [] absent f = absent f := rfl

theorem valueIn_cons (absent : CalendarField → Nat) (f : CalendarField) :
    valueIn input start (token :: tokens) absent f =
      valueIn input (start + token.width) tokens
        (fun f => if token = .field f then Text.numeral input start f.width else absent f) f := by
  simp only [valueIn, lastIndex?_cons]
  cases lastIndex? tokens f with
  | some i => simp
  | none =>
      by_cases h : token = .field f
      · simp [h]
      · simp [h]

/-- A value that is read fits its field, and one that is not read is left as it was. -/
theorem valueIn_bounds {absent : CalendarField → Nat} {f : CalendarField}
    (hfit : AllFit input start tokens)
    (habsent : f.least ≤ absent f ∧ absent f ≤ f.greatest) :
    f.least ≤ valueIn input start tokens absent f ∧
      valueIn input start tokens absent f ≤ f.greatest := by
  simp only [valueIn]
  cases hlast : lastIndex? tokens f with
  | none => exact habsent
  | some i =>
      have hi := List.find?_some hlast
      exact (hfit i (.field f) (by simpa using hi)).2

/-! ### One token

Reading one token looks at the bytes in its place only. It goes on behind them, or fails with what
is wrong there. -/

/-- At one place a token has one fault at most. -/
theorem Fails.unique {place : Nat} {fault other : ReadingFault}
    (h : token.Fails input place fault) (h' : token.Fails input place other) : fault = other := by
  cases h with
  | literal differs =>
      cases h'
      rfl
  | digits missing =>
      cases h' with
      | digits => rfl
      | bounds present => exact absurd present missing
  | bounds present =>
      cases h' with
      | digits missing => exact absurd present missing
      | bounds => rfl

/-- A token that fits is read, and reading goes on behind it. -/
theorem read?_cons_of_fits {text : List Char} (h : Text.Follows input start text)
    (hfits : token.Fits input start) (values : FieldValues) :
    ∃ (rest : List Char) (next : FieldValues), Text.Follows input (start + token.width) rest ∧
      (∀ f, next.get f =
        if token = .field f then Text.numeral input start f.width else values.get f) ∧
      ∀ tokens, read? (token :: tokens) start text values =
        read? tokens (start + token.width) rest next := by
  cases token with
  | literal chars =>
      obtain ⟨rest, rfl⟩ := (h.slice_eq_bytes_iff chars).1 hfits
      refine ⟨rest, values, h.advance, by simp, ?_⟩
      intro tokens
      rw [read?, List.isPrefixOf?_eq_some_iff_append_eq.2 rfl]
      rfl
  | field f =>
      obtain ⟨hdigits, hbounds⟩ := hfits
      refine ⟨text.drop f.width, values.set f (Text.numeral input start f.width),
        h.advance_digits hdigits, ?_, ?_⟩
      · intro other
        rw [FieldValues.get_set]
        by_cases hother : other = f
        · simp [hother]
        · have hne : f ≠ other := fun heq => hother heq.symm
          simp [hother, hne]
      · intro tokens
        simp [read?, CalendarField.read?, h.readDigits?_eq, hdigits, hbounds, width]

/-- A token that does not fit ends the reading with its fault. -/
theorem read?_cons_of_not_fits {text : List Char} (h : Text.Follows input start text)
    (hfits : ¬ token.Fits input start) (values : FieldValues) :
    ∃ fault, token.Fails input start fault ∧
      ∀ tokens, read? (token :: tokens) start text values = .error fault := by
  cases token with
  | literal chars =>
      refine ⟨_, Fails.literal hfits, ?_⟩
      intro tokens
      have hprefix : chars.isPrefixOf? text = none := by
        cases hrest : chars.isPrefixOf? text with
        | none => rfl
        | some rest =>
            have htext := List.isPrefixOf?_eq_some_iff_append_eq.1 hrest
            exact absurd ((h.slice_eq_bytes_iff chars).2 ⟨rest, htext⟩) hfits
      simp [read?, hprefix]
  | field f =>
      by_cases hdigits : Text.HasDigits input start f.width
      · have hbounds : ¬ (f.least ≤ Text.numeral input start f.width ∧
            Text.numeral input start f.width ≤ f.greatest) :=
          fun hbounds => hfits ⟨hdigits, hbounds⟩
        refine ⟨_, Fails.bounds hdigits hbounds, ?_⟩
        intro tokens
        simp [read?, CalendarField.read?, h.readDigits?_eq, hdigits, hbounds]
      · refine ⟨_, Fails.digits hdigits, ?_⟩
        intro tokens
        simp [read?, CalendarField.read?, h.readDigits?_eq, hdigits]

/-! ### Lists of tokens

By induction on the tokens, with the place, the text that is left and the values read so far kept
general. -/

/-- Reading a list of tokens succeeds if they all fit and the input ends with them. A field then has
the value of its last token. -/
theorem read?_eq_ok_iff {text : List Char} {values result : FieldValues}
    (h : Text.Follows input start text) :
    read? tokens start text values = .ok result ↔
      AllFit input start tokens ∧ input.length = offset start tokens tokens.length ∧
        ∀ f, result.get f = valueIn input start tokens values.get f := by
  induction tokens generalizing start text values with
  | nil =>
      rw [read?, List.length_nil, offset_zero, h.length_eq_iff]
      by_cases htext : text = []
      · subst htext
        simp only [List.isEmpty_nil, if_true, Except.ok.injEq, allFit_nil, true_and, valueIn_nil]
        constructor
        · rintro rfl f
          rfl
        · intro hget
          exact (FieldValues.ext_get hget).symm
      · simp [htext]
  | cons token tokens ih =>
      rw [allFit_cons, List.length_cons, offset_cons_succ]
      by_cases hfits : token.Fits input start
      · obtain ⟨rest, next, hrest, hnext, hread⟩ := read?_cons_of_fits h hfits values
        rw [hread, ih hrest, funext hnext]
        simp only [hfits, true_and, valueIn_cons]
      · obtain ⟨fault, -, hread⟩ := read?_cons_of_not_fits h hfits values
        rw [hread]
        simp [hfits]

/-- Reading a list of tokens fails with the fault of the first token that does not fit, or where
there is text behind the last one. -/
theorem read?_eq_error_iff {text : List Char} {values : FieldValues} {fault : ReadingFault}
    (h : Text.Follows input start text) :
    read? tokens start text values = .error fault ↔
      FailsFirst input start tokens fault ∨
        AllFit input start tokens ∧ offset start tokens tokens.length < input.length ∧
          fault = .trailingText (offset start tokens tokens.length) := by
  induction tokens generalizing start text values with
  | nil =>
      have hend : start < input.length ↔ ¬ text = [] := by
        rw [← h.length_eq_iff]
        have hle := h.1
        omega
      rw [read?, List.length_nil, offset_zero, hend]
      by_cases htext : text = []
      · simp [htext, not_failsFirst_nil]
      · simp only [List.isEmpty_iff, htext, if_false, Except.error.injEq, not_failsFirst_nil,
          allFit_nil, not_false_eq_true, true_and, false_or]
        exact eq_comm
  | cons token tokens ih =>
      rw [allFit_cons, failsFirst_cons, List.length_cons, offset_cons_succ]
      by_cases hfits : token.Fits input start
      · obtain ⟨rest, next, hrest, -, hread⟩ := read?_cons_of_fits h hfits values
        have hnot : ¬ token.Fails input start fault := fun hfails => hfails.not_fits hfits
        rw [hread, ih hrest]
        simp only [hfits, hnot, true_and, false_or]
      · obtain ⟨other, hfails, hread⟩ := read?_cons_of_not_fits h hfits values
        rw [hread]
        simp only [hfits, false_and, or_false, Except.error.injEq]
        constructor
        · rintro rfl
          exact hfails
        · exact hfails.unique

end

end Token

namespace InstantTemplate

variable (template : InstantTemplate) (input : String)

/-- The value that a text gives to a field of the template. -/
def valueIn (f : CalendarField) : Nat :=
  Token.valueIn (Text.bytes input.toList) 0 template.tokens CalendarField.initial f

/-- A text has the form of the template: every token fits at its place, and the text ends with the
last one. -/
structure Conforms : Prop where
  fit : Token.AllFit (Text.bytes input.toList) 0 template.tokens
  length : (Text.bytes input.toList).length =
    Token.offset 0 template.tokens template.tokens.length

/-- The calendar has the day that a text gives. -/
def HasDate : Prop :=
  template.valueIn input .day ≤
    Date.daysInMonth (template.valueIn input .year) (template.valueIn input .month)

/-- A text is accepted as an instant: it has the form of the template and a day of the calendar, and
the count of its date and time is that of the instant. -/
def Accepts (t : Instant) : Prop :=
  template.Conforms input ∧ template.HasDate input ∧
    ∃ time : DateTime, time.HasFields (template.valueIn input) ∧
      (0 ≤ time.epochNanos ∧ time.epochNanos ≤ Count.greatest) ∧ t.nanos = time.epochNanos

/-- What the first failing check says: first the tokens from left to right, then the end of the
text, then the date, and at last the range of instants. -/
inductive FirstFault : Fault → Prop where
  | token {fault : ReadingFault}
      (fails : Token.FailsFirst (Text.bytes input.toList) 0 template.tokens fault) :
      FirstFault (.reading input fault)
  | trailing (fit : Token.AllFit (Text.bytes input.toList) 0 template.tokens)
      (longer : Token.offset 0 template.tokens template.tokens.length <
        (Text.bytes input.toList).length) :
      FirstFault (.reading input
        (.trailingText (Token.offset 0 template.tokens template.tokens.length)))
  | date (conforms : template.Conforms input) (absent : ¬ template.HasDate input) :
      FirstFault (.reading input (.noSuchDate (template.valueIn input .year)
        (template.valueIn input .month) (template.valueIn input .day)))
  | range (conforms : template.Conforms input) {time : DateTime}
      (fields : time.HasFields (template.valueIn input))
      (outside : ¬ (0 ≤ time.epochNanos ∧ time.epochNanos ≤ Count.greatest)) :
      FirstFault (.arithmetic .outOfRange)

variable {template : InstantTemplate} {input : String}

/-- The values of a text of the right form are within the bounds of their fields. -/
theorem Conforms.bounds (h : template.Conforms input) (f : CalendarField) :
    f.least ≤ template.valueIn input f ∧ template.valueIn input f ≤ f.greatest :=
  Token.valueIn_bounds h.fit f.initial_bounds

/-- The tokens of a template read the values of a text of the right form. -/
theorem read?_tokens_eq_ok_iff {values : FieldValues} :
    Token.read? template.tokens 0 input.toList {} = .ok values ↔
      template.Conforms input ∧ values.get = template.valueIn input := by
  rw [Token.read?_eq_ok_iff (Text.follows_zero input.toList), funext FieldValues.get_empty]
  constructor
  · rintro ⟨hfit, hlength, hget⟩
    exact ⟨⟨hfit, hlength⟩, funext hget⟩
  · rintro ⟨⟨hfit, hlength⟩, hget⟩
    exact ⟨hfit, hlength, congrFun hget⟩

/-- The tokens of a template fail with the first fault of the text, or because there is more text
behind them. -/
theorem read?_tokens_eq_error_iff {fault : ReadingFault} :
    Token.read? template.tokens 0 input.toList {} = .error fault ↔
      Token.FailsFirst (Text.bytes input.toList) 0 template.tokens fault ∨
        Token.AllFit (Text.bytes input.toList) 0 template.tokens ∧
          Token.offset 0 template.tokens template.tokens.length <
            (Text.bytes input.toList).length ∧
          fault = .trailingText (Token.offset 0 template.tokens template.tokens.length) :=
  Token.read?_eq_error_iff (Text.follows_zero input.toList)

theorem read?_of_tokens {fault : ReadingFault}
    (h : Token.read? template.tokens 0 input.toList {} = .error fault) :
    template.read? input = .error (.reading input fault) := by
  rw [read?, h]

/-- A date and time with the values of a text is on a day of the calendar. -/
theorem hasDate_of_hasFields {time : DateTime} (h : time.HasFields (template.valueIn input)) :
    template.HasDate input := by
  have hle := time.day_le
  rw [h.year, h.month, h.day] at hle
  exact hle

/-- From a text of the right form the tokens read its values. -/
theorem Conforms.exists_values (h : template.Conforms input) :
    ∃ values : FieldValues, values.Bounded ∧ values.get = template.valueIn input ∧
      Token.read? template.tokens 0 input.toList {} = .ok values := by
  have hget := FieldValues.get_ofFunction (template.valueIn input)
  refine ⟨FieldValues.ofFunction (template.valueIn input), ?_, hget,
    read?_tokens_eq_ok_iff.2 ⟨h, hget⟩⟩
  intro f
  rw [hget]
  exact h.bounds f

/-- A text of the right form whose day exists is read as a date and time. -/
theorem Conforms.read?_of_hasDate (h : template.Conforms input) (hdate : template.HasDate input) :
    ∃ time : DateTime, time.HasFields (template.valueIn input) ∧
      template.read? input = (Instant.ofDateTime? time).mapError .arithmetic := by
  obtain ⟨values, hbounds, hget, hread⟩ := h.exists_values
  have hday : values.get .day ≤ Date.daysInMonth (values.get .year) (values.get .month) := by
    rw [hget]
    exact hdate
  have htime := hbounds.toDateTime?_eq hday
  refine ⟨hbounds.toDateTime hday, ?_, ?_⟩
  · rw [← hget]
    exact (FieldValues.toDateTime?_eq_some_iff hbounds).1 htime
  · simp only [read?, hread, htime]

/-- A text of the right form whose day does not exist is refused for it. -/
theorem Conforms.read?_of_not_hasDate (h : template.Conforms input)
    (hdate : ¬ template.HasDate input) :
    template.read? input = .error (.reading input (.noSuchDate (template.valueIn input .year)
      (template.valueIn input .month) (template.valueIn input .day))) := by
  obtain ⟨values, hbounds, hget, hread⟩ := h.exists_values
  rw [HasDate, ← hget] at hdate
  have hnone : values.toDateTime? = none := (FieldValues.toDateTime?_eq_none_iff hbounds).2 hdate
  rw [← hget]
  simp only [read?, hread, hnone]
  rfl

/-- A text that is accepted as an instant is read as it. -/
theorem Accepts.read?_eq {t : Instant} (h : template.Accepts input t) :
    template.read? input = .ok t := by
  obtain ⟨hconforms, hdate, time, hfields, -, hnanos⟩ := h
  obtain ⟨time', hfields', hread⟩ := hconforms.read?_of_hasDate hdate
  rw [hread, ← hfields.unique hfields', Instant.ofDateTime?, Instant.ofNanos?_eq_ok_iff.2 hnanos]
  rfl

/-- The first fault of a text is the one that is reported. -/
theorem FirstFault.read?_eq {fault : Fault} (h : template.FirstFault input fault) :
    template.read? input = .error fault := by
  cases h with
  | token hfails => exact read?_of_tokens (read?_tokens_eq_error_iff.2 (Or.inl hfails))
  | trailing hfit hlonger =>
      exact read?_of_tokens (read?_tokens_eq_error_iff.2 (Or.inr ⟨hfit, hlonger, rfl⟩))
  | date hconforms hdate => exact hconforms.read?_of_not_hasDate hdate
  | range hconforms hfields houtside =>
      obtain ⟨time, hfields', hread⟩ := hconforms.read?_of_hasDate (hasDate_of_hasFields hfields)
      rw [hread, ← hfields.unique hfields', Instant.ofDateTime?,
        Instant.ofNanos?_eq_error_iff.2 ⟨houtside, rfl⟩]
      rfl

/-- A text without a fault is accepted. -/
theorem accepts_or_firstFault (template : InstantTemplate) (input : String) :
    (∃ t, template.Accepts input t) ∨ ∃ fault, template.FirstFault input fault := by
  cases htokens : Token.read? template.tokens 0 input.toList {} with
  | error fault =>
      right
      rcases read?_tokens_eq_error_iff.1 htokens with hfails | ⟨hfit, hlonger, -⟩
      · exact ⟨_, .token hfails⟩
      · exact ⟨_, .trailing hfit hlonger⟩
  | ok values =>
      obtain ⟨hconforms, -⟩ := read?_tokens_eq_ok_iff.1 htokens
      by_cases hdate : template.HasDate input
      · obtain ⟨time, hfields, -⟩ := hconforms.read?_of_hasDate hdate
        by_cases hrange : 0 ≤ time.epochNanos ∧ time.epochNanos ≤ Count.greatest
        · left
          obtain ⟨t, ht, -⟩ := Instant.exists_ofDateTime?_eq_ok hrange.1 hrange.2
          exact ⟨t, hconforms, hdate, time, hfields, hrange, Instant.ofNanos?_eq_ok_iff.1 ht⟩
        · exact Or.inr ⟨_, .range hconforms hfields hrange⟩
      · exact Or.inr ⟨_, .date hconforms hdate⟩

/-- A template reads an instant from a text exactly if it accepts the text for that instant. -/
theorem read?_eq_ok_iff {t : Instant} :
    template.read? input = .ok t ↔ template.Accepts input t := by
  refine ⟨?_, Accepts.read?_eq⟩
  intro hread
  rcases accepts_or_firstFault template input with ⟨t', haccepts⟩ | ⟨fault, hfault⟩
  · have hsame := haccepts.read?_eq
    rw [hread] at hsame
    cases hsame
    exact haccepts
  · have hother := hfault.read?_eq
    rw [hread] at hother
    cases hother

/-- A template refuses a text exactly for its first fault. -/
theorem read?_eq_error_iff {fault : Fault} :
    template.read? input = .error fault ↔ template.FirstFault input fault := by
  refine ⟨?_, FirstFault.read?_eq⟩
  intro hread
  rcases accepts_or_firstFault template input with ⟨t, haccepts⟩ | ⟨fault', hfault⟩
  · have hother := haccepts.read?_eq
    rw [hread] at hother
    cases hother
  · have hsame := hfault.read?_eq
    rw [hread] at hsame
    cases hsame
    exact hfault

/-- A template accepts its fixed-width grammar and nothing else, and of several faults it reports the
first. The width and the bounds of each field are listed first. A text is read as `t` if all its
tokens fit at their places, the text ends with the last one, the calendar has its day, and `t` is
the count of its date and time within the range of instants. -/
theorem read?_is_fixed_width (template : InstantTemplate) (input : String) :
    (∀ f : CalendarField, (f.width, f.least, f.greatest) =
      match f with
      | .year => (4, 0, 9999)
      | .month => (2, 1, 12)
      | .day => (2, 1, 31)
      | .clock .hour => (2, 0, 23)
      | .clock .minute | .clock .second => (2, 0, 59)
      | .clock .milli | .clock .micro | .clock .nano => (3, 0, 999)) ∧
    (∀ t : Instant, template.read? input = .ok t ↔
      template.Conforms input ∧ template.HasDate input ∧
        ∃ time : DateTime, time.HasFields (template.valueIn input) ∧
          (0 ≤ time.epochNanos ∧ time.epochNanos ≤ Count.greatest) ∧ t.nanos = time.epochNanos) ∧
    ∀ fault : Fault, template.read? input = .error fault ↔ template.FirstFault input fault := by
  refine ⟨?_, fun _ => read?_eq_ok_iff, fun _ => read?_eq_error_iff⟩
  intro f
  cases f with
  | year => rfl
  | month => rfl
  | day => rfl
  | clock field => cases field <;> rfl

end InstantTemplate

end UtcTime
