/-
Module: UtcTime.Proofs.ReadAfterFormat
Purpose: What is left of an instant that is written by a template and read back by it. The fields
  that the template names keep their values, and the others fall back to the epoch. Their values
  make an instant that is not later, except for a leap day that is written without its year.
Trusted boundary: none
Main exports: Token.read?_render, InstantTemplate.Names, InstantTemplate.shown,
  InstantTemplate.LosesLeapDay, InstantTemplate.hasDate_format_iff, DateTime.HasFields.epochNanos_le,
  InstantTemplate.accepts_format, InstantTemplate.read?_after_format
-/
import UtcTime.Proofs.FieldText
import UtcTime.Proofs.FixedWidthGrammar

namespace UtcTime

/-! ### Tokens read what they write

By induction on the tokens. What is written for a token is what the reader takes off for it, and a
field that is read has the value that was written. -/

namespace Token

variable {tokens : List (Token CalendarField)}

theorem read?_literal_append (chars rest : List Char) (offset : Nat) (values : FieldValues) :
    read? (.literal chars :: tokens) offset (chars ++ rest) values =
      read? tokens (offset + Text.byteLength chars) rest values := by
  rw [read?, List.isPrefixOf?_eq_some_iff_append_eq.2 rfl]

/-- What is written for a field is read as its value. -/
theorem read?_fieldText_append (t : Instant) (f : CalendarField) (rest : List Char) (offset : Nat)
    (values : FieldValues) :
    read? (.field f :: tokens) offset (t.toDateTime.fieldText f ++ rest) values =
      read? tokens (offset + f.width) rest (values.set f (t.toDateTime.fieldValue f)) := by
  rw [read?, CalendarField.read?_fieldText_append]

/-- The text that tokens make of an instant is read by them to the end. The fields among them get
the values of the instant, however often they occur. -/
theorem read?_render (t : Instant) (tokens : List (Token CalendarField)) (offset : Nat)
    (values : FieldValues) :
    ∃ result : FieldValues,
      read? tokens offset (render t.toDateTime.fieldText tokens) values = .ok result ∧
        ∀ f, result.get f =
          if .field f ∈ tokens then t.toDateTime.fieldValue f else values.get f := by
  induction tokens generalizing offset values with
  | nil =>
      refine ⟨values, rfl, ?_⟩
      intro f
      rw [if_neg List.not_mem_nil]
  | cons token tokens ih =>
      cases token with
      | literal chars =>
          obtain ⟨result, hread, hget⟩ := ih (offset + Text.byteLength chars) values
          refine ⟨result, ?_, ?_⟩
          · rw [← hread]
            exact read?_literal_append chars _ offset values
          · intro f
            rw [hget]
            simp only [List.mem_cons, reduceCtorEq, false_or]
      | field written =>
          obtain ⟨result, hread, hget⟩ := ih (offset + written.width)
            (values.set written (t.toDateTime.fieldValue written))
          refine ⟨result, ?_, ?_⟩
          · rw [← hread]
            exact read?_fieldText_append t written _ offset values
          · intro f
            -- A later token for the field gives it the same value as this one.
            rw [hget, FieldValues.get_set]
            by_cases hf : f = written
            · subst hf
              simp only [List.mem_cons_self, if_true, ite_self]
            · have hne : Token.field f ≠ .field written := fun heq => hf (Token.field.inj heq)
              simp only [List.mem_cons, hne, hf, false_or, if_false]

end Token

/-! ### Fields that are nowhere greater

Leaving out fields makes a date and time earlier, or leaves it as it is: each of them goes down to
the least value that it can have. -/

namespace DateTime

theorem hasFields_epoch : (ofEpochNanos 0).HasFields CalendarField.initial := by
  refine ⟨by decide, by decide, by decide, ?_⟩
  intro field
  cases field <;> decide

/-- A date and time whose fields are nowhere greater is not later. -/
theorem HasFields.epochNanos_le {first second : DateTime} {value greater : CalendarField → Nat}
    (h : first.HasFields value) (h' : second.HasFields greater) (hle : ∀ f, value f ≤ greater f) :
    first.epochNanos ≤ second.epochNanos := by
  have hdate : first.dayNumber ≤ second.dayNumber := by
    apply Date.dayNumber_le
    · rw [h.year, h'.year]
      exact Int.ofNat_le.2 (hle .year)
    · rw [h.month, h'.month]
      exact hle .month
    · rw [h.day, h'.day]
      exact hle .day
  have hclock : ∀ field : ClockField, first.clock field ≤ second.clock field := by
    intro field
    rw [h.clock, h'.clock]
    exact hle (.clock field)
  have hhour : first.hour ≤ second.hour := hclock .hour
  have hminute : first.minute ≤ second.minute := hclock .minute
  have hsecond : first.second ≤ second.second := hclock .second
  have hnano : first.nanosecond ≤ second.nanosecond := by
    have hmilli := hclock .milli
    have hmicro := hclock .micro
    have hlast := hclock .nano
    rw [first.nanosecond_eq_clock, second.nanosecond_eq_clock]
    omega
  simp only [epochNanos, epochSeconds]
  omega

end DateTime

/-! ### Instants

What reading gives after writing: the instant with the fields that the template shows. -/

namespace Instant

/-- Some instant differs from the epoch in every field: the one at 1971-02-02 01:01:01, a
millisecond, a microsecond and a nanosecond. -/
theorem exists_fieldValue_ne_initial :
    ∃ t : Instant, t.toDateTime.day ≠ 29 ∧ ∀ f, t.toDateTime.fieldValue f ≠ f.initial := by
  refine ⟨⟨34304461001001001, by decide⟩, by decide, ?_⟩
  intro f
  cases f with
  | clock field => cases field <;> decide
  | _ => decide

end Instant

namespace InstantTemplate

/-- One of the tokens names the field. -/
def Names (template : InstantTemplate) (f : CalendarField) : Prop :=
  .field f ∈ template.tokens

instance (template : InstantTemplate) (f : CalendarField) : Decidable (template.Names f) :=
  inferInstanceAs (Decidable (_ ∈ _))

/-- What a template shows of an instant: its fields as far as they are named, and otherwise those of
the epoch. -/
def shown (template : InstantTemplate) (t : Instant) (f : CalendarField) : Nat :=
  if template.Names f then t.toDateTime.fieldValue f else f.initial

/-- The instant falls on a leap day, and the template names the month and the day but not the
year. -/
def LosesLeapDay (template : InstantTemplate) (t : Instant) : Prop :=
  (template.Names .month ∧ template.Names .day ∧ ¬ template.Names .year) ∧
    t.toDateTime.month = 2 ∧ t.toDateTime.day = 29

variable {template : InstantTemplate} {t : Instant}

theorem shown_of_names {f : CalendarField} (h : template.Names f) :
    template.shown t f = t.toDateTime.fieldValue f :=
  if_pos h

theorem shown_of_not_names {f : CalendarField} (h : ¬ template.Names f) :
    template.shown t f = f.initial :=
  if_neg h

/-- What a template shows of a field is not greater than the field. -/
theorem shown_le (f : CalendarField) : template.shown t f ≤ t.toDateTime.fieldValue f := by
  by_cases hf : template.Names f
  · rw [shown_of_names hf]
  · rw [shown_of_not_names hf]
    exact t.initial_le_fieldValue f

theorem initial_le_shown (f : CalendarField) : f.initial ≤ template.shown t f := by
  by_cases hf : template.Names f
  · rw [shown_of_names hf]
    exact t.initial_le_fieldValue f
  · rw [shown_of_not_names hf]

/-- The text of an instant has the form of the template, and its values are those that the template
shows. -/
theorem conforms_format (template : InstantTemplate) (t : Instant) :
    template.Conforms (t.format template) ∧
      template.valueIn (t.format template) = template.shown t := by
  obtain ⟨values, hread, hget⟩ := Token.read?_render t template.tokens 0 {}
  have htext : (t.format template).toList =
      Token.render t.toDateTime.fieldText template.tokens := String.toList_ofList
  rw [← htext] at hread
  obtain ⟨hconforms, hvalues⟩ := read?_tokens_eq_ok_iff.1 hread
  refine ⟨hconforms, ?_⟩
  rw [← hvalues]
  funext f
  rw [hget, FieldValues.get_empty]
  rfl

/-- Falling back to the epoch leads to a day that exists, but for the 29 February of 1970. -/
theorem hasDate_format_iff :
    template.HasDate (t.format template) ↔ ¬ template.LosesLeapDay t := by
  rw [HasDate, (conforms_format template t).2]
  by_cases hday : template.Names .day
  · by_cases hmonth : template.Names .month
    · by_cases hyear : template.Names .year
      · have hnot : ¬ template.LosesLeapDay t := fun hloses => hloses.1.2.2 hyear
        have hle := t.toDateTime.day_le
        rw [t.hasFields.year] at hle
        rw [shown_of_names hday, shown_of_names hmonth, shown_of_names hyear]
        exact iff_of_true hle hnot
      · have hcommon : ¬ Date.IsLeap 1970 := by decide
        rw [shown_of_names hday, shown_of_names hmonth, shown_of_not_names hyear]
        simp only [LosesLeapDay, hday, hmonth, hyear, not_false_eq_true, true_and]
        exact t.toDateTime.day_le_daysInMonth_iff hcommon
    · have hnot : ¬ template.LosesLeapDay t := fun hloses => hmonth hloses.1.1
      have hle := (t.fieldValue_bounds .day).2
      rw [shown_of_names hday, shown_of_not_names hmonth]
      exact iff_of_true hle hnot
  · have hnot : ¬ template.LosesLeapDay t := fun hloses => hday hloses.1.2.1
    have hmonth : 1 ≤ template.shown t .month := initial_le_shown .month
    have hle : template.shown t .month ≤ 12 :=
      Nat.le_trans (shown_le .month) t.toDateTime.month_le
    rw [shown_of_not_names hday]
    exact iff_of_true (Date.daysInMonth_pos _ hmonth hle) hnot

/-- The date and time of the shown values, where there is one, is that of an instant that is not
later. -/
theorem read?_format_of_not_losesLeapDay (h : ¬ template.LosesLeapDay t) :
    ∃ t' : Instant, template.read? (t.format template) = .ok t' ∧
      t'.toDateTime.HasFields (template.shown t) ∧ t' ≤ t := by
  obtain ⟨hconforms, hvalues⟩ := conforms_format template t
  obtain ⟨time, hfields, hread⟩ := hconforms.read?_of_hasDate (hasDate_format_iff.2 h)
  rw [hvalues] at hfields
  have hpos : 0 ≤ time.epochNanos := by
    have hle := DateTime.hasFields_epoch.epochNanos_le hfields initial_le_shown
    rwa [DateTime.epochNanos_ofEpochNanos] at hle
  have hle : time.epochNanos ≤ t.nanos := by
    have hle := hfields.epochNanos_le t.hasFields shown_le
    rwa [t.epochNanos_toDateTime] at hle
  obtain ⟨t', ht', htime⟩ := Instant.exists_ofDateTime?_eq_ok hpos (Int.le_trans hle t.nanos_le)
  refine ⟨t', ?_, ?_, ?_⟩
  · rw [hread, ht']
    rfl
  · rw [htime]
    exact hfields
  · rw [← Instant.ofNanos?_eq_ok_iff.1 ht'] at hle
    exact Int.ofNat_le.1 hle

/-- A leap day without its year is looked for in 1970. -/
theorem read?_format_of_losesLeapDay (h : template.LosesLeapDay t) :
    template.read? (t.format template) =
      .error (.reading (t.format template) (.noSuchDate 1970 2 29)) := by
  obtain ⟨hconforms, hvalues⟩ := conforms_format template t
  have hdate : ¬ template.HasDate (t.format template) := fun hdate => hasDate_format_iff.1 hdate h
  obtain ⟨⟨hnamesMonth, hnamesDay, hnamesYear⟩, hmonth, hday⟩ := h
  have hread := hconforms.read?_of_not_hasDate hdate
  rw [hvalues, shown_of_not_names hnamesYear, shown_of_names hnamesMonth,
    shown_of_names hnamesDay] at hread
  rw [hread, DateTime.fieldValue, DateTime.fieldValue, hmonth, hday]
  rfl

/-- Month and day alone do not give back the 29 February of 1972. -/
example : LosesLeapDay ⟨"%m-%d", [.field .month, .literal ['-'], .field .day]⟩
    ⟨68169600000000000, by decide⟩ :=
  ⟨by decide, by decide⟩

/-- Nothing is lost of an instant that has its values at the epoch in the fields that the template
does not name. -/
theorem shown_eq (h : ∀ f, ¬ template.Names f → t.toDateTime.fieldValue f = f.initial) :
    template.shown t = t.toDateTime.fieldValue := by
  funext f
  by_cases hf : template.Names f
  · exact shown_of_names hf
  · rw [shown_of_not_names hf, h f hf]

/-- A template that shows all that is not at its least value accepts what it wrote, for the same
instant. -/
theorem accepts_format (h : ∀ f, ¬ template.Names f → t.toDateTime.fieldValue f = f.initial) :
    template.Accepts (t.format template) t := by
  obtain ⟨hconforms, hvalues⟩ := conforms_format template t
  have hfields : t.toDateTime.HasFields (template.valueIn (t.format template)) := by
    rw [hvalues, shown_eq h]
    exact t.hasFields
  refine ⟨hconforms, hasDate_of_hasFields hfields, t.toDateTime, hfields, ?_, ?_⟩
  · rw [t.epochNanos_toDateTime]
    exact ⟨Int.natCast_nonneg _, t.nanos_le⟩
  · exact t.epochNanos_toDateTime.symm

/-- A template that names every field gives every instant back. -/
theorem read?_format_of_names (h : ∀ f, template.Names f) (t : Instant) :
    template.read? (t.format template) = .ok t :=
  (accepts_format fun f hf => absurd (h f) hf).read?_eq

/-- Only a template that names every field gives every instant back. -/
theorem names_of_read?_format (h : ∀ t : Instant, template.read? (t.format template) = .ok t)
    (f : CalendarField) : template.Names f := by
  obtain ⟨t, hday, hne⟩ := Instant.exists_fieldValue_ne_initial
  have hkept : ¬ template.LosesLeapDay t := fun hloses => hday hloses.2.2
  obtain ⟨t', hread, hfields, -⟩ := read?_format_of_not_losesLeapDay hkept
  rw [h t] at hread
  cases hread
  by_contra hf
  apply hne f
  rw [hfields.fieldValue, shown_of_not_names hf]

/-- Reading what a template writes of an instant gives the instant with every field that is not
named set back to the epoch, and this is not later. Only a leap day that is written without its year
is refused, as a date that does not exist; nothing is ever out of range. All instants are got back
exactly if the template names all fields. -/
theorem read?_after_format (template : InstantTemplate) :
    (∀ t : Instant, ¬ template.LosesLeapDay t →
      ∃ t' : Instant, template.read? (t.format template) = .ok t' ∧
        t'.toDateTime.HasFields (template.shown t) ∧ t' ≤ t) ∧
    (∀ t : Instant, template.LosesLeapDay t →
      template.read? (t.format template) =
        .error (.reading (t.format template) (.noSuchDate 1970 2 29))) ∧
    (ReadingFault.noSuchDate 1970 2 29).message = "1970-02-29 is not a valid date" ∧
    (∀ t : Instant, template.read? (t.format template) ≠ .error (.arithmetic .outOfRange)) ∧
    ((∀ t : Instant, template.read? (t.format template) = .ok t) ↔ ∀ f, template.Names f) := by
  refine ⟨fun _ => read?_format_of_not_losesLeapDay, fun _ => read?_format_of_losesLeapDay,
    by decide, ?_, ⟨names_of_read?_format, read?_format_of_names⟩⟩
  intro t hrange
  by_cases hloses : template.LosesLeapDay t
  · rw [read?_format_of_losesLeapDay hloses] at hrange
    cases hrange
  · obtain ⟨t', hread, -⟩ := read?_format_of_not_losesLeapDay hloses
    rw [hread] at hrange
    cases hrange

end InstantTemplate

end UtcTime
