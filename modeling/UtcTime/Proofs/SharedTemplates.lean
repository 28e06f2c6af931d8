/-
Module: UtcTime.Proofs.SharedTemplates
Purpose: A text can be a template for instants and one for spans. The placeholders of a clock mean the
  same in both; the only other one that both know is that of the day, which is a day of the month in
  one and a number of days in the other. Without it, an instant and the time since the epoch are
  written the same.
Trusted boundary: none
Main exports: ClockField.isSome_expand?_of_shared, TemplateText.interpret_calendar_eq_span,
  Instant.format_agrees_with_sinceEpoch
-/
import UtcTime.Proofs.PlaceholderMeaning

namespace UtcTime

/-- Templates for instants and for finite spans share the placeholders of a clock, the day and the
percent sign. -/
theorem ClockField.isSome_expand?_of_shared {x : Char}
    (hcalendar : Token.IsPlaceholder CalendarField x) (hspan : Token.IsPlaceholder SpanField x)
    (hpercent : x ≠ '%') (hday : x ≠ 'd') : (@Alphabet.expand? ClockField _ x).isSome := by
  rw [Token.isPlaceholder_iff, CalendarField.isSome_expand?_iff] at hcalendar
  rw [Token.isPlaceholder_iff, SpanField.isSome_expand?_iff] at hspan
  rw [isSome_expand?_iff]
  simp only [List.mem_cons, List.not_mem_nil, or_false] at hcalendar hspan ⊢
  rcases hcalendar with rfl | rfl | rfl | rfl | rfl | hclock
  · exact absurd rfl hpercent
  · simp at hspan
  · simp at hspan
  · exact absurd rfl hday
  · simp at hspan
  · exact hclock

namespace TemplateText

/-- A text that both kinds accept says the same in both, if it has no placeholder for the day. Neither
the date nor a sign can occur in it. -/
theorem interpret_calendar_eq_span {calendar : List (Token CalendarField)}
    {span : List (Token SpanField)} {text : List Char}
    (hcalendar : Token.compile CalendarField text = .ok calendar)
    (hspan : Token.compile SpanField text = .ok span) (hday : ¬ Has text 'd')
    (date : Date) (negative : Bool) (nanos : Nat) :
    interpret (Placeholder.calendar date nanos) text =
      interpret (Placeholder.span negative nanos) text := by
  apply interpret_congr
  intro x hx hpercent
  have hne : x ≠ 'd' := by
    rintro rfl
    exact hday hx
  have hclock := ClockField.isSome_expand?_of_shared (Token.isPlaceholder_of_has hcalendar hx)
    (Token.isPlaceholder_of_has hspan hx) hpercent hne
  rw [Placeholder.calendar_of_clock _ _ hclock, Placeholder.span_of_clock _ _ hclock]

end TemplateText

namespace Instant

variable {source : String} {calendar : InstantTemplate} {template : SpanTemplate}

theorem format_eq_format_sinceEpoch (hcalendar : InstantTemplate.ofString? source = .ok calendar)
    (hspan : SpanTemplate.ofString? source = .ok template)
    (hday : ¬ TemplateText.Has source.toList 'd') (t : Instant) :
    t.format calendar = t.sinceEpoch.format template := by
  have hfinite := (SpanTemplate.ofString?_eq_ok_iff.1 hspan).1
  rw [format_eq_interpret hcalendar t, sinceEpoch, Span.format_finite t.count hfinite]
  exact congrArg String.ofList (TemplateText.interpret_calendar_eq_span
    (InstantTemplate.ofString?_eq_ok_iff.1 hcalendar).1 hfinite hday _ _ t.nanos)

/-- An instant and the time since the epoch are written the same by a text that is a template for
both and has no placeholder for the day. That is because the clock of an instant shows the parts of
the time since the epoch; and the whole days of that time are the number of its date. -/
theorem format_agrees_with_sinceEpoch :
    (∀ (source : String) (calendar : InstantTemplate) (template : SpanTemplate),
      InstantTemplate.ofString? source = .ok calendar →
      SpanTemplate.ofString? source = .ok template →
      ¬ TemplateText.Has source.toList 'd' →
      ∀ t : Instant, t.format calendar = t.sinceEpoch.format template ∧
        t.formatWith? source = .ok (t.sinceEpoch.format template)) ∧
    ∀ t : Instant,
      (∀ field : ClockField, t.toDateTime.clock field = t.sinceEpoch.clock field) ∧
        (t.sinceEpoch.days : Int) = t.toDateTime.dayNumber := by
  constructor
  · intro source calendar template hcalendar hspan hday t
    have hformat := format_eq_format_sinceEpoch hcalendar hspan hday t
    refine ⟨hformat, ?_⟩
    rw [← hformat, formatWith?, hcalendar]
    rfl
  · intro t
    exact ⟨fun field => (t.clock_sinceEpoch field).symm, t.days_sinceEpoch⟩

/-- A doubled percent sign before the letter of the day is not its placeholder. -/
theorem format_agrees_with_sinceEpoch_of_clock :
    ∃ (calendar : InstantTemplate) (template : SpanTemplate),
      InstantTemplate.ofString? "%%d %T.%3%6%9" = .ok calendar ∧
      SpanTemplate.ofString? "%%d %T.%3%6%9" = .ok template ∧
      ∀ t : Instant, t.format calendar = t.sinceEpoch.format template := by
  have hcalendar : (Token.compile CalendarField "%%d %T.%3%6%9".toList).isOk := by cbv
  have hspan : (Token.compile SpanField "%%d %T.%3%6%9".toList).isOk := by cbv
  have hday : ¬ TemplateText.Has "%%d %T.%3%6%9".toList 'd' := by decide +kernel
  have hcalendar := InstantTemplate.ofString?_eq_ok (Token.ofString?_eq_ofConstant hcalendar)
  have hspan := SpanTemplate.ofString?_eq_ok (Token.ofString?_eq_ofConstant hspan)
  exact ⟨_, _, hcalendar, hspan,
    fun t => (format_agrees_with_sinceEpoch.1 _ _ _ hcalendar hspan hday t).1⟩

/-- The placeholder of the day has to be left out: it shows 01 at the epoch, after no days. -/
example : Placeholder.calendar epoch.toDateTime.toDate 0 'd' ≠ Placeholder.span false 0 'd' := by
  decide

end Instant

end UtcTime
