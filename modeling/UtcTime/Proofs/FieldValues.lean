/-
Module: UtcTime.Proofs.FieldValues
Purpose: How the values of single fields make a date and time. Values within the bounds of their
  fields make one exactly if the calendar has their day, and that one shows the values again.
Trusted boundary: none
Main exports: CalendarField.initial, DateTime.HasFields, FieldValues.Bounded,
  FieldValues.toDateTime?_eq_some_iff, FieldValues.toDateTime?_eq_none_iff
-/
import UtcTime.Template.Reading

namespace UtcTime

namespace CalendarField

/-- The value at the epoch, 1970-01-01 00:00. It stands for a field that a template does not name. -/
def initial : CalendarField → Nat
  | year => 1970
  | month | day => 1
  | clock _ => 0

/-- A field that is not read has a value that could be read. -/
theorem initial_bounds (f : CalendarField) : f.least ≤ f.initial ∧ f.initial ≤ f.greatest := by
  cases f with
  | year => decide
  | month => decide
  | day => decide
  | clock field => exact ⟨Nat.le_refl 0, Nat.zero_le _⟩

end CalendarField

namespace DateTime

/-- The three groups of digits make up the nanoseconds of the second. -/
theorem nanosecond_eq_clock (time : DateTime) :
    time.nanosecond =
      time.clock .milli * 1000000 + time.clock .micro * 1000 + time.clock .nano := by
  simp only [clock]
  omega

/-- A date and time has the given values in its fields. -/
structure HasFields (time : DateTime) (value : CalendarField → Nat) : Prop where
  year : time.year = value .year
  month : time.month = value .month
  day : time.day = value .day
  clock : ∀ field : ClockField, time.clock field = value (.clock field)

/-- No two dates and times have the same fields. -/
theorem HasFields.unique {first second : DateTime} {value : CalendarField → Nat}
    (h : first.HasFields value) (h' : second.HasFields value) : first = second := by
  have hclock : ∀ field : ClockField, first.clock field = second.clock field :=
    fun field => (h.clock field).trans (h'.clock field).symm
  rw [DateTime.ext_iff]
  refine ⟨h.year.trans h'.year.symm, h.month.trans h'.month.symm, h.day.trans h'.day.symm,
    hclock .hour, hclock .minute, hclock .second, ?_⟩
  rw [nanosecond_eq_clock, nanosecond_eq_clock, hclock, hclock, hclock]

end DateTime

namespace FieldValues

/-- The values that a function gives to the fields. -/
def ofFunction (value : CalendarField → Nat) : FieldValues where
  year := value .year
  month := value .month
  day := value .day
  clock := fun field => value (.clock field)

@[simp] theorem get_ofFunction (value : CalendarField → Nat) : (ofFunction value).get = value := by
  funext f
  cases f <;> rfl

theorem get_empty (f : CalendarField) : ({} : FieldValues).get f = f.initial := by
  cases f <;> rfl

/-- Values are the same if every field has the same value in both. -/
theorem ext_get {first second : FieldValues} (h : ∀ f, first.get f = second.get f) :
    first = second := by
  have hclock : first.clock = second.clock := funext fun field => h (.clock field)
  cases first
  cases second
  rw [FieldValues.mk.injEq]
  exact ⟨h .year, h .month, h .day, hclock⟩

/-- Every value is within the bounds of its field. -/
def Bounded (values : FieldValues) : Prop :=
  ∀ f : CalendarField, f.least ≤ values.get f ∧ values.get f ≤ f.greatest

variable {values : FieldValues}

theorem Bounded.clock_lt (h : Bounded values) (field : ClockField) :
    values.clock field < field.limit := by
  have hle : values.clock field ≤ field.limit - 1 := (h (.clock field)).2
  have hpos : 0 < field.limit := by cases field <;> decide
  exact (Nat.le_sub_one_iff_lt hpos).1 hle

/-- Three groups of digits within their bounds make up a fraction of a second. -/
theorem Bounded.nanosecond_lt (h : Bounded values) : values.nanosecond < 1000000000 := by
  have hmilli : values.clock .milli < 1000 := h.clock_lt .milli
  have hmicro : values.clock .micro < 1000 := h.clock_lt .micro
  have hnano : values.clock .nano < 1000 := h.clock_lt .nano
  simp only [nanosecond]
  omega

/-- The three groups of digits are those of the nanoseconds that they make up. -/
theorem Bounded.nanosecond_eq_iff (h : Bounded values) {n : Nat} :
    n = values.nanosecond ↔ n / 1000000 = values.clock .milli ∧
      n / 1000 % 1000 = values.clock .micro ∧ n % 1000 = values.clock .nano := by
  have hmilli : values.clock .milli < 1000 := h.clock_lt .milli
  have hmicro : values.clock .micro < 1000 := h.clock_lt .micro
  have hnano : values.clock .nano < 1000 := h.clock_lt .nano
  simp only [nanosecond]
  omega

/-- The date and time made from bounded values is the one that has them. -/
theorem toDateTime?_eq_some_iff (h : Bounded values) {time : DateTime} :
    values.toDateTime? = some time ↔ time.HasFields values.get := by
  rw [toDateTime?, DateTime.ofFields?_eq_some_iff, h.nanosecond_eq_iff]
  constructor
  · rintro ⟨hyear, hmonth, hday, hhour, hminute, hsecond, hmilli, hmicro, hnano⟩
    refine ⟨hyear, hmonth, hday, ?_⟩
    intro field
    cases field with
    | hour => exact hhour
    | minute => exact hminute
    | second => exact hsecond
    | milli => exact hmilli
    | micro => exact hmicro
    | nano => exact hnano
  · rintro ⟨hyear, hmonth, hday, hclock⟩
    exact ⟨hyear, hmonth, hday, hclock .hour, hclock .minute, hclock .second, hclock .milli,
      hclock .micro, hclock .nano⟩

/-- The date and time that bounded values make on a day of the calendar. -/
def Bounded.toDateTime (h : Bounded values)
    (hday : values.day ≤ Date.daysInMonth values.year values.month) : DateTime where
  year := values.year
  month := values.month
  day := values.day
  month_pos := (h .month).1
  month_le := (h .month).2
  day_pos := (h .day).1
  day_le := hday
  hour := values.clock .hour
  minute := values.clock .minute
  second := values.clock .second
  nanosecond := values.nanosecond
  hour_lt := h.clock_lt .hour
  minute_lt := h.clock_lt .minute
  second_lt := h.clock_lt .second
  nanosecond_lt := h.nanosecond_lt

/-- Values within their bounds are a date and time if the month has the day. -/
theorem Bounded.toDateTime?_eq (h : Bounded values)
    (hday : values.day ≤ Date.daysInMonth values.year values.month) :
    values.toDateTime? = some (h.toDateTime hday) :=
  DateTime.ofFields?_eq_some_iff.2 ⟨rfl, rfl, rfl, rfl, rfl, rfl, rfl⟩

/-- Only a day that its month does not have keeps bounded values from being a date and time. -/
theorem toDateTime?_eq_none_iff (h : Bounded values) :
    values.toDateTime? = none ↔ ¬ values.day ≤ Date.daysInMonth values.year values.month := by
  constructor
  · intro hnone hday
    rw [h.toDateTime?_eq hday] at hnone
    cases hnone
  · intro hday
    cases hvalues : values.toDateTime? with
    | none => rfl
    | some time =>
        obtain ⟨hyear, hmonth, hdate, -⟩ := (toDateTime?_eq_some_iff h).1 hvalues
        have hle := time.day_le
        rw [hyear, hmonth, hdate] at hle
        exact absurd hle hday

end FieldValues

end UtcTime
