/-
Module: UtcTime.Proofs.CivilOrder
Purpose: The order of time is the order of what a calendar and a clock show, looked at from the year
  down. Numbers written in a mixed radix compare by their most significant digit that differs; the
  count of a date and time is such a number, except that the months of the calendar take the place
  of a radix for its days.
Trusted boundary: none
Main exports: compare_mul_add, Date.compare_dayNumber, DateTime.compare_epochNanos,
  CalendarField.significance, Instant.compare_eq, DateTime.civil_order_is_time_order
-/
import UtcTime.Proofs.FieldText

namespace UtcTime

/-! ### Numbers in a mixed radix

Comparisons are written as equations between orderings, joined by one that decides first, so that
they can be chained by rewriting. -/

/-- A comparison that follows another one where that one decides, and otherwise a third. -/
theorem eq_then_of {first second both : Ordering} (hlt : first = .lt → both = .lt)
    (hgt : first = .gt → both = .gt) (heq : first = .eq → both = second) :
    both = first.then second := by
  cases first with
  | lt => exact hlt rfl
  | eq => exact heq rfl
  | gt => exact hgt rfl

theorem compare_natCast (m n : Nat) : compare (m : Int) (n : Int) = compare m n := by
  cases h : compare m n with
  | lt => exact Int.compare_eq_lt.2 (Int.ofNat_lt.2 (Nat.compare_eq_lt.1 h))
  | eq => exact Int.compare_eq_eq.2 (congrArg Nat.cast (Nat.compare_eq_eq.1 h))
  | gt => exact Int.compare_eq_gt.2 (Int.ofNat_lt.2 (Nat.compare_eq_gt.1 h))

/-- A difference has the sign of the comparison. -/
theorem compare_sub_zero (m n : Int) : compare (m - n) 0 = compare m n := by
  cases h : compare m n with
  | lt => exact Int.compare_eq_lt.2 (Int.sub_neg_of_lt (Int.compare_eq_lt.1 h))
  | eq => exact Int.compare_eq_eq.2 (Int.sub_eq_zero_of_eq (Int.compare_eq_eq.1 h))
  | gt => exact Int.compare_eq_gt.2 (Int.sub_pos_of_lt (Int.compare_eq_gt.1 h))

/-- The digit below the radix counts only where the rest is the same. -/
theorem compare_mul_add {x y radix : Int} {m n : Nat} (hm : m < radix) (hn : n < radix) :
    compare (x * radix + m) (y * radix + n) = (compare x y).then (compare m n) := by
  -- Less above the radix is less altogether, whatever stands below it.
  have hbelow : ∀ {x y : Int} {m : Nat} (n : Nat), m < radix → x < y →
      x * radix + m < y * radix + n := by
    intro x y m n hm hlt
    have hpos : 0 ≤ radix := Int.le_trans (Int.natCast_nonneg m) (Int.le_of_lt hm)
    have hscaled := Int.mul_le_mul_of_nonneg_right (Int.add_one_le_of_lt hlt) hpos
    rw [Int.add_mul] at hscaled
    omega
  apply eq_then_of
  · intro h
    exact Int.compare_eq_lt.2 (hbelow n hm (Int.compare_eq_lt.1 h))
  · intro h
    exact Int.compare_eq_gt.2 (hbelow m hn (Int.compare_eq_gt.1 h))
  · intro h
    rw [Int.compare_eq_eq.1 h, ← compare_natCast]
    cases hdigit : compare (m : Int) (n : Int) with
    | lt => exact Int.compare_eq_lt.2 (Int.add_lt_add_left (Int.compare_eq_lt.1 hdigit) _)
    | eq => exact Int.compare_eq_eq.2 (congrArg (y * radix + ·) (Int.compare_eq_eq.1 hdigit))
    | gt => exact Int.compare_eq_gt.2 (Int.add_lt_add_left (Int.compare_eq_gt.1 hdigit) _)

theorem compare_mul_add_nat {x y radix m n : Nat} (hm : m < radix) (hn : n < radix) :
    compare (x * radix + m) (y * radix + n) = (compare x y).then (compare m n) := by
  rw [← compare_natCast (x * radix + m), ← compare_natCast x, Int.natCast_add, Int.natCast_add,
    Int.natCast_mul, Int.natCast_mul]
  exact compare_mul_add (Int.ofNat_lt.2 hm) (Int.ofNat_lt.2 hn)

/-! ### Dates and times

The count of nanoseconds is a number in a mixed radix over the day number, and day numbers are in
the order of dates. -/

/-- Days are in the order of their dates. -/
theorem Date.compare_dayNumber (a b : Date) :
    compare a.dayNumber b.dayNumber =
      ((compare a.year b.year).then (compare a.month b.month)).then (compare a.day b.day) := by
  have hlt : ∀ {a b : Date}, a.Before b → compare a.dayNumber b.dayNumber = .lt :=
    fun h => Int.compare_eq_lt.2 (Date.dayNumber_lt_of_before h)
  have hgt : ∀ {a b : Date}, b.Before a → compare a.dayNumber b.dayNumber = .gt :=
    fun h => Int.compare_eq_gt.2 (Date.dayNumber_lt_of_before h)
  -- From the year down, a field counts only where those above it are the same.
  rw [Ordering.then_assoc]
  apply eq_then_of
  · exact fun h => hlt (Or.inl (Int.compare_eq_lt.1 h))
  · exact fun h => hgt (Or.inl (Int.compare_eq_gt.1 h))
  intro hyear
  have hyear := Int.compare_eq_eq.1 hyear
  apply eq_then_of
  · exact fun h => hlt (Or.inr ⟨hyear, Or.inl (Nat.compare_eq_lt.1 h)⟩)
  · exact fun h => hgt (Or.inr ⟨hyear.symm, Or.inl (Nat.compare_eq_gt.1 h)⟩)
  intro hmonth
  have hmonth := Nat.compare_eq_eq.1 hmonth
  cases hday : compare a.day b.day with
  | lt => exact hlt (Or.inr ⟨hyear, Or.inr ⟨hmonth, Nat.compare_eq_lt.1 hday⟩⟩)
  | eq =>
      have hsame : a = b := Date.ext hyear hmonth (Nat.compare_eq_eq.1 hday)
      rw [hsame]
      exact Int.compare_eq_eq.2 rfl
  | gt => exact hgt (Or.inr ⟨hyear.symm, Or.inr ⟨hmonth.symm, Nat.compare_eq_gt.1 hday⟩⟩)

namespace DateTime

/-- The second of the day compares by hour, minute and second. -/
theorem compare_secondOfDay (a b : DateTime) :
    compare (a.hour * 3600 + a.minute * 60 + a.second)
        (b.hour * 3600 + b.minute * 60 + b.second) =
      ((compare a.hour b.hour).then (compare a.minute b.minute)).then
        (compare a.second b.second) := by
  have hscale : ∀ hour minute : Nat, hour * 3600 + minute * 60 = (hour * 60 + minute) * 60 := by
    omega
  rw [hscale, hscale, compare_mul_add_nat a.second_lt b.second_lt,
    compare_mul_add_nat a.minute_lt b.minute_lt]

/-- The order of counts of nanoseconds is the order of fields. -/
theorem compare_epochNanos (a b : DateTime) :
    compare a.epochNanos b.epochNanos = compare a b := by
  have hnano : ∀ time : DateTime, (time.nanosecond : Int) < 1000000000 :=
    fun time => Int.ofNat_lt.2 time.nanosecond_lt
  have hsecond : ∀ time : DateTime,
      ((time.hour * 3600 + time.minute * 60 + time.second : Nat) : Int) < 86400 := by
    intro time
    have hhour := time.hour_lt
    have hminute := time.minute_lt
    have hsecond := time.second_lt
    omega
  rw [epochNanos, epochNanos, compare_mul_add (hnano a) (hnano b), epochSeconds, epochSeconds,
    compare_mul_add (hsecond a) (hsecond b), Date.compare_dayNumber, compare_secondOfDay]
  simp only [← Ordering.then_assoc]
  rfl

/-- The fraction of the second compares by its three groups of digits. -/
theorem compare_nanosecond (a b : DateTime) :
    compare a.nanosecond b.nanosecond =
      ((compare (a.clock .milli) (b.clock .milli)).then
        (compare (a.clock .micro) (b.clock .micro))).then
          (compare (a.clock .nano) (b.clock .nano)) := by
  have hsplit : ∀ time : DateTime, time.nanosecond =
      (time.clock .milli * 1000 + time.clock .micro) * 1000 + time.clock .nano := by
    intro time
    rw [nanosecond_eq_clock]
    omega
  have hmicro : ∀ time : DateTime, time.clock .micro < 1000 := fun time => time.clock_lt .micro
  have hnano : ∀ time : DateTime, time.clock .nano < 1000 := fun time => time.clock_lt .nano
  rw [hsplit a, hsplit b, compare_mul_add_nat (hnano a) (hnano b),
    compare_mul_add_nat (hmicro a) (hmicro b)]

end DateTime

/-! ### Fields from the most significant on

The list of all fields, year first. Comparing instants is comparing the values of the fields along
this list. -/

namespace CalendarField

/-- The fields from the year down to the nanoseconds. -/
def significance : List CalendarField :=
  [.year, .month, .day, .clock .hour, .clock .minute, .clock .second, .clock .milli,
    .clock .micro, .clock .nano]

theorem nodup_significance : significance.Nodup := by decide

theorem mem_significance (f : CalendarField) : f ∈ significance := by
  cases f with
  | clock field => cases field <;> decide
  | _ => decide

end CalendarField

/-- Dates and times whose year is not negative compare by the values of their fields. -/
theorem DateTime.compare_fieldValue {a b : DateTime} (ha : 0 ≤ a.year) (hb : 0 ≤ b.year) :
    compare a b = compare (CalendarField.significance.map a.fieldValue)
      (CalendarField.significance.map b.fieldValue) := by
  have hyear : compare a.year b.year = compare (a.fieldValue .year) (b.fieldValue .year) := by
    rw [← compare_natCast, (hasFields_fieldValue ha).year, (hasFields_fieldValue hb).year]
  change DateTime.compare a b = _
  rw [DateTime.compare, compare_nanosecond, hyear]
  simp only [CalendarField.significance, List.map_cons, List.map_nil, List.compare_cons_cons,
    List.compare_nil_nil, Ordering.then_eq, Ordering.then_assoc]
  rfl

namespace Instant

/-- Instants are in the order of their fields. -/
theorem compare_eq (a b : Instant) :
    compare a b = compare (CalendarField.significance.map a.toDateTime.fieldValue)
      (CalendarField.significance.map b.toDateTime.fieldValue) := by
  have hyear : ∀ t : Instant, 0 ≤ t.toDateTime.year :=
    fun t => Int.le_trans (by decide) t.year_bounds.1
  rw [← DateTime.compare_fieldValue (hyear a) (hyear b), ← DateTime.compare_epochNanos,
    epochNanos_toDateTime, epochNanos_toDateTime, compare_natCast]
  rfl

/-- Instants are in the order of their dates and times. -/
theorem compare_toDateTime (t u : Instant) :
    compare t.toDateTime u.toDateTime = compare t u := by
  rw [← DateTime.compare_epochNanos, epochNanos_toDateTime, epochNanos_toDateTime]
  exact compare_natCast t.nanos u.nanos

/-- The spans from the epoch are in the order of the instants. -/
theorem compare_sinceEpoch (t u : Instant) :
    compare t.sinceEpoch u.sinceEpoch = compare t u :=
  compare_natCast t.nanos u.nanos

/-- The sign of the time from one instant to another tells which of them is later. -/
theorem compare_since_zero (t u : Instant) : compare (t.since u) .zero = compare t u := by
  rw [← compare_sinceEpoch]
  exact compare_sub_zero t.nanos u.nanos

end Instant

/-- The order of fields from the year down is the order of time: dates and times of any year compare
like their counts of nanoseconds, and different ones have different counts. For instants this is their
own order, which is that of the spans from the epoch to them, and the sign of the time from one to the
other says the same. -/
theorem DateTime.civil_order_is_time_order :
    (∀ a b : DateTime, compare a b = compare a.epochNanos b.epochNanos) ∧
    (∀ a b : DateTime, a.epochNanos = b.epochNanos → a = b) ∧
    ∀ t u : Instant,
      compare t.toDateTime u.toDateTime = compare t u ∧
      compare t.sinceEpoch u.sinceEpoch = compare t u ∧
      compare (t.since u) .zero = compare t u := by
  refine ⟨fun a b => (compare_epochNanos a b).symm, ?_, ?_⟩
  · intro a b h
    rw [← ofEpochNanos_epochNanos a, h, ofEpochNanos_epochNanos]
  · intro t u
    exact ⟨t.compare_toDateTime u, t.compare_sinceEpoch u, t.compare_since_zero u⟩

end UtcTime
