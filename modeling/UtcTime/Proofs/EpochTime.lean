/-
Module: UtcTime.Proofs.EpochTime
Purpose: Counts of nanoseconds since the epoch and dates with a time of day are two names for the
  same thing: each is got back from the other, so an instant and its date and time are too.
Trusted boundary: none
Main exports: DateTime.epochNanos_ofEpochNanos, DateTime.ofEpochNanos_epochNanos,
  DateTime.year_ofEpochNanos_bounds, Instant.year_bounds, Instant.ofDateTime?_toDateTime,
  Instant.toDateTime_injective, DateTime.epoch_round_trip
-/
import UtcTime.Instant.Basic
import UtcTime.Proofs.DayNumbering

namespace UtcTime

namespace DateTime

/-- The date and time of a count has that count. -/
theorem epochNanos_ofEpochNanos (nanos : Int) : (ofEpochNanos nanos).epochNanos = nanos := by
  have hday := Date.dayNumber_ofDayNumber (nanos / 1000000000 / 86400)
  simp only [epochNanos, epochSeconds, ofEpochNanos, hday]
  omega

theorem epochNanos_div (time : DateTime) : time.epochNanos / 1000000000 = time.epochSeconds := by
  have hnano := time.nanosecond_lt
  simp only [epochNanos]
  omega

theorem epochSeconds_div (time : DateTime) : time.epochSeconds / 86400 = time.dayNumber := by
  have hhour := time.hour_lt
  have hminute := time.minute_lt
  have hsecond := time.second_lt
  simp only [epochSeconds]
  omega

/-- The count of a date and time belongs to that date and time. -/
theorem ofEpochNanos_epochNanos (time : DateTime) : ofEpochNanos time.epochNanos = time := by
  have hdate : (ofEpochNanos time.epochNanos).toDate = time.toDate := by
    simp only [ofEpochNanos, epochNanos_div, epochSeconds_div, Date.ofDayNumber_dayNumber]
  have hhour := time.hour_lt
  have hminute := time.minute_lt
  have hsecond := time.second_lt
  have hnano := time.nanosecond_lt
  rw [Date.ext_iff] at hdate
  rw [DateTime.ext_iff]
  refine ⟨hdate.1, hdate.2.1, hdate.2.2, ?_, ?_, ?_, ?_⟩
  all_goals
    simp only [ofEpochNanos, epochNanos_div]
    simp only [epochSeconds, epochNanos]
    omega

/-- The date of a count is in a year or later from the first nanosecond of that year on. -/
theorem le_year_ofEpochNanos_iff (year nanos : Int) :
    year ≤ (ofEpochNanos nanos).year ↔ Date.newYear year ≤ nanos / 1000000000 / 86400 := by
  have hyear := Date.le_year_iff (ofEpochNanos nanos).toDate year
  rwa [ofEpochNanos, Date.dayNumber_ofDayNumber] at hyear

/-- A count of 64 bits without sign stays within years of four digits. -/
theorem year_ofEpochNanos_bounds {nanos : Int} (hpos : 0 ≤ nanos) (hlt : nanos < 2 ^ 64) :
    1970 ≤ (ofEpochNanos nanos).year ∧ (ofEpochNanos nanos).year ≤ 2554 := by
  have hlow := le_year_ofEpochNanos_iff 1970 nanos
  have hhigh := le_year_ofEpochNanos_iff 2555 nanos
  have hepoch : Date.newYear 1970 = 0 := rfl
  have hend : Date.newYear 2555 = 213667 := rfl
  omega

end DateTime

namespace Instant

/-- The last instant lies in the year 2262. -/
theorem year_bounds (t : Instant) : 1970 ≤ t.toDateTime.year ∧ t.toDateTime.year ≤ 2262 := by
  have hle := t.nanos_le
  have hlow := DateTime.le_year_ofEpochNanos_iff 1970 t.nanos
  have hhigh := DateTime.le_year_ofEpochNanos_iff 2263 t.nanos
  have hepoch : Date.newYear 1970 = 0 := rfl
  have hend : Date.newYear 2263 = 107016 := rfl
  simp only [toDateTime, Count.greatest] at *
  omega

theorem epochNanos_toDateTime (t : Instant) : t.toDateTime.epochNanos = t.nanos :=
  DateTime.epochNanos_ofEpochNanos t.nanos

/-- The date and time of an instant leads back to it. -/
theorem ofDateTime?_toDateTime (t : Instant) : ofDateTime? t.toDateTime = .ok t := by
  rw [ofDateTime?, epochNanos_toDateTime, ofNanos?_eq_ok_iff]

/-- Different instants have different dates and times. -/
theorem toDateTime_injective {t t' : Instant} (h : t.toDateTime = t'.toDateTime) : t = t' := by
  have hnanos := congrArg DateTime.epochNanos h
  rw [epochNanos_toDateTime, epochNanos_toDateTime] at hnanos
  exact Instant.ext (Int.ofNat_inj.1 hnanos)

/-- A date and time whose count is within the range of instants belongs to an instant. -/
theorem exists_ofDateTime?_eq_ok {time : DateTime} (hpos : 0 ≤ time.epochNanos)
    (hle : time.epochNanos ≤ Count.greatest) :
    ∃ t : Instant, ofDateTime? time = .ok t ∧ t.toDateTime = time := by
  refine ⟨⟨time.epochNanos.toNat, by rw [Int.toNat_of_nonneg hpos]; exact hle⟩, ?_, ?_⟩
  · rw [ofDateTime?, ofNanos?_eq_ok_iff]
    exact Int.toNat_of_nonneg hpos
  · rw [toDateTime, Int.toNat_of_nonneg hpos, DateTime.ofEpochNanos_epochNanos]

end Instant

/-- Counts of nanoseconds and dates with a time of day are inverse to each other. The fields made
from a count are accepted as a date and time, and for counts of 64 bits without sign the year is one
of 16 bits. An instant is got back from its date and time; a date and time whose count is within the
range of instants belongs to an instant, and any other is out of range. -/
theorem DateTime.epoch_round_trip :
    (∀ nanos : Int, let time := ofEpochNanos nanos
      ofFields? time.year time.month time.day time.hour time.minute time.second time.nanosecond =
        some time ∧ time.epochNanos = nanos) ∧
    (∀ nanos : Int, 0 ≤ nanos → nanos < 2 ^ 64 →
      0 ≤ (ofEpochNanos nanos).year ∧ (ofEpochNanos nanos).year < 2 ^ 16) ∧
    (∀ time : DateTime, ofEpochNanos time.epochNanos = time) ∧
    (∀ t : Instant, Instant.ofDateTime? t.toDateTime = .ok t) ∧
    (∀ time : DateTime, 0 ≤ time.epochNanos ∧ time.epochNanos ≤ Count.greatest →
      ∃ t : Instant, Instant.ofDateTime? time = .ok t ∧ t.toDateTime = time) ∧
    ∀ time : DateTime, ¬ (0 ≤ time.epochNanos ∧ time.epochNanos ≤ Count.greatest) →
      Instant.ofDateTime? time = .error .outOfRange := by
  refine ⟨?_, ?_, ofEpochNanos_epochNanos, Instant.ofDateTime?_toDateTime, ?_, ?_⟩
  · intro nanos
    exact ⟨ofFields?_eq_some_iff.2 ⟨rfl, rfl, rfl, rfl, rfl, rfl, rfl⟩,
      epochNanos_ofEpochNanos nanos⟩
  · intro nanos hpos hlt
    have hyear := year_ofEpochNanos_bounds hpos hlt
    omega
  · rintro time ⟨hpos, hle⟩
    exact Instant.exists_ofDateTime?_eq_ok hpos hle
  · intro time hrange
    exact Instant.ofNanos?_eq_error_iff.2 ⟨hrange, rfl⟩

end UtcTime
