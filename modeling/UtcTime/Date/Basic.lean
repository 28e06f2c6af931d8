/-
Module: UtcTime.Date.Basic
Purpose: Dates of the Gregorian calendar, extended without end to both sides. The year zero and the
  years before it are years like any other.
Trusted boundary: none
Main exports: Date, Date.IsLeap, Date.daysInMonth, Date.ofFields?
-/

namespace UtcTime

namespace Date

/-- Every fourth year is a leap year, except that of the full centuries only every fourth one is. -/
def IsLeap (year : Int) : Prop :=
  (year % 4 = 0 ∧ year % 100 ≠ 0) ∨ year % 400 = 0

instance (year : Int) : Decidable (IsLeap year) :=
  inferInstanceAs (Decidable ((year % 4 = 0 ∧ year % 100 ≠ 0) ∨ year % 400 = 0))

/-- The length of a month, counted from one for January. Other numbers name no month, and have no
days. -/
def daysInMonth (year : Int) : Nat → Nat
  | 1 | 3 | 5 | 7 | 8 | 10 | 12 => 31
  | 4 | 6 | 9 | 11 => 30
  | 2 => if IsLeap year then 29 else 28
  | _ => 0

end Date

/-- A day of the calendar. -/
@[ext] structure Date where
  year : Int
  month : Nat
  day : Nat
  month_pos : 1 ≤ month
  month_le : month ≤ 12
  day_pos : 1 ≤ day
  day_le : day ≤ Date.daysInMonth year month
deriving DecidableEq

namespace Date

/-- The date with the given fields, if the calendar has it. -/
def ofFields? (year : Int) (month day : Nat) : Option Date :=
  if h : (1 ≤ month ∧ month ≤ 12) ∧ 1 ≤ day ∧ day ≤ daysInMonth year month then
    some ⟨year, month, day, h.1.1, h.1.2, h.2.1, h.2.2⟩
  else
    none

/-- A date is made of its own fields, and of no others. -/
theorem ofFields?_eq_some_iff {year : Int} {month day : Nat} {date : Date} :
    ofFields? year month day = some date ↔
      date.year = year ∧ date.month = month ∧ date.day = day := by
  constructor
  · intro h
    simp only [ofFields?] at h
    split at h
    · cases h; exact ⟨rfl, rfl, rfl⟩
    · contradiction
  · rintro ⟨rfl, rfl, rfl⟩
    simp [ofFields?, date.month_pos, date.month_le, date.day_pos, date.day_le]

end Date

end UtcTime
