/-
Module: UtcTime.Count
Purpose: Nanosecond counts: the integers that fit a signed 64-bit word. Arithmetic is done on the
  exact integers; a count is made from an exact value only where that value fits.
Trusted boundary: none
Main exports: Count, Count.Fits, Count.ofInt?
-/

namespace UtcTime

namespace Count

/-- The least nanosecond count, about 292 years before the reference point. -/
def least : Int := -9223372036854775808

/-- The greatest nanosecond count, about 292 years after the reference point. -/
def greatest : Int := 9223372036854775807

/-- An exact integer that is a nanosecond count. -/
def Fits (n : Int) : Prop := least ≤ n ∧ n ≤ greatest

instance (n : Int) : Decidable (Fits n) :=
  inferInstanceAs (Decidable (least ≤ n ∧ n ≤ greatest))

end Count

/-- A whole number of nanoseconds that fits a signed 64-bit word. -/
@[ext] structure Count where
  val : Int
  fits : Count.Fits val
deriving DecidableEq

namespace Count

/-- The count with the given value, where there is one. -/
def ofInt? (n : Int) : Option Count :=
  if h : Fits n then some ⟨n, h⟩ else none

theorem fits_iff {n : Int} :
    Fits n ↔ -9223372036854775808 ≤ n ∧ n ≤ 9223372036854775807 := Iff.rfl

/-- A count is made of its own value only. -/
theorem ofInt?_eq_some_iff {n : Int} {c : Count} : ofInt? n = some c ↔ c.val = n := by
  constructor
  · intro h
    simp only [ofInt?] at h
    split at h
    · cases h; rfl
    · contradiction
  · rintro rfl
    simp [ofInt?, c.fits]

/-- There is no count exactly where the value does not fit. -/
theorem ofInt?_eq_none_iff {n : Int} : ofInt? n = none ↔ ¬ Fits n := by
  simp [ofInt?]

end Count

end UtcTime
