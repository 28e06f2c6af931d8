/-
Module: UtcTime.Proofs.SpanScaling
Purpose: Multiples and quotients of spans by integers. A product divided by its factor is the span that
  was multiplied. A division of a finite span leaves a remainder, which is smaller than the divisor and
  does not point the other way; going back from quotient and remainder to the span needs no count that
  does not fit.
Trusted boundary: none
Main exports: Span.div?_of_mul?, Span.exists_remainder_of_div?, Count.fits_tdiv_iff,
  Span.div?_finite_eq_error_iff, Span.scaling_is_invertible
-/
import UtcTime.Span.Basic

namespace UtcTime

/-! ### Division that rounds toward zero

The quotient and the remainder of truncated division, with the sign of the remainder and its size.
-/

/-- A remainder lies between zero and what was divided. -/
theorem tmod_between (a b : Int) :
    (0 ≤ a.tmod b ∧ a.tmod b ≤ a) ∨ (a ≤ a.tmod b ∧ a.tmod b ≤ 0) := by
  have hle : (a.tmod b).natAbs ≤ a.natAbs := by
    rw [Int.natAbs_tmod]
    exact Nat.mod_le _ _
  rcases Int.le_total 0 a with hpos | hneg
  · have hremainder := Int.tmod_nonneg b hpos
    exact Or.inl ⟨hremainder, by omega⟩
  · have hremainder := Int.tmod_nonneg b (Int.neg_nonneg_of_nonpos hneg)
    rw [Int.neg_tmod] at hremainder
    exact Or.inr ⟨by omega, by omega⟩

theorem sign_tmod_eq (a b : Int) : a.tmod b = 0 ∨ (a.tmod b).sign = a.sign := by
  have hsign := Int.sign_tmod a b
  split at hsign
  · exact Or.inl (Int.sign_eq_zero_iff_zero.1 hsign)
  · exact Or.inr hsign

namespace Count

/-- What lies between zero and a count is a count. -/
theorem fits_of_between {n m : Int} (hn : Fits n)
    (h : (0 ≤ m ∧ m ≤ n) ∨ (n ≤ m ∧ m ≤ 0)) : Fits m := by
  rw [fits_iff] at *
  omega

/-- The only quotient that does not fit is that of the least count by minus one. -/
theorem fits_tdiv_iff (count : Count) {divisor : Int} (h : divisor ≠ 0) :
    Fits (count.val.tdiv divisor) ↔ ¬ (count.val = least ∧ divisor = -1) := by
  have hfits := fits_iff.1 count.fits
  constructor
  · rintro hquotient ⟨hleast, rfl⟩
    rw [hleast, Int.tdiv_neg, Int.tdiv_one] at hquotient
    exact absurd hquotient (by decide)
  · intro hne
    by_cases hunit : divisor.natAbs = 1
    · rcases Int.natAbs_eq divisor with hone | hone
      all_goals rw [hunit] at hone
      · rw [hone, Int.natCast_one, Int.tdiv_one]
        exact count.fits
      · have hlow : count.val ≠ least := fun hleast => hne ⟨hleast, hone⟩
        simp only [least] at hlow
        rw [hone, Int.natCast_one, Int.tdiv_neg, Int.tdiv_one, fits_iff]
        omega
    · -- Any other divisor leaves half of the size at most.
      have hhalf : (count.val.tdiv divisor).natAbs ≤ count.val.natAbs / 2 := by
        rw [Int.natAbs_tdiv]
        exact Nat.div_le_div_left (by omega) (by decide)
      rw [fits_iff]
      omega

end Count

namespace Span

variable {d m q : Span} {n : Int}

/-- A divisor takes back what it did as a factor, also to the sign of an infinite span. -/
theorem div?_of_mul? (hne : n ≠ 0) (h : d.mul? n = .ok m) : m.div? n = .ok d := by
  cases d with
  | finite count =>
      obtain ⟨product, hproduct, rfl⟩ := ofNanos?_eq_ok_iff.1 h
      rw [div?, if_neg hne]
      apply ofNanos?_eq_ok_iff.2
      refine ⟨count, ?_, rfl⟩
      rw [hproduct, Int.mul_tdiv_cancel _ hne]
  | infinite negative =>
      rw [mul?, if_neg hne] at h
      cases h
      rw [div?, if_neg hne]
      cases negative <;> cases decide (n < 0) <;> rfl

/-- A quotient times the divisor is a count, and so is what it leaves of the span. -/
theorem exists_remainder_of_div? {count : Count} (h : (finite count).div? n = .ok q) :
    ∃ product remainder : Count,
      q.mul? n = .ok (finite product) ∧
      (finite count).sub? (finite product) = .ok (finite remainder) ∧
      remainder.val.natAbs < n.natAbs ∧
      (remainder.val = 0 ∨ remainder.val.sign = count.val.sign) ∧
      (finite product).add? (finite remainder) = .ok (finite count) := by
  rw [div?] at h
  split at h
  · cases h
  next hne =>
    obtain ⟨quotient, hquotient, rfl⟩ := ofNanos?_eq_ok_iff.1 h
    have hsplit := Int.tdiv_mul_add_tmod count.val n
    have hbetween := tmod_between count.val n
    have hremainder : Count.Fits (count.val.tmod n) :=
      Count.fits_of_between count.fits hbetween
    -- The product is what the remainder leaves of the count, so it does not go beyond zero either.
    have hproduct : Count.Fits (count.val.tdiv n * n) := by
      apply Count.fits_of_between count.fits
      omega
    refine ⟨⟨_, hproduct⟩, ⟨_, hremainder⟩, ?_, ?_, ?_, sign_tmod_eq count.val n, ?_⟩
    · exact ofNanos?_eq_ok_iff.2 ⟨_, congrArg (· * n) hquotient.symm, rfl⟩
    · apply ofNanos?_eq_ok_iff.2
      refine ⟨_, ?_, rfl⟩
      change count.val.tmod n = count.val - count.val.tdiv n * n
      omega
    · rw [Int.natAbs_tmod]
      exact Nat.mod_lt _ (Int.natAbs_pos.2 hne)
    · exact ofNanos?_eq_ok_iff.2 ⟨count, hsplit.symm, rfl⟩

/-- Dividing a finite span fails only by zero, and for the one quotient that has no count. -/
theorem div?_finite_eq_error_iff {count : Count} {fault : ArithmeticFault} :
    (finite count).div? n = .error fault ↔
      (n = 0 ∧ fault = .divisionByZero) ∨
        (count.val = Count.least ∧ n = -1 ∧ fault = .overflow) := by
  rw [div?]
  split
  next hzero =>
    subst hzero
    simp [eq_comm]
  next hne =>
    rw [ofNanos?_eq_error_iff, Count.fits_tdiv_iff count hne, Decidable.not_not]
    simp only [hne, false_and, false_or, and_assoc]

/-- Multiples and quotients by an integer fit together. A product divided by its factor is the span
that was multiplied, finite or not. Where a finite span has a quotient, the quotient times the divisor
is a span and so is the rest, which is smaller than the divisor and zero or of the sign of the span; the
two together are the span again. A finite span has a quotient by every divisor other than zero, except
for the least span by minus one. -/
theorem scaling_is_invertible :
    (∀ (d m : Span) (n : Int), n ≠ 0 → d.mul? n = .ok m → m.div? n = .ok d) ∧
    (∀ (count : Count) (n : Int) (q : Span), (finite count).div? n = .ok q →
      ∃ product remainder : Count,
        q.mul? n = .ok (finite product) ∧
        (finite count).sub? (finite product) = .ok (finite remainder) ∧
        remainder.val.natAbs < n.natAbs ∧
        (remainder.val = 0 ∨ remainder.val.sign = count.val.sign) ∧
        (finite product).add? (finite remainder) = .ok (finite count)) ∧
    ∀ (count : Count) (n : Int) (fault : ArithmeticFault),
      (finite count).div? n = .error fault ↔
        (n = 0 ∧ fault = .divisionByZero) ∨
          (count.val = Count.least ∧ n = -1 ∧ fault = .overflow) := by
  refine ⟨?_, ?_, ?_⟩
  · intro d m n hne h
    exact div?_of_mul? hne h
  · intro count n q h
    exact exists_remainder_of_div? h
  · intro count n fault
    exact div?_finite_eq_error_iff

/-- Minus seven by two is minus three, and minus one is left. -/
example : (finite ⟨-7, by decide⟩).div? 2 = .ok (finite ⟨-3, by decide⟩) ∧
    (finite ⟨-7, by decide⟩).sub? (finite ⟨-6, by decide⟩) = .ok (finite ⟨-1, by decide⟩) :=
  ⟨rfl, rfl⟩

end Span

end UtcTime
