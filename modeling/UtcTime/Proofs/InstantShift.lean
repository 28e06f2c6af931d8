/-
Module: UtcTime.Proofs.InstantShift
Purpose: Spans act on instants by shifting them. A shift is exact addition of nanoseconds where it
  leads to an instant, so shifts can be undone, the time between two instants is the shift from one to
  the other, and two shifts in a row are the shift by the sum.
Trusted boundary: none
Main exports: Instant.IsShift, Instant.add?_isShift, Instant.sub?_isShift, Instant.add?_eq_ok_iff,
  Instant.sub?_eq_ok_iff, Instant.since_add?_since, Instant.shift_is_exact_action
-/
import UtcTime.Instant.Basic

namespace UtcTime.Instant

/-- What a shift has to give when it leads to an exact count of nanoseconds, or by an infinite span
to none: the instant of a count in range, an overflow for a count that is too large, and a value out
of range in all other cases. -/
structure IsShift (result : Except ArithmeticFault Instant) (target : Option Int) : Prop where
  ok : ∀ w : Instant, result = .ok w ↔
    ∃ n ∈ target, (0 ≤ n ∧ n ≤ Count.greatest) ∧ w.nanos = n
  overflow : result = .error .overflow ↔ ∃ n ∈ target, Count.greatest < n
  outOfRange : result = .error .outOfRange ↔
    ¬ (∃ n ∈ target, 0 ≤ n ∧ n ≤ Count.greatest) ∧ ¬ ∃ n ∈ target, Count.greatest < n

/-! ### One shift

The count is checked for 64 bits first, and then for the range of instants. -/

section

variable {n : Int} {w : Instant}

/-- What passes both checks is the exact count. -/
theorem countThenRange_eq_ok_iff :
    (Span.ofNanos? n >>= ofSpan?) = .ok w ↔ (w.nanos : Int) = n := by
  constructor
  · intro h
    cases hspan : Span.ofNanos? n with
    | error fault =>
        rw [hspan] at h
        cases h
    | ok span =>
        obtain ⟨count, rfl, rfl⟩ := Span.ofNanos?_eq_ok_iff.1 hspan
        rw [hspan] at h
        exact ofNanos?_eq_ok_iff.1 h
  · intro h
    have hspan : Span.ofNanos? n = .ok w.sinceEpoch := Span.ofNanos?_eq_ok_iff.2 ⟨w.count, h, rfl⟩
    rw [hspan]
    exact ofNanos?_eq_ok_iff.2 rfl

/-- A count that is not too small for 64 bits fails the first check only if it is too large. -/
theorem countThenRange_eq_overflow_iff (hlow : Count.least ≤ n) :
    (Span.ofNanos? n >>= ofSpan?) = .error .overflow ↔ Count.greatest < n := by
  cases hspan : Span.ofNanos? n with
  | error fault =>
      obtain ⟨hfits, rfl⟩ := Span.ofNanos?_eq_error_iff.1 hspan
      rw [Count.Fits, not_and, Int.not_le] at hfits
      exact iff_of_true rfl (hfits hlow)
  | ok span =>
      obtain ⟨count, rfl, rfl⟩ := Span.ofNanos?_eq_ok_iff.1 hspan
      refine iff_of_false ?_ (Int.not_lt.2 count.fits.2)
      intro h
      exact nomatch (ofNanos?_eq_error_iff.1 h).2

/-- A count that passes the first check fails the second only if it is negative. -/
theorem countThenRange_eq_outOfRange_iff (hlow : Count.least ≤ n) :
    (Span.ofNanos? n >>= ofSpan?) = .error .outOfRange ↔ n < 0 := by
  cases hspan : Span.ofNanos? n with
  | error fault =>
      obtain ⟨hfits, rfl⟩ := Span.ofNanos?_eq_error_iff.1 hspan
      rw [Count.Fits, not_and, Int.not_le] at hfits
      refine iff_of_false nofun ?_
      have hlarge := hfits hlow
      simp only [Count.greatest] at hlarge
      omega
  | ok span =>
      obtain ⟨count, rfl, rfl⟩ := Span.ofNanos?_eq_ok_iff.1 hspan
      have hle : count.val ≤ Count.greatest := count.fits.2
      change ofNanos? count.val = _ ↔ _
      rw [ofNanos?_eq_error_iff]
      simp [hle]

/-- The two checks in a row sort counts as a shift has to, as long as the count is not too small for
64 bits. No shift leads that far down. -/
theorem isShift_countThenRange (hlow : Count.least ≤ n) :
    IsShift (Span.ofNanos? n >>= ofSpan?) (some n) where
  ok w := by
    rw [countThenRange_eq_ok_iff]
    have hle := w.nanos_le
    simp only [Option.mem_def, Option.some.injEq, exists_eq_left']
    omega
  overflow := by
    rw [countThenRange_eq_overflow_iff hlow]
    simp only [Option.mem_def, Option.some.injEq, exists_eq_left']
  outOfRange := by
    rw [countThenRange_eq_outOfRange_iff hlow]
    simp only [Option.mem_def, Option.some.injEq, exists_eq_left', Count.greatest]
    omega

/-- No shift by an infinite span leads to an instant. -/
theorem isShift_none : IsShift (.error .outOfRange) none where
  ok w := by simp
  overflow := by simp
  outOfRange := by simp

end

variable {t u v w x : Instant} {d e s : Span}

/-- A shift to later adds the exact counts. -/
theorem add?_isShift (t : Instant) (d : Span) :
    IsShift (t.add? d) (d.nanos?.map fun k => t.nanos + k) := by
  cases d with
  | finite c =>
      have hlow : Count.least ≤ t.nanos + c.val := by
        have hfits := c.fits.1
        omega
      exact isShift_countThenRange hlow
  | infinite negative => exact isShift_none

theorem sub?_isShift (t : Instant) (d : Span) :
    IsShift (t.sub? d) (d.nanos?.map fun k => t.nanos - k) := by
  cases d with
  | finite c =>
      have hlow : Count.least ≤ t.nanos - c.val := by
        have hfits := c.fits.2
        simp only [Count.greatest, Count.least] at *
        omega
      exact isShift_countThenRange hlow
  | infinite negative => exact isShift_none

/-- A shift to later leads to the instant with the sum of the counts. -/
theorem add?_eq_ok_iff :
    t.add? d = .ok w ↔ ∃ c : Count, d = .finite c ∧ (w.nanos : Int) = t.nanos + c.val := by
  cases d with
  | finite c =>
      have hcount : t.add? (.finite c) = .ok w ↔ (w.nanos : Int) = t.nanos + c.val :=
        countThenRange_eq_ok_iff
      simp only [hcount, Span.finite.injEq, exists_eq_left']
  | infinite negative => simp [add?, Span.isFinite]

theorem sub?_eq_ok_iff :
    t.sub? d = .ok w ↔ ∃ c : Count, d = .finite c ∧ (w.nanos : Int) = t.nanos - c.val := by
  cases d with
  | finite c =>
      have hcount : t.sub? (.finite c) = .ok w ↔ (w.nanos : Int) = t.nanos - c.val :=
        countThenRange_eq_ok_iff
      simp only [hcount, Span.finite.injEq, exists_eq_left']
  | infinite negative => simp [sub?, Span.isFinite]

/-! ### Undoing a shift

With the exact counts at hand, the laws of shifts are those of addition. -/

/-- A shift to later is undone by the same shift to earlier. -/
theorem sub?_of_add? (h : t.add? d = .ok w) : w.sub? d = .ok t := by
  obtain ⟨c, rfl, hcount⟩ := add?_eq_ok_iff.1 h
  exact sub?_eq_ok_iff.2 ⟨c, rfl, by omega⟩

theorem add?_of_sub? (h : t.sub? d = .ok w) : w.add? d = .ok t := by
  obtain ⟨c, rfl, hcount⟩ := sub?_eq_ok_iff.1 h
  exact add?_eq_ok_iff.2 ⟨c, rfl, by omega⟩

/-- The time between two instants is the one span that leads from the earlier to the later. -/
theorem add?_eq_ok_iff_since : t.add? d = .ok w ↔ d = w.since t := by
  rw [add?_eq_ok_iff]
  constructor
  · rintro ⟨c, rfl, hcount⟩
    refine congrArg Span.finite (Count.ext ?_)
    change c.val = w.nanos - t.nanos
    omega
  · rintro rfl
    refine ⟨_, rfl, ?_⟩
    change (w.nanos : Int) = t.nanos + (w.nanos - t.nanos)
    omega

/-! ### Two shifts

A sum of two spans can overflow. It does not if a shift by the one and then by the other leads to
instants. -/

theorem since_add?_since (t u v : Instant) : (t.since u).add? (u.since v) = .ok (t.since v) := by
  refine Span.ofNanos?_eq_ok_iff.2 ⟨_, ?_, rfl⟩
  change (t.nanos : Int) - v.nanos = t.nanos - u.nanos + (u.nanos - v.nanos)
  omega

/-- Two shifts in a row are the shift by the sum. The sum has a value because it is the time between
two instants. -/
theorem exists_add?_of_add?_add? (h : t.add? d = .ok w) (h' : w.add? e = .ok x) :
    ∃ s, d.add? e = .ok s ∧ t.add? s = .ok x := by
  obtain rfl := add?_eq_ok_iff_since.1 h
  obtain rfl := add?_eq_ok_iff_since.1 h'
  refine ⟨x.since t, ?_, add?_eq_ok_iff_since.2 rfl⟩
  refine Span.ofNanos?_eq_ok_iff.2 ⟨_, ?_, rfl⟩
  change (x.nanos : Int) - t.nanos = w.nanos - t.nanos + (x.nanos - w.nanos)
  omega

/-- A shift by a sum can be made in two steps, if the first step leads to an instant. -/
theorem add?_of_add?_sum (h : t.add? d = .ok w) (hsum : d.add? e = .ok s)
    (h' : t.add? s = .ok x) : w.add? e = .ok x := by
  obtain ⟨c, rfl, hfirst⟩ := add?_eq_ok_iff.1 h
  obtain ⟨c', rfl, hboth⟩ := add?_eq_ok_iff.1 h'
  cases e with
  | finite c'' =>
      obtain ⟨count, hval, hcount⟩ := Span.ofNanos?_eq_ok_iff.1 hsum
      cases hcount
      exact add?_eq_ok_iff.2 ⟨c'', rfl, by omega⟩
  | infinite negative => cases hsum

/-- Spans act on instants by exact shifts. A shift leads to the instant with the exact count, where
there is one; a count that is too large is an overflow, and everything else is out of range. A shift
is undone by the opposite one, and is the time between its ends; the times between three instants add
up. Two shifts in a row are the shift by their sum, and the shift by a sum is two shifts in a row
where the first of them leads to an instant. -/
theorem shift_is_exact_action :
    (∀ (t : Instant) (d : Span), IsShift (t.add? d) (d.nanos?.map fun k => t.nanos + k)) ∧
    (∀ (t : Instant) (d : Span), IsShift (t.sub? d) (d.nanos?.map fun k => t.nanos - k)) ∧
    (∀ (t w : Instant) (d : Span), t.add? d = .ok w → w.sub? d = .ok t ∧ w.since t = d) ∧
    (∀ (t w : Instant) (d : Span), t.sub? d = .ok w → w.add? d = .ok t) ∧
    (∀ t u : Instant, t.add? (u.since t) = .ok u) ∧
    (∀ t u v : Instant, (t.since u).add? (u.since v) = .ok (t.since v)) ∧
    (∀ (t w x : Instant) (d e : Span), t.add? d = .ok w → w.add? e = .ok x →
      ∃ s, d.add? e = .ok s ∧ t.add? s = .ok x) ∧
    (∀ (t w x : Instant) (d e s : Span), t.add? d = .ok w → d.add? e = .ok s →
      t.add? s = .ok x → w.add? e = .ok x) := by
  refine ⟨add?_isShift, sub?_isShift, ?_, ?_, ?_, since_add?_since, ?_, ?_⟩
  · intro t w d h
    exact ⟨sub?_of_add? h, (add?_eq_ok_iff_since.1 h).symm⟩
  · intro t w d
    exact add?_of_sub?
  · intro t u
    exact add?_eq_ok_iff_since.2 rfl
  · intro t w x d e
    exact exists_add?_of_add?_add?
  · intro t w x d e s
    exact add?_of_add?_sum

/-- The least span has no opposite, and going back by it leads too far. -/
example : epoch.sub? (.finite ⟨Count.least, by decide⟩) = .error .overflow ∧
    epoch.add? (.finite ⟨Count.least, by decide⟩) = .error .outOfRange :=
  ⟨rfl, rfl⟩

end UtcTime.Instant
