/-
Module: UtcTime.Instant.Basic
Purpose: An instant of UTC, held as the nanoseconds since the epoch. Instants reach from 1970 to
  2262, as far as a 64-bit count goes.
Trusted boundary: none
Main exports: Instant, Instant.ofSpan?, Instant.sinceEpoch, Instant.since, Instant.add?,
  Instant.sub?, Instant.toDateTime, Instant.ofDateTime?
-/
import UtcTime.DateTime.Basic
import UtcTime.Span.Basic

namespace UtcTime

/-- A point in time at or after the epoch. -/
@[ext] structure Instant where
  /-- The nanoseconds since the epoch. -/
  nanos : Nat
  nanos_le : (nanos : Int) ≤ Count.greatest
deriving DecidableEq

namespace Instant

/-- 1970-01-01 00:00 UTC. -/
def epoch : Instant := ⟨0, by decide⟩

/-- The default instant is the epoch. -/
instance : Inhabited Instant := ⟨epoch⟩

/-- The instant that lies `n` nanoseconds after the epoch, where there is one. -/
def ofNanos? (n : Int) : Except ArithmeticFault Instant :=
  if h : 0 ≤ n ∧ n ≤ Count.greatest then .ok ⟨n.toNat, by omega⟩ else .error .outOfRange

/-- The instant at a given distance from the epoch. It must not lie before the epoch. -/
def ofSpan? (span : Span) : Except ArithmeticFault Instant :=
  match span with
  | .finite count => ofNanos? count.val
  | .infinite _ => .error .outOfRange

/-- The count of nanoseconds since the epoch. -/
def count (t : Instant) : Count :=
  ⟨t.nanos, by have := t.nanos_le; simp only [Count.fits_iff, Count.greatest] at *; omega⟩

def sinceEpoch (t : Instant) : Span := .finite t.count

/-! ### Order

Instants are in the order of their counts. -/

instance : Ord Instant := ⟨compareOn nanos⟩

instance : LT Instant := ⟨fun a b => a.nanos < b.nanos⟩

instance : LE Instant := ⟨fun a b => a.nanos ≤ b.nanos⟩

instance (a b : Instant) : Decidable (a < b) := inferInstanceAs (Decidable (a.nanos < b.nanos))

instance (a b : Instant) : Decidable (a ≤ b) := inferInstanceAs (Decidable (a.nanos ≤ b.nanos))

instance : Max Instant := maxOfLe

instance : Min Instant := minOfLe

/-! ### Shifting

A shift is done on the count since the epoch, as an operation with spans, and then turned into an
instant again. -/

/-- The instant later by `span`. An infinite shift leads to no instant; a finite one is added to the
count before the result is looked at, so a count too large for 64 bits is an overflow, and one below
zero out of range. -/
def add? (t : Instant) (span : Span) : Except ArithmeticFault Instant :=
  if span.isFinite then t.sinceEpoch.add? span >>= ofSpan? else .error .outOfRange

/-- The instant earlier by `span`, with the same faults as a shift to later. -/
def sub? (t : Instant) (span : Span) : Except ArithmeticFault Instant :=
  if span.isFinite then t.sinceEpoch.sub? span >>= ofSpan? else .error .outOfRange

/-- The signed time from `earlier` to `t`. Two counts that are not negative differ by less than the
greatest count. -/
def since (t earlier : Instant) : Span :=
  .finite ⟨t.nanos - earlier.nanos, by
    have := t.nanos_le
    have := earlier.nanos_le
    simp only [Count.fits_iff, Count.greatest] at *
    omega⟩

/-! ### Calendar

Every instant has a date and time. A date and time is an instant only within their range. -/

def toDateTime (t : Instant) : DateTime := DateTime.ofEpochNanos t.nanos

/-- The instant of a date and time, where there is one. -/
def ofDateTime? (time : DateTime) : Except ArithmeticFault Instant :=
  ofNanos? time.epochNanos

/-- An instant of so many nanoseconds has that count. -/
theorem ofNanos?_eq_ok_iff {n : Int} {t : Instant} : ofNanos? n = .ok t ↔ (t.nanos : Int) = n := by
  have hle := t.nanos_le
  simp only [ofNanos?]
  split
  · next h =>
      constructor
      · intro heq; cases heq; simp only; omega
      · rintro rfl; rfl
  · next h =>
      constructor
      · intro heq; cases heq
      · intro heq; omega

/-- There is no such instant exactly outside of the range, whichever way the count leaves it. -/
theorem ofNanos?_eq_error_iff {n : Int} {fault : ArithmeticFault} :
    ofNanos? n = .error fault ↔ ¬ (0 ≤ n ∧ n ≤ Count.greatest) ∧ fault = .outOfRange := by
  simp only [ofNanos?]
  split
  · simp_all
  · next h =>
      constructor
      · intro heq; cases heq; exact ⟨h, rfl⟩
      · rintro ⟨-, rfl⟩; rfl

end Instant

end UtcTime
