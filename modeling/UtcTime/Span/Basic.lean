/-
Module: UtcTime.Span.Basic
Purpose: A span is a signed length of time: a nanosecond count, or one of two infinities. This
  module holds the type, its order, what can be read off a span, and exact arithmetic on spans.
Trusted boundary: none
Main exports: Span, Span.ofNanos?, Span.ofUnits?, Span.rank, Span.magnitude, Span.clock, Span.days,
  Span.add?, Span.sub?, Span.neg?, Span.mul?, Span.div?
-/
import UtcTime.Count
import UtcTime.Fault
import UtcTime.TimeUnit

namespace UtcTime

/-- A signed length of time. -/
inductive Span where
  | finite (count : Count)
  /-- Longer than every finite span, in the direction of the past if `negative`. -/
  | infinite (negative : Bool)
deriving DecidableEq

namespace Span

def zero : Span := finite ⟨0, by decide⟩

def infinity : Span := infinite false

def negInfinity : Span := infinite true

/-- The default span has no length. -/
instance : Inhabited Span := ⟨zero⟩

/-- The span of exactly `n` nanoseconds. Finite spans never turn into infinite ones: a value that
does not fit is a fault. -/
def ofNanos? (n : Int) : Except ArithmeticFault Span :=
  match Count.ofInt? n with
  | some count => .ok (finite count)
  | none => .error .overflow

/-- The span of exactly `n` units. -/
def ofUnits? (unit : TimeUnit) (n : Int) : Except ArithmeticFault Span :=
  ofNanos? (n * unit.nanos)

/-! ### Order

The infinities stand just outside the range of counts, so one integer per span carries the order
from negative infinity through the finite spans to positive infinity. -/

/-- The place of a span among all spans. -/
def rank : Span → Int
  | finite count => count.val
  | infinite false => Count.greatest + 1
  | infinite true => Count.least - 1

instance : Ord Span := ⟨compareOn rank⟩

instance : LT Span := ⟨fun a b => a.rank < b.rank⟩

instance : LE Span := ⟨fun a b => a.rank ≤ b.rank⟩

instance (a b : Span) : Decidable (a < b) := inferInstanceAs (Decidable (a.rank < b.rank))

instance (a b : Span) : Decidable (a ≤ b) := inferInstanceAs (Decidable (a.rank ≤ b.rank))

instance : Max Span := maxOfLe

instance : Min Span := minOfLe

theorem lt_iff {a b : Span} : a < b ↔ a.rank < b.rank := Iff.rfl

theorem le_iff {a b : Span} : a ≤ b ↔ a.rank ≤ b.rank := Iff.rfl

/-- Different spans have different places. -/
theorem rank_injective {a b : Span} (h : a.rank = b.rank) : a = b := by
  match a, b with
  | finite c, finite d => exact congrArg finite (Count.ext h)
  | finite c, infinite s | infinite s, finite c =>
      have := c.fits
      cases s <;> simp only [rank, Count.fits_iff, Count.greatest, Count.least] at * <;> omega
  | infinite s, infinite t =>
      cases s <;> cases t <;> simp_all [rank, Count.greatest, Count.least]

/-! ### Parts of a span

The days, and the fields that a clock shows beside them, are those of the length without its sign.
An infinite span has none of them, and shows zeros. -/

def isFinite : Span → Bool
  | finite _ => true
  | infinite _ => false

def isNegative : Span → Bool
  | finite count => decide (count.val < 0)
  | infinite negative => negative

/-- The nanosecond count of a finite span. -/
def nanos? : Span → Option Int
  | finite count => some count.val
  | infinite _ => none

/-- The length without its sign, in nanoseconds; zero where the length is infinite. -/
def magnitude : Span → Nat
  | finite count => count.val.natAbs
  | infinite _ => 0

/-- The value of a clock field in the length of the span. -/
def clock (span : Span) (field : ClockField) : Nat :=
  field.digit span.magnitude

/-- The whole days in the length of the span. -/
def days (span : Span) : Nat :=
  span.magnitude / TimeUnit.day.nanos

/-- A span of so many nanoseconds is finite and has that count. -/
theorem ofNanos?_eq_ok_iff {n : Int} {span : Span} :
    ofNanos? n = .ok span ↔ ∃ count : Count, count.val = n ∧ span = finite count := by
  simp only [ofNanos?]
  split
  · next count h =>
      have hval := Count.ofInt?_eq_some_iff.1 h
      constructor
      · intro heq; cases heq; exact ⟨count, hval, rfl⟩
      · rintro ⟨other, hother, rfl⟩
        exact congrArg (Except.ok ∘ finite) (Count.ext (hval.trans hother.symm))
  · next h =>
      have hfits := Count.ofInt?_eq_none_iff.1 h
      constructor
      · intro heq; cases heq
      · rintro ⟨count, rfl, -⟩
        exact absurd count.fits hfits

/-- There is no such span exactly if the count does not fit, and that is an overflow. -/
theorem ofNanos?_eq_error_iff {n : Int} {fault : ArithmeticFault} :
    ofNanos? n = .error fault ↔ ¬ Count.Fits n ∧ fault = .overflow := by
  simp only [ofNanos?]
  split
  · next count h =>
      have hval := Count.ofInt?_eq_some_iff.1 h
      have := count.fits
      simp_all
  · next h =>
      have := Count.ofInt?_eq_none_iff.1 h
      constructor
      · intro heq; cases heq; exact ⟨this, rfl⟩
      · rintro ⟨-, rfl⟩; rfl

/-! ### Arithmetic

The finite case is integer arithmetic, with a fault where the exact value does not fit. An infinite
operand decides the result by its sign, with a fault where no sign is right. -/

/-- The sum. Opposite infinities have none. -/
def add? : Span → Span → Except ArithmeticFault Span
  | finite a, finite b => ofNanos? (a.val + b.val)
  | infinite a, infinite b => if a = b then .ok (infinite a) else .error .undefinedInfinity
  | infinite a, finite _ => .ok (infinite a)
  | finite _, infinite b => .ok (infinite b)

/-- The difference. Equal infinities have none. -/
def sub? : Span → Span → Except ArithmeticFault Span
  | finite a, finite b => ofNanos? (a.val - b.val)
  | infinite a, infinite b => if a = b then .error .undefinedInfinity else .ok (infinite a)
  | infinite a, finite _ => .ok (infinite a)
  | finite _, infinite b => .ok (infinite !b)

/-- The span of opposite direction. The least count has no opposite. -/
def neg? : Span → Except ArithmeticFault Span
  | finite a => ofNanos? (-a.val)
  | infinite a => .ok (infinite !a)

/-- The product with an integer. An infinite span has no multiple by zero. -/
def mul? : Span → Int → Except ArithmeticFault Span
  | finite a, factor => ofNanos? (a.val * factor)
  | infinite a, factor =>
      if factor = 0 then .error .undefinedInfinity else .ok (infinite (a != decide (factor < 0)))

/-- The quotient by an integer, rounded toward zero. A zero divisor is a fault before anything else
is looked at. -/
def div? (span : Span) (divisor : Int) : Except ArithmeticFault Span :=
  if divisor = 0 then .error .divisionByZero
  else
    match span with
    | finite a => ofNanos? (a.val.tdiv divisor)
    | infinite a => .ok (infinite (a != decide (divisor < 0)))

end Span

end UtcTime
