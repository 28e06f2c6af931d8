/-
Module: UtcTime.Proofs.SpanOrder
Purpose: The arithmetic of spans and the order from the infinite past to the infinite future. Spans are
  in the order of their lengths, and what an operation gives is the exact function of the lengths, so
  an operation keeps or turns the order as that function does. On finite spans it does so strictly, but
  for division, which drops fractions.
Trusted boundary: none
Main exports: Carries, Span.value_le_value_iff, Span.value_lt_value_iff, Span.Computes,
  Extended.wholePart_monotone, Span.FiniteLT, Span.arithmetic_respects_order
-/
import UtcTime.Proofs.ExactArithmetic
import UtcTime.Proofs.InstantShift

namespace UtcTime

/-- Where a partial function has results for two arguments in the first relation, these results are in
the second. -/
def Carries {α β ε : Type} (r : α → α → Prop) (s : β → β → Prop) (f : α → Except ε β) : Prop :=
  ∀ a b, r a b → ∀ x y, f a = .ok x → f b = .ok y → s x y

namespace Extended

/-- Rounding toward zero keeps the order, on both sides of zero and across it. -/
theorem wholePart_coe_le {x y : ℝ} (h : x ≤ y) : wholePart (x : EReal) ≤ wholePart (y : EReal) := by
  rw [wholePart_coe, wholePart_coe, EReal.coe_le_coe_iff, Int.cast_le]
  by_cases hx : 0 ≤ x
  · rw [if_pos hx, if_pos (hx.trans h)]
    exact Int.floor_mono h
  · rw [if_neg hx]
    by_cases hy : 0 ≤ y
    · -- The one is rounded up to zero at most, and the other down to zero at least.
      rw [if_pos hy]
      apply le_trans (b := 0)
      · exact Int.ceil_le.2 (by simpa using (not_le.1 hx).le)
      · exact Int.floor_nonneg.2 hy
    · rw [if_neg hy]
      exact Int.ceil_mono h

/-- The infinite values are their own whole parts, so that rounding keeps the order of these, too.
-/
theorem wholePart_monotone : Monotone wholePart := by
  intro x y h
  induction x using EReal.rec with
  | bot => exact bot_le
  | top =>
      rw [top_le_iff.1 h]
  | coe x =>
      induction y using EReal.rec with
      | bot => exact absurd h (not_le.2 (EReal.bot_lt_coe x))
      | top => exact le_top
      | coe y => exact wholePart_coe_le (EReal.coe_le_coe_iff.1 h)

end Extended

namespace Span

/-! ### The order of spans is the order of lengths

Spans are compared by an integer that puts the infinite ones just outside of the counts. This is the
order of their lengths as extended real numbers. -/

/-- The infinite past is before every finite span, the least one among them. -/
theorem negInfinity_lt_finite (count : Count) : negInfinity < finite count := by
  have hleast := count.fits.1
  change Count.least - 1 < count.val
  omega

/-- The infinite future is after every finite span, the greatest one among them. -/
theorem finite_lt_infinity (count : Count) : finite count < infinity := by
  have hgreatest := count.fits.2
  change count.val < Count.greatest + 1
  omega

/-- Less is less in length. -/
theorem value_lt_value_iff {a b : Span} : a.value < b.value ↔ a < b := by
  match a, b with
  | finite c, finite d => exact EReal.coe_lt_coe_iff.trans Int.cast_lt
  | finite c, infinite false => exact iff_of_true (EReal.coe_lt_top _) (finite_lt_infinity c)
  | finite c, infinite true => exact iff_of_false not_lt_bot (Int.lt_asymm (negInfinity_lt_finite c))
  | infinite true, finite d => exact iff_of_true (EReal.bot_lt_coe _) (negInfinity_lt_finite d)
  | infinite false, finite d =>
      exact iff_of_false not_top_lt (Int.lt_asymm (finite_lt_infinity d))
  | infinite true, infinite false => exact iff_of_true bot_lt_top (by decide)
  | infinite false, infinite _ => exact iff_of_false not_top_lt (by cases ‹Bool› <;> decide)
  | infinite true, infinite true => exact iff_of_false not_lt_bot (by decide)

theorem value_le_value_iff {a b : Span} : a.value ≤ b.value ↔ a ≤ b := by
  rw [← not_lt, value_lt_value_iff]
  exact Int.not_lt

/-- Finite spans of which the first is less. -/
def FiniteLT (a b : Span) : Prop :=
  ∃ c d : Count, c.val < d.val ∧ a = finite c ∧ b = finite d

/-! ### Operations as functions of lengths

An operation that gives the exact function of the lengths carries those relations of spans that the
function carries of lengths. So each law below is one about extended real numbers. -/

/-- A result has the exact length. -/
theorem Gives.value_eq {undefined : ArithmeticFault → Prop} {exact : EReal} {x : Span}
    {result : Except ArithmeticFault Span} (h : Gives undefined exact result)
    (hresult : result = .ok x) : x.value = exact := by
  subst hresult
  cases h with
  | span _ value => exact value

/-- The lengths of results are a function of the lengths of arguments. -/
def Computes (f : Span → Except ArithmeticFault Span) (exact : EReal → EReal) : Prop :=
  ∀ a x, f a = .ok x → x.value = exact a.value

/-- The operations with one span give the exact function of its length. -/
theorem computes_unary (op : UnaryOperation) : Computes op.run? op.exact :=
  fun a _ h => (op.gives a).value_eq h

theorem computes_left (op : BinaryOperation) (c : Span) :
    Computes (op.run? · c) (op.exact · c.value) :=
  fun a _ h => (op.gives a c).value_eq h

theorem computes_right (op : BinaryOperation) (c : Span) :
    Computes (op.run? c) (op.exact c.value) :=
  fun a _ h => (op.gives c a).value_eq h

section

variable {f : Span → Except ArithmeticFault Span} {exact : EReal → EReal}

/-- An operation carries one relation of spans to another if its exact function does so with lengths. -/
theorem Computes.carries {r s : Span → Span → Prop} {p q : EReal → EReal → Prop}
    (h : Computes f exact) (hr : ∀ {a b}, r a b → p a.value b.value)
    (hs : ∀ {x y}, q x.value y.value → s x y)
    (hexact : ∀ {x y}, p x y → q (exact x) (exact y)) : Carries r s f := by
  intro a b hab x y hx hy
  apply hs
  rw [h a x hx, h b y hy]
  exact hexact (hr hab)

/-- A monotone function of lengths keeps the order of spans. -/
theorem Computes.carries_le (h : Computes f exact) (hexact : Monotone exact) :
    Carries (· ≤ ·) (· ≤ ·) f :=
  h.carries value_le_value_iff.2 value_le_value_iff.1 (hexact ·)

theorem Computes.carries_ge (h : Computes f exact) (hexact : Antitone exact) :
    Carries (· ≤ ·) (· ≥ ·) f :=
  h.carries (q := (· ≥ ·)) value_le_value_iff.2 value_le_value_iff.1 (hexact ·)

/-- The lengths of finite spans of which the first is less. -/
def RealLT (x y : EReal) : Prop := ∃ u v : ℝ, u < v ∧ x = u ∧ y = v

theorem FiniteLT.realLT {a b : Span} : FiniteLT a b → RealLT a.value b.value := by
  rintro ⟨c, d, hlt, rfl, rfl⟩
  exact ⟨c.val, d.val, Int.cast_lt.2 hlt, rfl, rfl⟩

/-- A function that is strictly monotone on the reals keeps finite spans apart, in their order. -/
theorem Computes.carries_lt (h : Computes f exact)
    (hexact : ∀ u v : ℝ, u < v → exact u < exact v) : Carries FiniteLT (· < ·) f := by
  apply h.carries FiniteLT.realLT value_lt_value_iff.1
  rintro _ _ ⟨u, v, hlt, rfl, rfl⟩
  exact hexact u v hlt

/-- A function that is strictly antitone on the reals keeps finite spans apart, the other way
around. -/
theorem Computes.carries_gt (h : Computes f exact)
    (hexact : ∀ u v : ℝ, u < v → exact v < exact u) : Carries FiniteLT (· > ·) f := by
  apply h.carries (q := (· > ·)) FiniteLT.realLT value_lt_value_iff.1
  rintro _ _ ⟨u, v, hlt, rfl, rfl⟩
  exact hexact u v hlt

end

/-! ### Sums, differences and opposites

Infinite spans take part, but not strictly: whatever is added to an infinite span, the sum is the
same. With finite spans on both sides the laws are strict. -/

theorem carries_add? (c : Span) : Carries (· ≤ ·) (· ≤ ·) (add? · c) :=
  (computes_left .add c).carries_le fun _ _ h => add_le_add h le_rfl

theorem carries_sub? (c : Span) : Carries (· ≤ ·) (· ≤ ·) (sub? · c) :=
  (computes_left .subtract c).carries_le fun _ _ h => EReal.sub_le_sub h le_rfl

/-- Subtracting more from the same span leaves less. -/
theorem carries_sub?_right (c : Span) : Carries (· ≤ ·) (· ≥ ·) c.sub? :=
  (computes_right .subtract c).carries_ge fun _ _ h => EReal.sub_le_sub le_rfl h

theorem carries_neg? : Carries (· ≤ ·) (· ≥ ·) neg? :=
  (computes_unary .negate).carries_ge EReal.neg_strictAnti.antitone

/-- Adding the same finite span keeps less and greater apart. -/
theorem carries_add?_finite (c : Count) : Carries FiniteLT (· < ·) (add? · (finite c)) := by
  apply (computes_left .add (finite c)).carries_lt
  intro x y h
  exact EReal.coe_lt_coe_iff.2 (add_lt_add_left h (c.val : ℝ))

theorem carries_sub?_finite (c : Count) : Carries FiniteLT (· < ·) (sub? · (finite c)) := by
  apply (computes_left .subtract (finite c)).carries_lt
  intro x y h
  exact EReal.coe_lt_coe_iff.2 (sub_lt_sub_right h (c.val : ℝ))

/-- Different spans subtracted from a finite one leave different spans. -/
theorem carries_sub?_right_finite (c : Count) : Carries FiniteLT (· > ·) (finite c).sub? := by
  apply (computes_right .subtract (finite c)).carries_gt
  intro x y h
  exact EReal.coe_lt_coe_iff.2 (sub_lt_sub_left h (c.val : ℝ))

theorem carries_neg?_finite : Carries FiniteLT (· > ·) neg? :=
  (computes_unary .negate).carries_gt fun _ _ h => EReal.neg_strictAnti (EReal.coe_lt_coe_iff.2 h)

/-! ### Multiples and quotients

Multiples of different finite spans are different. Their quotients can be equal, since fractions are
dropped, and so there is no strict law of division. -/

section

variable {n : Int}

/-- Multiples by a positive number keep the order. -/
theorem carries_mul?_of_pos (h : 0 < n) : Carries (· ≤ ·) (· ≤ ·) (mul? · n) := by
  apply (computes_unary (.multiply n)).carries_le
  intro x y hxy
  apply mul_le_mul_of_nonneg_right hxy
  exact EReal.coe_nonneg.2 (Int.cast_nonneg h.le)

/-- Multiples by a negative number turn the order around. -/
theorem carries_mul?_of_neg (h : n < 0) : Carries (· ≤ ·) (· ≥ ·) (mul? · n) := by
  apply (computes_unary (.multiply n)).carries_ge
  intro x y hxy
  apply EReal.mul_le_mul_of_nonpos_right hxy
  exact EReal.coe_nonpos.2 (Int.cast_nonpos.2 h.le)

/-- Quotients by a positive number keep the order: dividing does, and so does dropping fractions. -/
theorem carries_div?_of_pos (h : 0 < n) : Carries (· ≤ ·) (· ≤ ·) (div? · n) := by
  apply (computes_unary (.divide n)).carries_le
  apply Extended.wholePart_monotone.comp
  apply EReal.monotone_div_right_of_nonneg
  exact EReal.coe_nonneg.2 (Int.cast_nonneg h.le)

/-- Quotients by a negative number turn the order around. -/
theorem carries_div?_of_neg (h : n < 0) : Carries (· ≤ ·) (· ≥ ·) (div? · n) := by
  apply (computes_unary (.divide n)).carries_ge
  apply Extended.wholePart_monotone.comp_antitone
  apply EReal.antitone_div_right_of_nonpos
  exact EReal.coe_nonpos.2 (Int.cast_nonpos.2 h.le)

/-- Multiples of finite spans by a positive number are strictly in their order. -/
theorem carries_mul?_finite_of_pos (h : 0 < n) : Carries FiniteLT (· < ·) (mul? · n) := by
  apply (computes_unary (.multiply n)).carries_lt
  intro x y hxy
  exact EReal.coe_lt_coe_iff.2 (mul_lt_mul_of_pos_right hxy (Int.cast_pos.2 h))

/-- Multiples of finite spans by a negative number are strictly in the opposite order. -/
theorem carries_mul?_finite_of_neg (h : n < 0) : Carries FiniteLT (· > ·) (mul? · n) := by
  apply (computes_unary (.multiply n)).carries_gt
  intro x y hxy
  exact EReal.coe_lt_coe_iff.2 (mul_lt_mul_of_neg_right hxy (Int.cast_lt_zero.2 h))

end

end Span

/-! ### Shifts of instants

Only finite spans shift an instant, so that shifts keep and turn the order strictly. -/

namespace Instant

variable {t x y : Instant} {a b : Span}

/-- Two shifts of one instant to later end in the order of the spans. -/
theorem add?_lt_add?_iff (hx : t.add? a = .ok x) (hy : t.add? b = .ok y) : x < y ↔ a < b := by
  obtain ⟨c, rfl, hc⟩ := add?_eq_ok_iff.1 hx
  obtain ⟨d, rfl, hd⟩ := add?_eq_ok_iff.1 hy
  change x.nanos < y.nanos ↔ c.val < d.val
  omega

/-- Two shifts of one instant to earlier end in the opposite order of the spans. -/
theorem sub?_lt_sub?_iff (hx : t.sub? a = .ok x) (hy : t.sub? b = .ok y) : x < y ↔ b < a := by
  obtain ⟨c, rfl, hc⟩ := sub?_eq_ok_iff.1 hx
  obtain ⟨d, rfl, hd⟩ := sub?_eq_ok_iff.1 hy
  change x.nanos < y.nanos ↔ d.val < c.val
  omega

theorem carries_add? (t : Instant) : Carries (· ≤ ·) (· ≤ ·) t.add? := by
  intro a b hab x y hx hy
  apply Nat.not_lt.1
  intro hlt
  exact Int.not_lt.2 hab ((add?_lt_add?_iff hy hx).1 hlt)

theorem carries_sub? (t : Instant) : Carries (· ≤ ·) (· ≥ ·) t.sub? := by
  intro a b hab x y hx hy
  apply Nat.not_lt.1
  intro hlt
  exact Int.not_lt.2 hab ((sub?_lt_sub?_iff hx hy).1 hlt)

/-- A longer shift to later ends later. -/
theorem carries_add?_lt (t : Instant) : Carries (· < ·) (· < ·) t.add? :=
  fun _ _ hab _ _ hx hy => (add?_lt_add?_iff hx hy).2 hab

/-- A longer shift to earlier ends earlier. -/
theorem carries_sub?_lt (t : Instant) : Carries (· < ·) (· > ·) t.sub? :=
  fun _ _ hab _ _ hx hy => (sub?_lt_sub?_iff hy hx).2 hab

end Instant

namespace Span

/-- Spans are ordered by their counts, between the two infinite ones, and arithmetic respects this
order wherever it has results. Adding or subtracting the same span and multiples and quotients by a
positive number keep it; subtracting from the same span, opposites, and multiples and quotients by a
negative number turn it around; instants are shifted farther by what is greater. On finite spans all of
them but quotients keep less and greater apart, if what is added or subtracted is finite. -/
theorem arithmetic_respects_order :
    ((∀ c : Count, negInfinity < finite c ∧ finite c < infinity) ∧
      ∀ c d : Count, finite c < finite d ↔ c.val < d.val) ∧
    (∀ c : Span, Carries (· ≤ ·) (· ≤ ·) (add? · c) ∧ Carries (· ≤ ·) (· ≤ ·) (sub? · c) ∧
      Carries (· ≤ ·) (· ≥ ·) (sub? c)) ∧
    Carries (· ≤ ·) (· ≥ ·) neg? ∧
    (∀ n : Int, 0 < n →
      Carries (· ≤ ·) (· ≤ ·) (mul? · n) ∧ Carries (· ≤ ·) (· ≤ ·) (div? · n)) ∧
    (∀ n : Int, n < 0 →
      Carries (· ≤ ·) (· ≥ ·) (mul? · n) ∧ Carries (· ≤ ·) (· ≥ ·) (div? · n)) ∧
    (∀ t : Instant, Carries (· ≤ ·) (· ≤ ·) t.add? ∧ Carries (· ≤ ·) (· ≥ ·) t.sub?) ∧
    (∀ c : Count, Carries FiniteLT (· < ·) (add? · (finite c)) ∧
      Carries FiniteLT (· < ·) (sub? · (finite c)) ∧
      Carries FiniteLT (· > ·) (sub? (finite c))) ∧
    Carries FiniteLT (· > ·) neg? ∧
    (∀ n : Int, 0 < n → Carries FiniteLT (· < ·) (mul? · n)) ∧
    (∀ n : Int, n < 0 → Carries FiniteLT (· > ·) (mul? · n)) ∧
    ∀ t : Instant, Carries (· < ·) (· < ·) t.add? ∧ Carries (· < ·) (· > ·) t.sub? := by
  refine ⟨⟨?_, fun c d => Iff.rfl⟩, ?_, carries_neg?, ?_, ?_, ?_, ?_, carries_neg?_finite, ?_, ?_, ?_⟩
  · intro c
    exact ⟨negInfinity_lt_finite c, finite_lt_infinity c⟩
  · intro c
    exact ⟨carries_add? c, carries_sub? c, carries_sub?_right c⟩
  · intro n hpos
    exact ⟨carries_mul?_of_pos hpos, carries_div?_of_pos hpos⟩
  · intro n hneg
    exact ⟨carries_mul?_of_neg hneg, carries_div?_of_neg hneg⟩
  · intro t
    exact ⟨t.carries_add?, t.carries_sub?⟩
  · intro c
    exact ⟨carries_add?_finite c, carries_sub?_finite c, carries_sub?_right_finite c⟩
  · intro n hpos
    exact carries_mul?_finite_of_pos hpos
  · intro n hneg
    exact carries_mul?_finite_of_neg hneg
  · intro t
    exact ⟨t.carries_add?_lt, t.carries_sub?_lt⟩

/-- Division does not keep different spans apart. -/
example : (finite ⟨-1, by decide⟩).div? 2 = (finite ⟨1, by decide⟩).div? 2 := rfl

end Span

end UtcTime
