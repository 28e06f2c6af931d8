/-
Module: UtcTime.Proofs.ExactArithmetic
Purpose: The arithmetic of spans against that of the extended real numbers. A span stands for a
  number of nanoseconds, or for one of the two infinite numbers. Each operation is undefined in a few
  cases, and apart from them it gives the span of the exact result, or a fault where that result is
  finite and does not fit.
Trusted boundary: none
Main exports: Span.value, Extended.InRange, Extended.wholePart, Span.Gives, UnaryOperation,
  BinaryOperation, UnaryOperation.gives, BinaryOperation.gives
-/
import Mathlib.Data.EReal.Inv
import Mathlib.Tactic.FieldSimp
import Mathlib.Tactic.Linarith
import UtcTime.Span.Basic

namespace UtcTime

/-! ### Extended numbers

The numbers that spans stand for, the range of those that fit, and rounding toward zero. -/

namespace Extended

/-- Infinite numbers are in the range of spans, and of the others those that fit a count. -/
def InRange (x : EReal) : Prop :=
  x = ⊤ ∨ x = ⊥ ∨ (((Count.least : ℝ) : EReal) ≤ x ∧ x ≤ ((Count.greatest : ℝ) : EReal))

/-- A number without its fraction, rounded toward zero. -/
noncomputable def wholePart : EReal → EReal
  | ⊤ => ⊤
  | ⊥ => ⊥
  | (x : ℝ) => (((if 0 ≤ x then ⌊x⌋ else ⌈x⌉ : ℤ) : ℝ) : EReal)

theorem wholePart_coe (x : ℝ) :
    wholePart (x : EReal) = (((if 0 ≤ x then ⌊x⌋ else ⌈x⌉ : ℤ) : ℝ) : EReal) := rfl

theorem inRange_coe_iff {n : ℤ} : InRange ((n : ℝ) : EReal) ↔ Count.Fits n := by
  simp only [InRange, EReal.coe_ne_top, EReal.coe_ne_bot, false_or, EReal.coe_le_coe_iff,
    Int.cast_le]
  rfl

theorem tmod_nonpos {n : ℤ} (d : ℤ) (h : n ≤ 0) : n.tmod d ≤ 0 := by
  have hneg := Int.tmod_nonneg d (Int.neg_nonneg_of_nonpos h)
  rwa [Int.neg_tmod, Int.neg_nonneg] at hneg

/-- The remainder of a division that rounds toward zero is less than the divisor. -/
theorem abs_tmod_div_lt_one {n d : ℤ} (hd : d ≠ 0) : |(n.tmod d : ℝ) / d| < 1 := by
  have hnat : (n.tmod d).natAbs < d.natAbs := by
    rw [Int.natAbs_tmod]
    exact Nat.mod_lt _ (Int.natAbs_pos.2 hd)
  have habs : |n.tmod d| < |d| := by
    rw [Int.abs_eq_natAbs, Int.abs_eq_natAbs]
    exact Int.ofNat_lt.2 hnat
  have hpos : (0 : ℝ) < |(d : ℝ)| := abs_pos.2 (Int.cast_ne_zero.2 hd)
  rw [abs_div, div_lt_one hpos]
  exact_mod_cast habs

/-- The quotient of integers without its fraction is their division with rounding toward zero. -/
theorem wholePart_div {n d : ℤ} (hd : d ≠ 0) :
    wholePart (((n : ℝ) : EReal) / ((d : ℝ) : EReal)) = ((n.tdiv d : ℝ) : EReal) := by
  have hreal : (d : ℝ) ≠ 0 := Int.cast_ne_zero.2 hd
  have hquotient : (n : ℝ) / d = n.tdiv d + (n.tmod d : ℝ) / d := by
    have hdecomposed : (n : ℝ) = d * n.tdiv d + n.tmod d := by
      exact_mod_cast (Int.mul_tdiv_add_tmod n d).symm
    rw [div_eq_iff hreal, add_mul, div_mul_cancel₀ _ hreal, mul_comm]
    exact hdecomposed
  have hfraction := abs_lt.1 (abs_tmod_div_lt_one (n := n) hd)
  rw [← EReal.coe_div, wholePart_coe, EReal.coe_eq_coe_iff, Int.cast_inj]
  -- The remainder has the sign of the dividend, so the fraction has that of the quotient.
  by_cases hsign : 0 ≤ (n : ℝ) / d
  · have hpos : 0 ≤ (n.tmod d : ℝ) / d := by
      rcases div_nonneg_iff.1 hsign with ⟨hn, hdiv⟩ | ⟨hn, hdiv⟩
      · exact div_nonneg (Int.cast_nonneg (Int.tmod_nonneg d (Int.cast_nonneg_iff.1 hn))) hdiv
      · exact div_nonneg_of_nonpos
          (Int.cast_nonpos.2 (tmod_nonpos d (Int.cast_nonpos.1 hn))) hdiv
    rw [if_pos hsign, Int.floor_eq_iff, hquotient]
    constructor <;> linarith
  · have hneg : (n.tmod d : ℝ) / d ≤ 0 := by
      rcases div_neg_iff.1 (not_le.1 hsign) with ⟨hn, hdiv⟩ | ⟨hn, hdiv⟩
      · exact div_nonpos_of_nonneg_of_nonpos
          (Int.cast_nonneg (Int.tmod_nonneg d (Int.cast_pos.1 hn).le)) hdiv.le
      · exact div_nonpos_of_nonpos_of_nonneg
          (Int.cast_nonpos.2 (tmod_nonpos d (Int.cast_lt_zero.1 hn).le)) hdiv.le
    rw [if_neg hsign, Int.ceil_eq_iff, hquotient]
    constructor <;> linarith

end Extended

/-! ### Spans as extended numbers

Spans are told apart by their lengths, so that an operation is known as soon as the length of its
result is. -/

namespace Span

/-- The length of a span in nanoseconds. -/
noncomputable def value : Span → EReal
  | finite count => ((count.val : ℝ) : EReal)
  | infinite negative => if negative then ⊥ else ⊤

theorem value_finite (count : Count) : (finite count).value = ((count.val : ℝ) : EReal) := rfl

theorem value_infinite_true : (infinite true).value = ⊥ := rfl

theorem value_infinite_false : (infinite false).value = ⊤ := rfl

/-- Different spans have different lengths. -/
theorem value_injective {a b : Span} (h : a.value = b.value) : a = b := by
  cases a with
  | finite c =>
      cases b with
      | finite d =>
          rw [value_finite, value_finite, EReal.coe_eq_coe_iff, Int.cast_inj] at h
          exact congrArg finite (Count.ext h)
      | infinite s => cases s <;> simp [value] at h
  | infinite s =>
      cases b with
      | finite d => cases s <;> simp [value] at h
      | infinite t => cases s <;> cases t <;> simp [value] at h ⊢

theorem value_infinite (negative : Bool) :
    (infinite negative).value = ⊤ ∨ (infinite negative).value = ⊥ := by
  cases negative with
  | true => exact .inr rfl
  | false => exact .inl rfl

/-- A negative factor turns an infinite span around, and a positive one leaves it. -/
theorem value_infinite_mul (negative : Bool) {factor : ℤ} (h : factor ≠ 0) :
    (infinite (negative != decide (factor < 0))).value =
      (infinite negative).value * ((factor : ℝ) : EReal) := by
  rcases lt_or_gt_of_ne h with hneg | hpos
  · have hreal : (factor : ℝ) < 0 := Int.cast_lt_zero.2 hneg
    rw [decide_eq_true hneg]
    cases negative with
    | true => exact (EReal.bot_mul_coe_of_neg hreal).symm
    | false => exact (EReal.top_mul_coe_of_neg hreal).symm
  · have hreal : 0 < (factor : ℝ) := Int.cast_pos.2 hpos
    rw [decide_eq_false (not_lt_of_gt hpos)]
    cases negative with
    | true => exact (EReal.bot_mul_coe_of_pos hreal).symm
    | false => exact (EReal.top_mul_coe_of_pos hreal).symm

/-- A divisor acts on an infinite span as its sign does. -/
theorem value_infinite_div (negative : Bool) {divisor : ℤ} (h : divisor ≠ 0) :
    (infinite (negative != decide (divisor < 0))).value =
      Extended.wholePart ((infinite negative).value / ((divisor : ℝ) : EReal)) := by
  have htop : ((divisor : ℝ) : EReal) ≠ ⊤ := EReal.coe_ne_top _
  have hbot : ((divisor : ℝ) : EReal) ≠ ⊥ := EReal.coe_ne_bot _
  rcases lt_or_gt_of_ne h with hneg | hpos
  · have hreal : ((divisor : ℝ) : EReal) < 0 := EReal.coe_neg'.2 (Int.cast_lt_zero.2 hneg)
    rw [decide_eq_true hneg]
    cases negative with
    | true =>
        rw [value_infinite_true, EReal.bot_div_of_neg_ne_bot hreal hbot]
        rfl
    | false =>
        rw [value_infinite_false, EReal.top_div_of_neg_ne_bot hreal hbot]
        rfl
  · have hreal : 0 < ((divisor : ℝ) : EReal) := EReal.coe_pos.2 (Int.cast_pos.2 hpos)
    rw [decide_eq_false (not_lt_of_gt hpos)]
    cases negative with
    | true =>
        rw [value_infinite_true, EReal.bot_div_of_pos_ne_top hreal htop]
        rfl
    | false =>
        rw [value_infinite_false, EReal.top_div_of_pos_ne_top hreal htop]
        rfl

theorem inRange_value (span : Span) : Extended.InRange span.value := by
  cases span with
  | finite count => exact Extended.inRange_coe_iff.2 count.fits
  | infinite negative =>
      rcases value_infinite negative with htop | hbot
      · exact .inl htop
      · exact .inr (.inl hbot)

theorem isFinite_iff {span : Span} : span.isFinite ↔ span.value ≠ ⊤ ∧ span.value ≠ ⊥ := by
  cases span with
  | finite count => simp [isFinite, value]
  | infinite negative => cases negative <;> simp [isFinite, value]

/-- What comes of an operation that is undefined for some reasons, and otherwise has an exact
result: the reason, or the span of the exact result, or an overflow if no span has that length. -/
inductive Gives (undefined : ArithmeticFault → Prop) (exact : EReal) :
    Except ArithmeticFault Span → Prop where
  | undefined {fault : ArithmeticFault} (reason : undefined fault) :
      Gives undefined exact (.error fault)
  | overflow (defined : ∀ fault, ¬ undefined fault) (outside : ¬ Extended.InRange exact) :
      Gives undefined exact (.error .overflow)
  | span {result : Span} (defined : ∀ fault, ¬ undefined fault) (value : result.value = exact) :
      Gives undefined exact (.ok result)

variable {undefined : ArithmeticFault → Prop}

/-- The span of an exact count is what an operation with that count as its exact result has to give.
-/
theorem gives_ofNanos? (defined : ∀ fault, ¬ undefined fault) (n : ℤ) :
    Gives undefined ((n : ℝ) : EReal) (ofNanos? n) := by
  cases hresult : ofNanos? n with
  | ok result =>
      obtain ⟨count, rfl, rfl⟩ := ofNanos?_eq_ok_iff.1 hresult
      exact .span defined rfl
  | error fault =>
      obtain ⟨houtside, rfl⟩ := ofNanos?_eq_error_iff.1 hresult
      exact .overflow defined fun hin => houtside (Extended.inRange_coe_iff.1 hin)

/-- A finite sum, difference or product is finite. -/
theorem isFinite_of_ofNanos? {n : ℤ} {result : Span} (h : ofNanos? n = .ok result) :
    result.isFinite = true := by
  obtain ⟨count, -, rfl⟩ := ofNanos?_eq_ok_iff.1 h
  rfl

/-- A result that is infinite, or missing for another reason than an overflow. -/
def Endless : Except ArithmeticFault Span → Prop
  | .ok result => result.isFinite = false
  | .error fault => fault ≠ .overflow

end Span

/-! ### Operations on one span

Opposites, multiples and quotients. Each is met with what it has to give by cases on the span; for a
finite one the integers do the work, for an infinite one the signs. -/

inductive UnaryOperation where
  | negate
  | multiply (factor : Int)
  | divide (divisor : Int)

namespace UnaryOperation

/-- Carries out an operation on a span. -/
def run? : UnaryOperation → Span → Except ArithmeticFault Span
  | negate, a => a.neg?
  | multiply factor, a => a.mul? factor
  | divide divisor, a => a.div? divisor

/-- The exact result of an operation on a number. -/
noncomputable def exact : UnaryOperation → EReal → EReal
  | negate, x => -x
  | multiply factor, x => x * ((factor : ℝ) : EReal)
  | divide divisor, x => Extended.wholePart (x / ((divisor : ℝ) : EReal))

/-- Why an operation has no result for a number. -/
inductive Undefined : UnaryOperation → EReal → ArithmeticFault → Prop where
  | multiply {x : EReal} (infinite : x = ⊤ ∨ x = ⊥) : Undefined (multiply 0) x .undefinedInfinity
  | divide {x : EReal} : Undefined (divide 0) x .divisionByZero

theorem Undefined.unique {op : UnaryOperation} {x : EReal} {fault other : ArithmeticFault}
    (h : op.Undefined x fault) (h' : op.Undefined x other) : fault = other := by
  cases h with
  | multiply => cases h'; rfl
  | divide => cases h'; rfl

/-- The opposite of a span has the opposite length. -/
theorem negate_gives (a : Span) :
    Span.Gives (Undefined negate a.value) (exact negate a.value) a.neg? := by
  have hdefined : ∀ fault, ¬ Undefined negate a.value fault := nofun
  cases a with
  | finite count =>
      have hgives := Span.gives_ofNanos? hdefined (-count.val)
      rwa [Int.cast_neg, EReal.coe_neg] at hgives
  | infinite negative =>
      refine .span hdefined ?_
      cases negative with
      | true => exact EReal.neg_bot.symm
      | false => exact EReal.neg_top.symm

theorem multiply_gives (factor : Int) (a : Span) :
    Span.Gives (Undefined (multiply factor) a.value) (exact (multiply factor) a.value)
      (a.mul? factor) := by
  cases a with
  | finite count =>
      have hdefined : ∀ fault, ¬ Undefined (multiply factor) (Span.finite count).value fault := by
        rintro fault (⟨hinfinite⟩ | _)
        rcases hinfinite with htop | hbot
        · exact EReal.coe_ne_top _ htop
        · exact EReal.coe_ne_bot _ hbot
      have hgives := Span.gives_ofNanos? hdefined (count.val * factor)
      rwa [Int.cast_mul, EReal.coe_mul] at hgives
  | infinite negative =>
      by_cases hzero : factor = 0
      · subst hzero
        exact .undefined (.multiply (Span.value_infinite negative))
      · have hdefined : ∀ fault,
            ¬ Undefined (multiply factor) (Span.infinite negative).value fault := by
          rintro fault ⟨⟩
          exact hzero rfl
        rw [Span.mul?, if_neg hzero]
        exact .span hdefined (Span.value_infinite_mul negative hzero)

/-- A quotient has the whole part of the quotient as its length, and division by zero has none. -/
theorem divide_gives (divisor : Int) (a : Span) :
    Span.Gives (Undefined (divide divisor) a.value) (exact (divide divisor) a.value)
      (a.div? divisor) := by
  by_cases hzero : divisor = 0
  · subst hzero
    exact .undefined .divide
  · have hdefined : ∀ fault, ¬ Undefined (divide divisor) a.value fault := by
      rintro fault ⟨⟩
      exact hzero rfl
    cases a with
    | finite count =>
        have hgives := Span.gives_ofNanos? hdefined (count.val.tdiv divisor)
        rw [← Extended.wholePart_div hzero] at hgives
        rwa [Span.div?, if_neg hzero]
    | infinite negative =>
        rw [Span.div?, if_neg hzero]
        exact .span hdefined (Span.value_infinite_div negative hzero)

/-- An operation on a span gives what its exact result asks for. -/
theorem gives (op : UnaryOperation) (a : Span) :
    Span.Gives (op.Undefined a.value) (op.exact a.value) (op.run? a) := by
  cases op with
  | negate => exact negate_gives a
  | multiply factor => exact multiply_gives factor a
  | divide divisor => exact divide_gives divisor a

/-- An operation on a finite span leads to a finite one. -/
theorem isFinite_of_run?_finite {op : UnaryOperation} {count : Count} {result : Span}
    (h : op.run? (.finite count) = .ok result) : result.isFinite = true := by
  cases op with
  | negate => exact Span.isFinite_of_ofNanos? h
  | multiply factor => exact Span.isFinite_of_ofNanos? h
  | divide divisor =>
      simp only [run?, Span.div?] at h
      split at h
      · cases h
      · exact Span.isFinite_of_ofNanos? h

/-- An operation on an infinite span leads to an infinite one, or is undefined. -/
theorem endless_run? (op : UnaryOperation) (negative : Bool) :
    Span.Endless (op.run? (.infinite negative)) := by
  cases op with
  | negate => rfl
  | multiply factor =>
      simp only [run?, Span.mul?]
      split
      · exact nofun
      · rfl
  | divide divisor =>
      simp only [run?, Span.div?]
      split
      · exact nofun
      · rfl

/-- An operation neither makes a finite span infinite nor an infinite one finite. -/
theorem isFinite_of_run? {op : UnaryOperation} {a result : Span} (h : op.run? a = .ok result) :
    result.isFinite = a.isFinite := by
  cases a with
  | finite count => exact isFinite_of_run?_finite h
  | infinite negative =>
      have hendless := op.endless_run? negative
      rwa [h] at hendless

/-- Only a finite span can overflow. -/
theorem isFinite_of_overflow {op : UnaryOperation} {a : Span}
    (h : op.run? a = .error .overflow) : a.isFinite = true := by
  cases a with
  | finite count => rfl
  | infinite negative =>
      have hendless := op.endless_run? negative
      rw [h] at hendless
      exact absurd rfl hendless

end UnaryOperation

/-! ### Operations on two spans

Sums and differences. With one finite span there is always an exact result; with two infinite ones
there is one unless they cancel each other out. -/

inductive BinaryOperation where
  | add
  | subtract

namespace BinaryOperation

/-- Carries out an operation on two spans. -/
def run? : BinaryOperation → Span → Span → Except ArithmeticFault Span
  | add, a, b => a.add? b
  | subtract, a, b => a.sub? b

/-- The exact result of an operation on two numbers. -/
noncomputable def exact : BinaryOperation → EReal → EReal → EReal
  | add, x, y => x + y
  | subtract, x, y => x - y

/-- Why an operation has no result for two numbers: the sum of opposite infinities and the
difference of equal ones mean nothing. -/
inductive Undefined : BinaryOperation → EReal → EReal → ArithmeticFault → Prop where
  | addTopBot : Undefined add ⊤ ⊥ .undefinedInfinity
  | addBotTop : Undefined add ⊥ ⊤ .undefinedInfinity
  | subtractTop : Undefined subtract ⊤ ⊤ .undefinedInfinity
  | subtractBot : Undefined subtract ⊥ ⊥ .undefinedInfinity

theorem Undefined.fault_eq {op : BinaryOperation} {x y : EReal} {fault : ArithmeticFault}
    (h : op.Undefined x y fault) : fault = .undefinedInfinity := by
  cases h <;> rfl

/-- Where one span is finite, an operation has a result. -/
theorem not_undefined_of_isFinite (op : BinaryOperation) (a b : Span)
    (h : a.isFinite ∨ b.isFinite) (fault : ArithmeticFault) :
    ¬ op.Undefined a.value b.value fault := by
  rw [Span.isFinite_iff, Span.isFinite_iff] at h
  generalize a.value = x at h
  generalize b.value = y at h
  intro hundefined
  cases hundefined <;> simp at h

/-- A sum has the sum of the lengths, and that of opposite infinities has none. -/
theorem add_gives (a b : Span) :
    Span.Gives (Undefined add a.value b.value) (exact add a.value b.value) (a.add? b) := by
  cases a with
  | finite c =>
      have hdefined := not_undefined_of_isFinite add (.finite c) b (.inl rfl)
      cases b with
      | finite d =>
          have hgives := Span.gives_ofNanos? hdefined (c.val + d.val)
          rwa [Int.cast_add, EReal.coe_add] at hgives
      | infinite t =>
          refine .span hdefined ?_
          cases t with
          | true => exact (EReal.add_bot _).symm
          | false => exact (EReal.coe_add_top _).symm
  | infinite s =>
      cases b with
      | finite d =>
          have hdefined := not_undefined_of_isFinite add (.infinite s) (.finite d) (.inr rfl)
          refine .span hdefined ?_
          cases s with
          | true => exact (EReal.bot_add _).symm
          | false => exact (EReal.top_add_coe _).symm
      | infinite t =>
          cases s with
          | true =>
              cases t with
              | true => exact .span nofun (EReal.bot_add ⊥).symm
              | false => exact .undefined .addBotTop
          | false =>
              cases t with
              | true => exact .undefined .addTopBot
              | false => exact .span nofun EReal.top_add_top.symm

theorem subtract_gives (a b : Span) :
    Span.Gives (Undefined subtract a.value b.value) (exact subtract a.value b.value)
      (a.sub? b) := by
  cases a with
  | finite c =>
      have hdefined := not_undefined_of_isFinite subtract (.finite c) b (.inl rfl)
      cases b with
      | finite d =>
          have hgives := Span.gives_ofNanos? hdefined (c.val - d.val)
          rwa [Int.cast_sub, EReal.coe_sub] at hgives
      | infinite t =>
          refine .span hdefined ?_
          cases t with
          | true => exact (EReal.coe_sub_bot _).symm
          | false => exact (EReal.sub_top _).symm
  | infinite s =>
      cases b with
      | finite d =>
          have hdefined := not_undefined_of_isFinite subtract (.infinite s) (.finite d) (.inr rfl)
          refine .span hdefined ?_
          cases s with
          | true => exact (EReal.bot_sub _).symm
          | false => exact (EReal.top_sub_coe _).symm
      | infinite t =>
          cases s with
          | true =>
              cases t with
              | true => exact .undefined .subtractBot
              | false => exact .span nofun (EReal.bot_sub ⊤).symm
          | false =>
              cases t with
              | true => exact .span nofun EReal.top_sub_bot.symm
              | false => exact .undefined .subtractTop

/-- An operation on two spans gives what its exact result asks for. -/
theorem gives (op : BinaryOperation) (a b : Span) :
    Span.Gives (op.Undefined a.value b.value) (op.exact a.value b.value) (op.run? a b) := by
  cases op with
  | add => exact add_gives a b
  | subtract => exact subtract_gives a b

/-- An operation on finite spans leads to a finite one. -/
theorem isFinite_of_run?_finite {op : BinaryOperation} {c d : Count} {result : Span}
    (h : op.run? (.finite c) (.finite d) = .ok result) : result.isFinite = true := by
  cases op with
  | add => exact Span.isFinite_of_ofNanos? h
  | subtract => exact Span.isFinite_of_ofNanos? h

/-- An operation with an infinite span leads to an infinite one, or is undefined. -/
theorem endless_run? (op : BinaryOperation) {a b : Span}
    (h : (a.isFinite && b.isFinite) = false) : Span.Endless (op.run? a b) := by
  cases a with
  | finite c =>
      cases b with
      | finite d => cases h
      | infinite t => cases op <;> rfl
  | infinite s =>
      cases b with
      | finite d => cases op <;> rfl
      | infinite t =>
          cases op with
          | add =>
              simp only [run?, Span.add?]
              split
              · rfl
              · exact nofun
          | subtract =>
              simp only [run?, Span.sub?]
              split
              · exact nofun
              · rfl

/-- A result is finite exactly if both spans are. -/
theorem isFinite_of_run? {op : BinaryOperation} {a b result : Span}
    (h : op.run? a b = .ok result) : result.isFinite = (a.isFinite && b.isFinite) := by
  cases hfinite : a.isFinite && b.isFinite with
  | true =>
      cases a with
      | infinite s => cases hfinite
      | finite c =>
          cases b with
          | infinite t => cases hfinite
          | finite d => exact isFinite_of_run?_finite h
  | false =>
      have hendless := op.endless_run? hfinite
      rwa [h] at hendless

/-- Only finite spans can overflow. -/
theorem isFinite_of_overflow {op : BinaryOperation} {a b : Span}
    (h : op.run? a b = .error .overflow) : (a.isFinite && b.isFinite) = true := by
  cases hfinite : a.isFinite && b.isFinite with
  | true => rfl
  | false =>
      have hendless := op.endless_run? hfinite
      rw [h] at hendless
      exact absurd rfl hendless

end BinaryOperation

end UtcTime
