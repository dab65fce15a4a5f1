import ElementAtlas.Proofs.Scalar.Binary
import ElementAtlas.Scalar.Rational
import Mathlib.Algebra.Field.Rat

/-!
# Scalars in which one is neutral

Computing with doubles rounds, but multiplying by one and dividing by one does not. Units are put
together from factors some of which are one, and that is all that is needed of the scalars for the
factors to leave no trace (`Scalar.Lawful`). The doubles and the rationals are such scalars.
-/

namespace ElementAtlas

namespace Scalar

/-- One is neutral, with or without a digit behind its point. -/
class Lawful (α : Type) [Scalar α] : Prop where
  mul_one (x : α) : x * ofNat 1 = x
  one_mul (x : α) : ofNat 1 * x = x
  div_one (x : α) : x / ofNat 1 = x
  ofDecimal_one : (ofDecimal 1.0 : α) = ofNat 1

attribute [simp] Lawful.mul_one Lawful.one_mul Lawful.div_one

instance : Lawful Float where
  mul_one := Double.mul_one
  one_mul := Double.one_mul
  div_one := Double.div_one
  ofDecimal_one := by decide +kernel

@[simp] theorem rat_ofNat_zero : (ofNat 0 : Rat) = 0 := by
  decide +kernel

@[simp] theorem rat_ofNat_one : (ofNat 1 : Rat) = 1 := by
  decide +kernel

instance : Lawful Rat where
  mul_one := by simp
  one_mul := by simp
  div_one := by simp
  ofDecimal_one := by decide +kernel

variable {α : Type} [Scalar α] [Lawful α]

/-! ## Powers of one -/

/-- Multiplying a number by powers of one leaves it as it is. -/
@[simp] theorem mulPower_one (r : α) (n : Nat) : mulPower r (ofNat 1) n = r := by
  induction n using Nat.strong_induction_on with
  | h n ih =>
    rw [mulPower]
    split_ifs with hzero hodd
    · rfl
    · simp [ih (n / 2) (by omega)]
    · simp [ih (n / 2) (by omega)]

/-- A natural power of one is one. -/
@[simp] theorem powerNat_one (n : Nat) : powerNat (ofNat 1 : α) n = ofNat 1 := by
  induction n using Nat.strong_induction_on with
  | h n ih =>
    rw [powerNat]
    split_ifs with hzero hodd
    · rfl
    · simp
    · simp [ih (n / 2) (by omega)]

/-- Every power of one is one. -/
@[simp] theorem power_one (n : Int) : power (ofNat 1 : α) n = ofNat 1 := by
  rw [power, powerNat_one]
  split_ifs
  · exact Lawful.div_one _
  · rfl

end Scalar

end ElementAtlas
