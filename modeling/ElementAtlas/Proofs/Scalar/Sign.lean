import ElementAtlas.Proofs.Scalar.Exact
import ElementAtlas.Scalar.Double

/-!
# Doubles without a sign

A decimal has no sign, and so the double nearest to it has none; nor has a product or a quotient of
doubles without a sign, whatever their size is. What is no number has no sign either.
-/

namespace ElementAtlas.Double

open Float.Model Float.Model.UnpackedFloat

/-- Whether there is no sign in front of a double. -/
def isUnsigned : UnpackedFloat → Bool
  | .finite .negative .. | .zero .negative | .infinity .negative => false
  | _ => true

/-- There is no sign in front of a double. -/
def Unsigned (u : UnpackedFloat) : Prop := isUnsigned u = true

instance : DecidablePred Unsigned := fun u => inferInstanceAs (Decidable (isUnsigned u = true))

/-- Packing keeps the sign. -/
theorem unsigned_packed {u : UnpackedFloat} (h : Unsigned u) :
    Unsigned (packed u).toModel.unpack := by
  have hcomponents (e : BitVec 11) (m : BitVec 52) :
      Unsigned (unpack Format.binary64 (packComponents Format.binary64 .positive e m)) := by
    unfold Float.Model.UnpackedFloat.unpack
    simp only [unpackExponent_packComponents, unpackMantissa_packComponents,
      unpackSign_packComponents, Sign.ofBitVec_toBitVec]
    split_ifs <;> rfl
  change Unsigned (unpack Format.binary64 (pack Format.binary64 u))
  match u, h with
  | .infinity .positive, _ | .zero .positive, _ | .notANumber, _ => exact hcomponents _ _
  | .finite .positive m e hm, _ =>
    unfold Float.Model.UnpackedFloat.pack
    dsimp only
    split_ifs
    · exact hcomponents _ _
    · exact hcomponents _ _
    · exact hcomponents _ _

/-- Rounding without a sign gives a result without one. -/
theorem unsigned_roundWithAccuracy (m : Nat) (e : Int) (a : Accuracy) :
    Unsigned (roundWithAccuracy Format.binary64 .positive m e a) := by
  unfold roundWithAccuracy
  dsimp only
  split_ifs <;> rfl

/-- Numbers without a sign have a product without one. -/
theorem unsigned_mul {u v : UnpackedFloat} (hu : Unsigned u) (hv : Unsigned v) :
    Unsigned (mul Format.binary64 u v) := by
  match u, v, hu, hv with
  | .finite .positive .., .finite .positive .., _, _ => exact unsigned_roundWithAccuracy _ _ _
  | .notANumber, _, _, _ => rfl
  | .infinity .positive, .notANumber, _, _ | .infinity .positive, .infinity .positive, _, _
  | .infinity .positive, .zero .positive, _, _ | .infinity .positive, .finite .positive .., _, _
  | .zero .positive, .notANumber, _, _ | .zero .positive, .infinity .positive, _, _
  | .zero .positive, .zero .positive, _, _ | .zero .positive, .finite .positive .., _, _
  | .finite .positive .., .notANumber, _, _ | .finite .positive .., .infinity .positive, _, _
  | .finite .positive .., .zero .positive, _, _ => rfl

/-- Numbers without a sign have a quotient without one. -/
theorem unsigned_div {u v : UnpackedFloat} (hu : Unsigned u) (hv : Unsigned v) :
    Unsigned (div Format.binary64 u v) := by
  match u, v, hu, hv with
  | .finite .positive .., .finite .positive .., _, _ => exact unsigned_roundWithAccuracy _ _ _
  | .notANumber, _, _, _ => rfl
  | .infinity .positive, .notANumber, _, _ | .infinity .positive, .infinity .positive, _, _
  | .infinity .positive, .zero .positive, _, _ | .infinity .positive, .finite .positive .., _, _
  | .zero .positive, .notANumber, _, _ | .zero .positive, .infinity .positive, _, _
  | .zero .positive, .zero .positive, _, _ | .zero .positive, .finite .positive .., _, _
  | .finite .positive .., .notANumber, _, _ | .finite .positive .., .infinity .positive, _, _
  | .finite .positive .., .zero .positive, _, _ => rfl

/-- What is read from digits and an exponent has no sign. -/
theorem unsigned_ofScientific (m : Nat) (e : Int) :
    Unsigned (UnpackedFloat.ofScientific Format.binary64 m e) := by
  have hsign (n : Nat) (f : Int) (hn : 0 < n) : Unsigned (.finite .positive n f hn) := rfl
  unfold Float.Model.UnpackedFloat.ofScientific
  split_ifs
  · rfl
  · rfl
  · rfl
  · exact unsigned_mul (hsign _ _ _) (hsign _ _ _)
  · exact unsigned_div (hsign _ _ _) (hsign _ _ _)

/-- Natural numbers have no sign. -/
theorem unsigned_ofInt (n : Nat) : Unsigned (UnpackedFloat.ofInt Format.binary64 n) := by
  unfold Float.Model.UnpackedFloat.ofInt Float.Model.UnpackedFloat.normalize
  cases hcmp : compare (n : Int) 0 with
  | lt =>
    have hneg := Int.compare_eq_lt.1 hcmp
    omega
  | eq => rfl
  | gt => exact unsigned_roundWithAccuracy _ _ _

/-- The powers of ten that are doubles. -/
theorem unsigned_powerOfTen (e : Nat) (h : e < Float.exactlyRepresentablePowersOfTen.size) :
    Unsigned (Float.exactlyRepresentablePowersOfTen[e]).toModel.unpack := by
  have hall : ∀ x ∈ Float.exactlyRepresentablePowersOfTen.toList,
      Unsigned x.toModel.unpack := by decide +kernel
  exact hall _ (Array.getElem_mem_toList h)

/-- The double of a decimal has no sign. -/
theorem unsigned_ofDecimal (d : Decimal) : Unsigned (ofDecimal d).toModel.unpack := by
  unfold ofDecimal
  dsimp only
  split
  · rfl
  split
  · rfl
  unfold Float.ofScientific
  split
  next h =>
    dsimp only
    split
    · exact unsigned_packed
        (unsigned_div (unsigned_packed (unsigned_ofInt _)) (unsigned_powerOfTen _ _))
    · exact unsigned_packed
        (unsigned_mul (unsigned_packed (unsigned_ofInt _)) (unsigned_powerOfTen _ _))
  · exact unsigned_packed (unsigned_ofScientific _ _)

/-- A double without a sign is a number that is not below zero. -/
theorem toRat_nonneg {x : Float} (h : Unsigned x.toModel.unpack) : 0 ≤ toRat x := by
  rw [toRat]
  cases hunpack : x.toModel.unpack with
  | finite s m e hm =>
    cases s with
    | positive => exact (mul_two_zpow_pos hm e).le
    | negative =>
      rw [hunpack] at h
      cases h
  | zero | infinity | notANumber => exact le_refl _

end ElementAtlas.Double
