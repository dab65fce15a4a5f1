import ElementAtlas.Scalar.Double
import Mathlib

/-!
# Exact products and quotients of doubles

The product of a double and one, and its quotient by one, are the double itself, also where it is
infinite, no number, or too small to be normal. The bits of a double are unpacked into a sign, a
mantissa and an exponent, and the results of operations are rounded and packed again, so this takes
two facts: packing undoes unpacking (`pack_unpack`), and rounding leaves a mantissa alone that only
zeros were put behind (`roundWithAccuracy_shifted`).
-/

namespace ElementAtlas.Double

open Float.Model Float.Model.UnpackedFloat

/-- The mantissa and the exponent of a double that is a number other than zero. The mantissa of a
normal double takes 53 bits; only the least exponent goes with fewer. -/
structure Canonical (m : Nat) (e : Int) : Prop where
  pos : 0 < m
  lt : m < 2 ^ 53
  least : -1074 ≤ e
  greatest : e ≤ 971
  normal : 2 ^ 52 ≤ m ∨ e = -1074

/-- The exponent that the format aims at leaves 53 bits, and is never below the least one. -/
theorem targetExponent_eq (t : Int) : Format.binary64.targetExponent t = max (t - 53) (-1074) := by
  simp only [Format.targetExponent]
  rfl

/-- The exponent of a double is the one that its mantissa is rounded to. -/
theorem Canonical.target {m : Nat} {e : Int} (h : Canonical m e) :
    max ((m.log2 : Int) + 1 + e - 53) (-1074) = e := by
  have hlt : m.log2 < 53 := (Nat.log2_lt (Nat.ne_of_gt h.pos)).2 h.lt
  have hleast := h.least
  rcases h.normal with hnormal | rfl
  · have hle : 52 ≤ m.log2 := (Nat.le_log2 (Nat.ne_of_gt h.pos)).2 hnormal
    omega
  · omega

/-! ## Rounding -/

/-- Zeros behind a mantissa are shifted out without a trace. -/
theorem shiftRight_exact (m k : Nat) :
    ExtendedMantissa.ofMantissaAndAccuracy (m * 2 ^ k) .exact >>> k = ⟨m, false, false⟩ := by
  induction k generalizing m with
  | zero => rw [Nat.pow_zero, Nat.mul_one]; rfl
  | succ k ih =>
    have hstep : ExtendedMantissa.ofMantissaAndAccuracy (m * 2 ^ (k + 1)) .exact >>> (k + 1) =
        ExtendedMantissa.shiftRightOne
          (ExtendedMantissa.ofMantissaAndAccuracy (m * 2 * 2 ^ k) .exact >>> k) := by
      rw [Nat.pow_succ', ← Nat.mul_assoc]
      rfl
    rw [hstep, ih, ExtendedMantissa.shiftRightOne]
    simp

/-- Doubling a number adds one to its logarithm. -/
theorem log2_mul_two_pow {m : Nat} (hm : 0 < m) (k : Nat) : (m * 2 ^ k).log2 = m.log2 + k := by
  induction k with
  | zero => rw [Nat.pow_zero, Nat.mul_one, Nat.add_zero]
  | succ k ih =>
    have hne : m * 2 ^ k ≠ 0 := Nat.mul_ne_zero (Nat.ne_of_gt hm) (Nat.ne_of_gt (Nat.two_pow_pos k))
    rw [Nat.pow_succ', Nat.mul_left_comm, Nat.log2_two_mul hne, ih, Nat.add_assoc]

/-- A canonical mantissa with zeros behind it is shifted back to itself. -/
theorem shiftToTargetExponent_shifted {m : Nat} {e : Int} (h : Canonical m e) (k : Nat) :
    shiftToTargetExponent Format.binary64 (m * 2 ^ k) (e - k) .exact = (⟨m, false, false⟩, e) := by
  have htarget : Format.binary64.targetExponent (totalExponent (m * 2 ^ k) (e - k)) = e := by
    rw [targetExponent_eq, totalExponent, log2_mul_two_pow h.pos]
    have := h.target
    omega
  have hk : (e - (e - k)).toNat = k := by omega
  rw [shiftToTargetExponent, htarget, shiftToExponent]
  simp only [hk, shiftRight_exact, Int.sub_add_cancel]

/-- A mantissa with zeros put behind it is rounded to itself. -/
theorem roundWithAccuracy_shifted {m : Nat} {e : Int} (h : Canonical m e) (s : Sign) (k : Nat) :
    roundWithAccuracy Format.binary64 s (m * 2 ^ k) (e - k) .exact = .finite s m e h.pos := by
  have hstay := shiftToTargetExponent_shifted h 0
  rw [Nat.pow_zero, Nat.mul_one, Int.natCast_zero, Int.sub_zero] at hstay
  have hmantissa : ExtendedMantissa.roundedMantissa ⟨m, false, false⟩ = m := rfl
  unfold roundWithAccuracy
  simp only [shiftToTargetExponent_shifted h k, hmantissa, hstay]
  rw [dif_neg (Nat.ne_of_gt h.pos)]

/-! ## Packing -/

/-- The bits of a double are those of its sign, its exponent and its mantissa. -/
@[simp] theorem packComponents_unpack (b : BitVec Format.binary64.numBits) :
    packComponents Format.binary64 (Sign.ofBitVec (unpackSign b)) (unpackExponent b)
      (unpackMantissa b) = b := by
  have hsign (s : BitVec 1) : (Sign.ofBitVec s).toBitVec = s := by
    revert s
    decide
  rw [packComponents, hsign]
  apply BitVec.eq_of_getLsbD_eq
  intro i hi
  simp only [BitVec.getLsbD_append, unpackSign, unpackExponent, unpackMantissa,
    BitVec.getLsbD_cast, BitVec.getLsbD_extractLsb]
  have hwidth : i < 64 := hi
  split_ifs with hmantissa hexponent
  · rw [Nat.zero_add, decide_eq_true (by omega), Bool.true_and]
  · have hindex : 52 + (i - 52) = i := by omega
    rw [hindex, decide_eq_true (by omega), Bool.true_and]
  · have hindex : 52 + 11 + (i - 52 - 11) = i := by omega
    rw [hindex, decide_eq_true (by omega), Bool.true_and]

/-- What bits are unpacked to: infinities, zeros and what is no number apart, a mantissa and an
exponent that go together. -/
def Rounded : UnpackedFloat → Prop
  | .finite _ m e _ => Canonical m e
  | _ => True

/-- The hidden bit of a normal mantissa, as a number. -/
theorem toNat_append_one (m : BitVec 52) : (1#1 ++ m).toNat = 2 ^ 52 + m.toNat := by
  rw [BitVec.toNat_append, ← Nat.shiftLeft_add_eq_or_of_lt m.isLt]
  rfl

/-- A canonical mantissa has all bits of the format if and only if it is normal. -/
theorem log2_eq_iff_normal {m : Nat} {e : Int} (h : Canonical m e) :
    m.log2 + 1 = Format.binary64.mantissaBits ↔ 2 ^ 52 ≤ m := by
  have hlt : m.log2 < 53 := (Nat.log2_lt (Nat.ne_of_gt h.pos)).2 h.lt
  rw [← Nat.le_log2 (Nat.ne_of_gt h.pos)]
  change m.log2 + 1 = 53 ↔ 52 ≤ m.log2
  omega

/-- A number other than zero is packed with the exponent above the least one, or with none if its
mantissa takes fewer bits than a normal one. -/
theorem pack_finite {m : Nat} {e : Int} (h : Canonical m e) (s : Sign) :
    pack Format.binary64 (.finite s m e h.pos) =
      packComponents Format.binary64 s
        (if 2 ^ 52 ≤ m then BitVec.ofNat 11 (e + 1075).toNat else 0#11) (BitVec.ofNat 52 m) := by
  have hbiased :
      (e + Format.binary64.exponentBias + ((52 : Nat) : Int)).toNat = (e + 1075).toNat := by
    change (e + 1023 + 52).toNat = _
    omega
  have hgreatest := h.greatest
  unfold Float.Model.UnpackedFloat.pack
  dsimp only
  rw [hbiased, if_neg (by omega)]
  by_cases hnormal : 2 ^ 52 ≤ m
  · rw [if_pos ((log2_eq_iff_normal h).2 hnormal), if_pos hnormal]
  · rw [if_neg (mt (log2_eq_iff_normal h).1 hnormal), if_neg hnormal]

/-- Normal numbers are unpacked in canonical form. -/
theorem canonical_normal {exponent : BitVec 11} (hones : exponent ≠ -1#11) (hzero : exponent ≠ 0#11)
    (mantissa : BitVec 52) :
    Canonical (1#1 ++ mantissa).toNat ((exponent.toNat : Int) - (1023 + 52)) := by
  have hmantissa := mantissa.isLt
  have hexponent := exponent.isLt
  have hpos : exponent.toNat ≠ 0 := fun heq => hzero (BitVec.eq_of_toNat_eq heq)
  have hlt : exponent.toNat ≠ 2047 := fun heq => hones (BitVec.eq_of_toNat_eq heq)
  rw [toNat_append_one]
  exact ⟨by omega, by omega, by omega, by omega, .inl (by omega)⟩

/-- Numbers below the normal ones are unpacked in canonical form. -/
theorem canonical_subnormal {mantissa : BitVec 52} (hzero : mantissa ≠ 0#52) :
    Canonical mantissa.toNat (-1074) := by
  have hmantissa := mantissa.isLt
  have hpos : mantissa.toNat ≠ 0 := fun heq => hzero (BitVec.eq_of_toNat_eq heq)
  exact ⟨by omega, by omega, by omega, by omega, .inr rfl⟩

/-- What is unpacked is what the format has. -/
theorem rounded_unpack (b : BitVec Format.binary64.numBits) :
    Rounded (unpack Format.binary64 b) := by
  unfold Float.Model.UnpackedFloat.unpack
  dsimp only
  split_ifs with hones hnil hzero hnil
  · trivial
  · trivial
  · trivial
  · have hsubnormal := canonical_subnormal hnil
    rw [hzero]
    exact hsubnormal
  · exact canonical_normal hones hzero (unpackMantissa b)

/-- Packing what was unpacked leads back to the same bits. -/
theorem pack_unpack {b : BitVec Format.binary64.numBits} (h : Format.binary64.Valid b) :
    pack Format.binary64 (unpack Format.binary64 b) = b := by
  have hcomponents := packComponents_unpack b
  have hrounded := rounded_unpack b
  unfold Float.Model.UnpackedFloat.unpack at hrounded ⊢
  dsimp only at hrounded ⊢
  split_ifs at hrounded ⊢ with hones hnil hzero hnil
  · rw [hones, hnil] at hcomponents
    exact hcomponents
  · exact (h.eq_packedNaN hones hnil).symm
  · rw [hzero, hnil] at hcomponents
    exact hcomponents
  · rw [pack_finite hrounded, if_neg (Nat.not_le.2 (unpackMantissa b).isLt)]
    rw [hzero] at hcomponents
    rw [BitVec.ofNat_toNat, BitVec.setWidth_eq]
    exact hcomponents
  · have hmantissa : BitVec.ofNat 52 (1#1 ++ unpackMantissa b).toNat = unpackMantissa b := by
      apply BitVec.eq_of_toNat_eq
      rw [BitVec.toNat_ofNat, toNat_append_one, Nat.add_mod_left]
      exact Nat.mod_eq_of_lt (unpackMantissa b).isLt
    have hexponent : BitVec.ofNat 11
        (((unpackExponent b).toNat : Int) - (1023 + 52) + 1075).toNat = unpackExponent b := by
      have hexact : (((unpackExponent b).toNat : Int) - (1023 + 52) + 1075).toNat =
          (unpackExponent b).toNat := by omega
      rw [hexact, BitVec.ofNat_toNat, BitVec.setWidth_eq]
    have hnormal : 2 ^ 52 ≤ (1#1 ++ unpackMantissa b).toNat := by
      rw [toNat_append_one]
      exact Nat.le_add_right _ _
    rw [pack_finite hrounded, hmantissa, if_pos hnormal]
    exact (congrArg (packComponents _ _ · _) hexponent).trans hcomponents

/-! ## Multiplying and dividing by one -/

/-- Packing what a double unpacks to gives the double back. -/
@[simp] theorem ofModel_pack_unpack (x : Float) : Float.ofModel (.pack x.toModel.unpack) = x := by
  obtain ⟨⟨bits, hvalid⟩⟩ := x
  have hbits : UInt64.ofBitVec (pack Format.binary64 (unpack Format.binary64 bits.toBitVec)) =
      bits := by
    rw [pack_unpack hvalid]
  unfold Float.Model.pack Float.Model.unpack
  simp only [hbits]

/-- One, as it is unpacked: a mantissa of 53 bits. -/
def one : UnpackedFloat := .finite .positive (2 ^ 52) (-52) (by decide)

@[simp] theorem unpack_one : (ofDecimal (.ofNat 1)).toModel.unpack = one :=
  rfl

@[simp] theorem sign_mul_positive (s : Sign) : s * .positive = s := by
  cases s <;> rfl

@[simp] theorem positive_mul_sign (s : Sign) : .positive * s = s := by
  cases s <;> rfl

@[simp] theorem sign_div_positive (s : Sign) : s / .positive = s := by
  cases s <;> rfl

/-- One on the right leaves the product of what the format has. -/
theorem unpacked_mul_one {x : UnpackedFloat} (h : Rounded x) :
    Float.Model.UnpackedFloat.mul Format.binary64 x one = x := by
  cases x with
  | infinity s => exact congrArg UnpackedFloat.infinity (sign_mul_positive s)
  | notANumber => rfl
  | zero s => exact congrArg UnpackedFloat.zero (sign_mul_positive s)
  | finite s m e hm =>
    have hround := roundWithAccuracy_shifted h s 52
    rw [← Int.add_neg_eq_sub] at hround
    change roundWithAccuracy _ (s * .positive) (m * 2 ^ 52) (e + -52) .exact = _
    rw [sign_mul_positive]
    exact hround

/-- One on the left leaves the product of what the format has. -/
theorem unpacked_one_mul {x : UnpackedFloat} (h : Rounded x) :
    Float.Model.UnpackedFloat.mul Format.binary64 one x = x := by
  cases x with
  | infinity s => exact congrArg UnpackedFloat.infinity (positive_mul_sign s)
  | notANumber => rfl
  | zero s => exact congrArg UnpackedFloat.zero (positive_mul_sign s)
  | finite s m e hm =>
    have hround := roundWithAccuracy_shifted h s 52
    change roundWithAccuracy _ (.positive * s) (2 ^ 52 * m) (-52 + e) .exact = _
    rw [positive_mul_sign, Nat.mul_comm, Int.add_comm]
    exact hround

/-- A quotient by one is exact, with a zero put behind the mantissa where the exponent allows it. -/
theorem divCore_one {m : Nat} {e : Int} (h : Canonical m e) :
    ∃ k : Nat, divCore Format.binary64 m e (2 ^ 52) (-52) = (m * 2 ^ k, e - k, .exact) := by
  obtain ⟨k, htarget⟩ : ∃ k : Nat, min (e - -52) (Format.binary64.targetExponent
      (totalExponent m e - totalExponent (2 ^ 52) (-52))) = e - k := by
    rw [targetExponent_eq, totalExponent, totalExponent, Nat.log2_two_pow]
    have hlt : m.log2 < 53 := (Nat.log2_lt (Nat.ne_of_gt h.pos)).2 h.lt
    have hleast := h.least
    by_cases he : e = -1074
    · exact ⟨0, by omega⟩
    · have hnormal := (Nat.le_log2 (Nat.ne_of_gt h.pos)).2 (h.normal.resolve_right he)
      exact ⟨1, by omega⟩
  have hshift : (e - -52 - (e - k)).toNat = k + 52 := by omega
  have hzeros : m <<< (k + 52) = m * 2 ^ k * 2 ^ 52 := by
    rw [Nat.shiftLeft_eq, Nat.pow_add, Nat.mul_assoc]
  refine ⟨k, ?_⟩
  unfold divCore
  simp only [htarget, hshift, hzeros]
  rw [Nat.mul_div_cancel _ (Nat.two_pow_pos 52), Nat.mul_mod_left]
  rfl

/-- One as a divisor leaves the quotient of what the format has. -/
theorem unpacked_div_one {x : UnpackedFloat} (h : Rounded x) :
    Float.Model.UnpackedFloat.div Format.binary64 x one = x := by
  cases x with
  | infinity s => exact congrArg UnpackedFloat.infinity (sign_div_positive s)
  | notANumber => rfl
  | zero s => exact congrArg UnpackedFloat.zero (sign_div_positive s)
  | finite s m e hm =>
    obtain ⟨k, hcore⟩ := divCore_one h
    unfold Float.Model.UnpackedFloat.div one
    simp only [hcore, sign_div_positive]
    exact roundWithAccuracy_shifted h s k

/-- Every double unpacks to what the format has. -/
theorem rounded (x : Float) : Rounded x.toModel.unpack :=
  rounded_unpack _

/-- Multiplying a double by one leaves it as it is. -/
@[simp] theorem mul_one (x : Float) : x * ofDecimal (.ofNat 1) = x := by
  change Float.ofModel (.pack (.mul _ x.toModel.unpack (ofDecimal (.ofNat 1)).toModel.unpack)) = x
  rw [unpack_one, unpacked_mul_one (rounded x)]
  exact ofModel_pack_unpack x

/-- Multiplying one by a double leaves the double as it is. -/
@[simp] theorem one_mul (x : Float) : ofDecimal (.ofNat 1) * x = x := by
  change Float.ofModel (.pack (.mul _ (ofDecimal (.ofNat 1)).toModel.unpack x.toModel.unpack)) = x
  rw [unpack_one, unpacked_one_mul (rounded x)]
  exact ofModel_pack_unpack x

/-- Dividing a double by one leaves it as it is. -/
@[simp] theorem div_one (x : Float) : x / ofDecimal (.ofNat 1) = x := by
  change Float.ofModel (.pack (.div _ x.toModel.unpack (ofDecimal (.ofNat 1)).toModel.unpack)) = x
  rw [unpack_one, unpacked_div_one (rounded x)]
  exact ofModel_pack_unpack x

end ElementAtlas.Double
