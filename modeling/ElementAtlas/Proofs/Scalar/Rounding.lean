import ElementAtlas.Proofs.Scalar.Binary
import Mathlib.Algebra.Order.Field.Power
import Mathlib.Algebra.Order.Ring.Rat
import Mathlib.Tactic.FieldSimp
import Mathlib.Tactic.GCongr
import Mathlib.Tactic.Linarith
import Mathlib.Tactic.Positivity
import Mathlib.Tactic.Ring

/-!
# How far rounding goes

The operations on doubles work out a mantissa and an exponent that tell where the exact result lies
(`Locates`), and round these to the format. The outcome is a number that the format has, but for the
size of its exponent (`Shaped`), and it lies within the `roundoff` of the exact result
(`roundsTo_roundWithAccuracy`): half a unit in the last place of a normal double, or half of the
least double.

Mantissas are shifted to the right one bit at a time. A shift halves the number that the mantissa
locates, so the first rounding is followed bit by bit with no exponent in sight; the second one
takes up a carry and loses nothing.
-/

namespace ElementAtlas.Double

open Float.Model Float.Model.UnpackedFloat

/-! ## Numbers -/

/-- A number with a sign. -/
def signed : Sign → Rat → Rat
  | .negative, x => -x
  | .positive, x => x

/-- The number that an unpacked double is. Infinities and what is no number are none, and count as
zero. -/
def value : UnpackedFloat → Rat
  | .finite s m e _ => signed s (m * 2 ^ e)
  | _ => 0

/-- Half of the least double. -/
def underflow : Rat := 1 / 2 ^ 1075

/-- The most that rounding takes away from a number or adds to it. -/
def roundoff (x : Rat) : Rat := |x| / 2 ^ 53 + underflow

/-- Powers of two are positive. -/
theorem two_zpow_pos (e : Int) : (0 : Rat) < 2 ^ e :=
  zpow_pos (by norm_num) e

/-- Natural exponents can be split off a power of two. -/
theorem two_zpow_add_nat (e : Int) (k : Nat) : (2 : Rat) ^ (e + k) = 2 ^ e * 2 ^ k := by
  rw [zpow_add₀ (by norm_num), zpow_natCast]

/-- Numbers are rounded to multiples of something positive. -/
theorem underflow_pos : 0 < underflow := by
  rw [underflow]
  positivity

/-- What rounding may change is never negative. -/
theorem roundoff_nonneg (x : Rat) : 0 ≤ roundoff x :=
  add_nonneg (by positivity) underflow_pos.le

/-- Rounding changes a number as much as its absolute value. -/
@[simp] theorem roundoff_abs (x : Rat) : roundoff |x| = roundoff x := by
  rw [roundoff, roundoff, abs_abs]

/-- What rounding may change, measured in multiples of a scale. -/
theorem roundoff_mul {scale : Rat} (hscale : 0 < scale) (x : Rat) :
    roundoff x * scale = |x * scale| / 2 ^ 53 + underflow * scale := by
  rw [roundoff, abs_mul, abs_of_pos hscale]
  ring

/-- A greater number may be changed more. -/
theorem roundoff_mono {x y : Rat} (h : |x| ≤ |y|) : roundoff x ≤ roundoff y := by
  rw [roundoff, roundoff]
  gcongr

/-- A sign can be pulled out of a product. -/
theorem signed_mul (s : Sign) (x y : Rat) : signed s x * y = signed s (x * y) := by
  cases s <;> simp [signed]

/-- A sign does not change the absolute value. -/
@[simp] theorem abs_signed (s : Sign) (x : Rat) : |signed s x| = |x| := by
  cases s <;> simp [signed]

/-- A common sign does not change a distance. -/
theorem abs_signed_sub_signed (s : Sign) (x y : Rat) : |signed s x - signed s y| = |x - y| := by
  cases s with
  | negative => rw [signed, signed, neg_sub_neg, abs_sub_comm]
  | positive => rfl

/-- The mantissa and the exponent of a number as they are rounded to, when the exponent may be too
great for the format. -/
structure Normalized (m : Nat) (e : Int) : Prop where
  lt : m < 2 ^ 53
  least : -1074 ≤ e
  normal : 2 ^ 52 ≤ m ∨ e = -1074

/-- What rounding results in: a zero, or a number that the format has but for the size of its
exponent. -/
def Shaped : UnpackedFloat → Prop
  | .finite _ m e _ => Normalized m e
  | .zero _ => True
  | _ => False

/-- A number is rounded to an unpacked double. -/
structure RoundsTo (x : Rat) (u : UnpackedFloat) : Prop where
  shaped : Shaped u
  error : |value u - x| ≤ roundoff x

/-! ## What a mantissa locates -/

/-- The value of a round bit. -/
def half (round : Bool) : Rat := if round then 1 / 2 else 0

/-- What a mantissa and its round bit leave of a number. -/
def rest (em : ExtendedMantissa) (x : Rat) : Rat := x - em.mantissa - half em.roundBit

/-- A number lies where a mantissa and its residual bits say: less than half a unit above the
mantissa and the round bit, and right there if the sticky bit is not set. -/
structure Locates (em : ExtendedMantissa) (x : Rat) : Prop where
  nonneg : 0 ≤ rest em x
  lt : rest em x < 1 / 2
  exact : em.stickyBit = false ↔ rest em x = 0

/-- The round bit stands for nothing or for one half. -/
theorem half_bounds (round : Bool) : 0 ≤ half round ∧ half round ≤ 1 / 2 := by
  cases round <;> norm_num [half]

/-- A number lies between the mantissa that locates it and the next one. -/
theorem Locates.floor {em : ExtendedMantissa} {x : Rat} (h : Locates em x) :
    em.mantissa ≤ x ∧ x < em.mantissa + 1 := by
  have hnonneg := h.nonneg
  have hlt := h.lt
  have hhalf := half_bounds em.roundBit
  rw [rest] at hnonneg hlt
  exact ⟨by linarith, by linarith⟩

/-- The rounded mantissa is off by no more than half a unit. -/
theorem Locates.rounded {em : ExtendedMantissa} {x : Rat} (h : Locates em x) :
    |(em.roundedMantissa : Rat) - x| ≤ 1 / 2 := by
  obtain ⟨m, round, sticky⟩ := em
  have hnonneg := h.nonneg
  have hlt := h.lt
  have hexact := h.exact
  simp only [rest, half] at hnonneg hlt hexact
  rw [abs_le]
  cases round with
  | false =>
    have hrounded : ExtendedMantissa.roundedMantissa ⟨m, false, sticky⟩ = m := by
      cases sticky <;> rfl
    rw [if_neg Bool.false_ne_true] at hnonneg hlt
    rw [hrounded]
    exact ⟨by linarith, by linarith⟩
  | true =>
    rw [if_pos rfl] at hnonneg hlt hexact
    cases sticky with
    | false =>
      -- a tie goes to the even one of two mantissas that are equally far away
      have hrounded : ExtendedMantissa.roundedMantissa ⟨m, true, false⟩ = m + m % 2 := rfl
      have htie := hexact.1 rfl
      rw [hrounded]
      rcases Nat.mod_two_eq_zero_or_one m with hmod | hmod
      · rw [hmod, Nat.add_zero]
        exact ⟨by linarith, by linarith⟩
      · rw [hmod]
        push_cast
        exact ⟨by linarith, by linarith⟩
    | true =>
      have hrounded : ExtendedMantissa.roundedMantissa ⟨m, true, true⟩ = m + 1 := rfl
      rw [hrounded]
      push_cast
      exact ⟨by linarith, by linarith⟩

/-! ## Shifting to the right -/

/-- Halving the number and shifting the mantissa keeps what is left over, halved. -/
theorem rest_shiftRightOne (em : ExtendedMantissa) (x : Rat) :
    rest em.shiftRightOne (x / 2) = (half em.roundBit + rest em x) / 2 := by
  have hmantissa : (em.mantissa : Rat) =
      2 * ((em.mantissa / 2 : Nat) : Rat) + 2 * half (em.mantissa % 2 != 0) := by
    have hdiv : (em.mantissa : Rat) =
        2 * ((em.mantissa / 2 : Nat) : Rat) + ((em.mantissa % 2 : Nat) : Rat) := by
      exact_mod_cast (Nat.div_add_mod em.mantissa 2).symm
    rw [hdiv]
    rcases Nat.mod_two_eq_zero_or_one em.mantissa with hmod | hmod <;> rw [hmod] <;> norm_num [half]
  simp only [rest, ExtendedMantissa.shiftRightOne]
  rw [hmantissa]
  ring

/-- Shifting a mantissa to the right locates half of the number. -/
theorem Locates.shiftRightOne {em : ExtendedMantissa} {x : Rat} (h : Locates em x) :
    Locates em.shiftRightOne (x / 2) := by
  have hnonneg := h.nonneg
  have hlt := h.lt
  have hexact := h.exact
  have hhalf := half_bounds em.roundBit
  refine ⟨?_, ?_, ?_⟩ <;> rw [rest_shiftRightOne]
  · linarith
  · linarith
  · have hsticky : em.shiftRightOne.stickyBit = (em.roundBit || em.stickyBit) := rfl
    rw [hsticky, Bool.or_eq_false_iff, hexact]
    cases em.roundBit with
    | false => simp [half]
    | true =>
      rw [half, if_pos rfl]
      constructor
      · intro hfalse
        cases hfalse.1
      · intro hzero
        linarith

/-- A mantissa that is shifted to the right locates a number that is halved as often. -/
theorem Locates.shiftRight {em : ExtendedMantissa} {x : Rat} (h : Locates em x) (k : Nat) :
    Locates (em >>> k) (x / 2 ^ k) := by
  induction k with
  | zero =>
    have hzero : em >>> 0 = em := rfl
    simpa [hzero] using h
  | succ k ih =>
    rw [pow_succ, ← div_div]
    exact ih.shiftRightOne

/-- A mantissa stays the same when an accuracy is put beside it. -/
@[simp] theorem mantissa_ofMantissaAndAccuracy (m : Nat) (a : Accuracy) :
    (ExtendedMantissa.ofMantissaAndAccuracy m a).mantissa = m := by
  match a with
  | .exact | .inexact .lt | .inexact .eq | .inexact .gt => rfl

/-- An exact mantissa locates itself. -/
theorem locates_exact (m : Nat) : Locates (.ofMantissaAndAccuracy m .exact) m := by
  have hrest : rest (.ofMantissaAndAccuracy m .exact) m = 0 := by
    simp [rest, half, ExtendedMantissa.ofMantissaAndAccuracy]
  refine ⟨?_, ?_, ?_⟩ <;> rw [hrest]
  · norm_num
  · exact ⟨fun _ => rfl, fun _ => rfl⟩

/-- What is left over of a number that is a mantissa and a rest. -/
theorem rest_add (m : Nat) (round sticky : Bool) (x : Rat) :
    rest ⟨m, round, sticky⟩ (m + x) = x - half round := by
  rw [rest, add_sub_cancel_left]

/-- The quotient of two mantissas lies where the remainder says. -/
theorem locates_fraction (n : Nat) {d : Nat} (hd : 0 < d) :
    Locates (.ofMantissaAndAccuracy (n / d) (accuracyOfFraction (n % d) d)) (n / d : Rat) := by
  have hdpos : (0 : Rat) < d := Nat.cast_pos.2 hd
  have hquotient : (n / d : Rat) = (n / d : Nat) + (n % d : Nat) / d := by
    have hdiv : (n : Rat) = d * (n / d : Nat) + (n % d : Nat) := by
      exact_mod_cast (Nat.div_add_mod n d).symm
    rw [eq_comm, eq_div_iff hdpos.ne', add_mul, div_mul_cancel₀ _ hdpos.ne', hdiv, mul_comm]
  have hlt : ((n % d : Nat) : Rat) < d := Nat.cast_lt.2 (Nat.mod_lt n hd)
  rw [hquotient]
  generalize n % d = r at *
  unfold accuracyOfFraction
  split
  next hzero =>
    rw [hzero, Nat.cast_zero, zero_div, add_zero]
    exact locates_exact _
  next hne =>
    have hpos : (0 : Rat) < r / d := div_pos (Nat.cast_pos.2 (Nat.pos_of_ne_zero hne)) hdpos
    have hone : (r : Rat) / d < 1 := (div_lt_one hdpos).2 hlt
    -- the remainder against half of the divisor
    cases hcmp : compare (2 * r) d with
    | lt =>
      have hhalf : (r : Rat) / d < 1 / 2 := by
        have hcast : ((2 * r : Nat) : Rat) < d := Nat.cast_lt.2 (Nat.compare_eq_lt.1 hcmp)
        push_cast at hcast
        rw [div_lt_div_iff₀ hdpos (by norm_num)]
        linarith
      simp only [ExtendedMantissa.ofMantissaAndAccuracy]
      refine ⟨?_, ?_, ?_⟩ <;> rw [rest_add, half, if_neg Bool.false_ne_true, sub_zero]
      · exact hpos.le
      · exact hhalf
      · simp [hpos.ne']
    | eq =>
      have hhalf : (r : Rat) / d = 1 / 2 := by
        have hcast : ((2 * r : Nat) : Rat) = d := Nat.cast_inj.2 (Nat.compare_eq_eq.1 hcmp)
        push_cast at hcast
        rw [div_eq_div_iff hdpos.ne' (by norm_num)]
        linarith
      simp only [ExtendedMantissa.ofMantissaAndAccuracy]
      refine ⟨?_, ?_, ?_⟩ <;> rw [rest_add, half, if_pos rfl, hhalf, sub_self]
      · norm_num
      · exact ⟨fun _ => rfl, fun _ => rfl⟩
    | gt =>
      have hhalf : 1 / 2 < (r : Rat) / d := by
        have hcast : (d : Rat) < (2 * r : Nat) := Nat.cast_lt.2 (Nat.compare_eq_gt.1 hcmp)
        push_cast at hcast
        rw [div_lt_div_iff₀ (by norm_num) hdpos]
        linarith
      simp only [ExtendedMantissa.ofMantissaAndAccuracy]
      refine ⟨?_, ?_, ?_⟩ <;> rw [rest_add, half, if_pos rfl]
      · linarith
      · linarith
      · constructor
        · intro hfalse
          cases hfalse
        · intro hzero
          linarith

/-! ## Rounding -/

/-- The exponent that a mantissa is shifted to. -/
def target (m : Nat) (e : Int) : Int := max (m.log2 + e - 52) (-1074)

/-- The exponent that the format aims at is the target of the mantissa and its exponent. -/
@[simp] theorem targetExponent_totalExponent (m : Nat) (e : Int) :
    Format.binary64.targetExponent (totalExponent m e) = target m e := by
  rw [targetExponent_eq, totalExponent, target]
  congr 1
  omega

/-- A mantissa that fits is left where it is. -/
theorem shiftToTargetExponent_fits {m : Nat} {e : Int} (hm : m < 2 ^ 53) (he : -1074 ≤ e) :
    shiftToTargetExponent Format.binary64 m e .exact = (⟨m, false, false⟩, e) := by
  have hlog : m.log2 ≤ 52 := by
    rcases Nat.eq_zero_or_pos m with rfl | hpos
    · decide
    · exact Nat.le_of_lt_succ ((Nat.log2_lt (Nat.ne_of_gt hpos)).2 hm)
  have hshift : (target m e - e).toNat = 0 := by
    rw [target]
    omega
  rw [shiftToTargetExponent, targetExponent_totalExponent, shiftToExponent]
  simp only [hshift]
  rw [Int.natCast_zero, Int.add_zero]
  rfl

/-- A mantissa that a carry has made one bit too long is halved. -/
theorem shiftToTargetExponent_carry {e : Int} (he : -1074 ≤ e) :
    shiftToTargetExponent Format.binary64 (2 ^ 53) e .exact = (⟨2 ^ 52, false, false⟩, e + 1) := by
  have hshift : (target (2 ^ 53) e - e).toNat = 1 := by
    rw [target, Nat.log2_two_pow]
    omega
  rw [shiftToTargetExponent, targetExponent_totalExponent, shiftToExponent]
  simp only [hshift]
  rfl

/-- After the first rounding only a carry is left to take up, which does not change the number. -/
theorem roundWithAccuracy_first {m : Nat} {e t : Int} {a : Accuracy} {em : ExtendedMantissa}
    (hfirst : shiftToTargetExponent Format.binary64 m e a = (em, t))
    (hle : em.roundedMantissa ≤ 2 ^ 53) (hleast : -1074 ≤ t)
    (hnormal : 2 ^ 52 ≤ em.roundedMantissa ∨ t = -1074) (s : Sign) :
    Shaped (roundWithAccuracy Format.binary64 s m e a) ∧
      value (roundWithAccuracy Format.binary64 s m e a) =
        signed s (em.roundedMantissa * 2 ^ t) := by
  unfold roundWithAccuracy
  simp only [hfirst]
  rcases Nat.lt_or_eq_of_le hle with hfits | hcarry
  · simp only [shiftToTargetExponent_fits hfits hleast]
    split
    next hzero =>
      rw [hzero]
      exact ⟨trivial, by cases s <;> simp [value, signed]⟩
    next => exact ⟨⟨hfits, hleast, hnormal⟩, rfl⟩
  · have hsecond : shiftToTargetExponent Format.binary64 em.roundedMantissa t .exact =
        (⟨2 ^ 52, false, false⟩, t + 1) := by
      rw [hcarry]
      exact shiftToTargetExponent_carry hleast
    have hpow : (2 : Rat) ^ (t + 1) = 2 ^ t * 2 := zpow_add_one₀ (by norm_num) t
    simp only [hsecond]
    rw [dif_neg (by decide)]
    refine ⟨⟨by decide, by omega, .inl (Nat.le_refl _)⟩, ?_⟩
    rw [value, hpow, hcarry]
    push_cast
    congr 1
    ring

/-- A number is at least the power of two below the mantissa under it. -/
theorem two_pow_log2_le {m : Nat} {x : Rat} (hm : m ≠ 0) (h : (m : Rat) ≤ x) :
    2 ^ m.log2 ≤ x := by
  have hlog : ((2 ^ m.log2 : Nat) : Rat) ≤ m := Nat.cast_le.2 (Nat.log2_self_le hm)
  push_cast at hlog
  exact hlog.trans h

/-- A number is less than the power of two above the mantissa under it. -/
theorem lt_two_pow_log2 {m : Nat} {x : Rat} (h : x < m + 1) : x < 2 ^ (m.log2 + 1) := by
  have hlog : ((m + 1 : Nat) : Rat) ≤ (2 ^ (m.log2 + 1) : Nat) := Nat.cast_le.2 Nat.lt_log2_self
  push_cast at hlog
  exact h.trans_le hlog

/-- A number that was shifted to its exponent fills 53 bits, or has the least exponent. -/
theorem shifted_bounds {m : Nat} {e : Int} {x : Rat} {k : Nat} (hfloor : m ≤ x ∧ x < m + 1)
    (hbits : 52 ≤ m.log2 ∨ e ≤ -1074) (hk : target m e = e + k) :
    x / 2 ^ k < 2 ^ 53 ∧ (2 ^ 52 ≤ x / 2 ^ k ∨ e + k = -1074) := by
  have hpow : (0 : Rat) < 2 ^ k := by positivity
  rw [target] at hk
  constructor
  · have hle : (2 : Rat) ^ (m.log2 + 1) ≤ 2 ^ (53 + k) :=
      pow_le_pow_right₀ (by norm_num) (by omega)
    rw [div_lt_iff₀ hpow, ← pow_add]
    exact (lt_two_pow_log2 hfloor.2).trans_le hle
  · rcases eq_or_ne (e + k) (-1074) with hleast | hleast
    · exact .inr hleast
    · have hlog : m.log2 = 52 + k := by omega
      have hne : m ≠ 0 := by
        rintro rfl
        rw [Nat.log2_zero] at hlog
        omega
      left
      rw [le_div_iff₀ hpow, ← pow_add, ← hlog]
      exact two_pow_log2_le hne hfloor.1

/-- Half of the least positive number of the format is what may be lost near zero. -/
theorem half_least : 1 / 2 * (2 : Rat) ^ (-1074 : Int) = underflow := by
  rw [underflow, zpow_neg, zpow_ofNat, pow_succ 2 1074, one_div, one_div, mul_inv, mul_comm]

/-- A number is rounded to one within its `roundoff`, if its mantissa has as many bits as that of a
normal double or its exponent is no greater than the least one. -/
theorem roundsTo_roundWithAccuracy {m : Nat} {e : Int} {a : Accuracy} {x : Rat}
    (h : Locates (.ofMantissaAndAccuracy m a) x) (hbits : 52 ≤ m.log2 ∨ e ≤ -1074) (s : Sign) :
    RoundsTo (signed s (x * 2 ^ e)) (roundWithAccuracy Format.binary64 s m e a) := by
  obtain ⟨k, hk⟩ : ∃ k : Nat, target m e = e + k :=
    ⟨(target m e - e).toNat, by rw [target]; omega⟩
  have hfirst : shiftToTargetExponent Format.binary64 m e a =
      (ExtendedMantissa.ofMantissaAndAccuracy m a >>> k, e + k) := by
    have hshift : (target m e - e).toNat = k := by omega
    rw [shiftToTargetExponent, targetExponent_totalExponent, shiftToExponent]
    simp only [hshift]
  have hfloor := h.floor
  rw [mantissa_ofMantissaAndAccuracy] at hfloor
  obtain ⟨hlt, hnormal⟩ := shifted_bounds hfloor hbits hk
  have hrounded := (h.shiftRight k).rounded
  have hleast : -1074 ≤ e + k := by
    rw [← hk]
    exact le_max_right _ _
  have hx : x * 2 ^ e = x / 2 ^ k * 2 ^ (e + k) := by
    rw [two_zpow_add_nat, mul_comm (2 ^ e : Rat), ← mul_assoc, div_mul_cancel₀ _ (by positivity)]
  generalize ExtendedMantissa.ofMantissaAndAccuracy m a >>> k = em at hfirst hrounded
  generalize x / 2 ^ k = y at *
  obtain ⟨hlow, hhigh⟩ := abs_le.1 hrounded
  -- the rounded mantissa, like the number it is rounded from, has 53 bits but for a carry
  have hle : em.roundedMantissa ≤ 2 ^ 53 := by
    have hcast : (em.roundedMantissa : Rat) < (2 ^ 53 + 1 : Nat) := by
      push_cast
      linarith
    exact Nat.le_of_lt_succ (Nat.cast_lt.1 hcast)
  have hmantissa : 2 ^ 52 ≤ em.roundedMantissa ∨ e + k = -1074 := by
    refine hnormal.imp_left fun hge => ?_
    have hcast : ((2 ^ 52 - 1 : Nat) : Rat) < em.roundedMantissa := by
      rw [Nat.cast_sub (by decide)]
      push_cast
      linarith
    exact Nat.le_of_pred_lt (Nat.cast_lt.1 hcast)
  obtain ⟨hshaped, hvalue⟩ := roundWithAccuracy_first hfirst hle hleast hmantissa s
  refine ⟨hshaped, ?_⟩
  have hpow := two_zpow_pos (e + k)
  rw [hvalue, abs_signed_sub_signed, hx, roundoff, abs_signed, ← sub_mul, abs_mul, abs_of_pos hpow]
  have herror := mul_le_mul_of_nonneg_right hrounded hpow.le
  rcases hnormal with hge | hleast
  · have hunit : (1 : Rat) / 2 ≤ y / 2 ^ 53 := by linarith
    calc |(em.roundedMantissa : Rat) - y| * 2 ^ (e + k)
        ≤ 1 / 2 * 2 ^ (e + k) := herror
      _ ≤ y / 2 ^ 53 * 2 ^ (e + k) := mul_le_mul_of_nonneg_right hunit hpow.le
      _ = y * 2 ^ (e + k) / 2 ^ 53 := by ring
      _ ≤ |y * 2 ^ (e + k)| / 2 ^ 53 := by gcongr; exact le_abs_self _
      _ ≤ |y * 2 ^ (e + k)| / 2 ^ 53 + underflow := le_add_of_nonneg_right underflow_pos.le
  · rw [hleast, half_least] at herror
    rw [hleast]
    exact herror.trans (le_add_of_nonneg_left (by positivity))

/-! ## Rounding sums -/

/-- Zeros are put behind a mantissa to lower its exponent. -/
theorem shiftLeft_value (m : Nat) (e : Int) (k : Nat) :
    ((m <<< k : Nat) : Rat) * 2 ^ (e - k) = m * 2 ^ e := by
  have he : e = e - k + k := by omega
  rw [Nat.shiftLeft_eq]
  push_cast
  conv_rhs => rw [he, two_zpow_add_nat]
  ring

/-- Rounding a positive mantissa rounds the number that it makes with its exponent and sign. -/
theorem roundsTo_round {m : Nat} (hm : 0 < m) (e : Int) (s : Sign) :
    RoundsTo (signed s (m * 2 ^ e)) (round Format.binary64 s m e) := by
  have hbits : 52 ≤ (m <<< (e - target m e).toNat).log2 ∨ e - (e - target m e).toNat ≤ -1074 := by
    rw [Nat.shiftLeft_eq, log2_mul_two_pow hm, target]
    omega
  unfold Float.Model.UnpackedFloat.round
  simp only [targetExponent_totalExponent, decreaseExponent]
  rw [← shiftLeft_value m e (e - target m e).toNat]
  exact roundsTo_roundWithAccuracy (locates_exact _) hbits s

/-- Normalizing an integral mantissa rounds the number that it makes with its exponent. -/
theorem roundsTo_normalize (n e : Int) (zero : Sign) :
    RoundsTo (n * 2 ^ e) (normalize Format.binary64 n e zero) := by
  unfold Float.Model.UnpackedFloat.normalize
  cases hcmp : compare n 0 with
  | lt =>
    have hneg : n < 0 := Int.compare_eq_lt.1 hcmp
    have hcast : (n : Rat) * 2 ^ e = signed .negative ((-n).toNat * 2 ^ e) := by
      have habs : (((-n).toNat : Int) : Rat) = ((-n : Int) : Rat) :=
        congrArg _ (Int.toNat_of_nonneg (by omega))
      rw [Int.cast_natCast] at habs
      rw [signed, habs]
      push_cast
      ring
    rw [hcast]
    exact roundsTo_round (by omega) e .negative
  | eq =>
    have hzero : n = 0 := Int.compare_eq_eq.1 hcmp
    refine ⟨trivial, ?_⟩
    rw [hzero]
    simpa [value] using roundoff_nonneg 0
  | gt =>
    have hpos : 0 < n := Int.compare_eq_gt.1 hcmp
    have hcast : (n : Rat) * 2 ^ e = signed .positive (n.toNat * 2 ^ e) := by
      have habs : ((n.toNat : Int) : Rat) = n := congrArg _ (Int.toNat_of_nonneg (by omega))
      rw [Int.cast_natCast] at habs
      rw [signed, habs]
    rw [hcast]
    exact roundsTo_round (by omega) e .positive

/-! ## The operations -/

/-- Signs multiply apart from the numbers behind them. -/
theorem signed_mul_signed (s t : Sign) (x y : Rat) :
    signed s x * signed t y = signed (s * t) (x * y) := by
  cases s <;> cases t
  · exact neg_mul_neg x y
  · exact neg_mul x y
  · exact mul_neg x y
  · rfl

/-- Signs divide apart from the numbers behind them. -/
theorem signed_div_signed (s t : Sign) (x y : Rat) :
    signed s x / signed t y = signed (s / t) (x / y) := by
  cases s <;> cases t
  · exact neg_div_neg_eq x y
  · exact neg_div y x
  · exact div_neg x
  · rfl

/-- A sign is applied to a rational as to the integer. -/
@[simp] theorem cast_apply (s : Sign) (n : Nat) : ((s.apply n : Int) : Rat) = signed s n := by
  cases s with
  | negative =>
    rw [Sign.apply, Int.cast_neg, Int.cast_natCast]
    rfl
  | positive => exact Int.cast_natCast n

/-- A number that has the shape of the format rounds to itself. -/
theorem roundsTo_self {u : UnpackedFloat} (h : Shaped u) : RoundsTo (value u) u := by
  refine ⟨h, ?_⟩
  rw [sub_self, abs_zero]
  exact roundoff_nonneg _

/-- Zero rounds to either zero. -/
theorem roundsTo_zero {x : Rat} (hx : x = 0) (s : Sign) : RoundsTo x (.zero s) := by
  have hshaped : Shaped (.zero s) := trivial
  rw [hx]
  exact roundsTo_self hshaped

/-- Multiplying numbers of the format rounds their exact product. -/
theorem roundsTo_mul {u v : UnpackedFloat} (hu : Shaped u) (hv : Shaped v) :
    RoundsTo (value u * value v) (mul Format.binary64 u v) := by
  match u, v, hu, hv with
  | .zero s, .zero t, _, _ => exact roundsTo_zero (zero_mul _) _
  | .zero s, .finite .., _, _ => exact roundsTo_zero (zero_mul _) _
  | .finite .., .zero t, _, _ => exact roundsTo_zero (mul_zero _) _
  | .finite s m e hm, .finite t n f hn, hu, hv =>
    have hbits : 52 ≤ (m * n).log2 ∨ e + f ≤ -1074 := by
      rw [Nat.le_log2 (Nat.mul_ne_zero (Nat.ne_of_gt hm) (Nat.ne_of_gt hn))]
      rcases hu.normal with hnormal | hleast
      · exact .inl (hnormal.trans (Nat.le_mul_of_pos_right m hn))
      rcases hv.normal with hnormal | hleast'
      · exact .inl (hnormal.trans (Nat.le_mul_of_pos_left n hm))
      exact .inr (by omega)
    have hvalue : value (.finite s m e hm) * value (.finite t n f hn) =
        signed (s * t) ((m * n : Nat) * 2 ^ (e + f)) := by
      rw [value, value, signed_mul_signed, zpow_add₀ (by norm_num)]
      push_cast
      congr 1
      ring
    rw [hvalue]
    exact roundsTo_roundWithAccuracy (locates_exact _) hbits _

/-- The quotient of two mantissas is worked out to as many bits as a double has, or down to the
least exponent. -/
theorem divCore_bits {m n : Nat} {e f t : Int} {k : Nat} (hm : 0 < m) (hlt : m < 2 ^ 53)
    (ht : t = min (e - f) (max (m.log2 + 1 + e - (n.log2 + 1 + f) - 53) (-1074)))
    (hk : (k : Int) = e - f - t) (hn : 0 < n) : 52 ≤ (m <<< k / n).log2 ∨ t ≤ -1074 := by
  have hlog : m.log2 < 53 := (Nat.log2_lt (Nat.ne_of_gt hm)).2 hlt
  rcases lt_or_ge (-1074) t with hgreater | hle
  · have hshift : m.log2 + k = n.log2 + 1 + 52 := by omega
    have hquotient : 2 ^ 52 ≤ m <<< k / n := by
      rw [Nat.le_div_iff_mul_le hn, Nat.shiftLeft_eq]
      calc 2 ^ 52 * n
          ≤ 2 ^ 52 * 2 ^ (n.log2 + 1) := Nat.mul_le_mul_left _ (Nat.le_of_lt Nat.lt_log2_self)
        _ = 2 ^ m.log2 * 2 ^ k := by rw [← Nat.pow_add, ← Nat.pow_add, hshift, Nat.add_comm]
        _ ≤ m * 2 ^ k := Nat.mul_le_mul_right _ (Nat.log2_self_le (Nat.ne_of_gt hm))
    have hne : m <<< k / n ≠ 0 := Nat.ne_of_gt (Nat.lt_of_lt_of_le (Nat.two_pow_pos 52) hquotient)
    exact .inl ((Nat.le_log2 hne).2 hquotient)
  · exact .inr hle

/-- Dividing numbers of the format rounds their exact quotient, unless the divisor is zero. -/
theorem roundsTo_div {u v : UnpackedFloat} (hu : Shaped u) (hv : Shaped v) (hne : value v ≠ 0) :
    RoundsTo (value u / value v) (div Format.binary64 u v) := by
  match u, v, hu, hv with
  | .zero s, .zero t, _, _ => exact absurd rfl hne
  | .zero s, .finite .., _, _ => exact roundsTo_zero (zero_div _) _
  | .finite .., .zero t, _, _ => exact absurd rfl hne
  | .finite s m e hm, .finite t n f hn, hu, hv =>
    obtain ⟨r, hr⟩ : ∃ r, min (e - f)
        (Format.binary64.targetExponent (totalExponent m e - totalExponent n f)) = r := ⟨_, rfl⟩
    obtain ⟨k, hk⟩ : ∃ k : Nat, (k : Int) = e - f - r := ⟨(e - f - r).toNat, by omega⟩
    have hshift : (e - f - r).toNat = k := by omega
    have hvalue : value (.finite s m e hm) / value (.finite t n f hn) =
        signed (s / t) ((m <<< k : Nat) / n * 2 ^ r) := by
      have hr : r = e - f - k := by omega
      rw [value, value, signed_div_signed, hr, div_mul_eq_mul_div, shiftLeft_value,
        zpow_sub₀ (by norm_num)]
      congr 1
      rw [mul_div_assoc', div_div, mul_comm (n : Rat)]
    have hbits : 52 ≤ (m <<< k / n).log2 ∨ r ≤ -1074 := by
      rw [targetExponent_eq, totalExponent, totalExponent] at hr
      exact divCore_bits hm hu.lt hr.symm hk hn
    unfold Float.Model.UnpackedFloat.div divCore
    simp only [hr, hshift]
    rw [hvalue]
    exact roundsTo_roundWithAccuracy (locates_fraction _ hn) hbits _

/-- Shifting a mantissa to a smaller exponent does not change the number. -/
theorem cast_apply_shiftLeft (s : Sign) (m : Nat) {e t : Int} (h : t ≤ e) :
    ((s.apply (m <<< (e - t).toNat : Nat) : Int) : Rat) * 2 ^ t = signed s (m * 2 ^ e) := by
  have ht : e - (e - t).toNat = t := by omega
  have hvalue := shiftLeft_value m e (e - t).toNat
  rw [ht] at hvalue
  rw [cast_apply, signed_mul, hvalue]

@[simp] theorem value_zero (s : Sign) : value (.zero s) = 0 :=
  rfl

/-- Adding numbers of the format rounds their exact sum. -/
theorem roundsTo_add {u v : UnpackedFloat} (hu : Shaped u) (hv : Shaped v) :
    RoundsTo (value u + value v) (add Format.binary64 u v) := by
  match u, v, hu, hv with
  | .zero s, .zero t, _, _ =>
    have hsum : add Format.binary64 (.zero s) (.zero t) =
        .zero (if s == t then s else .positive) := by
      cases s <;> cases t <;> rfl
    rw [hsum]
    exact roundsTo_zero (zero_add _) _
  | .zero s, .finite .., _, hv =>
    rw [value_zero, zero_add]
    exact roundsTo_self hv
  | .finite .., .zero t, hu, _ =>
    rw [value_zero, add_zero]
    exact roundsTo_self hu
  | .finite s m e hm, .finite t n f hn, _, _ =>
    have hsum : value (.finite s m e hm) + value (.finite t n f hn) =
        ((s.apply (m <<< (e - min e f).toNat : Nat) +
          t.apply (n <<< (f - min e f).toNat : Nat) : Int) : Rat) * 2 ^ min e f := by
      rw [value, value, Int.cast_add, add_mul, cast_apply_shiftLeft s m (min_le_left e f),
        cast_apply_shiftLeft t n (min_le_right e f)]
    rw [hsum]
    exact roundsTo_normalize _ _ _

@[simp] theorem value_neg (u : UnpackedFloat) : value u.neg = -value u := by
  match u with
  | .finite .negative m e _ => exact (neg_neg _).symm
  | .finite .positive m e _ => rfl
  | .zero _ | .infinity _ | .notANumber => rfl

/-- Negation keeps the shape of the format. -/
theorem shaped_neg {u : UnpackedFloat} (h : Shaped u) : Shaped u.neg := by
  cases u <;> exact h

@[simp] theorem apply_neg (s : Sign) (n : Int) : (-s).apply n = -s.apply n := by
  cases s with
  | negative => exact (Int.neg_neg n).symm
  | positive => rfl

/-- A difference is the sum with the negative. -/
theorem sub_eq_add (u v : UnpackedFloat) :
    sub Format.binary64 u v = add Format.binary64 u v.neg := by
  match u, v with
  | .finite s m e _, .finite t n f _ =>
    unfold Float.Model.UnpackedFloat.sub Float.Model.UnpackedFloat.add Float.Model.UnpackedFloat.neg
    simp only [apply_neg, Int.sub_eq_add_neg]
  | .zero s, .zero t | .infinity s, .infinity t => cases s <;> cases t <;> rfl
  | .zero _, .finite .. | .finite .., .zero _ | .infinity _, .zero _ | .infinity _, .finite ..
  | .zero _, .infinity _ | .finite .., .infinity _ | .notANumber, _ => rfl
  | .zero _, .notANumber | .finite .., .notANumber | .infinity _, .notANumber => rfl

/-- Subtracting numbers of the format rounds their exact difference. -/
theorem roundsTo_sub {u v : UnpackedFloat} (hu : Shaped u) (hv : Shaped v) :
    RoundsTo (value u - value v) (sub Format.binary64 u v) := by
  have hsum := roundsTo_add hu (shaped_neg hv)
  rw [value_neg, ← sub_eq_add_neg, ← sub_eq_add] at hsum
  exact hsum

end ElementAtlas.Double
