import ElementAtlas.Proofs.Scalar.Rounding

/-!
# What doubles compute

A finite double is a rational (`toRat`). What the operations make of finite doubles is the exact
result but for its `roundoff`, or an infinity if the exact result is too great for the format
(`Rounds`). Comparing finite doubles is comparing rationals, and their places in the total order
stand as the rationals do, but for the two zeros.
-/

namespace ElementAtlas.Double

open Float.Model Float.Model.UnpackedFloat

/-! ## Unpacking what was packed -/

/-- A packed infinity is unpacked as the infinity of its sign. -/
@[simp] theorem unpack_infinity (s : Sign) :
    unpack Format.binary64 (packedInfinity Format.binary64 s) = .infinity s := by
  unfold packedInfinity Float.Model.UnpackedFloat.unpack
  simp only [unpackExponent_packComponents, unpackMantissa_packComponents,
    unpackSign_packComponents, Sign.ofBitVec_toBitVec]
  rfl

/-- Finite numbers of one sign are equal if their mantissas and their exponents are. -/
theorem finite_congr {s : Sign} {m n : Nat} {e f : Int} {hm : 0 < m} {hn : 0 < n} (hmn : m = n)
    (hef : e = f) : UnpackedFloat.finite s m e hm = .finite s n f hn := by
  subst hmn hef
  rfl

/-- The word of a number differs from the words of other numbers. -/
theorem ofNat_ne {w n : Nat} {b : BitVec w} (hn : n < 2 ^ w) (h : n ≠ b.toNat) :
    BitVec.ofNat w n ≠ b := by
  rintro rfl
  exact h (Nat.mod_eq_of_lt hn).symm

/-- Packing keeps what the format has. -/
theorem unpack_pack {u : UnpackedFloat} (h : Rounded u) :
    unpack Format.binary64 (pack Format.binary64 u) = u := by
  cases u with
  | infinity s => exact unpack_infinity s
  | notANumber => rfl
  | zero s => cases s <;> rfl
  | finite s m e hm =>
    have hlt : m < 2 ^ 53 := h.lt
    have hgreatest := h.greatest
    have hleast := h.least
    rw [pack_finite h]
    unfold Float.Model.UnpackedFloat.unpack
    simp only [unpackExponent_packComponents, unpackMantissa_packComponents,
      unpackSign_packComponents, Sign.ofBitVec_toBitVec]
    by_cases hnormal : 2 ^ 52 ≤ m
    · have hbiased : (e + 1075).toNat < 2 ^ 11 := by omega
      have hexponent : (BitVec.ofNat 11 (e + 1075).toNat).toNat = (e + 1075).toNat :=
        Nat.mod_eq_of_lt hbiased
      have hones : BitVec.ofNat 11 (e + 1075).toNat ≠ -1#11 :=
        ofNat_ne hbiased (by change _ ≠ 2047; omega)
      have hzero : BitVec.ofNat 11 (e + 1075).toNat ≠ 0#11 :=
        ofNat_ne hbiased (by change _ ≠ 0; omega)
      rw [if_pos hnormal, if_neg hones, if_neg hzero]
      apply finite_congr
      · rw [toNat_append_one, BitVec.toNat_ofNat]
        omega
      · rw [hexponent]
        change ((e + 1075).toNat : Int) - (1023 + 52) = e
        omega
    · have hsmall : m < 2 ^ 52 := by omega
      have hmantissa : (BitVec.ofNat 52 m).toNat = m := Nat.mod_eq_of_lt hsmall
      have hzero : BitVec.ofNat 52 m ≠ 0#52 := ofNat_ne hsmall (Nat.ne_of_gt hm)
      have hsubnormal : e = -1074 := h.normal.resolve_left hnormal
      rw [if_neg hnormal, if_neg (by decide), if_pos rfl, dif_neg hzero]
      apply finite_congr
      · exact hmantissa
      · rw [hsubnormal]
        rfl

/-- A number beyond the range of the format is packed as an infinity. -/
theorem unpack_pack_overflow {s : Sign} {m : Nat} {e : Int} (hm : 0 < m) (he : 971 < e) :
    unpack Format.binary64 (pack Format.binary64 (.finite s m e hm)) = .infinity s := by
  have hbiased : (e + Format.binary64.exponentBias + ((52 : Nat) : Int)).toNat =
      (e + 1075).toNat := by
    change (e + 1023 + 52).toNat = _
    omega
  unfold Float.Model.UnpackedFloat.pack
  dsimp only
  rw [hbiased, if_pos (by omega)]
  exact unpack_infinity s

/-! ## The number that a double is -/

/-- The number that a double is, zero if it is none. -/
def toRat (x : Float) : Rat := value x.toModel.unpack

/-- The double that an unpacked one is packed to. -/
def packed (u : UnpackedFloat) : Float := .ofModel (.pack u)

/-- A finite double is unpacked to a number that has the shape of the format. -/
theorem shaped_unpack {x : Float} (h : x.isFinite = true) : Shaped x.toModel.unpack := by
  have hrounded := rounded x
  change x.toModel.unpack.isFinite = true at h
  cases hunpack : x.toModel.unpack with
  | zero s => trivial
  | finite s m e hm =>
    rw [hunpack] at hrounded
    exact ⟨hrounded.lt, hrounded.least, hrounded.normal⟩
  | infinity s | notANumber =>
    rw [hunpack] at h
    cases h

/-- The least power of two beyond the range of the format. -/
def limit : Rat := 2 ^ 1024

/-- The range of the format goes far beyond small numbers. -/
theorem four_le_limit : 4 ≤ limit := by
  have hpow : (1 : Rat) ≤ 2 ^ 1022 := one_le_pow₀ (by norm_num)
  calc (4 : Rat)
      = 2 ^ 2 * 1 := by norm_num
    _ ≤ 2 ^ 2 * 2 ^ 1022 := mul_le_mul_of_nonneg_left hpow (by norm_num)
    _ = limit := (pow_add 2 2 1022).symm

/-- What the mantissas and exponents of the format make lies below the limit. -/
theorem mul_two_zpow_lt {m : Nat} {e : Int} (hm : m < 2 ^ 53) (he : e ≤ 971) :
    (m : Rat) * 2 ^ e < limit := by
  have hcast : (m : Rat) < 2 ^ 53 := by exact_mod_cast hm
  have hpow : (2 : Rat) ^ e ≤ 2 ^ (971 : Int) := zpow_le_zpow_right₀ (by norm_num) he
  rw [zpow_ofNat] at hpow
  calc (m : Rat) * 2 ^ e
      < 2 ^ 53 * 2 ^ e := mul_lt_mul_of_pos_right hcast (two_zpow_pos e)
    _ ≤ 2 ^ 53 * 2 ^ 971 := mul_le_mul_of_nonneg_left hpow (by positivity)
    _ = limit := (pow_add 2 53 971).symm

/-- With a normal mantissa, an exponent beyond the greatest one reaches the limit. -/
theorem le_mul_two_zpow {m : Nat} {e : Int} (h : Normalized m e) (he : 971 < e) :
    limit ≤ (m : Rat) * 2 ^ e := by
  have hnormal : 2 ^ 52 ≤ m := h.normal.resolve_right (by omega)
  have hcast : (2 : Rat) ^ 52 ≤ m := by exact_mod_cast hnormal
  have hpow : (2 : Rat) ^ (972 : Int) ≤ 2 ^ e := zpow_le_zpow_right₀ (by norm_num) he
  rw [zpow_ofNat] at hpow
  calc limit
      = 2 ^ 52 * 2 ^ 972 := pow_add 2 52 972
    _ ≤ m * 2 ^ e := mul_le_mul hcast hpow (by positivity) (Nat.cast_nonneg m)

/-- Every double lies within the limit. -/
theorem abs_toRat_lt (x : Float) : |toRat x| < limit := by
  have hrounded := rounded x
  rw [toRat]
  match x.toModel.unpack, hrounded with
  | .zero _, _ | .infinity _, _ | .notANumber, _ =>
    change |(0 : Rat)| < _
    rw [abs_zero]
    linarith [four_le_limit]
  | .finite s m e hm, hrounded =>
    rw [value, abs_signed, abs_of_nonneg (mul_nonneg (Nat.cast_nonneg m) (two_zpow_pos e).le)]
    exact mul_two_zpow_lt hrounded.lt hrounded.greatest

/-- Rounding is off by at most a quarter of the number and one. -/
theorem roundoff_le (x : Rat) : roundoff x ≤ |x| / 4 + 1 := by
  have hrelative : |x| / 2 ^ 53 ≤ |x| / 4 :=
    div_le_div_of_nonneg_left (abs_nonneg x) (by norm_num) (by norm_num)
  have habsolute : underflow ≤ 1 := div_le_self (by norm_num) (one_le_pow₀ (by norm_num))
  exact add_le_add hrelative habsolute

/-- What a number is rounded to: a finite double close to it, or an infinity if the number is too
great for the format. -/
inductive Rounds (x : Rat) (d : Float) : Prop
  | near : d.isFinite = true → |toRat d - x| ≤ roundoff x → Rounds x d
  | beyond {s : Sign} : d.toModel.unpack = .infinity s → limit ≤ |x| + roundoff x → Rounds x d

/-- What rounding results in is packed as it is, or as an infinity if it is too great. -/
theorem packed_shaped {u : UnpackedFloat} (h : Shaped u) :
    (|value u| < limit ∧ (packed u).isFinite = true ∧ toRat (packed u) = value u) ∨
      (limit ≤ |value u| ∧ ∃ s, (packed u).toModel.unpack = .infinity s) := by
  have hkept (hu : Rounded u) (hfinite : u.isFinite = true) :
      (packed u).isFinite = true ∧ toRat (packed u) = value u := by
    have hunpack : (packed u).toModel.unpack = u := unpack_pack hu
    refine ⟨?_, congrArg value hunpack⟩
    change (packed u).toModel.unpack.isFinite = true
    rwa [hunpack]
  match u, h with
  | .zero s, _ =>
    refine .inl ⟨?_, hkept trivial rfl⟩
    rw [value_zero, abs_zero]
    linarith [four_le_limit]
  | .finite s m e hm, h =>
    have hnormalized : Normalized m e := h
    rw [value, abs_signed, abs_of_nonneg (mul_nonneg (Nat.cast_nonneg m) (two_zpow_pos e).le)]
    rcases le_or_gt e 971 with he | he
    · exact .inl ⟨mul_two_zpow_lt hnormalized.lt he,
        hkept ⟨hm, hnormalized.lt, hnormalized.least, he, hnormalized.normal⟩ rfl⟩
    · exact .inr ⟨le_mul_two_zpow hnormalized he, s, unpack_pack_overflow hm he⟩

/-- What an exact result is rounded to is packed as a double that it rounds to. -/
theorem rounds_packed {x : Rat} {u : UnpackedFloat} (h : RoundsTo x u) : Rounds x (packed u) := by
  rcases packed_shaped h.shaped with ⟨-, hfinite, hvalue⟩ | ⟨hgreat, s, hunpack⟩
  · refine .near hfinite ?_
    rw [hvalue]
    exact h.error
  · have hclose := abs_sub_abs_le_abs_sub (value u) x
    exact .beyond hunpack (by linarith [h.error])

/-- The product of finite doubles rounds the exact product. -/
theorem rounds_mul {x y : Float} (hx : x.isFinite = true) (hy : y.isFinite = true) :
    Rounds (toRat x * toRat y) (x * y) :=
  rounds_packed (roundsTo_mul (shaped_unpack hx) (shaped_unpack hy))

/-- The quotient of finite doubles, the divisor not being zero, rounds the exact quotient. -/
theorem rounds_div {x y : Float} (hx : x.isFinite = true) (hy : y.isFinite = true)
    (hne : toRat y ≠ 0) : Rounds (toRat x / toRat y) (x / y) :=
  rounds_packed (roundsTo_div (shaped_unpack hx) (shaped_unpack hy) hne)

/-- The sum of finite doubles rounds the exact sum. -/
theorem rounds_add {x y : Float} (hx : x.isFinite = true) (hy : y.isFinite = true) :
    Rounds (toRat x + toRat y) (x + y) :=
  rounds_packed (roundsTo_add (shaped_unpack hx) (shaped_unpack hy))

/-- The difference of finite doubles rounds the exact difference. -/
theorem rounds_sub {x y : Float} (hx : x.isFinite = true) (hy : y.isFinite = true) :
    Rounds (toRat x - toRat y) (x - y) :=
  rounds_packed (roundsTo_sub (shaped_unpack hx) (shaped_unpack hy))

/-- A finite result is off by no more than what rounding may change. -/
theorem Rounds.error {x : Rat} {d : Float} (h : Rounds x d) (hd : d.isFinite = true) :
    |toRat d - x| ≤ roundoff x := by
  cases h with
  | near _ herror => exact herror
  | beyond hunpack _ =>
    change d.toModel.unpack.isFinite = true at hd
    rw [hunpack] at hd
    cases hd

/-- A number that lies well within the range of the format is rounded to a finite double. -/
theorem Rounds.isFinite {x : Rat} {d : Float} (h : Rounds x d) (hx : |x| ≤ limit / 2) :
    d.isFinite = true := by
  cases h with
  | near hfinite _ => exact hfinite
  | beyond _ hgreat =>
    have hroundoff := roundoff_le x
    have hlimit := four_le_limit
    exfalso
    linarith

/-! What is no finite double does not become one by adding, subtracting or dividing. -/

/-- What is not finite is packed as what is not finite. -/
theorem isFinite_packed {u : UnpackedFloat} (h : u.isFinite = false) :
    (packed u).isFinite = false := by
  have hrounded : Rounded u := by
    match u, h with
    | .infinity _, _ | .notANumber, _ => trivial
  have hunpack : (packed u).toModel.unpack = u := unpack_pack hrounded
  change (packed u).toModel.unpack.isFinite = false
  rw [hunpack]
  exact h

/-- A sum is not finite if its first summand is not. -/
theorem isFinite_unpacked_add {u : UnpackedFloat} (h : u.isFinite = false) (v : UnpackedFloat) :
    (add Format.binary64 u v).isFinite = false := by
  match u, v, h with
  | .infinity s, .infinity t, _ => cases s <;> cases t <;> rfl
  | .infinity _, .notANumber, _ | .infinity _, .zero _, _ | .infinity _, .finite .., _ => rfl
  | .notANumber, _, _ => rfl

/-- A quotient is not finite if the dividend is not. -/
theorem isFinite_unpacked_div {u : UnpackedFloat} (h : u.isFinite = false) (v : UnpackedFloat) :
    (div Format.binary64 u v).isFinite = false := by
  match u, v, h with
  | .infinity _, .infinity _, _ | .infinity _, .notANumber, _ => rfl
  | .infinity _, .zero _, _ | .infinity _, .finite .., _ => rfl
  | .notANumber, _, _ => rfl

/-- The first summand of a finite sum is finite. -/
theorem isFinite_of_add {x y : Float} (h : (x + y).isFinite = true) : x.isFinite = true := by
  rw [← Bool.not_eq_false] at h ⊢
  exact fun hx => h (isFinite_packed (isFinite_unpacked_add hx _))

/-- What a finite difference was taken from is finite. -/
theorem isFinite_of_sub {x y : Float} (h : (x - y).isFinite = true) : x.isFinite = true := by
  rw [← Bool.not_eq_false] at h ⊢
  intro hx
  have hsum := isFinite_packed (isFinite_unpacked_add hx y.toModel.unpack.neg)
  rw [← sub_eq_add] at hsum
  exact h hsum

/-- The dividend of a finite quotient is finite. -/
theorem isFinite_of_div {x y : Float} (h : (x / y).isFinite = true) : x.isFinite = true := by
  rw [← Bool.not_eq_false] at h ⊢
  exact fun hx => h (isFinite_packed (isFinite_unpacked_div hx _))

/-! ## The order of doubles -/

/-- Of two numbers in normal form, the one with the smaller exponent is the smaller one. -/
theorem mul_two_zpow_lt_of_exponent {m n : Nat} {e f : Int} (hm : Normalized m e)
    (hn : Normalized n f) (h : e < f) : (m : Rat) * 2 ^ e < n * 2 ^ f := by
  have hleast := hm.least
  have hnormal : 2 ^ 52 ≤ n := hn.normal.resolve_right (by omega)
  have hmcast : (m : Rat) < 2 ^ 53 := by exact_mod_cast hm.lt
  have hncast : (2 : Rat) ^ 52 ≤ n := by exact_mod_cast hnormal
  have hpow : (2 : Rat) ^ (e + 1) ≤ 2 ^ f := zpow_le_zpow_right₀ (by norm_num) h
  calc (m : Rat) * 2 ^ e
      < 2 ^ 53 * 2 ^ e := mul_lt_mul_of_pos_right hmcast (two_zpow_pos e)
    _ = 2 ^ 52 * 2 ^ (e + 1) := by
        rw [zpow_add_one₀ (by norm_num)]
        ring
    _ ≤ n * 2 ^ f := mul_le_mul hncast hpow (two_zpow_pos _).le (Nat.cast_nonneg n)

/-- Numbers with a mantissa and an exponent stand in the order of their exponents, and with equal
ones in that of their mantissas. -/
theorem compare_normalized {m n : Nat} {e f : Int} (hm : Normalized m e) (hn : Normalized n f) :
    (compare e f).then (compare m n) = compare ((m : Rat) * 2 ^ e) (n * 2 ^ f) := by
  rcases lt_trichotomy e f with h | rfl | h
  · rw [Int.compare_eq_lt.2 h]
    exact (compare_lt_iff_lt.2 (mul_two_zpow_lt_of_exponent hm hn h)).symm
  · have hpow := two_zpow_pos e
    rw [Int.compare_eq_eq.2 rfl, Ordering.eq_then]
    rcases lt_trichotomy m n with h | rfl | h
    · rw [Nat.compare_eq_lt.2 h, eq_comm, compare_lt_iff_lt]
      exact mul_lt_mul_of_pos_right (Nat.cast_lt.2 h) hpow
    · rw [Nat.compare_eq_eq.2 rfl, eq_comm, compare_eq_iff_eq]
    · rw [Nat.compare_eq_gt.2 h, eq_comm, compare_gt_iff_gt]
      exact mul_lt_mul_of_pos_right (Nat.cast_lt.2 h) hpow
  · rw [Int.compare_eq_gt.2 h]
    exact (compare_gt_iff_gt.2 (mul_two_zpow_lt_of_exponent hn hm h)).symm

/-- Comparisons agree if their operands stand below and above each other alike. -/
theorem compare_eq_compare {x y a b : Rat} (hlt : x < y ↔ a < b) (hgt : y < x ↔ b < a) :
    compare x y = compare a b := by
  rcases lt_trichotomy x y with h | h | h
  · rw [compare_lt_iff_lt.2 h, compare_lt_iff_lt.2 (hlt.1 h)]
  · have hab : a = b := le_antisymm (not_lt.1 (mt hgt.2 h.not_gt)) (not_lt.1 (mt hlt.2 h.not_lt))
    rw [h, hab, compare_eq_iff_eq.2 rfl, compare_eq_iff_eq.2 rfl]
  · rw [compare_gt_iff_gt.2 h, compare_gt_iff_gt.2 (hgt.1 h)]

/-- Negating both operands turns the order around. -/
theorem compare_neg_neg (x y : Rat) : compare (-x) (-y) = (compare x y).swap := by
  rw [← Std.OrientedCmp.eq_swap]
  exact compare_eq_compare neg_lt_neg_iff neg_lt_neg_iff

/-- A positive mantissa times a power of two is positive. -/
theorem mul_two_zpow_pos {m : Nat} (hm : 0 < m) (e : Int) : 0 < (m : Rat) * 2 ^ e :=
  mul_pos (Nat.cast_pos.2 hm) (two_zpow_pos e)

/-- Unpacked doubles that are numbers compare as the rationals they are. -/
theorem compare_value {u v : UnpackedFloat} (hu : Shaped u) (hv : Shaped v) :
    UnpackedFloat.compare u v = some (compare (value u) (value v)) := by
  match u, v, hu, hv with
  | .zero _, .zero _, _, _ => exact congrArg some (compare_eq_iff_eq.2 rfl).symm
  | .zero _, .finite .positive n f hn, _, _ =>
    exact congrArg some (compare_lt_iff_lt.2 (mul_two_zpow_pos hn f)).symm
  | .zero _, .finite .negative n f hn, _, _ =>
    exact congrArg some (compare_gt_iff_gt.2 (neg_lt_zero.2 (mul_two_zpow_pos hn f))).symm
  | .finite .positive m e hm, .zero _, _, _ =>
    exact congrArg some (compare_gt_iff_gt.2 (mul_two_zpow_pos hm e)).symm
  | .finite .negative m e hm, .zero _, _, _ =>
    exact congrArg some (compare_lt_iff_lt.2 (neg_lt_zero.2 (mul_two_zpow_pos hm e))).symm
  | .finite .positive m e hm, .finite .negative n f hn, _, _ =>
    have hlt := (neg_lt_zero.2 (mul_two_zpow_pos hn f)).trans (mul_two_zpow_pos hm e)
    exact congrArg some (compare_gt_iff_gt.2 hlt).symm
  | .finite .negative m e hm, .finite .positive n f hn, _, _ =>
    have hlt := (neg_lt_zero.2 (mul_two_zpow_pos hm e)).trans (mul_two_zpow_pos hn f)
    exact congrArg some (compare_lt_iff_lt.2 hlt).symm
  | .finite .positive m e _, .finite .positive n f _, hu, hv =>
    exact congrArg some (compare_normalized hu hv)
  | .finite .negative m e _, .finite .negative n f _, hu, hv =>
    rw [value, value, signed, signed, compare_neg_neg, ← compare_normalized hu hv]
    rfl

/-- A double is at most another one if comparing what they unpack to says so. -/
theorem le_iff_any {x y : Float} : Scalar.le x y = true ↔
    (UnpackedFloat.compare x.toModel.unpack y.toModel.unpack).any (·.isLE) = true := by
  change decide (x ≤ y) = true ↔ _
  rw [decide_eq_true_iff]
  change decide (x.toModel ≤ y.toModel) = true ↔ _
  rw [decide_eq_true_iff]
  rfl

/-- Finite doubles stand below each other as the rationals do. -/
theorem le_iff {x y : Float} (hx : x.isFinite = true) (hy : y.isFinite = true) :
    Scalar.le x y = true ↔ toRat x ≤ toRat y := by
  rw [le_iff_any, compare_value (shaped_unpack hx) (shaped_unpack hy), Option.any_some,
    Ordering.isLE_iff_ne_gt]
  exact compare_le_iff_le

/-- Finite doubles are equal if and only if the rationals are. -/
theorem beq_iff {x y : Float} (hx : x.isFinite = true) (hy : y.isFinite = true) :
    (x == y) = true ↔ toRat x = toRat y := by
  have hcompare := compare_value (shaped_unpack hx) (shaped_unpack hy)
  change (UnpackedFloat.compare x.toModel.unpack y.toModel.unpack == some .eq) = true ↔ _
  rw [hcompare, beq_iff_eq, Option.some_inj, compare_eq_iff_eq]
  rfl

/-- What equals a finite double is finite. -/
theorem isFinite_of_beq {x y : Float} (hy : y.isFinite = true) (h : (x == y) = true) :
    x.isFinite = true := by
  change (UnpackedFloat.compare x.toModel.unpack y.toModel.unpack == some .eq) = true at h
  change x.toModel.unpack.isFinite = true
  change y.toModel.unpack.isFinite = true at hy
  match x.toModel.unpack, y.toModel.unpack, hy, h with
  | .zero _, _, _, _ | .finite .., _, _, _ => rfl
  | .infinity .negative, .zero _, _, h | .infinity .negative, .finite .., _, h => cases h
  | .infinity .positive, .zero _, _, h | .infinity .positive, .finite .., _, h => cases h
  | .notANumber, _, _, h => cases h

@[simp] theorem unpack_zero : (Scalar.ofNat 0 : Float).toModel.unpack = .zero .positive :=
  rfl

@[simp] theorem isFinite_zero : (Scalar.ofNat 0 : Float).isFinite = true :=
  rfl

@[simp] theorem toRat_zero : toRat (Scalar.ofNat 0) = 0 :=
  rfl

/-! ## Places -/

/-- The place of a number with a mantissa and an exponent. -/
def magnitudePlace (m : Nat) (e : Int) : Int := (e + 1074) * 2 ^ 52 + m

/-- The place of a number with a sign, from that of its magnitude. -/
def signedPlace : Sign → Int → Int
  | .negative, place => -place - 1
  | .positive, place => place

/-- The place of a finite double in the total order. -/
def unpackedPlace : UnpackedFloat → Int
  | .finite s m e _ => signedPlace s (magnitudePlace m e)
  | .zero s => signedPlace s 0
  | _ => 0

/-- Among numbers above zero, a smaller one has the smaller place. -/
theorem magnitudePlace_lt {m n : Nat} {e f : Int} (hm : Normalized m e) (hn : Normalized n f)
    (h : (m : Rat) * 2 ^ e < n * 2 ^ f) : magnitudePlace m e < magnitudePlace n f := by
  have hlt := hm.lt
  have hleast := hm.least
  have hnormal := hn.normal
  rw [magnitudePlace, magnitudePlace]
  rcases lt_trichotomy e f with hef | rfl | hef
  · omega
  · have hmantissa : m < n := Nat.cast_lt.1 (lt_of_mul_lt_mul_right h (two_zpow_pos e).le)
    omega
  · exact absurd (h.trans (mul_two_zpow_lt_of_exponent hn hm hef)) (lt_irrefl _)

/-- A positive number has a place above that of zero. -/
theorem magnitudePlace_pos {m : Nat} {e : Int} (h : Normalized m e) (hm : 0 < m) :
    0 < magnitudePlace m e := by
  have hleast := h.least
  rw [magnitudePlace]
  omega

/-- Unpacked doubles have their places in the order of the rationals they are. -/
theorem unpackedPlace_lt {u v : UnpackedFloat} (hu : Shaped u) (hv : Shaped v)
    (h : value u < value v) : unpackedPlace u < unpackedPlace v := by
  match u, v, hu, hv with
  | .zero _, .zero _, _, _ => exact absurd h (lt_irrefl _)
  | .zero s, .finite .positive n f hn, _, hv =>
    have hplace := magnitudePlace_pos hv hn
    cases s <;> simp only [unpackedPlace, signedPlace] <;> omega
  | .zero _, .finite .negative n f hn, _, _ =>
    have hpos : 0 < -((n : Rat) * 2 ^ f) := h
    linarith [mul_two_zpow_pos hn f]
  | .finite .positive m e hm, .zero _, _, _ =>
    have hneg : (m : Rat) * 2 ^ e < 0 := h
    linarith [mul_two_zpow_pos hm e]
  | .finite .negative m e hm, .zero s, hu, _ =>
    have hplace := magnitudePlace_pos hu hm
    cases s <;> simp only [unpackedPlace, signedPlace] <;> omega
  | .finite .positive m e hm, .finite .negative n f hn, _, _ =>
    have hlt : (m : Rat) * 2 ^ e < -(n * 2 ^ f) := h
    linarith [mul_two_zpow_pos hm e, mul_two_zpow_pos hn f]
  | .finite .negative m e hm, .finite .positive n f hn, hu, hv =>
    have hm := magnitudePlace_pos hu hm
    have hn := magnitudePlace_pos hv hn
    simp only [unpackedPlace, signedPlace]
    omega
  | .finite .positive m e _, .finite .positive n f _, hu, hv => exact magnitudePlace_lt hu hv h
  | .finite .negative m e _, .finite .negative n f _, hu, hv =>
    have hplace := magnitudePlace_lt hv hu (neg_lt_neg_iff.1 h)
    simp only [unpackedPlace, signedPlace]
    omega

/-- The bits of two words one behind the other, as a number. -/
theorem toNat_append {n k : Nat} (x : BitVec n) (y : BitVec k) :
    (x ++ y).toNat = x.toNat * 2 ^ k + y.toNat := by
  rw [BitVec.toNat_append, ← Nat.shiftLeft_add_eq_or_of_lt y.isLt, Nat.shiftLeft_eq]

/-- The bits of a packed double, as a number. -/
theorem toNat_packComponents (s : Sign) (e : BitVec 11) (m : BitVec 52) :
    (packComponents Format.binary64 s e m).toNat =
      s.toBitVec.toNat * 2 ^ 63 + (e.toNat * 2 ^ 52 + m.toNat) := by
  rw [packComponents, toNat_append, toNat_append]
  omega

/-- Without the sign bit, the place of a double is the number that its bits are. -/
theorem place_of_bits {x : Float} {n : Nat} (h : x.toBits.toNat = n) (hn : n < 2 ^ 63) :
    place x = n := by
  unfold place
  dsimp only
  rw [h]
  exact if_pos hn

/-- With the sign bit, the place of a double counts down from minus one. -/
theorem place_of_sign_bit {x : Float} {n : Nat} (h : x.toBits.toNat = 2 ^ 63 + n) :
    place x = -(n : Int) - 1 := by
  have hge : ¬ 2 ^ 63 + n < Nat.pow 2 63 := Nat.not_lt.2 (Nat.le_add_right _ _)
  have hrest : 2 ^ 63 + n - Nat.pow 2 63 = n := Nat.add_sub_cancel_left _ _
  unfold place
  dsimp only
  rw [h, if_neg hge, hrest]

/-- The place of a double is that of its magnitude, or the one as far below minus one. -/
theorem place_of_components {x : Float} {s : Sign} {e : BitVec 11} {m : BitVec 52}
    (h : x.toBits.toNat = (packComponents Format.binary64 s e m).toNat) :
    place x = signedPlace s (e.toNat * 2 ^ 52 + m.toNat : Nat) := by
  have he := e.isLt
  have hm := m.isLt
  rw [toNat_packComponents] at h
  cases s with
  | negative => exact place_of_sign_bit h
  | positive =>
    have hsign : Sign.positive.toBitVec.toNat = 0 := rfl
    rw [hsign, Nat.zero_mul, Nat.zero_add] at h
    exact place_of_bits h (by omega)

/-- The bits of the exponent and the mantissa, read as one number. -/
theorem magnitude_bits {m : Nat} {e : Int} (h : Canonical m e) :
    (((if 2 ^ 52 ≤ m then BitVec.ofNat 11 (e + 1075).toNat else 0#11).toNat * 2 ^ 52 +
      (BitVec.ofNat 52 m).toNat : Nat) : Int) = magnitudePlace m e := by
  have hlt := h.lt
  have hleast := h.least
  have hgreatest := h.greatest
  have hmantissa := h.normal
  rw [magnitudePlace, BitVec.toNat_ofNat]
  by_cases hnormal : 2 ^ 52 ≤ m
  · rw [if_pos hnormal, BitVec.toNat_ofNat]
    omega
  · rw [if_neg hnormal, BitVec.toNat_ofNat]
    omega

/-- The place of a finite double is that of what it unpacks to. -/
theorem place_eq {x : Float} (hx : x.isFinite = true) :
    place x = unpackedPlace x.toModel.unpack := by
  have hbits : x.toBits.toNat = (pack Format.binary64 x.toModel.unpack).toNat := by
    conv_lhs => rw [← ofModel_pack_unpack x]
    rfl
  have hrounded := rounded x
  change x.toModel.unpack.isFinite = true at hx
  generalize x.toModel.unpack = u at *
  match u, hx, hrounded, hbits with
  | .zero .negative, _, _, hbits => exact place_of_components hbits
  | .zero .positive, _, _, hbits => exact place_of_components hbits
  | .finite s m e hm, _, hrounded, hbits =>
    rw [pack_finite hrounded] at hbits
    rw [place_of_components hbits, magnitude_bits hrounded]
    cases s <;> rfl

/-- The places of finite doubles stand as their numbers do. -/
theorem totalOrder_eq {x y : Float} (hx : x.isFinite = true) (hy : y.isFinite = true)
    (hne : toRat x ≠ toRat y) : Scalar.totalOrder x y = compare (toRat x) (toRat y) := by
  change compare (place x) (place y) = _
  rw [place_eq hx, place_eq hy]
  rcases lt_or_gt_of_ne hne with h | h
  · rw [compare_lt_iff_lt.2 h, Int.compare_eq_lt]
    exact unpackedPlace_lt (shaped_unpack hx) (shaped_unpack hy) h
  · rw [compare_gt_iff_gt.2 h, Int.compare_eq_gt]
    exact unpackedPlace_lt (shaped_unpack hy) (shaped_unpack hx) h

end ElementAtlas.Double
