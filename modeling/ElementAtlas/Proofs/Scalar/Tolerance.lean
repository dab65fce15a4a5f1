import ElementAtlas.Proofs.Scalar.Exact
import ElementAtlas.Scalar.Rational
import Mathlib.Algebra.Order.Group.MinMax

/-!
# Comparing doubles with a tolerance

Two doubles count as equal if they differ by no more than the tolerance times the greater magnitude.
The difference and the product are rounded before they are compared, so this is told by the exact
numbers only where the distance of the two is not right at the tolerance: it must clear it by what
rounding takes away or adds (`compare_of_near`, `compare_of_far`).
-/

namespace ElementAtlas.Double

open Float.Model Float.Model.UnpackedFloat

/-! ## Magnitudes -/

/-- Negating a double negates what it unpacks to. -/
@[simp] theorem unpack_neg (x : Float) : (-x).toModel.unpack = x.toModel.unpack.neg := by
  have hrounded : Rounded x.toModel.unpack.neg := by
    have h := rounded x
    cases hunpack : x.toModel.unpack with
    | finite s m e hm =>
      rw [hunpack] at h
      exact h
    | zero s | infinity s | notANumber => trivial
  exact unpack_pack hrounded

@[simp] theorem toRat_neg (x : Float) : toRat (-x) = -toRat x := by
  rw [toRat, unpack_neg, value_neg]
  rfl

/-- The negative of a finite double is finite. -/
theorem isFinite_neg {x : Float} (h : x.isFinite = true) : (-x).isFinite = true := by
  change (-x).toModel.unpack.isFinite = true
  change x.toModel.unpack.isFinite = true at h
  rw [unpack_neg]
  cases hunpack : x.toModel.unpack with
  | zero s | finite s m e hm => rfl
  | infinity s | notANumber =>
    rw [hunpack] at h
    cases h

/-- The absolute value of a finite double is finite. -/
theorem isFinite_abs {x : Float} (h : x.isFinite = true) : (Scalar.abs x).isFinite = true := by
  unfold Scalar.abs
  split
  · exact h
  · exact isFinite_neg h

/-- The absolute value of a finite double is the absolute value of the rational. -/
theorem toRat_abs {x : Float} (h : x.isFinite = true) : toRat (Scalar.abs x) = |toRat x| := by
  have hle := le_iff isFinite_zero h
  rw [toRat_zero] at hle
  unfold Scalar.abs
  split
  next hpos => exact (abs_of_nonneg (hle.1 hpos)).symm
  next hneg =>
    rw [toRat_neg]
    exact (abs_of_neg (not_le.1 (mt hle.2 hneg))).symm

/-- Comparing doubles is comparing what they unpack to. -/
theorem le_of_unpack {x y : Float} {u v : UnpackedFloat} (hx : x.toModel.unpack = u)
    (hy : y.toModel.unpack = v) : Scalar.le x y = (UnpackedFloat.compare u v).any (·.isLE) := by
  rw [Bool.eq_iff_iff, le_iff_any, hx, hy]

/-- The absolute value of an infinity is the positive infinity. -/
theorem unpack_abs_infinity {x : Float} {s : Sign} (hx : x.toModel.unpack = .infinity s) :
    (Scalar.abs x).toModel.unpack = .infinity .positive := by
  unfold Scalar.abs
  cases s with
  | negative =>
    have hle : Scalar.le (Scalar.ofNat 0) x = false := le_of_unpack unpack_zero hx
    rw [hle, if_neg Bool.false_ne_true, unpack_neg, hx]
    rfl
  | positive =>
    have hle : Scalar.le (Scalar.ofNat 0) x = true := le_of_unpack unpack_zero hx
    rw [hle, if_pos rfl]
    exact hx

/-- The magnitude of an infinity is above all finite doubles. -/
theorem le_abs_infinity {x y : Float} {s : Sign} (hx : x.toModel.unpack = .infinity s)
    (hy : y.isFinite = true) : Scalar.le (Scalar.abs x) y = false := by
  change y.toModel.unpack.isFinite = true at hy
  rw [le_of_unpack (unpack_abs_infinity hx) rfl]
  cases hunpack : y.toModel.unpack with
  | zero s | finite s m e hm => rfl
  | infinity s | notANumber =>
    rw [hunpack] at hy
    cases hy

/-- The greater of two finite doubles is finite. -/
theorem isFinite_max {x y : Float} (hx : x.isFinite = true) (hy : y.isFinite = true) :
    (Scalar.max x y).isFinite = true := by
  unfold Scalar.max
  split
  · exact hy
  · exact hx

/-- The greater of two finite doubles is the greater of the rationals. -/
theorem toRat_max {x y : Float} (hx : x.isFinite = true) (hy : y.isFinite = true) :
    toRat (Scalar.max x y) = max (toRat x) (toRat y) := by
  have hle := le_iff hx hy
  unfold Scalar.max
  split
  next h => exact (max_eq_right (hle.1 h)).symm
  next h => exact (max_eq_left (le_of_not_ge (mt hle.2 h))).symm

/-! ## The tolerance -/

@[simp] theorem isFinite_tolerance : (Scalar.tolerance : Float).isFinite = true := by
  decide +kernel

/-- The tolerance is not quite the decimal that it is written as, but the double nearest to it. -/
theorem abs_toRat_tolerance_sub :
    |toRat Scalar.tolerance - Scalar.tolerance| ≤ 1 / 2 ^ 80 := by
  decide +kernel

/-- The tolerance is positive, and at most one half. -/
theorem tolerance_bounds : 0 < toRat Scalar.tolerance ∧ toRat Scalar.tolerance ≤ 1 / 2 := by
  decide +kernel

/-- How far apart two numbers may be to count as equal. -/
def window (x y : Rat) : Rat := toRat Scalar.tolerance * max |x| |y|

/-- What two numbers may differ by is never negative. -/
theorem window_nonneg (x y : Rat) : 0 ≤ window x y :=
  mul_nonneg tolerance_bounds.1.le ((abs_nonneg _).trans (le_max_left _ _))

/-- What two doubles may differ by lies well within the range of the format. -/
theorem window_le (x y : Float) : window (toRat x) (toRat y) ≤ limit / 2 := by
  have hbound : max |toRat x| |toRat y| ≤ limit := max_le (abs_toRat_lt x).le (abs_toRat_lt y).le
  have hnonneg : 0 ≤ max |toRat x| |toRat y| := (abs_nonneg _).trans (le_max_left _ _)
  obtain ⟨hpos, hhalf⟩ := tolerance_bounds
  calc window (toRat x) (toRat y)
      ≤ 1 / 2 * limit := mul_le_mul hhalf hbound hnonneg (by norm_num)
    _ = limit / 2 := by ring

/-- What a distance is compared to. -/
def allowed (x y : Float) : Float := Scalar.tolerance * Scalar.max (Scalar.abs x) (Scalar.abs y)

/-- The computed window rounds the exact one. -/
theorem rounds_allowed {x y : Float} (hx : x.isFinite = true) (hy : y.isFinite = true) :
    Rounds (window (toRat x) (toRat y)) (allowed x y) := by
  have hmax := isFinite_max (isFinite_abs hx) (isFinite_abs hy)
  have hrounds := rounds_mul isFinite_tolerance hmax
  rw [toRat_max (isFinite_abs hx) (isFinite_abs hy), toRat_abs hx, toRat_abs hy] at hrounds
  exact hrounds

/-- The window of two finite doubles is finite. -/
theorem isFinite_allowed {x y : Float} (hx : x.isFinite = true) (hy : y.isFinite = true) :
    (allowed x y).isFinite = true := by
  apply (rounds_allowed hx hy).isFinite
  rw [abs_of_nonneg (window_nonneg _ _)]
  exact window_le x y

/-- Finite doubles are taken for equal if they are equal or their computed distance lies in the
computed window. -/
theorem approxEq_iff {x y : Float} (hx : x.isFinite = true) (hy : y.isFinite = true) :
    Scalar.approxEq x y = true ↔
      toRat x = toRat y ∨ Scalar.le (Scalar.abs (x - y)) (allowed x y) = true := by
  rw [Scalar.approxEq, Bool.or_eq_true, beq_iff hx hy]
  rfl

/-- Doubles that are closer to each other than the tolerance by more than rounding changes. -/
def Near (x y : Rat) : Prop :=
  |x - y| + roundoff (x - y) + roundoff (window x y) ≤ window x y

/-- Doubles that are further from each other than the tolerance by more than rounding changes. -/
def Far (x y : Rat) : Prop :=
  window x y + roundoff (window x y) + roundoff (x - y) < |x - y|

/-- Doubles that are near each other are taken for equal. -/
theorem approxEq_of_near {x y : Float} (hx : x.isFinite = true) (hy : y.isFinite = true)
    (h : Near (toRat x) (toRat y)) : Scalar.approxEq x y = true := by
  rw [approxEq_iff hx hy]
  right
  have hallowed := isFinite_allowed hx hy
  have hwindow := abs_le.1 ((rounds_allowed hx hy).error hallowed)
  rw [Near] at h
  cases rounds_sub hx hy with
  | near hfinite herror =>
    rw [le_iff (isFinite_abs hfinite) hallowed, toRat_abs hfinite]
    have hclose := abs_sub_abs_le_abs_sub (toRat (x - y)) (toRat x - toRat y)
    linarith [hwindow.1]
  | beyond _ hgreat =>
    have hle := window_le x y
    have hnonneg := roundoff_nonneg (window (toRat x) (toRat y))
    exfalso
    linarith [four_le_limit]

/-- Numbers that are far from each other differ. -/
theorem Far.ne {x y : Rat} (h : Far x y) : x ≠ y := by
  rintro rfl
  rw [Far, sub_self, abs_zero] at h
  linarith [window_nonneg x x, roundoff_nonneg (window x x), roundoff_nonneg 0]

/-- Doubles that are far from each other are not taken for equal. -/
theorem approxEq_of_far {x y : Float} (hx : x.isFinite = true) (hy : y.isFinite = true)
    (h : Far (toRat x) (toRat y)) : Scalar.approxEq x y = false := by
  have hallowed := isFinite_allowed hx hy
  have hwindow := abs_le.1 ((rounds_allowed hx hy).error hallowed)
  have hfar := h
  rw [Far] at hfar
  rw [Bool.eq_false_iff, ne_eq, approxEq_iff hx hy, not_or]
  constructor
  · exact h.ne
  · cases rounds_sub hx hy with
    | near hfinite herror =>
      rw [le_iff (isFinite_abs hfinite) hallowed, toRat_abs hfinite, not_le]
      have hclose := abs_sub_abs_le_abs_sub (toRat x - toRat y) (toRat (x - y))
      rw [abs_sub_comm] at herror
      linarith [hwindow.2]
    | beyond hunpack _ =>
      rw [le_abs_infinity hunpack hallowed]
      exact Bool.false_ne_true

/-! ## Comparing -/

/-- Doubles that are near each other have the order `.eq`. -/
theorem compare_of_near {x y : Float} (hx : x.isFinite = true) (hy : y.isFinite = true)
    (h : Near (toRat x) (toRat y)) : Scalar.compare x y = .eq := by
  rw [Scalar.compare, approxEq_of_near hx hy h, if_pos rfl]

/-- Doubles that are far from each other have the order of the rationals. -/
theorem compare_of_far {x y : Float} (hx : x.isFinite = true) (hy : y.isFinite = true)
    (h : Far (toRat x) (toRat y)) : Scalar.compare x y = compare (toRat x) (toRat y) := by
  rw [Scalar.compare, approxEq_of_far hx hy h, if_neg Bool.false_ne_true, totalOrder_eq hx hy h.ne]

/-! ## Multiples of a scale

The doubles that are compared are multiples of the scale of a unit, and one of them is not exactly
the multiple that it should be.
-/

/-- By how much the distance of two numbers must clear the tolerance, if they are told as multiples
of a scale, the second one with an error. -/
def margin (a b scale error : Rat) : Rat :=
  2 * error + (|a| + |b|) / 2 ^ 51 + 4 * underflow * scale

section
variable {x y a b scale error : Rat}

/-- The window of two numbers, measured in multiples of a scale. -/
theorem window_mul (hscale : 0 < scale) (x y : Rat) :
    window x y * scale = toRat Scalar.tolerance * max |x * scale| |y * scale| := by
  rw [window, abs_mul, abs_mul, abs_of_pos hscale, ← max_mul_of_nonneg _ _ hscale.le, mul_assoc]

/-- A distance changes by no more than the error of one of its ends. -/
theorem abs_distance_sub_le (hx : x * scale = a) (hy : |y * scale - b| ≤ error) :
    |(|(x - y) * scale| - |a - b|)| ≤ error := by
  rw [sub_mul, hx]
  calc |(|a - y * scale| - |a - b|)|
      ≤ |(a - y * scale) - (a - b)| := abs_abs_sub_abs_le _ _
    _ = |y * scale - b| := by rw [sub_sub_sub_cancel_left, abs_sub_comm]
    _ ≤ error := hy

/-- The greater absolute value changes by no more than the error of one of the two. -/
theorem abs_max_sub_le (hx : x * scale = a) (hy : |y * scale - b| ≤ error) :
    |(max |x * scale| |y * scale| - max |a| |b|)| ≤ error := by
  rw [hx]
  calc |(max |a| |y * scale| - max |a| |b|)|
      = |(max |y * scale| |a| - max |b| |a|)| := by rw [max_comm |a|, max_comm |a|]
    _ ≤ |(|y * scale| - |b|)| := abs_max_sub_max_le_abs _ _ _
    _ ≤ |y * scale - b| := abs_abs_sub_abs_le _ _
    _ ≤ error := hy

/-- Products change with either factor by no more than the change times the other factor. -/
theorem abs_mul_sub_mul_le (s t m n : Rat) : |s * m - t * n| ≤ |s| * |m - n| + |s - t| * |n| := by
  have hsplit : s * m - t * n = s * (m - n) + (s - t) * n := by ring
  rw [hsplit, ← abs_mul, ← abs_mul]
  exact abs_add_le _ _

/-- The window of the multiples and all that rounding adds to it, as far as they are off. -/
theorem window_multiples (hscale : 0 < scale) (hx : x * scale = a)
    (hy : |y * scale - b| ≤ error) :
    |(window x y * scale - Scalar.tolerance * max |a| |b|)| +
        (roundoff (x - y) + roundoff (window x y)) * scale + error ≤ margin a b scale error := by
  have herror : 0 ≤ error := (abs_nonneg _).trans hy
  have hunderflow : 0 ≤ underflow * scale := (mul_pos underflow_pos hscale).le
  have hdistance := (abs_le.1 (abs_distance_sub_le hx hy)).2
  have hmax := abs_max_sub_le hx hy
  have hnonneg : 0 ≤ max |a| |b| := (abs_nonneg a).trans (le_max_left _ _)
  have hsum : max |a| |b| ≤ |a| + |b| := max_le_add_of_nonneg (abs_nonneg a) (abs_nonneg b)
  have hdifference := abs_sub a b
  obtain ⟨hpos, hhalf⟩ := tolerance_bounds
  have hscaled := window_mul hscale x y
  have hbound : window x y * scale ≤ (max |a| |b| + error) / 2 := by
    rw [hscaled]
    have hmul := mul_le_mul_of_nonneg_right hhalf
      ((abs_nonneg (x * scale)).trans (le_max_left _ |y * scale|))
    linarith [(abs_le.1 hmax).2]
  have hoff : |(window x y * scale - Scalar.tolerance * max |a| |b|)| ≤
      error / 2 + max |a| |b| / 2 ^ 80 := by
    have hfactors := abs_mul_sub_mul_le (toRat Scalar.tolerance) Scalar.tolerance
      (max |x * scale| |y * scale|) (max |a| |b|)
    have hfirst := mul_le_mul hhalf hmax (abs_nonneg _) (by norm_num)
    have hsecond := mul_le_mul_of_nonneg_right abs_toRat_tolerance_sub hnonneg
    rw [abs_of_pos hpos, abs_of_nonneg hnonneg, ← hscaled] at hfactors
    linarith
  rw [margin, add_mul, roundoff_mul hscale, roundoff_mul hscale,
    abs_of_nonneg (mul_nonneg (window_nonneg x y) hscale.le)]
  linarith

/-- Multiples of a scale are near each other if their values are, with the margin that their error
takes. -/
theorem near_of_multiples (hscale : 0 < scale) (hx : x * scale = a) (hy : |y * scale - b| ≤ error)
    (h : |a - b| + margin a b scale error ≤ Scalar.tolerance * max |a| |b|) : Near x y := by
  have hdistance := abs_le.1 (abs_distance_sub_le hx hy)
  have hwindow := window_multiples hscale hx hy
  have hclose := neg_abs_le (window x y * scale - Scalar.tolerance * max |a| |b|)
  apply le_of_mul_le_mul_right _ hscale
  rw [abs_mul, abs_of_pos hscale] at hdistance
  linarith [hdistance.2]

/-- Multiples of a scale are far from each other if their values are, with the margin that their
error takes. -/
theorem far_of_multiples (hscale : 0 < scale) (hx : x * scale = a) (hy : |y * scale - b| ≤ error)
    (h : Scalar.tolerance * max |a| |b| + margin a b scale error < |a - b|) : Far x y := by
  have hdistance := abs_le.1 (abs_distance_sub_le hx hy)
  have hwindow := window_multiples hscale hx hy
  have hclose := le_abs_self (window x y * scale - Scalar.tolerance * max |a| |b|)
  apply lt_of_mul_lt_mul_right _ hscale.le
  rw [abs_mul, abs_of_pos hscale] at hdistance
  linarith [hdistance.1]

/-- Two multiples that are further apart than the error stand as they should. -/
theorem compare_multiples (hscale : 0 < scale) (hx : x * scale = a) (hy : |y * scale - b| ≤ error)
    (h : error < |a - b|) : compare x y = compare a b := by
  obtain ⟨hlow, hhigh⟩ := abs_le.1 hy
  rcases lt_trichotomy a b with hab | rfl | hab
  · rw [abs_of_neg (sub_neg.2 hab)] at h
    have hxy : x * scale < y * scale := by linarith
    rw [compare_lt_iff_lt.2 hab, compare_lt_iff_lt]
    exact lt_of_mul_lt_mul_right hxy hscale.le
  · rw [sub_self, abs_zero] at h
    exact absurd ((abs_nonneg _).trans hy) (not_le.2 h)
  · rw [abs_of_pos (sub_pos.2 hab)] at h
    have hxy : y * scale < x * scale := by linarith
    rw [compare_gt_iff_gt.2 hab, compare_gt_iff_gt]
    exact lt_of_mul_lt_mul_right hxy hscale.le

end

section
variable {x y : Float} {a b scale error : Rat} (hx : x.isFinite = true) (hy : y.isFinite = true)
  (hscale : 0 < scale) (ha : toRat x * scale = a) (hb : |toRat y * scale - b| ≤ error)
include hx hy hscale ha hb

/-- Doubles compare as equal or as the numbers that they are multiples for if these are further
apart than the error. -/
theorem compare_of_multiples (h : error < |a - b|) :
    Scalar.compare x y = .eq ∨ Scalar.compare x y = compare a b := by
  have hcompare := compare_multiples hscale ha hb h
  have hne : toRat x ≠ toRat y := by
    intro heq
    rw [heq, compare_eq_iff_eq.2 rfl, eq_comm, compare_eq_iff_eq] at hcompare
    rw [hcompare, sub_self, abs_zero] at h
    exact absurd ((abs_nonneg _).trans hb) (not_le.2 h)
  rw [Scalar.compare]
  split
  · exact .inl rfl
  · exact .inr ((totalOrder_eq hx hy hne).trans hcompare)

/-- Doubles compare as equal if the numbers that they are multiples for are clearly close. -/
theorem compare_of_near_multiples
    (h : |a - b| + margin a b scale error ≤ Scalar.tolerance * max |a| |b|) :
    Scalar.compare x y = .eq :=
  compare_of_near hx hy (near_of_multiples hscale ha hb h)

/-- Doubles compare as the numbers that they are multiples for if these are clearly apart. -/
theorem compare_of_far_multiples
    (h : Scalar.tolerance * max |a| |b| + margin a b scale error < |a - b|) :
    Scalar.compare x y = compare a b := by
  have herror : error < |a - b| := by
    have htolerance : (0 : Rat) ≤ Scalar.tolerance := by decide +kernel
    have hwindow := mul_nonneg htolerance ((abs_nonneg a).trans (le_max_left _ |b|))
    have hunderflow := mul_pos underflow_pos hscale
    have hnonneg := (abs_nonneg _).trans hb
    rw [margin] at h
    linarith [abs_nonneg a, abs_nonneg b]
  rw [compare_of_far hx hy (far_of_multiples hscale ha hb h)]
  exact compare_multiples hscale ha hb herror

end

end ElementAtlas.Double
