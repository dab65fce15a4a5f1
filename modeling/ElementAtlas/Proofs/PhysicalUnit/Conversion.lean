import ElementAtlas.PhysicalUnit.Basic
import ElementAtlas.Proofs.Scalar.Exact
import ElementAtlas.Scalar.Rational
import Mathlib.Tactic.NormNum

/-!
# How far conversion is off

A unit of doubles is read exactly (`exact`): its scale and its offset are rationals, and the same
definitions say over them what is converted but for rounding. The magnitude in base units, and the
magnitude in a unit of one in base units, are computed to within a few times the `roundoff` of the
numbers that are met on the way (`Sound.toBase_error`, `Sound.ofBase_error`), as long as they do not
leave the range of the doubles.
-/

namespace ElementAtlas

namespace Double

/-! ## Rounding twice -/

/-- What was rounded off a few times is not rounded off by more than twice as much. -/
theorem roundoff_le_two_mul {x n : Rat} (hn : 0 ≤ n) (h : |x| ≤ n + 3 * roundoff n) :
    roundoff x ≤ 2 * roundoff n := by
  have hunderflow := underflow_pos
  have hroundoff : roundoff n = n / 2 ^ 53 + underflow := by rw [roundoff, abs_of_nonneg hn]
  rw [roundoff]
  linarith

/-- A number that is rounded, and rounded again when another one is added. -/
theorem abs_sum_sub_le {x y p v : Rat} (hp : |p - x| ≤ roundoff x)
    (hv : |v - (p + y)| ≤ roundoff (p + y)) :
    |v - (x + y)| ≤ 3 * roundoff (|x + y| + |y|) := by
  have hnonneg : 0 ≤ |x + y| + |y| := add_nonneg (abs_nonneg _) (abs_nonneg _)
  have hx : |x| ≤ |(|x + y| + |y|)| := by
    have htriangle := abs_sub (x + y) y
    rw [add_sub_cancel_right] at htriangle
    rwa [abs_of_nonneg hnonneg]
  have hfirst := hp.trans (roundoff_mono hx)
  have hsum : |p + y| ≤ |x + y| + |y| + 3 * roundoff (|x + y| + |y|) := by
    have hsplit : p + y = x + y + (p - x) := by ring
    rw [hsplit]
    linarith [abs_add_le (x + y) (p - x), abs_nonneg y, roundoff_nonneg (|x + y| + |y|)]
  have hsecond := hv.trans (roundoff_le_two_mul hnonneg hsum)
  have htriangle := abs_sub_le v (p + y) (x + y)
  rw [add_sub_add_right_eq_sub] at htriangle
  linarith

/-- A number that is rounded, and rounded again when it is divided. -/
theorem abs_quotient_mul_sub_le {x d y n scale : Rat} (hscale : 0 < scale) (hx : |x| ≤ n)
    (hd : |d - x| ≤ roundoff n) (hy : |y - d / scale| ≤ roundoff (d / scale)) :
    |y * scale - x| ≤ 3 * roundoff n + underflow * scale := by
  have hnonneg := (abs_nonneg x).trans hx
  have hbound : |d| ≤ n + 3 * roundoff n := by
    have htriangle := abs_add_le x (d - x)
    rw [add_sub_cancel] at htriangle
    linarith [roundoff_nonneg n]
  have hsecond := roundoff_le_two_mul hnonneg hbound
  rw [roundoff] at hsecond
  have hquotient := mul_le_mul_of_nonneg_right hy hscale.le
  rw [roundoff_mul hscale, div_mul_cancel₀ _ hscale.ne', ← abs_of_pos hscale, ← abs_mul,
    abs_of_pos hscale, sub_mul, div_mul_cancel₀ _ hscale.ne'] at hquotient
  have htriangle := abs_sub_le (y * scale) d x
  linarith [underflow_pos]

end Double

open Double

variable {α β : Type}

/-- An origin with other scalars. -/
def Origin.map (f : α → β) : Origin α → Origin β
  | .linear => .linear
  | .absolute offset interval => .absolute (f offset) interval

namespace PhysicalUnit

/-- The same unit over other scalars. -/
def map (f : α → β) (u : PhysicalUnit α) : PhysicalUnit β :=
  ⟨u.symbol, f u.scale, u.dimension, u.origin.map f⟩

/-- A unit with the numbers that its scale and its offset are. -/
def exact (u : PhysicalUnit Float) : PhysicalUnit Rat := u.map toRat

/-- Where the magnitudes of a unit count from, in base units. -/
def zero (u : PhysicalUnit Rat) : Rat :=
  match u.origin with
  | .linear => 0
  | .absolute offset _ => offset

/-- The base value of a magnitude is its multiple of the scale, counted from the zero of the
unit. -/
@[simp, grind =] theorem toBase_eq (u : PhysicalUnit Rat) (m : Rat) : u.toBase m = m * u.scale + u.zero := by
  unfold toBase zero
  cases u.origin with
  | linear => exact (add_zero _).symm
  | absolute offset interval => rfl

/-- The scale of a unit is a number above zero, and its offset is a number. -/
structure Sound (u : PhysicalUnit Float) : Prop where
  isFinite : u.scale.isFinite = true
  pos : 0 < u.exact.scale
  offset : ∀ {offset interval}, u.origin = .absolute offset interval → offset.isFinite = true

namespace Sound

variable {u : PhysicalUnit Float} {x : Float}

/-- A linear unit has its zero at the base value zero. -/
theorem zero_of_linear (h : u.origin = .linear) : u.exact.zero = 0 := by
  simp only [zero, exact, map, h, Origin.map]

/-- An absolute unit has its zero at its offset. -/
theorem zero_of_absolute {offset : Float} {interval : String}
    (h : u.origin = .absolute offset interval) : u.exact.zero = toRat offset := by
  simp only [zero, exact, map, h, Origin.map]

@[simp] theorem scale_exact : u.exact.scale = toRat u.scale :=
  rfl

/-- The magnitude in base units is that of the exact unit but for rounding. -/
theorem toBase_error (hu : u.Sound) (hx : x.isFinite = true) (h : (u.toBase x).isFinite = true) :
    |toRat (u.toBase x) - u.exact.toBase (toRat x)| ≤
      3 * roundoff (|u.exact.toBase (toRat x)| + |u.exact.zero|) := by
  have hproduct := rounds_mul hx hu.isFinite
  rw [toBase_eq, scale_exact]
  unfold toBase at h ⊢
  cases horigin : u.origin with
  | linear =>
    rw [horigin] at h
    have herror := hproduct.error h
    have hnonneg := roundoff_nonneg (toRat x * toRat u.scale)
    simp only [zero_of_linear horigin, abs_zero, add_zero, roundoff_abs]
    linarith
  | absolute offset interval =>
    rw [horigin] at h
    dsimp only at h ⊢
    rw [zero_of_absolute horigin]
    have hfinite := isFinite_of_add h
    exact abs_sum_sub_le (hproduct.error hfinite)
      ((rounds_add hfinite (hu.offset horigin)).error h)

/-- Only finite base values have finite magnitudes. -/
theorem isFinite_of_ofBase (h : (u.ofBase x).isFinite = true) : x.isFinite = true := by
  unfold ofBase at h
  cases horigin : u.origin with
  | linear =>
    rw [horigin] at h
    exact isFinite_of_div h
  | absolute offset interval =>
    rw [horigin] at h
    exact isFinite_of_sub (isFinite_of_div h)

/-- The magnitude in the unit is that in the exact unit but for rounding. -/
theorem ofBase_error (hu : u.Sound) (h : (u.ofBase x).isFinite = true) :
    |toRat (u.ofBase x) * u.exact.scale - (toRat x - u.exact.zero)| ≤
      3 * roundoff (|toRat x| + |u.exact.zero|) + underflow * u.exact.scale := by
  have hx := isFinite_of_ofBase h
  have hne := hu.pos.ne'
  have hbound := abs_sub (toRat x) u.exact.zero
  rw [scale_exact] at hne
  have hnonneg := roundoff_nonneg (|toRat x| + |u.exact.zero|)
  have hwithin : |toRat x - u.exact.zero| ≤ |(|toRat x| + |u.exact.zero|)| :=
    hbound.trans (le_abs_self _)
  unfold ofBase at h ⊢
  cases horigin : u.origin with
  | linear =>
    rw [horigin] at h
    rw [zero_of_linear horigin] at *
    apply abs_quotient_mul_sub_le hu.pos hbound
    · rwa [sub_zero, sub_self, abs_zero]
    · exact (rounds_div hx hu.isFinite hne).error h
  | absolute offset interval =>
    rw [horigin] at h
    rw [zero_of_absolute horigin] at *
    have hfinite := isFinite_of_div h
    apply abs_quotient_mul_sub_le hu.pos hbound
    · exact ((rounds_sub hx (hu.offset horigin)).error hfinite).trans (roundoff_mono hwithin)
    · exact (rounds_div hfinite hu.isFinite hne).error h

end Sound

end PhysicalUnit

end ElementAtlas
