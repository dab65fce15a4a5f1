import ElementAtlas.Element.Basic
import ElementAtlas.Proofs.Quantity.Scales
import ElementAtlas.Proofs.Scalar.Lawful
import ElementAtlas.Proofs.Scalar.Symmetry

/-!
# Comparing from either side

Two quantities are compared in the unit of the first, with a tolerance that is relative to the
magnitudes in that unit. So the two sides from which they can be compared do not tolerate the same:
magnitudes count from the zero of the one unit or from that of the other, and each side rounds its
own conversions.

What both sides agree on is told over the rationals, where nothing rounds. If the quantities are
clearly closer to each other than both zeros allow, or clearly further apart than either does
(`Stands`), then comparing them has the same outcome from both sides (`compare_of_stands`); the
`slack` that makes it clear covers what rounding takes away or adds. Where the conversions leave the
magnitudes as they are (`Unchanged`), the two sides always agree, since comparing two doubles does
not depend on their order.
-/

namespace ElementAtlas

open Double

/-- A unit in which magnitudes are what they are in base units. -/
structure PhysicalUnit.Plain (u : PhysicalUnit Float) : Prop where
  scale : u.scale = Scalar.ofNat 1
  offset : ∀ {offset interval}, u.origin = .absolute offset interval → offset = Scalar.ofNat 0

namespace Quantity

/-- A quantity that an expression of quantities can have as its value, whose magnitude is a number
and whose scale is one other than zero. -/
structure Numeric (q : Quantity Float) : Prop where
  reached : q.Reached
  magnitude : q.magnitude.isFinite = true
  scale : q.unit.scale.isFinite = true
  scale_ne : (q.unit.scale == Scalar.ofNat 0) = false

/-- A quantity with the numbers that its magnitude and its unit are. -/
def exact (q : Quantity Float) : Quantity Rat := ⟨toRat q.magnitude, q.unit.exact⟩

section
variable (q r : Quantity Float)

/-- How far apart two quantities are, in base units. -/
def distance : Rat := |q.exact.baseValue - r.exact.baseValue|

/-- How far apart two quantities may be to count as equal, in base units, if their magnitudes count
from the given zero. -/
def leeway (zero : Rat) : Rat :=
  Scalar.tolerance * max |q.exact.baseValue - zero| |r.exact.baseValue - zero|

/-- The zeros from which the magnitudes of two quantities count when they are compared. -/
def zeros : List Rat := [q.unit.exact.zero, r.unit.exact.zero]

/-- The size of the numbers that are met when two quantities are compared, in base units. -/
def extent : Rat :=
  |q.exact.baseValue| + |r.exact.baseValue| + |q.unit.exact.zero| + |r.unit.exact.zero|

/-- What rounding may add to a distance or take away from it when two quantities are compared. -/
def slack : Rat :=
  32 * (roundoff (extent q r) + underflow * (q.unit.exact.scale + r.unit.exact.scale))

/-- How two quantities stand to each other, from whichever zero their magnitudes count. -/
inductive Stands : Ordering → Prop
  | near : (∀ zero ∈ zeros q r, distance q r + slack q r ≤ leeway q r zero) → Stands .eq
  | apart : (∀ zero ∈ zeros q r, leeway q r zero + slack q r < distance q r) →
      Stands (Ord.compare q.exact.baseValue r.exact.baseValue)

/-- The second quantity does not leave the range of the doubles in the unit of the first. -/
def Fits : Prop := ∀ s, r.convert q.unit = .ok s → s.magnitude.isFinite = true

/-- The magnitude of the first quantity is the same number in the unit of the second. -/
def Unchanged : Prop := ∀ s, q.convert r.unit = .ok s → (s.magnitude == q.magnitude) = true

/-- Comparing two quantities from either side has the same outcome, the other way round. -/
structure Mirrored : Prop where
  compare : ∀ order : Ordering, q.compare r = .ok order ↔ r.compare q = .ok order.swap
  compare? : q.compare? r = (r.compare? q).map Ordering.swap
  equals : ∀ equal, q.equals r = .ok equal ↔ r.equals q = .ok equal
  beq : (q == r) = (r == q)
  sameAs : ∀ {ρ σ : Type} (t : Transition Float ρ) (u : Transition Float σ),
    t.temperature = q → u.temperature = r → t.sameAs u = u.sameAs t

end

variable {q r : Quantity Float}

/-! ## Either side -/

/-- The distance is the same from either side. -/
theorem distance_comm : distance q r = distance r q := abs_sub_comm _ _

/-- The leeway is the same from either side. -/
theorem leeway_comm (zero : Rat) : leeway q r zero = leeway r q zero := by
  rw [leeway, leeway, max_comm]

/-- The extent is the same from either side. -/
theorem extent_comm : extent q r = extent r q := by
  rw [extent, extent, add_comm |q.exact.baseValue|, add_right_comm]

/-- The slack is the same from either side. -/
theorem slack_comm : slack q r = slack r q := by
  rw [slack, slack, extent_comm, add_comm q.unit.exact.scale]

/-- The zeros are the same from either side. -/
theorem mem_zeros_comm {zero : Rat} : zero ∈ zeros q r ↔ zero ∈ zeros r q := by
  rw [zeros, zeros, List.mem_pair, List.mem_pair, or_comm]

/-- How two quantities stand to each other is turned around from the other side. -/
theorem Stands.swap {order : Ordering} (h : Stands q r order) : Stands r q order.swap := by
  cases h with
  | near hnear =>
    refine .near fun zero hzero => ?_
    rw [distance_comm, slack_comm, leeway_comm]
    exact hnear zero (mem_zeros_comm.1 hzero)
  | apart hapart =>
    rw [← Std.OrientedCmp.eq_swap]
    refine .apart fun zero hzero => ?_
    rw [distance_comm, slack_comm, leeway_comm]
    exact hapart zero (mem_zeros_comm.1 hzero)

/-- Two quantities have an order where they compare. -/
@[simp] theorem compare?_eq_some_iff {order : Ordering} :
    q.compare? r = some order ↔ q.compare r = .ok order :=
  Attempt.toOption_eq_some_iff

/-- Quantities are equal if they stand in the order `.eq`, and neither equal nor different if they
do not compare. -/
theorem equals_eq_ok_iff {equal : Bool} :
    q.equals r = .ok equal ↔ ∃ order, q.compare r = .ok order ∧ decide (order = .eq) = equal :=
  Attempt.map_eq_ok

/-- Quantities are taken for equal if they stand in the order `.eq`. -/
theorem beq_iff_compare : (q == r) = true ↔ q.compare r = .ok .eq := by
  change decide (q.compare? r = some .eq) = true ↔ _
  rw [decide_eq_true_iff, compare?_eq_some_iff]

/-- All ways of comparing two quantities follow their order. -/
theorem mirrored_of_compare
    (h : ∀ order : Ordering, q.compare r = .ok order ↔ r.compare q = .ok order.swap) :
    Mirrored q r := by
  have hbeq : (q == r) = (r == q) := by
    rw [Bool.eq_iff_iff, beq_iff_compare, beq_iff_compare]
    exact h .eq
  refine ⟨h, ?_, fun equal => ?_, hbeq, ?_⟩
  · apply Option.ext
    intro order
    rw [compare?_eq_some_iff, h, Option.map_eq_some_iff]
    constructor
    · intro hswap
      exact ⟨order.swap, compare?_eq_some_iff.2 hswap, Ordering.swap_swap⟩
    · rintro ⟨order', hsome, rfl⟩
      rw [Ordering.swap_swap]
      exact compare?_eq_some_iff.1 hsome
  · rw [equals_eq_ok_iff, equals_eq_ok_iff]
    constructor
    · rintro ⟨order, horder, rfl⟩
      exact ⟨order.swap, (h order).1 horder, by cases order <;> rfl⟩
    · rintro ⟨order, horder, rfl⟩
      rw [← Ordering.swap_swap (o := order)] at horder
      exact ⟨order.swap, (h _).2 horder, by cases order <;> rfl⟩
  · intro ρ σ t u ht hu
    rw [Transition.sameAs, Transition.sameAs, ht, hu, hbeq, Bool.beq_comm]

/-- Quantities compare from both sides or from none. -/
theorem exists_compare_comm :
    (∃ order, q.compare r = .ok order) ↔ ∃ order, r.compare q = .ok order := by
  rw [exists_compare_iff, exists_compare_iff, eq_comm, eq_comm (a := r.isAbsolute)]

/-- Quantities that do not compare are mirrored. -/
theorem mirrored_of_not_compare (h : ¬ ∃ order, q.compare r = .ok order) : Mirrored q r :=
  mirrored_of_compare fun order =>
    ⟨fun hq => absurd ⟨order, hq⟩ h, fun hr => absurd (exists_compare_comm.2 ⟨order.swap, hr⟩) h⟩

/-- Quantities are mirrored if they compare one way round from one side and the other way round from
the other. -/
theorem mirrored_of_eq_ok {order : Ordering} (hq : q.compare r = .ok order)
    (hr : r.compare q = .ok order.swap) : Mirrored q r := by
  refine mirrored_of_compare fun order' => ?_
  rw [hq, hr, Except.ok.injEq, Except.ok.injEq, Ordering.swap_inj]

/-! ## Comparing the doubles -/

/-- Compatible quantities compare as the magnitude of the first and that of the second in its
unit. -/
theorem compare_eq_ok (hcompatible : r.dimension = q.dimension ∧ r.isAbsolute = q.isAbsolute) :
    q.compare r = .ok (Scalar.compare q.magnitude (q.unit.ofBase r.baseValue)) :=
  compare_eq_ok_iff.2 ⟨hcompatible, rfl⟩

/-- The magnitude of a quantity, as a multiple of its scale. -/
theorem magnitude_mul_scale :
    toRat q.magnitude * q.unit.exact.scale = q.exact.baseValue - q.unit.exact.zero :=
  eq_sub_of_add_eq (PhysicalUnit.toBase_eq _ _).symm

section
variable {order : Ordering} (hq : q.unit.Sound) (hr : r.unit.Sound)
include hq hr

/-- The magnitude of the second quantity in the unit of the first, as a multiple of its scale. -/
theorem conversion_error (hrm : r.magnitude.isFinite = true)
    (hy : (q.unit.ofBase r.baseValue).isFinite = true) :
    |toRat (q.unit.ofBase r.baseValue) * q.unit.exact.scale -
        (r.exact.baseValue - q.unit.exact.zero)| ≤
      9 * roundoff (extent q r) + underflow * q.unit.exact.scale := by
  have hzero := abs_nonneg q.unit.exact.zero
  have hextent : |r.exact.baseValue| + |q.unit.exact.zero| + |r.unit.exact.zero| ≤ extent q r := by
    rw [extent]
    linarith [abs_nonneg q.exact.baseValue]
  have hvalue := add_nonneg (abs_nonneg r.exact.baseValue) (abs_nonneg r.unit.exact.zero)
  have hnonneg : 0 ≤ extent q r := by linarith
  have hto : |toRat r.baseValue - r.exact.baseValue| ≤ 3 * roundoff (extent q r) := by
    have herror := hr.toBase_error hrm (PhysicalUnit.Sound.isFinite_of_ofBase hy)
    have hmono : roundoff (|r.exact.baseValue| + |r.unit.exact.zero|) ≤ roundoff (extent q r) := by
      apply roundoff_mono
      rw [abs_of_nonneg hvalue, abs_of_nonneg hnonneg]
      linarith
    exact herror.trans (mul_le_mul_of_nonneg_left hmono (by norm_num))
  have hof := hq.ofBase_error hy
  have hbound : |toRat r.baseValue| + |q.unit.exact.zero| ≤
      extent q r + 3 * roundoff (extent q r) := by
    have htriangle := abs_sub_abs_le_abs_sub (toRat r.baseValue) r.exact.baseValue
    linarith [abs_nonneg r.unit.exact.zero]
  have htwice := roundoff_le_two_mul hnonneg
    ((abs_of_nonneg (add_nonneg (abs_nonneg _) hzero)).trans_le hbound)
  have htriangle := abs_sub_le (toRat (q.unit.ofBase r.baseValue) * q.unit.exact.scale)
    (toRat r.baseValue - q.unit.exact.zero) (r.exact.baseValue - q.unit.exact.zero)
  rw [sub_sub_sub_cancel_right] at htriangle
  linarith

/-- What rounding may change about the comparison of the magnitudes is within the slack. -/
theorem margin_le_slack :
    margin (q.exact.baseValue - q.unit.exact.zero) (r.exact.baseValue - q.unit.exact.zero)
      q.unit.exact.scale (9 * roundoff (extent q r) + underflow * q.unit.exact.scale) ≤
      slack q r := by
  have hscale := mul_pos underflow_pos hq.pos
  have hscale' := mul_pos underflow_pos hr.pos
  have hvalues : |q.exact.baseValue - q.unit.exact.zero| +
      |r.exact.baseValue - q.unit.exact.zero| ≤ 2 * extent q r := by
    have hfirst := abs_sub q.exact.baseValue q.unit.exact.zero
    have hsecond := abs_sub r.exact.baseValue q.unit.exact.zero
    rw [extent]
    linarith [abs_nonneg q.exact.baseValue, abs_nonneg r.exact.baseValue,
      abs_nonneg r.unit.exact.zero]
  have hextent := le_abs_self (extent q r)
  rw [margin, slack, roundoff]
  linarith [underflow_pos, abs_nonneg (extent q r)]

/-- Two quantities that stand clear of what is tolerated compare as they stand. -/
theorem compare_of_stands (hqm : q.magnitude.isFinite = true) (hrm : r.magnitude.isFinite = true)
    (hcompatible : r.dimension = q.dimension ∧ r.isAbsolute = q.isAbsolute) (hfits : Fits q r)
    (h : Stands q r order) : q.compare r = .ok order := by
  have hy := hfits _ (convert_eq_ok_iff.2 ⟨hcompatible, rfl⟩)
  have herror := conversion_error hq hr hrm hy
  have hslack := margin_le_slack hq hr
  have hdistance := sub_sub_sub_cancel_right q.exact.baseValue r.exact.baseValue q.unit.exact.zero
  have hzero : q.unit.exact.zero ∈ zeros q r := List.mem_cons_self
  rw [compare_eq_ok hcompatible]
  cases h with
  | near hnear =>
    have hnear := hnear _ hzero
    rw [distance, leeway, ← hdistance] at hnear
    rw [compare_of_near_multiples hqm hy hq.pos magnitude_mul_scale herror (by linarith)]
  | apart hapart =>
    have hapart := hapart _ hzero
    rw [distance, leeway, ← hdistance] at hapart
    rw [compare_of_far_multiples hqm hy hq.pos magnitude_mul_scale herror (by linarith)]
    exact congrArg _ (compare_eq_compare (sub_lt_sub_iff_right _) (sub_lt_sub_iff_right _))

/-- Two quantities that are not as close as what rounding may take away or add do not compare the
wrong way round. -/
theorem order_of_compare (hqm : q.magnitude.isFinite = true) (hrm : r.magnitude.isFinite = true)
    (hfits : Fits q r) (hapart : slack q r < distance q r) (h : q.compare r = .ok order) :
    order = .eq ∨ order = Ord.compare q.exact.baseValue r.exact.baseValue := by
  have hcompatible := (exists_compare_iff.1 ⟨order, h⟩).imp Eq.symm Eq.symm
  have hy := hfits _ (convert_eq_ok_iff.2 ⟨hcompatible, rfl⟩)
  have herror := conversion_error hq hr hrm hy
  have hslack := margin_le_slack hq hr
  have hdistance := sub_sub_sub_cancel_right q.exact.baseValue r.exact.baseValue q.unit.exact.zero
  have hfar : 9 * roundoff (extent q r) + underflow * q.unit.exact.scale <
      |q.exact.baseValue - q.unit.exact.zero - (r.exact.baseValue - q.unit.exact.zero)| := by
    have hunderflow := mul_pos underflow_pos hq.pos
    rw [margin] at hslack
    rw [hdistance, ← distance]
    linarith [roundoff_nonneg (extent q r), abs_nonneg (q.exact.baseValue - q.unit.exact.zero),
      abs_nonneg (r.exact.baseValue - q.unit.exact.zero)]
  rw [compare_eq_ok hcompatible, Except.ok.injEq] at h
  rw [← h, compare_eq_compare (sub_lt_sub_iff_right q.unit.exact.zero).symm
    (sub_lt_sub_iff_right q.unit.exact.zero).symm]
  exact compare_of_multiples hqm hy hq.pos magnitude_mul_scale herror hfar

end

/-! ## Unchanged magnitudes -/

/-- Where the magnitude of the second quantity does not change, it is compared as it stands. -/
theorem compare_of_unchanged (hqm : q.magnitude.isFinite = true) (hrm : r.magnitude.isFinite = true)
    (hcompatible : r.dimension = q.dimension ∧ r.isAbsolute = q.isAbsolute)
    (h : Unchanged r q) : q.compare r = .ok (Scalar.compare q.magnitude r.magnitude) := by
  have hbeq := h _ (convert_eq_ok_iff.2 ⟨hcompatible, rfl⟩)
  have hfinite := isFinite_of_beq hrm hbeq
  rw [compare_eq_ok hcompatible]
  exact congrArg _ (compare_congr hqm hfinite hrm ((beq_iff hfinite hrm).1 hbeq))

section
variable {u : PhysicalUnit Float} {x : Float}

/-- In a plain unit a magnitude is its own base value. -/
theorem toBase_of_plain (hu : u.Plain) (hx : x.isFinite = true) :
    (u.toBase x).isFinite = true ∧ toRat (u.toBase x) = toRat x := by
  unfold PhysicalUnit.toBase
  rw [hu.scale, Scalar.Lawful.mul_one]
  cases horigin : u.origin with
  | linear => exact ⟨hx, rfl⟩
  | absolute offset interval =>
    rw [hu.offset horigin]
    exact add_of_zero hx isFinite_zero toRat_zero

/-- In a plain unit a base value is its own magnitude. -/
theorem ofBase_of_plain (hu : u.Plain) (hx : x.isFinite = true) :
    (u.ofBase x).isFinite = true ∧ toRat (u.ofBase x) = toRat x := by
  unfold PhysicalUnit.ofBase
  rw [hu.scale]
  cases horigin : u.origin with
  | linear =>
    rw [Scalar.Lawful.div_one]
    exact ⟨hx, rfl⟩
  | absolute offset interval =>
    dsimp only
    rw [hu.offset horigin, Scalar.Lawful.div_one]
    exact sub_of_zero hx isFinite_zero toRat_zero

end

/-- Conversion between plain units leaves the magnitude unchanged. -/
theorem unchanged_of_plain (hqm : q.magnitude.isFinite = true) (hq : q.unit.Plain)
    (hr : r.unit.Plain) : Unchanged q r := by
  intro s hconvert
  obtain ⟨-, rfl⟩ := convert_eq_ok_iff.1 hconvert
  obtain ⟨hto, hvalue⟩ := toBase_of_plain hq hqm
  obtain ⟨hof, hvalue'⟩ := ofBase_of_plain hr hto
  exact (beq_iff hof hqm).2 (hvalue'.trans hvalue)

/-! ## Numeric quantities -/

/-- The unit of a numeric quantity is sound. -/
theorem Numeric.sound (h : q.Numeric) : q.unit.Sound :=
  h.reached.sound h.scale h.scale_ne

/-- A quantity that is parsed is numeric if its magnitude and its scale are numbers and the scale is
not zero. -/
theorem numeric_of_parse {m : Float} {expression : String} (h : parse m expression = .ok q)
    (hnumbers : q.magnitude.isFinite = true ∧ q.unit.scale.isFinite = true ∧
      (q.unit.scale == Scalar.ofNat 0) = false) : q.Numeric :=
  ⟨.parse h, hnumbers.1, hnumbers.2.1, hnumbers.2.2⟩

/-- A quantity fits if its magnitude in the unit of the first is finite. -/
theorem fits_of_isFinite (h : (q.unit.ofBase r.baseValue).isFinite = true) : Fits q r := by
  intro s hconvert
  obtain ⟨-, rfl⟩ := convert_eq_ok_iff.1 hconvert
  exact h

section
variable (hq : q.Numeric) (hr : r.Numeric)
include hq hr

/-- Quantities whose magnitudes are unchanged in the unit of the other are mirrored. -/
theorem mirrored_of_unchanged (hqr : Unchanged q r) (hrq : Unchanged r q) : Mirrored q r := by
  by_cases hcompare : ∃ order, q.compare r = .ok order
  · have hcompatible := exists_compare_iff.1 hcompare
    have hback := exists_compare_iff.1 (exists_compare_comm.1 hcompare)
    apply mirrored_of_eq_ok (compare_of_unchanged hq.magnitude hr.magnitude hback hrq)
    rw [← compare_swap hq.magnitude hr.magnitude]
    exact compare_of_unchanged hr.magnitude hq.magnitude hcompatible hqr
  · exact mirrored_of_not_compare hcompare

/-- Quantities that fit, and that stand to each other clearly in an order, are mirrored and compare
in no other order. -/
theorem mirrored_of_stands {order : Ordering} (hqr : Fits q r) (hrq : Fits r q)
    (h : Stands q r order) :
    Mirrored q r ∧ ∀ order', q.compare r = .ok order' → order' = order := by
  by_cases hcompare : ∃ order, q.compare r = .ok order
  · have hcompatible := exists_compare_iff.1 hcompare
    have hback := exists_compare_iff.1 (exists_compare_comm.1 hcompare)
    have hone := compare_of_stands hq.sound hr.sound hq.magnitude hr.magnitude hback hqr h
    have hother :=
      compare_of_stands hr.sound hq.sound hr.magnitude hq.magnitude hcompatible hrq h.swap
    refine ⟨mirrored_of_eq_ok hone hother, fun order' horder' => ?_⟩
    exact Except.ok.inj (horder'.symm.trans hone)
  · exact ⟨mirrored_of_not_compare hcompare, fun order' horder' => absurd ⟨_, horder'⟩ hcompare⟩

/-- Sides that both tell two quantities apart agree, unless the quantities are as close as what
rounding may take away or add. -/
theorem swap_of_distance {order order' : Ordering} (hqr : Fits q r) (hrq : Fits r q)
    (h : slack q r < distance q r) (horder : q.compare r = .ok order)
    (horder' : r.compare q = .ok order') : order = .eq ∨ order' = .eq ∨ order' = order.swap := by
  have hback : slack r q < distance r q := by
    rwa [slack_comm, distance_comm]
  rcases order_of_compare hq.sound hr.sound hq.magnitude hr.magnitude hqr h horder with heq | heq
  · exact .inl heq
  · rcases order_of_compare hr.sound hq.sound hr.magnitude hq.magnitude hrq hback horder' with
      heq' | heq'
    · exact .inr (.inl heq')
    · refine .inr (.inr ?_)
      rw [heq', heq, ← Std.OrientedCmp.eq_swap]

/-- Two quantities can be compared from either side or from none, and the two sides agree if the
quantities cannot be compared, if their magnitudes are the same in either unit, as they are in plain
units, or if they stand clear of what is tolerated. If they are only further apart than rounding
goes, one side may take them for equal, but the sides do not contradict each other. -/
theorem compare_mirrored :
    ((∃ order, q.compare r = .ok order) ↔ ∃ order, r.compare q = .ok order) ∧
      ((¬ ∃ order, q.compare r = .ok order) → Mirrored q r) ∧
      (Unchanged q r → Unchanged r q → Mirrored q r) ∧
      (q.unit.Plain → r.unit.Plain → Mirrored q r) ∧
      (Fits q r → Fits r q →
        (∀ order, Stands q r order →
          Mirrored q r ∧ ∀ order', q.compare r = .ok order' → order' = order) ∧
        (slack q r < distance q r → ∀ order order', q.compare r = .ok order →
          r.compare q = .ok order' → order = .eq ∨ order' = .eq ∨ order' = order.swap)) := by
  refine ⟨exists_compare_comm, mirrored_of_not_compare, mirrored_of_unchanged hq hr, ?_, ?_⟩
  · intro hqu hru
    exact mirrored_of_unchanged hq hr (unchanged_of_plain hq.magnitude hqu hru)
      (unchanged_of_plain hr.magnitude hru hqu)
  · intro hqr hrq
    exact ⟨fun order => mirrored_of_stands hq hr hqr hrq,
      fun hapart order order' => swap_of_distance hq hr hqr hrq hapart⟩

end

/-- One temperature in two scales, and two temperatures in kelvin. -/
theorem compare_mirrored_temperatures :
    (∃ q r : Quantity Float, parse (Scalar.ofNat 20) "degC" = .ok q ∧
        parse (Scalar.ofNat 68) "degF" = .ok r ∧ Mirrored q r) ∧
      ∃ q r : Quantity Float, parse (Scalar.ofNat 0) "K" = .ok q ∧
        parse (Scalar.ofNat 300) "K" = .ok r ∧ Mirrored q r := by
  constructor
  · refine ⟨_, _, rfl, rfl, ?_⟩
    have hq := numeric_of_parse (rfl : parse (Scalar.ofNat 20) "degC" = .ok _) (by decide +kernel)
    have hr := numeric_of_parse (rfl : parse (Scalar.ofNat 68) "degF" = .ok _) (by decide +kernel)
    obtain ⟨-, -, -, -, hfits⟩ := compare_mirrored hq hr
    obtain ⟨hclear, -⟩ := hfits (fits_of_isFinite (by decide +kernel))
      (fits_of_isFinite (by decide +kernel))
    exact (hclear .eq (.near (by decide +kernel))).1
  · refine ⟨_, _, rfl, rfl, ?_⟩
    have hq := numeric_of_parse (rfl : parse (Scalar.ofNat 0) "K" = .ok _) (by decide +kernel)
    have hr := numeric_of_parse (rfl : parse (Scalar.ofNat 300) "K" = .ok _) (by decide +kernel)
    obtain ⟨-, -, -, hplain, -⟩ := compare_mirrored hq hr
    exact hplain ⟨rfl, fun h => by cases h; rfl⟩ ⟨rfl, fun h => by cases h; rfl⟩

/-! ## Right at the tolerance -/

/-- What comparing two numeric quantities results in, from the first and from the second. -/
def Outcomes (q r : Except QuantityError (Quantity Float)) (order order' : Ordering) : Prop :=
  ∃ s t, q = .ok s ∧ r = .ok t ∧ s.Numeric ∧ t.Numeric ∧
    s.compare t = .ok order ∧ t.compare s = .ok order'

/-- Outcomes of parsed quantities that are numbers are read off from comparing them. -/
theorem outcomes_of_parse {m n : Float} {e f : String} {order order' : Ordering}
    (hq : parse m e = .ok q) (hr : parse n f = .ok r)
    (hnumbers : ∀ s ∈ [q, r], s.magnitude.isFinite = true ∧ s.unit.scale.isFinite = true ∧
      (s.unit.scale == Scalar.ofNat 0) = false)
    (h : q.compare? r = some order ∧ r.compare? q = some order') :
    Outcomes (parse m e) (parse n f) order order' := by
  have hqn := numeric_of_parse hq (hnumbers q (List.mem_pair.2 (.inl rfl)))
  have hrn := numeric_of_parse hr (hnumbers r (List.mem_pair.2 (.inr rfl)))
  exact ⟨q, r, hq, hr, hqn, hrn, compare?_eq_some_iff.1 h.1, compare?_eq_some_iff.1 h.2⟩

/-- The two sides do not agree on all quantities. Next to the zero of a scale, the tolerance in that
scale is a narrow one, and what conversion rounds away exceeds it. Of two masses whose distance is
right at the tolerance, rounding brings it over the tolerance from one side only. What leaves the
range of the doubles when it is converted counts as equal to every number. -/
theorem compare_not_mirrored :
    Outcomes (parse (Scalar.ofNat 0) "degC") (parse (Scalar.ofDecimal 273.15000001) "K") .lt .eq ∧
      Outcomes (parse (Scalar.ofDecimal 3.4e-14) "degC") (parse (Scalar.ofDecimal 4e-14) "degC")
        .lt .lt ∧
      Outcomes (parse (Scalar.ofNat 27520) "kg") (parse (Scalar.ofDecimal 27520000.02752) "g")
        .eq .gt ∧
      Outcomes (parse (Scalar.ofNat 65510) "g") (parse (Scalar.ofDecimal 65510.000065509994) "g")
        .lt .eq ∧
      Outcomes (parse (Scalar.ofDecimal 1e308) "kJ") (parse (Scalar.ofNat 1) "kJ") .gt .eq := by
  refine ⟨?_, ?_, ?_, ?_, ?_⟩
  all_goals
    apply outcomes_of_parse rfl rfl
    · decide +kernel
    · decide +kernel

end Quantity

end ElementAtlas
