import ElementAtlas.Proofs.Quantity.BaseValues
import ElementAtlas.Proofs.Query.Stability
import Mathlib.Order.Monotone.Basic

/-!
# Ranges of temperatures

An element that is stable at both ends of a range is stable in all of it, although the comparisons
allow for a relative error. Over the rationals a number is below another by more than the error if and
only if the difference is, and it stays so when the other one grows, since the error grows more slowly
(`Scalar.compare_lt_of_le`). Conversion from one unit to another keeps or reverses the order, so a
temperature in the range is converted to one between those of the ends.
-/

namespace ElementAtlas

/-! ## Comparing rationals -/

namespace Scalar

@[simp] theorem rat_abs (x : Rat) : abs x = |x| := by
  rw [abs, rat_ofNat_zero]
  split_ifs with h
  · exact (abs_of_nonneg (of_decide_eq_true h)).symm
  · exact (abs_of_neg (not_le.1 fun hle => h (decide_eq_true hle))).symm

@[simp] theorem rat_max (x y : Rat) : max x y = Max.max x y := by
  rw [max]
  split_ifs with h
  · exact (max_eq_right (of_decide_eq_true h)).symm
  · exact (max_eq_left (not_le.1 fun hle => h (decide_eq_true hle)).le).symm

/-- The error that a comparison allows for. -/
def leeway (x y : Rat) : Rat := tolerance * Max.max |x| |y|

/-- The tolerance is a fraction. -/
theorem tolerance_bounds : (0 : Rat) ≤ tolerance ∧ (tolerance : Rat) ≤ 1 := by
  decide +kernel

variable {x y z : Rat}

/-- The leeway of two numbers is never negative. -/
theorem leeway_nonneg (x y : Rat) : 0 ≤ leeway x y :=
  mul_nonneg tolerance_bounds.1 (le_max_of_le_left (abs_nonneg x))

/-- The error grows no faster than the numbers. -/
theorem leeway_le (x y z : Rat) : leeway x z ≤ leeway x y + |z - y| := by
  have hmax : Max.max |x| |z| ≤ Max.max |x| |y| + |z - y| := by
    have hz : |z| ≤ |y| + |z - y| := by
      have := abs_add_le y (z - y)
      rwa [add_sub_cancel] at this
    exact max_le (le_add_of_le_of_nonneg (le_max_left _ _) (abs_nonneg _))
      (hz.trans (add_le_add_left (le_max_right _ _) _))
  calc leeway x z ≤ tolerance * (Max.max |x| |y| + |z - y|) :=
        mul_le_mul_of_nonneg_left hmax tolerance_bounds.1
    _ = leeway x y + tolerance * |z - y| := mul_add _ _ _
    _ ≤ leeway x y + |z - y| :=
        add_le_add_right (mul_le_of_le_one_left (abs_nonneg _) tolerance_bounds.2) _

/-- Rationals are taken for equal if they differ by no more than their leeway. -/
theorem rat_approxEq_iff : approxEq x y = true ↔ |x - y| ≤ leeway x y := by
  have hle : le (abs (x - y)) (tolerance * max (abs x) (abs y)) = decide (|x - y| ≤ leeway x y) := by
    rw [rat_abs, rat_abs, rat_abs, rat_max]
    rfl
  rw [approxEq, hle, Bool.or_eq_true, decide_eq_true_iff, beq_iff_eq]
  constructor
  · rintro (rfl | h)
    · rw [sub_self, abs_zero]
      exact leeway_nonneg x x
    · exact h
  · exact .inr

/-- One number is below another by more than the error, or above it, or they are equal. -/
theorem rat_compare_eq (x y : Rat) : compare x y =
    if leeway x y < y - x then .lt else if leeway x y < x - y then .gt else .eq := by
  have hnonneg := leeway_nonneg x y
  rw [compare]
  split_ifs with h hlt hgt hlt hgt
  · rw [rat_approxEq_iff, abs_sub_comm] at h
    exact absurd hlt (not_lt.2 ((le_abs_self _).trans h))
  · rw [rat_approxEq_iff] at h
    exact absurd hgt (not_lt.2 ((le_abs_self _).trans h))
  · rfl
  · have hxy : x < y := sub_pos.1 (hnonneg.trans_lt hlt)
    exact if_pos hxy
  · have hyx : y < x := sub_pos.1 (hnonneg.trans_lt hgt)
    exact (if_neg hyx.not_gt).trans (if_neg hyx.ne')
  · have hnear : |x - y| ≤ leeway x y :=
      abs_le.2 ⟨by linarith [not_lt.1 hlt], not_lt.1 hgt⟩
    exact absurd (rat_approxEq_iff.2 hnear) h

/-- A number is less than another one if it is so by more than the leeway. -/
theorem rat_compare_eq_lt_iff : compare x y = .lt ↔ leeway x y < y - x := by
  rw [rat_compare_eq]
  split_ifs with hlt hgt <;> simp [hlt]

/-- A number is greater than another one if it is so by more than the leeway. -/
theorem rat_compare_eq_gt_iff : compare x y = .gt ↔ leeway x y < x - y := by
  have hnonneg := leeway_nonneg x y
  rw [rat_compare_eq]
  split_ifs with hlt hgt
  · have hnot : ¬ leeway x y < x - y := by linarith
    simp [hnot]
  · simp [hgt]
  · simp [hgt]

/-- A number that is below another is below every greater one. -/
theorem compare_lt_of_le (h : compare x y = .lt) (hle : y ≤ z) : compare x z = .lt := by
  rw [rat_compare_eq_lt_iff] at h ⊢
  have hgrowth := leeway_le x y z
  rw [abs_of_nonneg (sub_nonneg.2 hle)] at hgrowth
  linarith

/-- A number that is above another is above every smaller one. -/
theorem compare_gt_of_le (h : compare x y = .gt) (hle : z ≤ y) : compare x z = .gt := by
  rw [rat_compare_eq_gt_iff] at h ⊢
  have hgrowth := leeway_le x y z
  rw [abs_sub_comm, abs_of_nonneg (sub_nonneg.2 hle)] at hgrowth
  linarith

end Scalar

/-! ## Converting a range -/

/-- Conversion keeps the order of magnitudes or reverses it. -/
theorem PhysicalUnit.monotone_or_antitone (u v : PhysicalUnit Rat) :
    (Monotone fun x => v.ofBase (u.toBase x)) ∨ Antitone fun x => v.ofBase (u.toBase x) := by
  have hconvert (x : Rat) : v.ofBase (u.toBase x) =
      x * (u.scale / v.scale) + (u.zero - v.zero) / v.scale := by
    rw [toBase_eq, ofBase_eq]
    ring
  rcases le_total 0 (u.scale / v.scale) with hscale | hscale
  · left
    intro x y hxy
    simp only [hconvert]
    exact add_le_add_left (mul_le_mul_of_nonneg_right hxy hscale) _
  · right
    intro x y hxy
    simp only [hconvert]
    exact add_le_add_left (mul_le_mul_of_nonpos_right hxy hscale) _

namespace Quantity

variable {q : Quantity Rat} {u : PhysicalUnit Rat} {lo t hi : Rat}

/-- What is below both ends of a range is below all of it. -/
theorem compare_lt_between (hlo : lo ≤ t) (hhi : t ≤ hi) (h : q.compare ⟨lo, u⟩ = .ok .lt)
    (h' : q.compare ⟨hi, u⟩ = .ok .lt) : q.compare ⟨t, u⟩ = .ok .lt := by
  obtain ⟨hcompatible, horder⟩ := compare_eq_ok_iff.1 h
  obtain ⟨-, horder'⟩ := compare_eq_ok_iff.1 h'
  refine compare_eq_ok_iff.2 ⟨hcompatible, ?_⟩
  rcases PhysicalUnit.monotone_or_antitone u q.unit with hmono | hanti
  · exact Scalar.compare_lt_of_le horder (hmono hlo)
  · exact Scalar.compare_lt_of_le horder' (hanti hhi)

/-- What is above both ends of a range is above all of it. -/
theorem compare_gt_between (hlo : lo ≤ t) (hhi : t ≤ hi) (h : q.compare ⟨lo, u⟩ = .ok .gt)
    (h' : q.compare ⟨hi, u⟩ = .ok .gt) : q.compare ⟨t, u⟩ = .ok .gt := by
  obtain ⟨hcompatible, horder⟩ := compare_eq_ok_iff.1 h
  obtain ⟨-, horder'⟩ := compare_eq_ok_iff.1 h'
  refine compare_eq_ok_iff.2 ⟨hcompatible, ?_⟩
  rcases PhysicalUnit.monotone_or_antitone u q.unit with hmono | hanti
  · exact Scalar.compare_gt_of_le horder' (hmono hhi)
  · exact Scalar.compare_gt_of_le horder (hanti hlo)

end Quantity

/-! ## Stable ranges -/

/-- An element that is stable at both ends of a range is stable between them. -/
theorem Element.StableAt.between {ρ : Type} {e : Element Rat ρ} {u : PhysicalUnit Rat}
    {lo t hi : Rat} (hlo : lo ≤ t) (hhi : t ≤ hi) (h : e.StableAt ⟨lo, u⟩)
    (h' : e.StableAt ⟨hi, u⟩) : e.StableAt ⟨t, u⟩ where
  low transition htransition :=
    Quantity.compare_lt_between hlo hhi (h.low transition htransition) (h'.low transition htransition)
  high transition htransition :=
    Quantity.compare_gt_between hlo hhi (h.high transition htransition)
      (h'.high transition htransition)

/-- To be stable over a range is to be stable at each temperature in it. -/
theorem Predicate.stableOver_iff_forall (atlas : Atlas Rat) (m : Member Rat) (u : PhysicalUnit Rat)
    {lo hi : Rat} (h : lo ≤ hi) :
    (stableOver ⟨lo, u⟩ ⟨hi, u⟩).evaluate atlas m = .ok true ↔
      ∀ t, lo ≤ t → t ≤ hi → (stableAt ⟨t, u⟩).evaluate atlas m = .ok true := by
  simp only [evaluate_stableOver_eq_true, evaluate_stableAt_eq_true]
  constructor
  · rintro ⟨hstable, hstable'⟩ t hlo hhi
    exact hstable.between hlo hhi hstable'
  · intro hall
    exact ⟨hall lo le_rfl h, hall hi h le_rfl⟩

/-- Between 10 and 90 degrees, water is stable throughout. -/
theorem Predicate.stableOver_iff_forall_sample :
    ∃ (atlas : Atlas Rat) (water : Member Rat) (celsius : PhysicalUnit Rat), atlas.Loaded ∧
      atlas.get? water.id = some water ∧ water.element.name = "Water" ∧
      PhysicalUnit.parse "degC" = .ok celsius ∧ (10 : Rat) ≤ 90 ∧
      (stableOver ⟨10, celsius⟩ ⟨90, celsius⟩).evaluate atlas water = .ok true ∧
      ∀ t, 10 ≤ t → t ≤ 90 → (stableAt ⟨t, celsius⟩).evaluate atlas water = .ok true := by
  have hsample : (Sample.atlas : Except LoadError (Atlas Rat)).toOption.map (fun atlas =>
      (atlas.get? ⟨1⟩).bind fun water =>
        (PhysicalUnit.parse "degC").toOption.map fun celsius =>
          (water.element.name,
            ((stableOver ⟨10, celsius⟩ ⟨90, celsius⟩).evaluate atlas water).toOption)) =
      some (some ("Water", some true)) := by
    decide +kernel
  obtain ⟨atlas, hloaded, hmember⟩ := Sample.exists_loaded hsample
  obtain ⟨water, hwater, hmember⟩ := Option.bind_eq_some_iff.1 hmember
  obtain ⟨celsius, hcelsius, hresult⟩ := Option.map_eq_some_iff.1 hmember
  obtain ⟨hname, hover⟩ := Prod.mk.inj hresult
  have hat : atlas.get? water.id = some water := (Value.id_eq_of_get? hwater).symm ▸ hwater
  have hstable := Attempt.toOption_eq_some_iff.1 hover
  have hends : (10 : Rat) ≤ 90 := by norm_num
  exact ⟨atlas, water, celsius, hloaded, hat, hname, Attempt.toOption_eq_some_iff.1 hcelsius, hends,
    hstable, (stableOver_iff_forall atlas water celsius hends).1 hstable⟩

end ElementAtlas
