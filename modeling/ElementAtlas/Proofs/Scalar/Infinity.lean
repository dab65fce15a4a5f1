import ElementAtlas.Proofs.Scalar.Tolerance

/-!
# Infinite doubles

An infinity stays one when a finite double is added to it or subtracted from it, and when it is
multiplied or divided by a positive one. A distance from an infinity is infinite, and so is the
tolerance relative to it, since that is a multiple of the greater magnitude: an infinite double
counts as equal to every number, also to the other infinity (`approxEq_of_infinite`), although
without the tolerance it has its place before or after all others (`exists_order_of_infinite`). So
all doubles have an order but those that are no numbers (`exists_order`).
-/

namespace ElementAtlas.Double

open Float.Model Float.Model.UnpackedFloat

variable {x y : Float} {s t : Sign}

/-! ## Infinities and what is no number -/

/-- A double is infinite if it unpacks to an infinity. -/
theorem isInf_iff : x.isInf = true ↔ ∃ s, x.toModel.unpack = .infinity s := by
  change x.toModel.unpack.isInf = true ↔ _
  cases x.toModel.unpack with
  | infinity s => exact iff_of_true rfl ⟨s, rfl⟩
  | zero s | finite s m e hm | notANumber => exact iff_of_false Bool.false_ne_true nofun

/-- A double is no number if what it unpacks to is none. -/
theorem isNaN_iff : x.isNaN = true ↔ x.toModel.unpack = .notANumber := by
  change x.toModel.unpack.isNaN = true ↔ _
  cases x.toModel.unpack with
  | notANumber => exact iff_of_true rfl rfl
  | zero s | finite s m e hm | infinity s => exact iff_of_false Bool.false_ne_true nofun

/-- An infinity is packed as itself. -/
theorem unpack_packed_infinity {u : UnpackedFloat} (h : u = .infinity s) :
    (packed u).toModel.unpack = .infinity s := by
  subst h
  exact unpack_pack trivial

/-- A number above zero is finite and has a positive sign. -/
theorem unpack_of_pos (h : 0 < toRat x) :
    ∃ (m : Nat) (e : Int) (hm : 0 < m), x.toModel.unpack = .finite .positive m e hm := by
  rw [toRat] at h
  cases hunpack : x.toModel.unpack with
  | finite s m e hm =>
    cases s with
    | positive => exact ⟨m, e, hm, rfl⟩
    | negative =>
      rw [hunpack] at h
      have hneg : 0 < -((m : Rat) * 2 ^ e) := h
      linarith [mul_two_zpow_pos hm e]
  | zero s | infinity s | notANumber =>
    rw [hunpack] at h
    exact absurd h (lt_irrefl _)

/-! ## Arithmetic -/

/-- An infinity times a positive number is the infinity. -/
theorem mul_of_infinity (hx : x.toModel.unpack = .infinity s) (hy : 0 < toRat y) :
    (x * y).toModel.unpack = .infinity s := by
  obtain ⟨m, e, hm, hy⟩ := unpack_of_pos hy
  change (packed (mul Format.binary64 x.toModel.unpack y.toModel.unpack)).toModel.unpack = _
  rw [hx, hy]
  exact unpack_packed_infinity (congrArg UnpackedFloat.infinity (sign_mul_positive s))

/-- A positive number times an infinity is the infinity. -/
theorem mul_infinity (hx : 0 < toRat x) (hy : y.toModel.unpack = .infinity s) :
    (x * y).toModel.unpack = .infinity s := by
  obtain ⟨m, e, hm, hx⟩ := unpack_of_pos hx
  change (packed (mul Format.binary64 x.toModel.unpack y.toModel.unpack)).toModel.unpack = _
  rw [hx, hy]
  exact unpack_packed_infinity (congrArg UnpackedFloat.infinity (positive_mul_sign s))

/-- An infinity divided by a positive number is the infinity. -/
theorem div_of_infinity (hx : x.toModel.unpack = .infinity s) (hy : 0 < toRat y) :
    (x / y).toModel.unpack = .infinity s := by
  obtain ⟨m, e, hm, hy⟩ := unpack_of_pos hy
  change (packed (div Format.binary64 x.toModel.unpack y.toModel.unpack)).toModel.unpack = _
  rw [hx, hy]
  exact unpack_packed_infinity (congrArg UnpackedFloat.infinity (sign_div_positive s))

/-- An infinity stays one when a finite number is added. -/
theorem add_of_infinity (hx : x.toModel.unpack = .infinity s) (hy : y.isFinite = true) :
    (x + y).toModel.unpack = .infinity s := by
  change y.toModel.unpack.isFinite = true at hy
  change (packed (add Format.binary64 x.toModel.unpack y.toModel.unpack)).toModel.unpack = _
  rw [hx]
  cases hunpack : y.toModel.unpack with
  | zero t | finite t m e hm => exact unpack_packed_infinity rfl
  | infinity t | notANumber =>
    rw [hunpack] at hy
    cases hy

/-- An infinity stays one when a finite number is subtracted. -/
theorem sub_of_infinity (hx : x.toModel.unpack = .infinity s) (hy : y.isFinite = true) :
    (x - y).toModel.unpack = .infinity s := by
  change y.toModel.unpack.isFinite = true at hy
  change (packed (sub Format.binary64 x.toModel.unpack y.toModel.unpack)).toModel.unpack = _
  rw [hx]
  cases hunpack : y.toModel.unpack with
  | zero t | finite t m e hm => exact unpack_packed_infinity rfl
  | infinity t | notANumber =>
    rw [hunpack] at hy
    cases hy

/-- The difference of two numbers that differ is infinite if one of them is. -/
theorem isInf_unpacked_sub {u v : UnpackedFloat} (hu : u.isNaN = false) (hv : v.isNaN = false)
    (hinf : u.isInf = true ∨ v.isInf = true)
    (hne : (UnpackedFloat.compare u v == some .eq) = false) :
    (sub Format.binary64 u v).isInf = true := by
  match u, v, hu, hv, hinf, hne with
  | .infinity .positive, .infinity .positive, _, _, _, hne
  | .infinity .negative, .infinity .negative, _, _, _, hne => cases hne
  | .infinity .positive, .infinity .negative, _, _, _, _
  | .infinity .negative, .infinity .positive, _, _, _, _ => rfl
  | .infinity _, .zero _, _, _, _, _ | .infinity _, .finite .., _, _, _, _ => rfl
  | .zero _, .infinity _, _, _, _, _ | .finite .., .infinity _, _, _, _, _ => rfl
  | .zero _, .zero _, _, _, hinf, _ | .zero _, .finite .., _, _, hinf, _
  | .finite .., .zero _, _, _, hinf, _ | .finite .., .finite .., _, _, hinf, _ =>
    exact absurd hinf (by simp [UnpackedFloat.isInf])

/-- The distance from an infinity is infinite, unless the other one is the same or no number. -/
theorem isInf_sub (hx : x.isNaN = false) (hy : y.isNaN = false)
    (hinf : x.isInf = true ∨ y.isInf = true) (hne : (x == y) = false) : (x - y).isInf = true := by
  have hsub : (sub Format.binary64 x.toModel.unpack y.toModel.unpack).isInf = true :=
    isInf_unpacked_sub hx hy hinf hne
  cases hunpack : sub Format.binary64 x.toModel.unpack y.toModel.unpack with
  | infinity s => exact isInf_iff.2 ⟨s, unpack_packed_infinity hunpack⟩
  | zero s | finite s m e hm | notANumber =>
    rw [hunpack] at hsub
    cases hsub

/-! ## Magnitudes -/

/-- Every number is at most the positive infinity. -/
theorem le_infinity (hx : x.isNaN = false) (hy : y.toModel.unpack = .infinity .positive) :
    Scalar.le x y = true := by
  change x.toModel.unpack.isNaN = false at hx
  rw [le_of_unpack rfl hy]
  match x.toModel.unpack, hx with
  | .infinity s, _ => cases s <;> rfl
  | .zero _, _ => rfl
  | .finite s m e _, _ => cases s <;> rfl

/-- The absolute value of a number is a number. -/
theorem isNaN_abs (hx : x.isNaN = false) : (Scalar.abs x).isNaN = false := by
  unfold Scalar.abs
  split
  · exact hx
  · change (-x).toModel.unpack.isNaN = false
    change x.toModel.unpack.isNaN = false at hx
    rw [unpack_neg]
    match x.toModel.unpack, hx with
    | .infinity _, _ | .zero _, _ | .finite .., _ => rfl

/-- The greater of two numbers is infinite if one of them is, and above zero. -/
theorem unpack_max_infinity (hx : x.isNaN = false)
    (h : x.toModel.unpack = .infinity .positive ∨ y.toModel.unpack = .infinity .positive) :
    (Scalar.max x y).toModel.unpack = .infinity .positive := by
  unfold Scalar.max
  rcases h with hinf | hinf
  · split
    next hle =>
      rw [le_of_unpack hinf rfl] at hle
      match hunpack : y.toModel.unpack with
      | .infinity .positive => rfl
      | .infinity .negative | .zero _ | .finite .. | .notANumber =>
        rw [hunpack] at hle
        cases hle
    next => exact hinf
  · rw [if_pos (le_infinity hx hinf)]
    exact hinf

/-! ## The tolerance -/

/-- Within the tolerance an infinity equals every number. -/
theorem approxEq_of_infinite (hx : x.isNaN = false) (hy : y.isNaN = false)
    (hinf : x.isInf = true ∨ y.isInf = true) : Scalar.approxEq x y = true := by
  rw [Scalar.approxEq, Bool.or_eq_true, or_iff_not_imp_left, Bool.not_eq_true]
  intro hne
  obtain ⟨s, hdistance⟩ := isInf_iff.1 (isInf_sub hx hy hinf hne)
  have hmax : (Scalar.max (Scalar.abs x) (Scalar.abs y)).toModel.unpack = .infinity .positive := by
    apply unpack_max_infinity (isNaN_abs hx)
    rw [isInf_iff, isInf_iff] at hinf
    rcases hinf with ⟨s, hunpack⟩ | ⟨s, hunpack⟩
    · exact .inl (unpack_abs_infinity hunpack)
    · exact .inr (unpack_abs_infinity hunpack)
  have hallowed := mul_infinity tolerance_bounds.1 hmax
  rw [le_of_unpack (unpack_abs_infinity hdistance) hallowed]
  rfl

/-- An infinity is not before or after any number. -/
theorem compare_of_infinite (hx : x.isNaN = false) (hy : y.isNaN = false)
    (hinf : x.isInf = true ∨ y.isInf = true) : Scalar.compare x y = .eq := by
  rw [Scalar.compare, if_pos (approxEq_of_infinite hx hy hinf)]

/-! ## The order without a tolerance -/

/-- Every number is at least the negative infinity. -/
theorem infinity_le (hx : x.toModel.unpack = .infinity .negative) (hy : y.isNaN = false) :
    Scalar.le x y = true := by
  change y.toModel.unpack.isNaN = false at hy
  rw [le_of_unpack hx rfl]
  match y.toModel.unpack, hy with
  | .infinity s, _ => cases s <;> rfl
  | .zero _, _ => rfl
  | .finite s m e _, _ => cases s <;> rfl

/-- Two numbers of which one is infinite stand below each other one way or the other. -/
theorem le_total_of_infinite (hx : x.isNaN = false) (hy : y.isNaN = false)
    (hinf : x.isInf = true ∨ y.isInf = true) : Scalar.le x y = true ∨ Scalar.le y x = true := by
  rw [isInf_iff, isInf_iff] at hinf
  rcases hinf with ⟨s, hunpack⟩ | ⟨s, hunpack⟩
  · cases s with
    | positive => exact .inr (le_infinity hy hunpack)
    | negative => exact .inl (infinity_le hunpack hy)
  · cases s with
    | positive => exact .inl (le_infinity hx hunpack)
    | negative => exact .inr (infinity_le hunpack hx)

/-- Two numbers that `le` orders have an order. -/
theorem exists_order_of_le (h : Scalar.le x y = true ∨ Scalar.le y x = true) :
    ∃ order, Scalar.compare? x y = some order ∧ (order = .eq ↔ (x == y) = true) := by
  rw [Scalar.compare?]
  split_ifs with hequal hle hge
  · exact ⟨.eq, rfl, iff_of_true rfl hequal⟩
  · exact ⟨.lt, rfl, iff_of_false nofun hequal⟩
  · exact ⟨.gt, rfl, iff_of_false nofun hequal⟩
  · exact absurd h (not_or.2 ⟨hle, hge⟩)

/-- An infinity has its place before or after every other number. -/
theorem exists_order_of_infinite (hx : x.isNaN = false) (hy : y.isNaN = false)
    (hinf : x.isInf = true ∨ y.isInf = true) :
    ∃ order, Scalar.compare? x y = some order ∧ (order = .eq ↔ (x == y) = true) :=
  exists_order_of_le (le_total_of_infinite hx hy hinf)

/-- A number that is not infinite is finite. -/
theorem isFinite_of_not_isInf (hx : x.isNaN = false) (hinf : ¬ x.isInf = true) :
    x.isFinite = true := by
  change x.toModel.unpack.isNaN = false at hx
  change ¬ x.toModel.unpack.isInf = true at hinf
  change x.toModel.unpack.isFinite = true
  match x.toModel.unpack, hx, hinf with
  | .zero _, _, _ | .finite .., _, _ => rfl
  | .infinity _, _, hinf => exact absurd rfl hinf

/-- Any two numbers have an order. -/
theorem exists_order (hx : x.isNaN = false) (hy : y.isNaN = false) :
    ∃ order, Scalar.compare? x y = some order := by
  by_cases hinf : x.isInf = true ∨ y.isInf = true
  · obtain ⟨order, horder, -⟩ := exists_order_of_infinite hx hy hinf
    exact ⟨order, horder⟩
  · obtain ⟨hxinf, hyinf⟩ := not_or.1 hinf
    have hxfinite := isFinite_of_not_isInf hx hxinf
    have hyfinite := isFinite_of_not_isInf hy hyinf
    have htotal := le_total (toRat x) (toRat y)
    rw [← le_iff hxfinite hyfinite, ← le_iff hyfinite hxfinite] at htotal
    obtain ⟨order, horder, -⟩ := exists_order_of_le htotal
    exact ⟨order, horder⟩

end ElementAtlas.Double
