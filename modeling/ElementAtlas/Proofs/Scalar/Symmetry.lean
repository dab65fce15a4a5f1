import ElementAtlas.Proofs.Scalar.Tolerance

/-!
# Comparing doubles either way round

Where no conversion comes between them, two finite doubles compare the same either way round
(`compare_swap`): the difference taken either way is rounded to the same magnitude, and it is the
greater of the two that the tolerance is relative to. What is compared is numbers, so one zero may
stand for the other (`compare_congr`).
-/

namespace ElementAtlas.Double

open Float.Model Float.Model.UnpackedFloat

/-! ## Doubles and their numbers -/

/-- A number other than zero is told by one mantissa and one exponent. -/
theorem normalized_inj {m n : Nat} {e f : Int} (hm : Normalized m e) (hn : Normalized n f)
    (h : (m : Rat) * 2 ^ e = n * 2 ^ f) : m = n ∧ e = f := by
  have hcompare := compare_normalized hm hn
  rw [h, compare_eq_iff_eq.2 rfl, Ordering.then_eq_eq] at hcompare
  exact ⟨Nat.compare_eq_eq.1 hcompare.2, Int.compare_eq_eq.1 hcompare.1⟩

/-- Two normalized numbers are equal if they have the same value. -/
theorem finite_inj {s t : Sign} {m n : Nat} {e f : Int} {hm : 0 < m} {hn : 0 < n}
    (hu : Normalized m e) (hv : Normalized n f) (h : signed s (m * 2 ^ e) = signed t (n * 2 ^ f)) :
    UnpackedFloat.finite s m e hm = .finite t n f hn := by
  have hleft := mul_two_zpow_pos hm e
  have hright := mul_two_zpow_pos hn f
  have habs : (m : Rat) * 2 ^ e = n * 2 ^ f := by
    have habs := congrArg (fun x : Rat => |x|) h
    rwa [abs_signed, abs_signed, abs_of_pos hleft, abs_of_pos hright] at habs
  obtain ⟨rfl, rfl⟩ := normalized_inj hu hv habs
  cases s with
  | negative =>
    cases t with
    | negative => rfl
    | positive =>
      rw [signed, signed] at h
      linarith
  | positive =>
    cases t with
    | negative =>
      rw [signed, signed] at h
      linarith
    | positive => rfl

/-- A double whose value is not zero unpacks to a finite number other than zero. -/
theorem unpack_of_toRat_ne_zero {x : Float} (h : toRat x ≠ 0) :
    ∃ s m e hm, x.toModel.unpack = .finite s m e hm := by
  rw [toRat] at h
  cases hunpack : x.toModel.unpack with
  | finite s m e hm => exact ⟨s, m, e, hm, rfl⟩
  | zero s | infinity s | notANumber =>
    rw [hunpack] at h
    exact absurd rfl h

/-- A finite double whose value is zero unpacks to one of the two zeros. -/
theorem unpack_of_toRat_eq_zero {x : Float} (hx : x.isFinite = true) (h : toRat x = 0) :
    ∃ s, x.toModel.unpack = .zero s := by
  change x.toModel.unpack.isFinite = true at hx
  rw [toRat] at h
  cases hunpack : x.toModel.unpack with
  | zero s => exact ⟨s, rfl⟩
  | finite s m e hm =>
    have hpos := mul_two_zpow_pos hm e
    rw [hunpack, value, ← abs_eq_zero, abs_signed, abs_of_pos hpos] at h
    exact absurd h hpos.ne'
  | infinity s | notANumber =>
    rw [hunpack] at hx
    cases hx

/-- Finite doubles with one number are one double, unless the number is zero. -/
theorem eq_of_toRat {x y : Float} (hx : x.isFinite = true) (hy : y.isFinite = true)
    (h : toRat x = toRat y) (hne : toRat x ≠ 0) : x = y := by
  have hu := shaped_unpack hx
  have hv := shaped_unpack hy
  obtain ⟨s, m, e, hm, hleft⟩ := unpack_of_toRat_ne_zero hne
  obtain ⟨t, n, f, hn, hright⟩ := unpack_of_toRat_ne_zero (h ▸ hne)
  rw [toRat, toRat, hleft, hright] at h
  rw [hleft] at hu
  rw [hright] at hv
  rw [← ofModel_pack_unpack x, ← ofModel_pack_unpack y, hleft, hright, finite_inj hu hv h]

/-! ## Differences -/

/-- Rounding treats both signs alike. -/
theorem value_roundWithAccuracy_negative (m : Nat) (e : Int) (a : Accuracy) :
    value (roundWithAccuracy Format.binary64 .negative m e a) =
      -value (roundWithAccuracy Format.binary64 .positive m e a) := by
  unfold roundWithAccuracy
  dsimp only
  split
  · exact neg_zero.symm
  · rfl

/-- Normalizing treats both signs alike. -/
theorem value_normalize_neg (n e : Int) (s t : Sign) :
    value (normalize Format.binary64 (-n) e s) = -value (normalize Format.binary64 n e t) := by
  unfold Float.Model.UnpackedFloat.normalize
  rcases lt_trichotomy n 0 with h | rfl | h
  · rw [Int.compare_eq_lt.2 h, Int.compare_eq_gt.2 (Int.neg_pos_of_neg h), neg_eq_iff_eq_neg.symm]
    exact (value_roundWithAccuracy_negative _ _ _).symm
  · exact neg_zero.symm
  · rw [Int.compare_eq_gt.2 h, Int.compare_eq_lt.2 (Int.neg_neg_of_pos h), Int.neg_neg]
    exact value_roundWithAccuracy_negative _ _ _

/-- Exchanging the operands of a difference negates it. -/
theorem value_sub_comm {u v : UnpackedFloat} (hu : Shaped u) (hv : Shaped v) :
    value (sub Format.binary64 v u) = -value (sub Format.binary64 u v) := by
  match u, v, hu, hv with
  | .zero s, .zero t, _, _ => cases s <;> cases t <;> exact neg_zero.symm
  | .zero _, .finite s m e hm, _, _ =>
    exact (neg_eq_iff_eq_neg.2 (value_neg (.finite s m e hm))).symm
  | .finite s m e hm, .zero _, _, _ => exact value_neg (.finite s m e hm)
  | .finite s m e _, .finite t n f _, _, _ =>
    unfold Float.Model.UnpackedFloat.sub
    dsimp only
    rw [min_comm f e, ← Int.neg_sub]
    exact value_normalize_neg _ _ _ _

/-- The distance of two doubles is the same either way round. -/
theorem le_abs_sub_comm {x y z : Float} (hx : x.isFinite = true) (hy : y.isFinite = true)
    (hz : z.isFinite = true) :
    Scalar.le (Scalar.abs (x - y)) z = Scalar.le (Scalar.abs (y - x)) z := by
  have hu := shaped_unpack hx
  have hv := shaped_unpack hy
  have habs : |value (sub Format.binary64 y.toModel.unpack x.toModel.unpack)| =
      |value (sub Format.binary64 x.toModel.unpack y.toModel.unpack)| := by
    rw [value_sub_comm hu hv, abs_neg]
  rcases packed_shaped (roundsTo_sub hu hv).shaped with ⟨hlt, hfinite, hvalue⟩ | ⟨hge, s, hinf⟩
  · rcases packed_shaped (roundsTo_sub hv hu).shaped with ⟨-, hfinite', hvalue'⟩ | ⟨hge', -⟩
    · rw [Bool.eq_iff_iff]
      change Scalar.le (Scalar.abs (packed _)) z = true ↔ Scalar.le (Scalar.abs (packed _)) z = true
      rw [le_iff (isFinite_abs hfinite) hz, le_iff (isFinite_abs hfinite') hz, toRat_abs hfinite,
        toRat_abs hfinite', hvalue, hvalue', habs]
    · exact absurd hlt (not_lt.2 (habs ▸ hge'))
  · rcases packed_shaped (roundsTo_sub hv hu).shaped with ⟨hlt', -⟩ | ⟨-, t, hinf'⟩
    · exact absurd hlt' (not_lt.2 (habs.symm ▸ hge))
    · exact (le_abs_infinity hinf hz).trans (le_abs_infinity hinf' hz).symm

/-! ## Adding zero -/

/-- Adding a zero does not change the value. -/
@[simp] theorem value_add_zero (u : UnpackedFloat) (s : Sign) :
    value (add Format.binary64 u (.zero s)) = value u := by
  match u with
  | .zero t => cases s <;> cases t <;> rfl
  | .finite .. | .infinity _ | .notANumber => rfl

/-- The sum of a finite double and a zero is finite and has the value of the double. -/
theorem packed_add_zero {x : Float} (hx : x.isFinite = true) (s : Sign) :
    (packed (add Format.binary64 x.toModel.unpack (.zero s))).isFinite = true ∧
      toRat (packed (add Format.binary64 x.toModel.unpack (.zero s))) = toRat x := by
  have hvalue := value_add_zero x.toModel.unpack s
  have hlt := abs_toRat_lt x
  rcases packed_shaped (roundsTo_add (shaped_unpack hx) (v := .zero s) trivial).shaped with
    ⟨-, hfinite, heq⟩ | ⟨hge, -⟩
  · exact ⟨hfinite, heq.trans hvalue⟩
  · rw [hvalue] at hge
    exact absurd hlt (not_lt.2 hge)

/-- Adding a zero does not change the number that a double is. -/
theorem add_of_zero {x y : Float} (hx : x.isFinite = true) (hy : y.isFinite = true)
    (hzero : toRat y = 0) : (x + y).isFinite = true ∧ toRat (x + y) = toRat x := by
  obtain ⟨s, hunpack⟩ := unpack_of_toRat_eq_zero hy hzero
  change (packed (add _ x.toModel.unpack y.toModel.unpack)).isFinite = true ∧
    toRat (packed (add _ x.toModel.unpack y.toModel.unpack)) = _
  rw [hunpack]
  exact packed_add_zero hx s

/-- Subtracting a zero does not change the number that a double is. -/
theorem sub_of_zero {x y : Float} (hx : x.isFinite = true) (hy : y.isFinite = true)
    (hzero : toRat y = 0) : (x - y).isFinite = true ∧ toRat (x - y) = toRat x := by
  obtain ⟨s, hunpack⟩ := unpack_of_toRat_eq_zero hy hzero
  change (packed (sub _ x.toModel.unpack y.toModel.unpack)).isFinite = true ∧
    toRat (packed (sub _ x.toModel.unpack y.toModel.unpack)) = _
  rw [hunpack, sub_eq_add]
  exact packed_add_zero hx (-s)

/-! ## Comparing -/

/-- What a distance is compared to depends on the greater magnitude only. -/
theorem allowed_eq {x y x' y' : Float} (hx : x.isFinite = true) (hy : y.isFinite = true)
    (hx' : x'.isFinite = true) (hy' : y'.isFinite = true)
    (h : max |toRat x| |toRat y| = max |toRat x'| |toRat y'|)
    (hne : toRat x ≠ 0 ∨ toRat y ≠ 0) : allowed x y = allowed x' y' := by
  have hmax : Scalar.max (Scalar.abs x) (Scalar.abs y) =
      Scalar.max (Scalar.abs x') (Scalar.abs y') := by
    have hpos : 0 < max |toRat x| |toRat y| :=
      lt_max_iff.2 (hne.imp abs_pos.2 abs_pos.2)
    apply eq_of_toRat (isFinite_max (isFinite_abs hx) (isFinite_abs hy))
      (isFinite_max (isFinite_abs hx') (isFinite_abs hy'))
    · rw [toRat_max (isFinite_abs hx) (isFinite_abs hy),
        toRat_max (isFinite_abs hx') (isFinite_abs hy'), toRat_abs hx, toRat_abs hy, toRat_abs hx',
        toRat_abs hy', h]
    · rw [toRat_max (isFinite_abs hx) (isFinite_abs hy), toRat_abs hx, toRat_abs hy]
      exact hpos.ne'
  rw [allowed, allowed, hmax]

/-- Which of two finite doubles comes first does not matter for whether they are taken for equal. -/
theorem approxEq_comm {x y : Float} (hx : x.isFinite = true) (hy : y.isFinite = true) :
    Scalar.approxEq x y = Scalar.approxEq y x := by
  rw [Bool.eq_iff_iff, approxEq_iff hx hy, approxEq_iff hy hx]
  by_cases h : toRat x = toRat y
  · exact ⟨fun _ => .inl h.symm, fun _ => .inl h⟩
  · have hne : toRat x ≠ 0 ∨ toRat y ≠ 0 := by
      rw [← not_and_or]
      rintro ⟨hx0, hy0⟩
      exact h (hx0.trans hy0.symm)
    rw [allowed_eq hx hy hy hx (max_comm _ _) hne,
      le_abs_sub_comm hx hy (isFinite_allowed hy hx), eq_comm]

/-- Exchanging two finite doubles turns their order around. -/
theorem compare_swap {x y : Float} (hx : x.isFinite = true) (hy : y.isFinite = true) :
    Scalar.compare y x = (Scalar.compare x y).swap := by
  rw [Scalar.compare, Scalar.compare, approxEq_comm hy hx]
  split
  · rfl
  next hne =>
    have hne' : toRat x ≠ toRat y := fun heq => hne ((approxEq_iff hx hy).2 (.inl heq))
    rw [totalOrder_eq hx hy hne', totalOrder_eq hy hx hne'.symm, ← Std.OrientedCmp.eq_swap]

/-- Finite doubles with the same value have the order `.eq`. -/
theorem compare_eq_of_toRat_eq {x y : Float} (hx : x.isFinite = true) (hy : y.isFinite = true)
    (h : toRat x = toRat y) : Scalar.compare x y = .eq := by
  rw [Scalar.compare, (approxEq_iff hx hy).2 (.inl h), if_pos rfl]

/-- Doubles with one number compare alike. -/
theorem compare_congr {x y y' : Float} (hx : x.isFinite = true) (hy : y.isFinite = true)
    (hy' : y'.isFinite = true) (h : toRat y = toRat y') :
    Scalar.compare x y = Scalar.compare x y' := by
  rcases eq_or_ne (toRat y) 0 with hzero | hne
  · rcases eq_or_ne (toRat x) 0 with hx0 | hne
    · rw [compare_eq_of_toRat_eq hx hy (hx0.trans hzero.symm),
        compare_eq_of_toRat_eq hx hy' (hx0.trans (h.symm.trans hzero).symm)]
    · have hsub {z : Float} (hz : z.isFinite = true) (hzero : toRat z = 0) : x - z = x := by
        obtain ⟨hfinite, hvalue⟩ := sub_of_zero hx hz hzero
        exact eq_of_toRat hfinite hx hvalue (hvalue ▸ hne)
      have happrox : Scalar.approxEq x y = Scalar.approxEq x y' := by
        rw [Bool.eq_iff_iff, approxEq_iff hx hy, approxEq_iff hx hy', h,
          hsub hy hzero, hsub hy' (h.symm.trans hzero),
          allowed_eq hx hy hx hy' (by rw [h]) (.inl hne)]
      have hxy : toRat x ≠ toRat y := hzero ▸ hne
      rw [Scalar.compare, Scalar.compare, happrox, totalOrder_eq hx hy hxy,
        totalOrder_eq hx hy' (h ▸ hxy), h]
  · rw [eq_of_toRat hy hy' h hne]

end ElementAtlas.Double
