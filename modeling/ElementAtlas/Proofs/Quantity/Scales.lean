import ElementAtlas.Proofs.PhysicalUnit.Conversion
import ElementAtlas.Proofs.Quantity.Typing
import ElementAtlas.Proofs.Scalar.Sign

/-!
# The scales of units along every run

The scale of a unit is put together from the scales of known units and from the numbers of unit
expressions, by multiplying and dividing. So what holds of the decimals and is kept by products and
quotients (`Scalar.Kept`) holds of the scale of every unit that is reached (`Reached.scale`).
-/

namespace ElementAtlas

open UnitExpression

variable {α : Type} [Scalar α]

/-- A property that all decimals have, and that products and quotients keep. -/
structure Scalar.Kept (P : α → Prop) : Prop where
  ofDecimal : ∀ d : Decimal, P (Scalar.ofDecimal d)
  mul : ∀ {x y : α}, P x → P y → P (x * y)
  div : ∀ {x y : α}, P x → P y → P (x / y)

namespace Scalar.Kept

variable {P : α → Prop} (hP : Kept P)
include hP

/-! ## Powers -/

/-- Multiplying by powers keeps the property. -/
theorem mulPower {r a : α} (hr : P r) (ha : P a) (n : Nat) : P (Scalar.mulPower r a n) := by
  induction n using Nat.strong_induction_on generalizing r a with
  | h n ih =>
    rw [Scalar.mulPower]
    split
    · exact hr
    next hne =>
      have hhalf := Nat.div_lt_self (Nat.pos_of_ne_zero hne) (by decide : 1 < 2)
      apply ih _ hhalf _ (hP.mul ha ha)
      split
      · exact hP.mul hr ha
      · exact hr

/-- Natural powers keep the property. -/
theorem powerNat {a : α} (ha : P a) (n : Nat) : P (Scalar.powerNat a n) := by
  induction n using Nat.strong_induction_on generalizing a with
  | h n ih =>
    rw [Scalar.powerNat]
    split
    · exact hP.ofDecimal _
    next hne =>
      split
      · exact hP.mulPower ha (hP.mul ha ha) _
      · exact ih _ (Nat.div_lt_self (Nat.pos_of_ne_zero hne) (by decide)) (hP.mul ha ha)

/-- Powers keep the property. -/
theorem power {a : α} (ha : P a) (n : Int) : P (Scalar.power a n) := by
  rw [Scalar.power]
  split
  · exact hP.div (hP.ofDecimal _) (hP.powerNat ha _)
  · exact hP.powerNat ha _

/-! ## Unit expressions -/

/-- The scales of known units have the property. -/
theorem known {name : String} {unit : KnownUnit α} (h : KnownUnit.find? name = some unit) :
    P unit.scale := by
  have hall : ∀ unit ∈ (KnownUnit.temperatures ++ KnownUnit.multiples : List (KnownUnit α)),
      P unit.scale := by
    have hfahrenheit : P KnownUnit.fahrenheit := hP.div (hP.ofDecimal _) (hP.ofDecimal _)
    have hone : P (Scalar.ofNat 1) := hP.ofDecimal _
    simp [KnownUnit.temperatures, KnownUnit.multiples, KnownUnit.multiple, hfahrenheit, hone,
      hP.ofDecimal]
  exact hall unit (List.mem_of_find?_eq_some h)

/-- The scale of a name or number has the property. -/
theorem names {term : Term α} {s r : List Char} (h : Names term s r) : P term.scale := by
  cases h with
  | unit _ _ _ hfind => exact hP.known hfind
  | number => exact hP.ofDecimal _

/-- The scale of every part of an expression has the property. -/
theorem spells {part : Part} {e : UnitExpression.Tree α} {s r : List Char}
    (h : Spells part e s r) : P e.scale := by
  induction h with
  | leaf hnames => exact hP.names hnames
  | group _ _ _ ih | plain _ ih | single _ ih => exact ih
  | raised _ _ ih => exact hP.power ih _
  | @join left right separator _ _ _ _ _ _ _ ihl ihr =>
    cases separator with
    | times => exact hP.mul ihl ihr
    | «over» => exact hP.div ihl ihr

/-- The scale of every unit that is parsed has the property. -/
theorem parse {expression : String} {u : PhysicalUnit α}
    (h : PhysicalUnit.parse expression = .ok u) : P u.scale := by
  cases PhysicalUnit.parse_eq_ok_iff.1 h with
  | blank => exact hP.ofDecimal _
  | known _ hfind => exact hP.known hfind
  | spelled _ hspells hdenotes =>
    rw [PhysicalUnit.linear, hdenotes.scale]
    exact hP.spells hspells

/-! ## Runs -/

/-- The scale of a product of units has the property. -/
theorem unitMul {u v w : PhysicalUnit α} (hu : P u.scale) (hv : P v.scale)
    (h : u.mul v = .ok w) : P w.scale := by
  obtain ⟨_, -, rfl⟩ := PhysicalUnit.ofParts_eq_ok_iff.1 h
  exact hP.mul hu hv

/-- The scale of a quotient of units has the property. -/
theorem unitDiv {u v w : PhysicalUnit α} (hu : P u.scale) (hv : P v.scale)
    (h : u.div v = .ok w) : P w.scale := by
  obtain ⟨_, -, rfl⟩ := PhysicalUnit.ofParts_eq_ok_iff.1 h
  exact hP.div hu hv

/-- The scale of every quantity that is reached has the property. -/
theorem reached {a : Quantity α} (h : a.Reached) : P a.unit.scale := by
  induction h with
  | parse hparse => exact hP.parse (Quantity.parse_unit hparse)
  | withUnit _ _ ih | scale _ _ ih | unscale _ _ ih => exact ih
  | convertTo _ hconvert _ => exact hP.parse (Quantity.parse_unit_of_convertTo hconvert)
  | convert _ _ hconvert _ ih =>
    rw [Quantity.unit_of_convert hconvert]
    exact ih
  | @toBaseUnit a _ _ =>
    rw [Quantity.toBaseUnit]
    split
    · exact hP.ofDecimal _
    · exact hP.ofDecimal _
  | toInterval _ ih =>
    rw [Quantity.toInterval, PhysicalUnit.scale_interval]
    exact ih
  | add _ _ hadd ihl ihr =>
    rw [Quantity.unit_of_add hadd]
    split
    · exact ihr
    · exact ihl
  | sub _ _ hsub ihl _ =>
    rw [Quantity.unit_of_sub hsub]
    split
    · rw [PhysicalUnit.scale_interval]
      exact ihl
    · exact ihl
  | mul _ _ hmul ihl ihr =>
    obtain ⟨-, u, hu, rfl⟩ := Quantity.mul_eq_ok_iff.1 hmul
    exact hP.unitMul ihl ihr hu
  | div _ _ hdiv ihl ihr =>
    obtain ⟨-, u, hu, rfl⟩ := Quantity.div_eq_ok_iff.1 hdiv
    exact hP.unitDiv ihl ihr hu
  | unitMul _ _ _ hu ihl ihr => exact hP.unitMul ihl ihr hu
  | unitDiv _ _ _ hu ihl ihr => exact hP.unitDiv ihl ihr hu
  | unitPow _ _ hu ih =>
    obtain ⟨_, -, rfl⟩ := PhysicalUnit.ofParts_eq_ok_iff.1 hu
    exact hP.power ih _

end Scalar.Kept

/-! ## Doubles -/

/-- Doubles without a sign are kept by decimals, products and quotients. -/
theorem Double.kept_unsigned : Scalar.Kept fun x : Float => Unsigned x.toModel.unpack where
  ofDecimal := unsigned_ofDecimal
  mul hx hy := unsigned_packed (unsigned_mul hx hy)
  div hx hy := unsigned_packed (unsigned_div hx hy)

/-- The offsets of the temperature scales are numbers. -/
theorem KnownUnit.isFinite_offset {name interval : String} {unit : KnownUnit Float} {offset : Float}
    (h : KnownUnit.find? name = some unit) (horigin : unit.origin = .absolute offset interval) :
    offset.isFinite = true := by
  obtain ⟨-, scale, hscale, hfind⟩ := KnownUnit.scale_of_absolute h horigin
  simp only [KnownUnit.scaleNames, List.mem_cons, List.not_mem_nil, or_false] at hscale
  rcases hscale with rfl | rfl | rfl
  · cases hfind
    cases horigin
    decide +kernel
  · cases hfind
    cases horigin
    decide +kernel
  · cases hfind
    cases horigin
    decide +kernel

/-- Every unit of doubles that is reached is sound if its scale is a number other than zero. -/
theorem Quantity.Reached.sound {q : Quantity Float} (h : q.Reached)
    (hfinite : q.unit.scale.isFinite = true) (hne : (q.unit.scale == Scalar.ofNat 0) = false) :
    q.unit.Sound := by
  have hnonneg := Double.toRat_nonneg (Double.kept_unsigned.reached h)
  have hzero : Double.toRat q.unit.scale ≠ 0 := by
    intro heq
    rw [Bool.eq_false_iff, ne_eq, Double.beq_iff hfinite Double.isFinite_zero,
      Double.toRat_zero] at hne
    exact hne heq
  refine ⟨hfinite, lt_of_le_of_ne hnonneg hzero.symm, ?_⟩
  intro offset interval horigin
  obtain ⟨-, name, -, unit, hfind, -, heq⟩ :=
    h.typed (PhysicalUnit.isAbsolute_iff.2 ⟨offset, interval, horigin⟩)
  exact KnownUnit.isFinite_offset hfind (heq.symm.trans horigin)

end ElementAtlas
