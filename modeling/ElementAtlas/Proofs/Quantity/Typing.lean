import ElementAtlas.Proofs.PhysicalUnit.Operations
import ElementAtlas.Proofs.PhysicalUnit.Parse
import ElementAtlas.Proofs.PhysicalUnit.Registry
import ElementAtlas.Quantity

/-!
# Dimensions and temperatures along every run

`Reached` holds of the quantities that some sequence of operations leads to, from quantities in the
units of expressions. The units on the way are those of reached quantities: a unit put together from
two of them is reached with any magnitude.

Every unit that is reached is well typed (`PhysicalUnit.Typed`): an absolute one measures
temperature and has the scale, the offset and the unit of intervals of a known temperature scale.
Each operation preserves this (`Reached.typed` is the induction over them). Which operations
succeed, and which of their results are absolute, is told by the dimensions of the operands and by
which of them are absolute (`Laws`).
-/

namespace ElementAtlas

open KnownUnit

variable {α : Type} [Scalar α]

/-- An absolute unit measures temperature, and agrees with a known temperature scale in all but its
symbol. -/
def PhysicalUnit.Typed (u : PhysicalUnit α) : Prop :=
  u.isAbsolute = true → u.dimension = .ofTemperature ∧
    ∃ name ∈ scaleNames, ∃ unit : KnownUnit α,
      find? name = some unit ∧ u.scale = unit.scale ∧ u.origin = unit.origin

/-- The unit has an offset other than zero. -/
def PhysicalUnit.Offset (u : PhysicalUnit α) : Prop :=
  ∃ offset interval, u.origin = .absolute offset interval ∧ (offset == Scalar.ofNat 0) = false

/-- What is tested for an offset has one. -/
@[simp]
theorem PhysicalUnit.hasOffset_iff {u : PhysicalUnit α} : u.hasOffset = true ↔ u.Offset := by
  unfold hasOffset Offset
  cases u.origin with
  | linear => simp
  | absolute offset interval => simp

/-! A linear unit is well typed, and so is every unit that an expression denotes. -/

/-- A linear unit is well typed. -/
theorem PhysicalUnit.Typed.of_linear {u : PhysicalUnit α} (h : u.isAbsolute = false) :
    u.Typed := by
  intro habsolute
  rw [h] at habsolute
  cases habsolute

/-- The unit of the base temperatures is well typed. -/
theorem PhysicalUnit.typed_kelvin : (kelvin : PhysicalUnit α).Typed :=
  fun _ => ⟨rfl, "K", by decide, _, rfl, rfl, rfl⟩

/-- Every unit that is parsed is well typed. -/
theorem PhysicalUnit.typed_of_parse {expression : String} {u : PhysicalUnit α}
    (h : parse expression = .ok u) : u.Typed := by
  cases parse_eq_ok_iff.1 h with
  | blank => exact .of_linear rfl
  | @known unit hne hfind =>
    intro habsolute
    obtain ⟨offset, interval, horigin⟩ := isAbsolute_iff.1 habsolute
    obtain ⟨hdimension, name, hname, hscale⟩ := scale_of_absolute hfind horigin
    exact ⟨hdimension, name, hname, unit, hscale, rfl, rfl⟩
  | spelled => exact .of_linear rfl

namespace Quantity

/-- The quantities that a sequence of operations leads to. -/
inductive Reached : Quantity α → Prop
  | parse {m : α} {expression : String} {a : Quantity α} : parse m expression = .ok a → Reached a
  | withUnit {a : Quantity α} (m : α) : Reached a → Reached ⟨m, a.unit⟩
  | convertTo {a b : Quantity α} {expression : String} : Reached a →
      a.convertTo expression = .ok b → Reached b
  | convert {a b c : Quantity α} : Reached a → Reached b → a.convert b.unit = .ok c → Reached c
  | toBaseUnit {a : Quantity α} : Reached a → Reached a.toBaseUnit
  | toInterval {a : Quantity α} : Reached a → Reached a.toInterval
  | add {a b c : Quantity α} : Reached a → Reached b → a.add b = .ok c → Reached c
  | sub {a b c : Quantity α} : Reached a → Reached b → a.sub b = .ok c → Reached c
  | mul {a b c : Quantity α} : Reached a → Reached b → a.mul b = .ok c → Reached c
  | div {a b c : Quantity α} : Reached a → Reached b → a.div b = .ok c → Reached c
  | scale {a : Quantity α} (factor : α) : Reached a → Reached (a.scale factor)
  | unscale {a : Quantity α} (divisor : α) : Reached a → Reached (a.unscale divisor)
  | unitMul {a b : Quantity α} {u : PhysicalUnit α} (m : α) : Reached a → Reached b →
      a.unit.mul b.unit = .ok u → Reached ⟨m, u⟩
  | unitDiv {a b : Quantity α} {u : PhysicalUnit α} (m : α) : Reached a → Reached b →
      a.unit.div b.unit = .ok u → Reached ⟨m, u⟩
  | unitPow {a : Quantity α} {u : PhysicalUnit α} {n : Int} (m : α) : Reached a →
      a.unit.pow n = .ok u → Reached ⟨m, u⟩

/-! ## When operations succeed -/

/-- A conversion succeeds between units of one dimension that are both absolute or both linear, and
leads to a quantity in the unit asked for. -/
@[simp] theorem convert_eq_ok_iff {q r : Quantity α} {u : PhysicalUnit α} :
    q.convert u = .ok r ↔
      (q.dimension = u.dimension ∧ q.isAbsolute = u.isAbsolute) ∧
        r = ⟨u.ofBase q.baseValue, u⟩ := by
  unfold convert PhysicalUnit.checkCompatible PhysicalUnit.isCompatible
  by_cases h : q.unit.dimension = u.dimension ∧ q.unit.isAbsolute = u.isAbsolute
  · simp [h, dimension, isAbsolute, pure, Except.pure, eq_comm]
  · simp [h, dimension, isAbsolute]

/-- A quantity that is converted is in the unit. -/
theorem unit_of_convert {q r : Quantity α} {u : PhysicalUnit α} (h : q.convert u = .ok r) :
    r.unit = u := by
  obtain ⟨-, rfl⟩ := convert_eq_ok_iff.1 h
  rfl

/-- A quantity converts into the units of its dimension and kind. -/
theorem exists_convert_iff {q : Quantity α} {u : PhysicalUnit α} :
    (∃ r, q.convert u = .ok r) ↔ q.dimension = u.dimension ∧ q.isAbsolute = u.isAbsolute := by
  simp only [convert_eq_ok_iff]
  exact ⟨fun ⟨_, h, _⟩ => h, fun h => ⟨_, h, rfl⟩⟩

/-- Two quantities compare if and only if the second converts into the unit of the first. -/
theorem exists_compare_iff {q r : Quantity α} :
    (∃ order, q.compare r = .ok order) ↔
      q.dimension = r.dimension ∧ q.isAbsolute = r.isAbsolute := by
  rw [compare, Attempt.exists_map_eq_ok_iff, exists_convert_iff, eq_comm, dimension,
    eq_comm (a := r.isAbsolute)]
  rfl

/-- Quantities compare if they have the same dimension and kind, and as the magnitudes in the unit
of the first one. -/
theorem compare_eq_ok_iff {q r : Quantity α} {order : Ordering} : q.compare r = .ok order ↔
    (r.dimension = q.dimension ∧ r.isAbsolute = q.isAbsolute) ∧
      Scalar.compare q.magnitude (q.unit.ofBase r.baseValue) = order := by
  rw [compare, Attempt.map_eq_ok]
  constructor
  · rintro ⟨s, hs, horder⟩
    obtain ⟨hcompatible, rfl⟩ := convert_eq_ok_iff.1 hs
    exact ⟨hcompatible, horder⟩
  · rintro ⟨hcompatible, horder⟩
    exact ⟨_, convert_eq_ok_iff.2 ⟨hcompatible, rfl⟩, horder⟩

/-- Quantities of different dimensions or kinds do not compare. -/
theorem compare_of_incompatible {q r : Quantity α}
    (h : ¬ (r.dimension = q.dimension ∧ r.isAbsolute = q.isAbsolute)) :
    q.compare r = .error (.incompatible r.unit.label q.unit.label) := by
  have hcompatible : r.unit.isCompatible q.unit = false := by
    simpa [PhysicalUnit.isCompatible, dimension, isAbsolute] using h
  rw [compare, convert, PhysicalUnit.checkCompatible, hcompatible]
  rfl

/-- A sum exists in one dimension, unless both operands are absolute. -/
theorem exists_add_iff {q r : Quantity α} :
    (∃ s, q.add r = .ok s) ↔
      q.dimension = r.dimension ∧ ¬ (q.isAbsolute = true ∧ r.isAbsolute = true) := by
  unfold add
  split
  next hq hr =>
    rw [Attempt.exists_map_eq_ok_iff, exists_convert_iff, hr]
    exact ⟨fun h => ⟨h.1.symm, by simp [hq]⟩, fun h => ⟨h.1.symm, hq.symm⟩⟩
  next hq hr =>
    rw [Attempt.exists_map_eq_ok_iff, exists_convert_iff, hr, PhysicalUnit.dimension_interval,
      PhysicalUnit.isAbsolute_interval]
    exact ⟨fun h => ⟨h.1.symm, by simp⟩, fun h => ⟨h.1.symm, rfl⟩⟩
  next hq hr =>
    rw [Attempt.exists_map_eq_ok_iff, exists_convert_iff, hq, PhysicalUnit.dimension_interval,
      PhysicalUnit.isAbsolute_interval]
    exact ⟨fun h => ⟨h.1, by simp⟩, fun h => ⟨h.1, rfl⟩⟩
  next hq hr => simp [hq, hr]

/-- A difference exists in one dimension, unless only the second operand is absolute. -/
theorem exists_sub_iff {q r : Quantity α} :
    (∃ s, q.sub r = .ok s) ↔
      q.dimension = r.dimension ∧ ¬ (r.isAbsolute = true ∧ q.isAbsolute = false) := by
  unfold sub
  split
  next hq hr =>
    rw [Attempt.exists_map_eq_ok_iff, exists_convert_iff, hr]
    exact ⟨fun h => ⟨h.1.symm, by simp⟩, fun h => ⟨h.1.symm, hq.symm⟩⟩
  next hq hr =>
    rw [Attempt.exists_map_eq_ok_iff, exists_convert_iff, hr, PhysicalUnit.dimension_interval,
      PhysicalUnit.isAbsolute_interval]
    exact ⟨fun h => ⟨h.1.symm, by simp⟩, fun h => ⟨h.1.symm, rfl⟩⟩
  next hq hr =>
    rw [Attempt.exists_map_eq_ok_iff, exists_convert_iff, hr]
    exact ⟨fun h => ⟨h.1.symm, by simp [hq]⟩, fun h => ⟨h.1.symm, hq.symm⟩⟩
  next hq hr => simp [hq, hr]

/-- Factors are accepted if neither has an offset. -/
@[simp] theorem checkFactors_eq_ok_iff {q r : Quantity α} {operation : Operation} :
    q.checkFactors r operation = .ok () ↔ ¬ q.unit.Offset ∧ ¬ r.unit.Offset := by
  rw [checkFactors, Attempt.guard_eq_ok, Attempt.guard_eq_ok, PhysicalUnit.hasOffset_iff,
    PhysicalUnit.hasOffset_iff]
  simp

/-- A product exists if neither unit has an offset and the product of the units exists. -/
@[simp] theorem mul_eq_ok_iff {q r s : Quantity α} :
    q.mul r = .ok s ↔ (¬ q.unit.Offset ∧ ¬ r.unit.Offset) ∧
      ∃ u, q.unit.mul r.unit = .ok u ∧ s = ⟨q.magnitude * r.magnitude, u⟩ := by
  rw [mul, Attempt.bind_eq_ok]
  refine ⟨?_, fun ⟨hoffset, u, hu, hs⟩ => ?_⟩
  · rintro ⟨⟨⟩, hcheck, h⟩
    obtain ⟨u, hu, h⟩ := Attempt.bind_eq_ok.1 h
    cases h
    exact ⟨checkFactors_eq_ok_iff.1 hcheck, u, hu, rfl⟩
  · exact ⟨(), checkFactors_eq_ok_iff.2 hoffset, Attempt.bind_eq_ok.2 ⟨u, hu, hs ▸ rfl⟩⟩

/-- A quotient exists if neither unit has an offset and the quotient of the units exists. -/
@[simp] theorem div_eq_ok_iff {q r s : Quantity α} :
    q.div r = .ok s ↔ (¬ q.unit.Offset ∧ ¬ r.unit.Offset) ∧
      ∃ u, q.unit.div r.unit = .ok u ∧ s = ⟨q.magnitude / r.magnitude, u⟩ := by
  rw [div, Attempt.bind_eq_ok]
  refine ⟨?_, fun ⟨hoffset, u, hu, hs⟩ => ?_⟩
  · rintro ⟨⟨⟩, hcheck, h⟩
    obtain ⟨u, hu, h⟩ := Attempt.bind_eq_ok.1 h
    cases h
    exact ⟨checkFactors_eq_ok_iff.1 hcheck, u, hu, rfl⟩
  · exact ⟨(), checkFactors_eq_ok_iff.2 hoffset, Attempt.bind_eq_ok.2 ⟨u, hu, hs ▸ rfl⟩⟩

/-- A sum is in the unit of its absolute operand, and otherwise in that of the first. -/
theorem unit_of_add {q r s : Quantity α} (h : q.add r = .ok s) :
    s.unit = if r.isAbsolute then r.unit else q.unit := by
  unfold add at h
  split at h
  next hr =>
    obtain ⟨_, -, rfl⟩ := Attempt.map_eq_ok.1 h
    simp [hr]
  next hr =>
    obtain ⟨_, -, rfl⟩ := Attempt.map_eq_ok.1 h
    simp [hr]
  next hr =>
    obtain ⟨_, -, rfl⟩ := Attempt.map_eq_ok.1 h
    simp [hr]
  · cases h

/-- A difference is in the unit of the first operand, or in its unit of intervals if the second is
absolute. -/
theorem unit_of_sub {q r s : Quantity α} (h : q.sub r = .ok s) :
    s.unit = if r.isAbsolute then q.unit.interval else q.unit := by
  unfold sub at h
  split at h
  next hr =>
    obtain ⟨_, -, rfl⟩ := Attempt.map_eq_ok.1 h
    simp [hr]
  next hr =>
    obtain ⟨_, -, rfl⟩ := Attempt.map_eq_ok.1 h
    simp [hr]
  next hr =>
    obtain ⟨_, -, rfl⟩ := Attempt.map_eq_ok.1 h
    simp [hr]
  · cases h

/-! ## Units along a run -/

/-- The unit of a quantity that is parsed is that of the expression. -/
theorem parse_unit {q : Quantity α} {m : α} {expression : String}
    (h : parse m expression = .ok q) : PhysicalUnit.parse expression = .ok q.unit := by
  obtain ⟨u, hu, rfl⟩ := Attempt.map_eq_ok.1 h
  exact hu

/-- The unit of a quantity that is converted is that of the expression. -/
theorem parse_unit_of_convertTo {q r : Quantity α} {expression : String}
    (h : q.convertTo expression = .ok r) : PhysicalUnit.parse expression = .ok r.unit := by
  obtain ⟨u, hu, hconvert⟩ := Attempt.bind_eq_ok.1 h
  rw [unit_of_convert hconvert]
  exact hu

/-- Every unit that is reached is well typed. -/
theorem Reached.typed {a : Quantity α} (h : Reached a) : a.unit.Typed := by
  induction h with
  | parse hparse => exact PhysicalUnit.typed_of_parse (parse_unit hparse)
  | withUnit _ _ ih => exact ih
  | convertTo _ hconvert _ => exact PhysicalUnit.typed_of_parse (parse_unit_of_convertTo hconvert)
  | convert _ _ hconvert _ ih =>
    rw [unit_of_convert hconvert]
    exact ih
  | @toBaseUnit a _ _ =>
    rw [Quantity.toBaseUnit]
    split
    · exact PhysicalUnit.typed_kelvin
    · exact .of_linear rfl
  | toInterval _ _ => exact .of_linear (PhysicalUnit.isAbsolute_interval _)
  | add _ _ hadd ihl ihr =>
    rw [unit_of_add hadd]
    split
    · exact ihr
    · exact ihl
  | sub _ _ hsub ihl _ =>
    rw [unit_of_sub hsub]
    split
    · exact .of_linear (PhysicalUnit.isAbsolute_interval _)
    · exact ihl
  | mul _ _ hmul _ _ =>
    obtain ⟨-, u, hu, rfl⟩ := mul_eq_ok_iff.1 hmul
    exact .of_linear (PhysicalUnit.isAbsolute_of_ofParts hu)
  | div _ _ hdiv _ _ =>
    obtain ⟨-, u, hu, rfl⟩ := div_eq_ok_iff.1 hdiv
    exact .of_linear (PhysicalUnit.isAbsolute_of_ofParts hu)
  | scale _ _ ih => exact ih
  | unscale _ _ ih => exact ih
  | unitMul _ _ _ hu _ _ => exact .of_linear (PhysicalUnit.isAbsolute_of_ofParts hu)
  | unitDiv _ _ _ hu _ _ => exact .of_linear (PhysicalUnit.isAbsolute_of_ofParts hu)
  | unitPow _ _ hu _ => exact .of_linear (PhysicalUnit.isAbsolute_of_ofParts hu)

/-! ## What succeeds, and what is absolute -/

/-- Which operations on two quantities succeed, and the dimensions and kinds of their results. -/
structure Laws (a b : Quantity α) : Prop where
  convert : (∃ c, a.convert b.unit = .ok c) ↔
    a.dimension = b.dimension ∧ a.isAbsolute = b.isAbsolute
  compare : (∃ order, a.compare b = .ok order) ↔
    a.dimension = b.dimension ∧ a.isAbsolute = b.isAbsolute
  equals : (∃ equal, a.equals b = .ok equal) ↔
    a.dimension = b.dimension ∧ a.isAbsolute = b.isAbsolute
  add : (∃ c, a.add b = .ok c) ↔
    a.dimension = b.dimension ∧ ¬ (a.isAbsolute = true ∧ b.isAbsolute = true)
  sum : ∀ c, a.add b = .ok c → c.dimension = a.dimension ∧
    (c.isAbsolute = true ↔ a.isAbsolute = true ∨ b.isAbsolute = true)
  sub : (∃ c, a.sub b = .ok c) ↔
    a.dimension = b.dimension ∧ ¬ (b.isAbsolute = true ∧ a.isAbsolute = false)
  difference : ∀ c, a.sub b = .ok c → c.dimension = a.dimension ∧
    (c.isAbsolute = true ↔ a.isAbsolute = true ∧ b.isAbsolute = false)
  mul : (∃ c, a.mul b = .ok c) ↔ (¬ a.unit.Offset ∧ ¬ b.unit.Offset) ∧
    Dimension.InRange (List.zipWith (· + ·) a.dimension.exponents b.dimension.exponents)
  product : ∀ c, a.mul b = .ok c → c.isAbsolute = false ∧
    c.dimension.exponents =
      List.zipWith (· + ·) a.dimension.exponents b.dimension.exponents
  div : (∃ c, a.div b = .ok c) ↔ (¬ a.unit.Offset ∧ ¬ b.unit.Offset) ∧
    Dimension.InRange (List.zipWith (· - ·) a.dimension.exponents b.dimension.exponents)
  quotient : ∀ c, a.div b = .ok c → c.isAbsolute = false ∧
    c.dimension.exponents =
      List.zipWith (· - ·) a.dimension.exponents b.dimension.exponents

/-- A sum is absolute if and only if one of its operands is. -/
theorem sum_of_add {a b c : Quantity α} (h : a.add b = .ok c) :
    c.dimension = a.dimension ∧
      (c.isAbsolute = true ↔ a.isAbsolute = true ∨ b.isAbsolute = true) := by
  obtain ⟨hdimension, -⟩ := exists_add_iff.1 ⟨c, h⟩
  have hunit := unit_of_add h
  cases hb : b.isAbsolute with
  | false =>
    rw [if_neg (by simp [hb])] at hunit
    rw [dimension, isAbsolute, hunit]
    exact ⟨rfl, by simp [isAbsolute]⟩
  | true =>
    rw [if_pos hb] at hunit
    rw [dimension, isAbsolute, hunit]
    exact ⟨hdimension.symm, by simpa [isAbsolute] using hb⟩

/-- A difference is absolute if and only if its first operand is and its second is not. -/
theorem difference_of_sub {a b c : Quantity α} (h : a.sub b = .ok c) :
    c.dimension = a.dimension ∧
      (c.isAbsolute = true ↔ a.isAbsolute = true ∧ b.isAbsolute = false) := by
  have hunit := unit_of_sub h
  cases hb : b.isAbsolute with
  | false =>
    rw [if_neg (by simp [hb])] at hunit
    rw [dimension, isAbsolute, hunit]
    exact ⟨rfl, by simp [isAbsolute]⟩
  | true =>
    rw [if_pos hb] at hunit
    rw [dimension, isAbsolute, hunit, PhysicalUnit.dimension_interval,
      PhysicalUnit.isAbsolute_interval]
    exact ⟨rfl, by simp⟩

/-- All quantities obey the laws of the operations. -/
theorem laws (a b : Quantity α) : Laws a b where
  convert := exists_convert_iff
  compare := exists_compare_iff
  equals := by rw [equals, Attempt.exists_map_eq_ok_iff, exists_compare_iff]
  add := exists_add_iff
  sum _ := sum_of_add
  sub := exists_sub_iff
  difference _ := difference_of_sub
  mul := by
    rw [dimension, dimension, ← PhysicalUnit.exists_mul_iff]
    simp only [mul_eq_ok_iff]
    exact ⟨fun ⟨_, h, u, hu, _⟩ => ⟨h, u, hu⟩, fun ⟨h, u, hu⟩ => ⟨_, h, u, hu, rfl⟩⟩
  product c h := by
    obtain ⟨-, u, hu, rfl⟩ := mul_eq_ok_iff.1 h
    exact ⟨PhysicalUnit.isAbsolute_of_ofParts hu, PhysicalUnit.exponents_of_mul hu⟩
  div := by
    rw [dimension, dimension, ← PhysicalUnit.exists_div_iff]
    simp only [div_eq_ok_iff]
    exact ⟨fun ⟨_, h, u, hu, _⟩ => ⟨h, u, hu⟩, fun ⟨h, u, hu⟩ => ⟨_, h, u, hu, rfl⟩⟩
  quotient c h := by
    obtain ⟨-, u, hu, rfl⟩ := div_eq_ok_iff.1 h
    exact ⟨PhysicalUnit.isAbsolute_of_ofParts hu, PhysicalUnit.exponents_of_div hu⟩

/-- Along every run the units stay well typed, so that absolute quantities always convert into each
other, and operations succeed and lead to absolute quantities as the dimensions and kinds of their
operands say. -/
theorem typing_of_runs :
    (∀ a : Quantity α, Reached a → a.unit.Typed) ∧
      (∀ a b : Quantity α, Reached a → Reached b → Laws a b) ∧
      ∀ a b : Quantity α, Reached a → Reached b → a.isAbsolute = true → b.isAbsolute = true →
        ∃ c, a.convert b.unit = .ok c := by
  refine ⟨fun _ => Reached.typed, fun a b _ _ => laws a b, fun a b ha hb habsa habsb => ?_⟩
  obtain ⟨hdima, -⟩ := ha.typed habsa
  obtain ⟨hdimb, -⟩ := hb.typed habsb
  exact exists_convert_iff.2 ⟨hdima.trans hdimb.symm, habsa.trans habsb.symm⟩

end Quantity

end ElementAtlas
