import ElementAtlas.Proofs.PhysicalUnit.Conversion
import ElementAtlas.Proofs.Quantity.Measures
import ElementAtlas.Proofs.Scalar.Lawful

/-!
# Base values

The base value of a quantity is its magnitude in base units. Over the rationals, where nothing is
rounded, it does not depend on the unit that the quantity is given in: conversion keeps it
(`baseValue_of_convert`), and the base value of a sum, difference, product or quotient is that of
the base values of the operands, in whichever of their units the result is given (`base_laws`). An
absolute temperature counts from the zero of its scale, so that a difference of two, and a sum with
an interval, leave one zero or none.

A unit of scale zero has no magnitudes for most base values, and is left out.
-/

namespace ElementAtlas

namespace PhysicalUnit

variable {u : PhysicalUnit Rat}

/-! ## Zeros -/

/-- A unit that is not absolute has a linear origin. -/
theorem origin_of_linear (h : u.isAbsolute = false) : u.origin = .linear := by
  cases horigin : u.origin with
  | linear => rfl
  | absolute offset interval =>
    rw [isAbsolute, horigin] at h
    cases h

/-- A linear unit has its zero at the base value zero. -/
theorem zero_of_linear (h : u.isAbsolute = false) : u.zero = 0 := by
  rw [zero, origin_of_linear h]

/-- Intervals count from zero. -/
@[simp, grind =] theorem zero_interval (u : PhysicalUnit Rat) : u.interval.zero = 0 :=
  zero_of_linear (isAbsolute_interval u)

/-- A linear unit is that of its own intervals. -/
theorem interval_of_linear (h : u.isAbsolute = false) : u.interval = u := by
  rw [interval, origin_of_linear h]

/-- A unit without an offset has its zero at the base value zero. -/
theorem zero_of_not_offset (h : ¬ u.Offset) : u.zero = 0 := by
  rw [zero]
  cases horigin : u.origin with
  | linear => rfl
  | absolute offset interval =>
    by_contra hne
    exact h ⟨offset, interval, horigin, by simpa using hne⟩

/-! ## Magnitudes and base values -/

/-- The magnitude of a base value is its distance from the zero of the unit, in multiples of the
scale. -/
@[simp, grind =]
theorem ofBase_eq (u : PhysicalUnit Rat) (x : Rat) : u.ofBase x = (x - u.zero) / u.scale := by
  unfold ofBase zero
  cases u.origin with
  | linear => rw [sub_zero]
  | absolute offset interval => rfl

/-- A base value is that of its magnitude. -/
theorem toBase_ofBase (h : u.scale ≠ 0) (x : Rat) : u.toBase (u.ofBase x) = x := by
  simp [h]

/-- A magnitude is that of its base value. -/
theorem ofBase_toBase (h : u.scale ≠ 0) (m : Rat) : u.ofBase (u.toBase m) = m := by
  simp [h]

/-- An interval on top of a magnitude adds its base value. -/
theorem toBase_add (u : PhysicalUnit Rat) (m n : Rat) :
    u.toBase (m + n) = u.toBase m + u.interval.toBase n := by
  grind

/-- An interval taken off a magnitude takes off its base value. -/
theorem toBase_sub (u : PhysicalUnit Rat) (m n : Rat) :
    u.toBase (m - n) = u.toBase m - u.interval.toBase n := by
  grind

/-- The interval between two points is the difference of their base values. -/
theorem interval_toBase_sub (u : PhysicalUnit Rat) (m n : Rat) :
    u.interval.toBase (m - n) = u.toBase m - u.toBase n := by
  grind

end PhysicalUnit

namespace Quantity

open PhysicalUnit

variable {a b c : Quantity Rat} {u : PhysicalUnit Rat}

/-! ## Conversion -/

/-- Conversion keeps the base value of the magnitude. -/
theorem toBase_of_convert (hu : u.scale ≠ 0) (h : a.convert u = .ok c) :
    u.toBase c.magnitude = a.baseValue := by
  obtain ⟨-, rfl⟩ := convert_eq_ok_iff.1 h
  exact toBase_ofBase hu a.baseValue

/-- Conversion keeps the base value. -/
theorem baseValue_of_convert (hu : u.scale ≠ 0) (h : a.convert u = .ok c) :
    c.baseValue = a.baseValue := by
  rw [baseValue, unit_of_convert h, toBase_of_convert hu h]

/-- A quantity converts further into what it was converted from converts into. -/
theorem convert_of_convert (hu : u.scale ≠ 0) (h : a.convert u = .ok c) (v : PhysicalUnit Rat)
    (d : Quantity Rat) : c.convert v = .ok d ↔ a.convert v = .ok d := by
  have hbase := baseValue_of_convert hu h
  obtain ⟨⟨hdimension, habsolute⟩, rfl⟩ := convert_eq_ok_iff.1 h
  rw [convert_eq_ok_iff, convert_eq_ok_iff, hbase, hdimension, habsolute]
  rfl

/-- A quantity that is converted converts back into itself. -/
theorem convert_back (ha : a.unit.scale ≠ 0) (hu : u.scale ≠ 0) (h : a.convert u = .ok c) :
    c.convert a.unit = .ok a := by
  rw [convert_of_convert hu h, convert_eq_ok_iff]
  exact ⟨⟨rfl, rfl⟩, by rw [baseValue, ofBase_toBase ha]⟩

/-! ## Arithmetic -/

/-- The base value of a sum is the sum of the base values. -/
theorem baseValue_of_add (ha : a.unit.scale ≠ 0) (hb : b.unit.scale ≠ 0) (h : a.add b = .ok c) :
    c.baseValue = a.baseValue + b.baseValue := by
  unfold add at h
  split at h
  next hlinear _ =>
    obtain ⟨b', hb', rfl⟩ := Attempt.map_eq_ok.1 h
    rw [baseValue, toBase_add, interval_of_linear hlinear, toBase_of_convert ha hb']
    rfl
  next =>
    obtain ⟨b', hb', rfl⟩ := Attempt.map_eq_ok.1 h
    rw [baseValue, toBase_add, toBase_of_convert (by rwa [scale_interval]) hb']
    rfl
  next =>
    obtain ⟨a', ha', rfl⟩ := Attempt.map_eq_ok.1 h
    rw [baseValue, add_comm, toBase_add, toBase_of_convert (by rwa [scale_interval]) ha', add_comm]
    rfl
  · cases h

/-- The base value of a difference is the difference of the base values. -/
theorem baseValue_of_sub (ha : a.unit.scale ≠ 0) (h : a.sub b = .ok c) :
    c.baseValue = a.baseValue - b.baseValue := by
  unfold sub at h
  split at h
  next hlinear _ =>
    obtain ⟨b', hb', rfl⟩ := Attempt.map_eq_ok.1 h
    rw [baseValue, toBase_sub, interval_of_linear hlinear, toBase_of_convert ha hb']
    rfl
  next =>
    obtain ⟨b', hb', rfl⟩ := Attempt.map_eq_ok.1 h
    rw [baseValue, toBase_sub, toBase_of_convert (by rwa [scale_interval]) hb']
    rfl
  next =>
    obtain ⟨b', hb', rfl⟩ := Attempt.map_eq_ok.1 h
    rw [baseValue, interval_toBase_sub, toBase_of_convert ha hb']
    rfl
  · cases h

/-- The base value of a product is the product of the base values. -/
theorem baseValue_of_mul (h : a.mul b = .ok c) : c.baseValue = a.baseValue * b.baseValue := by
  obtain ⟨⟨ha, hb⟩, u, hu, rfl⟩ := mul_eq_ok_iff.1 h
  obtain ⟨_, -, rfl⟩ := ofParts_eq_ok_iff.1 hu
  rw [baseValue, baseValue, baseValue, toBase_eq, toBase_eq, toBase_eq, zero_of_not_offset ha,
    zero_of_not_offset hb, zero_of_linear rfl, linear]
  ring

/-- The base value of a quotient is the quotient of the base values. -/
theorem baseValue_of_div (h : a.div b = .ok c) : c.baseValue = a.baseValue / b.baseValue := by
  obtain ⟨⟨ha, hb⟩, u, hu, rfl⟩ := div_eq_ok_iff.1 h
  obtain ⟨_, -, rfl⟩ := ofParts_eq_ok_iff.1 hu
  rw [baseValue, baseValue, baseValue, toBase_eq, toBase_eq, toBase_eq, zero_of_not_offset ha,
    zero_of_not_offset hb, zero_of_linear rfl, linear, add_zero, add_zero, add_zero,
    div_mul_div_comm]

/-! ## Independence of the units -/

/-- Base values through the operations on two quantities. -/
structure BaseLaws (a b : Quantity Rat) : Prop where
  convert : ∀ u c, u.scale ≠ 0 → a.convert u = .ok c →
    c.toBaseUnit.magnitude = a.toBaseUnit.magnitude
  back : ∀ u c, u.scale ≠ 0 → a.convert u = .ok c → c.convert a.unit = .ok a
  through : ∀ u c, u.scale ≠ 0 → a.convert u = .ok c →
    ∀ v d, c.convert v = .ok d ↔ a.convert v = .ok d
  add : ∀ c, a.add b = .ok c →
    c.toBaseUnit.magnitude = a.toBaseUnit.magnitude + b.toBaseUnit.magnitude
  sub : ∀ c, a.sub b = .ok c →
    c.toBaseUnit.magnitude = a.toBaseUnit.magnitude - b.toBaseUnit.magnitude
  mul : ∀ c, a.mul b = .ok c →
    c.toBaseUnit.magnitude = a.toBaseUnit.magnitude * b.toBaseUnit.magnitude
  div : ∀ c, b.toBaseUnit.magnitude ≠ 0 → a.div b = .ok c →
    c.toBaseUnit.magnitude = a.toBaseUnit.magnitude / b.toBaseUnit.magnitude

/-- Arithmetic does not depend on the units used: conversion keeps the base value, so that a
quantity comes back from any unit and reaches every other by way of it, and a result has the base
value that the base values of the operands have together. The units may be those of points or of
intervals and have any zero, as far as the operations take them. -/
theorem base_laws (ha : a.unit.scale ≠ 0) (hb : b.unit.scale ≠ 0) : BaseLaws a b where
  convert _ _ := baseValue_of_convert
  back _ _ := convert_back ha
  through _ _ := convert_of_convert
  add _ := baseValue_of_add ha hb
  sub _ := baseValue_of_sub ha
  mul _ := baseValue_of_mul
  div _ _ := baseValue_of_div

/-- Twenty degrees Celsius, in degrees Fahrenheit and back, and with an interval of 36 degrees
Fahrenheit more. -/
theorem base_laws_temperatures :
    ∃ a b c d : Quantity Rat, parse 20 "degC" = .ok a ∧ parse 36 "delta_degF" = .ok b ∧
      a.convertTo "degF" = .ok c ∧ c.convert a.unit = .ok a ∧
      a.add b = .ok d ∧ d.toBaseUnit.magnitude = 313.15 := by
  obtain ⟨u, hu, huscale, hubase, hukind⟩ : ∃ u : PhysicalUnit Rat,
      PhysicalUnit.parse "degC" = .ok u ∧ u.scale ≠ 0 ∧ u.toBase 20 = 293.15 ∧
        u.Measures .ofTemperature true :=
    ⟨_, rfl, by decide +kernel, by decide +kernel, rfl, rfl⟩
  obtain ⟨v, hv, hvscale, hvbase, hvkind⟩ : ∃ v : PhysicalUnit Rat,
      PhysicalUnit.parse "delta_degF" = .ok v ∧ v.scale ≠ 0 ∧ v.toBase 36 = 20 ∧
        v.Measures .ofTemperature false :=
    ⟨_, rfl, by decide +kernel, by decide +kernel, rfl, rfl⟩
  obtain ⟨w, hw, hwscale, hwkind⟩ : ∃ w : PhysicalUnit Rat,
      PhysicalUnit.parse "degF" = .ok w ∧ w.scale ≠ 0 ∧ w.Measures .ofTemperature true :=
    ⟨_, rfl, by decide +kernel, rfl, rfl⟩
  have hlaws : BaseLaws ⟨20, u⟩ ⟨36, v⟩ := base_laws huscale hvscale
  obtain ⟨c, hc⟩ : ∃ c, (⟨20, u⟩ : Quantity Rat).convert w = .ok c :=
    exists_convert_iff.2 ⟨hukind.dimension.trans hwkind.dimension.symm,
      hukind.isAbsolute.trans hwkind.isAbsolute.symm⟩
  obtain ⟨d, hd⟩ : ∃ d, (⟨20, u⟩ : Quantity Rat).add ⟨36, v⟩ = .ok d :=
    exists_add_iff.2 ⟨hukind.dimension.trans hvkind.dimension.symm,
      fun h => absurd h.2 (by simp [isAbsolute, hvkind.isAbsolute])⟩
  have hsum : d.toBaseUnit.magnitude = u.toBase 20 + v.toBase 36 := hlaws.add d hd
  rw [hubase, hvbase] at hsum
  exact ⟨⟨20, u⟩, ⟨36, v⟩, c, d, Attempt.map_eq_ok.2 ⟨u, hu, rfl⟩,
    Attempt.map_eq_ok.2 ⟨v, hv, rfl⟩, Attempt.bind_eq_ok.2 ⟨w, hw, hc⟩,
    hlaws.back w c hwscale hc, hd, hsum.trans (by norm_num)⟩

end Quantity

end ElementAtlas
