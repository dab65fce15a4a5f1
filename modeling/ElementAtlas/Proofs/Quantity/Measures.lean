import ElementAtlas.Proofs.Quantity.Typing

/-!
# Kinds of units

The kind of a unit is its dimension and whether it is absolute. Quantities convert, compare, multiply
and divide as their kinds allow, and the kind of each result is known from those of the operands. So
an expression of quantities has a value as soon as the kinds of its operands fit together, whatever
the magnitudes are.
-/

namespace ElementAtlas

variable {α : Type}

/-- The unit has a dimension and is absolute, or has it and is not. -/
structure PhysicalUnit.Measures (u : PhysicalUnit α) (d : Dimension) (absolute : Bool) : Prop where
  dimension : u.dimension = d
  isAbsolute : u.isAbsolute = absolute

/-- A linear unit measures intervals of its dimension. -/
theorem PhysicalUnit.measures_linear (symbol : String) (scale : α) (d : Dimension) :
    (linear symbol scale d).Measures d false :=
  ⟨rfl, rfl⟩

variable [Scalar α] {b c d : Dimension} {absolute : Bool}

/-- Units multiply if the product of their dimensions exists, and the result is linear. -/
theorem PhysicalUnit.exists_mul {u v : PhysicalUnit α} (hu : u.dimension = c) (hv : v.dimension = d)
    (hb : c.mul? d = some b) : ∃ w, u.mul v = .ok w ∧ w.Measures b false :=
  ⟨_, ofParts_eq_ok_iff.2 ⟨b, by rw [hu, hv, hb], rfl⟩, measures_linear _ _ _⟩

/-- Units divide if the quotient of their dimensions exists, and the result is linear. -/
theorem PhysicalUnit.exists_div {u v : PhysicalUnit α} (hu : u.dimension = c) (hv : v.dimension = d)
    (hb : c.div? d = some b) : ∃ w, u.div v = .ok w ∧ w.Measures b false :=
  ⟨_, ofParts_eq_ok_iff.2 ⟨b, by rw [hu, hv, hb], rfl⟩, measures_linear _ _ _⟩

/-- A linear unit has no offset. -/
theorem PhysicalUnit.Measures.not_offset {u : PhysicalUnit α} (h : u.Measures d false) :
    ¬ u.Offset := by
  rintro ⟨offset, interval, horigin, -⟩
  have habsolute := isAbsolute_iff.2 ⟨offset, interval, horigin⟩
  rw [h.isAbsolute] at habsolute
  cases habsolute

/-- An expression that is parsed to a unit of the kind. -/
def Spelled (α : Type) [Scalar α] (expression : String) (d : Dimension) (absolute : Bool) : Prop :=
  ∃ u : PhysicalUnit α, PhysicalUnit.parse expression = .ok u ∧ u.Measures d absolute

namespace Quantity

variable {q r : Quantity α}

/-- A quantity in a unit that is spelled out measures what the expression does. -/
theorem measures_of_parse {m : α} {expression : String} (h : parse m expression = .ok q)
    (hspelled : Spelled α expression d absolute) : q.unit.Measures d absolute := by
  obtain ⟨v, hv, hmeasures⟩ := hspelled
  obtain ⟨u, hu, rfl⟩ := Attempt.map_eq_ok.1 h
  cases hu.symm.trans hv
  exact hmeasures

/-- Every magnitude has a quantity in a unit that can be parsed. -/
theorem exists_parse (m : α) {expression : String} (h : Spelled α expression d absolute) :
    ∃ q, parse m expression = .ok q ∧ q.unit.Measures d absolute := by
  obtain ⟨u, hu, hmeasures⟩ := h
  exact ⟨⟨m, u⟩, Attempt.map_eq_ok.2 ⟨u, hu, rfl⟩, hmeasures⟩

/-- Quantities convert into units of their kind. -/
theorem exists_convertTo {expression : String} (hq : q.unit.Measures d absolute)
    (h : Spelled α expression d absolute) :
    ∃ r, q.convertTo expression = .ok r ∧ r.unit.Measures d absolute := by
  obtain ⟨u, hu, hmeasures⟩ := h
  obtain ⟨r, hr⟩ := exists_convert_iff.2
    (⟨hq.dimension.trans hmeasures.dimension.symm,
      hq.isAbsolute.trans hmeasures.isAbsolute.symm⟩ :
      q.dimension = u.dimension ∧ q.isAbsolute = u.isAbsolute)
  refine ⟨r, Attempt.bind_eq_ok.2 ⟨u, hu, hr⟩, ?_⟩
  obtain ⟨-, rfl⟩ := convert_eq_ok_iff.1 hr
  exact hmeasures

/-- Quantities of one kind compare. -/
theorem exists_compare (hq : q.unit.Measures d absolute) (hr : r.unit.Measures d absolute) :
    ∃ order, q.compare r = .ok order :=
  exists_compare_iff.2
    ⟨hq.dimension.trans hr.dimension.symm, hq.isAbsolute.trans hr.isAbsolute.symm⟩

/-- Linear quantities multiply if the product of their dimensions exists. -/
theorem exists_mul (hq : q.unit.Measures c false) (hr : r.unit.Measures d false)
    (hb : c.mul? d = some b) : ∃ s, q.mul r = .ok s ∧ s.unit.Measures b false := by
  obtain ⟨w, hw, hmeasures⟩ := PhysicalUnit.exists_mul hq.dimension hr.dimension hb
  exact ⟨_, mul_eq_ok_iff.2 ⟨⟨hq.not_offset, hr.not_offset⟩, w, hw, rfl⟩, hmeasures⟩

/-- Linear quantities divide if the quotient of their dimensions exists. -/
theorem exists_div (hq : q.unit.Measures c false) (hr : r.unit.Measures d false)
    (hb : c.div? d = some b) : ∃ s, q.div r = .ok s ∧ s.unit.Measures b false := by
  obtain ⟨w, hw, hmeasures⟩ := PhysicalUnit.exists_div hq.dimension hr.dimension hb
  exact ⟨_, div_eq_ok_iff.2 ⟨⟨hq.not_offset, hr.not_offset⟩, w, hw, rfl⟩, hmeasures⟩

/-- In base units, a linear quantity is in the base unit of its dimension. -/
theorem unit_toBaseUnit (hq : q.unit.Measures d false) : q.toBaseUnit.unit = .base d := by
  have hlinear : q.isAbsolute = false := hq.isAbsolute
  rw [toBaseUnit, hlinear, ← hq.dimension]
  rfl

end Quantity

end ElementAtlas
