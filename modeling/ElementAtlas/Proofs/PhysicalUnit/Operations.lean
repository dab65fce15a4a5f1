import ElementAtlas.PhysicalUnit.Basic
import ElementAtlas.Proofs.Attempt
import ElementAtlas.Proofs.Dimension.Exponents

/-!
# Operations on units

What the operations on units return, and when they return anything. A product, quotient or power of
units is linear, its exponents are those of the operands put together, and it exists if and only if
they are in range.
-/

namespace ElementAtlas.PhysicalUnit

variable {α : Type}

/-- A linear unit is made of parts if the dimension is in range. -/
@[simp] theorem ofParts_eq_ok_iff {symbol : String} {scale : α} {dimension? : Option Dimension}
    {u : PhysicalUnit α} :
    ofParts symbol scale dimension? = .ok u ↔
      ∃ dimension, dimension? = some dimension ∧ u = linear symbol scale dimension := by
  cases dimension? with
  | none => simp [ofParts]
  | some dimension => simp [ofParts, eq_comm]

/-- A unit is made of parts if and only if the dimension is in range. -/
theorem exists_ofParts_iff {symbol : String} {scale : α} {dimension? : Option Dimension} :
    (∃ u, ofParts symbol scale dimension? = .ok u) ↔ ∃ dimension, dimension? = some dimension := by
  simp only [ofParts_eq_ok_iff]
  exact ⟨fun ⟨_, dimension, h, _⟩ => ⟨dimension, h⟩, fun ⟨dimension, h⟩ => ⟨_, dimension, h, rfl⟩⟩

/-- A unit put together from its parts is linear. -/
theorem isAbsolute_of_ofParts {symbol : String} {scale : α} {dimension? : Option Dimension}
    {u : PhysicalUnit α} (h : ofParts symbol scale dimension? = .ok u) : u.isAbsolute = false := by
  obtain ⟨_, -, rfl⟩ := ofParts_eq_ok_iff.1 h
  rfl

/-- A unit is absolute if it has an offset, which may be zero. -/
theorem isAbsolute_iff {u : PhysicalUnit α} :
    u.isAbsolute = true ↔ ∃ offset interval, u.origin = .absolute offset interval := by
  unfold isAbsolute
  cases u.origin with
  | linear => simp
  | absolute offset interval => simp

/-- The unit of intervals is linear. -/
@[simp, grind =] theorem isAbsolute_interval (u : PhysicalUnit α) : u.interval.isAbsolute = false := by
  unfold interval
  split
  next h => rw [isAbsolute, h]
  · rfl

/-- The unit of intervals has the scale of the unit. -/
@[simp, grind =] theorem scale_interval (u : PhysicalUnit α) : u.interval.scale = u.scale := by
  unfold interval
  split <;> rfl

/-- The unit of intervals has the dimension of the unit. -/
@[simp] theorem dimension_interval (u : PhysicalUnit α) : u.interval.dimension = u.dimension := by
  unfold interval
  split <;> rfl

variable [Scalar α]

/-- The exponents of a product are the sums of those of its factors. -/
theorem exponents_of_mul {u v w : PhysicalUnit α} (h : u.mul v = .ok w) :
    w.dimension.exponents =
      List.zipWith (· + ·) u.dimension.exponents v.dimension.exponents := by
  obtain ⟨_, hd, rfl⟩ := ofParts_eq_ok_iff.1 h
  exact Dimension.mul?_eq_some_iff.1 hd

/-- The exponents of a quotient are the differences of those of its operands. -/
theorem exponents_of_div {u v w : PhysicalUnit α} (h : u.div v = .ok w) :
    w.dimension.exponents =
      List.zipWith (· - ·) u.dimension.exponents v.dimension.exponents := by
  obtain ⟨_, hd, rfl⟩ := ofParts_eq_ok_iff.1 h
  exact Dimension.div?_eq_some_iff.1 hd

/-- A product exists if and only if the sums of the exponents are in range. -/
theorem exists_mul_iff {u v : PhysicalUnit α} :
    (∃ w, u.mul v = .ok w) ↔ Dimension.InRange
      (List.zipWith (· + ·) u.dimension.exponents v.dimension.exponents) :=
  exists_ofParts_iff.trans Dimension.exists_combine?_iff

/-- A quotient exists if and only if the differences of the exponents are in range. -/
theorem exists_div_iff {u v : PhysicalUnit α} :
    (∃ w, u.div v = .ok w) ↔ Dimension.InRange
      (List.zipWith (· - ·) u.dimension.exponents v.dimension.exponents) :=
  exists_ofParts_iff.trans Dimension.exists_combine?_iff

end ElementAtlas.PhysicalUnit
