import Mathlib.Data.List.Zip
import ElementAtlas.Dimension

/-!
# Dimensions as vectors of exponents

A dimension is determined by its exponents, which are integers from -128 to 127. The product, the
quotient and the power of dimensions are the sum, the difference and the multiple of the exponents,
and they exist if and only if all of the resulting exponents are in that range.
-/

namespace ElementAtlas.Dimension

/-- Every exponent of a list is in the range of the exponents of a dimension. -/
def InRange (exponents : List Int) : Prop := ∀ n ∈ exponents, -128 ≤ n ∧ n ≤ 127

/-- The exponents of a dimension are bytes. -/
theorem inRange_exponents (d : Dimension) : InRange d.exponents := by
  intro n hn
  obtain ⟨e, -, rfl⟩ := List.mem_map.1 hn
  have hle := e.le_toInt
  have hlt := e.toInt_lt
  omega

/-- A dimension is given by its exponents. -/
theorem exponents_injective {c d : Dimension} (h : c.exponents = d.exponents) : c = d := by
  cases c
  cases d
  simp only [exponents, bytes, List.map_cons, List.cons.injEq, Int8.toInt_inj] at h
  simp [h]

/-- A number is an exponent if a byte has it as its number. -/
@[simp]
theorem exponent?_eq_some_iff {n : Int} {e : Int8} : exponent? n = some e ↔ e.toInt = n := by
  unfold exponent?
  constructor
  · split
    · next h =>
      rintro ⟨⟩
      exact Int8.toInt_ofInt_of_le (by omega) (by omega)
    · nofun
  · rintro rfl
    have hle := e.le_toInt
    have hlt := e.toInt_lt
    rw [if_pos (by omega), Int8.ofInt_toInt]

/-- A number is an exponent if it is in the range of bytes. -/
theorem exists_exponent?_iff {n : Int} : (∃ e, exponent? n = some e) ↔ -128 ≤ n ∧ n ≤ 127 := by
  unfold exponent?
  split <;> simp [*]

/-! ## Combining exponents one by one -/

/-- Dimensions are combined exponent by exponent, if all results are in range. -/
@[simp] theorem combine?_eq_some_iff {f : Int → Int → Int} {a b c : Dimension} :
    combine? f a b = some c ↔ c.exponents = List.zipWith f a.exponents b.exponents := by
  cases c
  simp only [combine?, bind, Option.bind_eq_some_iff, exponent?_eq_some_iff, pure,
    Option.some.injEq, mk.injEq, exponents, bytes, List.map_cons, List.map_nil, List.zipWith_cons_cons,
    List.zipWith_nil_left, List.cons.injEq, and_true]
  constructor
  · rintro ⟨_, h1, _, h2, _, h3, _, h4, _, h5, _, h6, rfl, rfl, rfl, rfl, rfl, rfl⟩
    exact ⟨h1, h2, h3, h4, h5, h6⟩
  · rintro ⟨h1, h2, h3, h4, h5, h6⟩
    exact ⟨_, h1, _, h2, _, h3, _, h4, _, h5, _, h6, rfl, rfl, rfl, rfl, rfl, rfl⟩

/-- Exponents combine to those of a dimension if and only if all results are in range. -/
theorem exists_combine?_iff {f : Int → Int → Int} {a b : Dimension} :
    (∃ c, combine? f a b = some c) ↔ InRange (List.zipWith f a.exponents b.exponents) := by
  constructor
  · rintro ⟨c, hc⟩
    rw [← combine?_eq_some_iff.1 hc]
    exact c.inRange_exponents
  · simp only [InRange, exponents, bytes, List.map_cons, List.map_nil, List.zipWith_cons_cons,
      List.zipWith_nil_left, List.mem_cons, List.not_mem_nil, or_false, forall_eq_or_imp,
      forall_eq, ← exists_exponent?_iff]
    rintro ⟨⟨_, h1⟩, ⟨_, h2⟩, ⟨_, h3⟩, ⟨_, h4⟩, ⟨_, h5⟩, _, h6⟩
    simp [combine?, h1, h2, h3, h4, h5, h6]

/-- Results in range are the exponents of some dimension. -/
theorem exists_exponents_eq_iff {f : Int → Int → Int} {a b : Dimension} :
    (∃ c : Dimension, c.exponents = List.zipWith f a.exponents b.exponents) ↔
      InRange (List.zipWith f a.exponents b.exponents) := by
  simp only [← combine?_eq_some_iff, exists_combine?_iff]

/-- The exponents of a product are the sums, if these are in range. -/
@[simp] theorem mul?_eq_some_iff {a b c : Dimension} :
    a.mul? b = some c ↔ c.exponents = List.zipWith (· + ·) a.exponents b.exponents :=
  combine?_eq_some_iff

/-- The exponents of a quotient are the differences, if these are in range. -/
@[simp] theorem div?_eq_some_iff {a b c : Dimension} :
    a.div? b = some c ↔ c.exponents = List.zipWith (· - ·) a.exponents b.exponents :=
  combine?_eq_some_iff

/-- The exponents of a power are the multiples, if these are in range. -/
@[simp] theorem pow?_eq_some_iff {a c : Dimension} {n : Int} :
    a.pow? n = some c ↔ c.exponents = a.exponents.map (· * n) := by
  simp [pow?]

/-! Plain numbers leave the dimension of the other operand. -/

@[simp] theorem dimensionless_mul? (d : Dimension) : dimensionless.mul? d = some d := by
  simp [exponents, bytes, dimensionless]

@[simp] theorem mul?_dimensionless (d : Dimension) : d.mul? dimensionless = some d := by
  simp [exponents, bytes, dimensionless]

@[simp] theorem div?_dimensionless (d : Dimension) : d.div? dimensionless = some d := by
  simp [exponents, bytes, dimensionless]

end ElementAtlas.Dimension
