import ElementAtlas.PhysicalUnit.Expression
import ElementAtlas.Proofs.Dimension.Exponents

/-!
# What unit expressions denote

A unit expression denotes a tree (`Tree`): its leaves are the units and numbers it names, and its
nodes are the powers and, from left to right, the products and quotients of them.

What a tree denotes is said without reading anything: its scale is computed over the scalars, its
exponents over the integers, and it denotes a term (`Tree.Denotes`) if no exponent met on the way
leaves the range of the exponents of a dimension. The operations on terms that the reader uses as it
goes lead to the same term (`Tree.denotes_power_iff`, `Tree.denotes_join_iff`).
-/

namespace ElementAtlas.UnitExpression

/-! ## Terms -/

/-- How the exponents of two factors are put together. -/
def Separator.joinExponents : Separator → List Int → List Int → List Int
  | .times => List.zipWith (· + ·)
  | .over => List.zipWith (· - ·)

section
variable {α : Type} [Scalar α]

/-- How the scales of two factors are put together. A `/` divides by the factor after it only. -/
def Separator.joinScales : Separator → α → α → α
  | .times => (· * ·)
  | .over => (· / ·)

omit [Scalar α] in
/-- Terms are equal if their scales and their exponents are. -/
theorem Term.eq_of_exponents {x y : Term α} (hscale : x.scale = y.scale)
    (hexponents : x.dimension.exponents = y.dimension.exponents) : x = y := by
  cases x
  cases y
  cases hscale
  cases Dimension.exponents_injective hexponents
  rfl

/-- A power of a term has the power of its scale and the multiples of its exponents, if these are in
range. -/
@[simp] theorem Term.pow?_eq_some_iff {t x : Term α} {n : Int} :
    t.pow? n = some x ↔ x.scale = Scalar.power t.scale n ∧
      x.dimension.exponents = t.dimension.exponents.map (· * n) := by
  rw [Term.pow?, Option.map_eq_some_iff]
  refine ⟨?_, fun ⟨hscale, hexponents⟩ => ?_⟩
  · rintro ⟨d, hd, rfl⟩
    exact ⟨rfl, Dimension.pow?_eq_some_iff.1 hd⟩
  · exact ⟨x.dimension, Dimension.pow?_eq_some_iff.2 hexponents, eq_of_exponents hscale.symm rfl⟩

/-- The first power of a term is the term, since a first power is not computed. -/
@[simp] theorem Term.pow?_one (t : Term α) : t.pow? 1 = some t := by
  have hscale : Scalar.power t.scale 1 = t.scale := by
    simp [Scalar.power, Scalar.powerNat, Scalar.mulPower]
  rw [Term.pow?_eq_some_iff, hscale]
  exact ⟨rfl, by simp⟩

/-- A separator joins the scales and the exponents of its operands, if the exponents are in
range. -/
@[simp] theorem Separator.apply?_eq_some_iff {separator : Separator} {a b x : Term α} :
    separator.apply? a b = some x ↔ x.scale = separator.joinScales a.scale b.scale ∧
      x.dimension.exponents =
        separator.joinExponents a.dimension.exponents b.dimension.exponents := by
  have hmap {d? : Option Dimension} {scale : α} : d?.map (⟨scale, ·⟩) = some x ↔
      x.scale = scale ∧ d? = some x.dimension := by
    rw [Option.map_eq_some_iff]
    refine ⟨?_, fun ⟨hscale, hd⟩ => ⟨_, hd, Term.eq_of_exponents hscale.symm rfl⟩⟩
    rintro ⟨d, hd, rfl⟩
    exact ⟨rfl, hd⟩
  unfold Separator.apply?
  cases separator with
  | times =>
    rw [hmap, Dimension.mul?_eq_some_iff]
    rfl
  | «over» =>
    rw [hmap, Dimension.div?_eq_some_iff]
    rfl

end

/-! ## Trees -/

/-- What a unit expression is built up to. -/
inductive Tree (α : Type) where
  | leaf (term : Term α)
  | power (base : Tree α) (n : Int)
  | join (left : Tree α) (separator : Separator) (right : Tree α)

namespace Tree

variable {α : Type}

/-- The exponents of the base quantities in a tree, as integers. -/
def exponents : Tree α → List Int
  | leaf term => term.dimension.exponents
  | power base n => base.exponents.map (· * n)
  | join left separator right => separator.joinExponents left.exponents right.exponents

/-- Every exponent met in evaluating the tree is one that a dimension can have. -/
def Fits : Tree α → Prop
  | leaf _ => True
  | power base n => base.Fits ∧ Dimension.InRange (base.exponents.map (· * n))
  | join left separator right =>
    left.Fits ∧ right.Fits ∧
      Dimension.InRange (separator.joinExponents left.exponents right.exponents)

variable [Scalar α]

/-- The scale of a tree. -/
def scale : Tree α → α
  | leaf term => term.scale
  | power base n => Scalar.power base.scale n
  | join left separator right => separator.joinScales left.scale right.scale

/-- The tree is evaluated without leaving the range of exponents, to the given term. -/
structure Denotes (tree : Tree α) (term : Term α) : Prop where
  fits : tree.Fits
  scale : term.scale = tree.scale
  exponents : term.dimension.exponents = tree.exponents

/-- A leaf denotes its term. -/
theorem Denotes.leaf (term : Term α) : (leaf term).Denotes term := ⟨trivial, rfl, rfl⟩

/-- A tree denotes one term. -/
theorem Denotes.unique {tree : Tree α} {x y : Term α} (hx : tree.Denotes x) (hy : tree.Denotes y) :
    x = y :=
  Term.eq_of_exponents (hx.scale.trans hy.scale.symm) (hx.exponents.trans hy.exponents.symm)

/-- A tree that fits denotes a term. -/
theorem Fits.exists_denotes {tree : Tree α} (h : tree.Fits) : ∃ x, tree.Denotes x := by
  suffices hd : ∃ d : Dimension, d.exponents = tree.exponents by
    obtain ⟨d, hd⟩ := hd
    exact ⟨⟨tree.scale, d⟩, h, rfl, hd⟩
  induction tree with
  | leaf term => exact ⟨term.dimension, rfl⟩
  | power base n ih =>
    obtain ⟨b, hb⟩ := ih h.1
    have hrange := h.2
    simp only [exponents, ← hb, ← List.zipWith_self (f := fun e _ => e * n)] at hrange ⊢
    exact Dimension.exists_exponents_eq_iff.2 hrange
  | join left separator right ihl ihr =>
    obtain ⟨a, ha⟩ := ihl h.1
    obtain ⟨b, hb⟩ := ihr h.2.1
    have hrange := h.2.2
    simp only [exponents, ← ha, ← hb] at hrange ⊢
    cases separator with
    | times => exact Dimension.exists_exponents_eq_iff.2 hrange
    | «over» => exact Dimension.exists_exponents_eq_iff.2 hrange

/-- A power denotes the power of what its base denotes. -/
@[simp] theorem denotes_power_iff {base : Tree α} {n : Int} {x : Term α} :
    (power base n).Denotes x ↔ ∃ b, base.Denotes b ∧ b.pow? n = some x := by
  simp only [Term.pow?_eq_some_iff]
  refine ⟨fun h => ?_, fun ⟨b, hb, hscale, hexponents⟩ => ?_⟩
  · obtain ⟨b, hb⟩ := h.fits.1.exists_denotes
    exact ⟨b, hb, hb.scale ▸ h.scale, hb.exponents ▸ h.exponents⟩
  · rw [hb.scale] at hscale
    rw [hb.exponents] at hexponents
    exact ⟨⟨hb.fits, hexponents ▸ x.dimension.inRange_exponents⟩, hscale, hexponents⟩

/-- A product or quotient denotes that of what its factors denote. -/
@[simp] theorem denotes_join_iff {left right : Tree α} {separator : Separator} {x : Term α} :
    (join left separator right).Denotes x ↔
      ∃ a b, left.Denotes a ∧ right.Denotes b ∧ separator.apply? a b = some x := by
  simp only [Separator.apply?_eq_some_iff]
  refine ⟨fun h => ?_, fun ⟨a, b, ha, hb, hscale, hexponents⟩ => ?_⟩
  · obtain ⟨a, ha⟩ := h.fits.1.exists_denotes
    obtain ⟨b, hb⟩ := h.fits.2.1.exists_denotes
    refine ⟨a, b, ha, hb, ?_, ?_⟩
    · rw [ha.scale, hb.scale]
      exact h.scale
    · rw [ha.exponents, hb.exponents]
      exact h.exponents
  · rw [ha.scale, hb.scale] at hscale
    rw [ha.exponents, hb.exponents] at hexponents
    exact ⟨⟨ha.fits, hb.fits, hexponents ▸ x.dimension.inRange_exponents⟩, hscale, hexponents⟩

/-- The base of a power denotes one term, so the power denotes what is computed from it. -/
theorem Denotes.power_iff {base : Tree α} {n : Int} {b x : Term α} (hb : base.Denotes b) :
    (power base n).Denotes x ↔ b.pow? n = some x := by
  rw [denotes_power_iff]
  refine ⟨?_, fun h => ⟨b, hb, h⟩⟩
  rintro ⟨b', hb', h⟩
  cases hb.unique hb'
  exact h

/-- The factors of a product denote one term each, so the product denotes what is computed from
them. -/
theorem Denotes.join_iff {left right : Tree α} {separator : Separator} {a b x : Term α}
    (ha : left.Denotes a) (hb : right.Denotes b) :
    (join left separator right).Denotes x ↔ separator.apply? a b = some x := by
  rw [denotes_join_iff]
  refine ⟨?_, fun h => ⟨a, b, ha, hb, h⟩⟩
  rintro ⟨a', b', ha', hb', h⟩
  cases ha.unique ha'
  cases hb.unique hb'
  exact h

end Tree

end ElementAtlas.UnitExpression
