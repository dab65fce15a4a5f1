import ElementAtlas.Proofs.Dimension.BaseSymbol
import ElementAtlas.Proofs.PhysicalUnit.Operand
import ElementAtlas.Proofs.Quantity.Typing

/-!
# Symbols denote their units

The symbol of a unit that was formed from parsed units by products, quotients, powers, intervals and
base units is parsed to a unit with its scale and its dimension (`Formed.readsBack`). The two units
are compatible unless the symbol is the name of a temperature scale and the unit is linear, as the
unit of intervals of kelvin is: such a name is read as the absolute unit.

The invariant is `Named`: the symbol is written in the grammar of unit expressions with the scale
and the exponents of the unit, or is empty, and an absolute unit is the known unit of its symbol.
There is one lemma for each operation, and `Formed.named` is the induction over them.
-/

namespace ElementAtlas

open Text UnitExpression

variable {α : Type} [Scalar α]

/-- The known unit under one of its names. -/
def KnownUnit.named (unit : KnownUnit α) (name : String) : PhysicalUnit α :=
  ⟨name, unit.scale, unit.dimension, unit.origin⟩

/-- A name that is read as a temperature scale when it stands alone. -/
def KnownUnit.NamesScale (α : Type) [Scalar α] (name : String) : Prop :=
  ∃ unit : KnownUnit α, find? name = some unit ∧ (unit.named name).isAbsolute = true

namespace PhysicalUnit

/-! ## Symbols that are parsed -/

/-- The symbol stands for a scale and a dimension: it is written in the grammar of unit expressions,
or it is empty and stands for plain numbers. -/
inductive Means : String → α → Dimension → Prop
  | empty : Means "" (Scalar.ofNat 1) .dimensionless
  | written {symbol : String} {scale : α} {d : Dimension} :
      Writes .product symbol scale d.exponents → Means symbol scale d

/-- A symbol that means something and is not empty is written as a product. -/
theorem Means.writes_of_ne {symbol : String} {scale : α} {d : Dimension}
    (h : Means symbol scale d) (hne : symbol ≠ "") : Writes .product symbol scale d.exponents := by
  cases h with
  | empty => exact absurd rfl hne
  | written hwrites => exact hwrites

/-- A symbol with a meaning is parsed to it. The unit is absolute if the symbol names a temperature
scale. -/
theorem Means.parse {symbol : String} {scale : α} {d : Dimension} (h : Means symbol scale d) :
    ∃ u : PhysicalUnit α, parse symbol = .ok u ∧ u.dimension = d ∧ u.scale = scale ∧
      (u.isAbsolute = true ↔ KnownUnit.NamesScale α symbol) := by
  cases h with
  | empty =>
    refine ⟨dimensionless, parse_eq_ok_iff.2 (.blank rfl), rfl, rfl, ?_⟩
    refine ⟨nofun, fun ⟨unit, hfind, _⟩ => ?_⟩
    cases KnownUnit.isName_of_find? hfind
  | written hwrites =>
    have hne : symbol.toList ≠ [] := mt String.toList_eq_nil_iff.1 hwrites.ne_empty
    have hname : String.ofList symbol.toList = symbol := String.ofList_toList
    have hunit {u : PhysicalUnit α} (h : UnitOf symbol.toList u) :
        PhysicalUnit.parse symbol = .ok u := by
      obtain ⟨e, hspells, -⟩ := hwrites
      rw [parse_eq_ok_iff, hspells.trimmed.trimBlanks_eq]
      exact h
    cases hfind : (KnownUnit.find? symbol : Option (KnownUnit α)) with
    | some unit =>
      obtain ⟨hscale, hexponents⟩ := (KnownUnit.writes hfind).toProduct.unique hwrites
      refine ⟨_, hunit (.known hne (hname.symm ▸ hfind)),
        Dimension.exponents_injective hexponents, hscale, ?_⟩
      refine ⟨fun h => ⟨unit, hfind, h⟩, fun ⟨named, hnamed, h⟩ => ?_⟩
      cases hfind.symm.trans hnamed
      exact h
    | none =>
      obtain ⟨e, hspells, hfits, rfl, hexponents⟩ := hwrites
      obtain ⟨term, hterm⟩ := hfits.exists_denotes
      refine ⟨_, hunit (.spelled (hname.symm ▸ hfind) hspells hterm),
        Dimension.exponents_injective (hterm.exponents.trans hexponents), hterm.scale, ?_⟩
      refine ⟨nofun, fun ⟨named, hnamed, _⟩ => ?_⟩
      cases hfind.symm.trans hnamed

/-- What is parsed has a symbol that means it. -/
theorem means_of_parse {expression : String} {u : PhysicalUnit α}
    (h : PhysicalUnit.parse expression = .ok u) : Means u.symbol u.scale u.dimension := by
  cases parse_eq_ok_iff.1 h with
  | blank => exact .empty
  | known hne hfind => exact .written (KnownUnit.writes hfind).toProduct
  | spelled hfind hspells hterm =>
    refine .written ⟨_, ?_, hterm.fits, hterm.scale.symm, hterm.exponents.symm⟩
    rw [linear, String.toList_ofList]
    exact hspells

/-! ## Operations -/

section
variable [Scalar.Lawful α] {s t : String} {a b : α} {c d e : Dimension}

/-- The symbol of a product means the product, if the second operand is read as one factor. -/
theorem Means.mul (hs : Means s a c) (ht : Means t b d) (he : c.mul? d = some e)
    (hoperand : s = "" ∨ t = "" ∨ Operand α .power t) :
    Means
      (if s.isEmpty then t else if t.isEmpty then s else grouped s ++ "*" ++ grouped t)
      (a * b) e := by
  cases hs with
  | empty =>
    rw [Dimension.dimensionless_mul?] at he
    cases he
    rw [if_pos (String.isEmpty_iff.2 rfl), Scalar.Lawful.one_mul]
    exact ht
  | written hs =>
    rw [if_neg (mt String.isEmpty_iff.1 hs.ne_empty)]
    cases ht with
    | empty =>
      rw [Dimension.mul?_dimensionless] at he
      cases he
      rw [if_pos (String.isEmpty_iff.2 rfl), Scalar.Lawful.mul_one]
      exact .written hs
    | written ht =>
      rw [if_neg (mt String.isEmpty_iff.1 ht.ne_empty)]
      have hexponents := Dimension.mul?_eq_some_iff.1 he
      have hrange := hexponents ▸ e.inRange_exponents
      have htext := writes_grouped ht
        ((hoperand.resolve_left hs.ne_empty).resolve_left ht.ne_empty)
      refine .written ?_
      rw [hexponents]
      exact (writes_grouped_product hs).join .times htext hrange

/-- The symbol of a quotient means the quotient, if the divisor is read as one factor. -/
theorem Means.div (hs : Means s a c) (ht : Means t b d) (he : c.div? d = some e)
    (hoperand : t = "" ∨ Operand α .power t) :
    Means
      (if t.isEmpty then s else if s.isEmpty then "1/" ++ grouped t
        else grouped s ++ "/" ++ grouped t)
      (a / b) e := by
  cases ht with
  | empty =>
    rw [Dimension.div?_dimensionless] at he
    cases he
    rw [if_pos (String.isEmpty_iff.2 rfl), Scalar.Lawful.div_one]
    exact hs
  | written ht =>
    rw [if_neg (mt String.isEmpty_iff.1 ht.ne_empty)]
    have hexponents := Dimension.div?_eq_some_iff.1 he
    have hrange := hexponents ▸ e.inRange_exponents
    have htext := writes_grouped ht (hoperand.resolve_left ht.ne_empty)
    refine .written ?_
    rw [hexponents]
    cases hs with
    | empty =>
      rw [if_pos (String.isEmpty_iff.2 rfl)]
      exact Dimension.writes_one.join .over htext hrange
    | written hs =>
      rw [if_neg (mt String.isEmpty_iff.1 hs.ne_empty)]
      exact (writes_grouped_product hs).join .over htext hrange

omit [Scalar.Lawful α] in
/-- The symbol of a power means the power, if the base is read as an atom. -/
theorem Means.pow {n : Int} (hs : Means s a c) (he : c.pow? n = some e)
    (hoperand : Operand α .atom s) (hn : -128 ≤ n ∧ n ≤ 127) :
    Means (grouped s ++ "^" ++ toString n) (Scalar.power a n) e := by
  have hexponents := Dimension.pow?_eq_some_iff.1 he
  have hrange := hexponents ▸ e.inRange_exponents
  cases hs with
  | empty =>
    rcases hoperand with hne | ⟨_, _, hwrites⟩
    · exact absurd (by decide) hne
    · exact absurd rfl hwrites.ne_empty
  | written hs =>
    refine .written ?_
    rw [hexponents]
    exact ((writes_grouped hs hoperand).pow hn.1 hn.2 hrange).toProduct

/-- The base unit of a dimension has a symbol that means it, unless an exponent is the least
byte. -/
theorem means_base {d : Dimension} (h : ∀ n ∈ d.exponents, n ≠ -128) :
    Means (base (α := α) d).symbol (Scalar.ofNat 1 : α) d := by
  unfold base
  dsimp only [linear]
  split_ifs with hd
  · subst hd
    exact .empty
  · exact .written (Dimension.writes_baseSymbol h)

end

/-! ## Units formed from parsed units -/

/-- The units that are formed from parsed units by products, quotients, powers, intervals and base
units. The symbol of a last factor or of a divisor keeps its meaning as a power, and the symbol of
the base of a power keeps its meaning as an atom. -/
inductive Formed : PhysicalUnit α → Prop
  | parse {expression : String} {u : PhysicalUnit α} : parse expression = .ok u → Formed u
  | mul {u v w : PhysicalUnit α} : Formed u → Formed v → u.mul v = .ok w →
      (u.symbol = "" ∨ v.symbol = "" ∨ Operand α .power v.symbol) → Formed w
  | div {u v w : PhysicalUnit α} : Formed u → Formed v → u.div v = .ok w →
      (v.symbol = "" ∨ Operand α .power v.symbol) → Formed w
  | pow {u w : PhysicalUnit α} {n : Int} : Formed u → u.pow n = .ok w → Operand α .atom u.symbol →
      (-128 ≤ n ∧ n ≤ 127) → Formed w
  | interval {u : PhysicalUnit α} : Formed u → Formed u.interval
  | baseUnit {u : PhysicalUnit α} (m : α) : Formed u →
      (u.isAbsolute = true ∨ ∀ n ∈ u.dimension.exponents, n ≠ -128) →
      Formed (Quantity.toBaseUnit ⟨m, u⟩).unit

/-- The symbol of a unit means it, and an absolute unit is the known unit that its symbol names. -/
structure Named (u : PhysicalUnit α) : Prop where
  means : Means u.symbol u.scale u.dimension
  known : u.isAbsolute = true →
    ∃ unit : KnownUnit α, KnownUnit.find? u.symbol = some unit ∧ u = unit.named u.symbol

/-- A unit that is parsed is named. -/
theorem named_of_parse {expression : String} {u : PhysicalUnit α}
    (h : PhysicalUnit.parse expression = .ok u) : Named u := by
  refine ⟨means_of_parse h, fun habsolute => ?_⟩
  cases parse_eq_ok_iff.1 h with
  | blank => cases habsolute
  | known _ hfind => exact ⟨_, hfind, rfl⟩
  | spelled => cases habsolute

/-- A linear unit is named if its symbol means it. -/
theorem named_linear {symbol : String} {scale : α} {d : Dimension} (h : Means symbol scale d) :
    Named (linear symbol scale d) :=
  ⟨h, nofun⟩

/-- The unit of intervals of a temperature scale has a name that means it. -/
theorem Named.interval {u : PhysicalUnit α} (h : Named u) : Named u.interval := by
  unfold PhysicalUnit.interval
  split
  · exact h
  next offset interval horigin =>
    obtain ⟨unit, hfind, hunit⟩ := h.known (isAbsolute_iff.2 ⟨offset, interval, horigin⟩)
    have hunitorigin : unit.origin = .absolute offset interval := by
      rw [← horigin, hunit]
      rfl
    obtain ⟨companion, hcompanion, hscale, hdimension⟩ :=
      KnownUnit.interval_of_absolute hfind hunitorigin
    refine named_linear (.written ?_)
    rw [hunit]
    change Writes .product interval unit.scale unit.dimension.exponents
    rw [← hscale, ← hdimension]
    exact (KnownUnit.writes hcompanion).toProduct

/-- The unit of the base temperatures is named. -/
theorem named_kelvin : Named (kelvin : PhysicalUnit α) where
  means := .written (KnownUnit.writes (rfl : KnownUnit.find? "K" = some _)).toProduct
  known _ := ⟨_, rfl, rfl⟩

/-- The absolute units are those that the name of a temperature scale is parsed to. -/
theorem Named.isAbsolute_eq_iff {u v : PhysicalUnit α} (h : Named u)
    (hv : v.isAbsolute = true ↔ KnownUnit.NamesScale α u.symbol) :
    v.isAbsolute = u.isAbsolute ↔ u.isAbsolute = true ∨ ¬ KnownUnit.NamesScale α u.symbol := by
  cases hu : u.isAbsolute with
  | true =>
    obtain ⟨unit, hfind, heq⟩ := h.known hu
    exact ⟨fun _ => .inl rfl, fun _ => hv.2 ⟨unit, hfind, heq ▸ hu⟩⟩
  | false =>
    rw [← hv, Bool.not_eq_true]
    exact ⟨.inr, fun h => h.resolve_left Bool.false_ne_true⟩

section
variable [Scalar.Lawful α]

/-- The symbol of every unit that is formed means it. -/
theorem Formed.named {u : PhysicalUnit α} (h : Formed u) : Named u := by
  induction h with
  | parse hparse => exact named_of_parse hparse
  | mul _ _ hmul hoperand ihl ihr =>
    obtain ⟨d, hd, rfl⟩ := ofParts_eq_ok_iff.1 hmul
    exact named_linear (ihl.means.mul ihr.means hd hoperand)
  | div _ _ hdiv hoperand ihl ihr =>
    obtain ⟨d, hd, rfl⟩ := ofParts_eq_ok_iff.1 hdiv
    exact named_linear (ihl.means.div ihr.means hd hoperand)
  | pow _ hpow hoperand hn ih =>
    obtain ⟨d, hd, rfl⟩ := ofParts_eq_ok_iff.1 hpow
    exact named_linear (ih.means.pow hd hoperand hn)
  | interval _ ih => exact ih.interval
  | @baseUnit u m _ hrange _ =>
    unfold Quantity.toBaseUnit
    dsimp only
    split_ifs with habsolute
    · exact named_kelvin
    · exact named_linear (means_base (hrange.resolve_left habsolute))

/-- The symbol of a unit denotes the unit: it is parsed to the dimension and the scale of the unit,
and quantities convert to it unless the unit is linear and the symbol names a temperature scale. As
an operand it keeps this meaning, and it is one if it holds no character that is overlooked. -/
structure ReadsBack (u : PhysicalUnit α) : Prop where
  parse : ∃ v : PhysicalUnit α, PhysicalUnit.parse u.symbol = .ok v ∧ v.dimension = u.dimension ∧
    v.scale = u.scale ∧
    (v.isCompatible u = true ↔ u.isAbsolute = true ∨ ¬ KnownUnit.NamesScale α u.symbol)
  convert (m : α) : (∃ q, Quantity.convertTo ⟨m, u⟩ u.symbol = .ok q) ↔
    u.isAbsolute = true ∨ ¬ KnownUnit.NamesScale α u.symbol
  grouped (part : Part) : u.symbol ≠ "" → Operand α part u.symbol →
    Writes part (grouped u.symbol) u.scale u.dimension.exponents
  operand (part : Part) : u.symbol ≠ "" → (∀ c ∈ u.symbol.toList, overlooked c = false) →
    Operand α part u.symbol

/-- The symbol of every unit that is formed denotes it. -/
theorem Formed.readsBack {u : PhysicalUnit α} (h : Formed u) : ReadsBack u := by
  obtain ⟨v, hparse, hdimension, hscale, habsolute⟩ := h.named.means.parse
  have hkind := h.named.isAbsolute_eq_iff habsolute
  refine ⟨⟨v, hparse, hdimension, hscale, ?_⟩, fun m => ?_, fun part hne hoperand => ?_,
    fun part hne hsymbol => ?_⟩
  · rw [isCompatible, decide_eq_true_iff, hkind]
    exact and_iff_right hdimension
  · have hconvert : Quantity.convertTo ⟨m, u⟩ u.symbol = Quantity.convert ⟨m, u⟩ v := by
      rw [Quantity.convertTo, hparse]
      rfl
    rw [hconvert, Quantity.exists_convert_iff, ← hkind, eq_comm (a := v.isAbsolute)]
    exact and_iff_right hdimension.symm
  · exact writes_grouped (h.named.means.writes_of_ne hne) hoperand
  · exact operand_of_not_overlooked (h.named.means.writes_of_ne hne) hsymbol part

end

end PhysicalUnit

end ElementAtlas
