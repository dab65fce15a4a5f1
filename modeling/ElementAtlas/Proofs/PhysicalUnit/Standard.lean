import ElementAtlas.Proofs.PhysicalUnit.Symbol
import ElementAtlas.Proofs.Quantity.Measures

/-!
# The units of records and reports

The expressions in which records give quantities and reports show them, and the kind of the unit of
each. The compound ones are put together from names of known units, as the grammar of unit
expressions has it.
-/

namespace ElementAtlas

open UnitExpression

/-! ## Dimensions of properties -/

namespace Dimension

def ofHeatCapacity : Dimension := ⟨0, 2, -2, -1, 0, 0⟩

def ofConductivity : Dimension := ⟨1, 1, -3, -1, 0, 0⟩

def ofDiffusivity : Dimension := ⟨0, 2, -1, 0, 0, 0⟩

def ofMolarMass : Dimension := ⟨1, 0, 0, 0, -1, 0⟩

def ofRadioactivity : Dimension := ⟨-1, 0, 0, 0, 0, 1⟩

end Dimension

variable {α : Type} [Scalar α]

/-! ## Spelling expressions -/

/-- The text spells a part of an expression that has the dimension, whatever its scale. -/
def Denotes (α : Type) [Scalar α] (part : Part) (text : String) (d : Dimension) : Prop :=
  ∃ scale : α, Writes part text scale d.exponents

section
variable {s t : String} {b c d : Dimension}

/-- The name of a known unit denotes the dimension of the unit. -/
theorem KnownUnit.denotes {name : String} {unit : KnownUnit α} {part : Part}
    (h : find? name = some unit) (hd : unit.dimension = d) : Denotes α part name d :=
  ⟨unit.scale, hd ▸ (writes h).ofAtom part⟩

/-- Expressions with a sign between them denote the dimension that the separator makes of theirs. -/
theorem Denotes.join (separator : Separator) (hs : Denotes α .product s c)
    (ht : Denotes α .power t d)
    (hb : b.exponents = separator.joinExponents c.exponents d.exponents) :
    Denotes α .product (s ++ separator.sign ++ t) b := by
  obtain ⟨_, hs⟩ := hs
  obtain ⟨_, ht⟩ := ht
  exact ⟨_, hb ▸ hs.join separator ht (hb ▸ b.inRange_exponents)⟩

/-- Expressions with a blank between them denote the product of their dimensions. -/
theorem Denotes.beside (hs : Denotes α .product s c) (ht : Denotes α .power t d)
    (hb : b.exponents = Separator.times.joinExponents c.exponents d.exponents) :
    Denotes α .product (s ++ " " ++ t) b := by
  obtain ⟨_, hs⟩ := hs
  obtain ⟨_, ht⟩ := ht
  exact ⟨_, hb ▸ hs.beside ht (hb ▸ b.inRange_exponents)⟩

/-- An atom with an exponent denotes the power of its dimension. -/
theorem Denotes.pow {n : Int} (hs : Denotes α .atom s c) (hn : -128 ≤ n ∧ n ≤ 127)
    (hb : b.exponents = c.exponents.map (· * n)) :
    Denotes α .power (s ++ "^" ++ toString n) b := by
  obtain ⟨_, hs⟩ := hs
  exact ⟨_, hb ▸ hs.pow hn.1 hn.2 (hb ▸ b.inRange_exponents)⟩

/-- A power denotes its dimension as a product of one factor. -/
theorem Denotes.product (hs : Denotes α .power s c) : Denotes α .product s c :=
  hs.imp fun _ => Writes.product

/-- Parentheses do not change the dimension that an expression denotes. -/
theorem Denotes.group (hs : Denotes α .product s c) : Denotes α .power ("(" ++ s ++ ")") c :=
  hs.imp fun _ h => h.group.power

/-- A product that is no name is parsed to a linear unit of its dimension. -/
theorem Denotes.spelled (hs : Denotes α .product s d)
    (hname : KnownUnit.isName s.toList = false) : Spelled α s d false := by
  obtain ⟨scale, hwrites⟩ := hs
  obtain ⟨u, hparse, hdimension, -, habsolute⟩ := (PhysicalUnit.Means.written hwrites).parse
  refine ⟨u, hparse, hdimension, Bool.eq_false_iff.2 fun h => ?_⟩
  obtain ⟨unit, hfind, -⟩ := habsolute.1 h
  rw [KnownUnit.isName_of_find? hfind] at hname
  cases hname

end

/-- The name of a known unit is parsed to the unit. -/
theorem KnownUnit.spelled {name : String} {unit : KnownUnit α} {d : Dimension} {absolute : Bool}
    (h : find? name = some unit) (hd : unit.dimension = d)
    (habsolute : (unit.named name).isAbsolute = absolute) : Spelled α name d absolute := by
  have hmeans : PhysicalUnit.Means name unit.scale unit.dimension :=
    .written (writes h).toProduct
  obtain ⟨u, hparse, hdimension, -, hscale⟩ := hmeans.parse
  have hnamed : NamesScale α name ↔ (unit.named name).isAbsolute = true := by
    constructor
    · rintro ⟨other, hother, hnamed⟩
      cases h.symm.trans hother
      exact hnamed
    · intro hnamed
      exact ⟨unit, h, hnamed⟩
  refine ⟨u, hparse, hdimension.trans hd, ?_⟩
  rw [← habsolute, Bool.eq_iff_iff, hscale, hnamed]

/-! ## Compound expressions in use -/

/-- The unit in which heat capacities are recorded is spelled by its expression. -/
theorem spelled_heatCapacity : Spelled α "DTU/g/°C" .ofHeatCapacity false := by
  have henergy : Denotes α .product "DTU" .energy := KnownUnit.denotes rfl rfl
  have hmass : Denotes α .power "g" .ofMass := KnownUnit.denotes rfl rfl
  have hdegree : Denotes α .power "°C" .ofTemperature := KnownUnit.denotes rfl rfl
  have hquotient : Denotes α .product "DTU/g" ⟨0, 2, -2, 0, 0, 0⟩ := henergy.join .over hmass rfl
  have hcapacity : Denotes α .product "DTU/g/°C" .ofHeatCapacity :=
    hquotient.join .over hdegree rfl
  exact hcapacity.spelled (by decide +kernel)

/-- An energy over a length times a time, in whatever way they are multiplied, and a temperature. -/
theorem denotes_conductivity {divisor : String}
    (h : Denotes α .product divisor ⟨0, 1, 1, 0, 0, 0⟩) :
    Denotes α .product ("DTU" ++ "/" ++ ("(" ++ divisor ++ ")") ++ "/" ++ "°C")
      .ofConductivity := by
  have henergy : Denotes α .product "DTU" .energy := KnownUnit.denotes rfl rfl
  have hdegree : Denotes α .power "°C" .ofTemperature := KnownUnit.denotes rfl rfl
  have hquotient : Denotes α .product ("DTU" ++ "/" ++ ("(" ++ divisor ++ ")"))
      ⟨1, 1, -3, 0, 0, 0⟩ := henergy.join .over h.group rfl
  exact hquotient.join .over hdegree rfl

/-- The unit in which conductivities are recorded is spelled by its expression. -/
theorem spelled_conductivity : Spelled α "DTU/(m s)/°C" .ofConductivity false := by
  have hlength : Denotes α .product "m" .ofLength := KnownUnit.denotes rfl rfl
  have htime : Denotes α .power "s" .ofTime := KnownUnit.denotes rfl rfl
  have hdivisor : Denotes α .product "m s" ⟨0, 1, 1, 0, 0, 0⟩ := hlength.beside htime rfl
  exact (denotes_conductivity hdivisor).spelled (by decide +kernel)

/-- The unit in which conductivities are shown is spelled by its expression. -/
theorem spelled_conductivityShown : Spelled α "DTU/(m*s)/°C" .ofConductivity false := by
  have hlength : Denotes α .product "m" .ofLength := KnownUnit.denotes rfl rfl
  have htime : Denotes α .power "s" .ofTime := KnownUnit.denotes rfl rfl
  have hdivisor : Denotes α .product "m*s" ⟨0, 1, 1, 0, 0, 0⟩ := hlength.join .times htime rfl
  exact (denotes_conductivity hdivisor).spelled (by decide +kernel)

/-- The unit in which molar masses are recorded is spelled by its expression. -/
theorem spelled_molarMass : Spelled α "g/mol" .ofMolarMass false := by
  have hmass : Denotes α .product "g" .ofMass := KnownUnit.denotes rfl rfl
  have hsubstance : Denotes α .power "mol" .ofSubstance := KnownUnit.denotes rfl rfl
  have hmolar : Denotes α .product "g/mol" .ofMolarMass := hmass.join .over hsubstance rfl
  exact hmolar.spelled (by decide +kernel)

/-- The unit in which radioactivity is recorded is spelled by its expression. -/
theorem spelled_radioactivity : Spelled α "rad/kg" .ofRadioactivity false := by
  have hradiation : Denotes α .product "rad" .ofRadiation := KnownUnit.denotes rfl rfl
  have hmass : Denotes α .power "kg" .ofMass := KnownUnit.denotes rfl rfl
  have hradioactivity : Denotes α .product "rad/kg" .ofRadioactivity :=
    hradiation.join .over hmass rfl
  exact hradioactivity.spelled (by decide +kernel)

/-- The unit in which diffusivities are shown is spelled by its expression. -/
theorem spelled_diffusivity : Spelled α "mm^2/s" .ofDiffusivity false := by
  have hlength : Denotes α .atom "mm" .ofLength := KnownUnit.denotes rfl rfl
  have htime : Denotes α .power "s" .ofTime := KnownUnit.denotes rfl rfl
  have harea : Denotes α .power "mm^2" ⟨0, 2, 0, 0, 0, 0⟩ := hlength.pow (n := 2) (by decide) rfl
  have hdiffusivity : Denotes α .product "mm^2/s" .ofDiffusivity :=
    harea.product.join .over htime rfl
  exact hdiffusivity.spelled (by decide +kernel)

/-- The unit in which densities are shown is spelled by its expression. -/
theorem spelled_density : Spelled α "kg/m^3" .density false := by
  have hmass : Denotes α .product "kg" .ofMass := KnownUnit.denotes rfl rfl
  have hlength : Denotes α .atom "m" .ofLength := KnownUnit.denotes rfl rfl
  have hvolume : Denotes α .power "m^3" .volume := hlength.pow (n := 3) (by decide) rfl
  have hdensity : Denotes α .product "kg/m^3" .density := hmass.join .over hvolume rfl
  exact hdensity.spelled (by decide +kernel)

end ElementAtlas
