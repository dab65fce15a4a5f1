import ElementAtlas.Element.Basic

/-!
# Derived properties of elements

The density, the thermal diffusivity, and the heat that a mass of an element takes up when its
temperature changes. All go through the arithmetic of quantities, so that arguments in any unit of
the right dimension are accepted and all others are refused.
-/

namespace ElementAtlas.Element

variable {α ρ : Type} [Scalar α]

/-- The mass of a tile over the volume of a tile, if the element has a mass per tile. -/
def density (e : Element α ρ) : Except QuantityError (Option (Quantity α)) :=
  match e.massPerTile with
  | none => .ok none
  | some mass =>
    (mass.unit.div (.linear "m^3" (Scalar.ofNat 1) .volume)).map fun unit =>
      some ⟨mass.magnitude, unit⟩

/-- The thermal conductivity over the heat capacity of a volume, in base units. An element without
a mass per tile counts as having the density one, and an element without a heat capacity has no
diffusivity. -/
def thermalDiffusivity (e : Element α ρ) : Except QuantityError (Option (Quantity α)) := do
  if e.specificHeatCapacity.magnitude == Scalar.ofNat 0 then return none
  else
    let one : Quantity α := ⟨Scalar.ofNat 1, .linear "kg/m^3" (Scalar.ofNat 1) .density⟩
    let density := (← e.density).getD one
    let capacity ← e.specificHeatCapacity.mul density
    let diffusivity ← e.thermalConductivity.div capacity
    return some diffusivity.toBaseUnit

/-- The heat that a mass of the element takes up for each degree. -/
def heatPerDegree (e : Element α ρ) (mass : Quantity α) : Except QuantityError (Quantity α) := do
  e.specificHeatCapacity.mul (← mass.convertTo "g")

/-- The heat that a mass of the element takes up when its temperature changes by an interval. -/
def heatEnergy (e : Element α ρ) (interval mass : Quantity α) :
    Except QuantityError (Quantity α) := do
  let perDegree ← e.heatPerDegree mass
  let heat ← perDegree.mul (← interval.convertTo "delta_degC")
  heat.convertTo "DTU"

/-- The interval by which the temperature of a mass of the element changes when it takes up an
energy. -/
def temperatureChange (e : Element α ρ) (energy mass : Quantity α) :
    Except QuantityError (Quantity α) := do
  let perDegree ← e.heatPerDegree mass
  let change ← (← energy.convertTo "DTU").div perDegree
  change.convertTo "delta_degC"

end ElementAtlas.Element
