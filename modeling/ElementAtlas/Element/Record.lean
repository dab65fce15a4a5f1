import ElementAtlas.Element.Basic
import ElementAtlas.Json.Basic

/-!
# Element records

A record is a mapping from field names to JSON values. `Definition.ofRecord` reads a definition from
the fields it knows, in a fixed order, and stops at the first field that is missing or of the wrong
type; all other fields mean nothing. A null is read like an absent field.

A transition has a temperature, in kelvin, and a target. Where one of the two is absent there is no
transition, and what else the record says about it is not read. `Definition.toRecord` writes the
fields back.
-/

namespace ElementAtlas

/-- What a field should have been. -/
inductive FieldType where
  | number
  | string
deriving DecidableEq, Repr

/-- Why a record is no definition. -/
inductive RecordError where
  | missing (field : String)
  | wrongType (field : String) (expected : FieldType)
  | unknownState (name : String)
  | notAMapping
  | quantity (cause : QuantityError)
deriving DecidableEq, Repr

def FieldType.text : FieldType → String
  | .number => "a number"
  | .string => "a string"

/-- What is said about a record that is not read. -/
def RecordError.message : RecordError → String
  | .missing field => s!"missing required field '{field}'"
  | .wrongType field expected => s!"field '{field}' should be {expected.text}"
  | .unknownState name => s!"unknown state '{name}'"
  | .notAMapping => "record is not a field mapping"
  | .quantity cause => cause.message

instance : MonadLift (Except QuantityError) (Except RecordError) where
  monadLift r := r.mapError .quantity

namespace Record

variable {α : Type} [Scalar α]

/-- A field that may be absent and should be a number. -/
def number? (fields : Json.Fields α) (name : String) : Except RecordError (Option α) :=
  match fields.get? name with
  | none | some .null => .ok none
  | some (.number n) => .ok (some n.toScalar)
  | some _ => .error (.wrongType name .number)

omit [Scalar α] in
/-- A field that may be absent and should be a string. -/
def string? (fields : Json.Fields α) (name : String) : Except RecordError (Option String) :=
  match fields.get? name with
  | none | some .null => .ok none
  | some (.string s) => .ok (some s)
  | some _ => .error (.wrongType name .string)

/-- The number of a field that has to be there. -/
def number (fields : Json.Fields α) (name : String) : Except RecordError α := do
  match ← number? fields name with
  | some x => return x
  | none => throw (.missing name)

omit [Scalar α] in
/-- The text of a field that has to be there. -/
def string (fields : Json.Fields α) (name : String) : Except RecordError String := do
  match ← string? fields name with
  | some s => return s
  | none => throw (.missing name)

/-- A field that should be a number, as a quantity. -/
def quantity (fields : Json.Fields α) (name unit : String) :
    Except RecordError (Quantity α) := do
  let magnitude ← number fields name
  Quantity.parse magnitude unit

end Record

/-- The units in which the fields of a record are given. -/
structure RecordUnits where
  specificHeatCapacity : String
  thermalConductivity : String
  molarMass : String
  radiationAbsorption : String
  radioactivity : String
  mass : String

/-- The units of the records that are in use. -/
def RecordUnits.standard : RecordUnits where
  specificHeatCapacity := "DTU/g/°C"
  thermalConductivity := "DTU/(m s)/°C"
  molarMass := "g/mol"
  radiationAbsorption := "dimensionless"
  radioactivity := "rad/kg"
  mass := "kg"

/-- The fields of a transition. -/
inductive TransitionField where
  | temperature
  | target
  | byproduct
  | byproductRatio

/-- The name of a field of the transition on one side. -/
def TransitionField.name (side : Side) : TransitionField → String
  | .temperature => side.name ++ "Temp"
  | .target => side.name ++ "TempTransitionTarget"
  | .byproduct => side.name ++ "TempTransitionOreId"
  | .byproductRatio => side.name ++ "TempTransitionOreMassConversion"

variable {α : Type} [Scalar α]

/-- The transition on one side that a record gives. -/
def Transition.ofRecord (fields : Json.Fields α) (side : Side) :
    Except RecordError (Option (Transition α Unit)) := do
  let temperature ← Record.number? fields (TransitionField.temperature.name side)
  let target ← Record.string? fields (TransitionField.target.name side)
  match temperature, target with
  | some temperature, some targetName =>
    let kelvin ← Quantity.parse temperature "K"
    let temperature ← kelvin.convertTo "degC"
    let byproductRatio ← Record.number? fields (TransitionField.byproductRatio.name side)
    let byproductName ← Record.string? fields (TransitionField.byproduct.name side)
    return some
      { temperature, target := (), targetName, byproduct := byproductName.map fun _ => (),
        byproductName, byproductRatio }
  | _, _ => return none

/-- Writes the fields of the transition on one side. -/
def Transition.toRecord (t : Transition α Unit) (side : Side) (fields : Json.Fields α) :
    Except QuantityError (Json.Fields α) := do
  let temperature ← t.temperature.convertTo "K"
  let fields := fields.insert (TransitionField.temperature.name side)
    (.ofScalar temperature.magnitude)
  let fields := fields.insert (TransitionField.target.name side) (.string t.targetName)
  let fields := match t.byproductName with
    | some name => fields.insert (TransitionField.byproduct.name side) (.string name)
    | none => fields
  return match t.byproductRatio with
    | some ratio => fields.insert (TransitionField.byproductRatio.name side) (.ofScalar ratio)
    | none => fields

namespace Definition

/-- The definition that a record gives. -/
def ofRecord (fields : Json.Fields α) : Except RecordError (Definition α) := do
  let units := RecordUnits.standard
  let name ← Record.string fields "elementId"
  let displayName ← Record.string fields "localizationID"
  let stateName ← Record.string fields "state"
  let some state := State.ofName? stateName | throw (.unknownState stateName)
  let specificHeatCapacity ←
    Record.quantity fields "specificHeatCapacity" units.specificHeatCapacity
  let thermalConductivity ←
    Record.quantity fields "thermalConductivity" units.thermalConductivity
  let molarMass ← Record.quantity fields "molarMass" units.molarMass
  let radiationAbsorption ←
    Record.quantity fields "radiationAbsorptionFactor" units.radiationAbsorption
  let radioactivity ← Record.quantity fields "radiationPer1000Mass" units.radioactivity
  let maxMass ← Record.number? fields "maxMass"
  let massPerTile ← Quantity.parse? maxMass units.mass
  let lowTransition ← Transition.ofRecord fields .low
  let highTransition ← Transition.ofRecord fields .high
  return { name, displayName, state, specificHeatCapacity, thermalConductivity, molarMass,
           radiationAbsorption, radioactivity, massPerTile, lowTransition, highTransition }

/-- The record of a definition. -/
def toRecord (d : Definition α) : Except QuantityError (Json.Fields α) := do
  let units := RecordUnits.standard
  let capacity ← d.specificHeatCapacity.convertTo units.specificHeatCapacity
  let conductivity ← d.thermalConductivity.convertTo units.thermalConductivity
  let molarMass ← d.molarMass.convertTo units.molarMass
  let absorption ← d.radiationAbsorption.convertTo units.radiationAbsorption
  let radioactivity ← d.radioactivity.convertTo units.radioactivity
  let fields := Json.Fields.ofList [
    ("elementId", .string d.name),
    ("localizationID", .string d.displayName),
    ("state", .string d.state.name),
    ("specificHeatCapacity", .ofScalar capacity.magnitude),
    ("thermalConductivity", .ofScalar conductivity.magnitude),
    ("molarMass", .ofScalar molarMass.magnitude),
    ("radiationAbsorptionFactor", .ofScalar absorption.magnitude),
    ("radiationPer1000Mass", .ofScalar radioactivity.magnitude)]
  let fields ← match d.massPerTile with
    | some mass =>
      (mass.convertTo units.mass).map (fields.insert "maxMass" <| .ofScalar ·.magnitude)
    | none => .ok fields
  let fields ← match d.lowTransition with
    | some t => t.toRecord .low fields
    | none => .ok fields
  match d.highTransition with
  | some t => t.toRecord .high fields
  | none => .ok fields

end Definition

end ElementAtlas
