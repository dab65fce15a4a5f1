import ElementAtlas.Query.Arguments
import ElementAtlas.Element.Heat
import ElementAtlas.Text.Search

/-!
# Fields and methods of values

A field of a value is another value. A method is looked up like a field and yields a value that
remembers what it was looked up on; calling that value runs the method.
-/

namespace ElementAtlas.Value

variable {α : Type} [Scalar α]

/-- A field of an element. -/
def elementField (m : Member α) (name : String) : Except QueryError (Value α) :=
  let e := m.element
  match name with
  | "name" => .ok (.text e.name)
  | "pretty_name" => .ok (.text e.displayName)
  | "state" => .ok (.state e.state)
  | "specific_heat_capacity" => .ok (.quantity e.specificHeatCapacity)
  | "thermal_conductivity" => .ok (.quantity e.thermalConductivity)
  | "molar_mass" => .ok (.quantity e.molarMass)
  | "radiation_absorption" => .ok (.quantity e.radiationAbsorption)
  | "radioactivity" => .ok (.quantity e.radioactivity)
  | "mass_per_tile" => .ok (ofQuantity? e.massPerTile)
  | "low_transition" => .ok ((e.lowTransition.map (.transition m.id .low)).getD .none)
  | "high_transition" => .ok ((e.highTransition.map (.transition m.id .high)).getD .none)
  | "density" => (QueryError.ofQuantity e.density).map ofQuantity?
  | "thermal_diffusivity" => (QueryError.ofQuantity e.thermalDiffusivity).map ofQuantity?
  | "heat_energy" | "temperature_change" => .ok (.method (.element m) name)
  | _ => .error (.noSuchField .element name)

/-- A field of a transition. -/
def transitionField (atlas : Atlas α) (t : Transition α ElementId) (name : String) :
    Except QueryError (Value α) :=
  match name with
  | "temperature" => .ok (.quantity t.temperature)
  | "target" => atlas.valueAt t.target
  | "target_name" => .ok (.text t.targetName)
  | "byproduct" => (t.byproduct.map atlas.valueAt).getD (.ok .none)
  | "byproduct_name" => .ok ((t.byproductName.map .text).getD .none)
  | "byproduct_ratio" => .ok ((t.byproductRatio.map .number).getD .none)
  | _ => .error (.noSuchField .transition name)

/-- A field or a method of a value. -/
def field (atlas : Atlas α) (value : Value α) (name : String) : Except QueryError (Value α) :=
  match value with
  | .element m => elementField m name
  | .transition _ _ t => transitionField atlas t name
  | .quantity q =>
    match name with
    | "m" | "magnitude" => .ok (.number q.magnitude)
    | "units" => .ok (.text q.unit.symbol)
    | "dimensionality" => .ok (.text q.dimension.text)
    | "to" | "to_base_units" | "to_delta" => .ok (.method value name)
    | _ => .error (.noSuchField .quantity name)
  | .state s =>
    match name with
    | "name" => .ok (.text s.name)
    | _ => .error (.noSuchField .state name)
  | .text s =>
    match name with
    | "len" => .ok (.number (Scalar.ofNat s.length))
    | "contains" | "starts_with" | "ends_with" => .ok (.method value name)
    | _ => .error (.noSuchField .text name)
  | .list items =>
    match name with
    | "len" => .ok (.number (Scalar.ofNat items.length))
    | _ => .error (.noSuchField .list name)
  | other => .error (.noSuchField other.kind name)

/-- The arguments of a method with the given parameters, where a fault names the method. -/
def argumentsOf {n : Nat} (method : String) (arguments : Arguments α)
    (parameters : Vector String n) : Except QueryError (Vector (Literal α) n) :=
  (arguments.bind parameters).mapError (.badArguments method)

/-- The one argument of a method, a text. -/
def textArgument (method parameter : String) (arguments : Arguments α) :
    Except QueryError String := do
  let given ← argumentsOf method arguments #v[parameter]
  given[0].toText.mapError (.badArguments method)

/-- The two arguments of a method, both quantities. -/
def quantityArguments (method first second : String) (arguments : Arguments α) :
    Except QueryError (Quantity α × Quantity α) := do
  let given ← argumentsOf method arguments #v[first, second]
  let q ← given[0].toQuantity.mapError (.badArguments method)
  let r ← given[1].toQuantity.mapError (.badArguments method)
  return (q, r)

/-- Runs a method that was looked up on a value. -/
def callMethod (receiver : Value α) (method : String) (arguments : Arguments α) :
    Except QueryError (Value α) :=
  match receiver, method with
  | .quantity q, "to" => do
    let unit ← textArgument method "unit" arguments
    (QueryError.ofQuantity (q.convertTo unit)).map .quantity
  | .quantity q, "to_base_units" => do
    let _ ← argumentsOf method arguments #v[]
    return .quantity q.toBaseUnit
  | .quantity q, "to_delta" => do
    let _ ← argumentsOf method arguments #v[]
    return .quantity q.toInterval
  | .element m, "heat_energy" => do
    let (interval, mass) ← quantityArguments method "delta_t" "mass" arguments
    (QueryError.ofQuantity (m.element.heatEnergy interval mass)).map .quantity
  | .element m, "temperature_change" => do
    let (energy, mass) ← quantityArguments method "energy" "mass" arguments
    (QueryError.ofQuantity (m.element.temperatureChange energy mass)).map .quantity
  | .text s, "contains" => do
    return .bool (Text.contains s (← textArgument method "pattern" arguments))
  | .text s, "starts_with" => do
    return .bool (Text.beginsWith s (← textArgument method "pattern" arguments))
  | .text s, "ends_with" => do
    return .bool (Text.endsWith s (← textArgument method "pattern" arguments))
  | receiver, _ => .error (.notCallable receiver.kind)

/-- Calls a value, which has to be a method. -/
def call (value : Value α) (arguments : Arguments α) : Except QueryError (Value α) :=
  match value with
  | .method receiver name => callMethod receiver name arguments
  | other => .error (.notCallable other.kind)

end ElementAtlas.Value
