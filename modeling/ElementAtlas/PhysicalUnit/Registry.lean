import ElementAtlas.PhysicalUnit.Basic

/-!
# The known units

Every unit has one or more names. The temperature scales are absolute; each has a companion unit for
intervals.
-/

namespace ElementAtlas

/-- A known unit under all its names. -/
structure KnownUnit (α : Type) where
  names : List String
  scale : α
  dimension : Dimension
  origin : Origin α

namespace KnownUnit

variable {α : Type} [Scalar α]

/-- A unit that is a decimal multiple of the base unit. -/
def multiple (names : List String) (scale : Decimal) (dimension : Dimension) : KnownUnit α :=
  ⟨names, Scalar.ofDecimal scale, dimension, .linear⟩

/-- The size of a degree Fahrenheit: five ninths of a kelvin. -/
def fahrenheit : α := Scalar.ofNat 5 / Scalar.ofNat 9

/-- The temperature scales, and the units of their intervals. -/
def temperatures : List (KnownUnit α) := [
  ⟨["K", "kelvin", "°K", "degK"], Scalar.ofNat 1, .ofTemperature,
    .absolute (Scalar.ofNat 0) "K"⟩,
  ⟨["degC", "°C", "celsius", "degree_Celsius"], Scalar.ofNat 1, .ofTemperature,
    .absolute (Scalar.ofDecimal 273.15) "delta_degC"⟩,
  ⟨["degF", "°F", "fahrenheit", "degree_Fahrenheit"], fahrenheit, .ofTemperature,
    .absolute (Scalar.ofDecimal 459.67 * fahrenheit) "delta_degF"⟩,
  ⟨["delta_degC", "Δ°C"], Scalar.ofNat 1, .ofTemperature, .linear⟩,
  ⟨["delta_degF", "Δ°F"], fahrenheit, .ofTemperature, .linear⟩]

/-- The units that are multiples of base units. -/
def multiples : List (KnownUnit α) := [
  multiple ["kg", "kilogram", "kilograms"] 1.0 .ofMass,
  multiple ["g", "gram", "grams"] 1e-3 .ofMass,
  multiple ["mg", "milligram", "milligrams"] 1e-6 .ofMass,
  multiple ["t", "tonne", "tonnes"] 1e3 .ofMass,
  multiple ["lb", "pound", "pounds"] 0.45359237 .ofMass,
  multiple ["oz", "ounce", "ounces"] 0.028349523125 .ofMass,
  multiple ["m", "meter", "metre", "meters", "metres"] 1.0 .ofLength,
  multiple ["mm", "millimeter", "millimetre"] 1e-3 .ofLength,
  multiple ["cm", "centimeter", "centimetre"] 1e-2 .ofLength,
  multiple ["km", "kilometer", "kilometre"] 1e3 .ofLength,
  multiple ["s", "sec", "second", "seconds"] 1.0 .ofTime,
  multiple ["ms", "millisecond", "milliseconds"] 1e-3 .ofTime,
  multiple ["min", "minute", "minutes"] 60.0 .ofTime,
  multiple ["h", "hr", "hour", "hours"] 3600.0 .ofTime,
  multiple ["cycle", "cycles"] 600.0 .ofTime,
  multiple ["mol", "mole", "moles"] 1.0 .ofSubstance,
  multiple ["mmol", "millimole"] 1e-3 .ofSubstance,
  multiple ["kmol", "kilomole"] 1e3 .ofSubstance,
  multiple ["J", "joule", "joules"] 1.0 .energy,
  multiple ["kJ", "kilojoule", "kilojoules"] 1e3 .energy,
  multiple ["DTU", "dtu"] 1.0 .energy,
  multiple ["kDTU"] 1e3 .energy,
  multiple ["cal", "calorie", "calories"] 4.184 .energy,
  multiple ["kcal", "kilocalorie", "kilocalories"] 4184.0 .energy,
  multiple ["W", "watt", "watts"] 1.0 .power,
  multiple ["kW", "kilowatt", "kilowatts"] 1e3 .power,
  multiple ["L", "l", "liter", "litre", "liters", "litres"] 1e-3 .volume,
  multiple ["mL", "ml", "milliliter", "millilitre"] 1e-6 .volume,
  multiple ["tile", "tiles"] 1.0 .volume,
  multiple ["rad", "rads"] 1.0 .ofRadiation,
  multiple ["dimensionless"] 1.0 .dimensionless,
  multiple ["%", "percent"] 1e-2 .dimensionless]

/-- The unit with the given name. -/
def find? (name : String) : Option (KnownUnit α) :=
  (temperatures ++ multiples).find? (fun unit => unit.names.contains name)

end KnownUnit

end ElementAtlas
