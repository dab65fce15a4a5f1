import ElementAtlas.Document

/-!
# A built-in sample

The three states of water, as a document and a string table.
-/

namespace ElementAtlas.Sample

open Json

variable {α : Type} [Scalar α]

def number (d : Decimal) : Json α := .number (.real (Scalar.ofDecimal d))

/-- Frozen water, which melts. -/
def ice : Json α := .object <| Fields.ofList
  [("elementId", .string "Ice"), ("localizationID", .string "STRINGS.ELEMENTS.ICE.NAME"),
   ("state", .string "Solid"), ("maxMass", .number (.natural 1840)),
   ("specificHeatCapacity", number 2.05), ("thermalConductivity", number 2.18),
   ("molarMass", number 18.01528), ("radiationAbsorptionFactor", number 0.8),
   ("radiationPer1000Mass", .number (.natural 0)),
   ("highTemp", number 272.5), ("highTempTransitionTarget", .string "Water")]

/-- Liquid water, which freezes and boils. -/
def water : Json α := .object <| Fields.ofList
  [("elementId", .string "Water"), ("localizationID", .string "STRINGS.ELEMENTS.WATER.NAME"),
   ("state", .string "Liquid"), ("maxMass", .number (.natural 1000)),
   ("specificHeatCapacity", number 4.179), ("thermalConductivity", number 0.609),
   ("molarMass", number 18.01528), ("radiationAbsorptionFactor", number 0.8),
   ("radiationPer1000Mass", .number (.natural 0)),
   ("lowTemp", number 272.5), ("lowTempTransitionTarget", .string "Ice"),
   ("highTemp", number 372.5), ("highTempTransitionTarget", .string "Steam")]

/-- Vaporous water, which condenses. -/
def steam : Json α := .object <| Fields.ofList
  [("elementId", .string "Steam"), ("localizationID", .string "STRINGS.ELEMENTS.STEAM.NAME"),
   ("state", .string "Gas"), ("maxMass", number 1.8),
   ("specificHeatCapacity", number 4.179), ("thermalConductivity", number 0.184),
   ("molarMass", number 18.01528), ("radiationAbsorptionFactor", number 0.8),
   ("radiationPer1000Mass", .number (.natural 0)),
   ("lowTemp", number 372.5), ("lowTempTransitionTarget", .string "Water")]

def document : Json α := .object [("elements", .array [ice, water, steam])]

def strings : StringTable := .ofList
  [("STRINGS.ELEMENTS.ICE.NAME", "<link=\"ICE\">Ice</link>"),
   ("STRINGS.ELEMENTS.WATER.NAME", "<link=\"WATER\">Water</link>"),
   ("STRINGS.ELEMENTS.STEAM.NAME", "<link=\"STEAM\">Steam</link>")]

/-- The atlas of the sample. -/
def atlas : Except LoadError (Atlas α) := Document.atlas document strings

end ElementAtlas.Sample
