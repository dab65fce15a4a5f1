import ElementAtlas.Quantity

/-!
# Elements and their transitions

An element has a state, physical properties, and up to two transitions: the low one, below whose
temperature it condenses or freezes, and the high one, above which it boils or melts. A transition
refers to the element it leads to and, if it releases one, to a byproduct.

What such a reference is is a parameter `ρ`. In a *definition* there are only the names of the other
elements, and the references are empty; in an atlas they are the places of the elements.
-/

namespace ElementAtlas

/-- The state of matter of an element. -/
inductive State where
  | vacuum
  | solid
  | liquid
  | gas
deriving DecidableEq, Repr, Ord

namespace State

def all : List State := [.vacuum, .solid, .liquid, .gas]

def name : State → String
  | .vacuum => "Vacuum"
  | .solid => "Solid"
  | .liquid => "Liquid"
  | .gas => "Gas"

def ofName? (name : String) : Option State := all.find? (fun state => state.name = name)

end State

/-- The two sides on which an element may change its state. -/
inductive Side where
  | low
  | high
deriving DecidableEq, Repr

def Side.name : Side → String
  | .low => "low"
  | .high => "high"

/-- A change of state: at its temperature the element becomes the target. Besides, it may release
a byproduct, to which a ratio of the mass goes. -/
structure Transition (α ρ : Type) where
  temperature : Quantity α
  target : ρ
  targetName : String
  byproduct : Option ρ
  byproductName : Option String
  byproductRatio : Option α

/-- A substance and its properties. The display name of a definition is a key into a string
table. -/
structure Element (α ρ : Type) where
  name : String
  displayName : String
  state : State
  specificHeatCapacity : Quantity α
  thermalConductivity : Quantity α
  molarMass : Quantity α
  radiationAbsorption : Quantity α
  radioactivity : Quantity α
  /-- The mass of one full tile, that is of a cubic metre. -/
  massPerTile : Option (Quantity α)
  lowTransition : Option (Transition α ρ)
  highTransition : Option (Transition α ρ)

/-- An element that refers to others by name only. -/
abbrev Definition (α : Type) := Element α Unit

variable {α ρ σ : Type}

/-- The transition on one side. -/
def Element.transition? (e : Element α ρ) : Side → Option (Transition α ρ)
  | .low => e.lowTransition
  | .high => e.highTransition

/-- Elements are told apart by their names alone. -/
def Element.sameAs (e : Element α ρ) (f : Element α σ) : Bool := e.name == f.name

variable [Scalar α]

/-- Transitions are equal if they lead to elements of one name at equal temperatures. -/
def Transition.sameAs (t : Transition α ρ) (u : Transition α σ) : Bool :=
  t.targetName == u.targetName && t.temperature == u.temperature

/-- The target and the temperature of a transition. -/
def Transition.text (t : Transition α ρ) : String :=
  t.targetName ++ " @ " ++ t.temperature.text (some 1)

end ElementAtlas
