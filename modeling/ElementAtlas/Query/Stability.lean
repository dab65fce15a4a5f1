import ElementAtlas.Query.Predicate

/-!
# Stable elements

An element is stable at a temperature that lies above that of its low transition and below that of
its high transition, where it has them.
-/

namespace ElementAtlas

variable {α : Type}

/-- The temperature of the low transition, absent without one. -/
def Attribute.lowTemperature : Attribute α :=
  (Attribute.ofField "low_transition").optional.field "temperature"

/-- The temperature of the high transition, absent without one. -/
def Attribute.highTemperature : Attribute α :=
  (Attribute.ofField "high_transition").optional.field "temperature"

namespace Predicate

/-- The element is in a state of matter. -/
def isState (state : State) : Predicate α := compare (.ofField "state") .eq (.state state)

/-- An element at the temperature crosses neither of its transitions. -/
def stableAt (temperature : Quantity α) : Predicate α :=
  and
    (or (is (.ofField "low_transition") .none)
      (compare .lowTemperature .lt (.quantity temperature)))
    (or (is (.ofField "high_transition") .none)
      (compare .highTemperature .gt (.quantity temperature)))

/-- The element is stable at both ends of a range of temperatures. -/
def stableOver (low high : Quantity α) : Predicate α := and (stableAt low) (stableAt high)

end Predicate

end ElementAtlas
