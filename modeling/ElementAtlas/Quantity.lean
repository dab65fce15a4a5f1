import ElementAtlas.PhysicalUnit.Expression

/-!
# Quantities

A quantity is a magnitude in a unit. Quantities in compatible units convert, compare and add; any
two multiply and divide, unless one is a temperature counted from a zero of its own.

A difference of two absolute temperatures is an interval, an absolute temperature and an interval
add up to an absolute temperature, and no other sum holds an absolute temperature.
-/

namespace ElementAtlas

/-- A magnitude in a unit. -/
structure Quantity (α : Type) where
  magnitude : α
  unit : PhysicalUnit α
deriving Repr

namespace Quantity

variable {α : Type} [Scalar α]

/-- The quantity of a magnitude in the unit of an expression. -/
def parse (magnitude : α) (unit : String) : Except QuantityError (Quantity α) :=
  (PhysicalUnit.parse unit).map (⟨magnitude, ·⟩)

/-- The quantity of a magnitude that may be absent. An absent one stays absent, whatever the
unit. -/
def parse? (magnitude : Option α) (unit : String) : Except QuantityError (Option (Quantity α)) :=
  match magnitude with
  | none => .ok none
  | some magnitude => (parse magnitude unit).map some

omit [Scalar α] in
def dimension (q : Quantity α) : Dimension := q.unit.dimension

omit [Scalar α] in
def isAbsolute (q : Quantity α) : Bool := q.unit.isAbsolute

/-- The magnitude in base units. -/
def baseValue (q : Quantity α) : α := q.unit.toBase q.magnitude

/-- The quantity in another unit. -/
def convert (q : Quantity α) (unit : PhysicalUnit α) : Except QuantityError (Quantity α) := do
  q.unit.checkCompatible unit
  return ⟨unit.ofBase q.baseValue, unit⟩

/-- The quantity in the unit of an expression. -/
def convertTo (q : Quantity α) (unit : String) : Except QuantityError (Quantity α) := do
  q.convert (← PhysicalUnit.parse unit)

/-- The quantity in the base unit of its dimension, or in kelvin if it is an absolute
temperature. -/
def toBaseUnit (q : Quantity α) : Quantity α :=
  ⟨q.baseValue, if q.isAbsolute then .kelvin else .base q.dimension⟩

/-- An absolute temperature as the interval above the zero of its scale. -/
def toInterval (q : Quantity α) : Quantity α := ⟨q.magnitude, q.unit.interval⟩

/-- The order of two quantities, compared in the unit of the first. -/
def compare (q r : Quantity α) : Except QuantityError Ordering :=
  (r.convert q.unit).map fun r => Scalar.compare q.magnitude r.magnitude

/-- Whether two quantities are equal, compared in the unit of the first. -/
def equals (q r : Quantity α) : Except QuantityError Bool :=
  (q.compare r).map (· = .eq)

/-- The order of two quantities, none if their units are not compatible. -/
def compare? (q r : Quantity α) : Option Ordering := (q.compare r).toOption

/-- Equality of quantities: those in incompatible units differ. -/
instance : BEq (Quantity α) where
  beq q r := q.compare? r = some .eq

/-- The sum, in the unit of the absolute operand if there is one, and else in that of the first. -/
def add (q r : Quantity α) : Except QuantityError (Quantity α) :=
  match q.isAbsolute, r.isAbsolute with
  | false, false => (r.convert q.unit).map fun r => ⟨q.magnitude + r.magnitude, q.unit⟩
  | true, false => (r.convert q.unit.interval).map fun r => ⟨q.magnitude + r.magnitude, q.unit⟩
  | false, true => (q.convert r.unit.interval).map fun q => ⟨q.magnitude + r.magnitude, r.unit⟩
  | true, true => .error (.offset r.unit.symbol .addition)

/-- The difference: an interval between two points, and else in the unit of the first operand. -/
def sub (q r : Quantity α) : Except QuantityError (Quantity α) :=
  match q.isAbsolute, r.isAbsolute with
  | false, false => (r.convert q.unit).map fun r => ⟨q.magnitude - r.magnitude, q.unit⟩
  | true, false => (r.convert q.unit.interval).map fun r => ⟨q.magnitude - r.magnitude, q.unit⟩
  | true, true =>
    (r.convert q.unit).map fun r => ⟨q.magnitude - r.magnitude, q.unit.interval⟩
  | false, true => .error (.offset r.unit.symbol .subtraction)

/-- Fails if one of the units, the first before the second, has a zero of its own. -/
def checkFactors (q r : Quantity α) (operation : Operation) : Except QuantityError Unit :=
  if q.unit.hasOffset then .error (.offset q.unit.symbol operation)
  else if r.unit.hasOffset then .error (.offset r.unit.symbol operation)
  else .ok ()

/-- The product, which no unit with a zero of its own has. -/
def mul (q r : Quantity α) : Except QuantityError (Quantity α) := do
  q.checkFactors r .multiplication
  return ⟨q.magnitude * r.magnitude, ← q.unit.mul r.unit⟩

/-- The quotient. A zero divides as it does among the scalars. -/
def div (q r : Quantity α) : Except QuantityError (Quantity α) := do
  q.checkFactors r .division
  return ⟨q.magnitude / r.magnitude, ← q.unit.div r.unit⟩

/-- The quantity so many times. -/
def scale (q : Quantity α) (factor : α) : Quantity α := ⟨q.magnitude * factor, q.unit⟩

/-- One of so many equal parts of the quantity. -/
def unscale (q : Quantity α) (divisor : α) : Quantity α := ⟨q.magnitude / divisor, q.unit⟩

/-- The magnitude, with so many decimal places or as many as it needs, and the symbol of the
unit. -/
def text (places : Option Nat) (q : Quantity α) : String :=
  let magnitude := Scalar.text places q.magnitude
  if q.unit.symbol.isEmpty then magnitude else magnitude ++ " " ++ q.unit.symbol

end Quantity

end ElementAtlas
