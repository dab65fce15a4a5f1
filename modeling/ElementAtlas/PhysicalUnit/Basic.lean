import ElementAtlas.Scalar.Basic
import ElementAtlas.Dimension

/-!
# Units of measure

A unit has a symbol, a dimension and a scale over the base unit of that dimension. Most units are
*linear*: a magnitude is a multiple of the scale. A temperature written on its own is *absolute*: it
is a point on a scale whose zero lies `offset` above that of the base unit. Absolute and linear
units never convert into each other, also where their dimensions agree.

The symbol of a product, quotient or power is put together from the symbols of its operands, which
are put in parentheses when they hold an operator or a space.
-/

namespace ElementAtlas

/-- Where the magnitudes of a unit count from. The name is that of the unit of intervals with the
same scale. -/
inductive Origin (α : Type) where
  | linear
  | absolute (offset : α) (interval : String)
deriving BEq, Repr

/-- A unit of measure. -/
structure PhysicalUnit (α : Type) where
  symbol : String
  scale : α
  dimension : Dimension
  origin : Origin α
deriving BEq, Repr

/-- What a conversion error tells about a unit. -/
structure UnitLabel where
  symbol : String
  dimension : Dimension
  isAbsolute : Bool
deriving DecidableEq, Repr

/-- What is wrong with a unit expression, apart from the names in it. -/
inductive UnitFault where
  | unexpected (c : Char)
  | unexpectedEnd
  | unclosed
  | unbalanced
  | malformedNumber
  | malformedExponent
  | exponentRange
deriving DecidableEq, Repr

/-- The operations that absolute temperatures are kept out of. -/
inductive Operation where
  | addition
  | subtraction
  | multiplication
  | division
deriving DecidableEq, Repr

/-- Why a unit could not be read, or an operation on quantities be carried out. -/
inductive QuantityError where
  | incompatible (source target : UnitLabel)
  | unknownUnit (name : String)
  | malformed (expression : String) (fault : UnitFault)
  | offset (symbol : String) (operation : Operation)
deriving DecidableEq, Repr

/-- The dimension in words, marked if it is that of points on a scale. -/
def UnitLabel.dimensionText (label : UnitLabel) : String :=
  (if label.isAbsolute then "absolute " else "") ++ label.dimension.text

/-- What is said about an expression that is refused. -/
def UnitFault.message : UnitFault → String
  | .unexpected c => "unexpected '" ++ c.toString ++ "'"
  | .unexpectedEnd => "unexpected end of expression"
  | .unclosed => "missing ')'"
  | .unbalanced => "unbalanced ')'"
  | .malformedNumber => "malformed number"
  | .malformedExponent => "expected an integer exponent"
  | .exponentRange => "dimension exponent out of range"

def Operation.name : Operation → String
  | .addition => "addition"
  | .subtraction => "subtraction"
  | .multiplication => "multiplication"
  | .division => "division"

/-- What is said about an operation that fails. -/
def QuantityError.message : QuantityError → String
  | .incompatible source target =>
    s!"cannot convert from '{source.symbol}' ({source.dimensionText})" ++
      s!" to '{target.symbol}' ({target.dimensionText})"
  | .unknownUnit name => s!"unknown unit '{name}'"
  | .malformed expression fault => s!"malformed unit expression '{expression}': {fault.message}"
  | .offset symbol operation =>
    s!"'{symbol}' is an absolute temperature and cannot be used in {operation.name}"

namespace PhysicalUnit

variable {α : Type} [Scalar α]

/-- A unit whose magnitudes are multiples of its scale. -/
def linear (symbol : String) (scale : α) (dimension : Dimension) : PhysicalUnit α :=
  ⟨symbol, scale, dimension, .linear⟩

/-- The unit of plain numbers, whose symbol is empty. -/
def dimensionless : PhysicalUnit α := linear "" (Scalar.ofNat 1) .dimensionless

/-- The base unit of a dimension. -/
def base (dimension : Dimension) : PhysicalUnit α :=
  let symbol := if dimension = .dimensionless then "" else dimension.baseSymbol
  linear symbol (Scalar.ofNat 1) dimension

/-- The base unit of points on a temperature scale. -/
def kelvin : PhysicalUnit α :=
  ⟨"K", Scalar.ofNat 1, .ofTemperature, .absolute (Scalar.ofNat 0) "K"⟩

omit [Scalar α] in
/-- Whether the unit is that of points on a temperature scale. -/
def isAbsolute (u : PhysicalUnit α) : Bool :=
  match u.origin with
  | .linear => false
  | .absolute .. => true

/-- Whether the zero of the unit lies elsewhere than that of the base unit. -/
def hasOffset (u : PhysicalUnit α) : Bool :=
  match u.origin with
  | .linear => false
  | .absolute offset _ => !(offset == Scalar.ofNat 0)

/-- The unit of intervals with the scale of the unit. -/
def interval (u : PhysicalUnit α) : PhysicalUnit α :=
  match u.origin with
  | .linear => u
  | .absolute _ name => linear name u.scale u.dimension

def label (u : PhysicalUnit α) : UnitLabel := ⟨u.symbol, u.dimension, u.isAbsolute⟩

/-- Units convert into each other if they have one dimension and both or neither are absolute. -/
def isCompatible (u v : PhysicalUnit α) : Bool :=
  u.dimension = v.dimension ∧ u.isAbsolute = v.isAbsolute

/-- Fails unless `u` converts into `v`. -/
def checkCompatible (u v : PhysicalUnit α) : Except QuantityError Unit :=
  if u.isCompatible v then .ok () else .error (.incompatible u.label v.label)

/-- The magnitude in base units of a magnitude in the unit. -/
def toBase (u : PhysicalUnit α) (magnitude : α) : α :=
  match u.origin with
  | .linear => magnitude * u.scale
  | .absolute offset _ => magnitude * u.scale + offset

/-- The magnitude in the unit of a magnitude in base units. -/
def ofBase (u : PhysicalUnit α) (value : α) : α :=
  match u.origin with
  | .linear => value / u.scale
  | .absolute offset _ => (value - offset) / u.scale

/-- A symbol as an operand of a larger one. -/
def grouped (symbol : String) : String :=
  if symbol.toList.any (fun c => c = '/' ∨ c = '*' ∨ c = ' ' ∨ c = '^') then "(" ++ symbol ++ ")"
  else symbol

/-- The linear unit of a symbol, a scale and a dimension, if the dimension exists. -/
def ofParts (symbol : String) (scale : α) : Option Dimension → Except QuantityError (PhysicalUnit α)
  | some dimension => .ok (linear symbol scale dimension)
  | none => .error (.malformed symbol .exponentRange)

/-- The product of two units. The symbol of plain numbers is left out. -/
def mul (u v : PhysicalUnit α) : Except QuantityError (PhysicalUnit α) :=
  let symbol :=
    if u.symbol.isEmpty then v.symbol
    else if v.symbol.isEmpty then u.symbol
    else grouped u.symbol ++ "*" ++ grouped v.symbol
  ofParts symbol (u.scale * v.scale) (u.dimension.mul? v.dimension)

/-- The quotient of two units. The symbol of plain numbers is left out of the divisor. -/
def div (u v : PhysicalUnit α) : Except QuantityError (PhysicalUnit α) :=
  let symbol :=
    if v.symbol.isEmpty then u.symbol
    else if u.symbol.isEmpty then "1/" ++ grouped v.symbol
    else grouped u.symbol ++ "/" ++ grouped v.symbol
  ofParts symbol (u.scale / v.scale) (u.dimension.div? v.dimension)

/-- The power of a unit, with the exponent behind its symbol. -/
def pow (u : PhysicalUnit α) (n : Int) : Except QuantityError (PhysicalUnit α) :=
  ofParts (grouped u.symbol ++ "^" ++ toString n) (Scalar.power u.scale n) (u.dimension.pow? n)

end PhysicalUnit

end ElementAtlas
