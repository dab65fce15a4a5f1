/-!
# Dimensions

A dimension is the exponents of six base quantities. Exponents are bytes with a sign: a product,
quotient or power whose exponents leave that range has no dimension, and the operations that form
one say so by returning none.
-/

namespace ElementAtlas

/-- The exponents of the base quantities. -/
structure Dimension where
  mass : Int8
  length : Int8
  time : Int8
  temperature : Int8
  substance : Int8
  radiation : Int8
deriving DecidableEq, Repr

namespace Dimension

/-- The dimension of plain numbers. -/
def dimensionless : Dimension := ⟨0, 0, 0, 0, 0, 0⟩

def ofMass : Dimension := ⟨1, 0, 0, 0, 0, 0⟩

def ofLength : Dimension := ⟨0, 1, 0, 0, 0, 0⟩

def ofTime : Dimension := ⟨0, 0, 1, 0, 0, 0⟩

def ofTemperature : Dimension := ⟨0, 0, 0, 1, 0, 0⟩

def ofSubstance : Dimension := ⟨0, 0, 0, 0, 1, 0⟩

def ofRadiation : Dimension := ⟨0, 0, 0, 0, 0, 1⟩

def volume : Dimension := ⟨0, 3, 0, 0, 0, 0⟩

def density : Dimension := ⟨1, -3, 0, 0, 0, 0⟩

def energy : Dimension := ⟨1, 2, -2, 0, 0, 0⟩

def power : Dimension := ⟨1, 2, -3, 0, 0, 0⟩

/-- An exponent, if the integer is in its range. -/
def exponent? (n : Int) : Option Int8 :=
  if -128 ≤ n ∧ n ≤ 127 then some (Int8.ofInt n) else none

/-- Combines the exponents of two dimensions one by one, unless one result is out of range. -/
def combine? (f : Int → Int → Int) (a b : Dimension) : Option Dimension := do
  let mass ← exponent? (f a.mass.toInt b.mass.toInt)
  let length ← exponent? (f a.length.toInt b.length.toInt)
  let time ← exponent? (f a.time.toInt b.time.toInt)
  let temperature ← exponent? (f a.temperature.toInt b.temperature.toInt)
  let substance ← exponent? (f a.substance.toInt b.substance.toInt)
  let radiation ← exponent? (f a.radiation.toInt b.radiation.toInt)
  return { mass, length, time, temperature, substance, radiation }

/-- The dimension of a product. -/
def mul? (a b : Dimension) : Option Dimension := combine? (· + ·) a b

/-- The dimension of a quotient. -/
def div? (a b : Dimension) : Option Dimension := combine? (· - ·) a b

/-- The dimension of a power. -/
def pow? (a : Dimension) (n : Int) : Option Dimension := combine? (fun e _ => e * n) a a

/-- The exponents in the order of the base quantities. -/
def bytes (d : Dimension) : List Int8 :=
  [d.mass, d.length, d.time, d.temperature, d.substance, d.radiation]

/-- The exponents as integers. -/
def exponents (d : Dimension) : List Int := d.bytes.map Int8.toInt

/-- How a product of powers is written: the text of a power other than the first, and the texts
between two factors and before each divisor. -/
structure Layout where
  power : String → Int8 → String
  times : String
  per : String

/-- A power in a layout. The first power is not marked. -/
def Layout.term (layout : Layout) (symbol : String) (n : Int8) : String :=
  if n = 1 then symbol else layout.power symbol n

/-- Writes the product of powers of the given symbols: the factors with positive exponents, or a
`1` if there are none, then each factor with a negative exponent as a divisor.

The exponent of a divisor is written without its sign, which is computed on the byte: the exponent
-128 overflows, and keeps its sign where the overflow is not checked. -/
def write (layout : Layout) (symbols : List String) (d : Dimension) : String :=
  let powers := symbols.zip d.bytes
  let factors := (powers.filter (0 < ·.2)).map fun (symbol, n) => layout.term symbol n
  let divisors := (powers.filter (·.2 < 0)).map fun (symbol, n) =>
    layout.per ++ layout.term symbol (-n)
  (if factors.isEmpty then "1" else layout.times.intercalate factors) ++ String.join divisors

/-- How the symbols of base units are written. -/
def symbolLayout : Layout := ⟨fun symbol n => symbol ++ "^" ++ toString n, "*", "/"⟩

/-- How the names of dimensions are written. -/
def nameLayout : Layout := ⟨fun name n => name ++ " ** " ++ toString n, " * ", " / "⟩

/-- The symbol of the base unit of a dimension, such as `m^2/s`. -/
def baseSymbol (d : Dimension) : String :=
  d.write symbolLayout ["kg", "m", "s", "K", "mol", "rad"]

/-- The name of a dimension, such as `[length] ** 2 / [time]`. -/
def text (d : Dimension) : String :=
  if d = dimensionless then "dimensionless"
  else
    d.write nameLayout
      ["[mass]", "[length]", "[time]", "[temperature]", "[substance]", "[radiation]"]

end Dimension

end ElementAtlas
