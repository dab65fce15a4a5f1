import ElementAtlas.Scalar.Basic
import ElementAtlas.Decimal.Binary

/-!
# The doubles as scalars

Programs compute with doubles. Decimals are rounded to the nearest double; one that lies beyond the
range of the format is found to do so from its number of digits, without computing the power of ten.
-/

namespace ElementAtlas.Double

/-- The double nearest to a decimal. -/
def ofDecimal (d : Decimal) : Float :=
  let order := ((Nat.toDigits 10 d.digits).length : Int) + d.exponent
  if d.digits = 0 ∨ order < -330 then 0.0
  else if 310 < order then 1.0 / 0.0
  else Float.ofScientific d.digits (d.exponent < 0) d.exponent.natAbs

/-- The place of a double in the total order of the format, which runs from the negative infinity
through the zeros, the negative one first, to the positive infinity and beyond it to what is no
number. -/
def place (x : Float) : Int :=
  let bits := x.toBits.toNat
  if bits < Nat.pow 2 63 then bits else -((bits - Nat.pow 2 63 : Nat) : Int) - 1

instance : Scalar Float where
  ofDecimal := ofDecimal
  le x y := decide (x ≤ y)
  totalOrder x y := compare (place x) (place y)
  isFinite x := x.isFinite
  text := text

end ElementAtlas.Double
