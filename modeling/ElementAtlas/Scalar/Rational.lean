import ElementAtlas.Scalar.Basic

/-!
# The rationals as scalars

Over the rationals conversion and arithmetic lose nothing, so what the units and quantities compute
can be told apart from how doubles round it. A rational is written as a fraction.
-/

namespace ElementAtlas.Rational

/-- A decimal as a rational. -/
def ofDecimal (d : Decimal) : Rat :=
  if d.exponent < 0 then mkRat d.digits (Nat.pow 10 d.exponent.natAbs)
  else mkRat (d.digits * Nat.pow 10 d.exponent.natAbs) 1

instance : Scalar Rat where
  ofDecimal := ofDecimal
  le x y := decide (x ≤ y)
  totalOrder x y := if x < y then .lt else if x = y then .eq else .gt
  isFinite _ := true
  text _ x := toString x.num ++ (if x.den = 1 then "" else "/" ++ toString x.den)

end ElementAtlas.Rational
