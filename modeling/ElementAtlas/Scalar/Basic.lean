import ElementAtlas.Decimal.Basic

/-!
# Scalars

Magnitudes, scales and offsets are scalars. Units, quantities, elements and queries are written
once, over any type of scalars, in the order in which their operations round. They run over the
doubles (`ElementAtlas.Scalar.Double`); over the rationals (`ElementAtlas.Scalar.Rational`), where
nothing rounds, the same definitions say what is computed but for rounding.

`Scalar.compare` orders two magnitudes with a relative tolerance: magnitudes that agree to nine
digits are equal, all others stand in the total order of the scalars.
-/

namespace ElementAtlas

/-- Numbers to compute with. A type of scalars may hold values that are no numbers: those equal
nothing under `==`, are not ordered by `le`, and have a place in the total order only. -/
class Scalar (α : Type) extends Add α, Sub α, Mul α, Div α, Neg α, BEq α where
  /-- The scalar nearest to a decimal. -/
  ofDecimal : Decimal → α
  /-- Whether one number is at most another. -/
  le : α → α → Bool
  /-- The place of one scalar before or after another, also of those that are no numbers. -/
  totalOrder : α → α → Ordering
  /-- Whether a scalar is a number and not infinite. -/
  isFinite : α → Bool
  /-- The text of a scalar, with the given number of decimal places or with as many as it needs. -/
  text : Option Nat → α → String

namespace Scalar

variable {α : Type} [Scalar α]

/-- The scalar nearest to a natural number. -/
def ofNat (n : Nat) : α := ofDecimal (.ofNat n)

/-- The magnitude of a number without its sign. -/
def abs (x : α) : α := if le (ofNat 0) x then x else -x

/-- The greater of two numbers. -/
def max (x y : α) : α := if le x y then y else x

/-- The relative error within which two magnitudes count as equal. -/
def tolerance : α := ofDecimal 1e-9

/-- Whether two magnitudes are the same, or differ by no more than the tolerance times the greater
of them. -/
def approxEq (x y : α) : Bool := x == y || le (abs (x - y)) (tolerance * max (abs x) (abs y))

/-- The order of two magnitudes: equal within the tolerance, otherwise by their places in the total
order. -/
def compare (x y : α) : Ordering := if approxEq x y then .eq else totalOrder x y

/-- The order of two numbers, none if one of them is no number. -/
def compare? (x y : α) : Option Ordering :=
  if x == y then some .eq else if le x y then some .lt else if le y x then some .gt else none

/-- The factor `r` times `a` to the power `n`, by repeated squaring. -/
def mulPower (r a : α) (n : Nat) : α :=
  if h : n = 0 then r
  else mulPower (if n % 2 = 1 then r * a else r) (a * a) (n / 2)
termination_by n
decreasing_by exact Nat.div_lt_self (Nat.pos_of_ne_zero h) (by decide)

/-- `a` to the power `n`, by repeated squaring. The first square that is a factor of the power is
taken as it stands, so a first power is the number itself. -/
def powerNat (a : α) (n : Nat) : α :=
  if h : n = 0 then ofNat 1
  else if n % 2 = 1 then mulPower a (a * a) (n / 2)
  else powerNat (a * a) (n / 2)
termination_by n
decreasing_by exact Nat.div_lt_self (Nat.pos_of_ne_zero h) (by decide)

/-- `a` to a power: for a negative exponent, the inverse of the power without the sign. -/
def power (a : α) (n : Int) : α :=
  if n < 0 then ofNat 1 / powerNat a n.natAbs else powerNat a n.natAbs

end Scalar

end ElementAtlas
