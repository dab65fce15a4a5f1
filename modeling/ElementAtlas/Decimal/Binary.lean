import ElementAtlas.Decimal.Basic

/-!
# Decimal texts of binary numbers

A finite binary number is `significand * 2 ^ exponent`, and everything here is decided by comparing
natural numbers, so no text depends on how an approximate operation rounds.

Two texts are given. The *shortest* one has the fewest digits among the decimals that lie in the
interval of reals rounding to the number (`Binary.admits`), and of two such candidates with equally
many digits it is the nearer one, the greater if both are equally near. The text with a *fixed*
number of places is the exact value rounded to that place, ties to the even digit.
-/

namespace ElementAtlas

/-- The number `significand * 2 ^ exponent`. It is `tight` below when the next smaller number of
the format is half as far away as the next greater one, as at a power of two. -/
structure Binary where
  significand : Nat
  exponent : Int
  tight : Bool
deriving DecidableEq, Repr

namespace Binary

/-- The magnitude that the bits of a finite double denote, whatever its sign. -/
def ofBits (bits : UInt64) : Binary :=
  let biased : Nat := (bits.toNat / Nat.pow 2 52) % Nat.pow 2 11
  let fraction := bits.toNat % Nat.pow 2 52
  if biased = 0 then ⟨fraction, -1074, false⟩
  else ⟨Nat.pow 2 52 + fraction, (biased : Int) - 1075, decide (fraction = 0 ∧ 1 < biased)⟩

/-- Compares a decimal with `n * 2 ^ e`. -/
def compareDecimal (d : Decimal) (n : Nat) (e : Int) : Ordering :=
  compare (d.digits * Nat.pow 10 d.exponent.toNat * Nat.pow 2 (-e).toNat)
    (n * Nat.pow 2 e.toNat * Nat.pow 10 (-d.exponent).toNat)

/-- The decimal lies among the reals that round to `x`: at most half way to the neighbours, where
the half-way points themselves belong to the number with the even significand. -/
def admits (x : Binary) (d : Decimal) : Bool :=
  let low := if x.tight then 4 * x.significand - 1 else 4 * x.significand - 2
  let high := 4 * x.significand + 2
  let even := x.significand % 2 = 0
  let below := compareDecimal d low (x.exponent - 2)
  let above := compareDecimal d high (x.exponent - 2)
  (below = .gt ∨ (even ∧ below = .eq)) ∧ (above = .lt ∨ (even ∧ above = .eq))

/-- The fraction `x * 10 ^ places`, as a numerator over a denominator. -/
def scaled (x : Binary) (places : Int) : Nat × Nat :=
  (x.significand * Nat.pow 2 x.exponent.toNat * Nat.pow 10 places.toNat,
    Nat.pow 2 (-x.exponent).toNat * Nat.pow 10 (-places).toNat)

/-- The least exponent of a power of ten above a positive `x`. The logarithm in base two fixes it
up to the three candidates that are tried. -/
def decade (x : Binary) : Int :=
  let guess := ((x.significand.log2 : Int) + x.exponent) * 30103 / 100000
  [guess, guess + 1].find? (fun k => compareDecimal ⟨1, k⟩ x.significand x.exponent = .gt)
    |>.getD (guess + 2)

/-- The decimal with the given exponent that reads back as `x`, if one of the two neighbours of
`x` among those decimals does: the nearer of the two, and the upper one if both are equally near. -/
def candidate? (x : Binary) (exponent : Int) : Option Decimal :=
  let (num, den) := x.scaled (-exponent)
  let lower : Decimal := ⟨num / den, exponent⟩
  let upper : Decimal := ⟨num / den + 1, exponent⟩
  let nearer := if 2 * num < (2 * (num / den) + 1) * den then lower else upper
  if x.admits lower ∧ x.admits upper then some nearer
  else if x.admits lower then some lower
  else if x.admits upper then some upper
  else none

/-- The value itself as a decimal. -/
def exact (x : Binary) : Decimal :=
  ⟨x.significand * Nat.pow 2 x.exponent.toNat * Nat.pow 5 (-x.exponent).toNat, min x.exponent 0⟩

/-- The shortest decimal that reads back as `x`, nearest to `x` among those. Seventeen digits
always suffice. -/
def shortest (x : Binary) : Decimal :=
  if x.significand = 0 then ⟨0, 0⟩
  else
    let decade := x.decade
    ((List.range 17).findSome? (fun (n : Nat) => x.candidate? (decade - 1 - n))).getD x.exact

/-- `x` rounded to a number of decimal places, an exact tie to the even neighbour. -/
def rounded (x : Binary) (places : Nat) : Decimal :=
  let (num, den) := x.scaled places
  let lower := num / den
  let up := match compare (2 * (num % den)) den with
    | .lt => false
    | .gt => true
    | .eq => lower % 2 = 1
  ⟨if up then lower + 1 else lower, -(places : Int)⟩

end Binary

/-- The text of a double: its shortest decimal, or its value rounded to the given number of places.
A sign is kept, also that of a zero. -/
def Double.text (places : Option Nat) (x : Float) : String :=
  if x.isNaN then "NaN" else (if x.toBits.toNat < Nat.pow 2 63 then "" else "-") ++ magnitude
where
  magnitude : String :=
    if x.isInf then "inf"
    else
      let b := Binary.ofBits x.toBits
      match places with
      | none => b.shortest.trimZeros.positional
      | some p => (b.rounded p).positional

end ElementAtlas
