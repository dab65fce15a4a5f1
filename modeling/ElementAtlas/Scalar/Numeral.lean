import ElementAtlas.Scalar.Double

/-!
# Numerals of doubles

A numeral is digits with at most one point among them or next to them, followed or not by an
exponent. With `inf`, `infinity` and `nan`, in which case does not matter, every kind of double has
a name. A sign may stand in front of each of them.
-/

namespace ElementAtlas.Double

/-- An integer with or without a sign. -/
def integer? (s : List Char) : Option Int :=
  match s with
  | '-' :: digits => (Text.number? 10 digits).map fun n => -n
  | '+' :: digits => (Text.number? 10 digits).map Int.ofNat
  | digits => (Text.number? 10 digits).map Int.ofNat

/-- The decimal of a numeral without a sign. -/
def decimal? (s : List Char) : Option Decimal := do
  let isExponentMark := fun c => c = 'e' ∨ c = 'E'
  let mantissa := s.takeWhile fun c => !isExponentMark c
  let exponent ← match s.dropWhile fun c => !isExponentMark c with
    | [] => some 0
    | _ :: exponent => integer? exponent
  let whole := mantissa.takeWhile (· ≠ '.')
  let fraction := (mantissa.dropWhile (· ≠ '.')).drop 1
  if (whole ++ fraction).isEmpty ∨ !(whole ++ fraction).all Char.isDigit then none
  else
    let d := Decimal.ofParts whole fraction
    return { d with exponent := d.exponent + exponent }

/-- The double of a numeral without a sign. -/
def magnitude? (s : List Char) : Option Float :=
  let name := String.ofList (s.map Char.toLower)
  if name = "inf" ∨ name = "infinity" then some (1.0 / 0.0)
  else if name = "nan" then some (0.0 / 0.0)
  else (decimal? s).map ofDecimal

/-- The double that a numeral denotes. -/
def parse? (text : String) : Option Float :=
  match text.toList with
  | '-' :: s => (magnitude? s).map (-·)
  | '+' :: s => magnitude? s
  | s => magnitude? s

end ElementAtlas.Double
