import ElementAtlas.Text.Digit

/-!
# Decimals

A `Decimal` is a natural number of units of some power of ten. Numerals are read into decimals, the
table of units gives its scales as decimals, and the text of a binary magnitude is the positional
text of a decimal (`Decimal.positional`), so that no number is ever written with an exponent.
-/

namespace ElementAtlas

/-- The number `digits * 10 ^ exponent`. -/
structure Decimal where
  digits : Nat
  exponent : Int
deriving DecidableEq, Repr

namespace Decimal

/-- A numeral such as `0.45359237` stands for the decimal of its digits. -/
instance : OfScientific Decimal where
  ofScientific digits negative exponent :=
    ⟨digits, if negative then -(exponent : Int) else exponent⟩

/-- A natural number as a decimal. -/
def ofNat (n : Nat) : Decimal := ⟨n, 0⟩

/-- The number that a run of decimal digits denotes, most significant first. -/
def valueOfDigits (digits : List Char) : Nat :=
  digits.foldl (fun n c => 10 * n + (Text.digit? 10 c).getD 0) 0

/-- The decimal written with the digits `whole`, a point, and the digits `fraction`. -/
def ofParts (whole fraction : List Char) : Decimal :=
  ⟨valueOfDigits (whole ++ fraction), -(fraction.length : Int)⟩

/-- Takes factors of ten out of the digits, as many as there are, but no more than make the
exponent zero. -/
def trimZeros (d : Decimal) : Decimal :=
  go d.digits (-d.exponent).toNat
where
  go (digits : Nat) : Nat → Decimal
    | 0 => ⟨digits, d.exponent.toNat⟩
    | places + 1 =>
      if digits % 10 = 0 then go (digits / 10) places else ⟨digits, -((places + 1 : Nat) : Int)⟩

/-- The positional text: all digits, with a point before the last `-exponent` of them, and zeros
wherever the number has a place but no digit. -/
def positional (d : Decimal) : String :=
  let places := (-d.exponent).toNat
  let digits := Nat.toDigits 10 (d.digits * Nat.pow 10 d.exponent.toNat)
  let digits := List.replicate (places + 1 - digits.length) '0' ++ digits
  let whole := digits.take (digits.length - places)
  let fraction := digits.drop (digits.length - places)
  String.ofList (if fraction.isEmpty then whole else whole ++ '.' :: fraction)

end Decimal

end ElementAtlas
