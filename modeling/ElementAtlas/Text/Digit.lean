/-!
# Digits and numerals
-/

namespace ElementAtlas.Text

/-- The value of a digit in a base up to sixteen, none for any other character. -/
def digit? (base : Nat) (c : Char) : Option Nat :=
  let value :=
    if '0' ≤ c ∧ c ≤ '9' then c.toNat - '0'.toNat
    else if 'a' ≤ c ∧ c ≤ 'f' then c.toNat - 'a'.toNat + 10
    else if 'A' ≤ c ∧ c ≤ 'F' then c.toNat - 'A'.toNat + 10
    else base
  if value < base then some value else none

/-- The number that a numeral denotes, none if it is empty or holds other characters. -/
def number? (base : Nat) (numeral : List Char) : Option Nat :=
  if numeral.isEmpty then none
  else numeral.foldlM (fun n c => (digit? base c).map (base * n + ·)) 0

/-- The character with the given code, if there is one. -/
def charOfCode? (n : Nat) : Option Char :=
  if n.isValidChar then some (Char.ofNat n) else none

end ElementAtlas.Text
