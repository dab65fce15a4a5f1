import ElementAtlas.Proofs.Text.Classes
import ElementAtlas.Proofs.UnitExpression.Tree

/-!
# The grammar of unit expressions

`Spells` is the grammar: it says of a part of an expression, an atom, a power or a product, which
tree it spells. As in the reader, a part is what stands between the front of a text and the rest of
it, so that a name or a number can be required to go as far as it can.
-/

namespace ElementAtlas.UnitExpression

open Text

/-! ## Parts of an expression -/

/-- The parts of a unit expression. -/
inductive Part where
  | atom
  | power
  | product

/-- The characters of a number. -/
def continuesNumber (c : Char) : Bool := c.isDigit || c = '.'

/-- The characters that an atom can begin with. -/
def BeginsAtom (c : Char) : Prop := c = '(' ∨ c.isDigit = true ∨ beginsName c = true

instance (c : Char) : Decidable (BeginsAtom c) :=
  inferInstanceAs (Decidable (c = '(' ∨ c.isDigit = true ∨ beginsName c = true))

/-- The integer `n`, in the range of exponents, is written between the front of `s` and the text
`r`, with a minus sign or without. -/
inductive WrittenInteger (n : Int) (s r : List Char) : Prop
  | positive {digits : List Char} : digits ≠ [] → (∀ c ∈ digits, c.isDigit = true) →
      s = digits ++ r → n = Decimal.valueOfDigits digits → -128 ≤ n → n ≤ 127 →
      WrittenInteger n s r
  | negative {digits : List Char} : digits ≠ [] → (∀ c ∈ digits, c.isDigit = true) →
      s = '-' :: digits ++ r → n = -Decimal.valueOfDigits digits → -128 ≤ n → n ≤ 127 →
      WrittenInteger n s r

/-- The exponent `n` is written between the front of `s` and the text `r`: a sign and an integer, or
one of the two superscripts. -/
inductive Raises (n : Int) (s r : List Char) : Prop
  | caret {t u : List Char} : Blanks s ('^' :: t) → Blanks t u → WrittenInteger n u r →
      Raises n s r
  | stars {t u : List Char} : Blanks s ('*' :: '*' :: t) → Blanks t u → WrittenInteger n u r →
      Raises n s r
  | square : n = 2 → Blanks s ('²' :: r) → Raises n s r
  | cube : n = 3 → Blanks s ('³' :: r) → Raises n s r

/-- Two factors are separated by what stands between the front of `s` and the text `r`: a sign with
blanks around it or without, or blanks alone. -/
inductive Separates (s r : List Char) : Separator → Prop
  | star {t : List Char} : Blanks s ('*' :: t) → Blanks t r → Separates s r .times
  | dot {t : List Char} : Blanks s ('·' :: t) → Blanks t r → Separates s r .times
  | slash {t : List Char} : Blanks s ('/' :: t) → Blanks t r → Separates s r .over
  | blanks : Blanks s r → s ≠ r → Separates s r .times

section
variable {α : Type} [Scalar α]

/-- The number written with digits and points: those before the first point and those after it. -/
def numeral (run : List Char) : α :=
  Scalar.ofDecimal
    (.ofParts (run.takeWhile (· ≠ '.')) ((run.dropWhile (· ≠ '.')).drop 1))

/-- A known unit or a number is named between the front of `s` and the text `r`, as far as the name
or the number goes, and stands for the given term. -/
inductive Names : Term α → List Char → List Char → Prop
  | unit {c : Char} {run r : List Char} {unit : KnownUnit α} : beginsName c = true →
      (∀ d ∈ run, continuesName d = true) → Stops continuesName r →
      KnownUnit.find? (String.ofList (c :: run)) = some unit →
      Names ⟨unit.scale, unit.dimension⟩ (c :: run ++ r) r
  | number {c : Char} {run r : List Char} : c.isDigit = true →
      (∀ d ∈ run, continuesNumber d = true) → Stops continuesNumber r →
      (c :: run).count '.' ≤ 1 → Names ⟨numeral (c :: run), .dimensionless⟩ (c :: run ++ r) r

/-- The grammar: a part of an expression, between the front of the first text and the second text,
spells a tree. -/
inductive Spells : Part → Tree α → List Char → List Char → Prop
  | leaf {term : Term α} {s r : List Char} : Names term s r → Spells .atom (.leaf term) s r
  | group {e : Tree α} {s t u r : List Char} : Blanks s t → Spells .product e t u →
      Blanks u (')' :: r) → Spells .atom e ('(' :: s) r
  | plain {e : Tree α} {s r : List Char} : Spells .atom e s r → Spells .power e s r
  | raised {e : Tree α} {n : Int} {s t r : List Char} : Spells .atom e s t → Raises n t r →
      Spells .power (.power e n) s r
  | single {e : Tree α} {s r : List Char} : Spells .power e s r → Spells .product e s r
  | join {left right : Tree α} {separator : Separator} {s t u r : List Char} :
      Spells .product left s t → Separates t u separator → Spells .power right u r →
      Spells .product (.join left separator right) s r

end

end ElementAtlas.UnitExpression
