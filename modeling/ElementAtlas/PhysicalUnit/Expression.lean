import ElementAtlas.PhysicalUnit.Registry
import ElementAtlas.Text.Blank
import ElementAtlas.Text.Letter
import ElementAtlas.Text.Rest

/-!
# Unit expressions

A unit expression is a product of powers, and it is evaluated as it is read, from left to right:

* a *product* is powers separated by `*`, `·`, `/` or blanks, where a `/` divides by the next power
  only;
* a *power* is an atom, followed or not by `^` or `**` and an integer, or by `²` or `³`;
* an *atom* is the name of a known unit, a number, or a product in parentheses.

Each part of the reader takes the text from its position to the end and returns, with the value, the
rest of the text. The rest carries the proof that it is shorter, which is why the readers, though
each calls the others, come to an end. A blank expression denotes the unit of plain numbers, and a
known name on its own denotes that unit, which may be absolute; any other expression is linear.
-/

namespace ElementAtlas

namespace UnitExpression

open Text

/-- The value of a part of an expression. -/
structure Term (α : Type) where
  scale : α
  dimension : Dimension

/-- Why an expression denotes no unit. -/
inductive Failure where
  | unknownName (name : String)
  | fault (cause : UnitFault)
deriving DecidableEq, Repr

/-- How a factor joins the product before it. -/
inductive Separator where
  | times
  | over
deriving DecidableEq, Repr

section
variable {α : Type} [Scalar α]

/-- The product so far, multiplied or divided by the next power. -/
def Separator.apply? : Separator → Term α → Term α → Option (Term α)
  | .times, s, t => (s.dimension.mul? t.dimension).map (⟨s.scale * t.scale, ·⟩)
  | .over, s, t => (s.dimension.div? t.dimension).map (⟨s.scale / t.scale, ·⟩)

/-- The power of a term, none if an exponent is out of range. -/
def Term.pow? (t : Term α) (n : Int) : Option (Term α) :=
  (t.dimension.pow? n).map (⟨Scalar.power t.scale n, ·⟩)

end

/-- A value read from the front of a text, and the rest of the text. -/
abbrev Reading (β : Type) (s : List Char) := Except Failure (β × Rest s)

/-- Whether a name can begin with a character. -/
def beginsName (c : Char) : Bool := isLetter c || c = '_' || c = '°' || c = '%'

/-- Whether a name goes on with a character. -/
def continuesName (c : Char) : Bool := beginsName c || c.isDigit

/-- What remains of a text after the blanks at its front. -/
def skipBlanks (s : List Char) : Remainder s := (spanWhile isBlank s).2

/-- The first character that is no blank, and the text after it. -/
def next? (s : List Char) : Option (Char × Rest s) :=
  (first? (skipBlanks s).1).map fun (c, r) => (c, (skipBlanks s).rest r)

/-- What joins the next factor, and the text of that factor. Blanks alone join like a `*`. -/
def separator? (s : List Char) : Option (Separator × Rest s) :=
  match next? s with
  | none => none
  | some (c, r) =>
    if c = '*' ∨ c = '·' then some (.times, r)
    else if c = '/' then some (.over, r)
    else if h : (skipBlanks s).1.length < s.length then some (.times, ⟨(skipBlanks s).1, h⟩)
    else none

/-- Reads an integer that an exponent can be: blanks, a minus sign or none, and digits. -/
def integer (s : List Char) : Except Failure (Int × Remainder s) :=
  let t := skipBlanks s
  let (isNegative, t) : Bool × Remainder s :=
    match after? '-' t.1 with
    | some r => (true, (t.rest r).weaken)
    | none => (false, t)
  let (digits, r) := spanWhile Char.isDigit t.1
  let value : Int := Decimal.valueOfDigits digits
  let value := if isNegative then -value else value
  if digits.isEmpty ∨ value < -128 ∨ 127 < value then .error (.fault .malformedExponent)
  else .ok (value, t.trans r)

/-- Reads the exponent after an atom. Without one it is the first power, and nothing is read. -/
def exponent (s : List Char) : Except Failure (Int × Remainder s) :=
  match next? s with
  | none => .ok (1, .all s)
  | some (c, r) =>
    if c = '^' then (integer r.1).map fun (n, r') => (n, (r.remainder r').weaken)
    else if c = '²' then .ok (2, r.weaken)
    else if c = '³' then .ok (3, r.weaken)
    else if c = '*' then
      match after? '*' r.1 with
      | none => .ok (1, .all s)
      | some r' => (integer r'.1).map fun (n, r'') => (n, ((r.trans r').remainder r'').weaken)
    else .ok (1, .all s)

section
variable {α : Type} [Scalar α]

/-- The number written with a run of digits and points. -/
def number? (run : List Char) : Option α :=
  let fraction := run.dropWhile (· ≠ '.')
  if (fraction.drop 1).contains '.' then none
  else some (Scalar.ofDecimal (.ofParts (run.takeWhile (· ≠ '.')) (fraction.drop 1)))

mutual

/-- Reads an atom. -/
def atom (s : List Char) : Reading (Term α) s :=
  match next? s with
  | none => .error (.fault .unexpectedEnd)
  | some (c, ⟨t, ht⟩) =>
    if c = '(' then
      match product t with
      | .error e => .error e
      | .ok (value, r) =>
        match after? ')' r.1 with
        | none => .error (.fault .unclosed)
        | some r' => .ok (value, Rest.trans ⟨t, ht⟩ (r.trans r'))
    else if c.isDigit then
      let (run, r) := spanWhile (fun c => c.isDigit || c = '.') t
      match number? (c :: run) with
      | none => .error (.fault .malformedNumber)
      | some scale => .ok (⟨scale, .dimensionless⟩, Rest.remainder ⟨t, ht⟩ r)
    else if beginsName c then
      let (run, r) := spanWhile continuesName t
      let name := String.ofList (c :: run)
      match KnownUnit.find? name with
      | none => .error (.unknownName name)
      | some unit => .ok (⟨unit.scale, unit.dimension⟩, Rest.remainder ⟨t, ht⟩ r)
    else .error (.fault (.unexpected c))
termination_by 4 * s.length + 1

/-- Reads an atom and its exponent. -/
def power (s : List Char) : Reading (Term α) s :=
  match atom s with
  | .error e => .error e
  | .ok (base, r) =>
    match exponent r.1 with
    | .error e => .error e
    | .ok (n, r') =>
      match base.pow? n with
      | none => .error (.fault .exponentRange)
      | some value => .ok (value, r.remainder r')
termination_by 4 * s.length + 2

/-- Reads the factors that follow a product, up to the end of the text or a closing parenthesis. -/
def factors (value : Term α) (s : List Char) : Except Failure (Term α × Remainder s) :=
  match next? s with
  | none => .ok (value, ⟨[], Nat.zero_le _⟩)
  | some (c, ⟨t, ht⟩) =>
    if c = ')' then .ok (value, ⟨c :: t, ht⟩)
    else match separator? s with
      | none => .error (.fault (.unexpected c))
      | some (separator, ⟨r, hr⟩) =>
        match power r with
        | .error e => .error e
        | .ok (next, ⟨r', hr'⟩) =>
          match separator.apply? value next with
          | none => .error (.fault .exponentRange)
          | some value =>
            match factors value r' with
            | .error e => .error e
            | .ok (value, r'') => .ok (value, ((Rest.trans ⟨r, hr⟩ ⟨r', hr'⟩).remainder r'').weaken)
termination_by 4 * s.length

/-- Reads a product. -/
def product (s : List Char) : Reading (Term α) s :=
  match power s with
  | .error e => .error e
  | .ok (value, ⟨r, hr⟩) =>
    match factors value r with
    | .error e => .error e
    | .ok (value, r') => .ok (value, Rest.remainder ⟨r, hr⟩ r')
termination_by 4 * s.length + 3

end

/-- The value of a whole text. A product that ends before the text does stands before a closing
parenthesis that was never opened. -/
def evaluate (s : List Char) : Except Failure (Term α) :=
  match product s with
  | .error e => .error e
  | .ok (value, ⟨[], _⟩) => .ok value
  | .ok _ => .error (.fault .unbalanced)

end

/-- The error of a whole expression. -/
def Failure.inExpression (expression : String) : Failure → QuantityError
  | .unknownName name => .unknownUnit name
  | .fault cause => .malformed expression cause

end UnitExpression

/-- The unit that an expression denotes. -/
def PhysicalUnit.parse {α : Type} [Scalar α] (expression : String) :
    Except QuantityError (PhysicalUnit α) :=
  let text := Text.trimBlanks expression.toList
  let symbol := String.ofList text
  if text.isEmpty then .ok .dimensionless
  else match KnownUnit.find? symbol with
    | some unit => .ok ⟨symbol, unit.scale, unit.dimension, unit.origin⟩
    | none =>
      match UnitExpression.evaluate text with
      | .ok value => .ok (.linear symbol value.scale value.dimension)
      | .error failure => .error (failure.inExpression symbol)

end ElementAtlas
