import ElementAtlas.Json.Basic
import ElementAtlas.Text.Digit
import ElementAtlas.Text.Rest

/-!
# Reading JSON

A strict reader: one value with white space around it, no trailing commas, no comments, no leading
zeros, no bare control characters in strings, no half of a surrogate pair. A number whose scalar
would not be finite is refused, and so is a value that nests arrays and objects more than
`maxDepth` deep.

As in the reader of unit expressions each part returns the rest of the text with the proof that it
is shorter.
-/

namespace ElementAtlas

namespace Json

/-- How deep arrays and objects may nest. -/
def maxDepth : Nat := 127

/-- The greatest integer without a sign that is kept as one. -/
def maxNatural : Nat := Nat.pow 2 64 - 1

/-- The greatest integer whose negative is kept as an integer. -/
def maxNegative : Nat := Nat.pow 2 63

namespace Reader

open Text

def isSpace (c : Char) : Bool := c = ' ' || c = '\t' || c = '\n' || c = '\r'

def skipSpace (s : List Char) : List Char := s.dropWhile isSpace

/-- What is left behind blanks is no longer than the text. -/
theorem length_skipSpace_le (s : List Char) : (skipSpace s).length ≤ s.length :=
  (List.dropWhile_sublist _).length_le

/-- The code unit written with four hexadecimal digits. -/
def hex4? (a b c d : Char) : Option Nat := Text.number? 16 [a, b, c, d]

/-- The character that a letter after a backslash stands for. -/
def escape? : Char → Option Char
  | '"' => some '"'
  | '\\' => some '\\'
  | '/' => some '/'
  | 'b' => some '\x08'
  | 'f' => some '\x0c'
  | 'n' => some '\n'
  | 'r' => some '\r'
  | 't' => some '\t'
  | _ => none

/-- Reads what follows a backslash: a letter, a `u` with four digits, or two of those that are the
halves of a surrogate pair. -/
def escaped? : (s : List Char) → Option (Char × Rest s)
  | 'u' :: a :: b :: c :: d :: r => do
    let high ← hex4? a b c d
    if high < 0xD800 ∨ 0xDFFF < high then
      return (Char.ofNat high, ⟨r, by simp only [List.length_cons]; omega⟩)
    else match h : r with
      | '\\' :: 'u' :: a :: b :: c :: d :: r' => do
        let low ← hex4? a b c d
        if high < 0xDC00 ∧ 0xDC00 ≤ low ∧ low ≤ 0xDFFF then
          return (Char.ofNat (0x10000 + (high - 0xD800) * 0x400 + (low - 0xDC00)),
            ⟨r', by subst h; simp only [List.length_cons]; omega⟩)
        else none
      | _ => none
  | c :: r => (escape? c).map (·, Rest.tail c r)
  | [] => none

/-- Reads the characters of a string up to its closing quote. -/
def stringBody (s : List Char) : Option (List Char × Rest s) :=
  match s with
  | [] => none
  | '"' :: r => some ([], Rest.tail '"' r)
  | '\\' :: t =>
    match escaped? t with
    | none => none
    | some (c, ⟨r, hr⟩) =>
      match stringBody r with
      | none => none
      | some (cs, ⟨r', hr'⟩) => some (c :: cs, ⟨r', by simp only [List.length_cons]; omega⟩)
  | c :: t =>
    if c.toNat < 0x20 then none
    else match stringBody t with
      | none => none
      | some (cs, ⟨r, hr⟩) => some (c :: cs, ⟨r, by simp only [List.length_cons]; omega⟩)
termination_by s.length
decreasing_by all_goals simp only [List.length_cons]; omega

/-- Whether a text begins with a minus sign, and what remains after a sign or none. -/
def sign : (s : List Char) → Bool × Remainder s
  | '-' :: s => (true, (Rest.tail '-' s).weaken)
  | '+' :: s => (false, (Rest.tail '+' s).weaken)
  | s => (false, .all s)

/-- The exponent at the front of a text, if there is one, and what remains. A mark without digits is
refused. -/
def exponent? : (s : List Char) → Option (Option Int × Remainder s)
  | [] => some (none, .all [])
  | c :: s =>
    if c = 'e' ∨ c = 'E' then
      let (isNegative, r) := sign s
      let (ds, r') := spanWhile Char.isDigit r.1
      let value : Int := Decimal.valueOfDigits ds
      if ds.isEmpty then none
      else some (some (if isNegative then -value else value), ((r.trans r').cons c).weaken)
    else some (none, .all (c :: s))

/-- The digits after a point at the front of a text, if there is one, and what remains. A point
without digits is refused. -/
def fraction? : (s : List Char) → Option (Option (List Char) × Remainder s)
  | '.' :: s =>
    let (ds, r) := spanWhile Char.isDigit s
    if ds.isEmpty then none else some (some ds, (r.cons '.').weaken)
  | s => some (none, .all s)

section
variable {α : Type} [Scalar α]

/-- A scalar with its sign, if it is finite. -/
def real? (isNegative : Bool) (d : Decimal) : Option (Number α) :=
  let x : α := Scalar.ofDecimal d
  let x := if isNegative then -x else x
  if Scalar.isFinite x then some (.real x) else none

/-- The number of an integer numeral. A negative zero is a scalar. -/
def integer? (isNegative : Bool) (n : Nat) : Option (Number α) :=
  if isNegative then
    if 0 < n ∧ n ≤ maxNegative then some (.negative n) else real? true (.ofNat n)
  else if n ≤ maxNatural then some (.natural n)
  else real? false (.ofNat n)

/-- Reads a number without its sign. -/
def unsigned? (isNegative : Bool) : (s : List Char) → Option (Number α × Rest s)
  | [] => none
  | c :: s => do
    let (ds, r) := spanWhile Char.isDigit s
    if !c.isDigit ∨ (c = '0' ∧ !ds.isEmpty) then none
    else
      let (fraction, r') ← fraction? r.1
      let (exponent, r'') ← exponent? r'.1
      let number ←
        if fraction.isNone ∧ exponent.isNone then
          integer? isNegative (Decimal.valueOfDigits (c :: ds))
        else
          let d := Decimal.ofParts (c :: ds) (fraction.getD [])
          real? isNegative ⟨d.digits, d.exponent + exponent.getD 0⟩
      return (number, ((r.trans r').trans r'').cons c)

/-- Reads a number. -/
def number? : (s : List Char) → Option (Number α × Rest s)
  | '-' :: s => (unsigned? true s).map fun (n, r) => (n, r.cons '-')
  | s => unsigned? false s

mutual

/-- Reads a value, in which arrays and objects nest at most `depth` deep. -/
def value (depth : Nat) (s : List Char) : Option (Json α × Rest s) :=
  match s with
  | [] => none
  | '"' :: t =>
    (stringBody t).map fun (cs, r) =>
      (.string (String.ofList cs), ⟨r.1, by have := r.2; simp only [List.length_cons]; omega⟩)
  | '[' :: t =>
    match depth with
    | 0 => none
    | depth + 1 =>
      match h : skipSpace t with
      | ']' :: r =>
        some (.array [], ⟨r, by
          have := length_skipSpace_le t; rw [h] at this; simp at this ⊢; omega⟩)
      | _ =>
        match items depth t with
        | none => none
        | some (vs, ⟨r, hr⟩) => some (.array vs, ⟨r, by simp only [List.length_cons]; omega⟩)
  | '{' :: t =>
    match depth with
    | 0 => none
    | depth + 1 =>
      match h : skipSpace t with
      | '}' :: r =>
        some (.object [], ⟨r, by
          have := length_skipSpace_le t; rw [h] at this; simp at this ⊢; omega⟩)
      | _ =>
        match pairs depth t with
        | none => none
        | some (ps, ⟨r, hr⟩) =>
          some (.object (Fields.ofList ps), ⟨r, by simp only [List.length_cons]; omega⟩)
  | 't' :: 'r' :: 'u' :: 'e' :: r => some (.bool true, ⟨r, by simp only [List.length_cons]; omega⟩)
  | 'f' :: 'a' :: 'l' :: 's' :: 'e' :: r =>
    some (.bool false, ⟨r, by simp only [List.length_cons]; omega⟩)
  | 'n' :: 'u' :: 'l' :: 'l' :: r => some (.null, ⟨r, by simp only [List.length_cons]; omega⟩)
  | c :: t => (number? (c :: t)).map fun (n, r) => (.number n, r)
termination_by 2 * s.length

/-- Reads the values of an array up to its closing bracket. -/
def items (depth : Nat) (s : List Char) : Option (List (Json α) × Rest s) :=
  have hs := length_skipSpace_le s
  match value depth (skipSpace s) with
  | none => none
  | some (v, ⟨r, hr⟩) =>
    match h : skipSpace r with
    | ',' :: t =>
      have ht : t.length < s.length := by
        have := length_skipSpace_le r; rw [h] at this; simp at this; omega
      match items depth t with
      | none => none
      | some (vs, ⟨r', hr'⟩) => some (v :: vs, ⟨r', by omega⟩)
    | ']' :: t =>
      some ([v], ⟨t, by have := length_skipSpace_le r; rw [h] at this; simp at this; omega⟩)
    | _ => none
termination_by 2 * s.length + 1

/-- Reads the fields of an object up to its closing brace. -/
def pairs (depth : Nat) (s : List Char) : Option (List (String × Json α) × Rest s) :=
  have hs := length_skipSpace_le s
  match h₀ : skipSpace s with
  | '"' :: s₁ =>
    match stringBody s₁ with
    | none => none
    | some (name, ⟨s₂, h₂⟩) =>
      match h₃ : skipSpace s₂ with
      | ':' :: s₃ =>
        have hs₃ : s₃.length < s.length := by
          have := length_skipSpace_le s₂; rw [h₃] at this; rw [h₀] at hs; simp at this hs; omega
        have hs₄ := length_skipSpace_le s₃
        match value depth (skipSpace s₃) with
        | none => none
        | some (v, ⟨r, hr⟩) =>
          match h : skipSpace r with
          | ',' :: t =>
            have ht : t.length < s.length := by
              have := length_skipSpace_le r; rw [h] at this; simp at this; omega
            match pairs depth t with
            | none => none
            | some (ps, ⟨r', hr'⟩) => some ((String.ofList name, v) :: ps, ⟨r', by omega⟩)
          | '}' :: t =>
            some ([(String.ofList name, v)],
              ⟨t, by have := length_skipSpace_le r; rw [h] at this; simp at this; omega⟩)
          | _ => none
      | _ => none
  | _ => none
termination_by 2 * s.length + 1

end

end

end Reader

/-- The value that a text is, if it is one JSON value. -/
def parse? {α : Type} [Scalar α] (text : String) : Option (Json α) :=
  match Reader.value maxDepth (Reader.skipSpace text.toList) with
  | some (v, ⟨r, _⟩) => if (Reader.skipSpace r).isEmpty then some v else none
  | none => none

end Json

end ElementAtlas
