import ElementAtlas.Pattern.Escape

/-!
# Bracket expressions

A bracket expression lists the characters of a set: single ones, ranges, escapes, named classes such
as `[:alpha:]` and further bracket expressions. A `^` at its front takes the complement, and `&&`,
`--` and `~~` combine what stands before them, as a whole, with what stands up to the next of them.
Hyphens at the front, a bracket that closes right at the front, and a hyphen at the end are literal.
Where case is ignored, the operands of an operator and the whole expression are closed under case
before they are combined or complemented.
-/

namespace ElementAtlas.Pattern.Bracket

open Text

/-- How two sets inside brackets are combined. -/
inductive Operator where
  | intersection
  | difference
  | symmetricDifference
deriving DecidableEq, Repr

/-- The set that an operator makes of two. -/
def Operator.apply : Operator → CharSet → CharSet → CharSet
  | .intersection => .intersection
  | .difference => .difference
  | .symmetricDifference => .symmetricDifference

/-- A set with the depth to which its expression is nested: each bracket expression, each list of
several items and each operator is a level. -/
structure Nested where
  set : CharSet
  depth : Nat

/-- What has been listed since a bracket or an operator: the union of the items, how many they are,
and the depth of the deepest. -/
structure Listed where
  set : CharSet
  count : Nat
  depth : Nat

namespace Listed

def nothing : Listed := ⟨.empty, 0, 0⟩

/-- One more item of the list. -/
def add (l : Listed) (item : Nested) : Listed :=
  ⟨l.set.union item.set, l.count + 1, max l.depth item.depth⟩

def addSet (l : Listed) (s : CharSet) : Listed := l.add ⟨s, 0⟩

/-- The items as one operand. -/
def operand (l : Listed) : Nested := ⟨l.set, if 1 < l.count then l.depth + 1 else l.depth⟩

end Listed

/-- A bracket expression that has not been closed: whether its complement is taken, the operand
before the last operator, and what has been listed since. -/
structure Open where
  isNegated : Bool
  left : Option (Nested × Operator)
  listed : Listed

namespace Open

/-- Lists a set of characters. -/
def addSet (b : Open) (s : CharSet) : Open := { b with listed := b.listed.addSet s }

/-- Lists an item. -/
def add (b : Open) (item : Nested) : Open := { b with listed := b.listed.add item }

/-- What has been listed, with the operator before it applied. -/
def operand (o : Options) (b : Open) : Nested :=
  match b.left with
  | none => b.listed.operand
  | some (l, operator) =>
    let r := b.listed.operand
    ⟨operator.apply (o.closeCase l.set) (o.closeCase r.set), max l.depth r.depth + 1⟩

/-- Goes on after an operator. -/
def combine (o : Options) (b : Open) (operator : Operator) : Open :=
  { b with left := some (b.operand o, operator), listed := .nothing }

/-- The set of the whole expression. -/
def close? (o : Options) (b : Open) : Option Nested := do
  let inner := b.operand o
  let s := o.closeCase inner.set
  return ⟨← if b.isNegated then o.complement? s else some s, inner.depth + 1⟩

end Open

/-- Reads literal hyphens at the front of what is listed, and a literal closing bracket if there are
none. -/
def openHyphens (o : Options) (b : Open) (isFirst : Bool) (s : List Char) : Open × Remainder s :=
  match s with
  | [] => (b, .all [])
  | c :: t =>
    if c = '-' then
      have := (o.skip t).2
      let (b, r) := openHyphens o (b.addSet (.singleton '-')) false (o.skip t).1
      (b, (((o.skip t).trans r).cons c).weaken)
    else if c = ']' ∧ isFirst then (b.addSet (.singleton ']'), (o.skipAfter (.tail c t)).weaken)
    else (b, .all (c :: t))
termination_by s.length
decreasing_by simp only [List.length_cons]; omega

/-- Reads what stands right after an opening bracket. -/
def front (o : Options) (s : List Char) : Open × Remainder s :=
  let r := o.skip s
  match after? '^' r.1 with
  | none =>
    let (b, r') := openHyphens o ⟨false, none, .nothing⟩ true r.1
    (b, r.trans r')
  | some r' =>
    let r' := o.skipAfter r'
    let (b, r'') := openHyphens o ⟨true, none, .nothing⟩ true r'.1
    (b, r.trans (r'.remainder r'').weaken)

/-- The class of a name, or its complement if a `^` stands before the name; none inside if the
complement cannot be taken. -/
def classOfName? (o : Options) : List Char → Option (Option CharSet)
  | '^' :: name =>
    (CharSet.named? (String.ofList name)).map fun s => o.complement? (o.closeCase s)
  | name => (CharSet.named? (String.ofList name)).map fun s => some (o.closeCase s)

/-- Reads a named class after its opening bracket. -/
def namedClass? (o : Options) (s : List Char) : Option (Option CharSet × Rest s) := do
  let r ← after? ':' s
  let (name, r') ← upTo? ':' r.1
  let r'' ← after? ']' r'.1
  return (← classOfName? o name, r.trans (r'.trans r''))

/-- Reads one character or escape. -/
def item? (o : Options) (s : List Char) : Option (Escape × Rest s) := do
  let (c, r) ← first? s
  if c = '\\' then
    let (e, r') ← Escape.read? o r.1
    return (e, r.trans r')
  else return (.literal c, r)

/-- A character that can be listed: any, or where only ASCII is known, those below 128. -/
def char? (o : Options) (c : Char) : Option Char :=
  if o.unicode ∨ c.toNat < 128 then some c else none

/-- The set of a single item. -/
def single? (o : Options) : Escape → Option CharSet
  | .literal c => (char? o c).map .singleton
  | .set s => some s
  | .assertion _ => none

/-- The range from one item to another. Both have to be characters, and in order. -/
def range? (o : Options) : Escape → Escape → Option CharSet
  | .literal first, .literal last => do
    if first ≤ last then return .range (← char? o first) (← char? o last) else none
  | _, _ => none

/-- Reads an item or a range. A hyphen before a closing bracket or another hyphen makes no range. -/
def listed? (o : Options) (s : List Char) : Option (CharSet × Rest s) := do
  let (first, r) ← item? o s
  let r := o.skipAfter r
  match after? '-' r.1 with
  | none => return (← single? o first, r)
  | some r' =>
    let r' := o.skipAfter r'
    if r'.1.head? = some ']' ∨ r'.1.head? = some '-' then return (← single? o first, r)
    else
      let (last, r'') ← item? o r'.1
      return (← range? o first last, r.trans (r'.trans r''))

/-- Reads the sign of an operator. -/
def operator? (s : List Char) : Option (Operator × Rest s) := do
  let (c, r) ← first? s
  let r' ← after? c r.1
  let operator ← match c with
    | '&' => some .intersection
    | '-' => some .difference
    | '~' => some .symmetricDifference
    | _ => none
  return (operator, r.trans r')

/-- Reads a bracket expression to its end. The expressions around the innermost open one wait, from
the inside out. -/
def body? (o : Options) (b : Open) (around : List Open) (s : List Char) :
    Option (Nested × Rest s) :=
  have := (o.skip s).2
  match after? ']' (o.skip s).1, around with
  | some r, [] => (b.close? o).map fun item => (item, (o.skip s).rest r)
  | some ⟨t, ht⟩, outer :: around =>
    match b.close? o with
    | none => none
    | some item =>
      (body? o (outer.add item) around t).map fun (item, r) =>
        (item, (o.skip s).rest (Rest.trans ⟨t, ht⟩ r))
  | none, around =>
    match after? '[' (o.skip s).1 with
    | some ⟨t, ht⟩ =>
      match namedClass? o t with
      | some (none, _) => none
      | some (some named, ⟨t', ht'⟩) =>
        (body? o (b.addSet named) around t').map fun (item, r) =>
          (item, (o.skip s).rest (Rest.trans ⟨t, ht⟩ (Rest.trans ⟨t', ht'⟩ r)))
      | none =>
        match front o t with
        | (inner, ⟨t', ht'⟩) =>
          (body? o inner (b :: around) t').map fun (item, r) =>
            (item, (o.skip s).rest (Rest.trans ⟨t, ht⟩ (Remainder.rest ⟨t', ht'⟩ r)))
    | none =>
      match operator? (o.skip s).1 with
      | some (operator, ⟨t, ht⟩) =>
        (body? o (b.combine o operator) around t).map fun (item, r) =>
          (item, (o.skip s).rest (Rest.trans ⟨t, ht⟩ r))
      | none =>
        match listed? o (o.skip s).1 with
        | none => none
        | some (chars, ⟨t, ht⟩) =>
          (body? o (b.addSet chars) around t).map fun (item, r) =>
            (item, (o.skip s).rest (Rest.trans ⟨t, ht⟩ r))
termination_by s.length

/-- Reads a bracket expression after its opening bracket. -/
def read? (o : Options) (s : List Char) : Option (Nested × Rest s) :=
  let (b, r) := front o s
  (body? o b [] r.1).map fun (item, r') => (item, r.rest r')

end ElementAtlas.Pattern.Bracket
