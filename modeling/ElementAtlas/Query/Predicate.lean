import ElementAtlas.Query.Attribute

/-!
# Predicates

A predicate is a boolean expression over an element: comparisons of attributes with literals,
combined by `and`, `or` and `not`. Its evaluation goes from left to right and stops as soon as the
answer is known, so an operand that is not reached cannot fail.

The text of a predicate leaves out the parentheses that the usual precedence, of `not` over `and`
over `or`, makes superfluous.
-/

namespace ElementAtlas

/-- The comparison operators. -/
inductive Comparison where
  | lt
  | le
  | eq
  | ne
  | gt
  | ge
deriving DecidableEq, Repr

/-- How a comparison is written. -/
def Comparison.symbol : Comparison → String
  | .lt => "<"
  | .le => "<="
  | .eq => "=="
  | .ne => "!="
  | .gt => ">"
  | .ge => ">="

/-- A boolean expression over an element. -/
inductive Predicate (α : Type) where
  | compare (left : Attribute α) (operator : Comparison) (right : Literal α)
  | is (left : Attribute α) (right : Literal α)
  | isIn (left : Attribute α) (candidates : List (Literal α))
  | truthy (path : Attribute α)
  | and (p q : Predicate α)
  | or (p q : Predicate α)
  | not (p : Predicate α)
  | const (b : Bool)
  | custom (label : String) (test : Atlas α → Member α → Except QueryError Bool)

variable {α : Type} [Scalar α]

/-- Whether a comparison holds between two values. -/
def Comparison.holds (v w : Value α) : Comparison → Except QueryError Bool
  | .eq => v.equals w
  | .ne => (v.equals w).map (!·)
  | .lt => (v.compare w).map (·.isLT)
  | .le => (v.compare w).map (·.isLE)
  | .gt => (v.compare w).map (·.isGT)
  | .ge => (v.compare w).map (·.isGE)

/-- Whether a value equals one of the literals. A literal that it cannot be compared with is not
equal to it; a literal that has no value is an error, unless an equal one stands before it. -/
def Value.isAmong (atlas : Atlas α) (v : Value α) : List (Literal α) → Except QueryError Bool
  | [] => .ok false
  | literal :: literals => do
    let w ← literal.toValue atlas
    match v.equals w with
    | .ok true => return true
    | _ => v.isAmong atlas literals

/-- Membership. A single list stands for its items and a single text for its substrings; otherwise
the candidates are those given. -/
def Value.isIn (atlas : Atlas α) (v : Value α) : List (Literal α) → Except QueryError Bool
  | [.list items] => v.isAmong atlas items
  | [.text s] =>
    match v with
    | .text needle => .ok (Text.contains s needle)
    | other => .error (.incomparable other.kind .text)
  | candidates => v.isAmong atlas candidates

namespace Predicate

/-- Whether a predicate holds of an element. -/
def evaluate (atlas : Atlas α) (m : Member α) : Predicate α → Except QueryError Bool
  | compare left operator right => do
    let v ← left.evaluate atlas m
    let w ← right.toValue atlas
    operator.holds v w
  | is left right => do
    let v ← left.evaluate atlas m
    let w ← right.toValue atlas
    return v.identical w
  | isIn left candidates => do
    let v ← left.evaluate atlas m
    v.isIn atlas candidates
  | truthy path => do
    let v ← path.evaluate atlas m
    return v.truthy
  | and p q => do
    let holds ← p.evaluate atlas m
    if holds then q.evaluate atlas m else return false
  | or p q => do
    let holds ← p.evaluate atlas m
    if holds then return true else q.evaluate atlas m
  | not p => do
    let holds ← p.evaluate atlas m
    return !holds
  | const b => .ok b
  | custom _ test => test atlas m

/-- Whether a predicate is put in parentheses as an operand of `and`, or of `not`. -/
def needsGroup (underNot : Bool) : Predicate α → Bool
  | or .. => true
  | and .. => underNot
  | _ => false

/-- A text in parentheses where they are needed. -/
def group (needed : Bool) (text : String) : String :=
  if needed then "(" ++ text ++ ")" else text

/-- The text of the candidates of a membership test. -/
def candidatesText : List (Literal α) → String
  | [.list items] => (Literal.list items).render
  | [.text s] => s
  | candidates => (Literal.list candidates).render

/-- The predicate as it is described, with as few parentheses as its connectives need. -/
def text : Predicate α → String
  | compare left operator right => left.text ++ " " ++ operator.symbol ++ " " ++ right.render
  | is left right => left.text ++ " is " ++ right.render
  | isIn left candidates => left.text ++ " in " ++ candidatesText candidates
  | truthy path => path.text
  | and p q => group (p.needsGroup false) p.text ++ " and " ++ group (q.needsGroup false) q.text
  | or p q => p.text ++ " or " ++ q.text
  | not p => "not " ++ group (p.needsGroup true) p.text
  | const b => toString b
  | custom label _ => label

end Predicate

end ElementAtlas
