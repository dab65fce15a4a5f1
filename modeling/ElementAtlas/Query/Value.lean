import ElementAtlas.Atlas.Basic

/-!
# Values of queries

Walking a path from an element yields values of several kinds. Values of one kind compare where the
kind has an order, plain numbers compare with quantities that are mere ratios, and no others do;
equality is defined for any two values, and fails only on quantities that do not convert into each
other.
-/

namespace ElementAtlas

/-- The kinds of values. -/
inductive ValueKind where
  | none
  | bool
  | number
  | text
  | state
  | quantity
  | element
  | transition
  | list
  | method
deriving DecidableEq, Repr

def ValueKind.name : ValueKind → String
  | .none => "None"
  | .bool => "bool"
  | .number => "number"
  | .text => "text"
  | .state => "state"
  | .quantity => "quantity"
  | .element => "element"
  | .transition => "transition"
  | .list => "list"
  | .method => "method"

/-- What is wrong with the arguments of a method. -/
inductive ArgumentFault where
  | tooMany (limit given : Nat)
  | unexpectedKeyword (keyword : String)
  | givenTwice (keyword : String)
  | missing (parameter : String)
  | notText (literal : String)
  | notQuantity (literal : String)
deriving DecidableEq, Repr

/-- Why a query has no answer on an element. -/
inductive QueryError where
  | noSuchField (kind : ValueKind) (field : String)
  | missingValue (path : String)
  | notCallable (kind : ValueKind)
  | incomparable (left right : ValueKind)
  | badArguments (method : String) (fault : ArgumentFault)
  | danglingElement (index : Nat)
  | quantity (cause : QuantityError)
deriving DecidableEq, Repr

/-- What is said about arguments that do not bind. -/
def ArgumentFault.message : ArgumentFault → String
  | .tooMany limit given => s!"expected at most {limit} arguments, got {given}"
  | .unexpectedKeyword keyword => s!"unexpected keyword '{keyword}'"
  | .givenTwice keyword => s!"'{keyword}' given more than once"
  | .missing parameter => s!"missing argument '{parameter}'"
  | .notText literal => s!"expected text, got {literal}"
  | .notQuantity literal => s!"expected a quantity, got {literal}"

/-- What is said about a query that fails. -/
def QueryError.message : QueryError → String
  | .noSuchField kind field => s!"{kind.name} has no field '{field}'"
  | .missingValue path => s!"'{path}' has no value"
  | .notCallable kind => s!"{kind.name} is not callable"
  | .incomparable left right => s!"cannot compare {left.name} with {right.name}"
  | .badArguments method fault => s!"bad arguments to {method}(): {fault.message}"
  | .danglingElement index => s!"element #{index} does not belong to this collection"
  | .quantity cause => cause.message

/-- A value that a path leads to. A transition is a transition of an element, on one of its sides;
a method is bound to the value it was looked up on. -/
inductive Value (α : Type) where
  | none
  | bool (b : Bool)
  | number (x : α)
  | text (s : String)
  | state (s : State)
  | quantity (q : Quantity α)
  | element (m : Member α)
  | transition (owner : ElementId) (side : Side) (t : Transition α ElementId)
  | list (items : List (Value α))
  | method (receiver : Value α) (name : String)

/-- Failures of quantities are failures of the queries that compute with them. -/
def QueryError.ofQuantity {β : Type} (r : Except QuantityError β) : Except QueryError β :=
  r.mapError .quantity

namespace Value

variable {α : Type}

/-- The kind of a value. -/
def kind : Value α → ValueKind
  | none => .none
  | bool _ => .bool
  | number _ => .number
  | text _ => .text
  | state _ => .state
  | quantity _ => .quantity
  | element _ => .element
  | transition .. => .transition
  | list _ => .list
  | method .. => .method

def isNone : Value α → Bool
  | none => true
  | _ => false

/-- The value of an optional quantity. -/
def ofQuantity? : Option (Quantity α) → Value α
  | some q => quantity q
  | Option.none => none

variable [Scalar α]

/-- Whether a value counts as true. -/
def truthy : Value α → Bool
  | none => false
  | bool b => b
  | number x => !(x == Scalar.ofNat 0)
  | text s => !s.isEmpty
  | quantity q => !(q.magnitude == Scalar.ofNat 0)
  | list items => !items.isEmpty
  | state _ | element _ | transition .. | method .. => true

/-- Whether a quantity is a mere ratio, which a plain number can be compared with. -/
def isRatio (q : Quantity α) : Bool := q.dimension = .dimensionless && !q.isAbsolute

/-- The order of two values, if they have one. -/
def compare? : Value α → Value α → Except QueryError (Option Ordering)
  | number x, number y => .ok (Scalar.compare? x y)
  | quantity q, quantity r => (QueryError.ofQuantity (q.compare r)).map some
  | quantity q, number y =>
    .ok (if isRatio q then Scalar.compare? q.toBaseUnit.magnitude y else Option.none)
  | number x, quantity r =>
    .ok (if isRatio r then Scalar.compare? x r.toBaseUnit.magnitude else Option.none)
  | text s, text t => .ok (some (Ord.compare s t))
  | bool b, bool c => .ok (some (Ord.compare b c))
  | state s, state t => .ok (some (Ord.compare s t))
  | _, _ => .ok Option.none

/-- The order of two values. It is an error if they have none. -/
def compare (v w : Value α) : Except QueryError Ordering := do
  match ← v.compare? w with
  | some o => return o
  | Option.none => throw (.incomparable v.kind w.kind)

mutual

/-- Whether two values are equal. Values of different kinds differ, but for a plain number and a
ratio. -/
def equals : Value α → Value α → Except QueryError Bool
  | none, none => .ok true
  | number x, number y => .ok (x == y)
  | quantity q, quantity r => QueryError.ofQuantity (q.equals r)
  | quantity q, number y => .ok ((quantity q).compare (number y) matches .ok .eq)
  | number x, quantity r => .ok ((number x).compare (quantity r) matches .ok .eq)
  | text s, text t => .ok (s == t)
  | bool b, bool c => .ok (b == c)
  | state s, state t => .ok (s == t)
  | element m, element n => .ok (m.element.sameAs n.element)
  | transition _ _ t, transition _ _ u => .ok (t.sameAs u)
  | list vs, list ws => if vs.length = ws.length then allEqual vs ws else .ok false
  | _, _ => .ok false

/-- Whether two lists of values are equal one by one, up to the first pair that is not. -/
def allEqual : List (Value α) → List (Value α) → Except QueryError Bool
  | v :: vs, w :: ws =>
    match equals v w with
    | .ok true => allEqual vs ws
    | .ok false => .ok false
    | .error e => .error e
  | _, _ => .ok true

end

/-- Whether two values are one: the same element or transition of the atlas, and for all other
values equal ones. -/
def identical : Value α → Value α → Bool
  | element m, element n => m.id = n.id
  | transition o s _, transition p t _ => o = p ∧ s = t
  | element _, _ | transition .., _ | _, element _ | _, transition .. => false
  | v, w => v.equals w matches .ok true

mutual

/-- The text of a value. Only a number and a quantity mind the number of places. -/
def render (places : Option Nat) : Value α → String
  | none => "None"
  | bool b => toString b
  | number x => Scalar.text places x
  | text s => s
  | state s => s.name
  | quantity q => q.text places
  | element m => m.element.displayName
  | transition _ _ t => t.text
  | list items => "[" ++ ", ".intercalate (renderAll items) ++ "]"
  | method _ name => "<method " ++ name ++ ">"

/-- The texts of a list of values. -/
def renderAll : List (Value α) → List String
  | [] => []
  | v :: vs => render Option.none v :: renderAll vs

end

end Value

end ElementAtlas
