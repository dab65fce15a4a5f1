import ElementAtlas.Scalar.Basic

/-!
# JSON values

Numbers written as integers stay integers as long as they fit into 64 bits; all others are scalars.
The fields of an object are kept in the order of their names, each name once.
-/

namespace ElementAtlas

/-- A JSON number: an integer without a sign, the negative of a positive integer, or a scalar. -/
inductive Json.Number (α : Type) where
  | natural (n : Nat)
  | negative (n : Nat)
  | real (x : α)

/-- A JSON value. -/
inductive Json (α : Type) where
  | null
  | bool (b : Bool)
  | number (n : Json.Number α)
  | string (s : String)
  | array (items : List (Json α))
  | object (fields : List (String × Json α))
deriving Inhabited

namespace Json

variable {α : Type}

/-- The fields of an object, in the order of their names. -/
abbrev Fields (α : Type) := List (String × Json α)

/-- The value of a field. -/
def Fields.get? (name : String) (fields : Fields α) : Option (Json α) := fields.lookup name

/-- The fields with one of them set. -/
def Fields.insert (name : String) (value : Json α) : Fields α → Fields α
  | [] => [(name, value)]
  | (other, old) :: fields =>
    match compare name other with
    | .lt => (name, value) :: (other, old) :: fields
    | .eq => (name, value) :: fields
    | .gt => (other, old) :: insert name value fields

/-- The fields of a list of pairs, where the last value of a name is the one that stays. -/
def Fields.ofList (pairs : List (String × Json α)) : Fields α :=
  pairs.foldl (fun fields (name, value) => fields.insert name value) []

variable [Scalar α]

/-- A number as a scalar. -/
def Number.toScalar : Number α → α
  | .natural n => Scalar.ofNat n
  | .negative n => -Scalar.ofNat n
  | .real x => x

/-- A scalar as a JSON value. What is not finite has no number and becomes a null. -/
def ofScalar (x : α) : Json α := if Scalar.isFinite x then .number (.real x) else .null

end Json

end ElementAtlas
