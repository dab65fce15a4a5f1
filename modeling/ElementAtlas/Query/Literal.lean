import ElementAtlas.Query.Value

/-!
# Literals

A literal is a constant of a query: what an attribute is compared with, or an argument of a method.
A literal element is named by its place and becomes a value only in an atlas that has the place.
-/

namespace ElementAtlas

/-- A constant of a query. -/
inductive Literal (α : Type) where
  | none
  | bool (b : Bool)
  | number (x : α)
  | text (s : String)
  | state (s : State)
  | quantity (q : Quantity α)
  | element (id : ElementId)
  | list (items : List (Literal α))

/-- The value of an element of the atlas. -/
def Atlas.valueAt {α : Type} (atlas : Atlas α) (id : ElementId) : Except QueryError (Value α) :=
  match atlas.get? id with
  | some m => .ok (.element m)
  | none => .error (.danglingElement id.index)

namespace Literal

variable {α : Type}

mutual

/-- The value of a literal in an atlas. -/
def toValue (atlas : Atlas α) : Literal α → Except QueryError (Value α)
  | none => .ok .none
  | bool b => .ok (.bool b)
  | number x => .ok (.number x)
  | text s => .ok (.text s)
  | state s => .ok (.state s)
  | quantity q => .ok (.quantity q)
  | element id => atlas.valueAt id
  | list items => (toValues atlas items).map .list

/-- The values of a list of literals. -/
def toValues (atlas : Atlas α) : List (Literal α) → Except QueryError (List (Value α))
  | [] => .ok []
  | literal :: literals => do
    let value ← toValue atlas literal
    let values ← toValues atlas literals
    return value :: values

end

variable [Scalar α]

mutual

/-- The text of a literal. -/
def render : Literal α → String
  | none => "None"
  | bool b => toString b
  | number x => Scalar.text Option.none x
  | text s => s
  | state s => "State." ++ s.name
  | quantity q => q.text Option.none
  | element id => id.text
  | list items => "[" ++ ", ".intercalate (renderAll items) ++ "]"

/-- The texts of a list of literals. -/
def renderAll : List (Literal α) → List String
  | [] => []
  | literal :: literals => render literal :: renderAll literals

end

end Literal

end ElementAtlas
