import ElementAtlas.Query.Access

/-!
# Attributes

An attribute is a path from an element to a value: a base, which is the element itself or computed
from it, and hops, each a field or a call. Where the value before a hop is absent, an optional hop
makes the whole path absent, and a required one fails and names the path up to itself.
-/

namespace ElementAtlas

/-- What a hop does with the value before it. -/
inductive Step (α : Type) where
  | field (name : String)
  | call (arguments : Arguments α)

/-- A step of a path, required or optional. -/
structure Hop (α : Type) where
  step : Step α
  isOptional : Bool

/-- Where a path begins: at the element, or at a value computed from it and described by a label. -/
inductive Base (α : Type) where
  | root
  | custom (label : String) (value : Atlas α → Member α → Except QueryError (Value α))

/-- A path from an element to a value. The hops added to it from now on are optional or not. -/
structure Attribute (α : Type) where
  base : Base α
  hops : List (Hop α)
  isOptional : Bool

namespace Attribute

variable {α : Type}

/-- The element itself. -/
def root : Attribute α := ⟨.root, [], false⟩

/-- A value computed from the element. -/
def custom (label : String) (value : Atlas α → Member α → Except QueryError (Value α)) :
    Attribute α :=
  ⟨.custom label value, [], false⟩

/-- The path with one more step. -/
def push (a : Attribute α) (step : Step α) : Attribute α :=
  { a with hops := a.hops ++ [⟨step, a.isOptional⟩] }

/-- The same path, every later hop of which is optional. -/
def optional (a : Attribute α) : Attribute α := { a with isOptional := true }

/-- The path with one more field. -/
def field (a : Attribute α) (name : String) : Attribute α := a.push (.field name)

/-- The path with one more call. -/
def call (a : Attribute α) (arguments : Arguments α) : Attribute α := a.push (.call arguments)

/-- A field that is a method, and a call of it. -/
def method (a : Attribute α) (name : String) (arguments : List (Literal α)) : Attribute α :=
  (a.field name).call ⟨arguments, []⟩

/-- The quantity in the unit of an expression. -/
def convertTo (a : Attribute α) (unit : String) : Attribute α := a.method "to" [.text unit]

/-- The magnitude of the quantity. -/
def magnitude (a : Attribute α) : Attribute α := a.field "m"

/-- A field of the element. -/
def ofField (name : String) : Attribute α := root.field name

variable [Scalar α]

/-- The description of a path with one more hop. -/
def describeHop (path : String) (hop : Hop α) : String :=
  match hop.step with
  | .field name =>
    path ++ (if path.isEmpty then "" else ".") ++ (if hop.isOptional then "?" else "") ++ name
  | .call arguments =>
    let texts := Literal.renderAll arguments.positional ++
      arguments.keywords.map fun (keyword, argument) => keyword ++ "=" ++ argument.render
    path ++ "(" ++ ",".intercalate texts ++ ")"

/-- The description of the path that has only the given hops. -/
def describe (a : Attribute α) (hops : List (Hop α)) : String :=
  let label := match a.base with
    | .root => ""
    | .custom label _ => label
  let path := hops.foldl describeHop label
  if path.isEmpty then "element" else path

/-- The path as it is described. -/
def text (a : Attribute α) : String := a.describe a.hops

end Attribute

variable {α : Type} [Scalar α]

/-- Takes a step from a value. -/
def Step.apply (atlas : Atlas α) (value : Value α) : Step α → Except QueryError (Value α)
  | .field name => value.field atlas name
  | .call arguments => value.call arguments

/-- The value of a base on an element. -/
def Base.evaluate (atlas : Atlas α) (m : Member α) : Base α → Except QueryError (Value α)
  | .root => .ok (.element m)
  | .custom _ value => value atlas m

namespace Attribute

/-- Follows hops from a value, of which those before have been followed. The first hop from an
absent value settles the whole path. -/
def follow (a : Attribute α) (atlas : Atlas α) (value : Value α) (before : List (Hop α)) :
    List (Hop α) → Except QueryError (Value α)
  | [] => .ok value
  | hop :: hops =>
    if value.isNone then
      if hop.isOptional then .ok .none
      else .error (.missingValue (a.describe (before ++ [hop])))
    else do
      let next ← hop.step.apply atlas value
      a.follow atlas next (before ++ [hop]) hops

/-- The value of an attribute on an element. -/
def evaluate (a : Attribute α) (atlas : Atlas α) (m : Member α) : Except QueryError (Value α) := do
  let value ← a.base.evaluate atlas m
  a.follow atlas value [] a.hops

end Attribute

end ElementAtlas
