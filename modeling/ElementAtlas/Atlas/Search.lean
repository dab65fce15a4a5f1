import ElementAtlas.Atlas.Lookup
import ElementAtlas.Pattern.Program
import ElementAtlas.Query.Predicate

/-!
# Searching an atlas

A search goes through the elements in order and keeps those that its needle accepts. A text and a
pattern are looked for in the name and in the display name. The first element that a predicate fails
on ends the search with its error.
-/

namespace ElementAtlas

/-- What an atlas is searched with. -/
inductive Needle (α : Type) where
  | substring (text : String)
  | pattern (p : Program)
  | function (f : Element α ElementId → Bool)
  | predicate (p : Predicate α)

variable {α : Type}

/-- The needle that a JSON value is. Only texts are, and they are looked for as they stand. -/
def Needle.ofJson : Json α → Except LookupError (Needle α)
  | .string text => .ok (.substring text)
  | .null => .error (.unsupportedNeedle .null)
  | .bool _ => .error (.unsupportedNeedle .boolean)
  | .number _ => .error (.unsupportedNeedle .number)
  | .array _ => .error (.unsupportedNeedle .list)
  | .object _ => .error (.unsupportedNeedle .mapping)

variable [Scalar α]

/-- Whether a needle accepts an element. -/
def Needle.accepts (atlas : Atlas α) (m : Member α) : Needle α → Except QueryError Bool
  | substring text =>
    .ok (Text.contains m.element.name text || Text.contains m.element.displayName text)
  | pattern p => .ok (p.isFoundIn m.element.name || p.isFoundIn m.element.displayName)
  | function f => .ok (f m.element)
  | predicate p => p.evaluate atlas m

/-- Those of some elements that a needle accepts. -/
def Needle.select (atlas : Atlas α) (needle : Needle α) :
    List (Member α) → Except QueryError (List (Member α))
  | [] => .ok []
  | m :: ms => do
    let isHit ← needle.accepts atlas m
    let hits ← needle.select atlas ms
    return if isHit then m :: hits else hits

/-- The elements of an atlas that a needle accepts. -/
def Atlas.find (atlas : Atlas α) (needle : Needle α) : Except QueryError (List (Member α)) :=
  needle.select atlas atlas.members

end ElementAtlas
