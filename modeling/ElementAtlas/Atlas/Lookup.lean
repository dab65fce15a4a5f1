import ElementAtlas.Atlas.Basic
import ElementAtlas.Json.Basic

/-!
# Looking up elements

An element is addressed by its place or by its name, and a loosely typed key is one or the other
according to its JSON type.
-/

namespace ElementAtlas

/-- How an element is addressed. -/
inductive Key where
  | index (n : Nat)
  | name (s : String)
deriving DecidableEq, Repr

/-- The kinds of JSON values other than texts. -/
inductive JsonKind where
  | null
  | boolean
  | number
  | list
  | mapping
deriving DecidableEq, Repr

/-- Why a look-up or a search has no answer. -/
inductive LookupError where
  | unknownElement (name : String)
  | indexOutOfRange (index size : Nat)
  | unsupportedKey (kind : JsonKind)
  | unsupportedNeedle (kind : JsonKind)
deriving DecidableEq, Repr

def JsonKind.text : JsonKind → String
  | .null => "null"
  | .boolean => "a boolean"
  | .number => "a number"
  | .list => "a list"
  | .mapping => "a mapping"

/-- What is said about a key without an element. -/
def LookupError.message : LookupError → String
  | .unknownElement name => s!"no element named '{name}'"
  | .indexOutOfRange index size => s!"index {index} is out of range for {size} elements"
  | .unsupportedKey .number => "cannot index elements by a negative or fractional number"
  | .unsupportedKey kind => s!"cannot index elements by {kind.text}"
  | .unsupportedNeedle kind => s!"cannot search elements with {kind.text}"

variable {α : Type}

/-- The key that a JSON value is. Of the numbers, only the natural ones are. -/
def Key.ofJson : Json α → Except LookupError Key
  | .string s => .ok (.name s)
  | .number (.natural n) => .ok (.index n)
  | .number _ => .error (.unsupportedKey .number)
  | .null => .error (.unsupportedKey .null)
  | .bool _ => .error (.unsupportedKey .boolean)
  | .array _ => .error (.unsupportedKey .list)
  | .object _ => .error (.unsupportedKey .mapping)

/-- The element that a key addresses. -/
def Atlas.lookup (atlas : Atlas α) : Key → Except LookupError (Member α)
  | .index n =>
    match atlas.get? ⟨n⟩ with
    | some m => .ok m
    | none => .error (.indexOutOfRange n atlas.size)
  | .name s =>
    match atlas.named? s with
    | some m => .ok m
    | none => .error (.unknownElement s)

end ElementAtlas
