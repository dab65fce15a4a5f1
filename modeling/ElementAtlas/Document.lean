import ElementAtlas.Atlas.Basic
import ElementAtlas.Element.Record
import ElementAtlas.FileTree.Basic

/-!
# Documents of definitions

A document is a JSON object whose field `elements` is a list of records. It is read as a whole: the
first record that is no definition is the error of the document.
-/

namespace ElementAtlas

/-- Why definitions cannot be loaded. -/
inductive LoadError where
  | missingElements
  | badDefinition (element : String) (cause : RecordError)
  | unreadable (path : String) (cause : ReadFailure)
  | notJson (path : String)
  | unresolved (cause : ResolveError)
deriving DecidableEq, Repr

namespace LoadError

/-- What is said about a document that is not loaded. -/
def message : LoadError → String
  | missingElements => "definition document did not contain the expected \"elements\" list"
  | badDefinition element cause => s!"bad definition for {element}: {cause.message}"
  | unreadable path cause => s!"failed to read {path}: {cause.message}"
  | notJson path => s!"failed to parse {path}"
  | unresolved cause => cause.message

/-- The message of what lies behind an error, if anything does. -/
def causeMessage? : LoadError → Option String
  | badDefinition _ cause => some cause.message
  | unreadable _ cause => some cause.message
  | missingElements | notJson _ | unresolved _ => none

end LoadError

namespace Document

variable {α : Type} [Scalar α]

/-- How an element without a name is called in an error. -/
def unknownElement : String := "<unknown>"

omit [Scalar α] in
/-- The name of the element that some fields are about, as far as they give one. -/
def elementName (fields : Json.Fields α) : String :=
  match fields.get? "elementId" with
  | some (.string name) => name
  | _ => unknownElement

/-- The definition that some fields give. -/
def definitionOfFields (fields : Json.Fields α) : Except LoadError (Definition α) :=
  (Definition.ofRecord fields).mapError (.badDefinition (elementName fields))

/-- The definition that an item of the list gives. -/
def definition : Json α → Except LoadError (Definition α)
  | .object fields => definitionOfFields fields
  | _ => .error (.badDefinition unknownElement .notAMapping)

/-- The definitions of a document, in their order. -/
def definitions : Json α → Except LoadError (List (Definition α))
  | .object fields =>
    match Json.Fields.get? "elements" fields with
    | some (.array items) => items.mapM definition
    | _ => .error .missingElements
  | _ => .error .missingElements

/-- The atlas of a document, with the display names of a string table. -/
def atlas (document : Json α) (strings : StringTable) : Except LoadError (Atlas α) := do
  let definitions ← definitions document
  (Atlas.ofDefinitions definitions strings).mapError .unresolved

end Document

end ElementAtlas
