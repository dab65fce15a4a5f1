import ElementAtlas.Document
import ElementAtlas.Json.Reader
import ElementAtlas.StringTable.Template
import ElementAtlas.Text.Search

/-!
# Loading from files

The definition files below a directory are those named like `x.json`, and they are read in the order
of their paths, compared name by name. The first that cannot be read, or holds no definitions, is
the error of the directory.
-/

namespace ElementAtlas.FileTree

/-- Whether a name is that of a definition file: `.json` after at least one character. -/
def isDefinitionName (name : String) : Bool :=
  Text.endsWith name ".json" && name ≠ ".json"

/-- The path of a file below a directory. -/
def join (directory : String) (way : Place) : String :=
  directory ++ (if Text.endsWith directory "/" then "" else "/") ++ "/".intercalate way

/-- The paths on the way from a directory to a file below it, the path of the file apart. -/
def pathsTo (directory : String) (way : Place) : List String :=
  ((List.range way.length).drop 1).map fun n => join directory (way.take n)

/-- The files that a traversal of a directory comes upon, each by the way to it and in no particular
order. Files below a directory whose path is too long are not found. -/
def traverse (t : FileTree) (path : String) (place : Place) : List Place :=
  (t.filesBelow place).filter fun way =>
    (pathsTo path way).all (·.utf8ByteSize ≤ maxPathBytes)

/-- The definition files among those that a traversal comes upon, in the order of their paths. -/
def definitionWays (ways : List Place) : List Place :=
  (ways.filter (·.getLast?.any isDefinitionName)).mergeSort fun p q => (compare p q).isLE

/-- The paths of the definition files at or below a path, sorted. A path that leads nowhere has
none. -/
def definitionFiles (t : FileTree) (path : String) : List String :=
  match t.resolve path with
  | .error _ => []
  | .ok place =>
    match t.entry? place with
    | some (.file _) => if (place.getLast?.any isDefinitionName) then [path] else []
    | some .directory => (definitionWays (t.traverse path place)).map (join path)
    | none => []

/-- The text of a file, in which a failure names the path. -/
def loadText (t : FileTree) (path : String) : Except LoadError String :=
  (t.readText path).mapError (.unreadable path)

variable {α : Type} [Scalar α]

/-- The definitions of a file. -/
def loadDefinitions (t : FileTree) (path : String) : Except LoadError (List (Definition α)) := do
  let text ← t.loadText path
  match Json.parse? text with
  | none => throw (.notJson path)
  | some document => Document.definitions document

/-- The string table of the template in a file. -/
def loadStrings (t : FileTree) (path : String) : Except LoadError StringTable :=
  (t.loadText path).map .ofTemplate

/-- The atlas of all definitions at or below a path. -/
def loadAtlas (t : FileTree) (path : String) (strings : StringTable) :
    Except LoadError (Atlas α) := do
  let definitions ← (t.definitionFiles path).mapM t.loadDefinitions
  (Atlas.ofDefinitions definitions.flatten strings).mapError .unresolved

end ElementAtlas.FileTree
