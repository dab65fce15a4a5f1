/-!
# File trees

A file tree is a list of files and directories, each at its place below the root, and a working
directory. A path names a place step by step, from the root if it begins with a slash and from the
working directory otherwise. Every step, also one that stays where it is or goes up, has to start
from a directory that exists.
-/

namespace ElementAtlas

/-- Why a file cannot be read. -/
inductive ReadFailure where
  | notFound
  | notADirectory
  | isDirectory
  | nameTooLong
  | holdsNull
  | notText
deriving DecidableEq, Repr

/-- What is said about a file that is not read. -/
def ReadFailure.message : ReadFailure → String
  | .notFound => "No such file or directory (os error 2)"
  | .notADirectory => "Not a directory (os error 20)"
  | .isDirectory => "Is a directory (os error 21)"
  | .nameTooLong => "File name too long (os error 36)"
  | .holdsNull => "file name contained an unexpected NUL byte"
  | .notText => "stream did not contain valid UTF-8"

/-- What stands at a place. -/
inductive FileEntry where
  | directory
  | file (content : ByteArray)

/-- The names on the way from the root to a place. -/
abbrev Place := List String

/-- Files and directories by their places. -/
structure FileTree where
  entries : List (Place × FileEntry)
  workingDirectory : Place

namespace FileTree

/-- The empty tree, in which one works at the root. -/
def empty : FileTree := ⟨[], []⟩

/-- What stands at a place. The root is always a directory. -/
def entry? (t : FileTree) (place : Place) : Option FileEntry :=
  if place.isEmpty then some .directory else t.entries.lookup place

def isDirectory (t : FileTree) (place : Place) : Bool :=
  t.entry? place matches some .directory

/-- The tree with an entry put at a place, in the stead of what stood there. -/
def set (t : FileTree) (place : Place) (entry : FileEntry) : FileTree :=
  { t with entries := t.entries.filter (·.1 ≠ place) ++ [(place, entry)] }

/-- The tree with an entry put at a place, and directories on the way to it where there is nothing
yet. -/
def insert (t : FileTree) (place : Place) (entry : FileEntry) : FileTree :=
  let parents := ((List.range place.length).map place.take).filter (t.entry? · |>.isNone)
  (parents.foldl (fun t place => t.set place .directory) t).set place entry

/-- How many bytes a name may have. -/
def maxNameBytes : Nat := 255

/-- How many bytes a path may have. -/
def maxPathBytes : Nat := 4095

/-- Takes the steps of a path from a place. -/
def walk (t : FileTree) (here : Place) : List String → Except ReadFailure Place
  | [] => .ok here
  | step :: steps =>
    if !t.isDirectory here then .error .notADirectory
    else if step = "" ∨ step = "." then t.walk here steps
    else if step = ".." then t.walk here.dropLast steps
    else if maxNameBytes < step.utf8ByteSize then .error .nameTooLong
    else if (t.entry? (here ++ [step])).isNone then .error .notFound
    else t.walk (here ++ [step]) steps

/-- The steps of a path: the texts between its slashes. -/
def steps (path : String) : List String := (path.toList.splitOn '/').map String.ofList

/-- The place that a path names. The empty path names none. -/
def resolve (t : FileTree) (path : String) : Except ReadFailure Place :=
  if path.contains '\x00' then .error .holdsNull
  else if path.isEmpty then .error .notFound
  else if maxPathBytes < path.utf8ByteSize then .error .nameTooLong
  else t.walk (if path.startsWith "/" then [] else t.workingDirectory) (steps path)

/-- The text of a file. -/
def readText (t : FileTree) (path : String) : Except ReadFailure String := do
  let place ← t.resolve path
  match t.entry? place with
  | none => throw .notFound
  | some .directory => throw .isDirectory
  | some (.file content) =>
    match String.fromUTF8? content with
    | some text => return text
    | none => throw .notText

/-- The way from a place to a file below it. -/
def wayBelow? (place : Place) : Place × FileEntry → Option Place
  | (file, .file _) =>
    if place.isPrefixOf file ∧ place ≠ file then some (file.drop place.length) else none
  | (_, .directory) => none

/-- The files below a place, each by the way to it from there, in the order of the entries. -/
def filesBelow (t : FileTree) (place : Place) : List Place :=
  t.entries.filterMap (wayBelow? place)

end FileTree

end ElementAtlas
