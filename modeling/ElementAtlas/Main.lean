import ElementAtlas.CommandLine.Run

/-!
# The program

Reads from the disk what an invocation names and does as `ElementAtlas.CommandLine` says.
-/

namespace ElementAtlas.Main

open CommandLine

/-- The place that the steps of a path lead to. -/
def placeFrom (start : Place) (steps : List String) : Place :=
  steps.foldl (fun place step =>
    if step = "" ∨ step = "." then place
    else if step = ".." then place.dropLast
    else place ++ [step]) start

/-- Whether a path leads to a directory. -/
def leadsToDirectory (path : String) : IO Bool := do
  try
    return ← (← IO.FS.realPath path).isDir
  catch _ => return false

/-- Adds to a tree, at a place, what stands at a path and all that stands below it. What cannot be
read is left out, and so is a link to one of the directories above it. -/
partial def scan (t : FileTree) (above : List String) (place : Place) (path : String) :
    IO FileTree := do
  try
    let here ← IO.FS.realPath path
    if !(← here.isDir) then return t.insert place (.file (← IO.FS.readBinFile here))
    else if above.contains here.toString then return t
    else
      (← here.readDir).foldlM (fun t entry =>
        scan t (here.toString :: above) (place ++ [entry.fileName]) entry.path.toString)
        (t.insert place .directory)
  catch _ => return t

/-- Adds to a tree what a path leads to, and the directories that it goes through. -/
def scanPath (t : FileTree) (path : String) : IO FileTree := do
  let start := if path.startsWith "/" then [] else t.workingDirectory
  let steps := path.splitOn "/"
  let through := (List.range steps.length).map steps.take
  let t ← through.foldlM (fun t way => do
    if ← leadsToDirectory ("/".intercalate way) then
      return t.insert (placeFrom start way) .directory
    else return t) t
  scan t [] (placeFrom start steps) path

/-- The files and directories at some paths. -/
def filesAt (paths : List String) : IO FileTree := do
  let here := placeFrom [] ((← IO.currentDir).toString.splitOn "/")
  paths.foldlM scanPath { FileTree.empty.insert here .directory with workingDirectory := here }

end ElementAtlas.Main

open ElementAtlas in
def main (arguments : List String) : IO UInt32 := do
  let paths := match CommandLine.Invocation.parse arguments with
    | .ok invocation => invocation.data.toList ++ invocation.strings.toList
    | .error _ => []
  let outcome := CommandLine.Outcome.ofArguments arguments (← Main.filesAt paths)
  (← IO.getStdout).putStr outcome.output
  (← IO.getStderr).putStr outcome.errors
  return outcome.code.toUInt32
