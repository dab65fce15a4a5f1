import ElementAtlas.Atlas.Search
import ElementAtlas.Atlas.Sort
import ElementAtlas.CommandLine.Invocation
import ElementAtlas.FileTree.Load
import ElementAtlas.Pattern.Reader
import ElementAtlas.Report
import ElementAtlas.Sample

/-!
# Carrying out commands

A command is a function from an atlas to the text it prints. What the program does as a whole is a
function too, of its arguments and a file tree: the code that it exits with and what it writes to
its two outputs.
-/

namespace ElementAtlas.CommandLine

/-- Why an invocation fails. -/
inductive Failure where
  | atlas (path : String) (cause : LoadError)
  | load (cause : LoadError)
  | noDefinitions (path : String)
  | invalidPattern (needle : String) (cause : PatternError)
  | lookup (cause : LookupError)
  | query (cause : QueryError)
deriving DecidableEq, Repr

namespace Failure

/-- The message of a failure, and those of what lies behind it. -/
def messages : Failure → List String
  | atlas path cause =>
    ("Failed to load element data from " ++ path) :: cause.message :: cause.causeMessage?.toList
  | load cause => cause.message :: cause.causeMessage?.toList
  | noDefinitions path => ["No element definitions found under " ++ path]
  | invalidPattern needle cause => ["Invalid pattern '" ++ needle ++ "'", cause.message]
  | lookup cause => [cause.message]
  | query cause => [cause.message]

/-- A message with its lines after the first indented. -/
def indent (width : Nat) (message : String) : String :=
  ("\n" ++ String.ofList (List.replicate width ' ')).intercalate (message.splitOn "\n")

/-- The causes of a failure, numbered if there are several. -/
def causesText : List String → String
  | [] => ""
  | [cause] => "\n\nCaused by:\n    " ++ indent 4 cause
  | causes =>
    "\n\nCaused by:" ++ String.join (causes.zipIdx.map fun (cause, n) =>
      "\n" ++ Text.alignRight 5 (toString n) ++ ": " ++ indent 7 cause)

/-- What is written about a failure. -/
def text (f : Failure) : String :=
  match f.messages with
  | [] => ""
  | message :: causes => "Error: " ++ message ++ causesText causes ++ "\n"

end Failure

variable {α : Type} [Scalar α]

/-- Failures of queries are failures of the commands that make them. -/
def ofQuery {β : Type} (r : Except QueryError β) : Except Failure β := r.mapError .query

/-- Failures of quantities are failures of the commands that compute with them. -/
def ofQuantity {β : Type} (r : Except QuantityError β) : Except Failure β :=
  ofQuery (QueryError.ofQuantity r)

/-- A text of one line. -/
def line (text : String) : String := text ++ "\n"

/-- The table of all elements. -/
def listText (atlas : Atlas α) : String :=
  let row := fun id name state =>
    line (Text.alignLeft 24 id ++ " " ++ Text.alignLeft 28 name ++ " " ++ state)
  row "ID" "Name" (Text.alignLeft 8 "State") ++ line (Text.rule 62) ++
    String.join (atlas.elements.map fun e => row e.name e.displayName e.state.name) ++
    "\n" ++ line (toString atlas.size ++ " elements")

/-- The line about a transition. -/
def transitionText (atlas : Atlas α) (label : String) (t : Transition α ElementId) : String :=
  let target := ((atlas.target? t).map (·.element.displayName)).getD t.targetName
  let byproduct := match t.byproductName, t.byproductRatio with
    | some name, some ratio =>
      " (+" ++ name ++ ", " ++ Scalar.text (some 0) (ratio * Scalar.ofNat 100) ++ "%)"
    | some name, none => " (+" ++ name ++ ")"
    | none, _ => ""
  line ("  " ++ label ++ ": " ++ target ++ " @ " ++ t.temperature.text (some 1) ++ byproduct)

/-- The properties of an element. -/
def showText (atlas : Atlas α) (m : Member α) : Except Failure String := do
  let e := m.element
  let property := fun label text => line ("  " ++ label ++ ": " ++ text)
  let optional := fun label (text : Option String) => (text.map (property label)).getD ""
  let density ← ofQuantity do
    (← e.density).mapM fun density => density.convertTo "kg/m^3"
  let diffusivity ← ofQuantity do
    (← e.thermalDiffusivity).mapM fun diffusivity => diffusivity.convertTo "mm^2/s"
  return String.join
    [line ("Element: " ++ e.displayName),
     property "ID" e.name,
     property "State" e.state.name,
     property "Specific heat capacity" (e.specificHeatCapacity.text (some 3)),
     property "Thermal conductivity" (e.thermalConductivity.text (some 3)),
     property "Molar mass" (e.molarMass.text (some 3)),
     property "Radiation absorption" (Scalar.text none e.radiationAbsorption.magnitude),
     property "Radioactivity" (e.radioactivity.text none),
     optional "Mass per tile" (e.massPerTile.map (·.text none)),
     optional "Density" (density.map (·.text (some 3))),
     optional "Thermal diffusivity" (diffusivity.map (·.text (some 4))),
     (e.highTransition.map (transitionText atlas "Melts/boils")).getD "",
     (e.lowTransition.map (transitionText atlas "Freezes/condenses")).getD ""]

/-- The needle of a search. -/
def needle (text : String) (isPattern : Bool) : Except Failure (Needle α) :=
  if isPattern then
    match Pattern.parse text with
    | .ok p => .ok (.pattern p.program)
    | .error cause => .error (.invalidPattern text cause)
  else .ok (.substring text)

/-- The elements that have been found. -/
def foundText (text : String) (found : List (Member α)) : String :=
  if found.isEmpty then line ("No elements match '" ++ text ++ "'")
  else String.join (found.map fun m =>
    line ("  " ++ Text.alignLeft 24 m.element.name ++ " " ++ m.element.displayName))

/-- The report on the elements of a state that are stable between two temperatures, by their
thermal conductivity. -/
def stableText (atlas : Atlas α) (state : State) (low high : α) : Except Failure String := do
  let low ← ofQuantity (Quantity.parse low "degC")
  let high ← ofQuantity (Quantity.parse high "degC")
  let predicate := Predicate.and (.isState state) (.stableOver low high)
  let found ← ofQuery (atlas.find (.predicate predicate))
  let sorted ← ofQuery (atlas.sortedBy found (.ofField "thermal_conductivity"))
  let report ← ofQuery (Report.build atlas sorted Column.standard)
  let table := if sorted.isEmpty then line "No elements match." else report.text
  return line predicate.text ++ "\n" ++ table

/-- The heat that a mass of an element takes up. -/
def heatText (m : Member α) (mass interval : α) : Except Failure String := do
  let mass ← ofQuantity (Quantity.parse mass "kg")
  let interval ← ofQuantity (Quantity.parse interval "delta_degC")
  let heat ← ofQuantity (m.element.heatEnergy interval mass)
  let heat ← ofQuantity (heat.convertTo "kDTU")
  return line (mass.text none ++ " x " ++ m.element.displayName ++ ": " ++ heat.text (some 1) ++
    " to change by " ++ interval.text none)

/-- What a command prints. -/
def Command.run (atlas : Atlas α) : Command α → Except Failure String
  | list => .ok (listText atlas)
  | .show name => do showText atlas (← (atlas.lookup (.name name)).mapError .lookup)
  | find text isPattern => do
    let needle ← needle text isPattern
    return foundText text (← ofQuery (atlas.find needle))
  | stable state low high => stableText atlas state low high
  | heat name mass interval => do
    heatText (← (atlas.lookup (.name name)).mapError .lookup) mass interval

/-- The atlas that an invocation works on. Display names are loaded only for definitions that are
loaded too. -/
def Invocation.load (i : Invocation α) (files : FileTree) : Except Failure (Atlas α) := do
  match i.data with
  | none => Sample.atlas.mapError .load
  | some path =>
    let strings ← match i.strings with
      | none => pure ∅
      | some path => (files.loadStrings path).mapError .load
    let atlas ← (files.loadAtlas path strings).mapError (.atlas path)
    if atlas.isEmpty then throw (.noDefinitions path) else return atlas

/-- What an invocation prints. -/
def Invocation.run (i : Invocation α) (files : FileTree) : Except Failure String := do
  i.command.run (← i.load files)

/-- What a command line prints, or why nothing comes of it. -/
inductive Outcome where
  | printed (text : String)
  | refused (cause : Refusal)
  | failed (cause : Failure)
deriving DecidableEq, Repr

namespace Outcome

/-- What comes of the arguments of a command line. -/
def ofArguments (arguments : List String) (files : FileTree) : Outcome :=
  match Invocation.parse arguments with
  | .error refusal => .refused refusal
  | .ok invocation =>
    match invocation.run files with
    | .error failure => .failed failure
    | .ok text => .printed text

/-- The lines that tell how the program is used. -/
def usage : String := String.join
  ["Usage: [--data PATH] [--strings PATH] [--verbose] COMMAND\n\n",
   "Commands:\n",
   "  list\n",
   "  show NAME\n",
   "  find NEEDLE [--regex]\n",
   "  stable [--state solid|liquid|gas] [--from NUMBER] [--to NUMBER]\n",
   "  heat NAME [--mass NUMBER] [--delta NUMBER]\n"]

/-- The code that the program exits with. -/
def code : Outcome → Nat
  | printed _ => 0
  | refused .helpWanted => 0
  | refused _ => 2
  | failed _ => 1

/-- What the program writes to its standard output. -/
def output : Outcome → String
  | printed text => text
  | refused .helpWanted => usage
  | refused _ | failed _ => ""

/-- What the program writes to its standard error. -/
def errors : Outcome → String
  | printed _ | refused .helpWanted => ""
  | refused cause => "error: " ++ cause.message ++ "\n\n" ++ usage
  | failed cause => cause.text

end Outcome

end ElementAtlas.CommandLine
