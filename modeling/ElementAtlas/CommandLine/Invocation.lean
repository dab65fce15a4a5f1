import ElementAtlas.CommandLine.Options
import ElementAtlas.Element.Basic
import ElementAtlas.Scalar.Numeral

/-!
# Invocations

An invocation is a command with its arguments, after options that say where the definitions and the
display names come from.
-/

namespace ElementAtlas.CommandLine

/-- What to do with an atlas. -/
inductive Command (α : Type) where
  | list
  | show (name : String)
  | find (needle : String) (isPattern : Bool)
  /-- The elements of a state that are stable between two temperatures. -/
  | stable (state : State) (low high : α)
  /-- The heat that a mass takes up when its temperature changes by an interval. -/
  | heat (name : String) (mass interval : α)

/-- A command line. Without a path to definitions, the command works on the built-in sample. -/
structure Invocation (α : Type) where
  data : Option String
  strings : Option String
  isVerbose : Bool
  command : Command α

/-- The states that elements can be asked for in, by their names on a command line. -/
def stateOfName? : String → Option State
  | "solid" => some .solid
  | "liquid" => some .liquid
  | "gas" => some .gas
  | _ => none

/-- Any path but the empty one. -/
def pathKind : OptionKind := .value false fun value => value ≠ ""

/-- An option with a number as its value. -/
def numberKind (allowsNegative : Bool) : OptionKind :=
  .value allowsNegative fun value => (Double.parse? value).isSome

/-- An option with the name of a state as its value. -/
def stateKind : OptionKind := .value false fun value => (stateOfName? value).isSome

def helpRule : OptionRule := ⟨"help", some 'h', .help⟩

/-- The options in front of the command. -/
def frontRules : List OptionRule :=
  [⟨"data", some 'd', pathKind⟩, ⟨"strings", some 's', pathKind⟩, ⟨"verbose", some 'v', .flag⟩,
   helpRule]

/-- The operand that a command has to have. -/
def operand (name : String) (s : Scan) : Except Refusal String :=
  match s.operands with
  | [] => .error (.missingOperand name)
  | operand :: _ => .ok operand

/-- The number that an option gives. -/
def number (s : Scan) (option : String) (otherwise : Float) : Float :=
  ((s.value? option).bind Double.parse?).getD otherwise

/-- The state that an option gives. -/
def state (s : Scan) (option : String) (otherwise : State) : State :=
  ((s.value? option).bind stateOfName?).getD otherwise

/-- The names of the commands. -/
def commandNames : List String := ["list", "show", "find", "stable", "heat"]

/-- The command of a name, with what follows the name. Help is to be had on each command. -/
def Command.parse (name : String) (arguments : List String) :
    Except Refusal (Command Float) := do
  match name with
  | "list" =>
    let _ ← Scan.start.arguments [helpRule] 0 arguments
    return .list
  | "show" =>
    let s ← Scan.start.arguments [helpRule] 1 arguments
    return .show (← operand "name" s)
  | "find" =>
    let s ← Scan.start.arguments [⟨"regex", none, .flag⟩, helpRule] 1 arguments
    return .find (← operand "needle" s) (s.value? "regex").isSome
  | "stable" =>
    let s ← Scan.start.arguments
      [⟨"state", none, stateKind⟩, ⟨"from", none, numberKind false⟩,
       ⟨"to", none, numberKind false⟩, helpRule]
      0 arguments
    return .stable (state s "state" .liquid) (number s "from" 30.0) (number s "to" 90.0)
  | "heat" =>
    let s ← Scan.start.arguments
      [⟨"mass", some 'm', numberKind false⟩, ⟨"delta", some 't', numberKind true⟩, helpRule]
      1 arguments
    return .heat (← operand "name" s) (number s "mass" 1.0) (number s "delta" 1.0)
  | "help" =>
    match arguments with
    | [] => throw .helpWanted
    | [name] =>
      if name = "help" ∨ commandNames.contains name then throw .helpWanted
      else throw (.unknownCommand name)
    | _ :: name :: _ => throw (.unknownCommand name)
  | _ => throw (.unknownCommand name)

/-- The invocation that the arguments of a command line make. -/
def Invocation.parse (arguments : List String) : Except Refusal (Invocation Float) := do
  let front ← Scan.start.front frontRules arguments
  match front.operands with
  | [] => throw .missingCommand
  | name :: arguments =>
    let command ← Command.parse name arguments
    return ⟨front.value? "data", front.value? "strings", (front.value? "verbose").isSome, command⟩

end ElementAtlas.CommandLine
