/-!
# Options on a command line

An option has a long name and may have a short one of one character, and it is a flag or takes a
value. A value follows as the next argument or is attached: to a long name after an equals sign, to
a short one with or without it. Short flags may share one hyphen. The argument `--` ends the
options, a single hyphen is an operand, and an argument that begins with a hyphen is never the value
of the option before it, but that some options take a negative number.

Arguments are taken in from left to right, and the first that is amiss decides: only what stands
before a wish for help can be in its way.
-/

namespace ElementAtlas.CommandLine

/-- What an option takes. -/
inductive OptionKind where
  | flag
  | value (allowsNegative : Bool) (isValue : String → Bool)
  /-- A flag that asks for the usage, whatever else is on the command line after it. -/
  | help

/-- An option that is known. -/
structure OptionRule where
  long : String
  short : Option Char
  kind : OptionKind

/-- Why no command is carried out. -/
inductive Refusal where
  | helpWanted
  | unknownOption (argument : String)
  | missingValue (option : String)
  | unexpectedValue (option : String)
  | repeatedOption (option : String)
  | badValue (option value : String)
  | missingCommand
  | unknownCommand (name : String)
  | missingOperand (name : String)
  | unexpectedOperand (operand : String)
deriving DecidableEq, Repr

/-- What is said about arguments that are refused. -/
def Refusal.message : Refusal → String
  | .helpWanted => "usage"
  | .unknownOption argument => s!"unexpected argument '{argument}'"
  | .missingValue option => s!"a value is required for '--{option}'"
  | .unexpectedValue option => s!"'--{option}' takes no value"
  | .repeatedOption option => s!"'--{option}' is given more than once"
  | .badValue option value => s!"invalid value '{value}' for '--{option}'"
  | .missingCommand => "a command is required"
  | .unknownCommand name => s!"unrecognized command '{name}'"
  | .missingOperand name => s!"the argument '{name}' is required"
  | .unexpectedOperand operand => s!"unexpected argument '{operand}'"

/-- What an argument says about options, bit by bit. After `awaiting`, the value follows. -/
inductive Mark where
  | given (rule : OptionRule) (value : String)
  | awaiting (rule : OptionRule)
  | refused (cause : Refusal)

/-- What an argument is. -/
inductive Argument where
  | operand
  | separator
  | options (marks : List Mark)

/-- Reads the short options after a hyphen. -/
def readShort (rules : List OptionRule) : List Char → List Mark
  | [] => []
  | c :: cs =>
    match rules.find? (·.short = some c) with
    | none => [.refused (.unknownOption (String.ofList ['-', c]))]
    | some rule =>
      match rule.kind with
      | .help => [.refused .helpWanted]
      | .flag => .given rule "" :: readShort rules cs
      | .value .. =>
        match cs with
        | [] => [.awaiting rule]
        | '=' :: value => [.given rule (String.ofList value)]
        | value => [.given rule (String.ofList value)]

/-- Reads what follows two hyphens. -/
def readLong (rules : List OptionRule) (s : List Char) : Mark :=
  let name := String.ofList (s.takeWhile (· ≠ '='))
  let attached := match s.dropWhile (· ≠ '=') with
    | [] => none
    | _ :: value => some (String.ofList value)
  match rules.find? (·.long = name) with
  | none => .refused (.unknownOption (String.ofList ('-' :: '-' :: s)))
  | some rule =>
    match rule.kind, attached with
    | .help, none => .refused .helpWanted
    | .flag, none => .given rule ""
    | .help, some _ | .flag, some _ => .refused (.unexpectedValue name)
    | .value .., some value => .given rule value
    | .value .., none => .awaiting rule

/-- Reads one argument. -/
def readArgument (rules : List OptionRule) (argument : String) : Argument :=
  match argument.toList with
  | ['-', '-'] => .separator
  | '-' :: '-' :: s => .options [readLong rules s]
  | ['-'] => .operand
  | '-' :: s => .options (readShort rules s)
  | _ => .operand

/-- Whether the text after a hyphen makes a negative number of it: digits, at most one point that is
not in front, and at most one `e`, after the point and between digits or points. -/
def isMagnitude (s : List Char) : Bool :=
  let mantissa := s.takeWhile (· ≠ 'e')
  let whole := mantissa.takeWhile (· ≠ '.')
  let fraction := (mantissa.dropWhile (· ≠ '.')).drop 1
  let digitsOnly := (whole ++ fraction).all Char.isDigit && !mantissa.head?.any (· = '.')
  match s.dropWhile (· ≠ 'e') with
  | [] => digitsOnly
  | _ :: exponent =>
    digitsOnly && !mantissa.isEmpty && !exponent.isEmpty && exponent.all Char.isDigit

/-- Whether an argument can be the value of the option before it. -/
def OptionRule.takes (rule : OptionRule) (argument : String) : Bool :=
  match argument.toList with
  | '-' :: c :: s =>
    match rule.kind with
    | .value allowsNegative _ => allowsNegative && isMagnitude (c :: s)
    | .flag | .help => false
  | _ => true

/-- An option as it is given, by its long name. A flag has the empty value. -/
structure Given where
  option : String
  value : String
deriving DecidableEq, Repr

/-- The options of a command line so far, and its operands. -/
structure Scan where
  given : List Given
  operands : List String
deriving DecidableEq, Repr

namespace Scan

/-- The value of an option. -/
def value? (s : Scan) (option : String) : Option String :=
  (s.given.find? (·.option = option)).map (·.value)

/-- Takes in an option, which must be new and have a value of its kind. -/
def give (s : Scan) (rule : OptionRule) (value : String) : Except Refusal Scan :=
  if (s.value? rule.long).isSome then throw (.repeatedOption rule.long)
  else
    match rule.kind with
    | .value _ isValue =>
      if isValue value then return { s with given := s.given ++ [⟨rule.long, value⟩] }
      else throw (.badValue rule.long value)
    | .flag | .help => return { s with given := s.given ++ [⟨rule.long, value⟩] }

/-- Takes in what an argument says about options, and returns the option whose value follows. -/
def mark (s : Scan) : List Mark → Except Refusal (Scan × Option OptionRule)
  | [] => return (s, none)
  | .given rule value :: marks => do (← s.give rule value).mark marks
  | .awaiting rule :: _ => return (s, some rule)
  | .refused cause :: _ => throw cause

/-- Takes in operands, of which there may be so many. -/
def addOperands (s : Scan) (most : Nat) (operands : List String) : Except Refusal Scan :=
  let all := s.operands ++ operands
  match all.drop most with
  | [] => return { s with operands := all }
  | operand :: _ => throw (.unexpectedOperand operand)

/-- Takes in arguments, with so many operands among the options. -/
def arguments (rules : List OptionRule) (most : Nat) (s : Scan) :
    List String → Except Refusal Scan
  | [] => return s
  | argument :: rest => do
    match readArgument rules argument with
    | .operand => (← s.addOperands most [argument]).arguments rules most rest
    | .separator => s.addOperands most rest
    | .options marks =>
      match ← s.mark marks, rest with
      | (s, none), rest => s.arguments rules most rest
      | (_, some rule), [] => throw (.missingValue rule.long)
      | (s, some rule), value :: rest =>
        if rule.takes value then (← s.give rule value).arguments rules most rest
        else throw (.missingValue rule.long)

/-- Takes in the arguments before the first operand, or before the end of the options, and leaves
all that follows as operands. -/
def front (rules : List OptionRule) (s : Scan) : List String → Except Refusal Scan
  | [] => return s
  | argument :: rest => do
    match readArgument rules argument with
    | .operand | .separator => return { s with operands := argument :: rest }
    | .options marks =>
      match ← s.mark marks, rest with
      | (s, none), rest => s.front rules rest
      | (_, some rule), [] => throw (.missingValue rule.long)
      | (s, some rule), value :: rest =>
        if rule.takes value then (← s.give rule value).front rules rest
        else throw (.missingValue rule.long)

end Scan

/-- Nothing has been given. -/
def Scan.start : Scan := ⟨[], []⟩

end ElementAtlas.CommandLine
