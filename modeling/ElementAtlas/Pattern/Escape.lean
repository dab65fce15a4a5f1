import ElementAtlas.Pattern.Options
import ElementAtlas.Text.Digit

/-!
# Escapes in patterns

A backslash gives the next character its other meaning: a letter becomes a character that is hard
to type, a class of characters or an assertion, and a character below 128 that is neither a letter
nor a digit becomes itself. No other character can be escaped.
-/

namespace ElementAtlas.Pattern

open Text

/-- What an escape stands for. -/
inductive Escape where
  | literal (c : Char)
  | set (s : CharSet)
  | assertion (a : Assertion)
deriving DecidableEq, Repr

namespace Escape

/-- What the letters that stand for single characters stand for. -/
def charOfLetter? : Char → Option Char
  | 'a' => some '\x07'
  | 'f' => some '\x0c'
  | 'n' => some '\n'
  | 'r' => some '\r'
  | 't' => some '\t'
  | 'v' => some '\x0b'
  | _ => none

/-- The classes that letters stand for; the capital of a letter stands for the complement. -/
def setOfLetter? (o : Options) : Char → Option (Option CharSet)
  | 'd' => some (some o.digits)
  | 'D' => some (o.complement? o.digits)
  | 's' => some (some o.blanks)
  | 'S' => some (o.complement? o.blanks)
  | 'w' => some (some o.wordChars)
  | 'W' => some (o.complement? o.wordChars)
  | _ => none

/-- What letters and angle brackets ask of the place where they stand. -/
def assertionOfLetter? (o : Options) : Char → Option Assertion
  | 'A' => some .textBegin
  | 'z' => some .textEnd
  | 'b' => some (.word (!o.unicode) .boundary)
  | 'B' => some (.word (!o.unicode) .noBoundary)
  | '<' => some (.word (!o.unicode) .wordBegin)
  | '>' => some (.word (!o.unicode) .wordEnd)
  | _ => none

/-- How many digits a code has that is not in braces, by the letter before it. -/
def codeLength? : Char → Option Nat
  | 'x' => some 2
  | 'u' => some 4
  | 'U' => some 8
  | _ => none

/-- Reads so many hexadecimal digits. -/
def codeDigits? (o : Options) : Nat → (s : List Char) → Option (List Char × Remainder s)
  | 0, s => some ([], .all s)
  | _ + 1, [] => none
  | n + 1, c :: t => do
    let _ ← digit? 16 c
    let (digits, r) ← codeDigits? o n (o.skip t).1
    return (c :: digits, (((o.skip t).trans r).cons c).weaken)

/-- Reads hexadecimal digits up to a closing brace. -/
def bracedDigits? (o : Options) (s : List Char) : Option (List Char × Rest s) :=
  match s with
  | [] => none
  | c :: t =>
    if c = '\x7d' then some ([], o.skipAfter (.tail c t))
    else do
      let _ ← digit? 16 c
      have := (o.skip t).2
      let (digits, r) ← bracedDigits? o (o.skip t).1
      return (c :: digits, ((o.skip t).rest r).cons c)
termination_by s.length
decreasing_by simp only [List.length_cons]; omega

/-- The character of a hexadecimal code, at least one digit long. -/
def charOfDigits? (digits : List Char) : Option Char := number? 16 digits >>= charOfCode?

/-- Reads a hexadecimal code: in braces, or with as many digits as its letter asks for. Where only
ASCII is known, the two digits after an `x` are those of a byte, which is no character from 128
on. -/
def code? (o : Options) (letter : Char) (length : Nat) (s : List Char) :
    Option (Char × Remainder s) := do
  let r := o.skip s
  match after? '\x7b' r.1 with
  | some r' =>
    let (digits, r'') ← bracedDigits? o (o.skip r'.1).1
    return (← charOfDigits? digits, r.trans ((r'.remainder (o.skip r'.1)).trans r'').weaken)
  | none =>
    let (digits, r') ← codeDigits? o length r.1
    let c ← charOfDigits? digits
    if letter = 'x' ∧ !o.unicode ∧ c.toNat ≥ 128 then none else return (c, r.trans r')

/-- The word assertions that have a name. -/
def namedPlace? : String → Option WordPlace
  | "start" => some .wordBegin
  | "end" => some .wordEnd
  | "start-half" => some .noWordBefore
  | "end-half" => some .noWordAfter
  | _ => none

/-- Whether a character can stand in the name of an assertion. -/
def isPlaceChar (c : Char) : Bool := c.isAlpha || c = '-'

/-- Reads the name of an assertion up to the closing brace. -/
def placeName? (o : Options) (s : List Char) : Option (List Char × Rest s) :=
  match s with
  | [] => none
  | c :: t =>
    if c = '\x7d' then some ([], .tail c t)
    else if isPlaceChar c then do
      have := (o.skip t).2
      let (name, r) ← placeName? o (o.skip t).1
      return (c :: name, ((o.skip t).rest r).cons c)
    else none
termination_by s.length
decreasing_by simp only [List.length_cons]; omega

/-- Reads what follows the `b` of an assertion. A brace with a letter or a hyphen after it begins a
name, and any other is left as it stands. -/
def boundary? (o : Options) (s : List Char) : Option (WordPlace × Remainder s) :=
  match after? '\x7b' s with
  | none => some (.boundary, .all s)
  | some r =>
    let r := o.skipAfter r
    match r.1 with
    | [] => none
    | c :: _ =>
      if isPlaceChar c then do
        let (name, r') ← placeName? o r.1
        return (← namedPlace? (String.ofList name), (r.trans r').weaken)
      else some (.boundary, .all s)

/-- Reads what follows a backslash. -/
def read? (o : Options) : (s : List Char) → Option (Escape × Rest s)
  | [] => none
  | c :: t =>
    match codeLength? c with
    | some length => (code? o c length t).map fun (d, r) => (.literal d, r.cons c)
    | none =>
      if c = 'b' then
        (boundary? o t).map fun (place, r) => (.assertion (.word (!o.unicode) place), r.cons c)
      else
        match charOfLetter? c, setOfLetter? o c, assertionOfLetter? o c with
        | some d, _, _ => some (.literal d, .tail c t)
        | none, some s, _ => s.map fun s => (.set s, .tail c t)
        | none, none, some a => some (.assertion a, .tail c t)
        | none, none, none =>
          if c.toNat < 128 ∧ !c.isAlphanum then some (.literal c, .tail c t) else none

end Escape

end ElementAtlas.Pattern
