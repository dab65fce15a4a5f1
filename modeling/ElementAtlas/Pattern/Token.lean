import ElementAtlas.Pattern.Bracket
import ElementAtlas.Pattern.Build
import ElementAtlas.Text.Letter
import ElementAtlas.Text.Numeric

/-!
# The tokens of a pattern

The text of a pattern falls into tokens: what matches a single character or none, marks of
repetition, bars, and the parentheses with what stands next to them. A bracket expression is one
token. A question mark after a mark of repetition says which of several matches is preferred, which
is nothing to whether there is one, and is read with the mark.
-/

namespace ElementAtlas.Pattern

open Text

/-- A token of a pattern. -/
inductive Token where
  /-- A part with the depth to which its text is nested. -/
  | part (p : Pattern) (depth : Nat)
  | repeated (atLeast : Nat) (atMost : Option Nat)
  | bar
  /-- The begin of a group: a numbered one, with a name or not, or one that is only a bracket. -/
  | opening (isNumbered : Bool) (name : Option String) (settings : List Setting)
  | settings (settings : List Setting)
  | closing

namespace Token

/-- What an escape stands for. -/
def ofEscape (o : Options) : Escape → Token
  | .literal c => .part (o.literal c) 0
  | .set s => .part (ofSet s) 0
  | .assertion a => .part (.assertion a) 0

/-- What follows a mark of repetition: nothing, or a question mark that is passed over. -/
def dropPreference (s : List Char) : Remainder s :=
  match after? '?' s with
  | some r => r.weaken
  | none => .all s

/-- Reads a mark of repetition that is one character long. -/
def mark (atLeast : Nat) (atMost : Option Nat) {c : Char} (t : List Char) : Token × Rest (c :: t) :=
  (.repeated atLeast atMost, (dropPreference t).cons c)

/-- The greatest number of repetitions that can be asked for. -/
def maxCount : Nat := Nat.pow 2 32 - 1

/-- Reads decimal digits. -/
def decimalDigits (o : Options) (s : List Char) : List Char × Remainder s :=
  match s with
  | [] => ([], .all [])
  | c :: t =>
    if c.isDigit then
      have := (o.skip t).2
      let (digits, r) := decimalDigits o (o.skip t).1
      (c :: digits, (((o.skip t).trans r).cons c).weaken)
    else ([], .all (c :: t))
termination_by s.length
decreasing_by simp only [List.length_cons]; omega

/-- Reads a count of repetitions, with the blanks around it. -/
def count? (o : Options) (s : List Char) : Option (Nat × Remainder s) := do
  let r := (spanWhile isBlank s).2
  let (digits, r') := decimalDigits o r.1
  let r'' := (spanWhile isBlank r'.1).2
  let n ← number? 10 digits
  if n ≤ maxCount then return (n, r.trans (r'.trans (r''.trans (o.skip r''.1)))) else none

/-- Reads the brace that closes the bounds of a repetition. -/
def closeBounds? (o : Options) (atLeast : Nat) (atMost : Option Nat) (s : List Char) :
    Option (Token × Rest s) := do
  let r ← after? '\x7d' s
  let r := o.skipAfter r
  return (.repeated atLeast atMost, r.remainder (dropPreference r.1))

/-- Reads the bounds of a repetition after the opening brace: one number for exactly so many times,
and with a comma the least number and, unless the brace closes right after it, the greatest. -/
def bounds? (o : Options) (s : List Char) : Option (Token × Rest s) := do
  let r := o.skip s
  let (atLeast, r') ← count? o r.1
  let r := r.trans r'
  match after? ',' r.1 with
  | none =>
    let (token, r') ← closeBounds? o atLeast (some atLeast) r.1
    return (token, r.rest r')
  | some r' =>
    let r' := o.skipAfter r'
    match closeBounds? o atLeast none r'.1 with
    | some (token, r'') => return (token, r.rest (r'.trans r''))
    | none =>
      let (atMost, r'') ← count? o r'.1
      if atLeast ≤ atMost then
        let (token, r''') ← closeBounds? o atLeast (some atMost) r''.1
        return (token, r.rest ((r'.remainder r'').trans r'''))
      else none

/-- Whether a character can stand in the name of a group, at its front or after it. -/
def isNameChar (isFirst : Bool) (c : Char) : Bool :=
  c = '_' || isLetter c || (!isFirst && (isNumeric c || c = '.' || c = '[' || c = ']'))

/-- The name of a group, if it is one. -/
def groupName? : List Char → Option String
  | [] => none
  | c :: cs =>
    if isNameChar true c ∧ cs.all (isNameChar false) then some (String.ofList (c :: cs)) else none

/-- Reads the name of a group up to the closing angle bracket. -/
def name? (s : List Char) : Option (Token × Rest s) := do
  let (name, r) ← upTo? '>' s
  return (.opening true (some (← groupName? name)) [], r)

/-- Reads settings up to a colon, where a group begins, or a closing parenthesis. -/
def flags? (s : List Char) : Option (Token × Rest s) := do
  let (letters, r) := spanWhile (fun c => c ≠ ':' && c ≠ ')') s
  let (c, r') ← first? r.1
  let settings ← Setting.readAll? letters
  if c = ':' then return (.opening false none settings, r.rest r')
  else if settings.isEmpty then none
  else return (.settings settings, r.rest r')

/-- Reads what follows an opening parenthesis. Assertions on what stands before or behind, whose
signs are `=` and `!`, are not among the flags and so are refused. -/
def group? (s : List Char) : Option (Token × Remainder s) :=
  match s with
  | '?' :: 'P' :: '<' :: t => (name? t).map fun (token, r) =>
    (token, (((r.cons _).cons _).cons _).weaken)
  | '?' :: '<' :: t => (name? t).map fun (token, r) => (token, ((r.cons _).cons _).weaken)
  | '?' :: t => (flags? t).map fun (token, r) => (token, (r.cons _).weaken)
  | s => some (.opening true none [], .all s)

/-- Reads a token. -/
def read? (o : Options) (s : List Char) : Option (Token × Rest s) :=
  match s with
  | [] => none
  | '(' :: t => (group? (o.skip t).1).map fun (token, r) => (token, ((o.skip t).trans r).cons '(')
  | ')' :: t => some (.closing, .tail ')' t)
  | '|' :: t => some (.bar, .tail '|' t)
  | '[' :: t => (Bracket.read? o t).map fun (item, r) =>
    (.part (ofSet item.set) item.depth, r.cons '[')
  | '?' :: t => some (mark 0 (some 1) t)
  | '*' :: t => some (mark 0 none t)
  | '+' :: t => some (mark 1 none t)
  | '\x7b' :: t => (bounds? o t).map fun (token, r) => (token, r.cons _)
  | '\\' :: t => (Escape.read? o t).map fun (e, r) => (ofEscape o e, r.cons '\\')
  | '.' :: t => o.dot?.map fun s => (.part (.set s) 0, .tail '.' t)
  | '^' :: t => some (.part (.assertion o.caret) 0, .tail '^' t)
  | '$' :: t => some (.part (.assertion o.dollar) 0, .tail '$' t)
  | c :: t => some (.part (o.literal c) 0, .tail c t)

end Token

end ElementAtlas.Pattern
