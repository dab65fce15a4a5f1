import ElementAtlas.Pattern.CharSet

/-!
# Patterns

A pattern is a regular expression with assertions: it matches stretches of a text, and its
assertions look at the characters next to where they stand. A pattern is found in a text if it
matches some stretch of it, which may be empty.
-/

namespace ElementAtlas

/-- What an assertion asks of the words around the place where it stands. -/
inductive WordPlace where
  | boundary
  | noBoundary
  | wordBegin
  | wordEnd
  /-- No word character stands before. -/
  | noWordBefore
  /-- No word character stands after. -/
  | noWordAfter
deriving DecidableEq, Repr

/-- Whether a place is such, by whether word characters stand before and after it. -/
def WordPlace.holds (before after : Bool) : WordPlace → Bool
  | boundary => before != after
  | noBoundary => before == after
  | wordBegin => !before && after
  | wordEnd => before && !after
  | noWordBefore => !before
  | noWordAfter => !after

/-- What an assertion asks of the place where it stands. Lines end at line feeds or, for those with
`returns`, at carriage returns and pairs of the two as well. -/
inductive Assertion where
  | textBegin
  | textEnd
  | lineBegin (returns : Bool)
  | lineEnd (returns : Bool)
  | word (asciiOnly : Bool) (place : WordPlace)
deriving DecidableEq, Repr

/-- Whether an assertion holds between two characters, of which the first or the second is absent
at an end of the text. -/
def Assertion.holds (before after : Option Char) : Assertion → Bool
  | textBegin => before.isNone
  | textEnd => after.isNone
  | lineBegin false => before.all (· = '\n')
  | lineBegin true => before.all (· = '\n') || (before = some '\r' && after ≠ some '\n')
  | lineEnd false => after.all (· = '\n')
  | lineEnd true => after.all (· = '\r') || (after = some '\n' && before ≠ some '\r')
  | word asciiOnly place =>
    let chars := if asciiOnly then CharSet.asciiWordChars else .wordChars
    place.holds (before.any chars.has) (after.any chars.has)

/-- A regular expression with assertions. -/
inductive Pattern where
  | empty
  | literal (text : List Char)
  | set (s : CharSet)
  | assertion (a : Assertion)
  | seq (p q : Pattern)
  | alt (p q : Pattern)
  /-- Between `atLeast` and `atMost` times in a row, or any number of times from `atLeast` on. -/
  | repeated (p : Pattern) (atLeast : Nat) (atMost : Option Nat)
  /-- The pattern of a group, whose number tells it from the others. -/
  | group (number : Nat) (p : Pattern)
deriving DecidableEq, Repr

end ElementAtlas
