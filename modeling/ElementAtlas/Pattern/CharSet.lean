import ElementAtlas.Text.Blank
import ElementAtlas.Text.Case
import ElementAtlas.Text.Ranges
import ElementAtlas.Text.Word

/-!
# Sets of characters

What a pattern accepts in the place of one character. A set is kept as ascending ranges of code
points between which others are missing, so that equal sets have equal ranges.
-/

namespace ElementAtlas

/-- A set of characters, by the ranges of its code points. -/
structure CharSet where
  ranges : List (Nat × Nat)
deriving DecidableEq, Repr

namespace CharSet

/-- The greatest code point. -/
def maxCode : Nat := 0x10FFFF

def has (s : CharSet) (c : Char) : Bool := Text.inRanges c.toNat s.ranges

def empty : CharSet := ⟨[]⟩

/-- Every character. -/
def all : CharSet := ⟨[(0, maxCode)]⟩

/-- Joins a range and those of an ascending list that overlap or touch each other. -/
def joinRanges (range : Nat × Nat) : List (Nat × Nat) → List (Nat × Nat)
  | [] => [range]
  | next :: ranges =>
    if next.1 ≤ range.2 + 1 then joinRanges (range.1, max range.2 next.2) ranges
    else range :: joinRanges next ranges

/-- The characters of some ranges, in any order. -/
def ofRanges (ranges : List (Nat × Nat)) : CharSet :=
  match ranges.mergeSort fun r r' => (compare r.1 r'.1).isLE with
  | [] => empty
  | range :: ranges => ⟨joinRanges range ranges⟩

/-- The characters from one to another. -/
def range (first last : Char) : CharSet := ⟨[(first.toNat, last.toNat)]⟩

/-- The set of one character. -/
def singleton (c : Char) : CharSet := range c c

/-- The character of a set that has one only. -/
def single? (s : CharSet) : Option Char :=
  match s.ranges with
  | [(first, last)] => if first = last then some (Char.ofNat first) else none
  | _ => none

def union (s t : CharSet) : CharSet := ofRanges (s.ranges ++ t.ranges)

/-- The ranges from a code point on that ascending ranges leave out. -/
def gaps (start : Nat) : List (Nat × Nat) → List (Nat × Nat)
  | [] => if start ≤ maxCode then [(start, maxCode)] else []
  | (first, last) :: ranges =>
    if start < first then (start, first - 1) :: gaps (last + 1) ranges else gaps (last + 1) ranges

def complement (s : CharSet) : CharSet := ⟨gaps 0 s.ranges⟩

def intersection (s t : CharSet) : CharSet := (s.complement.union t.complement).complement

def difference (s t : CharSet) : CharSet := s.intersection t.complement

def symmetricDifference (s t : CharSet) : CharSet := (s.union t).difference (s.intersection t)

/-- Whether a set has only characters below 128. -/
def isAscii (s : CharSet) : Bool := s.ranges.all (·.2 < 128)

/-- A set with the characters that some pairs of code points join to it: what one of its characters
is paired with, and then all that is paired with those. -/
def closeUnder (pairs : List (Nat × Nat)) (s : CharSet) : CharSet :=
  let isIn (t : CharSet) (n : Nat) : Bool := Text.inRanges n t.ranges
  let folded := s.union (ofRanges ((pairs.filter (isIn s ·.1)).map fun (_, n) => (n, n)))
  folded.union (ofRanges ((pairs.filter (isIn folded ·.2)).map fun (n, _) => (n, n)))

/-- A set with all characters that differ from one of its own in case only. -/
def closeCase (s : CharSet) : CharSet := s.closeUnder Text.foldPairs

/-- A set with all ASCII letters that differ from one of its own in case only. -/
def closeAsciiCase (s : CharSet) : CharSet :=
  s.closeUnder ((List.range 26).map fun i => ('A'.toNat + i, 'a'.toNat + i))

def digits : CharSet := ⟨Text.decimalDigitRanges⟩

def wordChars : CharSet := ⟨Text.wordRanges⟩

def blanks : CharSet := ⟨Text.blankRanges⟩

/-- Every character but the line feed. -/
def withinLine : CharSet := (singleton '\n').complement

/-- Every character but the line feed and the carriage return. -/
def withinReturns : CharSet := ((singleton '\n').union (singleton '\r')).complement

/-- The characters of some ranges between characters. -/
def ofChars (ranges : List (Char × Char)) : CharSet :=
  ofRanges (ranges.map fun (first, last) => (first.toNat, last.toNat))

/-- The digits below 128. -/
def asciiDigits : CharSet := range '0' '9'

/-- The letters below 128. -/
def asciiLetters : CharSet := ofChars [('A', 'Z'), ('a', 'z')]

/-- The letters, the digits and the underscore below 128. -/
def asciiWordChars : CharSet := (asciiLetters.union asciiDigits).union (singleton '_')

/-- The blanks below 128. -/
def asciiBlanks : CharSet := ofChars [('\t', '\r'), (' ', ' ')]

/-- The classes of characters below 128 that have a name. -/
def named? : String → Option CharSet
  | "alnum" => asciiLetters.union asciiDigits
  | "alpha" => asciiLetters
  | "ascii" => range '\x00' '\x7f'
  | "blank" => ofChars [('\t', '\t'), (' ', ' ')]
  | "cntrl" => ofChars [('\x00', '\x1f'), ('\x7f', '\x7f')]
  | "digit" => asciiDigits
  | "graph" => range '!' '~'
  | "lower" => range 'a' 'z'
  | "print" => range ' ' '~'
  | "punct" => ofChars [('!', '/'), (':', '@'), ('[', '\x60'), ('\x7b', '~')]
  | "space" => asciiBlanks
  | "upper" => range 'A' 'Z'
  | "word" => asciiWordChars
  | "xdigit" => ofChars [('0', '9'), ('A', 'F'), ('a', 'f')]
  | _ => none

end CharSet

end ElementAtlas
