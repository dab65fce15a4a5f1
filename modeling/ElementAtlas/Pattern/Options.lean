import ElementAtlas.Pattern.Basic
import ElementAtlas.Text.Rest

/-!
# Options of patterns

Flags in the text of a pattern switch its options on and off. They bear on what its parts match, and
one of them lets blanks and comments stand between the parts.
-/

namespace ElementAtlas.Pattern

open Text

/-- What can be switched in the course of a pattern. -/
inductive Flag where
  | ignoreCase
  | multiLine
  | dotMatchesAll
  | swapPreference
  | unicode
  | carriageReturns
  | spaced
deriving DecidableEq, Repr

/-- The flag that a letter stands for. -/
def Flag.ofLetter? : Char → Option Flag
  | 'i' => some .ignoreCase
  | 'm' => some .multiLine
  | 's' => some .dotMatchesAll
  | 'U' => some .swapPreference
  | 'u' => some .unicode
  | 'R' => some .carriageReturns
  | 'x' => some .spaced
  | _ => none

/-- A flag and whether it is switched on. -/
abbrev Setting := Flag × Bool

/-- The settings that some letters stand for: those after a hyphen are switched off. There is at
most one hyphen, with a letter after it, and no flag occurs twice. -/
def Setting.readAll? (letters : List Char) : Option (List Setting) := do
  let on ← (letters.takeWhile (· ≠ '-')).mapM Flag.ofLetter?
  let off ← ((letters.dropWhile (· ≠ '-')).drop 1).mapM Flag.ofLetter?
  if (on ++ off).eraseDups ≠ on ++ off ∨ (off.isEmpty ∧ letters.contains '-') then none
  else return on.map (·, true) ++ off.map (·, false)

/-- The options at a place in a pattern. Which of several matches is preferred is nothing to whether
there is one, so that preference is no option. -/
structure Options where
  ignoreCase : Bool
  multiLine : Bool
  dotMatchesAll : Bool
  unicode : Bool
  carriageReturns : Bool
  spaced : Bool
deriving DecidableEq, Repr

namespace Options

/-- What holds at the beginning: all characters are known, and nothing else is switched on. -/
def standard : Options := ⟨false, false, false, true, false, false⟩

/-- The options with one of them switched on or off. -/
def set (o : Options) : Setting → Options
  | (.ignoreCase, on) => { o with ignoreCase := on }
  | (.multiLine, on) => { o with multiLine := on }
  | (.dotMatchesAll, on) => { o with dotMatchesAll := on }
  | (.swapPreference, _) => o
  | (.unicode, on) => { o with unicode := on }
  | (.carriageReturns, on) => { o with carriageReturns := on }
  | (.spaced, on) => { o with spaced := on }

/-- The complement of a set. Where only ASCII is known there is none, since it would not be a set of
whole characters. -/
def complement? (o : Options) (s : CharSet) : Option CharSet :=
  if o.unicode then some s.complement else none

/-- A set with all that differs from its characters in case only, where case is ignored. -/
def closeCase (o : Options) (s : CharSet) : CharSet :=
  if !o.ignoreCase then s else if o.unicode then s.closeCase else s.closeAsciiCase

def digits (o : Options) : CharSet := if o.unicode then .digits else .asciiDigits

def wordChars (o : Options) : CharSet := if o.unicode then .wordChars else .asciiWordChars

def blanks (o : Options) : CharSet := if o.unicode then .blanks else .asciiBlanks

/-- The characters that a dot stands for. -/
def dot? (o : Options) : Option CharSet :=
  if !o.unicode then none
  else if o.dotMatchesAll then some .all
  else if o.carriageReturns then some .withinReturns
  else some .withinLine

/-- What the sign for the beginning asserts. -/
def caret (o : Options) : Assertion :=
  if o.multiLine then .lineBegin o.carriageReturns else .textBegin

/-- What the sign for the end asserts. -/
def dollar (o : Options) : Assertion :=
  if o.multiLine then .lineEnd o.carriageReturns else .textEnd

/-- The pattern of a single character. -/
def literal (o : Options) (c : Char) : Pattern :=
  let s := o.closeCase (.singleton c)
  if s = .singleton c then .literal [c] else .set s

end Options

/-- What follows the blanks and comments at the front of a text, or from inside a comment. A comment
goes from a number sign to the end of the line. -/
def afterSpace (inComment : Bool) : (s : List Char) → Remainder s
  | [] => .all []
  | c :: t =>
    if inComment then ((afterSpace (c ≠ '\n') t).cons c).weaken
    else if c = '#' then ((afterSpace true t).cons c).weaken
    else if isBlank c then ((afterSpace false t).cons c).weaken
    else .all (c :: t)

/-- What follows the blanks and comments at the front of a text, where they may stand. -/
def Options.skip (o : Options) (s : List Char) : Remainder s :=
  if o.spaced then afterSpace false s else .all s

/-- What is left after a part of a text, and after the blanks and comments behind it. -/
def Options.skipAfter (o : Options) {s : List Char} (r : Rest s) : Rest s :=
  r.remainder (o.skip r.1)

end ElementAtlas.Pattern
