import ElementAtlas.Pattern.Automaton
import ElementAtlas.Pattern.Token

/-!
# Reading patterns

A pattern is read from its tokens with the groups that are open. What the options are is settled
where a token stands: a switch lasts to the end of the group that it is in, also across its bars,
and one that belongs to a group to the end of that group. Patterns that are nested too deep are not
well formed; a level is a group, a repetition, a bracket expression, a list of several parts or a
list of several alternatives.
-/

namespace ElementAtlas.Pattern

/-- A part of a pattern, the depth to which its text is nested, and whether it can be repeated. -/
structure Part where
  pattern : Pattern
  depth : Nat
  isRepeatable : Bool

/-- The depth of a list of parts or alternatives, which is a level of its own if there are several.
-/
def depthOfAll (depths : List Nat) : Nat :=
  let deepest := depths.foldl max 0
  if 1 < depths.length then deepest + 1 else deepest

/-- A group that has not been closed: its number if it has one, the options where it is read, and
the alternatives that have ended and the parts of the one that is being read, both latest first. -/
structure Group where
  number : Option Nat
  options : Options
  alternatives : List Part
  parts : List Part

namespace Group

/-- A group at its front. -/
def start (number : Option Nat) (options : Options) : Group := ⟨number, options, [], []⟩

/-- One more part of the group. -/
def add (g : Group) (p : Part) : Group := { g with parts := p :: g.parts }

/-- The alternative that is being read. -/
def alternative (g : Group) : Part :=
  { pattern := sequence (g.parts.reverse.map (·.pattern))
    depth := depthOfAll (g.parts.map (·.depth))
    isRepeatable := true }

/-- What is inside the group. -/
def inside (g : Group) : Part :=
  let alternatives := g.alternatives.reverse ++ [g.alternative]
  { pattern := oneOf (alternatives.map (·.pattern))
    depth := depthOfAll (alternatives.map (·.depth))
    isRepeatable := true }

/-- The group as a part of what is around it. -/
def part (g : Group) : Part :=
  let p := g.inside
  { pattern := match g.number with
      | some n => .group n p.pattern
      | none => p.pattern
    depth := p.depth + 1
    isRepeatable := true }

end Group

/-- The innermost open group, those around it from the inside out, how many numbers have been given,
and the names given so far. -/
structure Reading where
  group : Group
  around : List Group
  numbered : Nat
  names : List String

namespace Reading

/-- What has been read before the first character. -/
def start : Reading := ⟨.start none .standard, [], 0, []⟩

/-- Takes in one token. -/
def take? (r : Reading) : Token → Option Reading
  | .part p depth => some { r with group := r.group.add ⟨p, depth, true⟩ }
  | .repeated atLeast atMost =>
    match r.group.parts with
    | p :: parts =>
      if p.isRepeatable then
        let repeated := ⟨p.pattern.times atLeast atMost, p.depth + 1, true⟩
        some { r with group := { r.group with parts := repeated :: parts } }
      else none
    | [] => none
  | .bar =>
    let g := r.group
    some { r with
      group := { g with alternatives := g.alternative :: g.alternatives, parts := [] } }
  | .opening isNumbered name settings =>
    if name.any r.names.contains then none
    else
      let numbered := if isNumbered then r.numbered + 1 else r.numbered
      some
        { group := .start (if isNumbered then some numbered else none)
            (settings.foldl Options.set r.group.options)
          around := r.group :: r.around
          numbered
          names := name.toList ++ r.names }
  | .settings settings =>
    let g := r.group
    some { r with
      group := { g.add ⟨.empty, 0, false⟩ with options := settings.foldl Options.set g.options } }
  | .closing =>
    match r.around with
    | [] => none
    | g :: around => some { r with group := g.add r.group.part, around }

/-- The greatest depth to which a pattern may be nested. -/
def maxDepth : Nat := 250

/-- The pattern that has been read, if no group is open and none is too deep. -/
def pattern? (r : Reading) : Option Pattern :=
  let p := r.group.inside
  if r.around.isEmpty ∧ p.depth ≤ maxDepth then some p.pattern else none

/-- Reads a text to its end. -/
def readAll? (r : Reading) (s : List Char) : Option Reading :=
  let t := r.group.options.skip s
  if t.1.isEmpty then some r
  else
    match Token.read? r.group.options t.1 with
    | none => none
    | some (token, rest) =>
      have := (t.rest rest).2
      match r.take? token with
      | none => none
      | some r => r.readAll? rest.1
termination_by s.length

end Reading

/-- The pattern of a text, none if the text is not well formed. -/
def ofText? (text : String) : Option Pattern := do
  (← Reading.start.readAll? text.toList).pattern?

end ElementAtlas.Pattern

namespace ElementAtlas

/-- Why a text is refused as a pattern. -/
inductive PatternError where
  | malformed
  | tooLarge
deriving DecidableEq, Repr

/-- What is said about a pattern that is refused. -/
def PatternError.message : PatternError → String
  | .malformed => "the pattern is not well formed"
  | .tooLarge => s!"Compiled regex exceeds size limit of {Automaton.limit} bytes."

/-- Reads the text of a pattern. -/
def Pattern.parse (text : String) : Except PatternError Pattern :=
  match Pattern.ofText? text with
  | none => .error .malformed
  | some p => if p.fits then .ok p else .error .tooLarge

end ElementAtlas
