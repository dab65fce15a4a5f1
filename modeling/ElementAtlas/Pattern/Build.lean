import ElementAtlas.Pattern.Basic

/-!
# Building patterns

Patterns are put together so that what they match is plain to see: sequences and alternatives are
flat, literals that follow each other are one, alternatives of single characters are one set, and
what alternatives begin with in common stands in front of them.
-/

namespace ElementAtlas.Pattern

/-- The least number of characters that a pattern matches, none if it matches nothing at all. -/
def minLength? : Pattern → Option Nat
  | empty => some 0
  | literal text => some text.length
  | set s => if s.ranges.isEmpty then none else some 1
  | assertion _ => some 0
  | seq p q => do return (← p.minLength?) + (← q.minLength?)
  | alt p q => do return min (← p.minLength?) (← q.minLength?)
  | repeated p atLeast _ => p.minLength?.map (· * atLeast)
  | group _ p => p.minLength?

/-- The greatest number of characters that a pattern matches, none if there is no bound or if it
matches nothing at all. -/
def maxLength? : Pattern → Option Nat
  | empty => some 0
  | literal text => some text.length
  | set s => if s.ranges.isEmpty then none else some 1
  | assertion _ => some 0
  | seq p q => do return (← p.maxLength?) + (← q.maxLength?)
  | alt p q => do return max (← p.maxLength?) (← q.maxLength?)
  | repeated p _ atMost => do return (← p.maxLength?) * (← atMost)
  | group _ p => p.maxLength?

/-- The parts of a sequence. -/
def parts : Pattern → List Pattern
  | empty => []
  | seq p q => p.parts ++ q.parts
  | p => [p]

/-- The alternatives of a pattern. -/
def alternatives : Pattern → List Pattern
  | alt p q => p.alternatives ++ q.alternatives
  | p => [p]

/-- Puts a part in front of others, a literal together with one that it meets. -/
def consPart : Pattern → List Pattern → List Pattern
  | literal text, literal text' :: parts => literal (text ++ text') :: parts
  | p, parts => p :: parts

/-- The sequence of some parts. -/
def ofParts : List Pattern → Pattern
  | [] => empty
  | [p] => p
  | p :: ps => seq p (ofParts ps)

/-- Some patterns one after another. -/
def sequence (ps : List Pattern) : Pattern :=
  ofParts ((ps.flatMap parts).foldr consPart [])

/-- The pattern of a set. One of a single character is a literal. -/
def ofSet (s : CharSet) : Pattern :=
  match s.single? with
  | some c => literal [c]
  | none => set s

/-- The character of a literal that has one only. -/
def char? : Pattern → Option Char
  | literal [c] => some c
  | _ => none

/-- The set of a pattern that is one. -/
def set? : Pattern → Option CharSet
  | set s => some s
  | _ => none

/-- What two lists of parts begin with in common. -/
def commonPrefix : List Pattern → List Pattern → List Pattern
  | p :: ps, q :: qs => if p = q then p :: commonPrefix ps qs else []
  | _, _ => []

/-- The alternatives, of which there are several. -/
def ofAlternatives : List Pattern → Pattern
  | [] => set .empty
  | [p] => p
  | p :: ps => alt p (ofAlternatives ps)

/-- Alternatives that are single characters, or that are sets, as one set. -/
def asSet? (ps : List Pattern) : Option CharSet :=
  match ps.mapM char?, ps.mapM set? with
  | some cs, _ => some (.ofRanges (cs.map fun c => (c.toNat, c.toNat)))
  | none, some ss => some (ss.foldl .union .empty)
  | none, none => none

/-- What all alternatives begin with in common, if all are sequences. -/
def sharedFront : List Pattern → List Pattern
  | [] => []
  | p :: ps =>
    if (p :: ps).all (1 < ·.parts.length) then
      ps.foldl (fun front q => commonPrefix front q.parts) p.parts
    else []

/-- How many patterns a pattern is made of. -/
def nodeCount : Pattern → Nat
  | seq p q | alt p q => p.nodeCount + q.nodeCount + 1
  | repeated p .. | group _ p => p.nodeCount + 1
  | _ => 1

/-- One of some patterns, none of which has alternatives itself. What they begin with in common is
taken out again and again, each time from less. -/
def oneOfFlat (fuel : Nat) (ps : List Pattern) : Pattern :=
  match fuel, ps with
  | _, [] => set .empty
  | _, [p] => p
  | 0, ps => ofAlternatives ps
  | fuel + 1, ps =>
    match asSet? ps with
    | some s => ofSet s
    | none =>
      match sharedFront ps with
      | [] => ofAlternatives ps
      | front =>
        let rests := ps.map fun p => ofParts (p.parts.drop front.length)
        sequence (front ++ [oneOfFlat fuel (rests.flatMap alternatives)])

/-- One of some patterns. -/
def oneOf : List Pattern → Pattern
  | [p] => p
  | ps => oneOfFlat (ps.foldl (fun n p => n + p.nodeCount) 0) (ps.flatMap alternatives)

/-- A pattern several times in a row. What matches no characters need not be repeated, and what is
asked for just once is itself. -/
def times (p : Pattern) (atLeast : Nat) (atMost : Option Nat) : Pattern :=
  let (atLeast, atMost) :=
    if p.maxLength? = some 0 then (min atLeast 1, some ((atMost.map (min · 1)).getD 1))
    else (atLeast, atMost)
  if atLeast = 0 ∧ atMost = some 0 then empty
  else if atLeast = 1 ∧ atMost = some 1 then p
  else repeated p atLeast atMost

end ElementAtlas.Pattern
