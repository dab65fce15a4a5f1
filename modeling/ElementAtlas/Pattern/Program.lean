import ElementAtlas.Pattern.Basic

/-!
# Searching with patterns

A pattern is written as a program of numbered steps, each of which reads a character, goes on in two
ways or checks an assertion before it goes on. To find the pattern in a text, the text is read once
from left to right with all steps that are open between two characters: those that can be come to
from the begin of the program, there or earlier, with what has been read. The pattern is found as
soon as the last step is among them.
-/

namespace ElementAtlas

/-- A step of a program. All but the last lead to further steps. -/
inductive PatternStep where
  | readChar (c : Char) (next : Nat)
  | readSet (s : CharSet) (next : Nat)
  | fork (next other : Nat)
  | check (a : Assertion) (next : Nat)
  | accept
deriving DecidableEq, Repr

/-- The step after one that reads a character, if it reads this one. -/
def PatternStep.read? (c : Char) : PatternStep → Option Nat
  | readChar d next => if c = d then some next else none
  | readSet s next => if s.has c then some next else none
  | fork .. | check .. | accept => none

/-- A program and the number of its first step. -/
structure Program where
  steps : Array PatternStep
  start : Nat
deriving DecidableEq, Repr

namespace Program

/-- The writing of a program. -/
abbrev Writer := StateM (Array PatternStep)

/-- Writes a step and returns its number. -/
def emit (step : PatternStep) : Writer Nat := fun steps => (steps.size, steps.push step)

/-- Writes another step in the place of one that has been written. -/
def replaceStep (n : Nat) (step : PatternStep) : Writer Unit := fun steps =>
  ((), steps.setIfInBounds n step)

/-- Writes the same several times, each in front of the one before. -/
def writeTimes (write : Nat → Writer Nat) : Nat → Nat → Writer Nat
  | 0, next => fun steps => (next, steps)
  | k + 1, next => fun steps =>
    let (start, steps) := write next steps
    writeTimes write k start steps

end Program

namespace Pattern

open Program

/-- Writes the steps of a pattern, which lead to the step `next`, and returns the first of them. -/
def write : Pattern → Nat → Writer Nat
  | empty, next => return next
  | literal text, next => text.foldrM (fun c next => emit (.readChar c next)) next
  | set s, next => emit (.readSet s next)
  | assertion a, next => emit (.check a next)
  | seq p q, next => do p.write (← q.write next)
  | alt p q, next => do
    let start ← p.write next
    let other ← q.write next
    emit (.fork start other)
  | repeated p atLeast none, next => do
    let loop ← emit .accept
    let start ← p.write loop
    replaceStep loop (.fork start next)
    match atLeast with
    | 0 => return loop
    | more + 1 => writeTimes p.write more start
  | repeated p atLeast (some atMost), next => do
    let optional (next' : Nat) : Writer Nat := do emit (.fork (← p.write next') next)
    writeTimes p.write atLeast (← writeTimes optional (atMost - atLeast) next)
  | group _ p, next => p.write next

/-- The program of a pattern. -/
def program (p : Pattern) : Program :=
  let (start, steps) := p.write 0 #[.accept]
  ⟨steps, start⟩

end Pattern

namespace Program

/-- The steps that have been come to at a place, by the number of the place at each of them, those
that read among them, and whether the last step is. -/
structure Reached where
  seen : Array Nat
  reading : List PatternStep
  accepts : Bool

/-- Comes to the steps of a list, and from there to all that follow without reading. The fuel is
spent on the steps that are looked at. -/
def follow (p : Program) (place : Nat) (before after : Option Char) :
    Nat → List Nat → Reached → Reached
  | 0, _, r | _, [], r => r
  | fuel + 1, n :: ns, r =>
    if r.seen.getD n 0 = place then p.follow place before after fuel ns r
    else
      let r := { r with seen := r.seen.setIfInBounds n place }
      match p.steps[n]? with
      | none => p.follow place before after fuel ns r
      | some .accept => { r with accepts := true }
      | some (.fork next other) => p.follow place before after fuel (next :: other :: ns) r
      | some (.check a next) =>
        p.follow place before after fuel (if a.holds before after then next :: ns else ns) r
      | some step => p.follow place before after fuel ns { r with reading := step :: r.reading }

/-- Whether the last step is come to from the open ones, or from the first one here or later, in
what is left of a text. -/
def isOpenIn (p : Program) (opened : List Nat) (place : Nat) (before : Option Char)
    (seen : Array Nat) : List Char → Bool
  | [] => (p.follow place before none (3 * p.steps.size + 2) (p.start :: opened)
      ⟨seen, [], false⟩).accepts
  | c :: cs =>
    let r := p.follow place before (some c) (3 * p.steps.size + 2) (p.start :: opened)
      ⟨seen, [], false⟩
    r.accepts || p.isOpenIn (r.reading.filterMap (·.read? c)) (place + 1) (some c) r.seen cs

/-- Whether the pattern of a program matches some stretch of a text. -/
def isFoundIn (p : Program) (text : String) : Bool :=
  p.isOpenIn [] 1 none (Array.replicate p.steps.size 0) text.toList

end Program

end ElementAtlas
