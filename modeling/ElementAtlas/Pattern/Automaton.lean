import ElementAtlas.Pattern.Build
import ElementAtlas.Text.Utf8
import Std.Data.HashMap

/-!
# The size of automata

A pattern is searched for by automata that read the bytes of a text, one forwards and one backwards.
A pattern whose automata would take more than `Automaton.limit` bytes of memory is refused. The
automata themselves are not needed to say what a pattern matches; here their states and transitions
are counted in the order in which they are made.

Most patterns become a few states each. The states of a set of characters are shared between
characters whose bytes end alike, or backwards begin alike. What can be shared is kept in a table
with a fixed number of places, in which an entry takes the place of an earlier one that falls on it.
-/

namespace ElementAtlas

open Text

namespace Automaton

/-- The way an automaton goes through a text. -/
inductive Direction where
  | forwards
  | backwards
deriving DecidableEq, Repr

/-- How many states have been made, and how many bytes their transitions take. -/
structure Count where
  states : Nat
  transitionBytes : Nat
deriving DecidableEq, Repr

/-- The bytes that an automaton may take. -/
def limit : Nat := 10485760

/-- The bytes that states with their transitions take. -/
def Count.bytes (n : Count) : Nat := 32 * n.states + n.transitionBytes

/-- The making of an automaton, none once it takes too much. -/
abbrev Make := StateT Count Option

/-- Goes on with a count that is within the limit. -/
def count (n : Count) : Make Unit := fun _ => if n.bytes ≤ limit then some ((), n) else none

/-- Makes a state with transitions on so many byte ranges, and returns its number. -/
def newState (transitions : Nat) : Make Nat := do
  let n ← get
  count ⟨n.states + 1, n.transitionBytes + 8 * transitions⟩
  return n.states

/-- Makes some states without transitions on bytes. -/
def newStates (k : Nat) : Make Unit := do
  let n ← get
  count ⟨n.states + k, n.transitionBytes⟩

/-- Gives a state so many ways to go on without reading. -/
def newBranches (k : Nat) : Make Unit := do
  let n ← get
  count ⟨n.states, n.transitionBytes + 4 * k⟩

/-- Does the same several times. -/
def repeatMake : Nat → Make Unit → Make Unit
  | 0, _ => fun n => some ((), n)
  | k + 1, make => fun n =>
    match make n with
    | none => none
    | some (_, n') => repeatMake k make n'

/-- A table of states by their keys. A key has its place from its hash, and one entry per place is
kept. -/
structure Table where
  size : Nat
  entries : Std.HashMap Nat (List Nat × Nat)

namespace Table

def ofSize (size : Nat) : Table := ⟨size, ∅⟩

/-- The place of a key. -/
def place (t : Table) (key : List Nat) : Nat :=
  let hash : UInt64 :=
    key.foldl (fun h n => (h ^^^ n.toUInt64) * 1099511628211) 14695981039346656037
  hash.toNat % t.size

/-- The state that is kept for a key, unless another key has taken its place. -/
def find? (t : Table) (key : List Nat) : Option Nat :=
  match t.entries[t.place key]? with
  | some (key', state) => if key' = key then some state else none
  | none => none

/-- Keeps a state for a key, in place of what has been kept there. -/
def insert (t : Table) (key : List Nat) (state : Nat) : Table :=
  { t with entries := t.entries.insert (t.place key) (key, state) }

end Table

/-- The state of a key: the one in the table, or else a new one that is put there. -/
def shared (key : List Nat) (transitions : Nat) : StateT Table Make Nat := do
  match (← get).find? key with
  | some state => return state
  | none =>
    let state ← newState transitions
    modify (·.insert key state)
    return state

/-- Makes the state that reads one of some strings of byte ranges and goes on to `target`. Strings
with the same front share a transition, and states with the same transitions are one. -/
def forwardState (target : Nat) : Nat → List (List ByteRange) → StateT Table Make Nat
  | 0, _ => return target
  | depth + 1, strings => do
    let fronts := strings.splitBy fun s t => s.head? == t.head?
    let transitions ← fronts.mapM fun group => do
      let tails := (group.map List.tail).filter (!·.isEmpty)
      let next ← if tails.isEmpty then pure target else forwardState target depth tails
      let (first, last) := (group.head?.bind List.head?).getD (0, 0)
      return [first, last, next]
    shared transitions.flatten transitions.length

/-- Makes the states that read a string of byte ranges from its end, before the state `target`. -/
def backwardStates : Nat → List ByteRange → StateT Table Make Unit
  | _, [] => return
  | target, (first, last) :: string => do
    backwardStates (← shared [target, first, last] 0) string

/-- Makes the states of a set of characters. -/
def makeSet (direction : Direction) (s : CharSet) : Make Unit := do
  if s.isAscii then
    newStates 1
    let _ ← newState s.ranges.length
  else
    let strings := s.ranges.flatMap charByteRanges
    match direction with
    | .forwards =>
      let target ← newState 0
      let _ ← (forwardState target 4 strings).run (.ofSize 10000)
    | .backwards =>
      let _ ← newState 0
      let target ← newState 0
      let _ ← (strings.forM fun string => do
        backwardStates target string
        newBranches 1 : StateT Table Make Unit).run (.ofSize 1000)

/-- The bytes of a text. -/
def bytesOf (text : List Char) : List Nat := text.flatMap fun c => utf8Bytes c.toNat

/-- Strings of which only the first may be empty before one that is not. -/
def dropEmptyFront : List (List Nat) → List (List Nat)
  | [] :: strings => [] :: strings.dropWhile List.isEmpty
  | strings => strings

/-- Splits strings at the empty ones. -/
def splitAtEmpty : List (List Nat) → List (List (List Nat))
  | [] => [[]]
  | string :: strings =>
    match string, splitAtEmpty strings with
    | [], pieces => [] :: pieces
    | string, piece :: pieces => (string :: piece) :: pieces
    | string, [] => [[string]]

/-- Strings in groups by their first byte. -/
def groupByHead (strings : List (List Nat)) : List (List (List Nat)) :=
  let heads := (strings.filterMap List.head?).eraseDups
  heads.map fun b => strings.filter (·.head? = some b)

/-- Makes the states of a tree of strings. Each inner node has a branch to each piece of its strings
between those that end there, a piece being one state with a transition for each first byte, and a
branch to the end for each of those. -/
def makeTree : Nat → List (List Nat) → Make Unit
  | 0, _ => return
  | depth + 1, strings => do
    let pieces := splitAtEmpty (dropEmptyFront strings)
    let filled := pieces.filter (!·.isEmpty)
    filled.forM fun piece => do
      let groups := groupByHead piece
      groups.forM fun group => do
        let tails := group.map List.tail
        if tails.any (!·.isEmpty) then makeTree depth tails
      let _ ← newState (if groups.length = 1 then 0 else groups.length)
    newStates 1
    newBranches (filled.length + (pieces.length - 1))

/-- Makes the states of alternatives that are literals. -/
def makeLiterals (direction : Direction) (texts : List (List Char)) : Make Unit := do
  newStates 1
  let strings := texts.map fun text =>
    if direction = .forwards then bytesOf text else (bytesOf text).reverse
  makeTree ((strings.map List.length).foldl max 0 + 1) strings

end Automaton

namespace Pattern

open Automaton

/-- The texts of alternatives that are all literals. -/
def literals? : Pattern → Option (List (List Char))
  | literal text => some [text]
  | alt p q => do return (← p.literals?) ++ (← q.literals?)
  | _ => none

/-- Where a pattern stands among alternatives. -/
inductive Standing where
  | alone
  | second
  | later

/-- Joins an alternative to those before it. -/
def Standing.join : Standing → Make Unit
  | alone => return
  | second => do
    newStates 2
    newBranches 2
  | later => newBranches 1

/-- Makes the states of a pattern that repeats what `make` makes. -/
def makeRepeated (make : Make Unit) (canBeEmpty : Bool) (atLeast : Nat) : Option Nat → Make Unit
  | some atMost =>
    if atLeast = 0 ∧ atMost = 1 then do
      newStates 1
      make
      newStates 1
      newBranches 2
    else do
      if atLeast = 0 then newStates 1 else repeatMake atLeast make
      if atLeast < atMost then
        newStates 1
        repeatMake (atMost - atLeast) do
          newStates 1
          make
          newBranches 2
  | none =>
    if atLeast = 0 then
      if canBeEmpty then do
        make
        newStates 3
        newBranches 4
      else do
        newStates 1
        make
        newBranches 2
    else do
      repeatMake atLeast make
      newStates 1
      newBranches 2

/-- Makes the states of a pattern. Groups have states at their ends forwards, and the parts of a
sequence are made in the order in which they are read. -/
def make (direction : Direction) (standing : Standing) : Pattern → Make Unit
  | empty => do
    newStates 1
    standing.join
  | literal text => do
    newStates (max 1 (bytesOf text).length)
    standing.join
  | set s => do
    makeSet direction s
    standing.join
  | assertion _ => do
    newStates 1
    standing.join
  | seq p q => do
    match direction with
    | .forwards =>
      p.make direction .alone
      q.make direction .alone
    | .backwards =>
      q.make direction .alone
      p.make direction .alone
    standing.join
  | alt p q =>
    match standing with
    | .alone =>
      match (alt p q).literals? with
      | some texts => makeLiterals direction texts
      | none => do
        p.make direction .alone
        q.make direction .second
    | .second | .later => do
      p.make direction .alone
      standing.join
      q.make direction .later
  | repeated p atLeast atMost => do
    let canBeEmpty := p.minLength?.all (· = 0)
    makeRepeated (p.make direction .alone) canBeEmpty atLeast atMost
    standing.join
  | group _ p => do
    if direction = .forwards then newStates 1
    p.make direction .alone
    if direction = .forwards then newStates 1
    standing.join

/-- Whether every match is at the begin, or backwards at the end, of the text: an assertion that
says so stands before all that matches any characters. -/
def isAnchored (direction : Direction) : Pattern → Bool
  | assertion a => a = (if direction = .forwards then .textBegin else .textEnd)
  | seq p q =>
    match direction with
    | .forwards => p.isAnchored direction || (p.maxLength? = some 0 && q.isAnchored direction)
    | .backwards => q.isAnchored direction || (q.maxLength? = some 0 && p.isAnchored direction)
  | alt p q => p.isAnchored direction && q.isAnchored direction
  | repeated p atLeast _ => 0 < atLeast && p.isAnchored direction
  | group _ p => p.isAnchored direction
  | _ => false

/-- Makes the automaton of a pattern. Unless the pattern is anchored, it begins with states that
pass over any bytes. -/
def makeAutomaton (direction : Direction) (p : Pattern) : Make Unit := do
  if p.isAnchored direction then newStates 1
  else
    newStates 2
    let _ ← newState 1
    newBranches 2
  (group 0 p).make direction .alone
  newStates 1

/-- Whether the automata of a pattern are within the limit. -/
def fits (p : Pattern) : Bool :=
  [Direction.forwards, .backwards].all fun direction =>
    ((p.makeAutomaton direction).run ⟨0, 0⟩).isSome

end Pattern

end ElementAtlas
