import ElementAtlas.Query.Attribute

/-!
# Sorting elements

Elements are sorted by the values of an attribute, smallest first, and elements with equal values
keep their order. All values are computed first and each is compared with the first of them, so that
values of different kinds are refused at once. The sorting itself inserts one element after another
into those before it, from their end: it goes on to the left as long as the element is smaller.
-/

namespace ElementAtlas

variable {α : Type} [Scalar α]

/-- An element with the value that it is sorted by. -/
structure Ranked (α : Type) where
  rank : Value α
  member : Member α

namespace Ranked

/-- The element with the value of an attribute on it. -/
def ofMember (atlas : Atlas α) (key : Attribute α) (m : Member α) :
    Except QueryError (Ranked α) :=
  (key.evaluate atlas m).map (⟨·, m⟩)

/-- Fails unless the first element compares with each of the others. -/
def checkFirst : List (Ranked α) → Except QueryError Unit
  | [] => .ok ()
  | first :: others => others.forM fun other => (first.rank.compare other.rank).map fun _ => ()

/-- Puts an element after those that are not greater, in a list that is sorted with the greatest in
front. -/
def insert (new : Ranked α) : List (Ranked α) → Except QueryError (List (Ranked α))
  | [] => .ok [new]
  | old :: smaller => do
    if (← new.rank.compare old.rank) = .lt then return old :: (← new.insert smaller)
    else return new :: old :: smaller

/-- Elements in ascending order. -/
def sort (elements : List (Ranked α)) : Except QueryError (List (Ranked α)) :=
  (elements.foldlM (fun sorted (new : Ranked α) => new.insert sorted) []).map List.reverse

end Ranked

/-- Some elements of an atlas, in the order of an attribute. -/
def Atlas.sortedBy (atlas : Atlas α) (selection : List (Member α)) (key : Attribute α) :
    Except QueryError (List (Member α)) := do
  let ranked ← selection.mapM (Ranked.ofMember atlas key)
  Ranked.checkFirst ranked
  let sorted ← Ranked.sort ranked
  return sorted.map (·.member)

end ElementAtlas
