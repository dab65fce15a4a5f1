import ElementAtlas.Proofs.Quantity.Typing
import ElementAtlas.Proofs.Query.Dangling

/-!
# Membership

Whether a value is among some candidates is found out by going through them until one is equal. A
candidate that the value cannot be compared with is passed over, like one that is not equal, so the
answer only depends on which candidates there are (`Value.exists_isAmong`). What could fail is that a
candidate has no value, and the literals that name no places other than those of the atlas have one
(`Literal.exists_toValue`).

`Predicate.membership_laws` says this of the tests for membership. The candidates are given as one
list, or one by one unless there is only one and it stands for others: a list for its items, a text
for its parts.
-/

namespace ElementAtlas

variable {α : Type} {atlas : Atlas α}

/-! ## Candidates -/

/-- All places that the literal names, at any depth, are in the atlas. -/
def Literal.Within (atlas : Atlas α) (literal : Literal α) : Prop :=
  ∀ id, literal.Mentions id → id.index < atlas.size

/-- A literal whose elements are in the atlas has a value. -/
theorem Literal.exists_toValue {literal : Literal α} (h : literal.Within atlas) :
    ∃ w, literal.toValue atlas = .ok w := by
  rw [← not_not (a := ∃ w, _), ← Attempt.exists_error_iff]
  rintro ⟨e, he⟩
  obtain ⟨id, hmentions, hnone, -⟩ := mentions_of_toValue he
  exact absurd (h id hmentions) (Nat.not_lt.2 (Atlas.get?_eq_none_iff.1 hnone))

variable [Scalar α]

namespace Value

/-- The literal has a value in the atlas, and that is equal to the given one. -/
def Meets (atlas : Atlas α) (v : Value α) (literal : Literal α) : Prop :=
  ∃ w, literal.toValue atlas = .ok w ∧ v.equals w = .ok true

/-- Of candidates that have values, some one is met or none is. -/
theorem exists_isAmong (v : Value α) {literals : List (Literal α)}
    (h : ∀ literal ∈ literals, ∃ w, literal.toValue atlas = .ok w) :
    ∃ b, v.isAmong atlas literals = .ok b ∧
      (b = true ↔ ∃ literal ∈ literals, v.Meets atlas literal) := by
  induction literals with
  | nil => exact ⟨false, rfl, by simp⟩
  | cons literal literals ih =>
    obtain ⟨⟨w, hw⟩, hrest⟩ := List.forall_mem_cons.1 h
    rw [isAmong, Attempt.bind_of_ok hw]
    split
    next hequal => exact ⟨true, rfl, iff_of_true rfl ⟨literal, .head _, w, hw, hequal⟩⟩
    next hother =>
      obtain ⟨b, hb, hmet⟩ := ih hrest
      refine ⟨b, hb, hmet.trans ?_⟩
      have hfirst : ¬ v.Meets atlas literal := by
        rintro ⟨w', hw', hequal⟩
        cases hw.symm.trans hw'
        exact hother hequal
      rw [List.exists_mem_cons_iff, or_iff_right hfirst]

/-- Candidates in another order, or repeated, are met alike. -/
theorem isAmong_congr (v : Value α) {literals others : List (Literal α)}
    (h : ∀ literal ∈ literals, ∃ w, literal.toValue atlas = .ok w)
    (hothers : ∀ literal, literal ∈ others ↔ literal ∈ literals) :
    v.isAmong atlas others = v.isAmong atlas literals := by
  have h' : ∀ literal ∈ others, ∃ w, literal.toValue atlas = .ok w :=
    fun literal hliteral => h literal ((hothers literal).1 hliteral)
  obtain ⟨b, hb, hmet⟩ := v.exists_isAmong h
  obtain ⟨c, hc, hmet'⟩ := v.exists_isAmong h'
  simp only [hothers] at hmet'
  rw [hb, hc, Bool.eq_iff_iff.2 (hmet'.trans hmet.symm)]

/-- Several candidates stand for themselves. -/
theorem isIn_eq_isAmong (v : Value α) {candidates : List (Literal α)}
    (hlist : ∀ items, candidates ≠ [.list items]) (htext : ∀ s, candidates ≠ [.text s]) :
    v.isIn atlas candidates = v.isAmong atlas candidates := by
  unfold isIn
  split
  · exact absurd rfl (hlist _)
  · exact absurd rfl (htext _)
  · rfl

/-- A quantity of another dimension is passed over. -/
theorem isAmong_quantity_cons {q r : Quantity α} (h : q.dimension ≠ r.dimension)
    (literals : List (Literal α)) :
    (quantity q).isAmong atlas (.quantity r :: literals) = (quantity q).isAmong atlas literals := by
  have hequal : (quantity q).equals (quantity r) ≠ .ok true := by
    rw [equals]
    intro hequal
    obtain ⟨order, horder, -⟩ := Attempt.map_eq_ok.1 (Attempt.mapError_eq_ok.1 hequal)
    exact h (Quantity.exists_compare_iff.1 ⟨order, horder⟩).1
  have hvalue : (Literal.quantity r).toValue atlas = .ok (quantity r) := rfl
  rw [isAmong, Attempt.bind_of_ok hvalue]
  split
  next hother => exact absurd hother hequal
  · rfl

end Value

/-! ## Tests for membership -/

namespace Predicate

variable {m : Member α} {left : Attribute α} {v : Value α} {items : List (Literal α)}

/-- The laws of membership, of the value of an attribute, among the items of a list. -/
structure MembershipLaws (atlas : Atlas α) (m : Member α) (left : Attribute α) (v : Value α)
    (items : List (Literal α)) : Prop where
  decides : ∃ b, (isIn left [.list items]).evaluate atlas m = .ok b ∧
    (b = true ↔ ∃ literal ∈ items, v.Meets atlas literal)
  rearranged : ∀ others, (∀ literal, literal ∈ others ↔ literal ∈ items) →
    (isIn left [.list others]).evaluate atlas m = (isIn left [.list items]).evaluate atlas m
  otherDimension : ∀ q r : Quantity α, v = .quantity q → q.dimension ≠ r.dimension →
    (isIn left [.list (.quantity r :: items)]).evaluate atlas m =
      (isIn left [.list items]).evaluate atlas m
  separate : (∀ inner, items ≠ [.list inner]) → (∀ s, items ≠ [.text s]) →
    (isIn left items).evaluate atlas m = (isIn left [.list items]).evaluate atlas m

/-- Membership is evaluated on the value of the left operand. -/
theorem evaluate_isIn (hv : left.evaluate atlas m = .ok v) (candidates : List (Literal α)) :
    (isIn left candidates).evaluate atlas m = v.isIn atlas candidates := by
  rw [evaluate, Attempt.bind_of_ok hv]

/-- Membership in a list agrees with equality: it holds if the value is equal to an item, and it
never fails. So neither the order of the items matters nor how often each is there, and they may as
well be given one by one. -/
theorem membership_laws (hv : left.evaluate atlas m = .ok v)
    (hitems : ∀ literal ∈ items, literal.Within atlas) :
    MembershipLaws atlas m left v items := by
  have hvalues : ∀ literal ∈ items, ∃ w, literal.toValue atlas = .ok w :=
    fun literal hliteral => Literal.exists_toValue (hitems literal hliteral)
  refine ⟨?_, fun others hothers => ?_, fun q r hq hdimension => ?_, fun hlist htext => ?_⟩
  · rw [evaluate_isIn hv]
    exact v.exists_isAmong hvalues
  · rw [evaluate_isIn hv, evaluate_isIn hv]
    exact v.isAmong_congr hvalues hothers
  · subst hq
    rw [evaluate_isIn hv, evaluate_isIn hv]
    exact Value.isAmong_quantity_cons hdimension items
  · rw [evaluate_isIn hv, evaluate_isIn hv]
    exact v.isIn_eq_isAmong hlist htext

/-- In the sample, the element that water freezes to is among steam, a list and ice. -/
theorem membership_laws_ice :
    ∃ (atlas : Atlas Float) (water : Member Float) (ice : Value Float),
      ((Attribute.ofField "low_transition").field "target").evaluate atlas water = .ok ice ∧
      MembershipLaws atlas water ((Attribute.ofField "low_transition").field "target") ice
        [.element ⟨2⟩, .list [.element ⟨0⟩], .element ⟨0⟩] ∧
      (isIn ((Attribute.ofField "low_transition").field "target")
        [.element ⟨2⟩, .list [.element ⟨0⟩], .element ⟨0⟩]).evaluate atlas water = .ok true := by
  let path : Attribute Float := (Attribute.ofField "low_transition").field "target"
  let items : List (Literal Float) := [.element ⟨2⟩, .list [.element ⟨0⟩], .element ⟨0⟩]
  have hsample : (Sample.atlas : Except LoadError (Atlas Float)).toOption.map (fun atlas =>
      (atlas.get? ⟨1⟩).bind fun water => (path.evaluate atlas water).toOption.bind fun _ =>
        ((isIn path items).evaluate atlas water).toOption.map fun b => (atlas.size, b)) =
      some (some (3, true)) := by
    decide +kernel
  obtain ⟨-, atlas, -, -, hsample⟩ := Sample.exists_atlas hsample
  obtain ⟨water, -, hsample⟩ := Option.bind_eq_some_iff.1 hsample
  obtain ⟨ice, hice, hsample⟩ := Option.bind_eq_some_iff.1 hsample
  obtain ⟨b, hb, hsample⟩ := Option.map_eq_some_iff.1 hsample
  obtain ⟨hsize, rfl⟩ := Prod.mk.inj hsample
  have hvalue := Attempt.toOption_eq_some_iff.1 hice
  have hplace {n : Nat} (hn : n < 3) : (Literal.element ⟨n⟩ : Literal Float).Within atlas := by
    rintro id ⟨⟩
    exact hsize ▸ hn
  have hlist : (Literal.list [.element ⟨0⟩] : Literal Float).Within atlas := by
    rintro id (_ | ⟨hmem, hmentions⟩)
    cases List.mem_singleton.1 hmem
    exact hplace (by decide) id hmentions
  have hitems : ∀ literal ∈ items, literal.Within atlas := by
    simp only [items, List.forall_mem_cons]
    exact ⟨hplace (by decide), hlist, hplace (by decide), nofun⟩
  exact ⟨atlas, water, ice, hvalue, membership_laws hvalue hitems,
    Attempt.toOption_eq_some_iff.1 hb⟩

end Predicate

end ElementAtlas
