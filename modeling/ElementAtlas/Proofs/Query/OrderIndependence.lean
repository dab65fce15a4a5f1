import ElementAtlas.Proofs.Atlas.Sample
import ElementAtlas.Proofs.Atlas.Selection
import ElementAtlas.Proofs.Query.Rearrangement

/-!
# Queries do not depend on the order of definitions

Definitions in another order make an atlas or fail alike. A search in one of the two atlases accepts
an element of a name if a search in the other does, so it finds the same names, each time in the order
of the definitions (`Needle.FindsAlike`). With what is known of paths and predicates this says of all
queries of an atlas that they do not depend on the order of its definitions
(`Atlas.independent_of_order`).
-/

namespace ElementAtlas

variable {α : Type} [Scalar α] {atlas atlas' : Atlas α}

namespace Needle

/-- Whether a needle accepts the element of a name. -/
def acceptsName (needle : Needle α) (atlas : Atlas α) (name : String) : Bool :=
  (atlas.named? name).any fun m => needle.accepts atlas m matches .ok true

/-- A search succeeds in both atlases or in neither, and it finds the same names in both, each time in
the order of the elements. -/
def FindsAlike (needle : Needle α) (atlas atlas' : Atlas α) : Prop :=
  ((∃ found, atlas.find needle = .ok found) ↔ ∃ found, atlas'.find needle = .ok found) ∧
    ∀ found found', atlas.find needle = .ok found → atlas'.find needle = .ok found' →
      ∃ isFound : String → Bool,
        found.map (·.element.name) = (atlas.elements.map (·.name)).filter isFound ∧
        found'.map (·.element.name) = (atlas'.elements.map (·.name)).filter isFound

/-- The names of what is found are those of the elements that are accepted. -/
theorem names_of_find {needle : Needle α} {found : List (Member α)}
    (h : atlas.find needle = .ok found) :
    found.map (·.element.name) =
      (atlas.elements.map (·.name)).filter (needle.acceptsName atlas) := by
  obtain ⟨-, rfl⟩ := select_eq_ok_iff.1 h
  rw [← atlas.names_members, List.filter_map]
  congr 1
  refine List.filter_congr fun m hm => ?_
  have hnamed : atlas.named? m.element.name = some m :=
    Atlas.named?_eq_some_iff.2 ⟨Atlas.mem_members_iff.1 hm, rfl⟩
  rw [Function.comp_apply, acceptsName, hnamed]
  rfl

/-- A needle that treats elements that match alike finds the same names. -/
theorem findsAlike_of_accepts (hatlas : atlas.Rearranges atlas') {needle : Needle α}
    (h : ∀ m m' : Member α, m.Matches atlas atlas' m' →
      needle.accepts atlas m = needle.accepts atlas' m') : needle.FindsAlike atlas atlas' := by
  constructor
  · rw [Atlas.exists_find_iff, Atlas.exists_find_iff]
    constructor
    · intro hall m' hm'
      obtain ⟨m, hmatches⟩ := hatlas.exists_left hm'
      rw [← h m m' hmatches]
      exact hall m hmatches.left
    · intro hall m hm
      obtain ⟨m', hmatches⟩ := hatlas.exists_right hm
      rw [h m m' hmatches]
      exact hall m' hmatches.right
  · intro found found' hfound hfound'
    have hnames : needle.acceptsName atlas = needle.acceptsName atlas' := by
      funext name
      have hrel := hatlas.rel_named? name
      rw [acceptsName, acceptsName]
      generalize atlas.named? name = m?, atlas'.named? name = m'? at hrel
      cases hrel with
      | none => rfl
      | some hmatches => rw [Option.any_some, Option.any_some, h _ _ hmatches]
    refine ⟨needle.acceptsName atlas, names_of_find hfound, ?_⟩
    rw [hnames]
    exact names_of_find hfound'

end Needle

namespace Atlas

/-- Finding elements by a part of their names always succeeds. -/
theorem exists_find_substring (atlas : Atlas α) (text : String) :
    ∃ found, atlas.find (.substring text) = .ok found :=
  exists_find_iff.2 fun _ _ => ⟨_, rfl⟩

/-- Queries do not depend on the order of definitions. In every order the definitions make an atlas,
or in every order they have a fault of the same kind. In two such atlases a name is that of an element
or of none. From elements of one name, a path leads to values that match, or fails with the same
error, and a predicate that names no places holds of both, of neither, or fails on both with the same
error. Searches for a text and for such a predicate find the same names in both. -/
theorem independent_of_order {definitions definitions' : List (Definition α)}
    (hperm : definitions.Perm definitions') (strings : StringTable) :
    ((∃ atlas, ofDefinitions definitions strings = .ok atlas) ↔
      ∃ atlas', ofDefinitions definitions' strings = .ok atlas') ∧
    (∀ error error', ofDefinitions definitions strings = .error error →
      ofDefinitions definitions' strings = .error error' → error.SameKind error') ∧
    ∀ atlas atlas', ofDefinitions definitions strings = .ok atlas →
      ofDefinitions definitions' strings = .ok atlas' →
      (∀ name, Option.Rel (Member.Matches atlas atlas') (atlas.named? name)
        (atlas'.named? name)) ∧
      (∀ m m' : Member α, m.Matches atlas atlas' m' →
        (∀ a : Attribute α, a.base = .root → Attempt.Agree (Value.Matches atlas atlas')
          (a.evaluate atlas m) (a.evaluate atlas' m')) ∧
        ∀ p : Predicate α, p.RootBased → (∀ id, ¬ p.Mentions id) →
          p.evaluate atlas m = p.evaluate atlas' m') ∧
      (∀ text, (∃ found, atlas.find (.substring text) = .ok found) ∧
        (Needle.substring text).FindsAlike atlas atlas') ∧
      ∀ p : Predicate α, p.RootBased → (∀ id, ¬ p.Mentions id) →
        (Needle.predicate p).FindsAlike atlas atlas' := by
  refine ⟨?_, fun error error' herror herror' => ?_, fun atlas atlas' h h' => ?_⟩
  · rw [exists_ofDefinitions_iff, exists_ofDefinitions_iff]
    exact ⟨Closed.perm hperm, Closed.perm hperm.symm⟩
  · exact FirstFault.sameKind hperm (ofDefinitions_eq_error.1 herror)
      (ofDefinitions_eq_error.1 herror')
  · have hatlas := rearranges_of_perm hperm h h'
    have hpredicate {p : Predicate α} (hroot : p.RootBased) (hliterals : ∀ id, ¬ p.Mentions id)
        (m m' : Member α) (hm : m.Matches atlas atlas' m') :
        p.evaluate atlas m = p.evaluate atlas' m' :=
      Predicate.evaluate_of_matches hatlas hm hroot hliterals
    refine ⟨hatlas.rel_named?, fun m m' hm => ⟨fun a hroot => ?_, fun p hroot hliterals => ?_⟩,
      fun text => ⟨exists_find_substring atlas text, ?_⟩, fun p hroot hliterals => ?_⟩
    · exact Attribute.agree_evaluate hatlas hroot hm
    · exact hpredicate hroot hliterals m m' hm
    · refine Needle.findsAlike_of_accepts hatlas fun m m' hm => ?_
      rw [Needle.accepts, Needle.accepts, hm.name, (hatlas.alike m m' hm).displayName]
    · exact Needle.findsAlike_of_accepts hatlas (hpredicate hroot hliterals)

/-- In the sample and in the sample with its definitions reversed, ice is at different places, and a
path from it by way of water leads to elements of one name. -/
theorem independent_of_order_sample :
    ∃ (definitions : List (Definition Float)) (atlas atlas' : Atlas Float)
      (ice ice' steam steam' : Member Float),
      definitions.Perm definitions.reverse ∧
      ofDefinitions definitions Sample.strings = .ok atlas ∧
      ofDefinitions definitions.reverse Sample.strings = .ok atlas' ∧
      ice.Matches atlas atlas' ice' ∧ ice.id = ⟨0⟩ ∧ ice'.id = ⟨2⟩ ∧
      ((((Attribute.ofField "high_transition").field "target").field "high_transition").field
        "target").evaluate atlas ice = .ok (.element steam) ∧
      ((((Attribute.ofField "high_transition").field "target").field "high_transition").field
        "target").evaluate atlas' ice' = .ok (.element steam') ∧
      steam.Matches atlas atlas' steam' := by
  let path : Attribute Float :=
    (((Attribute.ofField "high_transition").field "target").field "high_transition").field "target"
  have hloaded : (Sample.atlas : Except LoadError (Atlas Float)).toOption.map (fun atlas =>
      (atlas.get? ⟨0⟩).bind fun ice =>
        (path.evaluate atlas ice).toOption.map fun v => (ice.element.name, v.kind)) =
      some (some ("Ice", .element)) := by
    decide +kernel
  have hreversed : (Document.definitions Sample.document).toOption.bind
      (fun definitions : List (Definition Float) =>
        (ofDefinitions definitions.reverse Sample.strings).toOption.bind fun atlas =>
          (atlas.named? "Ice").map (·.id)) = some ⟨2⟩ := by
    decide +kernel
  obtain ⟨definitions, atlas, hdefinitions, hatlas, hsample⟩ := Sample.exists_atlas hloaded
  obtain ⟨ice, hice, hsample⟩ := Option.bind_eq_some_iff.1 hsample
  obtain ⟨v, hv, hsample⟩ := Option.map_eq_some_iff.1 hsample
  obtain ⟨hname, hkind⟩ := Prod.mk.inj hsample
  rw [hdefinitions] at hreversed
  obtain ⟨_, hsome, hreversed⟩ := Option.bind_eq_some_iff.1 hreversed
  cases hsome
  obtain ⟨atlas', hatlas', hreversed⟩ := Option.bind_eq_some_iff.1 hreversed
  obtain ⟨ice', hice', hplace⟩ := Option.map_eq_some_iff.1 hreversed
  have hperm : definitions.Perm definitions.reverse := (List.reverse_perm definitions).symm
  have hatlas' := Attempt.toOption_eq_some_iff.1 hatlas'
  obtain ⟨-, -, hqueries⟩ := independent_of_order hperm Sample.strings
  obtain ⟨-, hpaths, -⟩ := hqueries atlas atlas' hatlas hatlas'
  have hmember : atlas.get? ice.id = some ice := (Value.id_eq_of_get? hice).symm ▸ hice
  obtain ⟨hmember', hname'⟩ := named?_eq_some_iff.1 hice'
  have hmatches : ice.Matches atlas atlas' ice' := ⟨hmember, hmember', hname.trans hname'.symm⟩
  have hagree := (hpaths ice ice' hmatches).1 path rfl
  rw [Attempt.toOption_eq_some_iff.1 hv] at hagree
  generalize hv' : path.evaluate atlas' ice' = reached at hagree
  cases hagree with
  | ok hvalues =>
    cases hvalues with
    | plain hplain => cases hplain <;> cases hkind
    | transition => cases hkind
    | method => cases hkind
    | @element steam steam' hsteam =>
      exact ⟨definitions, atlas, atlas', ice, ice', steam, steam', hperm, hatlas, hatlas', hmatches,
        Value.id_eq_of_get? hice, hplace, Attempt.toOption_eq_some_iff.1 hv, hv', hsteam⟩

end Atlas

end ElementAtlas
