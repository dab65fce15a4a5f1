import Mathlib.Data.List.Nodup
import ElementAtlas.Proofs.Atlas.Resolution

/-!
# Definitions in another order

The same definitions in another order make an atlas or fail to make one alike, and then all places
are different ones. What stays are the names: elements of the two atlases match if they have one name
(`Member.Matches`), and such elements have the same properties and refer to elements that match
(`Atlas.Rearranges`). Which definition an element is made of is told by its name, since no name is
defined twice.
-/

namespace ElementAtlas

variable {α : Type}

/-! ## Faults -/

/-- The errors tell of a fault of one kind, though perhaps at different elements. -/
inductive ResolveError.SameKind : ResolveError → ResolveError → Prop
  | unresolvedReference (element target element' target' : String) :
      SameKind (.unresolvedReference element target) (.unresolvedReference element' target')
  | duplicateElement (name name' : String) :
      SameKind (.duplicateElement name) (.duplicateElement name')

section
variable {definitions definitions' : List (Definition α)} (hperm : definitions.Perm definitions')
include hperm

/-- Definitions are closed in any order. -/
theorem Closed.perm (h : Closed definitions) : Closed definitions' := by
  have hnames := hperm.map (·.name)
  refine ⟨hnames.nodup_iff.1 h.1, fun d hd side t ht => ?_⟩
  exact hnames.mem_iff.1 (h.2 d (hperm.mem_iff.2 hd) side t ht)

/-- A name is repeated in every order, or in none. -/
theorem FirstFault.sameKind {error error' : ResolveError} (h : FirstFault definitions error)
    (h' : FirstFault definitions' error') : error.SameKind error' := by
  have hnodup : (definitions.map (·.name)).Nodup ↔ (definitions'.map (·.name)).Nodup :=
    (hperm.map (·.name)).nodup_iff
  cases h with
  | duplicate hsplit _ hrepeated =>
    cases h' with
    | duplicate => exact .duplicateElement _ _
    | unresolved hnodup' =>
      exact absurd (hnodup.2 hnodup') (hsplit ▸ not_nodup_of_repeated hrepeated)
  | unresolved hdistinct =>
    cases h' with
    | duplicate hsplit _ hrepeated =>
      exact absurd (hnodup.1 hdistinct) (hsplit ▸ not_nodup_of_repeated hrepeated)
    | unresolved => exact .unresolvedReference _ _ _ _

end

/-! ## Elements that match -/

/-- The places, each in an atlas of its own, hold elements of one name. -/
def ElementId.Matches (atlas atlas' : Atlas α) (id id' : ElementId) : Prop :=
  ∃ name, atlas.NamedAt id name ∧ atlas'.NamedAt id' name

/-- The transitions, each of an atlas of its own, differ only in the places that they refer to, and
these match. -/
structure Transition.Alike (atlas atlas' : Atlas α) (t t' : Transition α ElementId) : Prop where
  temperature : t.temperature = t'.temperature
  target : t.target.Matches atlas atlas' t'.target
  targetName : t.targetName = t'.targetName
  byproduct : Option.Rel (ElementId.Matches atlas atlas') t.byproduct t'.byproduct
  byproductName : t.byproductName = t'.byproductName
  byproductRatio : t.byproductRatio = t'.byproductRatio

/-- The elements, each of an atlas of its own, differ only in the places that their transitions refer
to, and these match. -/
structure Element.Alike (atlas atlas' : Atlas α) (e e' : Element α ElementId) : Prop where
  name : e.name = e'.name
  displayName : e.displayName = e'.displayName
  state : e.state = e'.state
  specificHeatCapacity : e.specificHeatCapacity = e'.specificHeatCapacity
  thermalConductivity : e.thermalConductivity = e'.thermalConductivity
  molarMass : e.molarMass = e'.molarMass
  radiationAbsorption : e.radiationAbsorption = e'.radiationAbsorption
  radioactivity : e.radioactivity = e'.radioactivity
  massPerTile : e.massPerTile = e'.massPerTile
  transitions : ∀ side,
    Option.Rel (Transition.Alike atlas atlas') (e.transition? side) (e'.transition? side)

/-- The members, each of an atlas of its own, are elements of one name. -/
structure Member.Matches (atlas atlas' : Atlas α) (m m' : Member α) : Prop where
  left : atlas.get? m.id = some m
  right : atlas'.get? m'.id = some m'
  name : m.element.name = m'.element.name

/-- The atlases hold elements of the same names, each of which is alike in both. -/
structure Atlas.Rearranges (atlas atlas' : Atlas α) : Prop where
  perm : (atlas.elements.map (·.name)).Perm (atlas'.elements.map (·.name))
  alike : ∀ m m' : Member α, m.Matches atlas atlas' m' → m.element.Alike atlas atlas' m'.element

/-! ## Resolutions of one definition -/

/-- The display name of an element is what the strings have for that of its definition, which stays
where they have nothing. -/
theorem Definition.ResolvedIn.displayName_eq {atlas : Atlas α} {strings : StringTable}
    {d : Definition α} {e : Element α ElementId} (h : d.ResolvedIn atlas strings e) :
    e.displayName = (strings.get? d.displayName).getD d.displayName := by
  rcases h.displayName with ⟨text, hraw, htext⟩ | ⟨hkey, hdisplay⟩
  · simp [StringTable.get?, hraw, htext]
  · simp [StringTable.get?, hkey, hdisplay]

namespace Atlas

variable {atlas atlas' : Atlas α}

/-- The names of an atlas are those that stand at a place. -/
theorem mem_names_iff {name : String} :
    name ∈ atlas.elements.map (·.name) ↔ ∃ id, atlas.NamedAt id name := by
  rw [List.mem_iff_getElem?]
  constructor
  · rintro ⟨i, hi⟩
    exact ⟨⟨i⟩, namedAt_iff.2 hi⟩
  · rintro ⟨id, hid⟩
    exact ⟨id.index, namedAt_iff.1 hid⟩

/-- A byproduct has a place in both atlases or in neither. -/
theorem rel_byproduct {t : Transition α Unit} {u u' : Transition α ElementId}
    (hnames : ∀ name, (∃ id, atlas.NamedAt id name) ↔ ∃ id, atlas'.NamedAt id name)
    (hu : t.ResolvedIn atlas u) (hu' : t.ResolvedIn atlas' u') :
    Option.Rel (ElementId.Matches atlas atlas') u.byproduct u'.byproduct := by
  cases hid : u.byproduct with
  | some id =>
    obtain ⟨name, hname, hnamed⟩ := (hu.byproduct id).1 hid
    obtain ⟨id', hnamed'⟩ := (hnames name).1 ⟨id, hnamed⟩
    rw [(hu'.byproduct id').2 ⟨name, hname, hnamed'⟩]
    exact .some ⟨name, hnamed, hnamed'⟩
  | none =>
    cases hid' : u'.byproduct with
    | none => exact .none
    | some id' =>
      obtain ⟨name, hname, hnamed'⟩ := (hu'.byproduct id').1 hid'
      obtain ⟨id, hnamed⟩ := (hnames name).2 ⟨id', hnamed'⟩
      rw [(hu.byproduct id).2 ⟨name, hname, hnamed⟩] at hid
      cases hid

/-- The target of a resolved transition stands under its name. -/
theorem namedAt_target {t : Transition α Unit} {u : Transition α ElementId}
    (h : t.ResolvedIn atlas u) : atlas.NamedAt u.target t.targetName := by
  obtain ⟨m, hm, hid, hname⟩ := h.target
  rw [target?, ← hid] at hm
  exact hid ▸ ⟨m.element, get?_id_eq_some_iff.1 hm, hname⟩

/-- Transitions that are resolved from one are alike. -/
theorem alike_transition {t : Transition α Unit} {u u' : Transition α ElementId}
    (hnames : ∀ name, (∃ id, atlas.NamedAt id name) ↔ ∃ id, atlas'.NamedAt id name)
    (hu : t.ResolvedIn atlas u) (hu' : t.ResolvedIn atlas' u') : u.Alike atlas atlas' u' where
  temperature := hu.temperature.trans hu'.temperature.symm
  target := ⟨t.targetName, namedAt_target hu, namedAt_target hu'⟩
  targetName := hu.targetName.trans hu'.targetName.symm
  byproduct := rel_byproduct hnames hu hu'
  byproductName := hu.byproductName.trans hu'.byproductName.symm
  byproductRatio := hu.byproductRatio.trans hu'.byproductRatio.symm

/-- Elements that are resolved from one definition are alike. -/
theorem alike_element {strings : StringTable} {d : Definition α} {e e' : Element α ElementId}
    (hnames : ∀ name, (∃ id, atlas.NamedAt id name) ↔ ∃ id, atlas'.NamedAt id name)
    (he : d.ResolvedIn atlas strings e) (he' : d.ResolvedIn atlas' strings e') :
    e.Alike atlas atlas' e' where
  name := he.name.trans he'.name.symm
  displayName := he.displayName_eq.trans he'.displayName_eq.symm
  state := he.state.trans he'.state.symm
  specificHeatCapacity := he.specificHeatCapacity.trans he'.specificHeatCapacity.symm
  thermalConductivity := he.thermalConductivity.trans he'.thermalConductivity.symm
  molarMass := he.molarMass.trans he'.molarMass.symm
  radiationAbsorption := he.radiationAbsorption.trans he'.radiationAbsorption.symm
  radioactivity := he.radioactivity.trans he'.radioactivity.symm
  massPerTile := he.massPerTile.trans he'.massPerTile.symm
  transitions := by
    intro side
    have hleft := he.transitions side
    have hright := he'.transitions side
    generalize d.transition? side = t?, e.transition? side = u?, e'.transition? side = u'?
      at hleft hright
    cases hleft with
    | none =>
      cases hright with
      | none => exact .none
    | some hu =>
      cases hright with
      | some hu' => exact .some (alike_transition hnames hu hu')

/-! ## Atlases of the same definitions -/

/-- The names of an atlas are those of its definitions, in their order. -/
theorem names_of_ofDefinitions {definitions : List (Definition α)} {strings : StringTable}
    (h : ofDefinitions definitions strings = .ok atlas) :
    atlas.elements.map (·.name) = definitions.map (·.name) :=
  names_of_resolve (ofDefinitions_eq_ok.1 h)

/-- The atlases of rearranged definitions are rearranged. -/
theorem rearranges_of_perm {definitions definitions' : List (Definition α)} {strings : StringTable}
    (hperm : definitions.Perm definitions') (h : ofDefinitions definitions strings = .ok atlas)
    (h' : ofDefinitions definitions' strings = .ok atlas') : atlas.Rearranges atlas' := by
  have hnames : (atlas.elements.map (·.name)).Perm (atlas'.elements.map (·.name)) := by
    rw [names_of_ofDefinitions h, names_of_ofDefinitions h']
    exact hperm.map (·.name)
  have hdistinct : (definitions.map (·.name)).Nodup := (closed_of_ofDefinitions h).1
  refine ⟨hnames, fun m m' hmatches => ?_⟩
  obtain ⟨d, hd, hm⟩ := (resolves_of_ofDefinitions h).exists_definition hmatches.left
  obtain ⟨d', hd', hm'⟩ := (resolves_of_ofDefinitions h').exists_definition hmatches.right
  -- the two elements are made of one definition, because they have one name
  have hname : d.name = d'.name := hm.name.symm.trans (hmatches.name.trans hm'.name)
  cases List.inj_on_of_nodup_map hdistinct hd (hperm.mem_iff.2 hd') hname
  refine alike_element (fun name => ?_) hm hm'
  rw [← mem_names_iff, ← mem_names_iff, hnames.mem_iff]

namespace Rearranges

variable (h : atlas.Rearranges atlas')
include h

/-- The other atlas has an element of the name of each element. -/
theorem exists_right {m : Member α} (hm : atlas.get? m.id = some m) :
    ∃ m' : Member α, m.Matches atlas atlas' m' := by
  have hnamed : atlas.NamedAt m.id m.element.name := ⟨m.element, get?_id_eq_some_iff.1 hm, rfl⟩
  obtain ⟨id', e', he', hname⟩ := mem_names_iff.1 (h.perm.mem_iff.1 (mem_names_iff.2 ⟨_, hnamed⟩))
  exact ⟨⟨id', e'⟩, hm, get?_id_eq_some_iff.2 he', hname.symm⟩

/-- Every member of the other atlas matches one. -/
theorem exists_left {m' : Member α} (hm' : atlas'.get? m'.id = some m') :
    ∃ m : Member α, m.Matches atlas atlas' m' := by
  have hnamed : atlas'.NamedAt m'.id m'.element.name :=
    ⟨m'.element, get?_id_eq_some_iff.1 hm', rfl⟩
  obtain ⟨id, e, he, hname⟩ := mem_names_iff.1 (h.perm.mem_iff.2 (mem_names_iff.2 ⟨_, hnamed⟩))
  exact ⟨⟨id, e⟩, get?_id_eq_some_iff.2 he, hm', hname⟩

/-- A name is looked up in both atlases with elements that match, or in neither. -/
theorem rel_named? (name : String) :
    Option.Rel (Member.Matches atlas atlas') (atlas.named? name) (atlas'.named? name) := by
  cases hm : atlas.named? name with
  | some m =>
    obtain ⟨hget, rfl⟩ := named?_eq_some_iff.1 hm
    obtain ⟨m', hmatches⟩ := h.exists_right hget
    rw [named?_eq_some_iff.2 ⟨hmatches.right, hmatches.name.symm⟩]
    exact .some hmatches
  | none =>
    cases hm' : atlas'.named? name with
    | none => exact .none
    | some m' =>
      obtain ⟨hget', rfl⟩ := named?_eq_some_iff.1 hm'
      obtain ⟨m, hmatches⟩ := h.exists_left hget'
      rw [named?_eq_some_iff.2 ⟨hmatches.left, hmatches.name⟩] at hm
      cases hm

end Rearranges

end Atlas

end ElementAtlas
