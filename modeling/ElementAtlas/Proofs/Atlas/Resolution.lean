import ElementAtlas.Proofs.Attempt
import ElementAtlas.Proofs.Atlas.Names
import ElementAtlas.Proofs.StringTable.Update

/-!
# Resolution

Definitions name each other; the elements of an atlas point at each other. `Atlas.ofDefinitions` is
exact about both: it succeeds on the definitions that are closed, that is whose names are distinct
and whose targets are all defined, its elements are the definitions with their names replaced by
places (`Atlas.Resolves`), and it fails with the first fault there is (`FirstFault`), a repeated
name before an undefined target.

The references are looked up in the index of the names of the definitions, which is the index that
the atlas carries afterwards, so all facts about places follow from what the index is linked to.
-/

namespace ElementAtlas

variable {α : Type}

/-! ## What resolution has to achieve -/

/-- All targets of a definition are among the names. -/
def Definition.TargetsIn (names : List String) (d : Definition α) : Prop :=
  ∀ side t, d.transition? side = some t → t.targetName ∈ names

/-- No name is defined twice, and every target is defined. -/
def Closed (definitions : List (Definition α)) : Prop :=
  (definitions.map (·.name)).Nodup ∧
    ∀ d ∈ definitions, d.TargetsIn (definitions.map (·.name))

/-- The transition `u` of an atlas is `t` with its names replaced: its target is the place of the
element of the target's name, and it has a byproduct where the byproduct's name is that of an
element, at the place of this element. -/
structure Transition.ResolvedIn (atlas : Atlas α) (t : Transition α Unit)
    (u : Transition α ElementId) : Prop where
  temperature : u.temperature = t.temperature
  targetName : u.targetName = t.targetName
  byproductName : u.byproductName = t.byproductName
  byproductRatio : u.byproductRatio = t.byproductRatio
  target : ∃ m, atlas.target? u = some m ∧ m.id = u.target ∧ m.element.name = t.targetName
  byproduct : ∀ id, u.byproduct = some id ↔
    ∃ name, t.byproductName = some name ∧ atlas.NamedAt id name
  byproduct_member : atlas.byproduct? u = t.byproductName.bind atlas.named?

/-- The element `e` of an atlas is the definition `d` with its transitions resolved and its display
name looked up; a key that the string table lacks is displayed as it stands. -/
structure Definition.ResolvedIn (atlas : Atlas α) (strings : StringTable) (d : Definition α)
    (e : Element α ElementId) : Prop where
  name : e.name = d.name
  state : e.state = d.state
  specificHeatCapacity : e.specificHeatCapacity = d.specificHeatCapacity
  thermalConductivity : e.thermalConductivity = d.thermalConductivity
  molarMass : e.molarMass = d.molarMass
  radiationAbsorption : e.radiationAbsorption = d.radiationAbsorption
  radioactivity : e.radioactivity = d.radioactivity
  massPerTile : e.massPerTile = d.massPerTile
  displayName : (∃ text, strings.getRaw? d.displayName = some text ∧
      e.displayName = Markup.strip text) ∨
    (d.displayName ∉ strings.keys ∧ e.displayName = d.displayName)
  transitions : ∀ side,
    Option.Rel (Transition.ResolvedIn atlas) (d.transition? side) (e.transition? side)

/-- The atlas holds the definitions, each resolved, in their order, and all ways to address an
element agree. -/
structure Atlas.Resolves (atlas : Atlas α) (definitions : List (Definition α))
    (strings : StringTable) : Prop where
  elements : List.Forall₂ (Definition.ResolvedIn atlas strings) definitions atlas.elements
  idOf : ∀ name id, atlas.idOf? name = some id ↔ atlas.NamedAt id name
  named : ∀ name m, atlas.named? name = some m ↔ atlas.get? m.id = some m ∧ m.element.name = name
  lookup_name : ∀ name m, atlas.lookup (.name name) = .ok m ↔
    atlas.get? m.id = some m ∧ m.element.name = name
  lookup_index : ∀ n m, atlas.lookup (.index n) = .ok m ↔ atlas.get? m.id = some m ∧ m.id.index = n
  sameAs : ∀ m n, atlas.get? m.id = some m → atlas.get? n.id = some n →
    (m.element.sameAs n.element = true ↔ m.id = n.id)

/-- The first fault of some definitions: the first name that occurs before itself, or, where the
names are distinct, the first target that is not defined, in the order of the definitions and on the
low side of each before the high one. -/
inductive FirstFault (definitions : List (Definition α)) : ResolveError → Prop
  | duplicate {before after : List (Definition α)} {d : Definition α} :
      definitions = before ++ d :: after → (before.map (·.name)).Nodup →
      d.name ∈ before.map (·.name) → FirstFault definitions (.duplicateElement d.name)
  | unresolved {before after : List (Definition α)} {d : Definition α} {side : Side}
      {t : Transition α Unit} :
      (definitions.map (·.name)).Nodup → definitions = before ++ d :: after →
      (∀ b ∈ before, b.TargetsIn (definitions.map (·.name))) → d.transition? side = some t →
      t.targetName ∉ definitions.map (·.name) →
      (side = .high → ∀ low, d.lowTransition = some low →
        low.targetName ∈ definitions.map (·.name)) →
      FirstFault definitions (.unresolvedReference d.name t.targetName)

/-! ## One transition -/

section
variable {index : List (String × Nat)} {names : List String} {owner : String}

/-- A transition is resolved if its target has a place, and its byproduct gets its place if it has
one. -/
@[simp] theorem Transition.resolve_eq_ok {t : Transition α Unit} {u : Transition α ElementId} :
    t.resolve index owner = .ok u ↔ ∃ target, placeOf? index t.targetName = some target ∧
      u = { t with target, byproduct := t.byproductName.bind (placeOf? index) } := by
  unfold Transition.resolve
  cases placeOf? index t.targetName <;> simp [eq_comm]

/-- A transition is not resolved if its target is not among the names. -/
theorem Transition.resolve_eq_error (h : Indexes index names) {t : Transition α Unit}
    {e : ResolveError} :
    t.resolve index owner = .error e ↔
      t.targetName ∉ names ∧ e = .unresolvedReference owner t.targetName := by
  rw [← h.placeOf?_eq_none_iff]
  unfold Transition.resolve
  cases placeOf? index t.targetName <;> simp [eq_comm]

/-- An optional transition is not resolved if it is there and its target is not among the names. -/
theorem Transition.resolve?_eq_error (h : Indexes index names)
    {t? : Option (Transition α Unit)} {e : ResolveError} :
    Transition.resolve? index owner t? = .error e ↔
      ∃ t, t? = some t ∧ t.targetName ∉ names ∧ e = .unresolvedReference owner t.targetName := by
  cases t? with
  | none => simp [Transition.resolve?]
  | some t => simp [Transition.resolve?, Attempt.map_eq_error, Transition.resolve_eq_error h]

/-- An optional transition is resolved if its target is among the names. -/
theorem Transition.exists_resolve?_eq_ok (h : Indexes index names) (owner : String)
    {t? : Option (Transition α Unit)} :
    (∃ u?, Transition.resolve? index owner t? = .ok u?) ↔
      ∀ t, t? = some t → t.targetName ∈ names := by
  rw [← not_iff_not, ← Attempt.exists_error_iff]
  simp [Transition.resolve?_eq_error h]

end

/-- A transition resolved against the index of an atlas is resolved in it. -/
theorem Transition.resolvedIn_of_resolve {atlas : Atlas α} {owner : String}
    {t : Transition α Unit} {u : Transition α ElementId}
    (h : t.resolve atlas.index owner = .ok u) : t.ResolvedIn atlas u := by
  obtain ⟨target, htarget, rfl⟩ := Transition.resolve_eq_ok.1 h
  obtain ⟨e, he, hname⟩ := Atlas.idOf?_eq_some_iff.1 htarget
  refine ⟨rfl, rfl, rfl, rfl, ⟨⟨target, e⟩, ?_, rfl, hname⟩, fun id => ?_, ?_⟩
  · simp [Atlas.target?, Atlas.get?, he]
  · simp only [Option.bind_eq_some_iff, ← Atlas.idOf?_eq_some_iff, Atlas.idOf?]
  · exact Option.bind_assoc _ _ _

/-- A transition that is resolved with the index of an atlas is resolved in the atlas. -/
theorem Transition.rel_of_resolve? {atlas : Atlas α} {owner : String}
    {t? : Option (Transition α Unit)} {u? : Option (Transition α ElementId)}
    (h : Transition.resolve? atlas.index owner t? = .ok u?) :
    Option.Rel (Transition.ResolvedIn atlas) t? u? := by
  cases t? with
  | none => cases h; exact .none
  | some t =>
    obtain ⟨u, hu, rfl⟩ := Attempt.map_eq_ok.1 h
    exact .some (Transition.resolvedIn_of_resolve hu)

/-! ## One definition -/

section
variable {index : List (String × Nat)} {names : List String} {strings : StringTable}
  {d : Definition α}

/-- A definition is resolved if both of its transitions are, and gets a display name. -/
theorem Definition.resolve_eq_ok {e : Element α ElementId} :
    d.resolve index strings = .ok e ↔ ∃ lowTransition highTransition,
      Transition.resolve? index d.name d.lowTransition = .ok lowTransition ∧
      Transition.resolve? index d.name d.highTransition = .ok highTransition ∧
      e = { d with
        displayName := (strings.get? d.displayName).getD d.displayName
        lowTransition, highTransition } := by
  unfold Definition.resolve
  constructor
  · intro h
    obtain ⟨low, hlow, h⟩ := Attempt.bind_eq_ok.1 h
    obtain ⟨high, hhigh, h⟩ := Attempt.bind_eq_ok.1 h
    cases h
    exact ⟨low, high, hlow, hhigh, rfl⟩
  · rintro ⟨low, high, hlow, hhigh, rfl⟩
    exact Attempt.bind_eq_ok.2 ⟨low, hlow, Attempt.bind_eq_ok.2 ⟨high, hhigh, rfl⟩⟩

/-- A definition fails to resolve because of its low transition, or because of its high one if the
low one resolves. -/
theorem Definition.resolve_eq_error (h : Indexes index names) {error : ResolveError} :
    d.resolve index strings = .error error ↔ ∃ side t, d.transition? side = some t ∧
      t.targetName ∉ names ∧
      (side = .high → ∀ low, d.lowTransition = some low → low.targetName ∈ names) ∧
      error = .unresolvedReference d.name t.targetName := by
  unfold Definition.resolve
  simp only [Attempt.bind_eq_error, pure, Except.pure, reduceCtorEq, and_false, exists_false,
    or_false, Transition.resolve?_eq_error h]
  constructor
  · rintro (⟨t, ht, hmem, rfl⟩ | ⟨low, hlow, t, ht, hmem, rfl⟩)
    · exact ⟨.low, t, ht, hmem, (fun hside => by cases hside), rfl⟩
    · have hfirst := (Transition.exists_resolve?_eq_ok h d.name).1 ⟨low, hlow⟩
      exact ⟨.high, t, ht, hmem, fun _ => hfirst, rfl⟩
  · rintro ⟨side, t, ht, hmem, hlow, rfl⟩
    cases side with
    | low => exact .inl ⟨t, ht, hmem, rfl⟩
    | high =>
      obtain ⟨low, hresolve⟩ := (Transition.exists_resolve?_eq_ok h d.name).2 (hlow rfl)
      exact .inr ⟨low, hresolve, t, ht, hmem, rfl⟩

/-- A definition is resolved if the targets of its transitions are among the names. -/
theorem Definition.exists_resolve_eq_ok (h : Indexes index names) :
    (∃ e, d.resolve index strings = .ok e) ↔ d.TargetsIn names := by
  constructor
  · rintro ⟨e, he⟩ side t ht
    obtain ⟨low, high, hlow, hhigh, -⟩ := Definition.resolve_eq_ok.1 he
    cases side with
    | low => exact (Transition.exists_resolve?_eq_ok h d.name).1 ⟨low, hlow⟩ t ht
    | high => exact (Transition.exists_resolve?_eq_ok h d.name).1 ⟨high, hhigh⟩ t ht
  · intro htargets
    obtain ⟨low, hlow⟩ := (Transition.exists_resolve?_eq_ok h d.name).2 (htargets .low)
    obtain ⟨high, hhigh⟩ := (Transition.exists_resolve?_eq_ok h d.name).2 (htargets .high)
    exact ⟨_, Definition.resolve_eq_ok.2 ⟨low, high, hlow, hhigh, rfl⟩⟩

end

/-- The text of a key for display: its text without markup, or the key itself if there is none. -/
theorem StringTable.getD_get? (strings : StringTable) (key : String) :
    (∃ text, strings.getRaw? key = some text ∧
      (strings.get? key).getD key = Markup.strip text) ∨
    (key ∉ strings.keys ∧ (strings.get? key).getD key = key) := by
  unfold StringTable.get?
  cases h : strings.getRaw? key with
  | some text => exact .inl ⟨text, rfl, rfl⟩
  | none => exact .inr ⟨getRaw?_eq_none_iff.1 h, rfl⟩

/-- A definition that is resolved with the index of an atlas is resolved in the atlas. -/
theorem Definition.resolvedIn_of_resolve {atlas : Atlas α} {strings : StringTable}
    {d : Definition α} {e : Element α ElementId} (h : d.resolve atlas.index strings = .ok e) :
    d.ResolvedIn atlas strings e := by
  obtain ⟨low, high, hlow, hhigh, rfl⟩ := Definition.resolve_eq_ok.1 h
  refine ⟨rfl, rfl, rfl, rfl, rfl, rfl, rfl, rfl, strings.getD_get? d.displayName, fun side => ?_⟩
  cases side with
  | low => exact Transition.rel_of_resolve? hlow
  | high => exact Transition.rel_of_resolve? hhigh

/-! ## All definitions -/

/-- Names do not differ if one of them has come up before. -/
theorem not_nodup_of_repeated {before after : List (Definition α)} {d : Definition α}
    (h : d.name ∈ before.map (·.name)) : ¬ ((before ++ d :: after).map (·.name)).Nodup := by
  intro hnd
  rw [List.map_append, List.map_cons] at hnd
  exact (List.nodup_append.1 hnd).2.2 _ h _ (.head _) rfl

/-- Definitions with a fault are not closed. -/
theorem FirstFault.not_closed {definitions : List (Definition α)} {error : ResolveError}
    (h : FirstFault definitions error) : ¬ Closed definitions := by
  rintro ⟨hnd, htargets⟩
  cases h with
  | duplicate hsplit _ hrep => exact not_nodup_of_repeated hrep (hsplit ▸ hnd)
  | unresolved _ hsplit _ ht hmem _ =>
    exact hmem (htargets _ (hsplit ▸ by simp) _ _ ht)

namespace Atlas

/-- Resolved elements keep the names of the definitions. -/
theorem names_of_resolve {index : List (String × Nat)} {strings : StringTable}
    {definitions : List (Definition α)} {elements : List (Element α ElementId)}
    (h : List.Forall₂ (fun d e => d.resolve index strings = .ok e) definitions elements) :
    elements.map (·.name) = definitions.map (·.name) :=
  names_of_mapM_resolve (Attempt.mapM_eq_ok.2 h)

/-- The elements of an atlas are the definitions, resolved against its own index. -/
theorem ofDefinitions_eq_ok {definitions : List (Definition α)} {strings : StringTable}
    {atlas : Atlas α} :
    ofDefinitions definitions strings = .ok atlas ↔
      List.Forall₂ (fun d e => d.resolve atlas.index strings = .ok e)
        definitions atlas.elements := by
  unfold ofDefinitions
  constructor
  · intro h
    split at h
    · cases h
    next index hindex =>
      split at h
      · cases h
      next elements helements =>
        cases h
        exact Attempt.mapM_eq_ok.1 helements
  · intro h
    have hindexes := atlas.indexes
    rw [names_of_resolve h] at hindexes
    split
    next name hindex =>
      obtain ⟨before, after, hsplit, -, hmem⟩ := indexKeys_eq_error_iff.1 hindex
      have hnodup := hsplit ▸ hindexes.nodup
      exact absurd rfl ((List.nodup_append.1 hnodup).2.2 _ hmem _ (.head _))
    next index hindex =>
      have hequal : index = atlas.index :=
        (indexes_of_indexKeys hindex).index_eq.trans hindexes.index_eq.symm
      subst hequal
      have hmapM := Attempt.mapM_eq_ok.2 h
      split
      next error herror => cases hmapM.symm.trans herror
      next elements helements =>
        cases hmapM.symm.trans helements
        rfl

/-- The names of the definitions are those of the atlas. -/
theorem indexes_of_ofDefinitions {definitions : List (Definition α)} {strings : StringTable}
    {atlas : Atlas α} (h : ofDefinitions definitions strings = .ok atlas) :
    Indexes atlas.index (definitions.map (·.name)) :=
  names_of_resolve (ofDefinitions_eq_ok.1 h) ▸ atlas.indexes

/-- Definitions that have an atlas are closed. -/
theorem closed_of_ofDefinitions {definitions : List (Definition α)} {strings : StringTable}
    {atlas : Atlas α} (h : ofDefinitions definitions strings = .ok atlas) :
    Closed definitions := by
  have hindexes := indexes_of_ofDefinitions h
  refine ⟨hindexes.nodup, fun d hd => ?_⟩
  obtain ⟨i, rfl⟩ := List.mem_iff_get.1 hd
  obtain ⟨hlen, hget⟩ := List.forall₂_iff_get.1 (ofDefinitions_eq_ok.1 h)
  exact (Definition.exists_resolve_eq_ok hindexes).1 ⟨_, hget i i.2 (hlen ▸ i.2)⟩

/-- The definitions of an atlas fail to make one because of a repeated name, or else because of the
first definition that does not resolve. -/
theorem ofDefinitions_eq_error {definitions : List (Definition α)} {strings : StringTable}
    {error : ResolveError} :
    ofDefinitions definitions strings = .error error ↔ FirstFault definitions error := by
  cases hindex : indexKeys (definitions.map (·.name)) with
  | error name =>
    have hatlas : ofDefinitions definitions strings = .error (.duplicateElement name) := by
      unfold ofDefinitions
      split
      next other hother =>
        cases hindex.symm.trans hother
        rfl
      next index hother => cases hindex.symm.trans hother
    rw [hatlas, Except.error.injEq]
    obtain ⟨before, after, hsplit, hnodup, hmem⟩ := indexKeys_eq_error_iff.1 hindex
    constructor
    · rintro rfl
      obtain ⟨before, rest, rfl, rfl, hrest⟩ := List.map_eq_append_iff.1 hsplit
      obtain ⟨d, after, rfl, rfl, rfl⟩ := List.map_eq_cons_iff.1 hrest
      exact .duplicate rfl hnodup hmem
    · rintro (⟨hsplit', hnodup', hmem'⟩ | ⟨hall, -⟩)
      · have hnames := congrArg (List.map (·.name)) hsplit'
        rw [List.map_append, List.map_cons] at hnames
        have hfirst : indexKeys (definitions.map (·.name)) = .error _ :=
          indexKeys_eq_error_iff.2 ⟨_, _, hnames, hnodup', hmem'⟩
        cases hindex.symm.trans hfirst
        rfl
      · exact absurd rfl ((List.nodup_append.1 (hsplit ▸ hall)).2.2 _ hmem _ (.head _))
  | ok index =>
    have hindexes := indexes_of_indexKeys hindex
    have hatlas : ofDefinitions definitions strings = .error error ↔
        definitions.mapM (Definition.resolve index strings) = .error error := by
      unfold ofDefinitions
      split
      next name hother => cases hindex.symm.trans hother
      next other hother =>
        cases hindex.symm.trans hother
        split <;> simp [*]
    simp only [hatlas, Attempt.mapM_eq_error, Definition.exists_resolve_eq_ok hindexes,
      Definition.resolve_eq_error hindexes]
    constructor
    · rintro ⟨before, d, after, hsplit, hbefore, side, t, ht, hmem, hlow, rfl⟩
      exact .unresolved hindexes.nodup hsplit hbefore ht hmem hlow
    · rintro (⟨hsplit, -, hrep⟩ | ⟨-, hsplit, hbefore, ht, hmem, hlow⟩)
      · exact absurd (hsplit ▸ hindexes.nodup) (not_nodup_of_repeated hrep)
      · exact ⟨_, _, _, hsplit, hbefore, _, _, ht, hmem, hlow, rfl⟩

/-! ## Addressing an element -/

/-- A member of the atlas stands at its place. -/
@[simp] theorem get?_id_eq_some_iff {atlas : Atlas α} {m : Member α} :
    atlas.get? m.id = some m ↔ atlas.elements[m.id.index]? = some m.element := by
  obtain ⟨id, e⟩ := m
  simp [get?]

section
variable {atlas : Atlas α}

/-- An element is found under its name. -/
@[simp] theorem named?_eq_some_iff {name : String} {m : Member α} :
    atlas.named? name = some m ↔ atlas.get? m.id = some m ∧ m.element.name = name := by
  rw [named?, Option.bind_eq_some_iff]
  constructor
  · rintro ⟨id, hid, hm⟩
    obtain ⟨e, he, rfl⟩ := idOf?_eq_some_iff.1 hid
    rw [get?, he] at hm
    cases hm
    exact ⟨get?_id_eq_some_iff.2 he, rfl⟩
  · rintro ⟨hm, rfl⟩
    exact ⟨m.id, idOf?_eq_some_iff.2 ⟨m.element, get?_id_eq_some_iff.1 hm, rfl⟩, hm⟩

/-- Looking a name up gives the element of this name. -/
@[simp] theorem lookup_name_eq_ok {name : String} {m : Member α} :
    atlas.lookup (.name name) = .ok m ↔ atlas.get? m.id = some m ∧ m.element.name = name := by
  rw [← named?_eq_some_iff]
  unfold lookup
  cases h : atlas.named? name <;> simp [h]

/-- Looking a name up fails if no element has it. -/
@[simp] theorem lookup_name_eq_error {name : String} {error : LookupError} :
    atlas.lookup (.name name) = .error error ↔
      (∀ e ∈ atlas.elements, e.name ≠ name) ∧ error = .unknownElement name := by
  have hnone : atlas.named? name = none ↔ ∀ e ∈ atlas.elements, e.name ≠ name := by
    constructor
    · rintro hnone e he rfl
      obtain ⟨i, hi⟩ := List.mem_iff_getElem?.1 he
      have hget : atlas.get? (Member.mk ⟨i⟩ e).id = some ⟨⟨i⟩, e⟩ := get?_id_eq_some_iff.2 hi
      rw [named?_eq_some_iff.2 ⟨hget, rfl⟩] at hnone
      cases hnone
    · intro hall
      rw [Option.eq_none_iff_forall_not_mem]
      intro m hm
      obtain ⟨hget, hname⟩ := named?_eq_some_iff.1 hm
      exact hall _ (List.mem_of_getElem? (get?_id_eq_some_iff.1 hget)) hname
  rw [← hnone]
  unfold lookup
  cases h : atlas.named? name with
  | none => simp [h, eq_comm]
  | some m => simp [h]

/-- Two elements of an atlas are the same by name only if they are at the same place. -/
theorem sameAs_iff {m n : Member α} (hm : atlas.get? m.id = some m)
    (hn : atlas.get? n.id = some n) : m.element.sameAs n.element = true ↔ m.id = n.id := by
  rw [Element.sameAs, beq_iff_eq]
  constructor
  · intro heq
    have := named?_eq_some_iff.2 ⟨hm, heq⟩
    rw [named?_eq_some_iff.2 ⟨hn, rfl⟩] at this
    cases this
    rfl
  · intro heq
    rw [heq, hn] at hm
    cases hm
    rfl

end

/-- Looking an index up gives the element at this place. -/
@[simp] theorem lookup_index_eq_ok {atlas : Atlas α} {n : Nat} {m : Member α} :
    atlas.lookup (.index n) = .ok m ↔ atlas.get? m.id = some m ∧ m.id.index = n := by
  have hid : ∀ m', atlas.get? ⟨n⟩ = some m' → m'.id = ⟨n⟩ := by
    intro m' hm'
    obtain ⟨e, -, rfl⟩ := Option.map_eq_some_iff.1 hm'
    rfl
  have hlookup : atlas.lookup (.index n) = .ok m ↔ atlas.get? ⟨n⟩ = some m := by
    unfold lookup
    cases h : atlas.get? ⟨n⟩ <;> simp [h]
  rw [hlookup]
  constructor
  · intro hm
    rw [hid m hm]
    exact ⟨hm, rfl⟩
  · rintro ⟨hm, rfl⟩
    exact hm

/-- The atlas of definitions resolves them. -/
theorem resolves_of_ofDefinitions {definitions : List (Definition α)} {strings : StringTable}
    {atlas : Atlas α} (h : ofDefinitions definitions strings = .ok atlas) :
    atlas.Resolves definitions strings := by
  exact {
    elements := (ofDefinitions_eq_ok.1 h).imp fun _ _ => Definition.resolvedIn_of_resolve
    idOf := fun _ _ => idOf?_eq_some_iff
    named := fun _ _ => named?_eq_some_iff
    lookup_name := fun _ _ => lookup_name_eq_ok
    lookup_index := fun _ _ => lookup_index_eq_ok
    sameAs := fun _ _ => sameAs_iff }

/-- An element of an atlas is the resolution of a definition. -/
theorem Resolves.exists_definition {atlas : Atlas α} {definitions : List (Definition α)}
    {strings : StringTable} (h : atlas.Resolves definitions strings) {m : Member α}
    (hm : atlas.get? m.id = some m) :
    ∃ d ∈ definitions, d.ResolvedIn atlas strings m.element := by
  obtain ⟨hlt, heq⟩ := List.getElem?_eq_some_iff.1 (get?_id_eq_some_iff.1 hm)
  obtain ⟨hlength, hget⟩ := List.forall₂_iff_get.1 h.elements
  have hresolved := hget m.id.index (hlength ▸ hlt) hlt
  rw [List.get_eq_getElem, List.get_eq_getElem, heq] at hresolved
  exact ⟨_, List.getElem_mem _, hresolved⟩

/-- The definitions that make an atlas are those that are closed. -/
theorem exists_ofDefinitions_iff {definitions : List (Definition α)} {strings : StringTable} :
    (∃ atlas, ofDefinitions definitions strings = .ok atlas) ↔ Closed definitions := by
  refine ⟨fun ⟨atlas, h⟩ => closed_of_ofDefinitions h, fun hclosed => ?_⟩
  cases h : ofDefinitions definitions strings with
  | ok atlas => exact ⟨atlas, rfl⟩
  | error error => exact absurd hclosed (ofDefinitions_eq_error.1 h).not_closed

/-- Resolution is exact: it succeeds on closed definitions only and on all of them, its result
resolves them, and its error is their first fault. -/
theorem ofDefinitions_exact (definitions : List (Definition α)) (strings : StringTable) :
    ((∃ atlas, ofDefinitions definitions strings = .ok atlas) ↔ Closed definitions) ∧
    (∀ atlas, ofDefinitions definitions strings = .ok atlas →
      atlas.Resolves definitions strings) ∧
    (∀ error, ofDefinitions definitions strings = .error error ↔ FirstFault definitions error) :=
  ⟨exists_ofDefinitions_iff, fun _ => resolves_of_ofDefinitions, fun _ => ofDefinitions_eq_error⟩

end Atlas

end ElementAtlas
