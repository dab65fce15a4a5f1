import ElementAtlas.Atlas.Lookup

/-!
# Names and places

The names of an atlas are distinct, and its index has the place of each of them. So a place and its
name determine each other (`Atlas.idOf?_eq_some_iff`), and with them the ways to address an element:
by its place, by its name, and by a key of either kind.
-/

namespace ElementAtlas

/-! ## Places -/

section
variable {index : List (String × Nat)} {names : List String} {name : String}

/-- The place of a name in an index is the only one that holds it. -/
theorem Indexes.placeOf?_eq_some_iff (h : Indexes index names) {id : ElementId} :
    placeOf? index name = some id ↔ names[id.index]? = some name := by
  rw [placeOf?, Option.map_eq_some_iff, ← h.lookup_eq_some_iff]
  constructor
  · rintro ⟨place, hplace, rfl⟩
    exact hplace
  · exact fun hplace => ⟨id.index, hplace, rfl⟩

/-- The names without a place are those that the index lacks. -/
theorem Indexes.placeOf?_eq_none_iff (h : Indexes index names) :
    placeOf? index name = none ↔ name ∉ names := by
  rw [placeOf?, Option.map_eq_none_iff, h.lookup_eq_none_iff]

end

namespace Atlas

variable {α : Type} {atlas : Atlas α} {id : ElementId} {name : String}

/-- The element at a place has the name. -/
def NamedAt (atlas : Atlas α) (id : ElementId) (name : String) : Prop :=
  ∃ e, atlas.elements[id.index]? = some e ∧ e.name = name

/-- An element has a name where the name stands in the list of names. -/
theorem namedAt_iff :
    atlas.NamedAt id name ↔ (atlas.elements.map (·.name))[id.index]? = some name := by
  rw [List.getElem?_map, Option.map_eq_some_iff]
  rfl

/-- A name is found at a place if and only if the element there has it. -/
@[simp] theorem idOf?_eq_some_iff : atlas.idOf? name = some id ↔ atlas.NamedAt id name := by
  rw [idOf?, atlas.indexes.placeOf?_eq_some_iff, namedAt_iff]

end Atlas

end ElementAtlas
