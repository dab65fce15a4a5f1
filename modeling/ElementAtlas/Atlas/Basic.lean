import ElementAtlas.Element.Basic
import ElementAtlas.KeyIndex
import ElementAtlas.StringTable.Basic

/-!
# Atlases

An atlas is a list of elements that refer to each other by their places in it, with an index of
their names. It is made from definitions, whose references are names: no name may be defined twice,
and every target of a transition has to be defined. A byproduct need not be; it then has a name but
no place.

The index is built from the names of the definitions, and the references are looked up in it. The
elements have the names of their definitions (`names_of_mapM_resolve`), so it is an index of the
names of the elements too, which is what an atlas carries.
-/

namespace ElementAtlas

/-- The place of an element in an atlas. -/
structure ElementId where
  index : Nat
deriving DecidableEq, Repr

def ElementId.text (id : ElementId) : String := "#" ++ toString id.index

/-- Why definitions make no atlas. -/
inductive ResolveError where
  | unresolvedReference (element target : String)
  | duplicateElement (name : String)
deriving DecidableEq, Repr

/-- What is said about definitions without an atlas. -/
def ResolveError.message : ResolveError → String
  | .unresolvedReference element target => s!"{element} transitions to unknown element '{target}'"
  | .duplicateElement name => s!"element '{name}' is defined more than once"

/-- Elements that refer to each other by place, and the index of their names. -/
structure Atlas (α : Type) where
  elements : List (Element α ElementId)
  index : List (String × Nat)
  indexes : Indexes index (elements.map (·.name))

/-- An element of an atlas, with its place. -/
structure Member (α : Type) where
  id : ElementId
  element : Element α ElementId

variable {α : Type}

/-- The place of a name, in an index of names. -/
def placeOf? (index : List (String × Nat)) (name : String) : Option ElementId :=
  (index.lookup name).map .mk

/-- The transition with its names replaced by places. -/
def Transition.resolve (index : List (String × Nat)) (owner : String) (t : Transition α Unit) :
    Except ResolveError (Transition α ElementId) :=
  match placeOf? index t.targetName with
  | none => .error (.unresolvedReference owner t.targetName)
  | some target => .ok { t with target, byproduct := t.byproductName.bind (placeOf? index) }

/-- A transition that may be absent, with its names replaced by places. -/
def Transition.resolve? (index : List (String × Nat)) (owner : String) :
    Option (Transition α Unit) → Except ResolveError (Option (Transition α ElementId))
  | none => .ok none
  | some t => (t.resolve index owner).map some

/-- The definition as an element: the names of its transitions replaced by places, and its display
name by the text that the string table has for it. -/
def Definition.resolve (index : List (String × Nat)) (strings : StringTable) (d : Definition α) :
    Except ResolveError (Element α ElementId) := do
  let lowTransition ← Transition.resolve? index d.name d.lowTransition
  let highTransition ← Transition.resolve? index d.name d.highTransition
  return { d with
    displayName := (strings.get? d.displayName).getD d.displayName, lowTransition, highTransition }

/-- An element keeps the name of its definition. -/
theorem Definition.name_of_resolve {index : List (String × Nat)} {strings : StringTable}
    {d : Definition α} {e : Element α ElementId} (h : d.resolve index strings = .ok e) :
    e.name = d.name := by
  unfold Definition.resolve at h
  cases hlow : Transition.resolve? index d.name d.lowTransition with
  | error error => simp [hlow, bind, Except.bind] at h
  | ok low =>
    cases hhigh : Transition.resolve? index d.name d.highTransition with
    | error error => simp [hlow, hhigh, bind, Except.bind] at h
    | ok high =>
      simp only [hlow, hhigh, bind, Except.bind, pure, Except.pure, Except.ok.injEq] at h
      rw [← h]

/-- Elements keep the names of their definitions. -/
theorem names_of_mapM_resolve {index : List (String × Nat)} {strings : StringTable}
    {definitions : List (Definition α)} {elements : List (Element α ElementId)}
    (h : definitions.mapM (Definition.resolve index strings) = .ok elements) :
    elements.map (·.name) = definitions.map (·.name) := by
  induction definitions generalizing elements with
  | nil => cases h; rfl
  | cons d definitions ih =>
    rw [List.mapM_cons] at h
    cases he : d.resolve index strings with
    | error error => simp [he, bind, Except.bind] at h
    | ok e =>
      cases hrest : definitions.mapM (Definition.resolve index strings) with
      | error error => simp [he, hrest, bind, Except.bind] at h
      | ok rest =>
        simp only [he, hrest, bind, Except.bind, pure, Except.pure, Except.ok.injEq] at h
        rw [← h, List.map_cons, List.map_cons, Definition.name_of_resolve he, ih hrest]

namespace Atlas

/-- The atlas of some definitions, in their order. -/
def ofDefinitions (definitions : List (Definition α)) (strings : StringTable) :
    Except ResolveError (Atlas α) :=
  match hindex : indexKeys (definitions.map (·.name)) with
  | .error name => .error (.duplicateElement name)
  | .ok index =>
    match helements : definitions.mapM (Definition.resolve index strings) with
    | .error error => .error error
    | .ok elements =>
      .ok ⟨elements, index, names_of_mapM_resolve helements ▸ indexes_of_indexKeys hindex⟩

def size (atlas : Atlas α) : Nat := atlas.elements.length

def isEmpty (atlas : Atlas α) : Bool := atlas.elements.isEmpty

/-- The elements with their places, in order. -/
def members (atlas : Atlas α) : List (Member α) :=
  atlas.elements.zipIdx.map fun (element, index) => ⟨⟨index⟩, element⟩

/-- The element at a place. -/
def get? (atlas : Atlas α) (id : ElementId) : Option (Member α) :=
  atlas.elements[id.index]?.map (⟨id, ·⟩)

/-- The place of the element with a name. -/
def idOf? (atlas : Atlas α) (name : String) : Option ElementId := placeOf? atlas.index name

/-- The element with a name. -/
def named? (atlas : Atlas α) (name : String) : Option (Member α) :=
  (atlas.idOf? name).bind atlas.get?

/-- The element that a transition leads to. -/
def target? (atlas : Atlas α) (t : Transition α ElementId) : Option (Member α) :=
  atlas.get? t.target

/-- The byproduct of a transition, if it is an element of the atlas. -/
def byproduct? (atlas : Atlas α) (t : Transition α ElementId) : Option (Member α) :=
  t.byproduct.bind atlas.get?

end Atlas

end ElementAtlas
