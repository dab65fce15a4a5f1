import ElementAtlas.KeyIndex
import ElementAtlas.Markup

/-!
# String tables

A string table maps keys to texts and keeps the keys in the order in which they first came. The
texts stand in a list of entries, and an index gives the place of each key in that list. The texts
hold markup, which is stripped when a text is looked up for display.

An insertion changes the entries and the index in one of two ways, and keeps them in step
(`Contents.Consistent.insert`).
-/

namespace ElementAtlas

namespace StringTable

/-- What a table holds: keys with their texts, and keys with the places of their entries. -/
structure Contents where
  entries : List (String × String)
  index : List (String × Nat)

namespace Contents

/-- The keys of the entries, in their order. -/
def keys (contents : Contents) : List String := contents.entries.map (·.1)

/-- The contents with the text of a key set. A key that is in the index has its text replaced where
its entry stands, and any other key has an entry added at the end. -/
def insert (contents : Contents) (key text : String) : Contents :=
  match contents.index.lookup key with
  | some place =>
    { contents with entries := contents.entries.modify place fun entry => (entry.1, text) }
  | none =>
    ⟨contents.entries ++ [(key, text)], contents.index ++ [(key, contents.entries.length)]⟩

/-- No two entries have one key, and the index has every key, with the place of its entry. -/
structure Consistent (contents : Contents) : Prop where
  nodup : contents.keys.Nodup
  index_eq : contents.index = contents.keys.zipIdx

/-- Consistent contents have an index of their keys. -/
theorem Consistent.indexes {contents : Contents} (h : contents.Consistent) :
    Indexes contents.index contents.keys := ⟨h.nodup, h.index_eq⟩

/-- In a consistent table a key is found at a place if and only if the entry there is its own. -/
theorem Consistent.lookup_eq_some_iff {contents : Contents} (h : contents.Consistent) {key : String}
    {place : Nat} : contents.index.lookup key = some place ↔ contents.keys[place]? = some key :=
  h.indexes.lookup_eq_some_iff

/-- The keys that are not found in a consistent table are those that no entry has. -/
theorem Consistent.lookup_eq_none_iff {contents : Contents} (h : contents.Consistent)
    {key : String} : contents.index.lookup key = none ↔ key ∉ contents.keys :=
  h.indexes.lookup_eq_none_iff

/-- Another text for the entry at a place moves no key. -/
@[simp] theorem keys_modify (entries : List (String × String)) (place : Nat) (text : String) :
    (entries.modify place fun entry => (entry.1, text)).map (·.1) = entries.map (·.1) := by
  refine List.ext_getElem? fun other => ?_
  rw [List.getElem?_map, List.getElem?_modify, List.getElem?_map]
  cases entries[other]? with
  | none => rfl
  | some entry => by_cases h : place = other <;> simp [h]

/-- Setting a text moves no key, and a new key comes last. -/
theorem Consistent.keys_insert {contents : Contents} (h : contents.Consistent)
    (key text : String) : (contents.insert key text).keys =
      if key ∈ contents.keys then contents.keys else contents.keys ++ [key] := by
  rw [insert]
  cases hlookup : contents.index.lookup key with
  | none =>
    rw [if_neg (h.lookup_eq_none_iff.1 hlookup)]
    exact List.map_append
  | some place =>
    rw [if_pos (List.mem_of_getElem? (h.lookup_eq_some_iff.1 hlookup))]
    exact keys_modify contents.entries place text

/-- Every insertion keeps the entries and the index in step. -/
theorem Consistent.insert {contents : Contents} (h : contents.Consistent) (key text : String) :
    (contents.insert key text).Consistent := by
  have hkeys := h.keys_insert key text
  rw [Contents.insert] at hkeys ⊢
  cases hlookup : contents.index.lookup key with
  | none =>
    have hkey : key ∉ contents.keys := h.lookup_eq_none_iff.1 hlookup
    simp only [hlookup, if_neg hkey] at hkeys
    have hindexes := h.indexes.concat hkey
    rw [← hkeys, keys, List.length_map] at hindexes
    exact ⟨hindexes.nodup, hindexes.index_eq⟩
  | some place =>
    simp only [hlookup, if_pos (List.mem_of_getElem? (h.lookup_eq_some_iff.1 hlookup))] at hkeys
    exact ⟨hkeys ▸ h.nodup, hkeys ▸ h.index_eq⟩

end Contents

end StringTable

/-- Texts by their keys, in the order in which the keys came. -/
structure StringTable extends StringTable.Contents where
  consistent : toContents.Consistent

namespace StringTable

/-- The table without entries. -/
def empty : StringTable := ⟨⟨[], []⟩, .nil, rfl⟩

instance : EmptyCollection StringTable := ⟨empty⟩

/-- The table with the text of a key set. -/
def insert (table : StringTable) (key text : String) : StringTable :=
  ⟨table.toContents.insert key text, table.consistent.insert key text⟩

/-- The table of the given pairs, inserted one after another. -/
def ofList (pairs : List (String × String)) : StringTable :=
  pairs.foldl (fun table (key, text) => table.insert key text) ∅

def size (table : StringTable) : Nat := table.entries.length

def isEmpty (table : StringTable) : Bool := table.entries.isEmpty

/-- The place of the entry of a key. -/
def place? (table : StringTable) (key : String) : Option Nat := table.index.lookup key

/-- The text of a key with its markup. -/
def getRaw? (table : StringTable) (key : String) : Option String :=
  (table.place? key).bind fun place => table.entries[place]?.map (·.2)

/-- The text of a key for display. -/
def get? (table : StringTable) (key : String) : Option String :=
  (table.getRaw? key).map Markup.strip

/-- The keys with their texts for display. -/
def toList (table : StringTable) : List (String × String) :=
  table.entries.map fun (key, text) => (key, Markup.strip text)

end StringTable

end ElementAtlas
