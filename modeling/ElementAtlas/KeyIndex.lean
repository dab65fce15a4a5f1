/-!
# Indexes of keys

An index gives the places of keys in a list. It is kept beside the list, and what links the two is
that the keys are distinct and the index has each of them with its place (`Indexes`). String tables
have an index of their keys, and atlases one of the names of their elements.
-/

namespace ElementAtlas

/-- No two of the keys are equal, and the index has every key, with its place. -/
structure Indexes (index : List (String × Nat)) (keys : List String) : Prop where
  nodup : keys.Nodup
  index_eq : index = keys.zipIdx

namespace Indexes

/-- The empty index has no keys. -/
theorem nil : Indexes [] [] := ⟨.nil, rfl⟩

variable {index : List (String × Nat)} {keys : List String} {key : String} {place : Nat}

/-- A key is found at a place if and only if it stands there. -/
theorem lookup_eq_some_iff (h : Indexes index keys) :
    index.lookup key = some place ↔ keys[place]? = some key := by
  have hplace {place : Nat} (hlookup : index.lookup key = some place) :
      keys[place]? = some key := by
    obtain ⟨before, after, hsplit, -⟩ := List.lookup_eq_some_iff.1 hlookup
    have hmem : (key, place) ∈ keys.zipIdx := by
      rw [← h.index_eq, hsplit]
      exact List.mem_append_right _ (.head _)
    exact List.mem_zipIdx_iff_getElem?.1 hmem
  refine ⟨hplace, fun hkey => ?_⟩
  cases hlookup : index.lookup key with
  | none =>
    have hmem : (key, place) ∈ index := h.index_eq ▸ List.mem_zipIdx_iff_getElem?.2 hkey
    exact absurd (List.lookup_eq_none_iff.1 hlookup _ hmem) (by simp)
  | some found =>
    have hfound := hplace hlookup
    obtain ⟨hlt, -⟩ := List.getElem?_eq_some_iff.1 hfound
    rw [(List.getElem?_inj hlt h.nodup).1 (hfound.trans hkey.symm)]

/-- The keys that are not found are those that the list lacks. -/
theorem lookup_eq_none_iff (h : Indexes index keys) : index.lookup key = none ↔ key ∉ keys := by
  rw [Option.eq_none_iff_forall_ne_some, List.mem_iff_getElem?]
  exact ⟨fun hnone ⟨place, hkey⟩ => hnone place (h.lookup_eq_some_iff.2 hkey),
    fun hnot place hsome => hnot ⟨place, h.lookup_eq_some_iff.1 hsome⟩⟩

/-- A new key is added at the next place. -/
theorem concat (h : Indexes index keys) (hkey : key ∉ keys) :
    Indexes (index ++ [(key, keys.length)]) (keys ++ [key]) := by
  refine ⟨List.nodup_append.2 ⟨h.nodup, by simp, fun other hother new hnew => ?_⟩, ?_⟩
  · rintro rfl
    exact hkey (List.mem_singleton.1 hnew ▸ hother)
  · rw [List.zipIdx_append, ← h.index_eq, Nat.zero_add]
    rfl

end Indexes

/-- Adds keys to an index, each at the next place, and fails with the first one that is there
already. -/
def addKeys (index : List (String × Nat)) : List String → Except String (List (String × Nat))
  | [] => .ok index
  | key :: keys =>
    match index.lookup key with
    | some _ => .error key
    | none => addKeys (index ++ [(key, index.length)]) keys

/-- The index of some keys, unless one of them occurs twice. -/
def indexKeys (keys : List String) : Except String (List (String × Nat)) := addKeys [] keys

section
variable {index new : List (String × Nat)} {old keys : List String} {key : String}

/-- The index that results is that of all keys, the old ones before the new ones. -/
theorem Indexes.of_addKeys (h : Indexes index old) (hnew : addKeys index keys = .ok new) :
    Indexes new (old ++ keys) := by
  induction keys generalizing index old with
  | nil =>
    cases hnew
    rwa [List.append_nil]
  | cons key keys ih =>
    rw [addKeys] at hnew
    cases hlookup : index.lookup key with
    | some place =>
      rw [hlookup] at hnew
      cases hnew
    | none =>
      have hlength : index.length = old.length := by rw [h.index_eq, List.length_zipIdx]
      simp only [hlookup, hlength] at hnew
      have hrest := ih (h.concat (h.lookup_eq_none_iff.1 hlookup)) hnew
      rwa [List.append_assoc] at hrest

/-- Keys are not added if one of them follows distinct ones and is an old one or among these. -/
theorem Indexes.addKeys_eq_error_iff (h : Indexes index old) :
    addKeys index keys = .error key ↔ ∃ before after, keys = before ++ key :: after ∧
      (old ++ before).Nodup ∧ key ∈ old ++ before := by
  induction keys generalizing index old with
  | nil => simp [addKeys]
  | cons first keys ih =>
    rw [addKeys]
    cases hlookup : index.lookup first with
    | some place =>
      have hfirst : first ∈ old := List.mem_of_getElem? (h.lookup_eq_some_iff.1 hlookup)
      simp only [Except.error.injEq]
      constructor
      · rintro rfl
        exact ⟨[], keys, rfl, by simpa using h.nodup, by simpa using hfirst⟩
      · rintro ⟨_ | ⟨other, before⟩, after, heq, hnodup, -⟩
        · exact (List.cons.inj heq).1
        · cases heq
          exact absurd rfl ((List.nodup_append.1 hnodup).2.2 _ hfirst _ (.head _))
    | none =>
      have hfirst : first ∉ old := h.lookup_eq_none_iff.1 hlookup
      have hlength : index.length = old.length := by rw [h.index_eq, List.length_zipIdx]
      simp only [hlength, ih (h.concat hfirst), List.append_assoc, List.singleton_append]
      constructor
      · rintro ⟨before, after, rfl, hnodup, hmem⟩
        exact ⟨first :: before, after, rfl, hnodup, hmem⟩
      · rintro ⟨_ | ⟨other, before⟩, after, heq, hnodup, hmem⟩
        · cases heq
          exact absurd (by simpa using hmem) hfirst
        · cases heq
          exact ⟨before, after, rfl, hnodup, hmem⟩

/-- Distinct keys have an index, and it has each of them with its place. -/
theorem indexes_of_indexKeys (h : indexKeys keys = .ok new) : Indexes new keys :=
  Indexes.nil.of_addKeys h

/-- Keys have no index because of the first one that occurs before itself. -/
theorem indexKeys_eq_error_iff :
    indexKeys keys = .error key ↔ ∃ before after, keys = before ++ key :: after ∧ before.Nodup ∧
      key ∈ before :=
  Indexes.nil.addKeys_eq_error_iff

end

end ElementAtlas
