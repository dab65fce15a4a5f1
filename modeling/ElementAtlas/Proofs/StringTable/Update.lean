import Mathlib.Data.List.Basic
import Mathlib.Data.List.Induction
import ElementAtlas.StringTable.Basic

/-!
# Updating a string table

A table is determined by its keys and their texts (`StringTable.eq_of_keys`), since the index has
the keys at their places. Inserting pairs one after another sets the texts of the keys that the
table has and puts the keys that it lacks behind them, each where it first occurs, and the last text
of a key stays (`StringTable.keys_update_pairs`, `StringTable.getRaw?_update_pairs`). Pairs that are
the entries of a table, each key once, may stand for all insertions that made that table
(`StringTable.update_insert`).
-/

namespace ElementAtlas.StringTable

/-! ## Keys and their texts -/

/-- Tables are equal if their entries are. -/
theorem eq_of_entries {table other : StringTable} (h : table.entries = other.entries) :
    table = other := by
  have hindex : table.index = other.index := by
    rw [table.consistent.index_eq, other.consistent.index_eq, Contents.keys, h]
    rfl
  cases table with
  | mk contents consistent =>
    cases contents
    cases h
    cases hindex
    rfl

/-- A key has a place if it stands there. -/
theorem place?_eq_some_iff {table : StringTable} {key : String} {place : Nat} :
    table.place? key = some place ↔ table.keys[place]? = some key :=
  table.consistent.lookup_eq_some_iff

/-- A key has no place if it is not among the keys. -/
@[simp] theorem place?_eq_none_iff {table : StringTable} {key : String} :
    table.place? key = none ↔ key ∉ table.keys :=
  table.consistent.lookup_eq_none_iff

/-- The entry at the place of a key is its own. -/
theorem exists_entry {table : StringTable} {key : String} {place : Nat}
    (h : table.place? key = some place) : ∃ text, table.entries[place]? = some (key, text) := by
  rw [place?_eq_some_iff, Contents.keys, List.getElem?_map] at h
  obtain ⟨entry, hentry, rfl⟩ := Option.map_eq_some_iff.1 h
  exact ⟨entry.2, hentry⟩

/-- The place of a key is one of an entry. -/
theorem lt_length_of_place {table : StringTable} {key : String} {place : Nat}
    (h : table.place? key = some place) : place < table.entries.length := by
  obtain ⟨text, hentry⟩ := exists_entry h
  exact (List.getElem?_eq_some_iff.1 hentry).1

/-- A key has a text if and only if the entry at its place holds this text. -/
theorem getRaw?_eq_some_iff {table : StringTable} {key text : String} :
    table.getRaw? key = some text ↔
      ∃ place, table.place? key = some place ∧ table.entries[place]? = some (key, text) := by
  rw [getRaw?, Option.bind_eq_some_iff]
  refine exists_congr fun place => and_congr_right fun hplace => ?_
  obtain ⟨found, hentry⟩ := exists_entry hplace
  rw [hentry, Option.map_some, Option.some_inj, Option.some_inj, Prod.mk.injEq]
  exact (and_iff_right rfl).symm

/-- An entry of a table is what the table has for its key. -/
@[simp] theorem mem_entries_iff {table : StringTable} {key text : String} :
    (key, text) ∈ table.entries ↔ table.getRaw? key = some text := by
  rw [getRaw?_eq_some_iff, List.mem_iff_getElem?]
  refine exists_congr fun place => (and_iff_right_of_imp fun hentry => ?_).symm
  rw [place?_eq_some_iff, Contents.keys, List.getElem?_map, hentry, Option.map_some]

/-- A table has nothing for a key that is not among its keys. -/
@[simp] theorem getRaw?_eq_none_iff {table : StringTable} {key : String} :
    table.getRaw? key = none ↔ key ∉ table.keys := by
  simp only [Option.eq_none_iff_forall_ne_some, ne_eq, ← mem_entries_iff, Contents.keys,
    List.mem_map, Prod.exists, exists_and_right, exists_eq_right, not_exists]

/-- A key that is not in the table has no text. -/
@[simp] theorem getRaw?_eq_none {table : StringTable} {key : String} (h : key ∉ table.keys) :
    table.getRaw? key = none :=
  getRaw?_eq_none_iff.2 h

/-- The entries are the keys with their texts. -/
theorem entries_eq (table : StringTable) :
    table.entries.map (fun entry => (entry.1, some entry.2)) =
      table.keys.map fun key => (key, table.getRaw? key) := by
  rw [Contents.keys, List.map_map]
  refine List.map_congr_left fun entry hentry => ?_
  rw [Function.comp_apply, mem_entries_iff.1 hentry]

/-- A table is determined by its keys and their texts. -/
theorem eq_of_keys {table other : StringTable} (hkeys : table.keys = other.keys)
    (htexts : ∀ key, table.getRaw? key = other.getRaw? key) : table = other := by
  have hentries : table.entries.map (fun entry => (entry.1, some entry.2)) =
      other.entries.map fun entry => (entry.1, some entry.2) := by
    rw [entries_eq, entries_eq, hkeys]
    simp only [htexts]
  refine eq_of_entries ((List.map_inj_right fun entry entry' heq => ?_).1 hentries)
  rw [Prod.mk.injEq, Option.some_inj] at heq
  exact Prod.ext heq.1 heq.2

/-! ## Inserting a pair -/

/-- Inserting adds a key that is new behind the others. -/
@[simp] theorem keys_insert (table : StringTable) (key text : String) :
    (table.insert key text).keys =
      if key ∈ table.keys then table.keys else table.keys ++ [key] :=
  table.consistent.keys_insert key text

/-- Inserting into a table changes its contents. -/
theorem toContents_insert (table : StringTable) (key text : String) :
    (table.insert key text).toContents = table.toContents.insert key text :=
  rfl

/-- A key that the table has keeps its place, and nothing but its text is set. -/
theorem contents_insert_of_place {table : StringTable} {key : String} {place : Nat}
    (h : table.place? key = some place) (text : String) :
    (table.insert key text).toContents =
      ⟨table.entries.set place (key, text), table.index⟩ := by
  obtain ⟨found, hentry⟩ := exists_entry h
  have hmodify : table.entries.modify place (fun entry => (entry.1, text)) =
      table.entries.set place (key, text) := by
    rw [List.modify_eq_set_getElem?, hentry]
    rfl
  rw [place?] at h
  rw [toContents_insert, Contents.insert, h, ← hmodify]

/-- A key that the table lacks gets the place behind all others. -/
theorem contents_insert_of_not_mem {table : StringTable} {key : String} (h : key ∉ table.keys)
    (text : String) : (table.insert key text).toContents =
      ⟨table.entries ++ [(key, text)], table.index ++ [(key, table.size)]⟩ := by
  rw [toContents_insert, Contents.insert, table.consistent.lookup_eq_none_iff.2 h, size]

/-- The text of a key that has a place is replaced. -/
theorem getRaw?_insert_of_place {table : StringTable} {key : String} {place : Nat}
    (h : table.place? key = some place) (other text : String) :
    (table.insert key text).getRaw? other =
      if other = key then some text else table.getRaw? other := by
  rw [getRaw?, place?, contents_insert_of_place h text, ← place?]
  split
  next heq =>
    rw [heq, h, Option.bind_some, List.getElem?_set_self (lt_length_of_place h)]
    rfl
  next hne =>
    rw [getRaw?]
    refine Option.bind_congr fun found hother => ?_
    have hplaces : place ≠ found := by
      rintro rfl
      have hkeys := (place?_eq_some_iff.1 hother).symm.trans (place?_eq_some_iff.1 h)
      exact hne (Option.some_inj.1 hkeys)
    rw [List.getElem?_set_ne hplaces]

/-- The text of a key that has no place is added. -/
theorem getRaw?_insert_of_not_mem {table : StringTable} {key : String} (h : key ∉ table.keys)
    (other text : String) :
    (table.insert key text).getRaw? other =
      if other = key then some text else table.getRaw? other := by
  rw [getRaw?, place?, contents_insert_of_not_mem h text, List.lookup_append, ← place?]
  split
  next heq =>
    have hnone : table.place? other = none := place?_eq_none_iff.2 (heq ▸ h)
    rw [hnone, heq, List.lookup_cons_self, Option.none_or, Option.bind_some, size,
      List.getElem?_concat_length]
    rfl
  next hne =>
    have hnew : [(key, table.size)].lookup other = none := by
      simp [List.lookup_cons, beq_eq_false_iff_ne.2 hne]
    rw [hnew, Option.or_none, getRaw?]
    refine Option.bind_congr fun found hother => ?_
    rw [List.getElem?_append_left (lt_length_of_place hother)]

/-- The text of the inserted key is set, and the others stay. -/
@[simp] theorem getRaw?_insert (table : StringTable) (key other text : String) :
    (table.insert key text).getRaw? other =
      if other = key then some text else table.getRaw? other := by
  cases hplace : table.place? key with
  | none => exact getRaw?_insert_of_not_mem (place?_eq_none_iff.1 hplace) other text
  | some place => exact getRaw?_insert_of_place hplace other text

/-! ## Inserting pairs -/

/-- The table with some pairs inserted one after another. -/
def update (table : StringTable) (pairs : List (String × String)) : StringTable :=
  pairs.foldl (fun table (key, text) => table.insert key text) table

/-- An update inserts its first entry before the others. -/
@[simp]
theorem update_cons (table : StringTable) (key text : String) (pairs : List (String × String)) :
    table.update ((key, text) :: pairs) = (table.insert key text).update pairs :=
  rfl

/-- An update by more entries is one after another. -/
@[simp] theorem update_append (table : StringTable) (pairs more : List (String × String)) :
    table.update (pairs ++ more) = (table.update pairs).update more :=
  List.foldl_append

/-- The keys of the pairs follow those of the table, each where it first occurs. -/
theorem keys_update_pairs (table : StringTable) (pairs : List (String × String)) :
    (table.update pairs).keys =
      table.keys ++ (pairs.map (·.1)).eraseDups.filter fun key => key ∉ table.keys := by
  induction pairs using List.reverseRecOn with
  | nil => simp [update]
  | append_singleton pairs pair ih =>
    obtain ⟨key, text⟩ := pair
    have hlast : table.update (pairs ++ [(key, text)]) = (table.update pairs).insert key text :=
      update_append table pairs [(key, text)]
    have hknown : key ∈ table.keys ++ ((pairs.map (·.1)).eraseDups.filter (· ∉ table.keys)) ↔
        key ∈ table.keys ∨ key ∈ pairs.map (·.1) := by
      simp only [List.mem_append, List.mem_filter, List.mem_eraseDups, decide_eq_true_eq]
      exact or_congr_right' fun hnot => and_iff_left hnot
    have hnew : (([key].removeAll (pairs.map (·.1))).eraseDups.filter (· ∉ table.keys)) =
        if key ∈ table.keys ∨ key ∈ pairs.map (·.1) then [] else [key] := by
      by_cases hold : key ∈ table.keys <;> by_cases hpairs : key ∈ pairs.map (·.1) <;>
        simp [List.removeAll, List.eraseDups_cons, hold, hpairs]
    rw [hlast, keys_insert, ih, List.map_append, List.eraseDups_append, List.filter_append,
      List.map_singleton, hnew, ← List.append_assoc]
    simp only [hknown]
    split
    · rw [List.append_nil]
    · rfl

/-- The last of the texts that come with a key stays. -/
theorem getRaw?_update_pairs (table : StringTable) (pairs : List (String × String))
    (key : String) :
    (table.update pairs).getRaw? key = (pairs.reverse.lookup key).or (table.getRaw? key) := by
  induction pairs generalizing table with
  | nil => rfl
  | cons pair pairs ih =>
    obtain ⟨first, text⟩ := pair
    rw [update_cons, ih, getRaw?_insert, List.reverse_cons, List.lookup_append, Option.or_assoc]
    congr 1
    by_cases h : key = first
    · simp [h]
    · simp [h, List.lookup_cons, beq_eq_false_iff_ne.2 h]

/-! ## Inserting the entries of a table -/

/-- Different keys stay as they are when repetitions are left out. -/
theorem eraseDups_of_nodup {keys : List String} (h : keys.Nodup) : keys.eraseDups = keys := by
  induction keys with
  | nil => rfl
  | cons key keys ih =>
    obtain ⟨hkey, hrest⟩ := List.nodup_cons.1 h
    have hfilter : keys.filter (fun other => !other == key) = keys :=
      List.filter_eq_self.2 fun other hother => by
        simpa using fun heq : other = key => hkey (heq ▸ hother)
    rw [List.eraseDups_cons, hfilter, ih hrest]

/-- No key has a second entry that could hide its text. -/
@[simp] theorem lookup_entries (table : StringTable) (key : String) :
    table.entries.reverse.lookup key = table.getRaw? key := by
  cases hlookup : table.entries.reverse.lookup key with
  | none =>
    have hnone := List.lookup_eq_none_iff.1 hlookup
    refine (getRaw?_eq_none fun hkey => ?_).symm
    obtain ⟨entry, hentry, rfl⟩ := List.mem_map.1 hkey
    exact bne_iff_ne.1 (hnone entry (List.mem_reverse.2 hentry)) rfl
  | some text =>
    obtain ⟨before, after, hsplit, -⟩ := List.lookup_eq_some_iff.1 hlookup
    have hmem : (key, text) ∈ table.entries.reverse :=
      hsplit ▸ List.mem_append_right _ (.head _)
    exact (mem_entries_iff.1 (List.mem_reverse.1 hmem)).symm

/-- Keys keep their places, and those that come with the update follow in their order. -/
theorem keys_update (table other : StringTable) :
    (table.update other.entries).keys =
      table.keys ++ other.keys.filter fun key => key ∉ table.keys := by
  have hkeys : (other.entries.map (·.1)).eraseDups = other.keys :=
    eraseDups_of_nodup other.consistent.nodup
  rw [keys_update_pairs, hkeys]

/-- A key of the update has the text that comes with it, any other the text that it had. -/
@[simp] theorem getRaw?_update (table other : StringTable) (key : String) :
    (table.update other.entries).getRaw? key = (other.getRaw? key).or (table.getRaw? key) := by
  simp [getRaw?_update_pairs]

/-- Updating by a table with one more insertion is one more insertion. -/
@[simp] theorem update_insert (table other : StringTable) (key text : String) :
    table.update (other.insert key text).entries =
      (table.update other.entries).insert key text := by
  refine eq_of_keys ?_ fun found => ?_
  · rw [keys_update, keys_insert, keys_insert, keys_update]
    by_cases hold : key ∈ table.keys <;> by_cases hother : key ∈ other.keys <;>
      simp [hold, hother]
  · rw [getRaw?_update, getRaw?_insert, getRaw?_insert, getRaw?_update]
    split
    · rfl
    · rfl

end ElementAtlas.StringTable
