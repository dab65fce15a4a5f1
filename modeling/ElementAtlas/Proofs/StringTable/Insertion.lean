import Mathlib.Data.Finset.Card
import Mathlib.Data.List.Dedup
import ElementAtlas.Proofs.StringTable.Resumption

/-!
# Tables as ordered maps

However a table is made, it is made by inserting pairs, one after another: on their own, from a
list, or as the entries of a template that are complete when they end (`Made`). A line of a template
inserts the pair of the entry that it ends (`Template.Pending.table_take`), so by induction a
template is the list of these pairs (`Template.Pending.table_foldl`), and a table is the table of
the pairs that were inserted, whatever the way (`Made.eq_ofList`).

The pairs determine the table. Its keys are those of the pairs, each at the place of its first
insertion, the text of a key is the one that was inserted last, and the index gives the place of
each key and has no other keys (`StringTable.insertion_ordered`).
-/

namespace ElementAtlas

namespace Template

/-! ## What the reading of a template inserts -/

/-- Whether a line ends the entry that is being read. -/
def Pending.endsAt (p : Pending) (line : Line) : Bool :=
  match line.keyword with
  | some .msgctxt | some .msgstr => true
  | some .msgid => p.id.isSome
  | none => false

/-- The pair of the entry that is being read, if it has both a key and a text. -/
def Pending.complete? (p : Pending) : Option (String × String) :=
  p.context.bind fun key => p.id.map fun text => (key, text)

/-- The pairs of the entries that end with some lines or after them, in their order. -/
def Pending.pairs (p : Pending) : List Line → List (String × String)
  | [] => p.complete?.toList
  | line :: ls => (if p.endsAt line then p.complete?.toList else []) ++ (p.take line).pairs ls

/-- The pairs of the complete entries of a template. -/
def pairs (text : String) : List (String × String) := Pending.start.pairs (lines text.toList)

/-- Ending an entry inserts its pair, if it is complete, and nothing else. -/
@[simp] theorem Pending.table_flush (p : Pending) :
    p.flush.table = p.table.update p.complete?.toList := by
  obtain ⟨table, context, id, field⟩ := p
  cases context with
  | none => rfl
  | some key => cases id <;> rfl

/-- A line inserts the pair of the entry that it ends. -/
theorem Pending.table_take (p : Pending) (line : Line) :
    (p.take line).table =
      p.table.update (if p.endsAt line then p.complete?.toList else []) := by
  obtain ⟨keyword, text⟩ := line
  cases keyword with
  | none => rcases p with ⟨table, context, id, context | id | other⟩ <;> rfl
  | some keyword =>
    have hflush := p.table_flush
    cases keyword with
    | msgctxt | msgstr => exact hflush
    | msgid =>
      obtain ⟨table, context, _ | id, field⟩ := p
      · rfl
      · exact hflush

/-- Reading lines inserts the pairs of the entries that end with them or after them. -/
theorem Pending.table_foldl (p : Pending) (ls : List Line) :
    (ls.foldl take p).flush.table = p.table.update (p.pairs ls) := by
  induction ls generalizing p with
  | nil => exact p.table_flush
  | cons line ls ih =>
    rw [List.foldl_cons, ih, table_take, pairs, StringTable.update_append]

end Template

namespace StringTable

/-! ## The tables that can be made -/

/-- A table that was made by inserting some pairs, in their order: by single insertions into a table
that was made from a list or from a template. -/
inductive Made : StringTable → List (String × String) → Prop
  | ofList (pairs : List (String × String)) : Made (ofList pairs) pairs
  | ofTemplate (text : String) : Made (ofTemplate text) (Template.pairs text)
  | insert {table : StringTable} {pairs : List (String × String)} (key text : String) :
      Made table pairs → Made (table.insert key text) (pairs ++ [(key, text)])

/-- The pair is the last one with its key. -/
def LastFor (pairs : List (String × String)) (key text : String) : Prop :=
  ∃ earlier later, pairs = earlier ++ (key, text) :: later ∧ key ∉ later.map (·.1)

/-- The table is the ordered map of the pairs that were inserted into it: the index has the keys of
the entries, each with the place of its only entry; the keys are those of the pairs, in the order of
their first insertions, and have the texts of their last ones; and an insertion for a key that is
there changes its entry alone. -/
structure Records (table : StringTable) (pairs : List (String × String)) : Prop where
  nodup : table.keys.Nodup
  index_keys : table.index.map (·.1) = table.keys
  place_iff : ∀ key place, table.place? key = some place ↔
    ∃ text, table.entries[place]? = some (key, text)
  keys_eq : table.keys = (pairs.map (·.1)).eraseDups
  getRaw?_iff : ∀ key text, table.getRaw? key = some text ↔ LastFor pairs key text
  getRaw?_none_iff : ∀ key, table.getRaw? key = none ↔ key ∉ pairs.map (·.1)
  size_eq : table.size = (pairs.map (·.1)).toFinset.card
  replace : ∀ key text place, table.place? key = some place →
    (table.insert key text).entries = table.entries.set place (key, text) ∧
      (table.insert key text).index = table.index

/-- Every table that can be made is the table of the pairs as a list. -/
theorem Made.eq_ofList {table : StringTable} {pairs : List (String × String)}
    (h : Made table pairs) : table = .ofList pairs := by
  induction h with
  | ofList pairs => rfl
  | ofTemplate text => exact Template.Pending.table_foldl .start (Template.lines text.toList)
  | insert key text _ ih =>
    rw [ih]
    exact (update_append ∅ _ [(key, text)]).symm

/-- The last text of a key is the first one from behind. -/
theorem lookup_reverse_eq_some_iff {pairs : List (String × String)} {key text : String} :
    pairs.reverse.lookup key = some text ↔ LastFor pairs key text := by
  rw [List.lookup_eq_some_iff]
  constructor
  · rintro ⟨after, before, hsplit, hafter⟩
    refine ⟨before.reverse, after.reverse, ?_, fun hkey => ?_⟩
    · rw [← List.reverse_reverse pairs, hsplit]
      simp
    · obtain ⟨pair, hpair, rfl⟩ := List.mem_map.1 hkey
      exact bne_iff_ne.1 (hafter pair (List.mem_reverse.1 hpair)) rfl
  · rintro ⟨earlier, later, rfl, hlater⟩
    refine ⟨later.reverse, earlier.reverse, by simp, fun pair hpair => bne_iff_ne.2 ?_⟩
    rintro rfl
    exact hlater (List.mem_map_of_mem (List.mem_reverse.1 hpair))

/-- Every table that can be made is the ordered map of what was inserted. -/
theorem insertion_ordered {table : StringTable} {pairs : List (String × String)}
    (h : Made table pairs) : Records table pairs := by
  have hupdate : table = update ∅ pairs := h.eq_ofList
  have hkeys : table.keys = (pairs.map (·.1)).eraseDups := by
    rw [hupdate, keys_update_pairs]
    simp [Contents.keys, EmptyCollection.emptyCollection, empty]
  have htexts (key : String) : table.getRaw? key = pairs.reverse.lookup key := by
    rw [hupdate, getRaw?_update_pairs]
    exact Option.or_none
  have hmem {key : String} : key ∈ table.keys ↔ key ∈ pairs.map (·.1) := by
    rw [hkeys, List.mem_eraseDups]
  exact {
    nodup := table.consistent.nodup
    index_keys := by rw [table.consistent.index_eq, List.zipIdx_map_fst]
    place_iff := fun key place => by
      rw [place?_eq_some_iff, Contents.keys, List.getElem?_map, Option.map_eq_some_iff, Prod.exists]
      simp
    keys_eq := hkeys
    getRaw?_iff := fun key text => by rw [htexts, lookup_reverse_eq_some_iff]
    getRaw?_none_iff := fun key => getRaw?_eq_none_iff.trans (not_congr hmem)
    size_eq := by
      have hset : (pairs.map (·.1)).toFinset = table.keys.toFinset :=
        Finset.ext fun key => by rw [List.mem_toFinset, List.mem_toFinset, hmem]
      rw [hset, List.toFinset_card_of_nodup table.consistent.nodup, Contents.keys, List.length_map,
        size]
    replace := fun key text place hfound => by
      rw [contents_insert_of_place hfound text]
      exact ⟨rfl, rfl⟩ }

/-- The entries of a template, two of them with one key, and a third text for that key. -/
theorem insertion_ordered_template :
    Made ((ofTemplate ("msgctxt \"A\"\nmsgid \"one\"\nmsgctxt \"B\"\nmsgid \"two\"\n" ++
        "msgctxt \"A\"\nmsgid \"three\"\n")).insert "A" "four")
      [("A", "one"), ("B", "two"), ("A", "three"), ("A", "four")] ∧
    Records ((ofTemplate ("msgctxt \"A\"\nmsgid \"one\"\nmsgctxt \"B\"\nmsgid \"two\"\n" ++
        "msgctxt \"A\"\nmsgid \"three\"\n")).insert "A" "four")
      [("A", "one"), ("B", "two"), ("A", "three"), ("A", "four")] := by
  have hpairs : Template.pairs ("msgctxt \"A\"\nmsgid \"one\"\nmsgctxt \"B\"\nmsgid \"two\"\n" ++
      "msgctxt \"A\"\nmsgid \"three\"\n") = [("A", "one"), ("B", "two"), ("A", "three")] := by
    decide +kernel
  have hmade := Made.insert "A" "four" (hpairs ▸ Made.ofTemplate _)
  exact ⟨hmade, insertion_ordered hmade⟩

end StringTable

end ElementAtlas
