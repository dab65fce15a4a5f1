import ElementAtlas.StringTable.Template
import ElementAtlas.Proofs.StringTable.Update
import ElementAtlas.Proofs.Text.Lines

/-!
# Where the reading of a template starts afresh

A `msgctxt` line and a `msgstr` line end the entry that is being read, whatever it is: it is kept if
it is complete and forgotten if it is not, and the field that a continuation would extend is set
anew. So from such a line on, a template is read as if nothing had come before
(`Pending.take_of_separates`), and its entries update the table of those that have ended
(`Pending.foldl_onto`). Two templates one under the other are read one after the other
(`StringTable.ofTemplate_append`).
-/

namespace ElementAtlas

namespace Template

/-- The lines that count in a text which a line feed divides are those of its two parts. -/
theorem lines_append_feed (before after : List Char) :
    lines (before ++ '\n' :: after) = lines before ++ lines after := by
  rw [lines, Text.lines_append_feed, List.filterMap_append]
  rfl

/-- A line that ends the entry before it and begins none that reads on from it. -/
def Line.Separates (line : Line) : Prop :=
  line.keyword = some .msgctxt ∨ line.keyword = some .msgstr

instance (line : Line) : Decidable line.Separates :=
  inferInstanceAs (Decidable (line.keyword = some .msgctxt ∨ line.keyword = some .msgstr))

namespace Pending

/-! ## Reading onto a table -/

/-- What is pending, with the entries that have ended inserted into a table. -/
def onto (p : Pending) (table : StringTable) : Pending :=
  { p with table := table.update p.table.entries }

/-- Ending the entry that is pending comes after what was put into the table before it. -/
@[simp] theorem flush_onto (p : Pending) (table : StringTable) :
    (p.onto table).flush = p.flush.onto table := by
  obtain ⟨ended, context, id, field⟩ := p
  cases context with
  | none => rfl
  | some key =>
    cases id with
    | none => rfl
    | some text => simp only [flush, onto, StringTable.update_insert]

/-- Reading a line comes after what was put into the table before it. -/
@[simp] theorem take_onto (p : Pending) (table : StringTable) (line : Line) :
    (p.onto table).take line = (p.take line).onto table := by
  obtain ⟨keyword, text⟩ := line
  cases keyword with
  | none => rcases p with ⟨ended, context, id, context | id | other⟩ <;> rfl
  | some keyword =>
    have hflush := flush_onto p table
    cases keyword with
    | msgctxt =>
      exact congrArg (fun p : Pending => { p with context := some text, field := .context }) hflush
    | msgid =>
      rcases p with ⟨ended, context, _ | id, field⟩
      · rfl
      · exact congrArg (fun p : Pending => { p with id := some text, field := .id }) hflush
    | msgstr => exact congrArg (fun p : Pending => { p with field := .other }) hflush

/-- Lines are taken in the same way whatever table the entries are inserted into. -/
@[simp] theorem foldl_onto (p : Pending) (table : StringTable) (ls : List Line) :
    ls.foldl take (p.onto table) = (ls.foldl take p).onto table := by
  induction ls generalizing p with
  | nil => rfl
  | cons line ls ih => simp [ih]

/-! ## Starting afresh -/

/-- All that a separating line leaves of what is pending is the table with the entry it ends. -/
theorem take_of_separates (p : Pending) {line : Line} (h : line.Separates) :
    p.take line = (start.onto p.flush.table).take line := by
  have hflush : p.flush = { start.onto p.flush.table with field := p.field } := by
    obtain ⟨ended, context, id, field⟩ := p
    cases context with
    | none => rfl
    | some key => cases id <;> rfl
  rcases h with hkeyword | hkeyword
  · rw [take, take, hkeyword, hflush]
    rfl
  · rw [take, take, hkeyword, hflush]
    rfl

/-- Lines add the entries that they have on their own to the table, if the first of them leaves
nothing else of what is pending. -/
theorem table_foldl_of_take {p : Pending} {ls : List Line}
    (h : ∀ line ∈ ls.head?, p.take line = (start.onto p.flush.table).take line) :
    (ls.foldl take p).flush.table =
      p.flush.table.update (ls.foldl take start).flush.table.entries := by
  cases ls with
  | nil => rfl
  | cons line ls =>
    rw [List.foldl_cons, h line rfl, take_onto, foldl_onto, flush_onto, List.foldl_cons]
    rfl

/-- Lines that begin a new entry are read as a template of their own. -/
theorem table_foldl_of_separates (p : Pending) {ls : List Line}
    (h : ∀ line ∈ ls.head?, line.Separates) :
    (ls.foldl take p).flush.table =
      p.flush.table.update (ls.foldl take start).flush.table.entries :=
  table_foldl_of_take fun line hline => take_of_separates p (h line hline)

end Pending

end Template

namespace StringTable

open Template

/-- A template whose first line that counts is a `msgctxt` or a `msgstr` line may stand under any
text at all: its entries, in their order, update the table of the text above it. The keys of the
text above keep their places and the new ones follow; a key that has an entry in both has the text
of the lower one, and any other key the text that it has on its own. -/
theorem ofTemplate_append {before after : String}
    (h : ∀ line ∈ (lines after.toList).head?, line.Separates) :
    ofTemplate (before ++ "\n" ++ after) =
        (ofTemplate before).update (ofTemplate after).entries ∧
      (ofTemplate (before ++ "\n" ++ after)).keys =
        (ofTemplate before).keys ++
          (ofTemplate after).keys.filter (fun key => key ∉ (ofTemplate before).keys) ∧
      ∀ key, (ofTemplate (before ++ "\n" ++ after)).getRaw? key =
        ((ofTemplate after).getRaw? key).or ((ofTemplate before).getRaw? key) := by
  have hlines : lines (before ++ "\n" ++ after).toList =
      lines before.toList ++ lines after.toList := by
    rw [String.toList_append, String.toList_append, List.append_assoc]
    exact lines_append_feed before.toList after.toList
  have happend : ofTemplate (before ++ "\n" ++ after) =
      (ofTemplate before).update (ofTemplate after).entries := by
    rw [ofTemplate, hlines, List.foldl_append]
    exact Pending.table_foldl_of_separates _ h
  rw [happend]
  exact ⟨rfl, keys_update _ _, getRaw?_update _ _⟩

/-- The entry that is complete above is kept, and the key without a text is forgotten. -/
theorem ofTemplate_append_unfinished :
    (∀ line ∈ (lines "# next\nmsgctxt \"B\"\nmsgid \"two\"\nmsgstr \"\"".toList).head?,
      line.Separates) ∧
    (ofTemplate ("msgctxt \"A\"\nmsgid \"one\"\nmsgctxt \"left\"" ++ "\n" ++
      "# next\nmsgctxt \"B\"\nmsgid \"two\"\nmsgstr \"\"")).keys = ["A", "B"] := by
  have h : ∀ line ∈ (lines "# next\nmsgctxt \"B\"\nmsgid \"two\"\nmsgstr \"\"".toList).head?,
      line.Separates := by decide +kernel
  exact ⟨h, (ofTemplate_append h).2.1.trans (by decide +kernel)⟩

end StringTable

end ElementAtlas
