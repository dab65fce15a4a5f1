import ElementAtlas.Proofs.StringTable.Resumption
import ElementAtlas.Proofs.StringTable.Writing

/-!
# Continuations of fields that are not read

A continuation line extends the last field that was read. The line of a field with any other name
than the three that the reader knows, such as `msgid_plural "..."`, is passed over without a trace,
so a continuation below it is taken for one of the field above. All chunks down to the next line
with a keyword are put behind the text of the entry, whatever stands between them, and the entry
keeps its text only if the chunks below the other fields are all empty
(`StringTable.ofTemplate_continued`).
-/

namespace ElementAtlas

namespace Template

/-- While a text is being read, every line with a keyword ends the entry, and leaves of what is
pending only the table. -/
theorem Pending.take_of_keyword {p : Pending} (hid : p.id.isSome = true) {line : Line}
    (h : line.keyword.isSome = true) : p.take line = (start.onto p.flush.table).take line := by
  obtain ⟨table, context, id, field⟩ := p
  obtain ⟨text, rfl⟩ := Option.isSome_iff_exists.1 hid
  obtain ⟨keyword, content⟩ := line
  cases keyword with
  | none => cases h
  | some keyword =>
    cases keyword with
    | msgctxt => exact take_of_separates _ (.inl rfl)
    | msgstr => exact take_of_separates _ (.inr rfl)
    | msgid => cases context <;> rfl

/-- The lines of a key, those of a text, and continuations further down leave the entry pending,
with all chunks of the continuations behind its text. -/
theorem Pending.foldl_take_continued {ks ts cs : List Line} {key text : Chunks}
    {further : List String} (hkey : ks = readLines (key.write .msgctxt))
    (htext : ts = readLines (text.write .msgid)) (hfurther : cs = further.map (⟨none, ·⟩))
    (p : Pending) :
    (ks ++ ts ++ cs).foldl take p =
      ⟨p.flush.table, some key.text, some (text.text ++ String.join further), .id⟩ := by
  simp [hkey, htext, hfurther]

end Template

namespace StringTable

open Template

/-- A template is read line by line, and its last entry is ended. -/
theorem ofTemplate_intercalate {ls : List String} (h : ∀ line ∈ ls, '\n' ∉ line.toList) :
    ofTemplate ("\n".intercalate ls) = ((readLines ls).foldl Pending.take .start).flush.table := by
  rw [ofTemplate, lines_intercalate h]

/-- An entry, with any lines above it, whose key and text are followed by lines of which only
continuations count, down to a line with a keyword or to the end. The continuations are put behind
the text of the entry, so that it is kept as it was given only if all of them are empty. -/
theorem ofTemplate_continued {key text : Chunks} {further : List String} {template : String}
    {above keyLines textLines others below : List String}
    (htemplate : template = "\n".intercalate (above ++ (keyLines ++ textLines ++ others) ++ below))
    (hfeed : ∀ line ∈ above ++ (keyLines ++ textLines ++ others) ++ below, '\n' ∉ line.toList)
    (hkey : readLines keyLines = readLines (key.write .msgctxt))
    (htext : readLines textLines = readLines (text.write .msgid))
    (hothers : readLines others = further.map (⟨none, ·⟩))
    (hbelow : ∀ line ∈ (readLines below).head?, line.keyword.isSome = true) :
    ofTemplate template = ((ofTemplate ("\n".intercalate above)).insert key.text
        (text.text ++ String.join further)).update
          (ofTemplate ("\n".intercalate below)).entries ∧
      (key.text ∉ (ofTemplate ("\n".intercalate below)).keys →
        (ofTemplate template).getRaw? key.text = some (text.text ++ String.join further)) ∧
      (text.text ++ String.join further = text.text ↔ ∀ chunk ∈ further, chunk = "") := by
  have hread := ofTemplate_intercalate hfeed
  simp only [List.forall_mem_append] at hfeed
  obtain ⟨⟨habove, -⟩, hlower⟩ := hfeed
  have hall : ofTemplate template = ((ofTemplate ("\n".intercalate above)).insert key.text
      (text.text ++ String.join further)).update
        (ofTemplate ("\n".intercalate below)).entries := by
    rw [htemplate, hread, readLines_append, readLines_append, readLines_append, readLines_append,
      List.foldl_append, List.foldl_append, Pending.foldl_take_continued hkey htext hothers,
      Pending.table_foldl_of_take fun line hline => Pending.take_of_keyword rfl (hbelow line hline),
      ofTemplate_intercalate habove, ofTemplate_intercalate hlower]
    rfl
  refine ⟨hall, fun hnot => ?_, ?_⟩
  · simp [hall, hnot]
  · rw [String.append_eq_left_iff]
    clear hothers hall
    induction further with
    | nil => simp
    | cons chunk chunks ih =>
      rw [String.join_cons, String.append_eq_empty_iff, ih, List.forall_mem_cons]

/-- The continuation of a plural form is put behind the text of the entry. -/
theorem ofTemplate_continued_plural :
    (ofTemplate ("\n".intercalate ([] ++ (["msgctxt \"A\""] ++ ["msgid \"one\""] ++
      ["msgid_plural \"\"", "\"many\""]) ++ ["msgstr[0] \"\"", ""]))).getRaw? "A" =
      some "onemany" := by
  have hfeed : ∀ line ∈ [] ++ (["msgctxt \"A\""] ++ ["msgid \"one\""] ++
      ["msgid_plural \"\"", "\"many\""]) ++ ["msgstr[0] \"\"", ""], '\n' ∉ line.toList := by
    decide +kernel
  have hkey : readLines ["msgctxt \"A\""] = readLines (Chunks.write .msgctxt ⟨"A", []⟩) := by
    decide +kernel
  have htext : readLines ["msgid \"one\""] = readLines (Chunks.write .msgid ⟨"one", []⟩) := by
    decide +kernel
  have hothers : readLines ["msgid_plural \"\"", "\"many\""] =
      ["many"].map (⟨none, ·⟩) := by
    decide +kernel
  have hbelow : ∀ line ∈ (readLines ["msgstr[0] \"\"", ""]).head?,
      line.keyword.isSome = true := by
    decide +kernel
  obtain ⟨-, hraw, -⟩ := ofTemplate_continued rfl hfeed hkey htext hothers hbelow
  exact hraw (by decide +kernel)

/-- So a text may be kept that is not the text of its entry, though the line above the continuation
is that of another field. -/
theorem ofTemplate_plural_ne : Line.read? "msgid_plural \"\"".toList = none ∧
    (ofTemplate "msgctxt \"A\"\nmsgid \"one\"\nmsgid_plural \"\"\n\"many\"\nmsgstr[0] \"\"\n"
      ).getRaw? "A" ≠ some "one" := by
  decide +kernel

end StringTable

end ElementAtlas
