import ElementAtlas.StringTable.Template
import ElementAtlas.Proofs.StringTable.Update
import ElementAtlas.Proofs.Text.Classes
import ElementAtlas.Proofs.Text.Lines

/-!
# Writing templates

A template is written entry by entry: a key under `msgctxt`, a text under `msgid` and an empty
`msgstr`. Each of them may be cut into chunks, of which the first stands on the line of the keyword
and each other one on a line of its own, blank lines and comments may stand anywhere, and lines of
entries without a key may stand between two entries (`Written`). Reading gives back what was written
(`StringTable.ofTemplate_written`): a line is read as its keyword and its chunk
(`read?_keyword`, `read?_quote`), the chunks are put together again, and between two entries no key
is pending (`Pending.Keyless`), so what stands there reaches no table.
-/

namespace ElementAtlas

namespace Template

open Text

/-! ## What is written -/

/-- What is written for a character between quotes. -/
def escape (c : Char) : List Char :=
  if c = '\\' then ['\\', '\\']
  else if c = '"' then ['\\', '"']
  else if c = '\n' then ['\\', 'n']
  else if c = '\t' then ['\\', 't']
  else [c]

/-- A text between quotes. -/
def quote (text : String) : String :=
  String.ofList ('"' :: text.toList.flatMap escape ++ ['"'])

/-- A text in chunks, the first for the line of its keyword and one for each line below. -/
structure Chunks where
  first : String
  further : List String

namespace Chunks

/-- The whole text of the pieces. -/
def text (c : Chunks) : String := c.first ++ String.join c.further

/-- The lines of a text under a keyword. -/
def write (keyword : Keyword) (c : Chunks) : List String :=
  (keyword.name ++ " " ++ quote c.first) :: c.further.map quote

end Chunks

/-- The lines of an entry. -/
def entryLines (key text : Chunks) : List String :=
  key.write .msgctxt ++ text.write .msgid ++ Chunks.write .msgstr ⟨"", []⟩

/-- A blank line or a comment. -/
def Idle (line : String) : Prop :=
  '\n' ∉ line.toList ∧ ∀ c ∈ (trimBlanks line.toList).head?, c = '#'

/-- Lines with any number of blank lines and comments before, between and after them. -/
inductive Interspersed : List String → List String → Prop
  | nil : Interspersed [] []
  | line {line : String} {ls all : List String} :
    Interspersed ls all → Interspersed (line :: ls) (line :: all)
  | idle {line : String} {ls all : List String} :
    Idle line → Interspersed ls all → Interspersed ls (line :: all)

/-- The lines of a template with entries for some pairs of a key and a text, in their order. Between
the entries there may be lines of any kind but those of `msgctxt`: blank lines, comments, and all
lines of entries without a key. -/
inductive Written : List (String × String) → List String → Prop
  | nil : Written [] []
  | between {line : String} {pairs : List (String × String)} {ls : List String} :
    '\n' ∉ line.toList → ¬ "msgctxt".toList <+: trimBlanks line.toList →
    Written pairs ls → Written pairs (line :: ls)
  | entry {key text : Chunks} {block : List String} {pairs : List (String × String)}
      {ls : List String} :
    Interspersed (entryLines key text) block → Written pairs ls →
    Written ((key.text, text.text) :: pairs) (block ++ ls)

/-! ## A line -/

/-- A quoted text is read up to its closing quote, and with its escapes resolved. -/
@[simp] theorem unquote_escape (text rest : List Char) :
    unquote (text.flatMap escape ++ '"' :: rest) = some (text, rest) := by
  induction text with
  | nil => rfl
  | cons c text ih =>
    rw [List.flatMap_cons, List.append_assoc, escape]
    split_ifs with hslash hquote hfeed htab
    · simp [unquote, unescape, ih, hslash]
    · simp [unquote, unescape, ih, hquote]
    · simp [unquote, unescape, ih, hfeed]
    · simp [unquote, unescape, ih, htab]
    · simp [unquote, ih, hslash]

/-- No line feed is left in a character that is escaped. -/
theorem not_mem_escape (c : Char) : '\n' ∉ escape c := by
  rw [escape]
  split_ifs with hslash hquote hfeed htab
  · decide
  · decide
  · decide
  · decide
  · simpa [eq_comm] using hfeed

/-- A quoted text is its escaped characters between two quotes. -/
theorem toList_quote (text : String) :
    (quote text).toList = '"' :: (text.toList.flatMap escape ++ ['"']) := by
  rw [quote, String.toList_ofList, List.cons_append]

/-- No line feed stands in a quoted text. -/
theorem not_mem_quote (text : String) : '\n' ∉ (quote text).toList := by
  simp [toList_quote, not_mem_escape]

/-- A quoted text behind some blanks is read as the text. -/
theorem quoted?_quote {s : List Char} (text : String) (h : Blanks s (quote text).toList) :
    quoted? s = some text := by
  have hstops : Stops isBlank (quote text).toList := by
    rw [toList_quote]
    exact stops_cons.2 (by decide)
  rw [quoted?, (blanks_iff hstops).1 h, toList_quote]
  simp [unquote_escape]

/-- A quoted text ends with a quote, which is no blank. -/
theorem ends_quote (text : String) : Ends (quote text).toList [] :=
  ⟨'"', by decide, '"' :: text.toList.flatMap escape, by simp [toList_quote]⟩

/-- A line without blanks at its ends is read as it stands, unless it is a comment. -/
theorem read?_of_trimmed {s : List Char} (h : Trimmed s) (hcomment : '#' ∉ s.head?) :
    Line.read? s = match keyword? s with
      | some (keyword, rest) => (quoted? rest).map (⟨some keyword, ·⟩)
      | none => (quoted? s).map (⟨none, ·⟩) := by
  rw [Line.read?, h.trimBlanks_eq]
  split
  · next rest => exact absurd rfl hcomment
  · rfl

/-- A chunk on a line of its own. -/
@[simp]
theorem read?_quote (text : String) : Line.read? (quote text).toList = some ⟨none, text⟩ := by
  have hfront : (quote text).toList = '"' :: (text.toList.flatMap escape ++ ['"']) :=
    toList_quote text
  have htrimmed : Trimmed (quote text).toList :=
    trimmed_of_ends (hfront ▸ stops_cons.2 (by decide)) (ends_quote text)
  have hkeyword : keyword? (quote text).toList = none := by
    rw [hfront]
    rfl
  rw [read?_of_trimmed htrimmed (by simp [hfront]), hkeyword]
  simp only [quoted?_quote text (.refl _), Option.map_some]

/-- A chunk on the line of a keyword. -/
theorem read?_keyword (keyword : Keyword) (text : String) :
    Line.read? (keyword.name ++ " " ++ quote text).toList = some ⟨some keyword, text⟩ := by
  have hlist : (keyword.name ++ " " ++ quote text).toList =
      keyword.name.toList ++ ' ' :: (quote text).toList := by
    rw [String.toList_append, String.toList_append, List.append_assoc]
    rfl
  have hfront : Stops isBlank (keyword.name.toList ++ ' ' :: (quote text).toList) := by
    cases keyword <;> exact stops_cons.2 (by decide)
  have hends : Ends (keyword.name.toList ++ ' ' :: (quote text).toList) [] :=
    (ends_quote text).of_suffix ⟨keyword.name.toList ++ [' '], by simp⟩
  have hcomment : '#' ∉ (keyword.name.toList ++ ' ' :: (quote text).toList).head? := by
    cases keyword <;> exact nofun
  have hkeyword : keyword? (keyword.name.toList ++ ' ' :: (quote text).toList) =
      some (keyword, ' ' :: (quote text).toList) := by
    cases keyword <;> rfl
  have hspace : ∀ c ∈ [' '], isBlank c = true := List.forall_mem_singleton.2 (by decide)
  have hblank : Blanks (' ' :: (quote text).toList) (quote text).toList := ⟨[' '], hspace, rfl⟩
  rw [hlist, read?_of_trimmed (trimmed_of_ends hfront hends) hcomment, hkeyword]
  simp only [quoted?_quote text hblank, Option.map_some]

/-- An idle line is not read. -/
theorem read?_of_idle {line : String} (h : Idle line) : Line.read? line.toList = none := by
  have hhead := h.2
  rw [Line.read?]
  split
  · rfl
  · next hcomment =>
    cases hline : trimBlanks line.toList with
    | nil => rfl
    | cons c s =>
      rw [hline] at hhead
      exact absurd (hhead c rfl ▸ hline) (hcomment s)

/-- A keyword is read off the front of a line only where it stands. -/
theorem prefix_of_keyword? {s rest : List Char} {keyword : Keyword}
    (h : keyword? s = some (keyword, rest)) : keyword.name.toList <+: s := by
  obtain ⟨found, -, hfound⟩ := List.exists_of_findSome?_eq_some h
  split at hfound
  · next hprefix =>
    cases hfound
    exact List.isPrefixOf_iff_prefix.1 hprefix
  · cases hfound

/-- Only a line that begins with `msgctxt` gives a key. -/
theorem keyword_ne_of_read? {s : List Char} {line : Line}
    (h : ¬ "msgctxt".toList <+: trimBlanks s) (hread : Line.read? s = some line) :
    line.keyword ≠ some .msgctxt := by
  rw [Line.read?] at hread
  split at hread
  · cases hread
  · split at hread
    · next keyword rest hkeyword =>
      obtain ⟨text, -, rfl⟩ := Option.map_eq_some_iff.1 hread
      rintro hkey
      cases hkey
      exact h (prefix_of_keyword? hkeyword)
    · obtain ⟨text, -, rfl⟩ := Option.map_eq_some_iff.1 hread
      exact nofun

/-! ## The lines of a template -/

/-- The lines that count among some lines. -/
def readLines (ls : List String) : List Line := ls.filterMap fun line => Line.read? line.toList

/-- The lines of two lists are read one list after the other. -/
@[simp] theorem readLines_append (ls more : List String) :
    readLines (ls ++ more) = readLines ls ++ readLines more :=
  List.filterMap_append

/-- A line that is read comes before what the other lines are read as. -/
theorem readLines_cons_some {s : String} {line : Line} (h : Line.read? s.toList = some line)
    (ls : List String) : readLines (s :: ls) = line :: readLines ls :=
  List.filterMap_cons_some h

/-- A line that is not read leaves what the other lines are read as. -/
theorem readLines_cons_none {s : String} (h : Line.read? s.toList = none) (ls : List String) :
    readLines (s :: ls) = readLines ls :=
  List.filterMap_cons_none h

/-- A field is read as its keyword with the first piece of text, and the other pieces. -/
theorem readLines_write (keyword : Keyword) (c : Chunks) :
    readLines (c.write keyword) = ⟨some keyword, c.first⟩ :: c.further.map (⟨none, ·⟩) := by
  rw [Chunks.write, readLines_cons_some (read?_keyword keyword c.first)]
  congr 1
  induction c.further with
  | nil => rfl
  | cons chunk chunks ih =>
    rw [List.map_cons, readLines_cons_some (read?_quote chunk), ih, List.map_cons]

/-- Blank lines and comments do not count. -/
theorem Interspersed.readLines_eq {ls all : List String} (h : Interspersed ls all) :
    readLines all = readLines ls := by
  induction h with
  | nil => rfl
  | @line s _ _ _ ih =>
    cases hread : Line.read? s.toList with
    | none => rw [readLines_cons_none hread, readLines_cons_none hread, ih]
    | some line => rw [readLines_cons_some hread, readLines_cons_some hread, ih]
  | idle hline _ ih => rw [readLines_cons_none (read?_of_idle hline), ih]

/-- No line feed stands in a line with a keyword. -/
theorem not_mem_keyword (keyword : Keyword) (text : String) :
    '\n' ∉ (keyword.name ++ " " ++ quote text).toList := by
  rw [String.toList_append, List.mem_append, not_or]
  exact ⟨by cases keyword <;> decide, not_mem_quote text⟩

/-- No line feed stands in the lines of a field. -/
theorem not_mem_write {keyword : Keyword} {c : Chunks} :
    ∀ line ∈ c.write keyword, '\n' ∉ line.toList := by
  rw [Chunks.write, List.forall_mem_cons, List.forall_mem_map]
  exact ⟨not_mem_keyword keyword c.first, fun chunk _ => not_mem_quote chunk⟩

/-- No line feed stands in lines with others between them, if none stands in the first ones. -/
theorem Interspersed.not_mem {ls all : List String} (h : Interspersed ls all)
    (hls : ∀ line ∈ ls, '\n' ∉ line.toList) : ∀ line ∈ all, '\n' ∉ line.toList := by
  induction h with
  | nil => exact hls
  | line _ ih =>
    rw [List.forall_mem_cons] at hls ⊢
    exact ⟨hls.1, ih hls.2⟩
  | idle hline _ ih => exact List.forall_mem_cons.2 ⟨hline.1, ih hls⟩

/-- No line feed stands in the lines of a template. -/
theorem Written.not_mem {pairs : List (String × String)} {ls : List String}
    (h : Written pairs ls) : ∀ line ∈ ls, '\n' ∉ line.toList := by
  induction h with
  | nil => exact nofun
  | between hline _ _ ih => exact List.forall_mem_cons.2 ⟨hline, ih⟩
  | entry hblock _ ih =>
    refine List.forall_mem_append.2 ⟨hblock.not_mem ?_, ih⟩
    simp only [entryLines, List.forall_mem_append]
    exact ⟨⟨not_mem_write, not_mem_write⟩, not_mem_write⟩

/-- The lines that count in a text are those that count among the lines it is made of. -/
theorem lines_intercalate {ls : List String} (h : ∀ line ∈ ls, '\n' ∉ line.toList) :
    lines ("\n".intercalate ls).toList = readLines ls := by
  rcases eq_or_ne ls [] with rfl | hne
  · rfl
  · have hpieces : ∀ piece ∈ ls.map String.toList, '\n' ∉ piece := List.forall_mem_map.2 h
    rw [lines, String.toList_intercalate]
    have hmap : ls.map String.toList ≠ [] := mt List.map_eq_nil_iff.1 hne
    exact (congrArg (List.filterMap Line.read?) (Text.lines_intercalate hmap hpieces)).trans
      List.filterMap_map

/-! ## Reading what was written -/

namespace Pending

/-- No key is pending, and none is being read. -/
def Keyless (p : Pending) : Prop := p.context = none ∧ p.field ≠ .context

/-- Without a key, a line that gives none ends no entry. -/
theorem Keyless.take {p : Pending} (h : p.Keyless) {line : Line}
    (hline : line.keyword ≠ some .msgctxt) :
    (p.take line).Keyless ∧ (p.take line).table = p.table := by
  obtain ⟨table, context, id, field⟩ := p
  obtain ⟨keyword, text⟩ := line
  obtain ⟨rfl, hfield⟩ := h
  cases keyword with
  | none =>
    cases field with
    | context => exact absurd rfl hfield
    | id | other => exact ⟨⟨rfl, nofun⟩, rfl⟩
  | some keyword =>
    cases keyword with
    | msgctxt => exact absurd rfl hline
    | msgid => cases id <;> exact ⟨⟨rfl, nofun⟩, rfl⟩
    | msgstr => exact ⟨⟨rfl, nofun⟩, rfl⟩

/-- Chunks on lines of their own are put behind the key that is being read. -/
@[simp] theorem foldl_take_context (table : StringTable) (key : String) (id : Option String)
    (chunks : List String) :
    (chunks.map (⟨none, ·⟩)).foldl take ⟨table, some key, id, .context⟩ =
      ⟨table, some (key ++ String.join chunks), id, .context⟩ := by
  induction chunks generalizing key with
  | nil => simp
  | cons chunk chunks ih =>
    rw [List.map_cons, List.foldl_cons, String.join_cons, ← String.append_assoc]
    exact ih (key ++ chunk)

/-- Chunks on lines of their own are put behind the text that is being read. -/
@[simp] theorem foldl_take_id (table : StringTable) (key : Option String) (text : String)
    (chunks : List String) :
    (chunks.map (⟨none, ·⟩)).foldl take ⟨table, key, some text, .id⟩ =
      ⟨table, key, some (text ++ String.join chunks), .id⟩ := by
  induction chunks generalizing text with
  | nil => simp
  | cons chunk chunks ih =>
    rw [List.map_cons, List.foldl_cons, String.join_cons, ← String.append_assoc]
    exact ih (text ++ chunk)

/-- Behind an entry that has been ended no key is pending. -/
theorem keyless_ended (table : StringTable) : Keyless ⟨table, none, none, .other⟩ :=
  ⟨rfl, nofun⟩

/-- Where no key is pending, ending the entry leaves the table. -/
theorem Keyless.table_flush {p : Pending} (h : p.Keyless) : p.flush.table = p.table := by
  obtain ⟨table, context, id, field⟩ := p
  obtain ⟨rfl, -⟩ := h
  rfl

/-- A key ends what was pending. -/
@[simp] theorem foldl_take_key (p : Pending) (key : Chunks) :
    (readLines (key.write .msgctxt)).foldl take p =
      ⟨p.flush.table, some key.text, none, .context⟩ := by
  have hfirst : p.take ⟨some .msgctxt, key.first⟩ =
      ⟨p.flush.table, some key.first, none, .context⟩ := by
    rcases p with ⟨table, _ | context, _ | id, field⟩ <;> rfl
  rw [readLines_write, List.foldl_cons, hfirst, foldl_take_context, Chunks.text]

/-- The lines of a text put it together behind its key. -/
@[simp] theorem foldl_take_text (table : StringTable) (key : String) (text : Chunks) :
    (readLines (text.write .msgid)).foldl take ⟨table, some key, none, .context⟩ =
      ⟨table, some key, some text.text, .id⟩ := by
  have hfirst : Pending.take ⟨table, some key, none, .context⟩ ⟨some .msgid, text.first⟩ =
      ⟨table, some key, some text.first, .id⟩ := rfl
  rw [readLines_write, List.foldl_cons, hfirst, foldl_take_id, Chunks.text]

/-- The lines of an entry insert its text, and nothing is pending after them. -/
theorem foldl_take_entry (p : Pending) (key text : Chunks) :
    (readLines (entryLines key text)).foldl take p =
      ⟨p.flush.table.insert key.text text.text, none, none, .other⟩ := by
  rw [entryLines, readLines_append, readLines_append, List.foldl_append, List.foldl_append,
    foldl_take_key, foldl_take_text, readLines_write]
  rfl

end Pending

/-- Reading what was written inserts the pairs in their order. -/
theorem Written.table_foldl {pairs : List (String × String)} {ls : List String}
    (h : Written pairs ls) {p : Pending} (hp : p.Keyless) :
    ((readLines ls).foldl Pending.take p).flush.table =
      p.table.update pairs := by
  induction h generalizing p with
  | nil => exact hp.table_flush
  | @between s pairs ls hfeed hkey _ ih =>
    cases hread : Line.read? s.toList with
    | none => rw [readLines_cons_none hread, ih hp]
    | some line =>
      obtain ⟨htake, htable⟩ := hp.take (keyword_ne_of_read? hkey hread)
      rw [readLines_cons_some hread, List.foldl_cons, ih htake, htable]
  | entry hblock _ ih =>
    rw [readLines_append, hblock.readLines_eq, List.foldl_append, Pending.foldl_take_entry,
      hp.table_flush, ih (Pending.keyless_ended _), StringTable.update_cons]

end Template

open Template

/-- **Reading undoes writing**. -/
theorem StringTable.ofTemplate_written {pairs : List (String × String)} {ls : List String}
    (h : Written pairs ls) : ofTemplate ("\n".intercalate ls) = ofList pairs := by
  rw [ofTemplate, lines_intercalate h.not_mem]
  exact h.table_foldl (Pending.keyless_ended ∅)

/-- A header without a key, a comment within an entry, and a text in two chunks. -/
theorem StringTable.ofTemplate_written_sample :
    Written [("A", "one\ntwo")]
      ["msgid \"\"", "msgstr \"\"", "\"Language: en\"", "", "msgctxt \"A\"", "# numbers",
        "msgid \"one\"", "\"\\ntwo\"", "msgstr \"\""] ∧
    ofTemplate ("\n".intercalate
      ["msgid \"\"", "msgstr \"\"", "\"Language: en\"", "", "msgctxt \"A\"", "# numbers",
        "msgid \"one\"", "\"\\ntwo\"", "msgstr \"\""]) = ofList [("A", "one\ntwo")] := by
  have hlines : entryLines ⟨"A", []⟩ ⟨"one", ["\ntwo"]⟩ =
      ["msgctxt \"A\"", "msgid \"one\"", "\"\\ntwo\"", "msgstr \"\""] := by decide +kernel
  have hidle : Idle "# numbers" := by
    have hhead : (Text.trimBlanks "# numbers".toList).head? = some '#' := by decide +kernel
    refine ⟨by decide +kernel, fun c hc => ?_⟩
    rw [hhead] at hc
    exact (Option.mem_some_iff.1 hc).symm
  have hblock : Interspersed (entryLines ⟨"A", []⟩ ⟨"one", ["\ntwo"]⟩)
      ["msgctxt \"A\"", "# numbers", "msgid \"one\"", "\"\\ntwo\"", "msgstr \"\""] := by
    rw [hlines]
    exact .line (.idle hidle (.line (.line (.line .nil))))
  have hpair : (Chunks.text ⟨"A", []⟩, Chunks.text ⟨"one", ["\ntwo"]⟩) = ("A", "one\ntwo") := by
    decide +kernel
  have hwritten : Written [("A", "one\ntwo")]
      ["msgid \"\"", "msgstr \"\"", "\"Language: en\"", "", "msgctxt \"A\"", "# numbers",
        "msgid \"one\"", "\"\\ntwo\"", "msgstr \"\""] := by
    rw [← hpair]
    refine .between (by decide +kernel) (by decide +kernel) ?_
    refine .between (by decide +kernel) (by decide +kernel) ?_
    refine .between (by decide +kernel) (by decide +kernel) ?_
    exact .between (by decide +kernel) (by decide +kernel) (.entry hblock .nil)
  exact ⟨hwritten, ofTemplate_written hwritten⟩

end ElementAtlas
