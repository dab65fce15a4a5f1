import ElementAtlas.StringTable.Basic
import ElementAtlas.Text.Blank

/-!
# Templates of message catalogues

A template is read line by line. A line that counts is a quoted text, after one of the keywords
`msgctxt`, `msgid` and `msgstr` or, as a continuation of the text before, without one. An entry has
its key in `msgctxt` and its text in `msgid`; a `msgstr`, or the beginning of another entry, ends
it, and entries without a key are passed over. Blank lines, lines that begin with `#` and lines of
any other shape mean nothing.
-/

namespace ElementAtlas

namespace Template

open Text

/-- The keywords of a template. -/
inductive Keyword where
  | msgctxt
  | msgid
  | msgstr
deriving DecidableEq, Repr

/-- How a keyword is written. -/
def Keyword.name : Keyword → String
  | .msgctxt => "msgctxt"
  | .msgid => "msgid"
  | .msgstr => "msgstr"

/-- A line that counts: its keyword, if it has one, and its text. -/
structure Line where
  keyword : Option Keyword
  text : String
deriving DecidableEq, Repr

/-- The character that a character after a backslash stands for. -/
def unescape (c : Char) : Char :=
  if c = 'n' then '\n' else if c = 't' then '\t' else c

/-- The text up to the closing quote, with its escapes resolved, and what follows the quote. -/
def unquote : List Char → Option (List Char × List Char)
  | [] => none
  | '"' :: rest => some ([], rest)
  | ['\\'] => none
  | '\\' :: c :: rest => (unquote rest).map fun (text, rest) => (unescape c :: text, rest)
  | c :: rest => (unquote rest).map fun (text, rest) => (c :: text, rest)

/-- The text of a line that holds a quoted text and, around it, only blanks. -/
def quoted? (s : List Char) : Option String :=
  match dropBlanks s with
  | '"' :: s =>
    match unquote s with
    | some (text, rest) => if rest.all isBlank then some (String.ofList text) else none
    | none => none
  | _ => none

/-- The keyword at the front of a line, and the rest of the line. -/
def keyword? (s : List Char) : Option (Keyword × List Char) :=
  [Keyword.msgctxt, .msgid, .msgstr].findSome? fun keyword =>
    if keyword.name.toList.isPrefixOf s then some (keyword, s.drop keyword.name.length) else none

/-- A line of a template, if it is one that counts. -/
def Line.read? (line : List Char) : Option Line :=
  match trimBlanks line with
  | '#' :: _ => none
  | s =>
    match keyword? s with
    | some (keyword, rest) => (quoted? rest).map (⟨some keyword, ·⟩)
    | none => (quoted? s).map (⟨none, ·⟩)

/-- What a continuation line extends. -/
inductive Field where
  | context
  | id
  | other
deriving DecidableEq, Repr

/-- The entries that have ended, the key and the text of the one that is being read, and what a
continuation would extend. -/
structure Pending where
  table : StringTable
  context : Option String
  id : Option String
  field : Field

/-- Ends the entry that is being read. It is kept if it has both a key and a text. -/
def Pending.flush (p : Pending) : Pending :=
  match p.context, p.id with
  | some key, some text => { p with table := p.table.insert key text, context := none, id := none }
  | _, _ => { p with context := none, id := none }

/-- Takes in one line that counts. -/
def Pending.take (p : Pending) (line : Line) : Pending :=
  match line.keyword with
  | some .msgctxt => { p.flush with context := some line.text, field := .context }
  | some .msgid =>
    let p := if p.id.isSome then p.flush else p
    { p with id := some line.text, field := .id }
  | some .msgstr => { p.flush with field := .other }
  | none =>
    match p.field with
    | .context => { p with context := some (p.context.getD "" ++ line.text) }
    | .id => { p with id := some (p.id.getD "" ++ line.text) }
    | .other => p

/-- Nothing read yet. -/
def Pending.start : Pending := ⟨∅, none, none, .other⟩

/-- The lines of a text that count. -/
def lines (text : List Char) : List Line := (Text.lines text).filterMap Line.read?

end Template

/-- The table of the entries of a template. -/
def StringTable.ofTemplate (text : String) : StringTable :=
  ((Template.lines text.toList).foldl Template.Pending.take .start).flush.table

end ElementAtlas
