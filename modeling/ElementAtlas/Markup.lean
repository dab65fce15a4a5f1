import ElementAtlas.Text.Digit
import ElementAtlas.Text.Rest

/-!
# Markup in display texts

A display text holds tags between angle brackets and character entities such as `&amp;`. Stripping
deletes the tags, leftmost first, and then puts a character for each entity. What an entity stands
for is not read again, and an entity that stands for no character stays as it is written.
-/

namespace ElementAtlas.Markup

open Text

/-- The text without its tags. A tag runs from a `<` to the next `>`; a `<` that no `>` follows is
no tag, and neither is anything after it. -/
def deleteTags (s : List Char) : List Char :=
  match s with
  | [] => []
  | c :: cs =>
    if c = '<' then
      match upTo? '>' cs with
      | none => c :: cs
      | some (_, ⟨rest, _⟩) => deleteTags rest
    else c :: deleteTags cs
termination_by s.length
decreasing_by all_goals simp only [List.length_cons]; omega

/-- The character that the name of an entity stands for. -/
def entity? : List Char → Option Char
  | '#' :: 'x' :: digits => (number? 16 digits).bind charOfCode?
  | '#' :: 'X' :: digits => (number? 16 digits).bind charOfCode?
  | '#' :: digits => (number? 10 digits).bind charOfCode?
  | name =>
    if name = "amp".toList then some '&'
    else if name = "lt".toList then some '<'
    else if name = "gt".toList then some '>'
    else if name = "quot".toList then some '"'
    else if name = "apos".toList then some '\''
    else if name = "nbsp".toList then some '\u00a0'
    else none

/-- The text with a character in the place of each entity. An entity runs from a `&` to the next
`;`, and after a `&` that no `;` follows there are none. -/
def decodeEntities (s : List Char) : List Char :=
  match s with
  | [] => []
  | c :: cs =>
    if c = '&' then
      match upTo? ';' cs with
      | none => c :: cs
      | some (name, ⟨rest, _⟩) =>
        match entity? name with
        | none => c :: decodeEntities cs
        | some d => d :: decodeEntities rest
    else c :: decodeEntities cs
termination_by s.length
decreasing_by all_goals simp only [List.length_cons]; omega

/-- The text as it is displayed. -/
def strip (text : String) : String := String.ofList (decodeEntities (deleteTags text.toList))

end ElementAtlas.Markup
