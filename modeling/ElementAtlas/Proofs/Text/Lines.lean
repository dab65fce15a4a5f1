import ElementAtlas.Text.Blank

/-!
# Lines

A text is cut at its line feeds and nowhere else: the lines of two texts with a line feed between
them are those of the one followed by those of the other, and lines that are written one under
another are the lines of the text they make. If the last of them also ends in a line feed, then an
empty line follows (`lines_join`).
-/

namespace ElementAtlas.Text

/-- Every text has a line, which may be empty. -/
theorem lines_ne_nil (s : List Char) : lines s ≠ [] := by
  cases s with
  | nil => simp [lines]
  | cons c s =>
    rw [lines]
    split
    · simp
    · split <;> simp

/-- A line feed ends the lines before it. -/
@[simp]
theorem lines_append_feed (s t : List Char) : lines (s ++ '\n' :: t) = lines s ++ lines t := by
  induction s with
  | nil => simp [lines]
  | cons c s ih =>
    rw [List.cons_append, lines, lines, ih]
    split
    · rfl
    · next =>
      obtain ⟨line, rest, hlines⟩ := List.exists_cons_of_ne_nil (lines_ne_nil s)
      rw [hlines, List.cons_append]
      rfl

/-- A text without a line feed is one line. -/
theorem lines_of_not_mem {s : List Char} (h : '\n' ∉ s) : lines s = [s] := by
  induction s with
  | nil => rfl
  | cons c s ih =>
    rw [List.mem_cons, not_or] at h
    obtain ⟨hc, hs⟩ := h
    rw [lines, if_neg (Ne.symm hc), ih hs]

/-- Lines under one another are the lines of their text. Of no lines the text is empty, and that is
one line. -/
theorem lines_intercalate {pieces : List (List Char)} (hne : pieces ≠ [])
    (h : ∀ piece ∈ pieces, '\n' ∉ piece) : lines (['\n'].intercalate pieces) = pieces := by
  induction pieces with
  | nil => exact absurd rfl hne
  | cons piece pieces ih =>
    obtain ⟨hpiece, hrest⟩ := List.forall_mem_cons.1 h
    cases pieces with
    | nil => rw [List.intercalate_singleton, lines_of_not_mem hpiece]
    | cons next pieces =>
      rw [List.intercalate_cons_cons, List.append_assoc, List.singleton_append,
        lines_append_feed, lines_of_not_mem hpiece, ih (List.cons_ne_nil _ _) hrest,
        List.singleton_append]

/-- A text whose lines all end in a line feed has nothing behind the last of them. -/
theorem lines_join {texts : List String} (h : ∀ text ∈ texts, '\n' ∉ text.toList) :
    lines (String.join (texts.map (· ++ "\n"))).toList = texts.map String.toList ++ [[]] := by
  induction texts with
  | nil => rfl
  | cons text texts ih =>
    obtain ⟨htext, htexts⟩ := List.forall_mem_cons.1 h
    have hcut : (String.join ((text :: texts).map (· ++ "\n"))).toList =
        text.toList ++ '\n' :: (String.join (texts.map (· ++ "\n"))).toList := by
      simp [String.toList_join]
    rw [hcut, lines_append_feed, lines_of_not_mem htext, ih htexts, List.map_cons,
      List.singleton_append, List.cons_append]

end ElementAtlas.Text
