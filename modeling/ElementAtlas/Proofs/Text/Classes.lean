import Mathlib.Data.List.TakeWhile
import ElementAtlas.Text.Blank
import ElementAtlas.Text.Letter
import ElementAtlas.Text.Rest

/-!
# Classes of characters

Blanks, letters and digits are three classes without common members, and a text is cut where it
leaves a class: `Stops p s` says that no character of the class `p` stands at the front of `s`. A
run of characters of a class followed by such a text is what `spanWhile` reads, and blanks followed
by a text that begins with none are what `dropBlanks` drops.
-/

namespace ElementAtlas.Text

/-! ## Blanks, letters and digits -/

/-- The members of a table of ranges, one by one. -/
theorem mem_of_inRanges {n : Nat} {ranges : List (Nat × Nat)} (h : inRanges n ranges = true) :
    n ∈ ranges.flatMap fun (first, last) => List.range' first (last + 1 - first) := by
  induction ranges with
  | nil => simp [inRanges] at h
  | cons range ranges ih =>
    simp only [inRanges, Bool.and_eq_true, Bool.or_eq_true, decide_eq_true_eq] at h
    rw [List.flatMap_cons, List.mem_append]
    obtain ⟨hfirst, hlast | hrest⟩ := h
    · exact .inl (List.mem_range'_1.2 (by omega))
    · exact .inr (ih hrest)

/-- The digits are the characters from the code of zero to that of nine. -/
theorem isDigit_iff {c : Char} : c.isDigit = true ↔ 48 ≤ c.toNat ∧ c.toNat ≤ 57 := by
  simp only [Char.isDigit, UInt32.le_iff_toNat_le, ge_iff_le, Bool.and_eq_true, decide_eq_true_eq]
  rfl

/-- No blank is a letter. -/
@[grind →]
theorem isLetter_of_isBlank {c : Char} (h : isBlank c = true) : isLetter c = false := by
  have hall : ∀ n ∈ blankRanges.flatMap fun (first, last) => List.range' first (last + 1 - first),
      inRanges n letterRanges = false := by decide +kernel
  exact hall _ (mem_of_inRanges h)

/-- No blank is a digit. -/
@[grind →]
theorem isDigit_of_isBlank {c : Char} (h : isBlank c = true) : c.isDigit = false := by
  have hall : ∀ n ∈ blankRanges.flatMap fun (first, last) => List.range' first (last + 1 - first),
      ¬ (48 ≤ n ∧ n ≤ 57) := by decide +kernel
  exact Bool.eq_false_iff.2 fun hd => hall _ (mem_of_inRanges h) (isDigit_iff.1 hd)

/-- No digit is a letter. -/
@[grind →]
theorem isLetter_of_isDigit {c : Char} (h : c.isDigit = true) : isLetter c = false := by
  have hlt := (isDigit_iff.1 h).2
  rw [isLetter, letterRanges, inRanges, Bool.and_eq_false_iff]
  exact .inl (decide_eq_false (by omega))

/-! ## Where a class is left -/

/-- No character of a class stands at the front of the text. -/
def Stops (p : Char → Bool) (s : List Char) : Prop := ∀ c t, s = c :: t → p c = false

@[simp] theorem stops_nil (p : Char → Bool) : Stops p [] := nofun

@[simp] theorem stops_cons {p : Char → Bool} {c : Char} {s : List Char} :
    Stops p (c :: s) ↔ p c = false :=
  ⟨fun h => h c s rfl, fun h _ _ heq => by cases heq; exact h⟩

/-- What is left behind a run of characters of a class begins with none of them. -/
@[simp]
theorem stops_dropWhile (p : Char → Bool) (s : List Char) : Stops p (s.dropWhile p) := by
  induction s with
  | nil => exact stops_nil p
  | cons c s ih =>
    rw [List.dropWhile_cons]
    split
    · exact ih
    · next h => exact stops_cons.2 (Bool.eq_false_iff.2 h)

/-- A text stops where a class does before another text, if this does so too. -/
theorem Stops.append {p : Char → Bool} {s w : List Char} (hs : Stops p s) (hw : Stops p w) :
    Stops p (s ++ w) := by
  cases s with
  | nil => exact hw
  | cons c s => exact stops_cons.2 (stops_cons.1 hs)

/-- Nothing is dropped from a text that does not begin with the class. -/
theorem dropWhile_of_stops {p : Char → Bool} {s : List Char} (h : Stops p s) :
    s.dropWhile p = s := by
  cases s with
  | nil => rfl
  | cons c s => rw [List.dropWhile_cons, if_neg (by simp [stops_cons.1 h])]

/-- A span reads a run of characters of a class, as far as it goes. -/
theorem spanWhile_eq_iff {p : Char → Bool} {s run r : List Char} :
    (spanWhile p s).1 = run ∧ (spanWhile p s).2.1 = r ↔
      s = run ++ r ∧ (∀ c ∈ run, p c = true) ∧ Stops p r := by
  rw [spanWhile_fst, spanWhile_snd]
  constructor
  · rintro ⟨rfl, rfl⟩
    exact ⟨List.takeWhile_append_dropWhile.symm, fun c hc => List.mem_takeWhile_imp hc,
      stops_dropWhile p s⟩
  · rintro ⟨rfl, hrun, hr⟩
    have htake : r.takeWhile p = [] := by
      cases r with
      | nil => rfl
      | cons c r => rw [List.takeWhile_cons, if_neg (by simp [stops_cons.1 hr])]
    rw [List.takeWhile_append_of_pos hrun, List.dropWhile_append_of_pos hrun,
      dropWhile_of_stops hr, htake, List.append_nil]
    exact ⟨rfl, rfl⟩

/-! ## Blanks between two texts -/

/-- Only blanks stand between the front of `s` and the text `r`. -/
def Blanks (s r : List Char) : Prop := ∃ b, (∀ c ∈ b, isBlank c = true) ∧ s = b ++ r

@[simp] theorem Blanks.refl (s : List Char) : Blanks s s := ⟨[], by simp, rfl⟩

/-- Blanks stand alike before a longer text. -/
theorem Blanks.append {s r : List Char} (h : Blanks s r) (w : List Char) :
    Blanks (s ++ w) (r ++ w) := by
  obtain ⟨b, hb, rfl⟩ := h
  exact ⟨b, hb, List.append_assoc b r w⟩

/-- Blanks stand before what is left when they are dropped. -/
theorem blanks_dropBlanks (s : List Char) : Blanks s (dropBlanks s) :=
  ⟨s.takeWhile isBlank, fun _ hc => List.mem_takeWhile_imp hc,
    List.takeWhile_append_dropWhile.symm⟩

/-- Blanks do not change what comes after all blanks. -/
theorem Blanks.dropBlanks_eq {s r : List Char} (h : Blanks s r) : dropBlanks s = dropBlanks r := by
  obtain ⟨b, hb, rfl⟩ := h
  exact List.dropWhile_append_of_pos hb

/-- A text that does not begin with a blank stays when blanks are dropped. -/
@[simp] theorem dropBlanks_of_stops {s : List Char} (h : Stops isBlank s) : dropBlanks s = s :=
  dropWhile_of_stops h

/-- What is left when blanks are dropped does not begin with one. -/
@[simp] theorem stops_dropBlanks (s : List Char) : Stops isBlank (dropBlanks s) :=
  stops_dropWhile isBlank s

/-- Blanks stand before a text that begins with none if and only if dropping all of them leaves the
text. -/
theorem blanks_iff {s r : List Char} (h : Stops isBlank r) : Blanks s r ↔ dropBlanks s = r :=
  ⟨fun hb => hb.dropBlanks_eq.trans (dropBlanks_of_stops h), fun heq => heq ▸ blanks_dropBlanks s⟩

/-- No blanks stand before a text that begins with none, apart from the text itself. -/
theorem Blanks.eq_of_stops {s r : List Char} (h : Blanks s r) (hs : Stops isBlank s) : s = r := by
  obtain ⟨_ | ⟨c, b⟩, hb, rfl⟩ := h
  · rfl
  · have hc := hb c (.head _)
    rw [hs c (b ++ r) rfl] at hc
    cases hc

/-- Blanks are shorter than the text with them. -/
theorem Blanks.length_lt {s r : List Char} (h : Blanks s r) (hne : s ≠ r) :
    r.length < s.length := by
  obtain ⟨_ | ⟨c, b⟩, -, rfl⟩ := h
  · exact absurd rfl hne
  · simp only [List.length_append, List.length_cons]
    omega

/-! ## Texts without blanks at their ends -/

/-- The text `r` stands behind a character that is no blank. -/
def Ends (s r : List Char) : Prop := ∃ c, isBlank c = false ∧ c :: r <:+ s

/-- What stands behind the end of a text stands behind that of a longer one. -/
theorem Ends.of_suffix {s t r : List Char} (h : Ends t r) (hs : t <:+ s) : Ends s r := by
  obtain ⟨c, hc, hsuffix⟩ := h
  exact ⟨c, hc, hsuffix.trans hs⟩

/-- What stands behind a character is an end of the text. -/
theorem Ends.suffix {s r : List Char} (h : Ends s r) : r <:+ s := by
  obtain ⟨c, -, hsuffix⟩ := h
  exact (List.suffix_cons c r).trans hsuffix

/-- What stands behind blanks is an end of the text. -/
theorem Blanks.suffix {s r : List Char} (h : Blanks s r) : r <:+ s := by
  obtain ⟨b, -, rfl⟩ := h
  exact List.suffix_append b r

/-- No blank stands at either end of the text. -/
structure Trimmed (s : List Char) : Prop where
  front : Stops isBlank s
  back : Stops isBlank s.reverse

/-- A text is trimmed that does not begin with a blank and ends with a character that is none. -/
theorem trimmed_of_ends {s : List Char} (hfront : Stops isBlank s) (h : Ends s []) :
    Trimmed s := by
  obtain ⟨c, hc, w, rfl⟩ := h
  refine ⟨hfront, ?_⟩
  rw [List.reverse_append]
  exact stops_cons.2 hc

/-- Trimming leaves a trimmed text. -/
theorem trimmed_trimBlanks (s : List Char) : Trimmed (trimBlanks s) := by
  refine ⟨fun c t h => ?_, ?_⟩
  · have hsuffix : trimBlanks s <+: dropBlanks s := by
      rw [trimBlanks, ← List.reverse_suffix, List.reverse_reverse]
      exact List.dropWhile_suffix isBlank
    obtain ⟨w, hw⟩ := hsuffix
    exact stops_dropBlanks s c (t ++ w) (by rw [← hw, h, List.cons_append])
  · rw [trimBlanks, List.reverse_reverse]
    exact stops_dropBlanks _

/-- A trimmed text stays when it is trimmed. -/
theorem Trimmed.trimBlanks_eq {s : List Char} (h : Trimmed s) : trimBlanks s = s := by
  rw [trimBlanks, dropBlanks_of_stops h.front, dropBlanks_of_stops h.back, List.reverse_reverse]

/-- A text is what is left of it when it is trimmed, with blanks before and behind. -/
theorem exists_trimBlanks (s : List Char) :
    ∃ b, Blanks s (trimBlanks s ++ b) ∧ ∀ c ∈ b, isBlank c = true := by
  obtain ⟨b, hb, hsplit⟩ := blanks_dropBlanks (dropBlanks s).reverse
  refine ⟨b.reverse, ?_, fun c hc => hb c (List.mem_reverse.1 hc)⟩
  have hwhole : dropBlanks s = trimBlanks s ++ b.reverse := by
    rw [trimBlanks, ← List.reverse_append, ← hsplit, List.reverse_reverse]
  exact hwhole ▸ blanks_dropBlanks s

/-- Only the empty text is both blank and the end of a text without blanks at its ends. -/
theorem Trimmed.eq_nil {s r : List Char} (h : Trimmed s) (hr : r <:+ s)
    (hblank : dropBlanks r = []) :
    r = [] := by
  obtain ⟨w, rfl⟩ := hr
  by_contra hne
  obtain ⟨c, t, heq⟩ := List.exists_cons_of_ne_nil (mt List.reverse_eq_nil_iff.1 hne)
  have hback := h.back c (t ++ w.reverse) (by rw [List.reverse_append, heq, List.cons_append])
  have hmem : c ∈ r := List.mem_reverse.1 (heq ▸ .head _)
  rw [List.dropWhile_eq_nil_iff.1 hblank c hmem] at hback
  cases hback

end ElementAtlas.Text
