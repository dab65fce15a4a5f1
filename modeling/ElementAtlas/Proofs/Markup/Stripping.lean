import ElementAtlas.Proofs.Markup.Entities

/-!
# Stripping markup

Stripping is two passes over a text: the first deletes its tags, the second decodes the entities of
what is left. Both are described by the stretches that they replace (`IsTag`, `IsEntity`), so that a
pass changes those and nothing else. The first one leaves no tag (`not_hasTag_deleteTags`), but it
leaves a `>` that closes nothing (`deleteTags_append`) and a `<` that nothing closes
(`deleteTags_append_of_not_mem`). A text whose markup characters were written as entities comes back
as it was (`strip_escape`).
-/

namespace ElementAtlas.Markup

open Text

variable {s : List Char} {c : Char}

/-! ## Tags -/

/-- The stretch is a tag, which nothing stands for. -/
def IsTag (stretch text : List Char) : Prop :=
  ∃ body, '>' ∉ body ∧ stretch = '<' :: body ++ ['>'] ∧ text = []

/-- Somewhere in the text a `>` follows a `<`. -/
def HasTag (s : List Char) : Prop := ∃ before after, s = before ++ '<' :: after ∧ '>' ∈ after

/-- A text has a tag if one begins with its first character or the rest has one. -/
theorem hasTag_cons : HasTag (c :: s) ↔ c = '<' ∧ '>' ∈ s ∨ HasTag s := by
  constructor
  · rintro ⟨before, after, heq, hmem⟩
    cases before with
    | nil =>
      obtain ⟨rfl, rfl⟩ := List.cons.inj heq
      exact .inl ⟨rfl, hmem⟩
    | cons d before => exact .inr ⟨before, after, (List.cons.inj heq).2, hmem⟩
  · rintro (⟨rfl, hmem⟩ | ⟨before, after, rfl, hmem⟩)
    · exact ⟨[], s, rfl, hmem⟩
    · exact ⟨c :: before, after, rfl, hmem⟩

/-- A tag at the front of a text is a `<` there and a `>` somewhere behind it. -/
@[simp] theorem begins_isTag_iff : Begins IsTag (c :: s) ↔ c = '<' ∧ '>' ∈ s := by
  constructor
  · rintro ⟨-, -, after, ⟨body, -, rfl, rfl⟩, heq⟩
    simp only [List.cons_append, List.cons.injEq] at heq
    obtain ⟨rfl, rfl⟩ := heq
    simp
  · rintro ⟨rfl, hmem⟩
    obtain ⟨body, after, rfl, hbody⟩ := List.eq_append_cons_of_mem hmem
    exact ⟨'<' :: body ++ ['>'], [], after, ⟨body, hbody, rfl, rfl⟩, by simp⟩

/-- Nothing is deleted from a text without a closing mark. -/
theorem deleteTags_of_not_mem (h : '>' ∉ s) : deleteTags s = s := by
  induction s with
  | nil => rw [deleteTags]
  | cons c s ih =>
    have hs : '>' ∉ s := fun hmem => h (.tail _ hmem)
    rw [deleteTags, upTo?_eq_none_iff.2 hs, ih hs]
    split <;> rfl

/-- Deleting tags replaces them by nothing, from left to right. -/
theorem replaces_deleteTags : Replaces IsTag deleteTags where
  nonempty := by
    rintro - - ⟨body, -, rfl, -⟩
    simp
  nil := by rw [deleteTags]
  hit := by
    rintro - - after ⟨body, hbody, rfl, rfl⟩
    have hlt : after.length < (body ++ '>' :: after).length := length_lt_append_mark body after
    have hfirst : upTo? '>' (body ++ '>' :: after) = some (body, ⟨after, hlt⟩) :=
      upTo?_eq_some_iff.2 ⟨rfl, hbody⟩
    have hshape : '<' :: body ++ ['>'] ++ after = '<' :: (body ++ '>' :: after) := by simp
    rw [hshape, deleteTags, if_pos rfl]
    simp only [hfirst, List.nil_append]
  keep := by
    intro c s hfront
    rw [deleteTags]
    split
    · next hc =>
      have hs : '>' ∉ s := fun hmem => hfront (begins_isTag_iff.2 ⟨hc, hmem⟩)
      rw [upTo?_eq_none_iff.2 hs, deleteTags_of_not_mem hs]
    · rfl

/-- Nothing is put into a text in the place of its tags. -/
theorem deleteTags_sublist (s : List Char) : (deleteTags s).Sublist s := by
  induction s using replaces_deleteTags.induction with
  | nil => rw [deleteTags]
  | hit stretch text after htag ih =>
    rw [replaces_deleteTags.hit after htag]
    obtain ⟨body, -, rfl, rfl⟩ := htag
    exact ih.trans (List.sublist_append_right _ _)
  | keep c s hfront ih =>
    rw [replaces_deleteTags.keep hfront]
    exact ih.cons_cons c

/-- No tag is left when tags are deleted. -/
theorem not_hasTag_deleteTags (s : List Char) : ¬HasTag (deleteTags s) := by
  induction s using replaces_deleteTags.induction with
  | nil =>
    rw [deleteTags]
    rintro ⟨before, after, heq, -⟩
    cases before <;> cases heq
  | hit stretch text after htag ih =>
    rw [replaces_deleteTags.hit after htag]
    obtain ⟨body, -, rfl, rfl⟩ := htag
    exact ih
  | keep c s hfront ih =>
    rw [replaces_deleteTags.keep hfront, hasTag_cons]
    rintro (⟨hc, hmem⟩ | htag)
    · exact hfront (begins_isTag_iff.2 ⟨hc, (deleteTags_sublist s).subset hmem⟩)
    · exact ih htag

/-- A text without tags is left as it is. -/
theorem deleteTags_of_not_hasTag (h : ¬HasTag s) : deleteTags s = s := by
  induction s with
  | nil => rw [deleteTags]
  | cons c s ih =>
    rw [hasTag_cons, not_or] at h
    rw [replaces_deleteTags.keep (mt begins_isTag_iff.1 h.1), ih h.2]

/-- What stands in front of a text without a `>` is read on its own. -/
theorem deleteTags_append_of_not_mem {t : List Char} (h : '>' ∉ t) (s : List Char) :
    deleteTags (s ++ t) = deleteTags s ++ t := by
  have hcut : deleteTags (s ++ t) = deleteTags s ++ deleteTags t :=
    replaces_deleteTags.append fun c s' _ hbegins => by
      obtain ⟨hc, hmem⟩ := begins_isTag_iff.1 hbegins
      exact begins_isTag_iff.2 ⟨hc, (List.mem_append.1 hmem).resolve_right h⟩
  rw [hcut, deleteTags_of_not_mem h]

/-- Where no `<` is left open, what follows is read on its own. -/
theorem deleteTags_append (h : '<' ∉ deleteTags s) (t : List Char) :
    deleteTags (s ++ t) = deleteTags s ++ deleteTags t := by
  refine replaces_deleteTags.append fun c s' hsuffix hbegins => ?_
  obtain ⟨rfl, -⟩ := begins_isTag_iff.1 hbegins
  refine begins_isTag_iff.2 ⟨rfl, by_contra fun hmem => h ?_⟩
  obtain ⟨w, rfl⟩ := hsuffix
  have hopen : '>' ∉ '<' :: s' := by simp [hmem]
  rw [deleteTags_append_of_not_mem hopen]
  exact List.mem_append_right _ (.head _)

/-! ## Texts written as markup -/

/-- A character as it is written in markup. -/
def escapeChar : Char → List Char
  | '&' => "&amp;".toList
  | '<' => "&lt;".toList
  | '>' => "&gt;".toList
  | c => [c]

/-- The text with its markup characters written as entities. -/
def escape (text : String) : String := String.ofList (text.toList.flatMap escapeChar)

/-- No opening mark is left when a character is escaped. -/
theorem not_mem_escapeChar (c : Char) : '<' ∉ escapeChar c := by
  unfold escapeChar
  split
  · decide
  · decide
  · decide
  · next hless _ => simpa using Ne.symm hless

/-- A character that is escaped is decoded to itself. -/
@[simp] theorem decodeEntities_escapeChar (c : Char) (t : List Char) :
    decodeEntities (escapeChar c ++ t) = c :: decodeEntities t := by
  unfold escapeChar
  split
  · exact replaces_decodeEntities.hit t ⟨"amp".toList, '&', .named (by decide), rfl, rfl⟩
  · exact replaces_decodeEntities.hit t ⟨"lt".toList, '<', .named (by decide), rfl, rfl⟩
  · exact replaces_decodeEntities.hit t ⟨"gt".toList, '>', .named (by decide), rfl, rfl⟩
  · next hamp _ _ => exact decodeEntities_append_of_not_mem (by simpa using Ne.symm hamp) t

/-- A text that is escaped is stripped to itself. -/
theorem strip_escape (text : String) : strip (escape text) = text := by
  have htags : deleteTags (text.toList.flatMap escapeChar) = text.toList.flatMap escapeChar := by
    refine deleteTags_of_not_hasTag ?_
    rintro ⟨before, after, heq, -⟩
    have hmem : '<' ∈ text.toList.flatMap escapeChar := by simp [heq]
    obtain ⟨c, -, hc⟩ := List.mem_flatMap.1 hmem
    exact not_mem_escapeChar c hc
  have hdecode (s : List Char) : decodeEntities (s.flatMap escapeChar) = s := by
    induction s with
    | nil => exact replaces_decodeEntities.nil
    | cons c s ih => simp [ih]
  rw [strip, escape, String.toList_ofList, htags, hdecode, String.ofList_toList]

/-- Without a `&` a text is only freed of its tags, and then it has none. -/
theorem strip_strip {text : String} (h : '&' ∉ text.toList) : strip (strip text) = strip text := by
  have hamp : '&' ∉ deleteTags text.toList := fun hmem => h ((deleteTags_sublist _).subset hmem)
  have hdecode : decodeEntities (deleteTags text.toList) = deleteTags text.toList := by
    simpa [replaces_decodeEntities.nil] using decodeEntities_append_of_not_mem hamp []
  have htags : deleteTags (deleteTags text.toList) = deleteTags text.toList :=
    deleteTags_of_not_hasTag (not_hasTag_deleteTags _)
  rw [strip, strip, String.toList_ofList, hdecode, htags, hdecode]

/-! ## The laws of stripping -/

/-- What stripping makes of a text. -/
structure StripLaws (text : String) : Prop where
  /-- The text is what is left of it after its tags are deleted and what is left is decoded. -/
  passes (stripped : String) : strip text = stripped ↔
    ∃ untagged, Replaced IsTag text.toList untagged ∧ Replaced IsEntity untagged stripped.toList
  /-- No tag is left, and nothing else is put into the text. -/
  untagged {untagged : List Char} : Replaced IsTag text.toList untagged →
    untagged.Sublist text.toList ∧ ¬HasTag untagged
  /-- A `>` before which no `<` is left open stays. -/
  stray {before after b a : List Char} : text.toList = before ++ '>' :: after →
    Replaced IsTag before b → '<' ∉ b → Replaced IsTag after a →
    Replaced IsTag text.toList (b ++ '>' :: a)
  /-- A `<` that no `>` follows stays, and so does what follows it. -/
  unclosed {before after b : List Char} : text.toList = before ++ '<' :: after → '>' ∉ after →
    Replaced IsTag before b → Replaced IsTag text.toList (b ++ '<' :: after)
  /-- An entity of what the tags leave becomes its character. -/
  entity {before name after b a : List Char} {c : Char} :
    Replaced IsTag text.toList (before ++ '&' :: (name ++ ';' :: after)) → Stands name c →
    Replaced IsEntity before b → Replaced IsEntity after a → (strip text).toList = b ++ c :: a
  /-- A name between `&` and `;` that stands for no character stays as it is written. -/
  unrecognised {before name after b a : List Char} :
    Replaced IsTag text.toList (before ++ '&' :: (name ++ ';' :: after)) →
    '&' ∉ name → ';' ∉ name → (∀ c, ¬Stands name c) →
    Replaced IsEntity before b → Replaced IsEntity after a →
    (strip text).toList = b ++ '&' :: (name ++ ';' :: a)
  /-- A reference to a surrogate or past the last character stays as it is written. -/
  outOfRange {before name after b a : List Char} {n : Nat} :
    Replaced IsTag text.toList (before ++ '&' :: (name ++ ';' :: after)) →
    Refers name n → 0xD800 ≤ n ∧ n ≤ 0xDFFF ∨ 0x10FFFF < n →
    Replaced IsEntity before b → Replaced IsEntity after a →
    (strip text).toList = b ++ '&' :: (name ++ ';' :: a)
  /-- A text with its markup characters written as entities comes back. -/
  escaped : strip (escape text) = text
  /-- A text without entities is stripped once and for all. -/
  idempotent : '&' ∉ text.toList → strip (strip text) = strip text

/-- Stripping decodes the entities of what is left without the tags. -/
theorem toList_strip {text : String} (h : Replaced IsTag text.toList s) :
    (strip text).toList = decodeEntities s := by
  rw [strip, String.toList_ofList, replaces_deleteTags.replaced_iff.1 h]

/-- Every text is stripped by these laws. -/
theorem strip_laws (text : String) : StripLaws text where
  passes stripped := by
    constructor
    · rintro rfl
      have htags := replaces_deleteTags.replaced_iff.2 (rfl : deleteTags text.toList = _)
      exact ⟨_, htags, replaces_decodeEntities.replaced_iff.2 (toList_strip htags).symm⟩
    · rintro ⟨untagged, htags, hentities⟩
      rw [← String.toList_inj, toList_strip htags]
      exact replaces_decodeEntities.replaced_iff.1 hentities
  untagged htags := by
    rw [← replaces_deleteTags.replaced_iff.1 htags]
    exact ⟨deleteTags_sublist _, not_hasTag_deleteTags _⟩
  stray {before after b a} htext hbefore hb hafter := by
    rw [replaces_deleteTags.replaced_iff] at hbefore hafter ⊢
    subst hbefore
    have hgt : ¬Begins IsTag ('>' :: after) := by simp [begins_isTag_iff]
    rw [htext, deleteTags_append hb, replaces_deleteTags.keep hgt, hafter]
  unclosed {before after b} htext hafter hbefore := by
    rw [replaces_deleteTags.replaced_iff] at hbefore ⊢
    rw [htext, deleteTags_append_of_not_mem (by simp [hafter]), hbefore]
  entity htags hstands hbefore hafter := by
    rw [replaces_decodeEntities.replaced_iff] at hbefore hafter
    rw [toList_strip htags, decodeEntities_entity hstands, hbefore, hafter]
  unrecognised htags hstart hend hno hbefore hafter := by
    rw [replaces_decodeEntities.replaced_iff] at hbefore hafter
    rw [toList_strip htags, decodeEntities_of_not_stands hstart hend hno, hbefore, hafter]
  outOfRange {before name after b a n} htags hrefers hn hbefore hafter := by
    have hinvalid : ¬n.isValidChar := by
      unfold Nat.isValidChar
      omega
    have hno (c : Char) : ¬Stands name c := hrefers.not_stands hinvalid
    rw [replaces_decodeEntities.replaced_iff] at hbefore hafter
    rw [toList_strip htags,
      decodeEntities_of_not_stands hrefers.not_mem.1 hrefers.not_mem.2 hno, hbefore, hafter]
  escaped := strip_escape text
  idempotent := strip_strip

end ElementAtlas.Markup
