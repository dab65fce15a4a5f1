import ElementAtlas.Markup
import ElementAtlas.Proofs.Text.Numeral
import ElementAtlas.Proofs.Text.Replacement

/-!
# Character entities

An entity is a name between `&` and `;`. The name refers to a character by its code, as a numeral to
base sixteen or ten, or it is one of six names (`Stands`). A numeral of any length is a reference,
but one past the codes or in the gap of the surrogates stands for no character.

Decoding replaces the entities of a text in one pass (`replaces_decodeEntities`). No name has a `&`
in it, so a `&` cuts the text into parts that are decoded one by one, and what becomes of one entity
depends on no other (`decodeEntities_entity`, `decodeEntities_of_not_stands`).
-/

namespace ElementAtlas.Markup

open Text

variable {name : List Char} {c : Char} {n : Nat}

/-- The name of an entity refers to a character by the code `n`. -/
inductive Refers : List Char → Nat → Prop
  | hexadecimal {x : Char} {digits : List Char} {n : Nat} : x = 'x' ∨ x = 'X' →
      Numeral 16 digits n → Refers ('#' :: x :: digits) n
  | decimal {digits : List Char} {n : Nat} : Numeral 10 digits n → Refers ('#' :: digits) n

/-- The entities that are known by a name. -/
def entityNames : List (List Char × Char) :=
  [("amp".toList, '&'), ("lt".toList, '<'), ("gt".toList, '>'), ("quot".toList, '"'),
    ("apos".toList, '\''), ("nbsp".toList, '\u00a0')]

/-- The entity of this name stands for the character. -/
inductive Stands : List Char → Char → Prop
  | code {name : List Char} {c : Char} : Refers name c.toNat → Stands name c
  | named {name : List Char} {c : Char} : (name, c) ∈ entityNames → Stands name c

/-! ## The names of the entities -/

/-- A reference is read as the character with its code, if there is one. -/
theorem entity?_of_refers (h : Refers name n) : entity? name = charOfCode? n := by
  cases h with
  | hexadecimal hx hdigits =>
    have hnumber := (number?_eq_some_iff (by decide)).2 hdigits
    obtain rfl | rfl := hx <;> simp only [entity?, hnumber, Option.bind_some]
  | decimal hdigits =>
    have hnumber := (number?_eq_some_iff (by decide)).2 hdigits
    have hlower := hdigits.not_mem (c := 'x') (by decide) (by decide)
    have hupper := hdigits.not_mem (c := 'X') (by decide) (by decide)
    unfold entity?
    split
    · next heq => cases heq; simp at hlower
    · next heq => cases heq; simp at hupper
    · next heq => cases heq; rw [hnumber, Option.bind_some]
    · next hno => exact absurd rfl (hno _)

/-- Digits with a number that is the code of a character are a numeral for it. -/
theorem numeral_of_bind {base : Nat} {digits : List Char} (hbase : base ≤ 16)
    (h : (number? base digits).bind charOfCode? = some c) : Numeral base digits c.toNat := by
  obtain ⟨n, hnumber, hcode⟩ := Option.bind_eq_some_iff.1 h
  rw [charOfCode?_eq_some_iff.1 hcode]
  exact (number?_eq_some_iff hbase).1 hnumber

/-- The name of an entity has a character if it stands for it. -/
@[simp] theorem entity?_eq_some_iff : entity? name = some c ↔ Stands name c := by
  constructor
  · intro h
    unfold entity? at h
    split at h
    · exact .code (.hexadecimal (.inl rfl) (numeral_of_bind (by decide) h))
    · exact .code (.hexadecimal (.inr rfl) (numeral_of_bind (by decide) h))
    · exact .code (.decimal (numeral_of_bind (by decide) h))
    · refine .named ?_
      split_ifs at h <;> cases h <;> simp [entityNames, *]
  · rintro (hrefers | hnamed)
    · exact (entity?_of_refers hrefers).trans (charOfCode?_eq_some_iff.2 rfl)
    · have hall : ∀ entry ∈ entityNames, entity? entry.1 = some entry.2 := by decide
      exact hall _ hnamed

/-- No reference has the characters in it that begin and end an entity. -/
theorem Refers.not_mem (h : Refers name n) : '&' ∉ name ∧ ';' ∉ name := by
  have hdigits {base : Nat} {digits : List Char} (hbase : base ≤ 16)
      (h : Numeral base digits n) : '&' ∉ digits ∧ ';' ∉ digits :=
    ⟨h.not_mem hbase (by decide), h.not_mem hbase (by decide)⟩
  cases h with
  | hexadecimal hx hnumeral =>
    obtain ⟨hstart, hend⟩ := hdigits (by decide) hnumeral
    obtain rfl | rfl := hx <;> simp [hstart, hend]
  | decimal hnumeral =>
    obtain ⟨hstart, hend⟩ := hdigits (by decide) hnumeral
    simp [hstart, hend]

/-- No name of an entity has the characters in it that begin and end one. -/
theorem Stands.not_mem (h : Stands name c) : '&' ∉ name ∧ ';' ∉ name := by
  cases h with
  | code hrefers => exact hrefers.not_mem
  | named hnamed =>
    have hall : ∀ entry ∈ entityNames, '&' ∉ entry.1 ∧ ';' ∉ entry.1 := by decide
    exact hall _ hnamed

/-- A code in the gap of the surrogates or past the last one is that of no character. -/
theorem Refers.not_stands (h : Refers name n) (hn : ¬n.isValidChar) : ¬Stands name c := by
  rw [← entity?_eq_some_iff, entity?_of_refers h, charOfCode?, if_neg hn]
  exact Option.some_ne_none c ∘ Eq.symm

/-! ## Decoding -/

/-- The stretch is an entity and `text` is the character that it stands for. -/
def IsEntity (stretch text : List Char) : Prop :=
  ∃ name c, Stands name c ∧ stretch = '&' :: name ++ [';'] ∧ text = [c]

/-- The name of an entity at the front of a text goes up to the first `;`. -/
theorem begins_isEntity_iff {s : List Char} :
    Begins IsEntity (c :: s) ↔
      c = '&' ∧ ∃ name d after, Stands name d ∧ s = name ++ ';' :: after := by
  constructor
  · rintro ⟨-, -, after, ⟨name, d, hstands, rfl, rfl⟩, heq⟩
    simp only [List.cons_append, List.append_assoc, List.cons.injEq, List.nil_append] at heq
    exact ⟨heq.1, name, d, after, hstands, heq.2⟩
  · rintro ⟨rfl, name, d, after, hstands, rfl⟩
    exact ⟨_, [d], after, ⟨name, d, hstands, rfl, rfl⟩, by simp⟩

/-- A text without a semicolon has no entities. -/
theorem decodeEntities_of_not_mem {s : List Char} (h : ';' ∉ s) : decodeEntities s = s := by
  induction s with
  | nil => rw [decodeEntities]
  | cons c s ih =>
    have hs : ';' ∉ s := fun hmem => h (.tail _ hmem)
    rw [decodeEntities, upTo?_eq_none_iff.2 hs, ih hs]
    split <;> rfl

/-- Decoding replaces the entities from left to right. -/
theorem replaces_decodeEntities : Replaces IsEntity decodeEntities where
  nonempty := by
    rintro - - ⟨name, c, -, rfl, -⟩
    simp
  nil := by rw [decodeEntities]
  hit := by
    rintro - - after ⟨name, c, hstands, rfl, rfl⟩
    have hlt : after.length < (name ++ ';' :: after).length := length_lt_append_mark name after
    have hfirst : upTo? ';' (name ++ ';' :: after) = some (name, ⟨after, hlt⟩) :=
      upTo?_eq_some_iff.2 ⟨rfl, hstands.not_mem.2⟩
    have hshape : '&' :: name ++ [';'] ++ after = '&' :: (name ++ ';' :: after) := by simp
    rw [hshape, decodeEntities, if_pos rfl]
    simp only [hfirst, entity?_eq_some_iff.2 hstands, List.singleton_append]
  keep := by
    intro c s hfront
    rw [decodeEntities]
    split
    · next hc =>
      split
      · next hnone => rw [decodeEntities_of_not_mem (upTo?_eq_none_iff.1 hnone)]
      · next name after hlt hfirst =>
        cases hentity : entity? name with
        | none => rfl
        | some d =>
          have hstands := entity?_eq_some_iff.1 hentity
          have hs := (upTo?_eq_some_iff.1 hfirst).1
          exact absurd (begins_isEntity_iff.2 ⟨hc, name, d, after, hstands, hs⟩) hfront
    · rfl

/-- A `&` cuts a text into parts that are decoded one by one. -/
theorem decodeEntities_append (s t : List Char) :
    decodeEntities (s ++ '&' :: t) = decodeEntities s ++ decodeEntities ('&' :: t) := by
  refine replaces_decodeEntities.append_mark ?_ s t
  rintro - - ⟨name, c, hstands, rfl, rfl⟩
  simp [hstands.not_mem.1]

/-- Without a `&` a text is decoded as it is. -/
theorem decodeEntities_append_of_not_mem {s : List Char} (h : '&' ∉ s) (t : List Char) :
    decodeEntities (s ++ t) = s ++ decodeEntities t := by
  induction s with
  | nil => rfl
  | cons c s ih =>
    rw [List.mem_cons, not_or] at h
    rw [List.cons_append, replaces_decodeEntities.keep, ih h.2, List.cons_append]
    exact fun hfront => h.1 (begins_isEntity_iff.1 hfront).1.symm

/-- An entity becomes its character, whatever stands around it. -/
theorem decodeEntities_entity (h : Stands name c) (s t : List Char) :
    decodeEntities (s ++ '&' :: (name ++ ';' :: t)) =
      decodeEntities s ++ c :: decodeEntities t := by
  have hshape : '&' :: (name ++ ';' :: t) = '&' :: name ++ [';'] ++ t := by simp
  rw [decodeEntities_append, hshape, replaces_decodeEntities.hit t ⟨name, c, h, rfl, rfl⟩,
    List.singleton_append]

/-- What is no entity stays as it is written, whatever stands around it. -/
theorem decodeEntities_of_not_stands (hstart : '&' ∉ name) (hend : ';' ∉ name)
    (h : ∀ c, ¬Stands name c) (s t : List Char) :
    decodeEntities (s ++ '&' :: (name ++ ';' :: t)) =
      decodeEntities s ++ '&' :: (name ++ ';' :: decodeEntities t) := by
  have hfront : ¬Begins IsEntity ('&' :: (name ++ ';' :: t)) := by
    intro hfront
    obtain ⟨-, name', d, after, hstands, heq⟩ := begins_isEntity_iff.1 hfront
    rw [run_unique heq hend hstands.not_mem.2] at h
    exact h d hstands
  have hname : '&' ∉ name ++ [';'] := by simp [hstart]
  rw [decodeEntities_append, replaces_decodeEntities.keep hfront, List.append_cons name,
    decodeEntities_append_of_not_mem hname, List.append_assoc, List.singleton_append]

end ElementAtlas.Markup
