import ElementAtlas.Proofs.PhysicalUnit.Parse
import ElementAtlas.Proofs.UnitExpression.Writing

/-!
# Operands in the symbols of units

An operand is put in parentheses when its symbol holds one of four characters, which are not all
that the grammar gives a meaning to: a product may be written with a point, and a power with a
superscript. `Operand` says of a symbol that it keeps its meaning nevertheless, since it is put in
parentheses or does not need them (`writes_grouped`). Only the characters that are overlooked stand
against that (`operand_of_not_overlooked`).
-/

namespace ElementAtlas

open Text UnitExpression

variable {α : Type} [Scalar α]

namespace UnitExpression

/-- A text is written with one meaning. -/
theorem Writes.unique {text : String} {a b : α} {v w : List Int}
    (ha : Writes .product text a v) (hb : Writes .product text b w) : a = b ∧ v = w := by
  obtain ⟨e, he, hefits, rfl, rfl⟩ := ha
  obtain ⟨f, hf, hffits, rfl, rfl⟩ := hb
  obtain ⟨x, hx⟩ := hefits.exists_denotes
  obtain ⟨y, hy⟩ := hffits.exists_denotes
  have hevaluate := (evaluate_eq_ok_iff_of_trimmed he.trimmed).2 ⟨e, he, hx⟩
  rw [(evaluate_eq_ok_iff_of_trimmed he.trimmed).2 ⟨f, hf, hy⟩] at hevaluate
  cases hevaluate
  exact ⟨hx.scale.symm.trans hy.scale, hx.exponents.symm.trans hy.exponents⟩

/-! ## What joins parts of an expression -/

/-- A character that joins atoms to powers and products. -/
def Joins (c : Char) : Prop :=
  c = '/' ∨ c = '*' ∨ c = '^' ∨ c = '·' ∨ c = '²' ∨ c = '³' ∨ isBlank c = true

/-- An exponent has a character that joins. -/
theorem Raises.exists_joins {n : Int} {s r : List Char} (h : Raises n s r) :
    ∃ c ∈ s, Joins c := by
  cases h with
  | caret hs => exact ⟨'^', hs.suffix.subset (.head _), by simp [Joins]⟩
  | stars hs => exact ⟨'*', hs.suffix.subset (.head _), by simp [Joins]⟩
  | square _ hs => exact ⟨'²', hs.suffix.subset (.head _), by simp [Joins]⟩
  | cube _ hs => exact ⟨'³', hs.suffix.subset (.head _), by simp [Joins]⟩

/-- A separator has a character that joins. -/
theorem Separates.exists_joins {s r : List Char} {separator : Separator}
    (h : Separates s r separator) : ∃ c ∈ s, Joins c := by
  cases h with
  | star hs => exact ⟨'*', hs.suffix.subset (.head _), by simp [Joins]⟩
  | dot hs => exact ⟨'·', hs.suffix.subset (.head _), by simp [Joins]⟩
  | slash hs => exact ⟨'/', hs.suffix.subset (.head _), by simp [Joins]⟩
  | blanks hs hne =>
    obtain ⟨b, hb, rfl⟩ := hs
    cases b with
    | nil => exact absurd rfl hne
    | cons c b => exact ⟨c, .head _, by simp [Joins, hb c (.head _)]⟩

/-- A product in which nothing is joined is an atom. -/
theorem Spells.atom_of_not_joins {e : Tree α} {s r : List Char} (h : Spells .product e s r)
    (hs : ∀ c ∈ s, ¬ Joins c) : Spells .atom e s r := by
  cases h with
  | single hpower =>
    cases hpower with
    | plain hatom => exact hatom
    | raised hatom hraises =>
      obtain ⟨c, hc, hjoins⟩ := hraises.exists_joins
      exact absurd hjoins (hs c (hatom.ends.suffix.subset hc))
  | join hleft hseparates =>
    obtain ⟨c, hc, hjoins⟩ := hseparates.exists_joins
    exact absurd hjoins (hs c (hleft.ends.suffix.subset hc))

end UnitExpression

namespace PhysicalUnit

/-! ## Operands -/

/-- The symbol keeps its meaning as a part of a larger one: it is put in parentheses, or it is
written as such a part. -/
def Operand (α : Type) [Scalar α] (part : Part) (symbol : String) : Prop :=
  grouped symbol ≠ symbol ∨ ∃ (scale : α) (exponents : List Int), Writes part symbol scale exponents

/-- A symbol is put in parentheses or left as it is. -/
theorem grouped_eq (symbol : String) :
    grouped symbol = symbol ∨ grouped symbol = "(" ++ symbol ++ ")" := by
  unfold grouped
  split
  · exact .inr rfl
  · exact .inl rfl

/-- A symbol is not put in parentheses if it holds none of four characters. -/
@[simp] theorem grouped_eq_self_iff {symbol : String} :
    grouped symbol = symbol ↔
      ∀ c ∈ symbol.toList, c ≠ '/' ∧ c ≠ '*' ∧ c ≠ ' ' ∧ c ≠ '^' := by
  unfold grouped
  split_ifs with hany
  · refine iff_of_false (fun heq => ?_) fun hall => ?_
    · have hlength := congrArg String.length heq
      rw [String.length_append, String.length_append] at hlength
      change 1 + symbol.length + 1 = symbol.length at hlength
      omega
    · obtain ⟨c, hc, hgroups⟩ := List.any_eq_true.1 hany
      simp [hall c hc] at hgroups
  · simp only [List.any_eq_true, decide_eq_true_eq, not_exists, not_and, not_or] at hany
    exact iff_of_true rfl hany

/-- An operand keeps its meaning. -/
theorem writes_grouped {part : Part} {symbol : String} {scale : α} {exponents : List Int}
    (h : Writes .product symbol scale exponents) (hoperand : Operand α part symbol) :
    Writes part (grouped symbol) scale exponents := by
  rcases grouped_eq symbol with heq | heq
  · obtain ⟨a, v, hwrites⟩ := hoperand.resolve_left (not_not_intro heq)
    obtain ⟨rfl, rfl⟩ := h.unique hwrites.toProduct
    rwa [heq]
  · rw [heq]
    exact h.group.ofAtom part

/-- A first factor keeps its meaning, in parentheses or without. -/
theorem writes_grouped_product {symbol : String} {scale : α} {exponents : List Int}
    (h : Writes .product symbol scale exponents) :
    Writes .product (grouped symbol) scale exponents :=
  writes_grouped h (.inr ⟨scale, exponents, h⟩)

/-- A character that the grammar gives a meaning between or behind operands, and for which an
operand is not put in parentheses. -/
def overlooked (c : Char) : Bool := c = '·' || c = '²' || c = '³' || isBlank c && c ≠ ' '

/-- A symbol without the characters that are overlooked keeps its meaning as any part. -/
theorem operand_of_not_overlooked {symbol : String} {scale : α} {exponents : List Int}
    (h : Writes .product symbol scale exponents)
    (hsymbol : ∀ c ∈ symbol.toList, overlooked c = false) (part : Part) :
    Operand α part symbol := by
  by_cases hgrouped : grouped symbol = symbol
  · refine .inr ⟨scale, exponents, ?_⟩
    obtain ⟨e, hspells, he⟩ := h
    have hatom : Writes .atom symbol scale exponents := by
      refine ⟨e, hspells.atom_of_not_joins fun c hc hjoins => ?_, he⟩
      have hnot := hsymbol c hc
      obtain ⟨hslash, hstar, hspace, hcaret⟩ := grouped_eq_self_iff.1 hgrouped c hc
      rcases hjoins with rfl | rfl | rfl | rfl | rfl | rfl | hblank
      · exact hslash rfl
      · exact hstar rfl
      · exact hcaret rfl
      · cases hnot
      · cases hnot
      · cases hnot
      · simp [overlooked, hblank, hspace] at hnot
    exact hatom.ofAtom part
  · exact .inl hgrouped

end PhysicalUnit

end ElementAtlas
