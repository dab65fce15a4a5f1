import ElementAtlas.Proofs.UnitExpression.Nesting

/-!
# Progress of the readers

A reader is given a text from a position on and leaves the text from a later position on
(`exists_pos_of_suffix`), since what it leaves is shorter and an end of what it was given. Both are
positions between characters of the same text. Together with what is shown about parentheses, this
is what the readers do wherever they start in a text (`reading_progresses`).
-/

namespace ElementAtlas.UnitExpression

open Text

variable {text : String} {p q : text.Pos} {s r : List Char}

/-! ## Positions -/

/-- The text from a position to its end. -/
def textFrom (p : text.Pos) : List Char := (text.sliceFrom p).copy.toList

/-- A position splits the text into what stands before it and what stands from it on. -/
theorem splits_textFrom (p : text.Pos) :
    p.Splits (text.sliceTo p).copy (String.ofList (textFrom p)) := by
  rw [textFrom, String.ofList_toList]
  exact p.splits

/-- What is left after a part of a text is the text from a later position. -/
theorem exists_pos_of_suffix (h : r <:+ textFrom p) (hlt : r.length < (textFrom p).length) :
    ∃ q : text.Pos, p < q ∧ textFrom q = r := by
  obtain ⟨w, hw⟩ := h
  have hsplit : text = ((text.sliceTo p).copy ++ String.ofList w) ++ String.ofList r := by
    rw [String.append_assoc, ← String.ofList_append, hw]
    exact (splits_textFrom p).eq_append
  have hq := String.Pos.splits_ofEqAppend hsplit
  refine ⟨.ofEqAppend hsplit, ?_, ?_⟩
  · refine ((splits_textFrom p).lt_iff_exists_eq_append hq).2 ⟨String.ofList w, ?_, rfl, ?_⟩
    · intro hempty
      rw [String.ofList_eq_empty_iff] at hempty
      rw [← hw, hempty, List.nil_append] at hlt
      exact Nat.lt_irrefl _ hlt
    · rw [← String.ofList_append, hw]
  · rw [textFrom, hq.copy_sliceFrom_eq, String.toList_ofList]

/-- Nothing stands from a position on if and only if it is the end of the text. -/
@[simp] theorem textFrom_eq_nil_iff : textFrom p = [] ↔ p = text.endPos := by
  rw [textFrom, String.toList_eq_nil_iff, p.splits.eq_endPos_iff]

/-- The character at a position is the first one from it on. -/
theorem get_of_textFrom {c : Char} (h : textFrom p = c :: s) :
    ∃ hp : p ≠ text.endPos, p.get hp = c := by
  have hp : p ≠ text.endPos := by
    rw [← textFrom_eq_nil_iff.ne, h]
    exact List.cons_ne_nil c s
  obtain ⟨t, ht⟩ := p.splits.exists_eq_singleton_append hp
  rw [textFrom, ht, String.toList_append, String.toList_singleton] at h
  exact ⟨hp, (List.cons.inj h).1⟩

variable {α : Type} [Scalar α]

/-- The position is the end of the text, or a closing parenthesis stands there. -/
def ClosesAt (q : text.Pos) : Prop := q = text.endPos ∨ ∃ hq : q ≠ text.endPos, q.get hq = ')'

/-- What closes a product stands at the position of the text from it on. -/
theorem closesAt_of_closes (h : Closes (textFrom q)) : ClosesAt q := by
  rcases h with hnil | ⟨t, ht⟩
  · exact .inl (textFrom_eq_nil_iff.1 hnil)
  · exact .inr (get_of_textFrom ht)

/-- What a reader leaves is the text from a later position. -/
theorem exists_pos_of_reads {reader : (s : List Char) → Reading (Term α) s}
    (hreader : reader ∈ [atom, power, product]) {x : Term α} {r : Rest (textFrom p)}
    (h : reader (textFrom p) = .ok (x, r)) : ∃ q : text.Pos, p < q ∧ textFrom q = r.1 := by
  refine exists_pos_of_suffix ?_ r.2
  simp only [List.mem_cons, List.not_mem_nil, or_false] at hreader
  rcases hreader with rfl | rfl | rfl
  · exact (passes_of_reads_atom ⟨r.2, h⟩).suffix
  · exact (passes_of_reads_power ⟨r.2, h⟩).suffix
  · exact (passes_of_reads_product ⟨r.2, h⟩).suffix

/-- Wherever in a text the readers start, they come to a later position, and a product comes to one
where it is closed. A text is only said to go on behind its product if a closing parenthesis is
surplus, and no level of the readers is needed beyond one for each opening parenthesis. -/
theorem reading_progresses (text : String) (p : text.Pos) :
    (∀ reader ∈ [atom, power, product], ∀ (x : Term α) (r : Rest (textFrom p)),
      reader (textFrom p) = .ok (x, r) →
        ∃ q : text.Pos, p < q ∧ q ≤ text.endPos ∧ textFrom q = r.1) ∧
    (∀ (x : Term α) (r : Rest (textFrom p)), product (textFrom p) = .ok (x, r) →
      ∀ q : text.Pos, textFrom q = r.1 → ClosesAt q) ∧
    (∀ symbol, PhysicalUnit.parse (α := α) text = .error (.malformed symbol .unbalanced) →
      HasSurplus (trimBlanks text.toList)) ∧
    ∀ (stop : (t : List Char) → Reading (Term α) t) (depth : Nat),
      (textFrom p).count '(' ≤ depth →
        atomWith (productWithin stop depth) (textFrom p) = atom (textFrom p) ∧
        powerWith (productWithin stop depth) (textFrom p) = power (textFrom p) ∧
        productWith (productWithin stop depth) (textFrom p) = product (textFrom p) := by
  refine ⟨fun reader hreader x r h => ?_, fun x r h q hq => ?_,
    fun symbol => PhysicalUnit.hasSurplus_of_parse, fun stop depth hdepth => ?_⟩
  · obtain ⟨q, hlt, hq⟩ := exists_pos_of_reads hreader h
    exact ⟨q, hlt, q.le_endPos, hq⟩
  · exact closesAt_of_closes (hq ▸ closes_of_reads_product ⟨r.2, h⟩)
  · have hinner := readsBelow_productWithin stop depth
    exact ⟨atomWith_eq hinner hdepth, powerWith_eq hinner hdepth, productWith_eq hinner hdepth⟩

end ElementAtlas.UnitExpression
