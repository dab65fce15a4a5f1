import ElementAtlas.Proofs.UnitExpression.Lexical

/-!
# The reader reads what the grammar spells

The readers of atoms, powers and products are told by what they read (`reads_atom_iff` and the
statements after it). Whatever they read is a part of an expression in the grammar, and the term
they return is what the tree of that part denotes (`sound`). The proof is an induction on the length
of the text: an atom in parentheses and the factors after a product are read from shorter texts.
-/

namespace ElementAtlas.UnitExpression

open Text

variable {α : Type} [Scalar α]

/-! ## Names and numbers -/

/-- A reading that has failed gives no result. -/
theorem not_reads_error {β : Type} {P : List Char → Prop} {failure : Failure} {x : β}
    {r : List Char} : ¬ Reads (P := P) (.error failure) x r :=
  nofun

/-- No name begins with a digit. -/
@[grind →]
theorem isDigit_of_beginsName {c : Char} (h : beginsName c = true) : c.isDigit = false := by
  rw [Bool.eq_false_iff]
  intro hdigit
  simp only [beginsName, isLetter_of_isDigit hdigit, Bool.false_or, Bool.or_eq_true,
    decide_eq_true_eq] at h
  obtain (rfl | rfl) | rfl := h <;> exact absurd hdigit (by decide)

/-- What begins with a digit is a number. -/
theorem names_iff_of_isDigit {c : Char} {t r : List Char} {x : Term α} (hc : c.isDigit = true) :
    Names x (c :: t) r ↔
      ∃ run, t = run ++ r ∧ (∀ d ∈ run, continuesNumber d = true) ∧ Stops continuesNumber r ∧
        (c :: run).count '.' ≤ 1 ∧ x = ⟨numeral (c :: run), .dimensionless⟩ := by
  refine ⟨fun h => ?_, ?_⟩
  · generalize hs : c :: t = s at h
    cases h with
    | unit hname =>
      grind
    | number _ hall hstops hcount =>
      cases hs
      exact ⟨_, rfl, hall, hstops, hcount, rfl⟩
  · rintro ⟨run, rfl, hall, hstops, hcount, rfl⟩
    exact .number hc hall hstops hcount

/-- What begins like a name is the name of a unit. -/
theorem names_iff_of_beginsName {c : Char} {t r : List Char} {x : Term α}
    (hc : beginsName c = true) :
    Names x (c :: t) r ↔
      ∃ run unit, t = run ++ r ∧ (∀ d ∈ run, continuesName d = true) ∧ Stops continuesName r ∧
        KnownUnit.find? (String.ofList (c :: run)) = some unit ∧
        x = ⟨unit.scale, unit.dimension⟩ := by
  refine ⟨fun h => ?_, ?_⟩
  · generalize hs : c :: t = s at h
    cases h with
    | unit _ hall hstops hfind =>
      cases hs
      exact ⟨_, _, rfl, hall, hstops, hfind, rfl⟩
    | number hdigit =>
      grind
  · rintro ⟨run, unit, rfl, hall, hstops, hfind, rfl⟩
    exact .unit hc hall hstops hfind

/-- A name begins with a character of names, a number with a digit. -/
theorem Names.begins {s r : List Char} {x : Term α} (h : Names x s r) :
    ∃ c t, s = c :: t ∧ (c.isDigit = true ∨ beginsName c = true) := by
  cases h with
  | unit hname => exact ⟨_, _, rfl, .inr hname⟩
  | number hdigit => exact ⟨_, _, rfl, .inl hdigit⟩

/-! ## Atoms -/

section
variable {b t r : List Char} {c : Char} {x : Term α}

/-- A parenthesis is followed by a product and closed. -/
theorem reads_atom_of_paren (hb : dropBlanks b = '(' :: t) :
    Reads (atom b) x r ↔ Reads (product t) x (')' :: r) := by
  obtain ⟨ht, hnext⟩ := exists_next? hb
  rw [atom]
  simp only [hnext, if_true]
  cases hproduct : product (α := α) t with
  | error failure => exact iff_of_false not_reads_error not_reads_error
  | ok read =>
    obtain ⟨value, u⟩ := read
    rw [reads_ok_iff]
    cases hafter : after? ')' u.1 with
    | none =>
      simp only [hafter]
      refine iff_of_false not_reads_error fun h => ?_
      exact after?_eq_none_iff.1 hafter r h.2
    | some v =>
      simp only [hafter, reads_ok_iff, after?_eq_some_iff.1 hafter, List.cons.injEq, true_and]
      rfl

/-- A number is read from its first digit on. -/
theorem reads_atom_of_isDigit (hb : dropBlanks b = c :: t) (hc : c.isDigit = true) :
    Reads (atom b) x r ↔ Names x (c :: t) r := by
  obtain ⟨ht, hnext⟩ := exists_next? hb
  have hparen : c ≠ '(' := by
    rintro rfl
    cases hc
  rw [atom, names_iff_of_isDigit hc]
  simp only [hnext, if_neg hparen, if_pos hc]
  refine ⟨fun h => ?_, ?_⟩
  · split at h
    · exact absurd h not_reads_error
    next scale hnumber =>
      obtain ⟨rfl, rfl⟩ := reads_ok_iff.1 h
      obtain ⟨hcount, rfl⟩ := number?_eq_some_iff.1 hnumber
      obtain ⟨heq, hall, hstops⟩ := spanWhile_eq_iff.1 ⟨rfl, rfl⟩
      exact ⟨_, heq, hall, hstops, hcount, rfl⟩
  · rintro ⟨run, heq, hall, hstops, hcount, rfl⟩
    obtain ⟨rfl, rfl⟩ := spanWhile_eq_iff.2 ⟨heq, hall, hstops⟩
    have hnumber : (number? (c :: (spanWhile continuesNumber t).1) : Option α) = some _ :=
      number?_eq_some_iff.2 ⟨hcount, rfl⟩
    unfold continuesNumber at hnumber
    simp only [hnumber]
    exact reads_ok_iff.2 ⟨rfl, rfl⟩

/-- A name is read from its first character on. -/
theorem reads_atom_of_beginsName (hb : dropBlanks b = c :: t) (hc : beginsName c = true) :
    Reads (atom b) x r ↔ Names x (c :: t) r := by
  obtain ⟨ht, hnext⟩ := exists_next? hb
  have hparen : c ≠ '(' := by
    rintro rfl
    exact absurd hc (by decide)
  rw [atom, names_iff_of_beginsName hc]
  simp only [hnext, if_neg hparen, isDigit_of_beginsName hc, Bool.false_eq_true, if_false,
    if_pos hc]
  refine ⟨fun h => ?_, ?_⟩
  · split at h
    · exact absurd h not_reads_error
    next unit hfind =>
      obtain ⟨rfl, rfl⟩ := reads_ok_iff.1 h
      obtain ⟨heq, hall, hstops⟩ := spanWhile_eq_iff.1 ⟨rfl, rfl⟩
      exact ⟨_, unit, heq, hall, hstops, hfind, rfl⟩
  · rintro ⟨run, unit, heq, hall, hstops, hfind, rfl⟩
    obtain ⟨rfl, rfl⟩ := spanWhile_eq_iff.2 ⟨heq, hall, hstops⟩
    rw [hfind]
    exact reads_ok_iff.2 ⟨rfl, rfl⟩

/-- Where no atom begins, none is read. -/
theorem not_reads_atom (hb : ∀ c t, dropBlanks b = c :: t → ¬ BeginsAtom c) :
    ¬ Reads (atom b) x r := by
  rw [atom]
  cases heq : dropBlanks b with
  | nil =>
    rw [next?_eq_none_iff.2 heq]
    exact not_reads_error
  | cons c t =>
    obtain ⟨ht, hnext⟩ := exists_next? heq
    have hc := hb c t heq
    simp only [BeginsAtom, not_or] at hc
    simp only [hnext, if_neg hc.1, if_neg hc.2.1, if_neg hc.2.2]
    exact not_reads_error

/-- An atom is a name or a number, or a product in parentheses. -/
theorem reads_atom_iff :
    Reads (atom b) x r ↔
      Names x (dropBlanks b) r ∨
        ∃ t, dropBlanks b = '(' :: t ∧ Reads (product t) x (')' :: r) := by
  refine ⟨fun h => ?_, ?_⟩
  · cases hb : dropBlanks b with
    | nil => exact absurd h (not_reads_atom (by simp [hb]))
    | cons c t =>
      by_cases hc : BeginsAtom c
      · rcases hc with rfl | hdigit | hname
        · exact .inr ⟨t, rfl, (reads_atom_of_paren hb).1 h⟩
        · exact .inl ((reads_atom_of_isDigit hb hdigit).1 h)
        · exact .inl ((reads_atom_of_beginsName hb hname).1 h)
      · refine absurd h (not_reads_atom fun d u heq => ?_)
        cases hb.symm.trans heq
        exact hc
  · rintro (h | ⟨t, heq, h⟩)
    · obtain ⟨c, t, heq, hdigit | hname⟩ := h.begins
      · exact (reads_atom_of_isDigit heq hdigit).2 (heq ▸ h)
      · exact (reads_atom_of_beginsName heq hname).2 (heq ▸ h)
    · exact (reads_atom_of_paren heq).2 h

end

/-! ## Powers, factors and products -/

/-- A power is an atom and its exponent, if the exponents of the power are in range. -/
theorem reads_power_iff {b r : List Char} {x : Term α} :
    Reads (power b) x r ↔
      ∃ base n t, Reads (atom b) base t ∧ Reads (exponent t) n r ∧ base.pow? n = some x := by
  rw [power]
  refine ⟨fun h => ?_, ?_⟩
  · split at h
    · exact absurd h not_reads_error
    next base t hatom =>
      split at h
      · exact absurd h not_reads_error
      next n u hexponent =>
        split at h
        · exact absurd h not_reads_error
        next value hpow =>
          obtain ⟨rfl, rfl⟩ := reads_ok_iff.1 h
          exact ⟨base, n, t.1, ⟨t.2, hatom⟩, ⟨u.2, hexponent⟩, hpow⟩
  · rintro ⟨base, n, t, ⟨ht, hatom⟩, ⟨hr, hexponent⟩, hpow⟩
    simp only [hatom, hexponent, hpow]
    exact reads_ok_iff.2 ⟨rfl, rfl⟩

/-- Factors end where the text ends. -/
theorem reads_factors_of_end {s q : List Char} {v y : Term α} (hs : dropBlanks s = []) :
    Reads (factors v s) y q ↔ v = y ∧ [] = q := by
  rw [factors, next?_eq_none_iff.2 hs]
  exact reads_ok_iff

/-- Factors end at a closing parenthesis, which is not read. -/
theorem reads_factors_of_close {s t q : List Char} {v y : Term α} (hs : dropBlanks s = ')' :: t) :
    Reads (factors v s) y q ↔ v = y ∧ ')' :: t = q := by
  obtain ⟨hlt, hnext⟩ := exists_next? hs
  rw [factors, hnext]
  exact reads_ok_iff

/-- Anywhere else factors go on with a separator and a power, which the product is joined to. -/
theorem reads_factors_of_next {s t q : List Char} {c : Char} {v y : Term α}
    (hs : dropBlanks s = c :: t) (hc : c ≠ ')') :
    Reads (factors v s) y q ↔
      ∃ separator next w r, ∃ u : Rest s, separator? s = some (separator, u) ∧
        Reads (power u.1) next r ∧ separator.apply? v next = some w ∧
        Reads (factors w r) y q := by
  obtain ⟨hlt, hnext⟩ := exists_next? hs
  rw [factors]
  simp only [hnext, if_neg hc]
  refine ⟨fun h => ?_, ?_⟩
  · split at h
    · exact absurd h not_reads_error
    next separator u hu hseparator =>
      split at h
      · exact absurd h not_reads_error
      next next r hr hpower =>
        split at h
        · exact absurd h not_reads_error
        next w hjoin =>
          split at h
          · exact absurd h not_reads_error
          next value p hfactors =>
            obtain ⟨rfl, rfl⟩ := reads_ok_iff.1 h
            exact ⟨separator, next, w, r, ⟨u, hu⟩, hseparator, ⟨hr, hpower⟩, hjoin,
              ⟨p.2, hfactors⟩⟩
  · rintro ⟨separator, next, w, r, ⟨u, hu⟩, hseparator, ⟨hr, hpower⟩, hjoin, ⟨hq, hfactors⟩⟩
    simp only [hseparator, hpower, hjoin, hfactors]
    exact reads_ok_iff.2 ⟨rfl, rfl⟩

/-- After a product stands nothing, a closing parenthesis, or a separator, a power that the product
is joined to, and further factors. -/
theorem reads_factors_iff {s q : List Char} {v y : Term α} :
    Reads (factors v s) y q ↔
      (v = y ∧ dropBlanks s = q ∧ (q = [] ∨ ∃ t, q = ')' :: t)) ∨
        ∃ separator next w r, ∃ u : Rest s, (∀ t, dropBlanks s ≠ ')' :: t) ∧
          separator? s = some (separator, u) ∧ Reads (power u.1) next r ∧
          separator.apply? v next = some w ∧ Reads (factors w r) y q := by
  cases hs : dropBlanks s with
  | nil =>
    rw [reads_factors_of_end hs]
    refine ⟨fun ⟨hv, hq⟩ => .inl ⟨hv, hq, .inl hq.symm⟩, ?_⟩
    rintro (⟨hv, hq, -⟩ | ⟨separator, next, w, r, u, -, hseparator, -⟩)
    · exact ⟨hv, hq⟩
    · rw [separator?, next?_eq_none_iff.2 hs] at hseparator
      cases hseparator
  | cons c t =>
    by_cases hc : c = ')'
    · subst hc
      rw [reads_factors_of_close hs]
      refine ⟨fun ⟨hv, hq⟩ => .inl ⟨hv, hq, .inr ⟨t, hq.symm⟩⟩, ?_⟩
      rintro (⟨hv, hq, -⟩ | ⟨separator, next, w, r, u, hclose, -⟩)
      · exact ⟨hv, hq⟩
      · exact absurd rfl (hclose t)
    · rw [reads_factors_of_next hs hc]
      refine ⟨?_, ?_⟩
      · rintro ⟨separator, next, w, r, u, h⟩
        exact .inr ⟨separator, next, w, r, u, fun t' heq => hc (List.cons.inj heq).1, h⟩
      · rintro (⟨-, hq, rfl | ⟨t', rfl⟩⟩ | ⟨separator, next, w, r, u, -, h⟩)
        · cases hq
        · exact absurd (List.cons.inj hq).1 hc
        · exact ⟨separator, next, w, r, u, h⟩

/-- A product is a power and the factors after it. -/
theorem reads_product_iff {b q : List Char} {x : Term α} :
    Reads (product b) x q ↔ ∃ v r, Reads (power b) v r ∧ Reads (factors v r) x q := by
  rw [product]
  refine ⟨fun h => ?_, ?_⟩
  · split at h
    · exact absurd h not_reads_error
    next v r hr hpower =>
      split at h
      · exact absurd h not_reads_error
      next value p hfactors =>
        obtain ⟨rfl, rfl⟩ := reads_ok_iff.1 h
        exact ⟨v, r, ⟨hr, hpower⟩, ⟨p.2, hfactors⟩⟩
  · rintro ⟨v, r, ⟨hr, hpower⟩, ⟨hq, hfactors⟩⟩
    simp only [hpower, hfactors]
    exact reads_ok_iff.2 ⟨rfl, rfl⟩

/-! ## Soundness -/

/-- Every part of an expression begins like an atom. -/
theorem Spells.begins {part : Part} {e : Tree α} {s r : List Char} (h : Spells part e s r) :
    ∃ c t, s = c :: t ∧ BeginsAtom c := by
  induction h with
  | leaf hnames =>
    obtain ⟨c, t, heq, hc⟩ := hnames.begins
    exact ⟨c, t, heq, .inr hc⟩
  | group => exact ⟨'(', _, rfl, .inl rfl⟩
  | plain _ ih => exact ih
  | raised _ _ ih => exact ih
  | single _ ih => exact ih
  | join _ _ _ ih => exact ih

/-- No part of an expression begins with a blank. -/
theorem Spells.stops_isBlank {part : Part} {e : Tree α} {s r : List Char} (h : Spells part e s r) :
    Stops isBlank s := by
  obtain ⟨c, t, rfl, hc⟩ := h.begins
  exact stops_cons.2 hc.isBlank

/-- What the readers of a text return is what the grammar spells there. Factors are read after a
product, which they continue. -/
structure Sound (α : Type) [Scalar α] (b : List Char) : Prop where
  power {x : Term α} {r : List Char} : Reads (power b) x r →
    ∃ e, Spells .power e (dropBlanks b) r ∧ e.Denotes x
  factors {x y : Term α} {q : List Char} : Reads (factors x b) y q →
    ∀ left s, Spells .product left s b → left.Denotes x →
      ∃ e r, Spells .product e s r ∧ dropBlanks r = q ∧ e.Denotes y
  product {x : Term α} {q : List Char} : Reads (product b) x q →
    ∃ e r, Spells .product e (dropBlanks b) r ∧ dropBlanks r = q ∧ e.Denotes x

/-- The atom that is read is spelled by a tree, if that holds of shorter texts. -/
theorem sound_atom {b : List Char} (ih : ∀ t, t.length < b.length → Sound α t) {x : Term α}
    {r : List Char} (h : Reads (atom b) x r) :
    ∃ e, Spells .atom e (dropBlanks b) r ∧ e.Denotes x := by
  rcases reads_atom_iff.1 h with hnames | ⟨t, ht, hproduct⟩
  · exact ⟨.leaf x, .leaf hnames, .leaf x⟩
  · obtain ⟨hlt, -⟩ := exists_next? ht
    obtain ⟨e, u, hspells, hu, hdenotes⟩ := (ih t hlt).product hproduct
    rw [ht]
    exact ⟨e, .group (blanks_dropBlanks t) hspells (hu ▸ blanks_dropBlanks u), hdenotes⟩

/-- The power that is read is spelled by a tree, if that holds of shorter texts. -/
theorem sound_power {b : List Char} (ih : ∀ t, t.length < b.length → Sound α t) {x : Term α}
    {r : List Char} (h : Reads (power b) x r) :
    ∃ e, Spells .power e (dropBlanks b) r ∧ e.Denotes x := by
  obtain ⟨base, n, t, hatom, hexponent, hpow⟩ := reads_power_iff.1 h
  obtain ⟨e, hspells, hdenotes⟩ := sound_atom ih hatom
  rcases raises_of_reads_exponent hexponent with ⟨rfl, rfl⟩ | hraises
  · rw [Term.pow?_one] at hpow
    cases hpow
    exact ⟨e, .plain hspells, hdenotes⟩
  · exact ⟨.power e n, .raised hspells hraises, Tree.denotes_power_iff.2 ⟨base, hdenotes, hpow⟩⟩

/-- The factors that are read are spelled by a tree, with what stands before them, if that holds of
shorter texts. -/
theorem sound_factors {b : List Char} (ih : ∀ t, t.length < b.length → Sound α t) {x y : Term α}
    {q : List Char} (h : Reads (factors x b) y q) (left : Tree α) (s : List Char)
    (hleft : Spells .product left s b) (hx : left.Denotes x) :
    ∃ e r, Spells .product e s r ∧ dropBlanks r = q ∧ e.Denotes y := by
  rcases reads_factors_iff.1 h with ⟨rfl, hq, -⟩ |
    ⟨separator, next, w, r, u, -, hseparator, hpower, hjoin, hfactors⟩
  · exact ⟨left, b, hleft, hq, hx⟩
  · obtain ⟨right, hright, hnext⟩ := (ih u.1 u.2).power hpower
    have hsep := separates_of_separator? hseparator (blanks_dropBlanks u.1) hright.stops_isBlank
    have hlt : r.length < b.length := by
      obtain ⟨hr, -⟩ := hpower
      exact Nat.lt_trans hr u.2
    refine (ih r hlt).factors hfactors (.join left separator right) s (.join hleft hsep hright) ?_
    exact Tree.denotes_join_iff.2 ⟨x, next, hx, hnext, hjoin⟩

/-- The product that is read is spelled by a tree, if that holds of shorter texts. -/
theorem sound_product {b : List Char} (ih : ∀ t, t.length < b.length → Sound α t) {x : Term α}
    {q : List Char} (h : Reads (product b) x q) :
    ∃ e r, Spells .product e (dropBlanks b) r ∧ dropBlanks r = q ∧ e.Denotes x := by
  obtain ⟨v, r, hpower, hfactors⟩ := reads_product_iff.1 h
  obtain ⟨e, hspells, hv⟩ := sound_power ih hpower
  obtain ⟨hlt, -⟩ := hpower
  exact (ih r hlt).factors hfactors e (dropBlanks b) (.single hspells) hv

/-- Whatever the readers return is spelled in the grammar, and is what its tree denotes. -/
theorem sound (b : List Char) : Sound α b := by
  induction hn : b.length using Nat.strong_induction_on generalizing b with
  | h n ih =>
    have ih' : ∀ t, t.length < b.length → Sound α t := fun t ht => ih t.length (hn ▸ ht) t rfl
    exact ⟨sound_power ih', sound_factors ih', sound_product ih'⟩

end ElementAtlas.UnitExpression
