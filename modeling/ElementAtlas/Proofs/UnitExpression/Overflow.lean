import ElementAtlas.Proofs.UnitExpression.Completeness

/-!
# Exponents out of range

A part of an expression whose tree does not fit is not read: the reader goes on up to the operation
that leaves the range of exponents, and fails there (`Spells.overflows`). So a text that the grammar
spells is evaluated to what its tree denotes, or fails for this reason alone
(`evaluate_eq_error_of_not_fits`).

As in the proof that what is spelled is read, the statement for a product is about what the reader
of factors does behind it (`Overflows`): a product fails where one of its factors does, and where
the factors behind it fail.
-/

namespace ElementAtlas.UnitExpression

open Text

variable {α : Type} [Scalar α] {b s t u r : List Char} {e right : Tree α} {f : Failure}

/-- The failure of an operation that leaves the range of exponents. -/
def overflow : Failure := .fault .exponentRange

/-! ## How failures are passed on -/

/-- An atom in parentheses fails with the product in them. -/
theorem atom_of_paren_error (hb : dropBlanks b = '(' :: t) (h : product (α := α) t = .error f) :
    atom (α := α) b = .error f := by
  obtain ⟨ht, hnext⟩ := exists_next? hb
  rw [atom]
  simp only [hnext, if_true, h]

/-- A power fails with its base. -/
theorem power_of_atom_error (h : atom (α := α) b = .error f) : power (α := α) b = .error f := by
  rw [power, h]

/-- A power that leaves the range of exponents fails for this. -/
theorem power_of_pow?_eq_none {base : Term α} {n : Int} (hatom : Reads (atom b) base t)
    (hexponent : Reads (exponent t) n r) (h : base.pow? n = none) :
    power (α := α) b = .error overflow := by
  obtain ⟨ht, hatom⟩ := hatom
  obtain ⟨hr, hexponent⟩ := hexponent
  rw [power]
  simp only [hatom, hexponent, h]
  rfl

/-- A product fails with its first factor. -/
theorem product_of_power_error (h : power (α := α) b = .error f) :
    product (α := α) b = .error f := by
  rw [product, h]

/-- A product fails with the factors behind its first one. -/
theorem product_of_factors_error {x : Term α} (hpower : Reads (power b) x r)
    (h : factors x r = .error f) : product (α := α) b = .error f := by
  obtain ⟨hr, hpower⟩ := hpower
  rw [product]
  simp only [hpower, h]

/-- Where two factors are separated, no parenthesis is closed. -/
theorem Separates.exists_next {c : Char} {v : List Char} {separator : Separator}
    (h : Separates t (c :: v) separator) (hc : BeginsAtom c) :
    ∃ d w, dropBlanks t = d :: w ∧ d ≠ ')' := by
  cases h with
  | star hs => exact ⟨'*', _, (blanks_iff (stops_cons.2 (by decide))).1 hs, by decide⟩
  | dot hs => exact ⟨'·', _, (blanks_iff (stops_cons.2 (by decide))).1 hs, by decide⟩
  | slash hs => exact ⟨'/', _, (blanks_iff (stops_cons.2 (by decide))).1 hs, by decide⟩
  | blanks hs =>
    refine ⟨c, v, (blanks_iff (stops_cons.2 hc.isBlank)).1 hs, ?_⟩
    rintro rfl
    exact not_beginsAtom (by decide) hc

/-- The factors after a product fail where the next power does, where it cannot be joined to the
product, and where the factors after it fail. -/
theorem factors_of_separates {x : Term α} {separator : Separator}
    (hseparates : Separates t u separator) (hright : Spells .power right u r)
    (h : ∀ b, dropBlanks b = u → power (α := α) b = .error f ∨
      ∃ y, Reads (power b) y r ∧ (f = overflow ∧ separator.apply? x y = none ∨
        ∃ w, separator.apply? x y = some w ∧ factors w r = .error f)) :
    factors x t = .error f := by
  obtain ⟨c, v, rfl, hc⟩ := hright.begins
  obtain ⟨⟨b, hlt⟩, hseparator, hb⟩ := hseparates.separator? hc
  obtain ⟨d, w, ht, hd⟩ := hseparates.exists_next hc
  obtain ⟨hw, hnext⟩ := exists_next? ht
  rw [factors]
  simp only [hnext, if_neg hd, hseparator]
  rcases h b hb with hpower | ⟨y, ⟨hr, hpower⟩, ⟨rfl, hjoin⟩ | ⟨w, hjoin, hfactors⟩⟩
  · simp only [hpower]
  · simp only [hpower, hjoin]
    rfl
  · simp only [hpower, hjoin, hfactors]

/-! ## Parts that do not fit -/

/-- The reader of the part fails, behind any blanks, if the tree does not fit. A product also fails
where the factors behind it do. -/
def Overflows : Part → Tree α → List Char → List Char → Prop
  | .atom, e, s, _ => ∀ b, dropBlanks b = s → ¬ e.Fits → atom (α := α) b = .error overflow
  | .power, e, s, r => Follows r → ∀ b, dropBlanks b = s → ¬ e.Fits →
      power (α := α) b = .error overflow
  | .product, e, s, r => Follows r → ∀ b f, dropBlanks b = s →
      (∀ x, e.Denotes x → factors x r = .error f) → (¬ e.Fits → f = overflow) →
      product (α := α) b = .error f

/-- What is spelled in the grammar and does not fit is not read. -/
theorem Spells.overflows {part : Part} (h : Spells part e s r) : Overflows part e s r := by
  induction h with
  | leaf _ => exact fun b _ hfits => absurd trivial hfits
  | @group e s t u r hs hspells hu ih =>
    intro b hb hfits
    have hclose : dropBlanks u = ')' :: r := (blanks_iff (stops_cons.2 (by decide))).1 hu
    refine atom_of_paren_error hb (ih (.close hclose) s overflow ?_ ?_ fun _ => rfl)
    · exact (blanks_iff hspells.stops_isBlank).1 hs
    · exact fun x hx => absurd hx.fits hfits
  | plain _ ih => exact fun _ b hb hfits => power_of_atom_error (ih b hb hfits)
  | @raised e n s t r hatom hraises ih =>
    intro hr b hb hfits
    by_cases hbase : e.Fits
    · obtain ⟨x, hx⟩ := hbase.exists_denotes
      refine power_of_pow?_eq_none (hatom.readable b x hb hx)
        (hraises.reads_exponent hr.stops_isDigit) ?_
      by_contra hpow
      obtain ⟨y, hy⟩ := Option.ne_none_iff_exists'.1 hpow
      exact hfits (hx.power_iff.2 hy).fits
    · exact power_of_atom_error (ih b hb hbase)
  | @single e s r hpower ih =>
    intro hr b f hb hfactors hf
    by_cases hfits : e.Fits
    · obtain ⟨x, hx⟩ := hfits.exists_denotes
      exact product_of_factors_error (hpower.readable hr b x hb hx) (hfactors x hx)
    · rw [hf hfits]
      exact product_of_power_error (ih hr b hb hfits)
  | @join left right separator s t u r hleft hseparates hright ihleft ihright =>
    intro hr b f hb hfactors hf
    refine ihleft (hright.follows hseparates) b f hb (fun x hx => ?_) fun hleftfits =>
      hf fun h => hleftfits h.1
    refine factors_of_separates hseparates hright fun b hb => ?_
    by_cases hfits : right.Fits
    · obtain ⟨y, hy⟩ := hfits.exists_denotes
      refine .inr ⟨y, hright.readable hr b y hb hy, ?_⟩
      cases hjoin : separator.apply? x y with
      | some w =>
        exact .inr ⟨w, rfl, hfactors w ((hx.join_iff hy).2 hjoin)⟩
      | none =>
        refine .inl ⟨hf fun h => ?_, rfl⟩
        obtain ⟨z, hz⟩ := h.exists_denotes
        rw [hx.join_iff hy, hjoin] at hz
        cases hz
    · rw [hf fun h => hfits h.2.1]
      exact .inl (ihright hr b hb hfits)

/-- A text that is spelled, but leaves the range of exponents, fails for that reason. -/
theorem evaluate_eq_error_of_not_fits (h : Spells .product e s []) (hfits : ¬ e.Fits) :
    evaluate (α := α) s = .error overflow := by
  have hproduct : product (α := α) s = .error overflow := by
    refine h.overflows (.done rfl) s overflow (dropBlanks_of_stops h.stops_isBlank) ?_ fun _ => rfl
    exact fun x hx => absurd hx.fits hfits
  rw [evaluate, hproduct]

end ElementAtlas.UnitExpression
