import ElementAtlas.Proofs.PhysicalUnit.Parse
import ElementAtlas.Scalar.Rational

/-!
# Parentheses of a unit expression

Every part of an expression has as many closing parentheses as opening ones, each behind its partner
(`Spells.passes`), so the readers pass texts whose parentheses match. A product is read up to the
end of the text or up to a closing parenthesis (`closes_of_reads_product`). The failure for a text
that goes on behind its product comes from no reader (`neverSurplus`), but only from the check of
what the outermost product leaves. So there stands a closing parenthesis behind a text in which the
parentheses match: a surplus one (`hasSurplus_of_evaluate`).
-/

namespace ElementAtlas

namespace UnitExpression

open Text

/-! ## Texts with matching parentheses -/

/-- Every parenthesis of the text has its partner in it. -/
inductive Balanced : List Char → Prop
  | nil : Balanced []
  | cons {c : Char} {s : List Char} : c ≠ '(' → c ≠ ')' → Balanced s → Balanced (c :: s)
  | enclosed {s t : List Char} : Balanced s → Balanced t → Balanced ('(' :: s ++ ')' :: t)

/-- Texts with matching parentheses stand one behind the other. -/
theorem Balanced.append {s t : List Char} (hs : Balanced s) (ht : Balanced t) :
    Balanced (s ++ t) := by
  induction hs with
  | nil => exact ht
  | cons hopen hclose _ ih => exact .cons hopen hclose ih
  | enclosed hinner _ _ ih =>
    rw [List.append_assoc, List.cons_append]
    exact .enclosed hinner ih

/-- The parentheses between the front of `s` and the text `r` match. -/
def Passes (s r : List Char) : Prop := ∃ w, s = w ++ r ∧ Balanced w

namespace Passes

variable {s t r : List Char} {c : Char}

/-- Nothing stands between a text and itself. -/
theorem refl (s : List Char) : Passes s s := ⟨[], rfl, .nil⟩

/-- What is left is an end of the text. -/
theorem suffix (h : Passes s r) : r <:+ s := by
  obtain ⟨w, rfl, -⟩ := h
  exact List.suffix_append w r

/-- Parts that are passed one after the other are passed together. -/
theorem trans (h : Passes s t) (h' : Passes t r) : Passes s r := by
  obtain ⟨w, rfl, hw⟩ := h
  obtain ⟨v, rfl, hv⟩ := h'
  exact ⟨w ++ v, (List.append_assoc w v r).symm, hw.append hv⟩

/-- A character that is no parenthesis is passed before what is passed. -/
theorem cons (hopen : c ≠ '(') (hclose : c ≠ ')') (h : Passes s r) : Passes (c :: s) r := by
  obtain ⟨w, rfl, hw⟩ := h
  exact ⟨c :: w, rfl, .cons hopen hclose hw⟩

/-- What is passed before a closing parenthesis is passed with its parentheses. -/
theorem enclosed (h : Passes s (')' :: r)) : Passes ('(' :: s) r := by
  obtain ⟨w, rfl, hw⟩ := h
  exact ⟨'(' :: w ++ [')'], by simp, .enclosed hw .nil⟩

/-- Characters of a class without parentheses are passed. -/
theorem run {p : Char → Bool} {w : List Char} (hopen : p '(' = false) (hclose : p ')' = false)
    (hall : ∀ c ∈ w, p c = true) : Passes (w ++ r) r := by
  induction w with
  | nil => exact .refl r
  | cons c w ih =>
    obtain ⟨hc, hw⟩ := List.forall_mem_cons.1 hall
    refine (ih hw).cons ?_ ?_
    · rintro rfl
      cases hopen.symm.trans hc
    · rintro rfl
      cases hclose.symm.trans hc

end Passes

/-! ## Parts of an expression -/

section
variable {s r : List Char}

/-- Blanks have no parentheses. -/
theorem Passes.of_blanks (h : Blanks s r) : Passes s r := by
  obtain ⟨b, hb, rfl⟩ := h
  exact .run (by decide) (by decide) hb

/-- A sign that is no parenthesis is passed with the blanks before it. -/
theorem Passes.of_sign {t : List Char} {c : Char} (h : Blanks s (c :: t)) (hopen : c ≠ '(')
    (hclose : c ≠ ')') (ht : Passes t r) : Passes s r :=
  (Passes.of_blanks h).trans (ht.cons hopen hclose)

/-- Integers have no parentheses. -/
theorem WrittenInteger.passes {n : Int} (h : WrittenInteger n s r) : Passes s r := by
  cases h with
  | positive _ hall heq =>
    subst heq
    exact .run rfl rfl hall
  | negative _ hall heq =>
    subst heq
    exact (Passes.run rfl rfl hall).cons (by decide) (by decide)

/-- Exponents have no parentheses. -/
theorem Raises.passes {n : Int} (h : Raises n s r) : Passes s r := by
  cases h with
  | caret hs ht hn =>
    exact .of_sign hs (by decide) (by decide) ((Passes.of_blanks ht).trans hn.passes)
  | stars hs ht hn =>
    refine .of_sign hs (by decide) (by decide) (.cons (by decide) (by decide) ?_)
    exact (Passes.of_blanks ht).trans hn.passes
  | square _ hs => exact .of_sign hs (by decide) (by decide) (.refl r)
  | cube _ hs => exact .of_sign hs (by decide) (by decide) (.refl r)

/-- What separates two factors has no parentheses. -/
theorem Separates.passes {separator : Separator} (h : Separates s r separator) : Passes s r := by
  cases h with
  | star hs hr => exact .of_sign hs (by decide) (by decide) (.of_blanks hr)
  | dot hs hr => exact .of_sign hs (by decide) (by decide) (.of_blanks hr)
  | slash hs hr => exact .of_sign hs (by decide) (by decide) (.of_blanks hr)
  | blanks hs => exact .of_blanks hs

variable {α : Type} [Scalar α]

/-- Names and numbers have no parentheses. -/
theorem Names.passes {term : Term α} (h : Names term s r) : Passes s r := by
  obtain ⟨run, rfl, -, hname | hnumber⟩ := h.exists_run
  · exact .run (by decide +kernel) (by decide +kernel) hname
  · exact .run rfl rfl hnumber

/-- The parentheses of a part of an expression match. -/
theorem Spells.passes {part : Part} {e : Tree α} (h : Spells part e s r) : Passes s r := by
  induction h with
  | leaf hnames => exact hnames.passes
  | group hs _ hu ih => exact .enclosed ((Passes.of_blanks hs).trans (ih.trans (.of_blanks hu)))
  | plain _ ih => exact ih
  | raised _ hraises ih => exact ih.trans hraises.passes
  | single _ ih => exact ih
  | join _ hseparates _ ihleft ihright => exact ihleft.trans (hseparates.passes.trans ihright)

end

/-! ## What the readers leave -/

section
variable {α : Type} [Scalar α] {b r q : List Char} {x y : Term α}

/-- The parentheses of an atom that is read match. -/
theorem passes_of_reads_atom (h : Reads (atom b) x r) : Passes b r := by
  obtain ⟨e, hspells, -⟩ := sound_atom (fun t _ => sound t) h
  exact (Passes.of_blanks (blanks_dropBlanks b)).trans hspells.passes

/-- The parentheses of a power that is read match. -/
theorem passes_of_reads_power (h : Reads (power b) x r) : Passes b r := by
  obtain ⟨e, hspells, -⟩ := (sound b).power h
  exact (Passes.of_blanks (blanks_dropBlanks b)).trans hspells.passes

/-- The parentheses of a product that is read match. -/
theorem passes_of_reads_product (h : Reads (product b) x q) : Passes b q := by
  obtain ⟨e, r, hspells, rfl, -⟩ := (sound b).product h
  exact (Passes.of_blanks (blanks_dropBlanks b)).trans
    (hspells.passes.trans (.of_blanks (blanks_dropBlanks r)))

/-- The end of a text, or a closing parenthesis in front. -/
def Closes (s : List Char) : Prop := s = [] ∨ ∃ t, s = ')' :: t

/-- Factors are read up to the end of the text or a closing parenthesis. The induction is on the
length of the text, which every factor makes shorter. -/
theorem closes_of_reads_factors (h : Reads (factors x b) y q) : Closes q := by
  induction hn : b.length using Nat.strong_induction_on generalizing b x with
  | h n ih =>
    rcases reads_factors_iff.1 h with ⟨-, -, hq⟩ | ⟨_, _, w, r, u, -, -, ⟨hr, -⟩, -, hfactors⟩
    · exact hq
    · exact ih r.length (hn ▸ Nat.lt_trans hr u.2) hfactors rfl

/-- A product is read up to the end of the text or a closing parenthesis. -/
theorem closes_of_reads_product (h : Reads (product b) x q) : Closes q := by
  obtain ⟨v, r, -, hfactors⟩ := reads_product_iff.1 h
  exact closes_of_reads_factors hfactors

/-! ## Surplus parentheses -/

/-- The failure of a text that goes on behind its product. -/
def surplus : Failure := .fault .unbalanced

/-- Digits fail for other reasons than a surplus parenthesis. -/
theorem digitsAfterSign_ne_surplus {isNegative : Bool} {s : List Char} {t : Remainder s} :
    digitsAfterSign isNegative t ≠ .error surplus := by
  unfold digitsAfterSign
  dsimp only
  split_ifs
  all_goals nofun

/-- Integers fail for other reasons than a surplus parenthesis. -/
theorem integer_ne_surplus (s : List Char) : integer s ≠ .error surplus := by
  rw [integer_eq]
  cases after? '-' (skipBlanks s).1 with
  | none => exact digitsAfterSign_ne_surplus
  | some r => exact digitsAfterSign_ne_surplus

/-- Exponents fail for other reasons than a surplus parenthesis. -/
theorem exponent_ne_surplus (s : List Char) : exponent s ≠ .error surplus := by
  intro h
  unfold exponent at h
  split at h
  · cases h
  · split_ifs at h
    · exact integer_ne_surplus _ (Attempt.map_eq_error.1 h)
    · split at h
      · cases h
      · exact integer_ne_surplus _ (Attempt.map_eq_error.1 h)

/-- The readers of a text have other failures only. -/
structure NeverSurplus (α : Type) [Scalar α] (b : List Char) : Prop where
  power : power (α := α) b ≠ .error surplus
  factors (x : Term α) : factors x b ≠ .error surplus
  product : product (α := α) b ≠ .error surplus

/-- An atom fails for other reasons, if the products of shorter texts do. -/
theorem atom_ne_surplus (ih : ∀ t, t.length < b.length → NeverSurplus α t) :
    atom (α := α) b ≠ .error surplus := by
  intro h
  rw [atom] at h
  split at h
  · cases h
  next c t ht hnext =>
    split_ifs at h
    · split at h
      next failure hproduct =>
        cases h
        exact (ih t ht).product hproduct
      next value u hproduct =>
        split at h
        · cases h
        · cases h
    · dsimp only at h
      split at h
      · cases h
      · cases h
    · dsimp only at h
      split at h
      · cases h
      · cases h
    · cases h

/-- A power fails for other reasons, if the products of shorter texts do. -/
theorem power_ne_surplus (ih : ∀ t, t.length < b.length → NeverSurplus α t) :
    power (α := α) b ≠ .error surplus := by
  intro h
  rw [power] at h
  split at h
  next failure hatom =>
    cases h
    exact atom_ne_surplus ih hatom
  next base t hatom =>
    split at h
    next failure hexponent =>
      cases h
      exact exponent_ne_surplus _ hexponent
    next n u hexponent =>
      split at h
      · cases h
      · cases h

/-- Factors fail for other reasons, if the products of shorter texts do. -/
theorem factors_ne_surplus (ih : ∀ t, t.length < b.length → NeverSurplus α t) :
    factors x b ≠ .error surplus := by
  intro h
  rw [factors] at h
  split at h
  · cases h
  next c t ht hnext =>
    split_ifs at h
    split at h
    · cases h
    next separator u hu hseparator =>
      split at h
      next failure hpower =>
        cases h
        exact (ih u hu).power hpower
      next next r hr hpower =>
        split at h
        · cases h
        next w hjoin =>
          split at h
          next failure hfactors =>
            cases h
            exact (ih r (Nat.lt_trans hr hu)).factors w hfactors
          next => cases h

/-- A product fails for other reasons, if the products of shorter texts do. -/
theorem product_ne_surplus (ih : ∀ t, t.length < b.length → NeverSurplus α t) :
    product (α := α) b ≠ .error surplus := by
  intro h
  rw [product] at h
  split at h
  next failure hpower =>
    cases h
    exact power_ne_surplus ih hpower
  next value r hr hpower =>
    split at h
    next failure hfactors =>
      cases h
      exact (ih r hr).factors value hfactors
    next => cases h

/-- No reader of a part fails because of a surplus parenthesis; only the reader of whole expressions
does, which looks behind the product. -/
theorem neverSurplus (b : List Char) : NeverSurplus α b := by
  induction hn : b.length using Nat.strong_induction_on generalizing b with
  | h n ih =>
    have ih' : ∀ t, t.length < b.length → NeverSurplus α t := fun t ht =>
      ih t.length (hn ▸ ht) t rfl
    exact ⟨power_ne_surplus ih', fun x => factors_ne_surplus ih', product_ne_surplus ih'⟩

/-- Behind a text with matching parentheses stands a closing one, which has no partner in front of
it. -/
def HasSurplus (s : List Char) : Prop :=
  ∃ before after, s = before ++ ')' :: after ∧ Balanced before

/-- A text goes on behind its product only with a closing parenthesis that closes none. -/
theorem hasSurplus_of_evaluate {s : List Char} (h : evaluate (α := α) s = .error surplus) :
    HasSurplus s := by
  unfold evaluate at h
  split at h
  next failure hproduct =>
    cases h
    exact absurd hproduct (neverSurplus s).product
  · cases h
  next read hnil hproduct =>
    obtain ⟨x, q, hq⟩ := read
    have hreads : Reads (product s) x q := ⟨hq, hproduct⟩
    obtain ⟨before, hsplit, hbefore⟩ := passes_of_reads_product hreads
    rcases closes_of_reads_product hreads with rfl | ⟨after, rfl⟩
    · exact absurd rfl (hnil x hq)
    · exact ⟨before, after, hsplit, hbefore⟩

end

end UnitExpression

/-- An expression that is refused as unbalanced has a surplus closing parenthesis. -/
theorem PhysicalUnit.hasSurplus_of_parse {α : Type} [Scalar α] {expression symbol : String}
    (h : parse (α := α) expression = .error (.malformed symbol .unbalanced)) :
    UnitExpression.HasSurplus (Text.trimBlanks expression.toList) := by
  unfold parse at h
  dsimp only at h
  split_ifs at h
  split at h
  · cases h
  · split at h
    · cases h
    next failure hfailure =>
      cases failure with
      | unknownName name => cases h
      | fault cause =>
        cases h
        exact UnitExpression.hasSurplus_of_evaluate hfailure

example : PhysicalUnit.parse (α := Rat) "(kg)) m" matches .error (.malformed _ .unbalanced) := by
  decide +kernel

end ElementAtlas
