import ElementAtlas.Proofs.PhysicalUnit.Parse
import ElementAtlas.Proofs.UnitExpression.Overflow
import ElementAtlas.Proofs.UnitExpression.Writing

/-!
# Products without parentheses as parts of expressions

A product that is a part of a larger expression without parentheses comes apart. What stands before
it is joined to its first factor, and the other factors follow (`Spells.exists_factors`). An
exponent behind it raises its last factor, or is not read at all, if that factor has an exponent
already (`Spells.raise_last`).

The first statement is an induction on the joins of the product, which are spelled from left to
right, so the first factor is the innermost. For the second one the last join is taken off.
-/

namespace ElementAtlas.UnitExpression

open Text

variable {α : Type}

/-! ## Trees of products -/

/-- A tree multiplied by further factors, from left to right. -/
def Tree.times (first : Tree α) (rest : List (Tree α)) : Tree α :=
  rest.foldl (fun left right => .join left .times right) first

@[simp] theorem Tree.times_concat (first : Tree α) (rest : List (Tree α)) (last : Tree α) :
    first.times (rest ++ [last]) = .join (first.times rest) .times last := by
  simp [times]

/-- A tree has an exponent for each base quantity. -/
@[simp] theorem Tree.length_exponents (e : Tree α) : e.exponents.length = 6 := by
  induction e with
  | leaf => rfl
  | power _ _ ih => rw [exponents, List.length_map, ih]
  | join _ separator _ ihl ihr => cases separator <;> simp [exponents, Separator.joinExponents, *]

/-- Exponents can be added in any grouping. -/
theorem zipWith_add_assoc (u v w : List Int) :
    List.zipWith (· + ·) (List.zipWith (· + ·) u v) w =
      List.zipWith (· + ·) u (List.zipWith (· + ·) v w) := by
  refine List.ext_getElem (by simp [Nat.min_assoc]) fun i _ _ => ?_
  simp [Int.add_assoc]

/-- Further factors add exponents that do not depend on what they multiply. -/
theorem Tree.exists_exponents_times (rest : List (Tree α)) :
    ∃ more : List Int, more.length = 6 ∧
      ∀ first : Tree α, (first.times rest).exponents = List.zipWith (· + ·) first.exponents more := by
  induction rest with
  | nil =>
    refine ⟨List.replicate 6 0, rfl, fun first => ?_⟩
    have hlength := first.length_exponents
    refine List.ext_getElem (by simp [times, hlength]) fun i _ _ => ?_
    rw [List.getElem_zipWith, List.getElem_replicate, Int.add_zero]
    rfl
  | cons right rest ih =>
    obtain ⟨more, hmore, ih⟩ := ih
    refine ⟨List.zipWith (· + ·) right.exponents more, ?_, fun first => ?_⟩
    · rw [List.length_zipWith, right.length_exponents, hmore]
      rfl
    · have hstep : (first.times (right :: rest)).exponents =
          List.zipWith (· + ·) (List.zipWith (· + ·) first.exponents right.exponents) more :=
        ih (.join first .times right)
      rw [hstep, zipWith_add_assoc]

/-! ## What stands before a product -/

variable [Scalar α]

/-- Where a factor is divided by, there is a slash. -/
theorem Separates.slash_mem {s r : List Char} (h : Separates s r .over) : '/' ∈ s := by
  cases h with
  | slash hs => exact hs.suffix.subset (.head _)

/-- A product without slashes is a first factor and further ones. Behind a separator, the first
factor is joined to what stands before it, and the further ones follow. -/
theorem Spells.exists_factors {e : Tree α} {s r : List Char} (h : Spells .product e s r)
    (hs : '/' ∉ s) :
    ∃ first rest t, e = first.times rest ∧ Spells .power first s t ∧
      ∀ {l : Tree α} {separator p q}, Spells .product l p q → Separates q s separator →
        Spells .product ((Tree.join l separator first).times rest) p r := by
  generalize hpart : Part.product = part at h
  induction h with
  | leaf => cases hpart
  | group => cases hpart
  | plain => cases hpart
  | raised => cases hpart
  | single hpower => exact ⟨_, [], _, rfl, hpower, fun hl hsep => .join hl hsep hpower⟩
  | @join left right separator s t u r hleft hseparates hright ih _ =>
    obtain ⟨first, rest, v, rfl, hfirst, hsplice⟩ := ih hs rfl
    cases separator with
    | times =>
      refine ⟨first, rest ++ [right], v, (Tree.times_concat ..).symm, hfirst, fun hl hsep => ?_⟩
      rw [Tree.times_concat]
      exact .join (hsplice hl hsep) hseparates hright
    | «over» => exact absurd (hleft.ends.suffix.subset hseparates.slash_mem) hs

/-! ## An exponent behind a product -/

/-- The text ends with a superscript. -/
def EndsRaised (s : List Char) : Prop := ['²'] <:+ s ∨ ['³'] <:+ s

/-- The failure at an exponent that cannot stand where it does. -/
def strayCaret : Failure := .fault (.unexpected '^')

/-- An atom does not end with a superscript. -/
theorem Spells.not_endsRaised {e : Tree α} {s : List Char} (h : Spells .atom e s []) :
    ¬ EndsRaised s := by
  have hlast {c : Char} (hc : [c] <:+ s) : continuesName c = true ∨ continuesNumber c = true ∨
      c = ')' := by
    cases h with
    | leaf hnames =>
      obtain ⟨run, rfl, -, hall⟩ := hnames.exists_run
      rw [List.append_nil] at hc
      exact hall.imp (· c (hc.subset (.head _))) fun hall => .inl (hall c (hc.subset (.head _)))
    | group hs hspells hu =>
      have hclose := (hu.suffix.trans (hspells.ends.suffix.trans hs.suffix)).trans
        (List.suffix_cons '(' _)
      have hequal := List.suffix_of_suffix_length_le hc hclose le_rfl
      rw [List.suffix_cons_iff] at hequal
      simp_all
  rintro (hc | hc)
  · exact absurd (hlast hc) (by decide)
  · exact absurd (hlast hc) (by decide)

@[simp] theorem dropBlanks_caret (t : List Char) : dropBlanks ('^' :: t) = '^' :: t :=
  dropBlanks_of_stops (stops_cons.2 (by decide))

/-- The factors of a product do not go on with an exponent. -/
@[simp]
theorem factors_caret (x : Term α) (t : List Char) : factors x ('^' :: t) = .error strayCaret := by
  obtain ⟨ht, hnext⟩ := exists_next? (dropBlanks_caret t)
  have hseparator : separator? ('^' :: t) = none := by
    simp [separator?, hnext]
  rw [factors]
  simp only [hnext, hseparator]
  rfl

/-- An exponent behind a product that is more than an atom raises the last factor, if this is an
atom. If the last factor has an exponent already, the text is not read. -/
theorem Spells.raise_last {e : Tree α} {n : Int} {s t : List Char} (h : Spells .product e s [])
    (hfits : e.Fits) (hs : '/' ∉ s) (hn : WrittenInteger n t []) :
    Spells .atom e s [] ∨
      (∃ left last u, e = .join left .times last ∧ u <:+ s ∧ Spells .atom last u [] ∧
        Spells .product (.join left .times (.power last n)) (s ++ '^' :: t) []) ∨
      ∃ m u, u <:+ s ∧ Raises m u [] ∧ evaluate (α := α) (s ++ '^' :: t) = .error strayCaret := by
  have hcaret : Stops continuesToken ('^' :: t) := stops_cons.2 (by decide +kernel)
  have hdigit : Stops Char.isDigit ('^' :: t) := stops_cons.2 (by decide)
  have hraises : Raises n ('^' :: t) [] := .caret (.refl _) (.refl _) hn
  have hevaluate {b : List Char} (hproduct : product (α := α) b = .error strayCaret) :
      evaluate (α := α) b = .error strayCaret := by rw [evaluate, hproduct]
  cases h with
  | single hpower =>
    cases hpower with
    | plain hatom => exact .inl hatom
    | @raised base m _ u _ hatom hm =>
      refine .inr (.inr ⟨m, u, hatom.ends.suffix, hm, hevaluate ?_⟩)
      obtain ⟨x, hx⟩ := hfits.exists_denotes
      have hbehind := hatom.append hcaret
      have hreads := hbehind.readable.raised (hm.append _) hdigit _ x
        (dropBlanks_of_stops hbehind.stops_isBlank) hx
      exact product_of_factors_error hreads (factors_caret x t)
  | @join left right separator _ p q _ hleft hseparates hright =>
    have hsuffix := hseparates.suffix.trans hleft.ends.suffix
    have hbefore := hleft.append hcaret
    have hbetween := hseparates.append ('^' :: t)
    cases hright with
    | plain hatom =>
      have htimes : separator = .times := by
        cases separator with
        | times => rfl
        | «over» => exact absurd (hleft.ends.suffix.subset hseparates.slash_mem) hs
      subst htimes
      exact .inr (.inl ⟨left, right, q, rfl, hsuffix, hatom,
        .join hbefore hbetween (.raised (hatom.append hcaret) hraises)⟩)
    | @raised base m _ u _ hatom hm =>
      refine .inr (.inr ⟨m, u, hatom.ends.suffix.trans hsuffix, hm, hevaluate ?_⟩)
      have hbehind := hatom.append hcaret
      have hpower : Spells .power (.power base m) _ _ := .raised hbehind (hm.append ('^' :: t))
      refine hbefore.overflows (hpower.follows hbetween) _ _
        (dropBlanks_of_stops hbefore.stops_isBlank) (fun x hx => ?_) (absurd hfits.1)
      refine factors_of_separates hbetween hpower fun b hb => .inr ?_
      obtain ⟨y, hy⟩ := hfits.2.1.exists_denotes
      obtain ⟨z, hz⟩ := hfits.exists_denotes
      refine ⟨y, hbehind.readable.raised (hm.append _) hdigit b y hb hy, .inr ⟨z, ?_, ?_⟩⟩
      · exact (hx.join_iff hy).1 hz
      · exact factors_caret z t

end ElementAtlas.UnitExpression
