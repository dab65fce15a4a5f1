import ElementAtlas.Proofs.UnitExpression.Soundness

/-!
# What the grammar spells is read

A part of an expression whose tree denotes a term is read to its end, and the term is returned. For
an atom this holds whatever stands behind it. A power has to be followed by something that does not
belong to it (`Follows`), and a product is read together with the factors behind it, so the
statement for a product is about what the reader of factors does from there on (`Readable`).

With the soundness of the reader, the value of a whole text exists if and only if the text is
spelled in the grammar up to blanks at its end (`evaluate_eq_ok_iff`).
-/

namespace ElementAtlas.UnitExpression

open Text

variable {α : Type} [Scalar α]

/-- The reader of the part reads it behind any blanks, and returns what the tree denotes. -/
def Readable : Part → Tree α → List Char → List Char → Prop
  | .atom, e, s, r => ∀ b x, dropBlanks b = s → e.Denotes x → Reads (atom b) x r
  | .power, e, s, r => Follows r → ∀ b x, dropBlanks b = s → e.Denotes x → Reads (power b) x r
  | .product, e, s, r => Follows r → ∀ b x y q, dropBlanks b = s → e.Denotes x →
      Reads (factors x r) y q → Reads (product b) y q

/-- The factors after a product end at the end of the text and at a closing parenthesis. -/
theorem reads_factors_done {x : Term α} {r q : List Char} (hr : dropBlanks r = q)
    (hq : q = [] ∨ ∃ t, q = ')' :: t) : Reads (factors x r) x q :=
  reads_factors_iff.2 (.inl ⟨rfl, hr, hq⟩)

/-- The factors after a product go on with a separator and a power. -/
theorem reads_factors_join {x y z w : Term α} {t u r q : List Char} {right : Tree α}
    {separator : Separator} (hseparates : Separates t u separator)
    (hright : Spells .power right u r) (hpower : ∀ b, dropBlanks b = u → Reads (power b) y r)
    (hjoin : separator.apply? x y = some w) (hfactors : Reads (factors w r) z q) :
    Reads (factors x t) z q := by
  obtain ⟨c, v, rfl, hc⟩ := hright.begins
  obtain ⟨b, hseparator, hb⟩ := hseparates.separator? hc
  refine reads_factors_iff.2 (.inr ⟨separator, y, w, r, b, fun v' hclose => ?_, hseparator,
    hpower b.1 hb, hjoin, hfactors⟩)
  rcases hseparates.next hc hclose with ⟨heq, -⟩ | heq | heq | rfl
  · exact absurd heq (by decide)
  · exact absurd heq (by decide)
  · exact absurd heq (by decide)
  · exact not_beginsAtom (by decide) hc

/-- Where a separator stands before a power, an expression goes on. -/
theorem Spells.follows {right : Tree α} {separator : Separator} {t u r : List Char}
    (h : Spells .power right u r) (hseparates : Separates t u separator) : Follows t := by
  obtain ⟨c, v, rfl, hc⟩ := h.begins
  exact .factor hseparates hc

/-- A power is read if its atom is and no digit goes on with its exponent. -/
theorem Readable.raised {base : Tree α} {n : Int} {s t r : List Char}
    (h : Readable .atom base s t) (hraises : Raises n t r) (hr : Stops Char.isDigit r) :
    ∀ b x, dropBlanks b = s → (Tree.power base n).Denotes x → Reads (power b) x r := by
  intro b x hb hx
  obtain ⟨y, hy, hpow⟩ := Tree.denotes_power_iff.1 hx
  exact reads_power_iff.2 ⟨y, n, t, h b y hb hy, hraises.reads_exponent hr, hpow⟩

/-- What is spelled in the grammar is read. -/
theorem Spells.readable {part : Part} {e : Tree α} {s r : List Char} (h : Spells part e s r) :
    Readable part e s r := by
  induction h with
  | leaf hnames =>
    intro b x hb hx
    cases hx.unique (.leaf _)
    exact reads_atom_iff.2 (.inl (hb ▸ hnames))
  | @group e s t u r hs hspells hu ih =>
    intro b x hb hx
    have hclose : dropBlanks u = ')' :: r := (blanks_iff (stops_cons.2 (by decide))).1 hu
    refine reads_atom_iff.2 (.inr ⟨s, hb, ?_⟩)
    exact ih (.close hclose) s x x _ ((blanks_iff hspells.stops_isBlank).1 hs) hx
      (reads_factors_done hclose (.inr ⟨r, rfl⟩))
  | plain _ ih =>
    intro hr b x hb hx
    exact reads_power_iff.2 ⟨x, 1, _, ih b x hb hx, hr.reads_exponent, x.pow?_one⟩
  | raised _ hraises ih => exact fun hr => ih.raised hraises hr.stops_isDigit
  | single _ ih =>
    intro hr b x y q hb hx hfactors
    exact reads_product_iff.2 ⟨x, _, ih hr b x hb hx, hfactors⟩
  | join _ hseparates hright ihleft ihright =>
    intro hr b x y q hb hx hfactors
    obtain ⟨a, c, ha, hc, hjoin⟩ := Tree.denotes_join_iff.1 hx
    refine ihleft (hright.follows hseparates) b a y q hb ha ?_
    exact reads_factors_join hseparates hright (fun b hb => ihright hr b c hb hc) hjoin hfactors

/-! ## Whole texts -/

/-- A product is read up to the end of the text if and only if the grammar spells it there. -/
theorem evaluate_eq_ok_iff {s : List Char} {x : Term α} :
    evaluate s = .ok x ↔
      ∃ e r, Spells .product e (dropBlanks s) r ∧ dropBlanks r = [] ∧ e.Denotes x := by
  have hreads : evaluate s = .ok x ↔ Reads (product s) x [] := by
    unfold evaluate
    refine ⟨fun h => ?_, fun ⟨hlt, h⟩ => by rw [h]⟩
    split at h
    · cases h
    next value hlt hproduct =>
      cases h
      exact ⟨hlt, hproduct⟩
    · cases h
  rw [hreads]
  refine ⟨(sound s).product, ?_⟩
  rintro ⟨e, r, hspells, hr, hx⟩
  exact hspells.readable (.done hr) s x x [] rfl hx (reads_factors_done hr (.inl rfl))

end ElementAtlas.UnitExpression
