import ElementAtlas.Proofs.UnitExpression.Completeness

/-!
# The units that expressions denote

An expression is trimmed, and then it is blank, or a known name, or a product in the grammar of unit
expressions. `UnitOf` says which unit each of them denotes, and `PhysicalUnit.parse` returns that
unit and no other (`PhysicalUnit.parse_exact`).

The reader may leave blanks at the end of a text unread. A part of an expression ends with a
character that is no blank (`Spells.ends`), so nothing is left of a text that was trimmed.
-/

namespace ElementAtlas

open Text

namespace UnitExpression

/-! ## Where a part of an expression ends -/

/-- No name goes on with a blank. -/
@[grind →]
theorem isBlank_of_continuesName {c : Char} (h : continuesName c = true) : isBlank c = false := by
  rw [continuesName, Bool.or_eq_true] at h
  rcases h with hname | hdigit
  · exact BeginsAtom.isBlank (.inr (.inr hname))
  · exact BeginsAtom.isBlank (.inr (.inl hdigit))

/-- No number goes on with a blank. -/
@[grind →] theorem isBlank_of_continuesNumber {c : Char} (h : continuesNumber c = true) :
    isBlank c = false := by
  rw [continuesNumber, Bool.or_eq_true, decide_eq_true_eq] at h
  rcases h with hdigit | rfl
  · exact BeginsAtom.isBlank (.inr (.inl hdigit))
  · decide

/-- A run of characters that are no blanks ends a text with one of them. -/
theorem ends_of_run {run r : List Char} (hne : run ≠ []) (h : ∀ c ∈ run, isBlank c = false) :
    Ends (run ++ r) r := by
  obtain ⟨w, c, rfl⟩ := List.eq_nil_or_concat run |>.resolve_left hne
  exact ⟨c, h c (by simp), w, by simp⟩

/-- An integer ends with a character that is no blank. -/
theorem WrittenInteger.ends {n : Int} {s r : List Char} (h : WrittenInteger n s r) : Ends s r := by
  have hblank {digits : List Char} (hall : ∀ c ∈ digits, c.isDigit = true) :
      ∀ c ∈ digits, isBlank c = false :=
    fun c hc => BeginsAtom.isBlank (.inr (.inl (hall c hc)))
  cases h with
  | positive hne hall heq => exact heq ▸ ends_of_run hne (hblank hall)
  | negative hne hall heq =>
    exact heq ▸ (ends_of_run hne (hblank hall)).of_suffix (List.suffix_cons '-' _)

/-- An exponent ends with a character that is no blank. -/
theorem Raises.ends {n : Int} {s r : List Char} (h : Raises n s r) : Ends s r := by
  cases h with
  | caret hs hblanks hn =>
    exact hn.ends.of_suffix (hblanks.suffix.trans ((List.suffix_cons _ _).trans hs.suffix))
  | stars hs hblanks hn =>
    refine hn.ends.of_suffix (hblanks.suffix.trans ?_)
    exact ((List.suffix_cons _ _).trans (List.suffix_cons _ _)).trans hs.suffix
  | square _ hs => exact ⟨'²', by decide, hs.suffix⟩
  | cube _ hs => exact ⟨'³', by decide, hs.suffix⟩

/-- What stands behind a separator is an end of the text. -/
theorem Separates.suffix {s r : List Char} {separator : Separator} (h : Separates s r separator) :
    r <:+ s := by
  cases h with
  | star hs hr => exact hr.suffix.trans ((List.suffix_cons _ _).trans hs.suffix)
  | dot hs hr => exact hr.suffix.trans ((List.suffix_cons _ _).trans hs.suffix)
  | slash hs hr => exact hr.suffix.trans ((List.suffix_cons _ _).trans hs.suffix)
  | blanks hs => exact hs.suffix

variable {α : Type} [Scalar α]

/-- A name is a run of characters that could go on with it, the first one too, and so is a
number. -/
theorem Names.exists_run {term : Term α} {s r : List Char} (h : Names term s r) :
    ∃ run, s = run ++ r ∧ run ≠ [] ∧
      ((∀ d ∈ run, continuesName d = true) ∨ ∀ d ∈ run, continuesNumber d = true) := by
  cases h with
  | @unit c run _ _ hc hall =>
    refine ⟨c :: run, rfl, List.cons_ne_nil c run, .inl (List.forall_mem_cons.2 ⟨?_, hall⟩)⟩
    rw [continuesName, hc, Bool.true_or]
  | @number c run _ hc hall =>
    refine ⟨c :: run, rfl, List.cons_ne_nil c run, .inr (List.forall_mem_cons.2 ⟨?_, hall⟩)⟩
    rw [continuesNumber, hc, Bool.true_or]

/-- A name or number ends with a character that is no blank. -/
theorem Names.ends {term : Term α} {s r : List Char} (h : Names term s r) : Ends s r := by
  obtain ⟨run, rfl, hne, hname | hnumber⟩ := h.exists_run
  · exact ends_of_run hne fun d hd => isBlank_of_continuesName (hname d hd)
  · exact ends_of_run hne fun d hd => isBlank_of_continuesNumber (hnumber d hd)

/-- A part of an expression ends with a character that is no blank. -/
theorem Spells.ends {part : Part} {e : Tree α} {s r : List Char} (h : Spells part e s r) :
    Ends s r := by
  induction h with
  | leaf hnames => exact hnames.ends
  | group hs _ hu ih =>
    refine ⟨')', by decide, hu.suffix.trans (ih.suffix.trans (hs.suffix.trans ?_))⟩
    exact List.suffix_cons _ _
  | plain _ ih => exact ih
  | raised _ hraises ih => exact hraises.ends.of_suffix ih.suffix
  | single _ ih => exact ih
  | join _ hseparates _ ihleft ihright =>
    exact ihright.of_suffix (hseparates.suffix.trans ihleft.suffix)

/-- A text that is spelled as a product has no blanks at its ends. -/
theorem Spells.trimmed {part : Part} {e : Tree α} {s : List Char} (h : Spells part e s []) :
    Trimmed s :=
  trimmed_of_ends h.stops_isBlank h.ends

/-- A text without blanks at its ends is evaluated if and only if the grammar spells all of it. -/
theorem evaluate_eq_ok_iff_of_trimmed {s : List Char} (hs : Trimmed s) {x : Term α} :
    evaluate s = .ok x ↔ ∃ e, Spells .product e s [] ∧ e.Denotes x := by
  rw [evaluate_eq_ok_iff, dropBlanks_of_stops hs.front]
  refine ⟨?_, fun ⟨e, hspells, hx⟩ => ⟨e, [], hspells, rfl, hx⟩⟩
  rintro ⟨e, r, hspells, hr, hx⟩
  cases hs.eq_nil hspells.ends.suffix hr
  exact ⟨e, hspells, hx⟩

end UnitExpression

/-! ## Units -/

namespace PhysicalUnit

open UnitExpression

variable {α : Type} [Scalar α]

/-- What a text without blanks at its ends denotes: the unit of plain numbers if it is empty, a
known unit with its origin if it is the name of one, and otherwise the linear unit with the scale
and the dimension of the tree that the grammar spells in it. -/
inductive UnitOf (t : List Char) : PhysicalUnit α → Prop
  | blank : t = [] → UnitOf t .dimensionless
  | known {unit : KnownUnit α} : t ≠ [] → KnownUnit.find? (String.ofList t) = some unit →
      UnitOf t ⟨String.ofList t, unit.scale, unit.dimension, unit.origin⟩
  | spelled {e : UnitExpression.Tree α} {term : Term α} :
      (KnownUnit.find? (String.ofList t) : Option (KnownUnit α)) = none →
      Spells .product e t [] → e.Denotes term →
      UnitOf t (.linear (String.ofList t) term.scale term.dimension)

/-- An expression is parsed to the unit that its text without the blanks around it denotes. -/
theorem parse_eq_ok_iff {expression : String} {u : PhysicalUnit α} :
    parse expression = .ok u ↔ UnitOf (trimBlanks expression.toList) u := by
  unfold parse
  have htrimmed := trimmed_trimBlanks expression.toList
  generalize trimBlanks expression.toList = t at htrimmed
  dsimp only
  refine ⟨fun h => ?_, fun h => ?_⟩
  · split_ifs at h with hnil
    · cases h
      exact .blank (List.isEmpty_iff.1 hnil)
    · split at h
      next unit hfind =>
        cases h
        exact .known (mt List.isEmpty_iff.2 hnil) hfind
      next hfind =>
        split at h
        next value hvalue =>
          cases h
          obtain ⟨e, hspells, hdenotes⟩ := (evaluate_eq_ok_iff_of_trimmed htrimmed).1 hvalue
          exact .spelled hfind hspells hdenotes
        · cases h
  · cases h with
    | blank hnil =>
      subst hnil
      rfl
    | known hne hfind =>
      rw [if_neg (mt List.isEmpty_iff.1 hne), hfind]
    | spelled hfind hspells hdenotes =>
      obtain ⟨c, v, rfl, -⟩ := hspells.begins
      have hvalue := (evaluate_eq_ok_iff_of_trimmed htrimmed).2 ⟨_, hspells, hdenotes⟩
      rw [if_neg (by simp), hfind, hvalue]

/-- The parser accepts the grammar and computes its value. -/
theorem parse_exact (expression : String) :
    (∀ u : PhysicalUnit α,
        parse expression = .ok u ↔ UnitOf (trimBlanks expression.toList) u) ∧
      ((∃ u : PhysicalUnit α, parse expression = .ok u) ↔
        trimBlanks expression.toList = [] ∨
        (∃ unit : KnownUnit α,
          KnownUnit.find? (String.ofList (trimBlanks expression.toList)) = some unit) ∨
        ∃ e : UnitExpression.Tree α,
          Spells .product e (trimBlanks expression.toList) [] ∧ e.Fits) := by
  refine ⟨fun _ => parse_eq_ok_iff, ?_⟩
  simp only [parse_eq_ok_iff]
  generalize trimBlanks expression.toList = t
  constructor
  · rintro ⟨u, hnil | ⟨-, hfind⟩ | ⟨-, hspells, hdenotes⟩⟩
    · exact .inl hnil
    · exact .inr (.inl ⟨_, hfind⟩)
    · exact .inr (.inr ⟨_, hspells, hdenotes.fits⟩)
  · intro h
    by_cases hnil : t = []
    · exact ⟨_, .blank hnil⟩
    · cases hfind : (KnownUnit.find? (String.ofList t) : Option (KnownUnit α)) with
      | some unit => exact ⟨_, .known hnil hfind⟩
      | none =>
        rcases h with h | ⟨unit, h⟩ | ⟨e, hspells, hfits⟩
        · exact absurd h hnil
        · rw [hfind] at h
          cases h
        · obtain ⟨term, hdenotes⟩ := hfits.exists_denotes
          exact ⟨_, .spelled hfind hspells hdenotes⟩

end PhysicalUnit

end ElementAtlas
