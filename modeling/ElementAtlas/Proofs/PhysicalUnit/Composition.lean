import ElementAtlas.Proofs.PhysicalUnit.Operations
import ElementAtlas.Proofs.PhysicalUnit.Parse
import ElementAtlas.Proofs.PhysicalUnit.Registry
import ElementAtlas.Proofs.UnitExpression.Overflow
import ElementAtlas.Scalar.Double

/-!
# Parsing what is put together from expressions

There are two ways to a product of units: to put the expressions together and parse the result, or
to parse the expressions and multiply the units. Both lead to the same scale and dimension, or both
fail for an exponent out of range (`parse_composed`). Quotients and powers are alike.

The operands stand in parentheses, with the blanks that they have at their ends. There an operand is
an atom that spells what it spelled alone (`Spells.enclosed`), so the name of a temperature scale
stands for its scale and dimension only: what is parsed is linear.
-/

namespace ElementAtlas

open Text UnitExpression

/-- An expression as an operand of a larger one. -/
def enclosed (expression : String) : String := "(" ++ expression ++ ")"

/-- The text begins with a parenthesis. -/
def Opens (text : String) : Prop := ∃ t, text.toList = '(' :: t

/-- An expression in parentheses begins with one. -/
theorem opens_enclosed (expression : String) : Opens (enclosed expression) :=
  ⟨_, by rw [enclosed, String.toList_append, String.toList_append]; rfl⟩

/-- A text goes on beginning with a parenthesis when more is put behind it. -/
theorem Opens.append {text : String} (h : Opens text) (rest : String) : Opens (text ++ rest) := by
  obtain ⟨t, ht⟩ := h
  exact ⟨t ++ rest.toList, by rw [String.toList_append, ht, List.cons_append]⟩

variable {α : Type} [Scalar α]

namespace UnitExpression

variable {e : UnitExpression.Tree α} {expression : String}

/-- Neither a blank nor a closing parenthesis goes on with a name or a number. -/
theorem stops_blanks_close {b : List Char} (hb : ∀ c ∈ b, isBlank c = true) :
    Stops continuesToken (b ++ [')']) := by
  cases b with
  | nil => exact stops_cons.2 (by decide +kernel)
  | cons c b =>
    have hblank := hb c (.head _)
    exact stops_cons.2 (Bool.or_eq_false_iff.2 ⟨by grind, by grind⟩)

/-- A product in parentheses is an atom, also with blanks around it. -/
theorem Spells.enclosed (h : Spells .product e (trimBlanks expression.toList) []) :
    Spells .atom e (enclosed expression).toList [] := by
  obtain ⟨b, hblanks, hb⟩ := exists_trimBlanks expression.toList
  have hclose := hblanks.append [')']
  rw [List.append_assoc] at hclose
  rw [ElementAtlas.enclosed, String.toList_append, String.toList_append, List.append_assoc]
  exact .group hclose (h.append (stops_blanks_close hb)) ⟨b, hb, rfl⟩

/-- No unit has a name that begins with a parenthesis. -/
theorem find?_of_opens (h : Opens expression) :
    (KnownUnit.find? expression : Option (KnownUnit α)) = none := by
  obtain ⟨t, ht⟩ := h
  cases hfind : (KnownUnit.find? expression : Option (KnownUnit α)) with
  | none => rfl
  | some unit =>
    have hname := KnownUnit.isName_of_find? hfind
    rw [ht] at hname
    cases hname

end UnitExpression

namespace PhysicalUnit

/-- Parsing the expression comes to what an operation on units has come to: a linear unit with the
scale and the dimension of the result, or the failure for an exponent out of range. -/
inductive ParsedAs (expression : String) : Except QuantityError (PhysicalUnit α) → Prop
  | unit {w : PhysicalUnit α} : parse expression = .ok (linear expression w.scale w.dimension) →
      ParsedAs expression (.ok w)
  | overflow {symbol : String} :
      parse (α := α) expression = .error (.malformed expression .exponentRange) →
      ParsedAs expression (.error (.malformed symbol .exponentRange))

variable {e : UnitExpression.Tree α} {expression : String} {u v : PhysicalUnit α}

/-- An expression that begins with a parenthesis is parsed as the tree that it spells is
computed. -/
theorem parsedAs_of_spells {symbol : String} {scale : α} {d? : Option Dimension}
    (hspells : Spells .product e expression.toList []) (hopens : Opens expression)
    (he : ∀ x, e.Denotes x ↔ x.scale = scale ∧ d? = some x.dimension) :
    ParsedAs expression (ofParts symbol scale d?) := by
  have htrim := hspells.trimmed.trimBlanks_eq
  have hfind := find?_of_opens (α := α) hopens
  cases d? with
  | some d =>
    have hdenotes : e.Denotes ⟨scale, d⟩ := (he _).2 ⟨rfl, rfl⟩
    have hunit := UnitOf.spelled (String.ofList_toList.symm ▸ hfind) hspells hdenotes
    rw [String.ofList_toList] at hunit
    exact .unit (parse_eq_ok_iff.2 (htrim.symm ▸ hunit))
  | none =>
    have hfits : ¬ e.Fits := by
      intro hfits
      obtain ⟨x, hx⟩ := hfits.exists_denotes
      cases ((he x).1 hx).2
    refine .overflow ?_
    obtain ⟨t, ht⟩ := hopens
    rw [parse, htrim, String.ofList_toList, hfind, evaluate_eq_error_of_not_fits hspells hfits, ht]
    rfl

/-- What is parsed, but not from blanks, spells the scale and the dimension of the unit. -/
theorem exists_spells_of_parse (h : parse expression = .ok u)
    (hne : trimBlanks expression.toList ≠ []) :
    ∃ e : UnitExpression.Tree α, Spells .product e (trimBlanks expression.toList) [] ∧
      e.Denotes ⟨u.scale, u.dimension⟩ := by
  cases parse_eq_ok_iff.1 h with
  | blank hnil => exact absurd hnil hne
  | known _ hfind =>
    obtain ⟨e, hspells, hfits, hscale, hexponents⟩ := (KnownUnit.writes hfind).toProduct
    rw [String.toList_ofList] at hspells
    exact ⟨e, hspells, hfits, hscale.symm, hexponents.symm⟩
  | spelled _ hspells hdenotes => exact ⟨_, hspells, hdenotes⟩

/-- The two ways to compose units agree: an expression in parentheses is parsed to the linear unit
with the scale and the dimension of the expression, and the product, the quotient and every power of
expressions are parsed as that of their units is computed, in success and in failure. -/
theorem parse_composed {a b : String} (ha : parse a = .ok u) (hb : parse b = .ok v)
    (hane : trimBlanks a.toList ≠ []) (hbne : trimBlanks b.toList ≠ []) (n : Int8) :
    ParsedAs (enclosed a) (.ok u) ∧
      ParsedAs (enclosed a ++ "*" ++ enclosed b) (u.mul v) ∧
      ParsedAs (enclosed a ++ "/" ++ enclosed b) (u.div v) ∧
      ParsedAs (enclosed a ++ "^" ++ toString n.toInt) (u.pow n.toInt) := by
  obtain ⟨l, hl, hx⟩ := exists_spells_of_parse ha hane
  obtain ⟨r, hr, hy⟩ := exists_spells_of_parse hb hbne
  have hleft := hl.enclosed
  have hright := hr.enclosed.plain
  have hopens := opens_enclosed a
  have hlow := n.le_toInt
  have hhigh := n.toInt_lt
  refine ⟨?_, ?_, ?_, ?_⟩
  · have hself (x : Term α) :
        l.Denotes x ↔ x.scale = u.scale ∧ some u.dimension = some x.dimension := by
      refine ⟨fun h => ?_, ?_⟩
      · cases hx.unique h
        exact ⟨rfl, rfl⟩
      · rintro ⟨hscale, hdimension⟩
        cases x
        cases hscale
        cases hdimension
        exact hx
    have hparsed : ParsedAs (enclosed a) (ofParts "" u.scale (some u.dimension)) :=
      parsedAs_of_spells hleft.plain.single hopens hself
    cases hparsed with
    | unit h => exact .unit h
  · refine parsedAs_of_spells (hleft.plain.single.joined .times hright)
      ((hopens.append _).append _) fun x => ?_
    rw [hx.join_iff hy, Separator.apply?_eq_some_iff, Dimension.mul?_eq_some_iff]
    rfl
  · refine parsedAs_of_spells (hleft.plain.single.joined .over hright)
      ((hopens.append _).append _) fun x => ?_
    rw [hx.join_iff hy, Separator.apply?_eq_some_iff, Dimension.div?_eq_some_iff]
    rfl
  · refine parsedAs_of_spells (hleft.raisedTo (by omega) (by omega)).single
      ((hopens.append _).append _) fun x => ?_
    simp [hx.power_iff]

/-- A high power times a temperature, and its square, which is out of range. -/
theorem parse_composed_high_power :
    ∃ u v w : PhysicalUnit Float, parse "m^100" = .ok u ∧ parse " degF" = .ok v ∧
      u.mul v = .ok w ∧
      parse "(m^100)*( degF)" = .ok (linear "(m^100)*( degF)" w.scale w.dimension) ∧
      parse (α := Float) "(m^100)^2" = .error (.malformed "(m^100)^2" .exponentRange) := by
  have hcomputed : ((parse (α := Float) "m^100").toOption.bind fun u =>
      (parse (α := Float) " degF").toOption.bind fun v =>
        (u.mul v).toOption.map fun _ => (u.pow 2).toOption.isSome) = some false := by
    decide +kernel
  obtain ⟨u, hu, hcomputed⟩ := Option.bind_eq_some_iff.1 hcomputed
  obtain ⟨v, hv, hcomputed⟩ := Option.bind_eq_some_iff.1 hcomputed
  obtain ⟨w, hw, hcomputed⟩ := Option.map_eq_some_iff.1 hcomputed
  have hu := Attempt.toOption_eq_some_iff.1 hu
  have hv := Attempt.toOption_eq_some_iff.1 hv
  have hw := Attempt.toOption_eq_some_iff.1 hw
  obtain ⟨-, hmul, -, hpow⟩ := parse_composed hu hv (by decide) (by decide) 2
  refine ⟨u, v, w, hu, hv, hw, ?_, ?_⟩
  · rw [hw] at hmul
    cases hmul with
    | unit h => exact h
  · have htext : enclosed "m^100" ++ "^" ++ toString (2 : Int8).toInt = "(m^100)^2" := by decide
    have htwo : (2 : Int8).toInt = 2 := by decide
    rw [htext, htwo] at hpow
    generalize u.pow 2 = square at hpow hcomputed
    cases hpow with
    | unit => cases hcomputed
    | overflow h => exact h

end PhysicalUnit

end ElementAtlas
