import ElementAtlas.Proofs.Atlas.Rearrangement
import ElementAtlas.Proofs.Query.Dangling

/-!
# Queries of atlases in another order

A query on elements that match comes to values that match: the same plain values, elements of one
name, transitions on one side of such elements, and methods of such values (`Value.Matches`). Each
step keeps values matched or fails with one error in both atlases (`Step.agree_apply`), and so does a
path, by induction on its hops (`Attribute.agree_evaluate`).

A predicate compares such values with literals. A literal that names no place has the same value in
every atlas, and no part of an atlas equals it or is ordered with it, so what is compared is either
one value in both atlases or compares with nothing in either (`Predicate.evaluate_of_matches`).
-/

namespace ElementAtlas

variable {α : Type} {atlas atlas' : Atlas α}

/-! ## Derived properties -/

namespace Element.Alike

variable [Scalar α] {e e' : Element α ElementId} (h : e.Alike atlas atlas' e')
include h

/-- Elements that are alike have the same density. -/
theorem density_eq : e.density = e'.density := by
  rw [density, density, h.massPerTile]

/-- Elements that are alike have the same thermal diffusivity. -/
theorem thermalDiffusivity_eq : e.thermalDiffusivity = e'.thermalDiffusivity := by
  rw [thermalDiffusivity, thermalDiffusivity, h.density_eq, h.specificHeatCapacity,
    h.thermalConductivity]

/-- Elements that are alike take the same heat for each degree. -/
theorem heatPerDegree_eq (mass : Quantity α) : e.heatPerDegree mass = e'.heatPerDegree mass := by
  rw [heatPerDegree, heatPerDegree, h.specificHeatCapacity]

/-- Elements that are alike take the same heat over an interval. -/
theorem heatEnergy_eq (interval mass : Quantity α) :
    e.heatEnergy interval mass = e'.heatEnergy interval mass := by
  rw [heatEnergy, heatEnergy, h.heatPerDegree_eq]

/-- Elements that are alike change their temperature alike. -/
theorem temperatureChange_eq (energy mass : Quantity α) :
    e.temperatureChange energy mass = e'.temperatureChange energy mass := by
  rw [temperatureChange, temperatureChange, h.heatPerDegree_eq]

end Element.Alike

/-! ## Values -/

namespace Value

/-- The values, each met in an atlas of its own, are one value up to the places of elements. -/
inductive Matches (atlas atlas' : Atlas α) : Value α → Value α → Prop
  | plain {v : Value α} : Plain v → Matches atlas atlas' v v
  | element {m m' : Member α} : m.Matches atlas atlas' m' →
      Matches atlas atlas' (.element m) (.element m')
  | transition {m m' : Member α} {side : Side} {t t' : Transition α ElementId} :
      m.Matches atlas atlas' m' → m.element.transition? side = some t →
      m'.element.transition? side = some t' → t.Alike atlas atlas' t' →
      Matches atlas atlas' (.transition m.id side t) (.transition m'.id side t')
  | method {receiver receiver' : Value α} {name : String} :
      Matches atlas atlas' receiver receiver' →
      Matches atlas atlas' (.method receiver name) (.method receiver' name)

/-- Of values that match, both are absent or none is. -/
theorem Matches.isNone_eq {v v' : Value α} (h : Matches atlas atlas' v v') :
    v.isNone = v'.isNone := by
  cases h <;> rfl

/-- Values that match are of one kind. -/
theorem Matches.kind_eq {v v' : Value α} (h : Matches atlas atlas' v v') : v.kind = v'.kind := by
  cases h <;> rfl

/-! ## Fields -/

/-- Places that match hold elements that match. -/
theorem agree_valueAt {id id' : ElementId} (h : id.Matches atlas atlas' id') :
    Attempt.Agree (Matches atlas atlas') (atlas.valueAt id) (atlas'.valueAt id') := by
  obtain ⟨_, ⟨e, he, rfl⟩, ⟨e', he', hname⟩⟩ := h
  have hm : atlas.get? id = some ⟨id, e⟩ := by rw [Atlas.get?, he]; rfl
  have hm' : atlas'.get? id' = some ⟨id', e'⟩ := by rw [Atlas.get?, he']; rfl
  rw [Atlas.valueAt, Atlas.valueAt, hm, hm']
  exact .ok (.element ⟨hm, hm', hname.symm⟩)

/-- Transitions that are alike have fields that match. -/
theorem agree_transitionField {t t' : Transition α ElementId} (h : t.Alike atlas atlas' t')
    (name : String) : Attempt.Agree (Matches atlas atlas') (transitionField atlas t name)
      (transitionField atlas' t' name) := by
  unfold transitionField
  rw [h.temperature, h.targetName, h.byproductName, h.byproductRatio]
  split
  case h_1 => exact .ok (.plain (.quantity _))
  case h_2 => exact agree_valueAt h.target
  case h_3 => exact .ok (.plain (.text _))
  case h_4 =>
    have hrel := h.byproduct
    generalize t.byproduct = id?, t'.byproduct = id'? at hrel
    cases hrel with
    | none => exact .ok (.plain .none)
    | some hid => exact agree_valueAt hid
  case h_5 => exact .ok (.plain (plain_getD_map .text _))
  case h_6 => exact .ok (.plain (plain_getD_map .number _))
  case h_7 => exact .error _

/-- The transitions on one side of elements that match. -/
theorem matches_transition {m m' : Member α} (h : m.Matches atlas atlas' m')
    (halike : m.element.Alike atlas atlas' m'.element) (side : Side) :
    Matches atlas atlas' (((m.element.transition? side).map (.transition m.id side)).getD .none)
      (((m'.element.transition? side).map (.transition m'.id side)).getD .none) := by
  have hrel := halike.transitions side
  generalize ht : m.element.transition? side = t?, ht' : m'.element.transition? side = t'? at hrel ⊢
  cases hrel with
  | none => exact .plain .none
  | some hside => exact .transition h ht ht' hside

/-- Quantities computed alike are fields that match. -/
theorem agree_quantity? {r r' : Except QuantityError (Option (Quantity α))} (h : r = r') :
    Attempt.Agree (Matches atlas atlas') ((QueryError.ofQuantity r).map ofQuantity?)
      ((QueryError.ofQuantity r').map ofQuantity?) := by
  subst h
  cases r with
  | ok q? => exact .ok (.plain (plain_ofQuantity? q?))
  | error cause => exact .error _

variable [Scalar α]

/-- Elements that match have fields that match. -/
theorem agree_elementField {m m' : Member α} (h : m.Matches atlas atlas' m')
    (halike : m.element.Alike atlas atlas' m'.element) (name : String) :
    Attempt.Agree (Matches atlas atlas') (elementField m name) (elementField m' name) := by
  unfold elementField
  dsimp only
  rw [halike.name, halike.displayName, halike.state, halike.specificHeatCapacity,
    halike.thermalConductivity, halike.molarMass, halike.radiationAbsorption, halike.radioactivity,
    halike.massPerTile]
  split
  case h_1 | h_2 => exact .ok (.plain (.text _))
  case h_3 => exact .ok (.plain (.state _))
  case h_4 | h_5 | h_6 | h_7 | h_8 => exact .ok (.plain (.quantity _))
  case h_9 => exact .ok (.plain (plain_ofQuantity? _))
  case h_10 => exact .ok (matches_transition h halike .low)
  case h_11 => exact .ok (matches_transition h halike .high)
  case h_12 => exact agree_quantity? halike.density_eq
  case h_13 => exact agree_quantity? halike.thermalDiffusivity_eq
  case h_14 | h_15 => exact .ok (.method (.element h))
  case h_16 => exact .error _

omit [Scalar α] in
/-- A field of a plain value has nothing to do with an atlas. -/
theorem Plain.matches_field {v w : Value α} {name : String} (hv : v.Plain)
    (h : Field atlas name v w) : Matches atlas atlas' w w := by
  cases h with
  | plain hw => exact .plain hw
  | method => exact .method (.plain hv)
  | transition | element => cases hv

/-- Values that match have fields that match. -/
theorem agree_field (hatlas : atlas.Rearranges atlas') {v v' : Value α}
    (h : Matches atlas atlas' v v') (name : String) :
    Attempt.Agree (Matches atlas atlas') (v.field atlas name) (v'.field atlas' name) := by
  cases h with
  | plain hv =>
    have hsame : v.field atlas' name = v.field atlas name := by cases hv <;> rfl
    rw [hsame]
    refine .refl fun w hw => ?_
    have houtcome := v.outcome_field atlas name
    rw [hw] at houtcome
    exact hv.matches_field houtcome
  | element hm => exact agree_elementField hm (hatlas.alike _ _ hm) name
  | transition _ _ _ halike => exact agree_transitionField halike name
  | method => exact .error _

/-! ## Calls -/

omit [Scalar α] in
/-- What a method computes from arguments and from elements that are alike is one plain value. -/
theorem agree_computed {β : Type} {read : Except QueryError β}
    {run run' : β → Except QuantityError (Quantity α)} (h : ∀ b, run b = run' b) :
    Attempt.Agree (Matches atlas atlas')
      (read >>= fun b => (QueryError.ofQuantity (run b)).map quantity)
      (read >>= fun b => (QueryError.ofQuantity (run' b)).map quantity) := by
  rw [funext h]
  refine .refl fun w hw => ?_
  obtain ⟨b, -, hw⟩ := Attempt.bind_eq_ok.1 hw
  obtain ⟨q, -, rfl⟩ := Attempt.map_eq_ok.1 hw
  exact .plain (.quantity q)

/-- Methods of values that match have results that match. -/
theorem agree_callMethod (hatlas : atlas.Rearranges atlas') {v v' : Value α}
    (h : Matches atlas atlas' v v') (method : String) (arguments : Arguments α) :
    Attempt.Agree (Matches atlas atlas') (callMethod v method arguments)
      (callMethod v' method arguments) := by
  cases h with
  | plain =>
    refine .refl fun w hw => ?_
    have houtcome := v.outcome_callMethod method arguments
    rw [hw] at houtcome
    exact .plain houtcome
  | @element m m' hm =>
    have halike := hatlas.alike _ _ hm
    by_cases hheat : method = "heat_energy"
    · subst hheat
      exact agree_computed fun b => halike.heatEnergy_eq b.1 b.2
    by_cases hchange : method = "temperature_change"
    · subst hchange
      exact agree_computed fun b => halike.temperatureChange_eq b.1 b.2
    · have hunknown (n : Member α) : callMethod (.element n) method arguments =
          .error (.notCallable .element) := by
        unfold callMethod
        split <;> simp_all [kind]
      rw [hunknown, hunknown]
      exact .error _
  | transition => exact .error _
  | method => exact .error _

/-- Calls of values that match have results that match. -/
theorem agree_call (hatlas : atlas.Rearranges atlas') {v v' : Value α}
    (h : Matches atlas atlas' v v') (arguments : Arguments α) :
    Attempt.Agree (Matches atlas atlas') (v.call arguments) (v'.call arguments) := by
  cases h with
  | plain hv => cases hv <;> exact .error _
  | element | transition => exact .error _
  | method hreceiver => exact agree_callMethod hatlas hreceiver _ arguments

end Value

/-! ## Literals -/

namespace Literal

mutual

/-- A literal that names no place has one value in every atlas, and it is no part of an atlas. -/
theorem exists_value : ∀ {literal : Literal α}, (∀ id, ¬ literal.Mentions id) →
    ∃ w : Value α, w.kind ≠ .element ∧ w.kind ≠ .transition ∧
      ∀ atlas, literal.toValue atlas = .ok w
  | .none, _ => ⟨.none, nofun, nofun, fun _ => rfl⟩
  | .bool b, _ => ⟨.bool b, nofun, nofun, fun _ => rfl⟩
  | .number x, _ => ⟨.number x, nofun, nofun, fun _ => rfl⟩
  | .text s, _ => ⟨.text s, nofun, nofun, fun _ => rfl⟩
  | .state s, _ => ⟨.state s, nofun, nofun, fun _ => rfl⟩
  | .quantity q, _ => ⟨.quantity q, nofun, nofun, fun _ => rfl⟩
  | .element id, h => absurd .element (h id)
  | .list items, h => by
    obtain ⟨ws, hws⟩ := exists_values fun item hitem id hid => h id (.list hitem hid)
    refine ⟨.list ws, nofun, nofun, fun atlas => ?_⟩
    rw [toValue, hws]
    rfl

/-- Literals that name no place have the same values in every atlas. -/
theorem exists_values : ∀ {literals : List (Literal α)},
    (∀ literal ∈ literals, ∀ id, ¬ literal.Mentions id) →
      ∃ ws : List (Value α), ∀ atlas, toValues atlas literals = .ok ws
  | [], _ => ⟨[], fun _ => rfl⟩
  | literal :: literals, h => by
    obtain ⟨w, -, -, hw⟩ := exists_value (h literal (.head _))
    obtain ⟨ws, hws⟩ := exists_values fun other hother => h other (.tail _ hother)
    refine ⟨w :: ws, fun atlas => ?_⟩
    rw [toValues, hw, hws]
    rfl

end

end Literal

/-! ## Comparisons -/

namespace Value

/-- The value is a part of an atlas or a method, with which no literal compares. -/
def Bound (v : Value α) : Prop := v.kind = .element ∨ v.kind = .transition ∨ v.kind = .method

/-- Values that match are one value, or both are bound. -/
theorem Matches.eq_or_bound {v v' : Value α} (h : Matches atlas atlas' v v') :
    v = v' ∨ v.Bound ∧ v'.Bound := by
  cases h with
  | plain => exact .inl rfl
  | element => exact .inr ⟨.inl rfl, .inl rfl⟩
  | transition => exact .inr ⟨.inr (.inl rfl), .inr (.inl rfl)⟩
  | method => exact .inr ⟨.inr (.inr rfl), .inr (.inr rfl)⟩

variable [Scalar α] {v v' w : Value α}

/-- A bound method is true. -/
theorem Bound.truthy (h : v.Bound) : v.truthy = true := by
  cases v with
  | element | transition | method => rfl
  | _ => simp [Bound, kind] at h

/-- A bound method compares with nothing. -/
theorem Bound.compare (h : v.Bound) : v.compare w = .error (.incomparable v.kind w.kind) := by
  cases v with
  | element | transition | method => cases w <;> rfl
  | _ => simp [Bound, kind] at h

/-- Values that match compare alike. -/
theorem Matches.compare_eq (h : Matches atlas atlas' v v') : v.compare w = v'.compare w := by
  rcases h.eq_or_bound with rfl | ⟨hv, hv'⟩
  · rfl
  · rw [hv.compare, hv'.compare, h.kind_eq]

section
variable (helement : w.kind ≠ .element) (htransition : w.kind ≠ .transition)
include helement htransition

/-- A bound method equals nothing. -/
theorem Bound.equals (h : v.Bound) : v.equals w = .ok false := by
  cases v with
  | element | transition | method =>
    cases w with
    | element => exact absurd rfl helement
    | transition => exact absurd rfl htransition
    | _ => rfl
  | _ => simp [Bound, kind] at h

/-- A bound method is identical with nothing. -/
theorem Bound.identical (h : v.Bound) : v.identical w = false := by
  cases v with
  | element | transition | method =>
    cases w with
    | element => exact absurd rfl helement
    | transition => exact absurd rfl htransition
    | _ => rfl
  | _ => simp [Bound, kind] at h

/-- Values that match are equal to the same values. -/
theorem Matches.equals_eq (h : Matches atlas atlas' v v') : v.equals w = v'.equals w := by
  rcases h.eq_or_bound with rfl | ⟨hv, hv'⟩
  · rfl
  · rw [hv.equals helement htransition, hv'.equals helement htransition]

/-- Values that match are identical with the same values. -/
theorem Matches.identical_eq (h : Matches atlas atlas' v v') : v.identical w = v'.identical w := by
  rcases h.eq_or_bound with rfl | ⟨hv, hv'⟩
  · rfl
  · rw [hv.identical helement htransition, hv'.identical helement htransition]

/-- An operator holds alike of values that match. -/
theorem Matches.holds_eq (h : Matches atlas atlas' v v') (operator : Comparison) :
    operator.holds v w = operator.holds v' w := by
  have hequals := h.equals_eq helement htransition
  have hcompare := h.compare_eq (w := w)
  cases operator with
  | eq => exact hequals
  | ne => rw [Comparison.holds, hequals, Comparison.holds]
  | lt | le | gt | ge => rw [Comparison.holds, hcompare, Comparison.holds]

end

/-- Values that match are among the same literals, if these name no place. -/
theorem Matches.isAmong_eq (h : Matches atlas atlas' v v') {literals : List (Literal α)}
    (hliterals : ∀ literal ∈ literals, ∀ id, ¬ literal.Mentions id) :
    v.isAmong atlas literals = v'.isAmong atlas' literals := by
  induction literals with
  | nil => rfl
  | cons literal literals ih =>
    obtain ⟨w, helement, htransition, hw⟩ := Literal.exists_value (hliterals literal (.head _))
    have hrest := ih fun other hother => hliterals other (.tail _ hother)
    rw [isAmong, isAmong, hw, hw]
    simp only [bind, Except.bind, h.equals_eq helement htransition, hrest]

/-- Membership holds alike of values that match, if the candidates name no place. -/
theorem Matches.isIn_eq (h : Matches atlas atlas' v v') {candidates : List (Literal α)}
    (hcandidates : ∀ literal ∈ candidates, ∀ id, ¬ literal.Mentions id) :
    v.isIn atlas candidates = v'.isIn atlas' candidates := by
  unfold isIn
  split
  next items =>
    have hitems : ∀ literal ∈ items, ∀ id, ¬ literal.Mentions id :=
      fun literal hliteral id hid => hcandidates _ (.head _) id (.list hliteral hid)
    exact h.isAmong_eq hitems
  next s =>
    -- a bound value is no text, whichever atlas it belongs to
    cases h with
    | plain => rfl
    | element | transition | method => rfl
  next => exact h.isAmong_eq hcandidates

end Value

/-! ## Paths -/

variable [Scalar α]

/-- A step keeps values matched, or fails with one error in both atlases. -/
theorem Step.agree_apply (hatlas : atlas.Rearranges atlas') {v v' : Value α}
    (h : v.Matches atlas atlas' v') (step : Step α) :
    Attempt.Agree (Value.Matches atlas atlas') (step.apply atlas v) (step.apply atlas' v') := by
  cases step with
  | field name => exact Value.agree_field hatlas h name
  | call arguments => exact Value.agree_call hatlas h arguments

namespace Attribute

/-- Hops are followed alike from values that match. The error for lack of a value is made of the hops
alone. -/
theorem agree_follow (a : Attribute α) (hatlas : atlas.Rearranges atlas') {v v' : Value α}
    (h : v.Matches atlas atlas' v') (before hops : List (Hop α)) :
    Attempt.Agree (Value.Matches atlas atlas') (a.follow atlas v before hops)
      (a.follow atlas' v' before hops) := by
  induction hops generalizing v v' before with
  | nil => exact .ok h
  | cons hop hops ih =>
    rw [follow, follow, h.isNone_eq]
    split
    · split
      · exact .ok (.plain .none)
      · exact .error _
    · exact (hop.step.agree_apply hatlas h).bind fun w w' hnext => ih hnext _

/-- A path that begins at elements that match comes to values that match, or fails with one error in
both atlases. -/
theorem agree_evaluate {a : Attribute α} (hatlas : atlas.Rearranges atlas') (hroot : a.base = .root)
    {m m' : Member α} (h : m.Matches atlas atlas' m') :
    Attempt.Agree (Value.Matches atlas atlas') (a.evaluate atlas m) (a.evaluate atlas' m') := by
  rw [evaluate, evaluate, hroot]
  exact a.agree_follow hatlas (.element h) [] a.hops

end Attribute

/-! ## Predicates -/

/-- A predicate whose paths begin at the element and whose literals name no place holds of both
elements that match, or of neither, or it fails on both with one error. -/
theorem Predicate.evaluate_of_matches (hatlas : atlas.Rearranges atlas') {m m' : Member α}
    (h : m.Matches atlas atlas' m') {p : Predicate α} (hroot : p.RootBased)
    (hliterals : ∀ id, ¬ p.Mentions id) : p.evaluate atlas m = p.evaluate atlas' m' := by
  induction p with
  | compare left operator right =>
    obtain ⟨w, helement, htransition, hw⟩ := Literal.exists_value hliterals
    refine (Attribute.agree_evaluate hatlas hroot h).bind_eq fun v v' hv => ?_
    rw [hw, hw]
    exact hv.holds_eq helement htransition operator
  | is left right =>
    obtain ⟨w, helement, htransition, hw⟩ := Literal.exists_value hliterals
    refine (Attribute.agree_evaluate hatlas hroot h).bind_eq fun v v' hv => ?_
    rw [hw, hw]
    exact congrArg Except.ok (hv.identical_eq helement htransition)
  | isIn left candidates =>
    refine (Attribute.agree_evaluate hatlas hroot h).bind_eq fun v v' hv => ?_
    exact hv.isIn_eq fun literal hliteral id hid => hliterals id ⟨literal, hliteral, hid⟩
  | truthy path =>
    refine (Attribute.agree_evaluate hatlas hroot h).bind_eq fun v v' hv => ?_
    rcases hv.eq_or_bound with rfl | ⟨hbound, hbound'⟩
    · rfl
    · rw [hbound.truthy, hbound'.truthy]
  | and p q ihp ihq =>
    have hp := ihp hroot.1 fun id hid => hliterals id (.inl hid)
    have hq := ihq hroot.2 fun id hid => hliterals id (.inr hid)
    rw [evaluate, evaluate, hp, hq]
  | or p q ihp ihq =>
    have hp := ihp hroot.1 fun id hid => hliterals id (.inl hid)
    have hq := ihq hroot.2 fun id hid => hliterals id (.inr hid)
    rw [evaluate, evaluate, hp, hq]
  | not p ih => rw [evaluate, evaluate, ih hroot hliterals]
  | const b => rfl
  | custom label test => exact hroot.elim

end ElementAtlas
