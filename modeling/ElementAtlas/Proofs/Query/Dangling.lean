import ElementAtlas.Proofs.Atlas.Sample
import ElementAtlas.Proofs.Query.Inside
import ElementAtlas.Query.Predicate

/-!
# Places without an element

A query comes to a place without an element only by a literal that names the place. Paths that begin
at an element of the atlas stay in it, and comparing values looks no place up, so what remains are
the literals that a predicate compares with, at any depth of lists
(`Predicate.mentions_of_danglingElement`). `Atlas.evaluation_stays_inside` puts together what holds
of all paths and predicates of an atlas.
-/

namespace ElementAtlas

variable {α : Type} {atlas : Atlas α}

/-! ## Literals -/

/-- The literal names a place, itself or in one of its lists. -/
inductive Literal.Mentions (id : ElementId) : Literal α → Prop
  | element : Mentions id (.element id)
  | list {literal : Literal α} {items : List (Literal α)} : literal ∈ items →
      Mentions id literal → Mentions id (.list items)

namespace Literal

mutual

/-- A literal that has no value names a place without an element. -/
theorem mentions_of_toValue {e : QueryError} : ∀ {literal : Literal α},
    literal.toValue atlas = .error e →
      ∃ id, literal.Mentions id ∧ atlas.get? id = Option.none ∧ e = .danglingElement id.index
  | .element id, h => by
    obtain ⟨hnone, rfl⟩ := Value.valueAt_eq_error.1 h
    exact ⟨id, .element, hnone, rfl⟩
  | .list items, h => by
    rw [toValue, Attempt.map_eq_error] at h
    obtain ⟨literal, hmem, id, hmentions, hend⟩ := mentions_of_toValues h
    exact ⟨id, .list hmem hmentions, hend⟩
  | .none, h | .bool _, h | .number _, h | .text _, h | .state _, h | .quantity _, h => by
    simp [toValue] at h

/-- Literals that have no values hold one that names a place without an element. -/
theorem mentions_of_toValues {e : QueryError} : ∀ {literals : List (Literal α)},
    toValues atlas literals = .error e → ∃ literal ∈ literals, ∃ id, literal.Mentions id ∧
      atlas.get? id = Option.none ∧ e = .danglingElement id.index
  | [], h => by
    simp [toValues] at h
  | literal :: literals, h => by
    rw [toValues, Attempt.bind_eq_error] at h
    rcases h with h | ⟨_, -, h⟩
    · exact ⟨literal, .head _, mentions_of_toValue h⟩
    · rcases Attempt.bind_eq_error.1 h with h | ⟨_, -, h⟩
      · obtain ⟨other, hmem, hend⟩ := mentions_of_toValues h
        exact ⟨other, .tail _ hmem, hend⟩
      · cases h

end

end Literal

/-! ## Comparisons -/

/-- The error is that of a comparison. -/
inductive QueryError.OfComparison : QueryError → Prop
  | quantity (cause : QuantityError) : OfComparison (.quantity cause)
  | incomparable (left right : ValueKind) : OfComparison (.incomparable left right)

variable [Scalar α]

namespace Value

/-- An operation on quantities fails with the error of a comparison. -/
theorem ofComparison_of_ofQuantity {β : Type} {r : Except QuantityError β} {e : QueryError}
    (h : QueryError.ofQuantity r = .error e) : e.OfComparison := by
  obtain ⟨cause, -, rfl⟩ := Attempt.mapError_eq_error.1 h
  exact .quantity cause

/-- Comparing two values fails with the error of a comparison. -/
theorem ofComparison_of_compare {v w : Value α} {e : QueryError} (h : v.compare w = .error e) :
    e.OfComparison := by
  rcases Attempt.bind_eq_error.1 h with h | ⟨o?, -, h⟩
  · unfold compare? at h
    split at h
    case h_2 => exact ofComparison_of_ofQuantity (Attempt.map_eq_error.1 h)
    all_goals cases h
  · cases o? with
    | none =>
      cases h
      exact .incomparable _ _
    | some o => cases h

/-- Equality fails with quantities, or inside of two lists. -/
theorem cases_of_equals {v w : Value α} {e : QueryError} (h : v.equals w = .error e) :
    (∃ q r : Quantity α, QueryError.ofQuantity (q.equals r) = .error e) ∨
      ∃ vs ws, v = .list vs ∧ w = .list ws ∧ allEqual vs ws = .error e := by
  unfold equals at h
  split at h
  case h_3 q r => exact .inl ⟨q, r, h⟩
  case h_11 vs ws =>
    split at h
    · exact .inr ⟨vs, ws, rfl, rfl, h⟩
    · cases h
  all_goals cases h

mutual

/-- Testing two values for equality fails with the error of a comparison. -/
theorem ofComparison_of_equals {v w : Value α} {e : QueryError} (h : v.equals w = .error e) :
    e.OfComparison := by
  rcases cases_of_equals h with ⟨_, _, hquantity⟩ | ⟨vs, _, rfl, rfl, hall⟩
  · exact ofComparison_of_ofQuantity hquantity
  · exact ofComparison_of_allEqual hall
termination_by sizeOf v

/-- Testing two lists for equality fails with the error of a comparison. -/
theorem ofComparison_of_allEqual {vs ws : List (Value α)} {e : QueryError}
    (h : allEqual vs ws = .error e) : e.OfComparison := by
  match vs, ws with
  | v :: vs, w :: ws =>
    rw [allEqual] at h
    split at h
    · exact ofComparison_of_allEqual h
    · cases h
    next herror =>
      cases h
      exact ofComparison_of_equals herror
  | [], _ | _ :: _, [] => simp [allEqual] at h
termination_by sizeOf vs

end

end Value

/-- An operator fails with the error of a comparison. -/
theorem Comparison.ofComparison_of_holds {operator : Comparison} {v w : Value α} {e : QueryError}
    (h : operator.holds v w = .error e) : e.OfComparison := by
  cases operator with
  | eq => exact Value.ofComparison_of_equals h
  | ne => exact Value.ofComparison_of_equals (Attempt.map_eq_error.1 h)
  | lt | le | gt | ge => exact Value.ofComparison_of_compare (Attempt.map_eq_error.1 h)

/-- A test for membership fails because of a literal that has no value, or because there is nothing
to be found in a text. -/
theorem Value.error_of_isAmong {v : Value α} {literals : List (Literal α)} {e : QueryError}
    (h : v.isAmong atlas literals = .error e) :
    ∃ literal ∈ literals, literal.toValue atlas = .error e := by
  induction literals with
  | nil => cases h
  | cons literal literals ih =>
    rw [isAmong, Attempt.bind_eq_error] at h
    rcases h with h | ⟨w, -, h⟩
    · exact ⟨literal, .head _, h⟩
    · split at h
      · cases h
      · obtain ⟨other, hmem, hother⟩ := ih h
        exact ⟨other, .tail _ hmem, hother⟩

/-- Membership fails with the error of a comparison, or at a candidate that names a place without an
element. -/
theorem Value.error_of_isIn {v : Value α} {candidates : List (Literal α)} {e : QueryError}
    (h : v.isIn atlas candidates = .error e) :
    e.OfComparison ∨ ∃ id, (∃ literal ∈ candidates, literal.Mentions id) ∧
      atlas.get? id = Option.none ∧ e = .danglingElement id.index := by
  unfold isIn at h
  split at h
  next items =>
    obtain ⟨literal, hmem, hliteral⟩ := error_of_isAmong h
    obtain ⟨id, hmentions, hend⟩ := Literal.mentions_of_toValue hliteral
    exact .inr ⟨id, ⟨_, .head _, .list hmem hmentions⟩, hend⟩
  · split at h
    · cases h
    · cases h
      exact .inl (.incomparable _ _)
  · obtain ⟨literal, hmem, hliteral⟩ := error_of_isAmong h
    obtain ⟨id, hmentions, hend⟩ := Literal.mentions_of_toValue hliteral
    exact .inr ⟨id, ⟨literal, hmem, hmentions⟩, hend⟩

/-! ## Predicates -/

namespace Predicate

/-- All paths of the predicate begin at the element, and none of its tests is a custom one. -/
def RootBased : Predicate α → Prop
  | compare left _ _ | is left _ | isIn left _ | truthy left => left.base = .root
  | and p q | or p q => p.RootBased ∧ q.RootBased
  | not p => p.RootBased
  | const _ => True
  | custom .. => False

/-- A literal that the predicate compares with names a place. -/
def Mentions (id : ElementId) : Predicate α → Prop
  | compare _ _ right | is _ right => right.Mentions id
  | isIn _ candidates => ∃ literal ∈ candidates, literal.Mentions id
  | and p q | or p q => p.Mentions id ∨ q.Mentions id
  | not p => p.Mentions id
  | truthy _ | const _ | custom .. => False

variable {m : Member α}

/-- A predicate that comes to a place without an element compares with a literal that names the
place. -/
theorem mentions_of_danglingElement (hlinked : atlas.Linked) (hm : atlas.get? m.id = some m)
    {index : Nat} {p : Predicate α} (hroot : p.RootBased)
    (h : p.evaluate atlas m = .error (.danglingElement index)) :
    p.Mentions ⟨index⟩ ∧ atlas.get? ⟨index⟩ = none := by
  have hpath {a : Attribute α} (hroot : a.base = .root)
      (h : a.evaluate atlas m = .error (.danglingElement index)) : False :=
    Attribute.evaluate_ne_danglingElement hlinked hroot hm index h
  have hliteral {literal : Literal α}
      (h : literal.toValue atlas = .error (.danglingElement index)) :
      literal.Mentions ⟨index⟩ ∧ atlas.get? ⟨index⟩ = none := by
    obtain ⟨id, hmentions, hnone, heq⟩ := Literal.mentions_of_toValue h
    cases heq
    exact ⟨hmentions, hnone⟩
  induction p with
  | compare left operator right =>
    rcases Attempt.bind_eq_error.1 h with h | ⟨v, -, h⟩
    · exact (hpath hroot h).elim
    rcases Attempt.bind_eq_error.1 h with h | ⟨w, -, h⟩
    · exact hliteral h
    · cases Comparison.ofComparison_of_holds h
  | is left right =>
    rcases Attempt.bind_eq_error.1 h with h | ⟨v, -, h⟩
    · exact (hpath hroot h).elim
    rcases Attempt.bind_eq_error.1 h with h | ⟨w, -, h⟩
    · exact hliteral h
    · cases h
  | isIn left candidates =>
    rcases Attempt.bind_eq_error.1 h with h | ⟨v, -, h⟩
    · exact (hpath hroot h).elim
    rcases Value.error_of_isIn h with h | ⟨id, hmentions, hnone, heq⟩
    · cases h
    · cases heq
      exact ⟨hmentions, hnone⟩
  | truthy path =>
    rcases Attempt.bind_eq_error.1 h with h | ⟨v, -, h⟩
    · exact (hpath hroot h).elim
    · cases h
  | and p q ihp ihq =>
    rcases Attempt.bind_eq_error.1 h with h | ⟨holds, -, h⟩
    · exact (ihp hroot.1 h).imp_left .inl
    · split at h
      · exact (ihq hroot.2 h).imp_left .inr
      · cases h
  | or p q ihp ihq =>
    rcases Attempt.bind_eq_error.1 h with h | ⟨holds, -, h⟩
    · exact (ihp hroot.1 h).imp_left .inl
    · split at h
      · cases h
      · exact (ihq hroot.2 h).imp_left .inr
  | not p ih =>
    rcases Attempt.bind_eq_error.1 h with h | ⟨holds, -, h⟩
    · exact ih hroot h
    · cases h
  | const b => cases h
  | custom label test => exact hroot.elim

end Predicate

omit [Scalar α] in
/-- An atlas has no element at places beyond its size. -/
@[simp]
theorem Atlas.get?_eq_none_iff {id : ElementId} : atlas.get? id = none ↔ atlas.size ≤ id.index := by
  rw [get?, Option.map_eq_none_iff, List.getElem?_eq_none_iff, size]

/-- Evaluation stays inside an atlas that is made of definitions. Along a path from one of its
elements all values are inside, the path comes to no place without an element and compares nothing,
and it calls no value in vain but one that is no method; for a method that is the field of a value
can be called. A predicate of such paths comes to a place without an element only if one of its
literals names that place. -/
theorem Atlas.evaluation_stays_inside {definitions : List (Definition α)} {strings : StringTable}
    (h : ofDefinitions definitions strings = .ok atlas) :
    (∀ (m : Member α) (a : Attribute α), atlas.get? m.id = some m → a.base = .root →
      (∀ before hop v, a.ArrivesAt atlas m before hop v → v.Inside atlas) ∧
      (∀ v, a.evaluate atlas m = .ok v → v.Inside atlas) ∧
      (∀ index, a.evaluate atlas m ≠ .error (.danglingElement index)) ∧
      (∀ left right, a.evaluate atlas m ≠ .error (.incomparable left right)) ∧
      ∀ kind, a.evaluate atlas m = .error (.notCallable kind) →
        ∃ before hop v, a.ArrivesAt atlas m before hop v ∧
          (∃ arguments, hop.step = .call arguments) ∧ v.kind ≠ .method ∧ kind = v.kind) ∧
    (∀ (v receiver : Value α) (name method : String),
      v.field atlas name = .ok (.method receiver method) → ∀ arguments kind,
        (Value.method receiver method).call arguments ≠ .error (.notCallable kind)) ∧
    ∀ (m : Member α) (p : Predicate α) (index : Nat), atlas.get? m.id = some m → p.RootBased →
      p.evaluate atlas m = .error (.danglingElement index) →
        p.Mentions ⟨index⟩ ∧ atlas.size ≤ index := by
  have hlinked := linked_of_ofDefinitions h
  refine ⟨fun m a hm hroot => ⟨fun _ _ _ harrives => harrives.inside hroot hm,
      fun _ hv => Attribute.inside_of_evaluate hv hroot hm,
      Attribute.evaluate_ne_danglingElement hlinked hroot hm,
      Attribute.evaluate_ne_incomparable hroot,
      fun _ hkind => Attribute.arrivesAt_of_notCallable hkind hroot hm⟩,
    fun v receiver name method hfield => (Value.method_of_field hfield).2,
    fun m p index hm hroot hp => ?_⟩
  obtain ⟨hmentions, hnone⟩ := p.mentions_of_danglingElement hlinked hm hroot hp
  exact ⟨hmentions, get?_eq_none_iff.1 hnone⟩

/-- In the sample, a path from water by way of ice leads to an element of the atlas, and a literal in
a list leads to the place after the last one. -/
theorem Atlas.evaluation_stays_inside_sample :
    ∃ (definitions : List (Definition Float)) (atlas : Atlas Float) (water : Member Float)
      (v : Value Float),
      ofDefinitions definitions Sample.strings = .ok atlas ∧ atlas.get? water.id = some water ∧
      ((((Attribute.ofField "low_transition").field "target").field "high_transition").field
        "target").evaluate atlas water = .ok v ∧ v.kind = .element ∧ v.Inside atlas ∧
      (Predicate.compare .root .eq (.list [.element ⟨3⟩])).evaluate atlas water =
        .error (.danglingElement 3) ∧ atlas.size ≤ 3 := by
  let path : Attribute Float :=
    (((Attribute.ofField "low_transition").field "target").field "high_transition").field "target"
  let p : Predicate Float := .compare .root .eq (.list [.element ⟨3⟩])
  have hloaded : (Sample.atlas : Except LoadError (Atlas Float)).toOption.map (fun atlas =>
      (atlas.get? ⟨1⟩).bind fun water =>
        (path.evaluate atlas water).toOption.map fun v => (atlas.size, v.kind)) =
      some (some (3, .element)) := by
    decide +kernel
  obtain ⟨definitions, atlas, -, hatlas, hsample⟩ := Sample.exists_atlas hloaded
  obtain ⟨water, hwater, hsample⟩ := Option.bind_eq_some_iff.1 hsample
  obtain ⟨v, hv, hsample⟩ := Option.map_eq_some_iff.1 hsample
  obtain ⟨hsize, hkind⟩ := Prod.mk.inj hsample
  have hmember : atlas.get? water.id = some water := (Value.id_eq_of_get? hwater).symm ▸ hwater
  have hvalue := Attempt.toOption_eq_some_iff.1 hv
  obtain ⟨hpaths, -, hpredicates⟩ := evaluation_stays_inside hatlas
  have hnone : atlas.get? ⟨3⟩ = none := get?_eq_none_iff.2 (Nat.le_of_eq hsize)
  have hliteral : (Literal.list [.element ⟨3⟩]).toValue atlas = .error (.danglingElement 3) := by
    simp [Literal.toValue, Literal.toValues, valueAt, hnone]
  have hdangling : p.evaluate atlas water = .error (.danglingElement 3) :=
    Attempt.bind_eq_error.2 (.inr ⟨_, rfl, Attempt.bind_eq_error.2 (.inl hliteral)⟩)
  exact ⟨definitions, atlas, water, v, hatlas, hmember, hvalue, hkind,
    (hpaths water path hmember rfl).2.1 v hvalue, hdangling,
    (hpredicates water p 3 hmember rfl hdangling).2⟩

end ElementAtlas
