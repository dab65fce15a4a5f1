import ElementAtlas.Proofs.Atlas.Loaded
import ElementAtlas.Proofs.Query.Connectives
import ElementAtlas.Proofs.Query.Extension

/-!
# Stable elements

Whether an element is stable at a temperature is decided by its transitions: each is compared with the
temperature if the element has it, the low one before the high one.
-/

namespace ElementAtlas

variable {α : Type} [Scalar α]

/-! ## What stability means -/

/-- At the temperature the element crosses neither of its transitions. -/
structure Element.StableAt {ρ : Type} (e : Element α ρ) (temperature : Quantity α) : Prop where
  low : ∀ t, e.lowTransition = some t → t.temperature.compare temperature = .ok .lt
  high : ∀ t, e.highTransition = some t → t.temperature.compare temperature = .ok .gt

/-- At an absolute temperature it is known whether an element is stable. Any other quantity is an
error for the first transition of the element, and of no account if it has none. -/
structure StabilityLaws (atlas : Atlas α) (m : Member α) (temperature : Quantity α) : Prop where
  absolute : temperature.unit.Measures .ofTemperature true →
    ∃ b, (Predicate.stableAt temperature).evaluate atlas m = .ok b ∧
      (b = true ↔ m.element.StableAt temperature)
  other_of_none : ¬ temperature.unit.Measures .ofTemperature true →
    m.element.lowTransition = none → m.element.highTransition = none →
      (Predicate.stableAt temperature).evaluate atlas m = .ok true
  other_of_low : ¬ temperature.unit.Measures .ofTemperature true →
    ∀ t, m.element.lowTransition = some t →
      (Predicate.stableAt temperature).evaluate atlas m =
        .error (.quantity (.incompatible temperature.unit.label t.temperature.unit.label))
  other_of_high : ¬ temperature.unit.Measures .ofTemperature true →
    m.element.lowTransition = none → ∀ t, m.element.highTransition = some t →
      (Predicate.stableAt temperature).evaluate atlas m =
        .error (.quantity (.incompatible temperature.unit.label t.temperature.unit.label))

/-! ## Comparing temperatures -/

/-- Quantities compare as values with the outcome of comparing them. -/
@[simp] theorem Value.compare_eq_ofQuantity (q r : Quantity α) :
    (quantity q).compare (quantity r) = QueryError.ofQuantity (q.compare r) := by
  rw [compare, compare?]
  cases q.compare r <;> rfl

namespace Side

/-- The field of the transition on a side. -/
def field : Side → String
  | .low => "low_transition"
  | .high => "high_transition"

/-- The path to the temperature of the transition on a side. -/
def temperature : Side → Attribute α
  | .low => .lowTemperature
  | .high => .highTemperature

/-- The comparison of that temperature with one at which the transition is not crossed. -/
def comparison : Side → Comparison
  | .low => .lt
  | .high => .gt

/-- The order in which the comparison holds. -/
def order : Side → Ordering
  | .low => .lt
  | .high => .gt

/-- The comparison on a side holds in the order on that side. -/
theorem holds_comparison (side : Side) (q r : Quantity α) :
    side.comparison.holds (.quantity q) (.quantity r) =
      (QueryError.ofQuantity (q.compare r)).map (· == side.order) := by
  have hcompare := Value.compare_eq_ofQuantity q r
  cases side with
  | low | high =>
    refine (congrArg (Except.map _) hcompare).trans ?_
    cases q.compare r with
    | error cause => rfl
    | ok order => cases order <;> rfl

variable {atlas : Atlas α} {m : Member α}

/-- The path to a side leads to the transition on that side, if there is one. -/
@[simp] theorem evaluate_field (side : Side) : (Attribute.ofField side.field).evaluate atlas m =
    .ok (((m.element.transition? side).map (.transition m.id side)).getD .none) := by
  cases side with
  | low | high => exact Attribute.evaluate_ofField rfl

/-- The path to the temperature on a side has the temperature of the transition there, if there is
one. -/
@[simp] theorem evaluate_temperature (side : Side) : side.temperature.evaluate atlas m =
    .ok (Value.ofQuantity? ((m.element.transition? side).map (·.temperature))) := by
  cases side with
  | low => exact Attribute.evaluate_lowTemperature
  | high => exact Attribute.evaluate_highTemperature

end Side

namespace Predicate

variable {atlas : Atlas α} {m : Member α} {temperature : Quantity α}

/-! ## One transition -/

/-- At the temperature an element does not cross the transition on a side. -/
def clears (temperature : Quantity α) (side : Side) : Predicate α :=
  or (is (.ofField side.field) .none)
    (compare side.temperature side.comparison (.quantity temperature))

/-- Without the transition there is nothing to cross. -/
theorem evaluate_clears_of_none (side : Side) (h : m.element.transition? side = none) :
    (clears temperature side).evaluate atlas m = .ok true := by
  have hfield : (Attribute.ofField side.field).evaluate atlas m = .ok _ := side.evaluate_field
  rw [h] at hfield
  have hnone : (is (.ofField side.field) .none).evaluate atlas m = .ok true :=
    Attempt.bind_eq_ok.2 ⟨_, hfield, rfl⟩
  exact Attempt.bind_eq_ok.2 ⟨true, hnone, rfl⟩

/-- The temperature of a transition is compared with the one that is given. -/
theorem evaluate_clears_of_some {side : Side} {t : Transition α ElementId}
    (h : m.element.transition? side = some t) :
    (clears temperature side).evaluate atlas m =
      (QueryError.ofQuantity (t.temperature.compare temperature)).map (· == side.order) := by
  have hfield : (Attribute.ofField side.field).evaluate atlas m = .ok _ := side.evaluate_field
  have hpath : side.temperature.evaluate atlas m = .ok _ := side.evaluate_temperature
  rw [h] at hfield hpath
  have hsome : (is (.ofField side.field) .none).evaluate atlas m = .ok false :=
    Attempt.bind_eq_ok.2 ⟨_, hfield, rfl⟩
  have hcompare : (Predicate.compare side.temperature side.comparison
      (.quantity temperature)).evaluate atlas m =
      side.comparison.holds (.quantity t.temperature) (.quantity temperature) := by
    rw [evaluate, Attempt.bind_of_ok hpath]
    rfl
  rw [clears, evaluate, Attempt.bind_of_ok hsome, if_neg Bool.false_ne_true, hcompare,
    side.holds_comparison]

/-- A temperature clears a side if the transition there, should there be one, is not crossed. -/
theorem evaluate_clears_eq_true {side : Side} :
    (clears temperature side).evaluate atlas m = .ok true ↔
      ∀ t, m.element.transition? side = some t →
        t.temperature.compare temperature = .ok side.order := by
  cases ht : m.element.transition? side with
  | none => exact iff_of_true (evaluate_clears_of_none side ht) nofun
  | some t =>
    rw [evaluate_clears_of_some ht]
    cases hcompare : t.temperature.compare temperature with
    | error cause => simp [QueryError.ofQuantity, hcompare]
    | ok order => simp [QueryError.ofQuantity, hcompare]

/-- What is no absolute temperature does not compare with that of a transition. -/
theorem evaluate_clears_of_incompatible (side : Side) {t : Transition α ElementId}
    (h : m.element.transition? side = some t) (hmeasured : m.element.Measured)
    (hother : ¬ temperature.unit.Measures .ofTemperature true) :
    (clears temperature side).evaluate atlas m =
      .error (.quantity (.incompatible temperature.unit.label t.temperature.unit.label)) := by
  have hkind := hmeasured.temperature side t h
  rw [evaluate_clears_of_some h, Quantity.compare_of_incompatible]
  · rfl
  · rintro ⟨hdimension, habsolute⟩
    exact hother ⟨hdimension.trans hkind.dimension, habsolute.trans hkind.isAbsolute⟩

/-- Absolute temperatures compare with that of a transition. -/
theorem exists_clears (h : m.element.Measured)
    (htemperature : temperature.unit.Measures .ofTemperature true) (side : Side) :
    ∃ b, (clears temperature side).evaluate atlas m = .ok b := by
  cases ht : m.element.transition? side with
  | none => exact ⟨true, evaluate_clears_of_none side ht⟩
  | some t =>
    obtain ⟨order, horder⟩ := Quantity.exists_compare (h.temperature side t ht) htemperature
    rw [evaluate_clears_of_some ht, horder]
    exact ⟨_, rfl⟩

/-! ## Both transitions -/

omit [Scalar α] in
/-- Stability is clearing both sides. -/
theorem stableAt_eq (temperature : Quantity α) :
    stableAt temperature = and (clears temperature .low) (clears temperature .high) := rfl

/-- Stability at a temperature has a truth value for a measured element. -/
theorem exists_stableAt (h : m.element.Measured)
    (htemperature : temperature.unit.Measures .ofTemperature true) :
    ∃ b, (stableAt temperature).evaluate atlas m = .ok b :=
  exists_and (exists_clears h htemperature .low) (exists_clears h htemperature .high)

/-- Stability over a range has a truth value for a measured element. -/
theorem exists_stableOver (h : m.element.Measured) {low high : Quantity α}
    (hlow : low.unit.Measures .ofTemperature true)
    (hhigh : high.unit.Measures .ofTemperature true) :
    ∃ b, (stableOver low high).evaluate atlas m = .ok b :=
  exists_and (exists_stableAt h hlow) (exists_stableAt h hhigh)

/-- The predicate of stability holds if the element is stable. -/
theorem evaluate_stableAt_eq_true :
    (stableAt temperature).evaluate atlas m = .ok true ↔ m.element.StableAt temperature := by
  rw [stableAt_eq, evaluate_and_eq_true, evaluate_clears_eq_true, evaluate_clears_eq_true]
  exact ⟨fun ⟨hlow, hhigh⟩ => ⟨hlow, hhigh⟩, fun ⟨hlow, hhigh⟩ => ⟨hlow, hhigh⟩⟩

/-- The predicate of stability over a range holds if the element is stable at both ends. -/
theorem evaluate_stableOver_eq_true {low high : Quantity α} :
    (stableOver low high).evaluate atlas m = .ok true ↔
      m.element.StableAt low ∧ m.element.StableAt high := by
  rw [stableOver, evaluate_and_eq_true, evaluate_stableAt_eq_true, evaluate_stableAt_eq_true]

/-- Every measured element obeys the laws of stability. -/
theorem stabilityLaws (h : m.element.Measured) (temperature : Quantity α) :
    StabilityLaws atlas m temperature where
  absolute hkind := by
    obtain ⟨b, hb⟩ : ∃ b, (stableAt temperature).evaluate atlas m = .ok b := exists_stableAt h hkind
    have hstable : (stableAt temperature).evaluate atlas m = .ok true ↔ _ :=
      evaluate_stableAt_eq_true
    rw [hb, Except.ok.injEq] at hstable
    exact ⟨b, hb, hstable⟩
  other_of_none _ hlow hhigh := by
    rw [stableAt_eq, evaluate_and_eq_true]
    exact ⟨evaluate_clears_of_none .low hlow, evaluate_clears_of_none .high hhigh⟩
  other_of_low hother t ht := by
    rw [stableAt_eq, evaluate, evaluate_clears_of_incompatible .low ht h hother]
    rfl
  other_of_high hother hlow t ht := by
    rw [stableAt_eq, evaluate, Attempt.bind_of_ok (evaluate_clears_of_none .low hlow), if_pos rfl,
      evaluate_clears_of_incompatible .high ht h hother]

/-- The ends of a range may be exchanged. -/
theorem stableOver_comm {low high : Quantity α} {b c : Bool}
    (h : (stableOver low high).evaluate atlas m = .ok b)
    (h' : (stableOver high low).evaluate atlas m = .ok c) : b = c := by
  have hstable : (stableOver low high).evaluate atlas m = .ok true ↔ _ :=
    evaluate_stableOver_eq_true
  have hstable' : (stableOver high low).evaluate atlas m = .ok true ↔ _ :=
    evaluate_stableOver_eq_true
  rw [h, Except.ok.injEq] at hstable
  rw [h', Except.ok.injEq] at hstable'
  rw [Bool.eq_iff_iff, hstable, hstable', and_comm]

end Predicate

/-- In a loaded atlas, the transitions that an element has decide whether it is stable, and those it
does not have never get in the way. -/
theorem Atlas.stability_of_loaded {atlas : Atlas α} (h : atlas.Loaded) {m : Member α}
    (hm : atlas.get? m.id = some m) :
    (∀ temperature, StabilityLaws atlas m temperature) ∧
      ∀ low high b c, (Predicate.stableOver low high).evaluate atlas m = .ok b →
        (Predicate.stableOver high low).evaluate atlas m = .ok c → b = c :=
  ⟨Predicate.stabilityLaws (h.measured hm), fun _ _ _ _ => Predicate.stableOver_comm⟩

/-- Water of the sample obeys the laws, also with the ends of a range exchanged. -/
theorem Atlas.stability_of_loaded_sample :
    ∃ (atlas : Atlas Float) (water : Member Float), atlas.Loaded ∧
      atlas.get? water.id = some water ∧ water.element.name = "Water" ∧
      (∀ temperature, StabilityLaws atlas water temperature) ∧
      ∀ low high b c, (Predicate.stableOver low high).evaluate atlas water = .ok b →
        (Predicate.stableOver high low).evaluate atlas water = .ok c → b = c := by
  have hsample : (Sample.atlas : Except LoadError (Atlas Float)).toOption.map
      (fun atlas => (atlas.get? ⟨1⟩).map (·.element.name)) = some (some "Water") := by
    decide +kernel
  obtain ⟨atlas, hloaded, hmember⟩ := Sample.exists_loaded hsample
  obtain ⟨water, hwater, hname⟩ := Option.map_eq_some_iff.1 hmember
  have hat : atlas.get? water.id = some water := (Value.id_eq_of_get? hwater).symm ▸ hwater
  obtain ⟨hlaws, hranges⟩ := stability_of_loaded hloaded hat
  exact ⟨atlas, water, hloaded, hat, hname, hlaws, hranges⟩

end ElementAtlas
