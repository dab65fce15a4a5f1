import ElementAtlas.Element.Record
import ElementAtlas.Proofs.Attempt

/-!
# What a record gives

A definition that is read from a record has a property in each field, and each has come from its own
field: `Definition.ReadFrom` lists them, and `Transition.ReadFrom` those of a transition. Reading
succeeds with a definition if and only if the definition is read from the record in this sense.
-/

namespace ElementAtlas

variable {α : Type} [Scalar α]

/-- A quantity whose magnitude may be absent has been parsed where it is present. -/
theorem Quantity.parse?_eq_some {magnitude? : Option α} {unit : String} {q : Quantity α}
    (h : parse? magnitude? unit = .ok (some q)) :
    ∃ magnitude, magnitude? = some magnitude ∧ parse magnitude unit = .ok q := by
  cases magnitude? with
  | none => cases h
  | some magnitude =>
    obtain ⟨r, hr, heq⟩ := Attempt.map_eq_ok.1 h
    cases heq
    exact ⟨magnitude, rfl, hr⟩

/-- What holds of both sides holds of the low one and of the high one. -/
theorem Side.forall_iff {p : Side → Prop} : (∀ side, p side) ↔ p .low ∧ p .high := by
  refine ⟨fun h => ⟨h .low, h .high⟩, fun h side => ?_⟩
  cases side with
  | low => exact h.1
  | high => exact h.2

/-- The transition on one side comes from its fields. Its temperature is given in kelvin. -/
structure Transition.ReadFrom (fields : Json.Fields α) (side : Side) (t : Transition α Unit) :
    Prop where
  temperature : ∃ magnitude kelvin,
    Record.number? fields (TransitionField.temperature.name side) = .ok (some magnitude) ∧
    Quantity.parse magnitude "K" = .ok kelvin ∧ kelvin.convertTo "degC" = .ok t.temperature
  targetName : Record.string? fields (TransitionField.target.name side) = .ok (some t.targetName)
  byproduct : t.byproduct = t.byproductName.map fun _ => ()
  byproductName : Record.string? fields (TransitionField.byproduct.name side) = .ok t.byproductName
  byproductRatio :
    Record.number? fields (TransitionField.byproductRatio.name side) = .ok t.byproductRatio

/-- A transition is read from a record if the record gives it. -/
@[simp] theorem Transition.ofRecord_eq_some_iff {fields : Json.Fields α} {side : Side}
    {t : Transition α Unit} : ofRecord fields side = .ok (some t) ↔ t.ReadFrom fields side := by
  constructor
  · intro h
    obtain ⟨temperature?, htemperature, h⟩ := Attempt.bind_eq_ok.1 h
    obtain ⟨target?, htarget, h⟩ := Attempt.bind_eq_ok.1 h
    cases temperature? with
    | none => cases h
    | some magnitude =>
      cases target? with
      | none => cases h
      | some targetName =>
        obtain ⟨kelvin, hkelvin, h⟩ := Attempt.bind_eq_ok.1 h
        obtain ⟨celsius, hcelsius, h⟩ := Attempt.bind_eq_ok.1 h
        obtain ⟨ratio?, hratio, h⟩ := Attempt.bind_eq_ok.1 h
        obtain ⟨byproduct?, hbyproduct, h⟩ := Attempt.bind_eq_ok.1 h
        cases h
        exact ⟨⟨magnitude, kelvin, htemperature, Attempt.mapError_eq_ok.1 hkelvin,
          Attempt.mapError_eq_ok.1 hcelsius⟩, htarget, rfl, hbyproduct, hratio⟩
  · rintro ⟨⟨magnitude, kelvin, htemperature, hkelvin, hcelsius⟩, htarget, hmark, hname, hratio⟩
    refine Attempt.bind_eq_ok.2 ⟨_, htemperature, Attempt.bind_eq_ok.2 ⟨_, htarget, ?_⟩⟩
    refine Attempt.bind_eq_ok.2 ⟨kelvin, Attempt.mapError_eq_ok.2 hkelvin, ?_⟩
    refine Attempt.bind_eq_ok.2 ⟨_, Attempt.mapError_eq_ok.2 hcelsius, ?_⟩
    refine Attempt.bind_eq_ok.2 ⟨_, hratio, Attempt.bind_eq_ok.2 ⟨_, hname, ?_⟩⟩
    rw [← hmark]
    rfl

/-- There is no transition where its temperature or its target is absent. -/
theorem Transition.ofRecord_eq_none {fields : Json.Fields α} {side : Side} {temperature? : Option α}
    {target? : Option String}
    (htemperature : Record.number? fields (TransitionField.temperature.name side) = .ok temperature?)
    (htarget : Record.string? fields (TransitionField.target.name side) = .ok target?)
    (h : temperature? = none ∨ target? = none) : ofRecord fields side = .ok none := by
  refine Attempt.bind_eq_ok.2 ⟨_, htemperature, Attempt.bind_eq_ok.2 ⟨_, htarget, ?_⟩⟩
  rcases h with rfl | rfl
  · rfl
  · cases temperature? <;> rfl

namespace Definition

/-- Every property comes from its field, in the unit of the field. -/
structure ReadFrom (fields : Json.Fields α) (d : Definition α) : Prop where
  name : Record.string fields "elementId" = .ok d.name
  displayName : Record.string fields "localizationID" = .ok d.displayName
  state : ∃ name, Record.string fields "state" = .ok name ∧ State.ofName? name = some d.state
  specificHeatCapacity : Record.quantity fields "specificHeatCapacity"
    RecordUnits.standard.specificHeatCapacity = .ok d.specificHeatCapacity
  thermalConductivity : Record.quantity fields "thermalConductivity"
    RecordUnits.standard.thermalConductivity = .ok d.thermalConductivity
  molarMass : Record.quantity fields "molarMass" RecordUnits.standard.molarMass = .ok d.molarMass
  radiationAbsorption : Record.quantity fields "radiationAbsorptionFactor"
    RecordUnits.standard.radiationAbsorption = .ok d.radiationAbsorption
  radioactivity : Record.quantity fields "radiationPer1000Mass"
    RecordUnits.standard.radioactivity = .ok d.radioactivity
  massPerTile : ∃ maxMass?, Record.number? fields "maxMass" = .ok maxMass? ∧
    Quantity.parse? maxMass? RecordUnits.standard.mass = .ok d.massPerTile
  transitions : ∀ side, Transition.ofRecord fields side = .ok (d.transition? side)

/-- A definition is read from a record if the record gives it. -/
@[simp] theorem ofRecord_eq_ok_iff {fields : Json.Fields α} {d : Definition α} :
    ofRecord fields = .ok d ↔ d.ReadFrom fields := by
  constructor
  · intro h
    obtain ⟨name, hname, h⟩ := Attempt.bind_eq_ok.1 h
    obtain ⟨displayName, hdisplayName, h⟩ := Attempt.bind_eq_ok.1 h
    obtain ⟨stateName, hstateName, h⟩ := Attempt.bind_eq_ok.1 h
    split at h
    next state hstate =>
      obtain ⟨capacity, hcapacity, h⟩ := Attempt.bind_eq_ok.1 h
      obtain ⟨conductivity, hconductivity, h⟩ := Attempt.bind_eq_ok.1 h
      obtain ⟨molarMass, hmolarMass, h⟩ := Attempt.bind_eq_ok.1 h
      obtain ⟨absorption, habsorption, h⟩ := Attempt.bind_eq_ok.1 h
      obtain ⟨radioactivity, hradioactivity, h⟩ := Attempt.bind_eq_ok.1 h
      obtain ⟨maxMass?, hmaxMass, h⟩ := Attempt.bind_eq_ok.1 h
      obtain ⟨massPerTile?, hmass, h⟩ := Attempt.bind_eq_ok.1 h
      obtain ⟨low?, hlow, h⟩ := Attempt.bind_eq_ok.1 h
      obtain ⟨high?, hhigh, h⟩ := Attempt.bind_eq_ok.1 h
      cases h
      exact ⟨hname, hdisplayName, ⟨stateName, hstateName, hstate⟩, hcapacity, hconductivity,
        hmolarMass, habsorption, hradioactivity,
        ⟨maxMass?, hmaxMass, Attempt.mapError_eq_ok.1 hmass⟩, Side.forall_iff.2 ⟨hlow, hhigh⟩⟩
    · cases h
  · intro h
    obtain ⟨stateName, hstateName, hstate⟩ := h.state
    obtain ⟨maxMass?, hmaxMass, hmass⟩ := h.massPerTile
    refine Attempt.bind_eq_ok.2 ⟨_, h.name, Attempt.bind_eq_ok.2 ⟨_, h.displayName, ?_⟩⟩
    refine Attempt.bind_eq_ok.2 ⟨_, hstateName, ?_⟩
    rw [hstate]
    refine Attempt.bind_eq_ok.2 ⟨_, h.specificHeatCapacity, ?_⟩
    refine Attempt.bind_eq_ok.2 ⟨_, h.thermalConductivity, ?_⟩
    refine Attempt.bind_eq_ok.2 ⟨_, h.molarMass, ?_⟩
    refine Attempt.bind_eq_ok.2 ⟨_, h.radiationAbsorption, ?_⟩
    refine Attempt.bind_eq_ok.2 ⟨_, h.radioactivity, Attempt.bind_eq_ok.2 ⟨_, hmaxMass, ?_⟩⟩
    refine Attempt.bind_eq_ok.2 ⟨_, Attempt.mapError_eq_ok.2 hmass, ?_⟩
    exact Attempt.bind_eq_ok.2 ⟨_, h.transitions .low,
      Attempt.bind_eq_ok.2 ⟨_, h.transitions .high, rfl⟩⟩

end Definition

end ElementAtlas
