import ElementAtlas.Proofs.Element.Measured
import ElementAtlas.Proofs.Json.Fields

/-!
# What is written into a record

A definition is written in two steps. Its quantities are converted into the units of records
(`Definition.InRecordUnits`), and then every property is an entry of its own: the required ones
always, the mass of a tile if there is one, and of each transition the temperature, the target and,
if there are such, the byproduct and its ratio (`Element.entries`). No name occurs twice among the
entries, so the record holds them all and nothing else (`Element.get?_entries`).

A definition that was read from a record has all its quantities in units that convert back into
those they were read in, so it can always be written (`Definition.ReadFrom.exists_inRecordUnits`).
-/

namespace ElementAtlas

variable {α ρ : Type}

/-! ## Entries -/

/-- The quantities that every record has, in the order in which they are read. -/
def Element.requiredNumbers (e : Element α ρ) : List (String × Quantity α) :=
  [("specificHeatCapacity", e.specificHeatCapacity), ("thermalConductivity", e.thermalConductivity),
   ("molarMass", e.molarMass), ("radiationAbsorptionFactor", e.radiationAbsorption),
   ("radiationPer1000Mass", e.radioactivity)]

/-- The fields of a transition, in the order in which they are written. -/
def TransitionField.all : List TransitionField := [.temperature, .target, .byproduct, .byproductRatio]

/-- The list of the fields of a transition is complete. -/
theorem TransitionField.mem_all (field : TransitionField) : field ∈ all := by
  cases field <;> simp [all]

variable [Scalar α]

/-- What is written into a field of a transition, if anything is. -/
def Transition.value? (t : Transition α ρ) : TransitionField → Option (Json α)
  | .temperature => some (.ofScalar t.temperature.magnitude)
  | .target => some (.string t.targetName)
  | .byproduct => t.byproductName.map .string
  | .byproductRatio => t.byproductRatio.map .ofScalar

/-- The entries of a transition on one side. -/
def Transition.entries (t : Transition α ρ) (side : Side) : List (String × Json α) :=
  TransitionField.all.filterMap fun field => (t.value? field).map (field.name side, ·)

/-- The entries that are not of a transition. -/
def Element.plainEntries (e : Element α ρ) : List (String × Json α) :=
  [("elementId", .string e.name), ("localizationID", .string e.displayName),
    ("state", .string e.state.name)] ++
  e.requiredNumbers.map (fun (name, q) => (name, .ofScalar q.magnitude)) ++
  e.massPerTile.toList.map (fun mass => ("maxMass", .ofScalar mass.magnitude))

/-- The entries of the transition on one side, if there is one. -/
def Element.transitionEntries (e : Element α ρ) (side : Side) : List (String × Json α) :=
  (e.transition? side).toList.flatMap (·.entries side)

/-- The entries of a definition with the magnitudes that its quantities have. -/
def Element.entries (e : Element α ρ) : List (String × Json α) :=
  e.plainEntries ++ e.transitionEntries .low ++ e.transitionEntries .high

/-! ## Names -/

/-- Fields of transitions have different names, also on the two sides. -/
@[simp] theorem TransitionField.name_inj {field other : TransitionField} {side side' : Side} :
    field.name side = other.name side' ↔ field = other ∧ side = side' := by
  cases side <;> cases side' <;> cases field <;> cases other <;>
    simp [TransitionField.name, Side.name]

/-- The entries of a transition are its fields on its side. -/
@[simp]
theorem Transition.mem_entries {t : Transition α ρ} {field : TransitionField} {side side' : Side}
    {value : Json α} :
    (field.name side, value) ∈ t.entries side' ↔ side = side' ∧ t.value? field = some value := by
  rw [entries, List.mem_filterMap]
  constructor
  · rintro ⟨other, -, h⟩
    obtain ⟨_, hvalue, heq⟩ := Option.map_eq_some_iff.1 h
    obtain ⟨hname, rfl⟩ := Prod.mk.injEq .. ▸ heq
    obtain ⟨rfl, rfl⟩ := TransitionField.name_inj.1 hname
    exact ⟨rfl, hvalue⟩
  · rintro ⟨rfl, h⟩
    exact ⟨field, field.mem_all, by rw [h]; rfl⟩

/-- The names of the fields that are not of a transition. -/
def Record.plainNames : List String :=
  ["elementId", "localizationID", "state", "specificHeatCapacity", "thermalConductivity",
    "molarMass", "radiationAbsorptionFactor", "radiationPer1000Mass", "maxMass"]

/-- No field of a transition is called like one of the plain fields. -/
theorem TransitionField.name_not_mem (field : TransitionField) (side : Side) :
    field.name side ∉ Record.plainNames := by
  cases side <;> cases field <;> decide

/-- The plain entries are called in the order of the plain names, with none twice. -/
theorem Element.plainNames_sublist (e : Element α ρ) :
    (e.plainEntries.map (·.1)).Sublist Record.plainNames := by
  cases hmass : e.massPerTile <;> simp [plainEntries, requiredNumbers, Record.plainNames, hmass]

/-- The entries of a transition are called in the order of its fields, with none twice. -/
theorem Transition.names_sublist (t : Transition α ρ) (side : Side) :
    ((t.entries side).map (·.1)).Sublist (TransitionField.all.map (·.name side)) := by
  cases hname : t.byproductName <;> cases hratio : t.byproductRatio <;>
    simp [entries, TransitionField.all, value?, hname, hratio]

/-- The entries of a side are called in the order of the fields of a transition, with none twice. -/
theorem Element.transitionNames_sublist (e : Element α ρ) (side : Side) :
    ((e.transitionEntries side).map (·.1)).Sublist (TransitionField.all.map (·.name side)) := by
  rw [transitionEntries]
  cases e.transition? side with
  | none => exact List.nil_sublist _
  | some t => simpa using t.names_sublist side

/-- No name occurs twice among the entries. -/
theorem Element.nodup_names (e : Element α ρ) : (e.entries.map (·.1)).Nodup := by
  have hsublist : (e.entries.map (·.1)).Sublist (Record.plainNames ++
      TransitionField.all.map (·.name .low) ++ TransitionField.all.map (·.name .high)) := by
    rw [entries, List.map_append, List.map_append]
    exact (e.plainNames_sublist.append (e.transitionNames_sublist .low)).append
      (e.transitionNames_sublist .high)
  exact hsublist.nodup (by decide)

/-! ## The record of the entries -/

/-- The record holds the entries and nothing else. -/
@[simp] theorem Element.get?_entries (e : Element α ρ) {name : String} {value : Json α} :
    (Json.Fields.ofList e.entries).get? name = some value ↔ (name, value) ∈ e.entries :=
  Json.Fields.get?_ofList_eq_some_iff e.nodup_names

/-- The entries with the name of a field of a transition are those of the transition. -/
@[simp]
theorem Element.mem_entries_transition {e : Element α ρ} {field : TransitionField} {side : Side}
    {value : Json α} :
    (field.name side, value) ∈ e.entries ↔
      (e.transition? side).bind (·.value? field) = some value := by
  have hplain : (field.name side, value) ∉ e.plainEntries := fun h =>
    field.name_not_mem side (e.plainNames_sublist.subset (List.mem_map.2 ⟨_, h, rfl⟩))
  have hside (other : Side) : (field.name side, value) ∈ e.transitionEntries other ↔
      side = other ∧ (e.transition? other).bind (·.value? field) = some value := by
    rw [transitionEntries]
    cases e.transition? other <;> simp [Transition.mem_entries]
  rw [entries, List.mem_append, List.mem_append, hside, hside]
  cases side <;> simp [hplain]

/-- The entries with a plain name are the plain ones. -/
theorem Element.mem_entries_plain {e : Element α ρ} {name : String} {value : Json α}
    (hname : name ∈ Record.plainNames) :
    (name, value) ∈ e.entries ↔ (name, value) ∈ e.plainEntries := by
  have hside (side : Side) : (name, value) ∉ e.transitionEntries side := by
    intro h
    obtain ⟨field, -, hfield⟩ :=
      List.mem_map.1 ((e.transitionNames_sublist side).subset (List.mem_map.2 ⟨_, h, rfl⟩))
    exact field.name_not_mem side (hfield ▸ hname)
  simp [entries, hside]

/-- What is written into a field of a transition is what the transition has for it. -/
@[simp] theorem Element.get?_transition (e : Element α ρ) (side : Side) (field : TransitionField) :
    (Json.Fields.ofList e.entries).get? (field.name side) =
      (e.transition? side).bind (·.value? field) :=
  Option.ext fun _ => e.get?_entries.trans mem_entries_transition

/-- What is written as the greatest mass is the mass on a tile, if there is one. -/
@[simp] theorem Element.get?_maxMass (e : Element α ρ) :
    (Json.Fields.ofList e.entries).get? "maxMass" =
      (e.massPerTile.map (·.magnitude)).map Json.ofScalar := by
  refine Option.ext fun value => e.get?_entries.trans ?_
  rw [mem_entries_plain (by decide)]
  cases hmass : e.massPerTile <;> simp [plainEntries, requiredNumbers, hmass, eq_comm]

/-- What stands in a plain entry is written into its field. -/
theorem Element.get?_of_mem_plain {e : Element α ρ} {name : String} {value : Json α}
    (h : (name, value) ∈ e.plainEntries) :
    (Json.Fields.ofList e.entries).get? name = some value :=
  e.get?_entries.2 (List.mem_append_left _ (List.mem_append_left _ h))

/-- The quantities that every record has are written with their magnitudes. -/
theorem Element.get?_requiredNumber {e : Element α ρ} {name : String} {q : Quantity α}
    (h : (name, q) ∈ e.requiredNumbers) :
    (Json.Fields.ofList e.entries).get? name = some (.ofScalar q.magnitude) :=
  get?_of_mem_plain (List.mem_append_left _ (List.mem_append_right _ (List.mem_map_of_mem h)))

/-! ## Conversion into the units of records -/

/-- The transition `c` is `t` with its temperature in kelvin. -/
structure Transition.InRecordUnits (t c : Transition α Unit) : Prop where
  temperature : t.temperature.convertTo "K" = .ok c.temperature
  targetName : c.targetName = t.targetName
  byproduct : c.byproduct = t.byproduct
  byproductName : c.byproductName = t.byproductName
  byproductRatio : c.byproductRatio = t.byproductRatio

/-- The definition `c` is `d` with each of its quantities in the unit in which records give it. -/
structure Definition.InRecordUnits (d c : Definition α) : Prop where
  name : c.name = d.name
  displayName : c.displayName = d.displayName
  state : c.state = d.state
  specificHeatCapacity : d.specificHeatCapacity.convertTo
    RecordUnits.standard.specificHeatCapacity = .ok c.specificHeatCapacity
  thermalConductivity : d.thermalConductivity.convertTo
    RecordUnits.standard.thermalConductivity = .ok c.thermalConductivity
  molarMass : d.molarMass.convertTo RecordUnits.standard.molarMass = .ok c.molarMass
  radiationAbsorption : d.radiationAbsorption.convertTo
    RecordUnits.standard.radiationAbsorption = .ok c.radiationAbsorption
  radioactivity : d.radioactivity.convertTo RecordUnits.standard.radioactivity = .ok c.radioactivity
  massPerTile : Option.Rel (fun q r => q.convertTo RecordUnits.standard.mass = .ok r)
    d.massPerTile c.massPerTile
  transitions : ∀ side,
    Option.Rel Transition.InRecordUnits (d.transition? side) (c.transition? side)

/-- Writing a transition writes the entries of the transition in the units of records. -/
theorem Transition.InRecordUnits.toRecord_eq {t c : Transition α Unit} (h : t.InRecordUnits c)
    (side : Side) (fields : Json.Fields α) :
    t.toRecord side fields = .ok (fields.insertAll (c.entries side)) := by
  refine Attempt.bind_eq_ok.2 ⟨c.temperature, h.temperature, ?_⟩
  rw [← h.targetName, ← h.byproductName, ← h.byproductRatio]
  obtain ⟨temperature, target, targetName, byproduct, byproductName, byproductRatio⟩ := c
  cases byproductName <;> cases byproductRatio <;> rfl

/-- Conversion into the units of records keeps the names of the entries of a transition. -/
theorem Transition.InRecordUnits.names_entries {t c : Transition α Unit} (h : t.InRecordUnits c)
    (side : Side) : (c.entries side).map (·.1) = (t.entries side).map (·.1) := by
  cases hname : t.byproductName <;> cases hratio : t.byproductRatio <;>
    simp [entries, TransitionField.all, value?, h.byproductName, h.byproductRatio, hname, hratio]

namespace Definition.InRecordUnits

variable {d c : Definition α} (h : d.InRecordUnits c)
include h

/-- Conversion adds no transition. -/
theorem exists_of_transition {side : Side} {u : Transition α Unit}
    (hu : c.transition? side = some u) :
    ∃ t, d.transition? side = some t ∧ t.InRecordUnits u := by
  have hrel := h.transitions side
  rw [hu] at hrel
  generalize d.transition? side = t? at hrel
  cases hrel with
  | some ht => exact ⟨_, rfl, ht⟩

/-- The mass of a tile is written, if there is one, and then whatever comes after it. -/
theorem write_massPerTile (fields : Json.Fields α)
    (rest : Json.Fields α → Except QuantityError (Json.Fields α)) :
    (match d.massPerTile with
      | some mass => (mass.convertTo RecordUnits.standard.mass).map
          (fields.insert "maxMass" <| .ofScalar ·.magnitude) >>= rest
      | none => .ok fields >>= rest) =
    rest (fields.insertAll
      (c.massPerTile.toList.map fun mass => ("maxMass", .ofScalar mass.magnitude))) := by
  have hrel := h.massPerTile
  generalize d.massPerTile = mass?, c.massPerTile = kilograms? at hrel
  cases hrel with
  | none => rfl
  | some hkilograms =>
    dsimp only
    rw [hkilograms]
    rfl

/-- A transition is written, if there is one, and then whatever comes after it. -/
theorem write_transition (side : Side) (fields : Json.Fields α)
    (rest : Json.Fields α → Except QuantityError (Json.Fields α)) :
    (match d.transition? side with
      | some t => t.toRecord side fields >>= rest
      | none => .ok fields >>= rest) =
    rest (fields.insertAll (c.transitionEntries side)) := by
  have hrel := h.transitions side
  rw [Element.transitionEntries]
  generalize d.transition? side = t?, c.transition? side = u? at hrel
  cases hrel with
  | none => rfl
  | some ht =>
    dsimp only
    rw [ht.toRecord_eq, Option.toList_some, List.flatMap_singleton]
    rfl

/-- A definition is written as the entries of the converted one. -/
theorem toRecord_eq : d.toRecord = .ok (Json.Fields.ofList c.entries) := by
  refine Attempt.bind_eq_ok.2 ⟨_, h.specificHeatCapacity, ?_⟩
  refine Attempt.bind_eq_ok.2 ⟨_, h.thermalConductivity, ?_⟩
  refine Attempt.bind_eq_ok.2 ⟨_, h.molarMass, ?_⟩
  refine Attempt.bind_eq_ok.2 ⟨_, h.radiationAbsorption, ?_⟩
  refine Attempt.bind_eq_ok.2 ⟨_, h.radioactivity, ?_⟩
  rw [← h.name, ← h.displayName, ← h.state]
  -- Nothing comes after the high transition, so what is left there is the identity.
  have hhigh (fields : Json.Fields α) := h.write_transition .high fields pure
  simp only [bind_pure] at hhigh
  refine (h.write_massPerTile _ _).trans ((h.write_transition .low _ _).trans ?_)
  refine (hhigh _).trans (congrArg Except.ok ?_)
  rw [Element.entries, Element.plainEntries, Json.Fields.ofList_eq, Json.Fields.ofList_eq,
    Json.Fields.insertAll_append, Json.Fields.insertAll_append, Json.Fields.insertAll_append]
  rfl

/-- Conversion keeps all fields. -/
theorem names_entries : c.entries.map (·.1) = d.entries.map (·.1) := by
  have hside (side : Side) :
      (c.transitionEntries side).map (·.1) = (d.transitionEntries side).map (·.1) := by
    have hrel := h.transitions side
    rw [Element.transitionEntries, Element.transitionEntries]
    generalize d.transition? side = t?, c.transition? side = u? at hrel
    cases hrel with
    | none => rfl
    | some ht => simpa using ht.names_entries side
  have hplain : c.plainEntries.map (·.1) = d.plainEntries.map (·.1) := by
    have hrel := h.massPerTile
    rw [Element.plainEntries, Element.plainEntries]
    generalize d.massPerTile = mass?, c.massPerTile = kilograms? at hrel
    cases hrel <;> simp [Element.requiredNumbers]
  simp only [Element.entries, List.map_append, hplain, hside]

end Definition.InRecordUnits

/-! ## Definitions that were read -/

namespace Quantity

variable {q : Quantity α} {unit : String}

/-- A quantity is parsed from its magnitude and the expression of its unit. -/
theorem parse_magnitude (h : PhysicalUnit.parse unit = .ok q.unit) :
    parse q.magnitude unit = .ok q :=
  Attempt.map_eq_ok.2 ⟨q.unit, h, rfl⟩

/-- A quantity converts into the unit that it is in. -/
theorem exists_convertTo_of_parse_unit (h : PhysicalUnit.parse unit = .ok q.unit) :
    ∃ r, q.convertTo unit = .ok r := by
  obtain ⟨r, hr⟩ := exists_convert_iff.2 (⟨rfl, rfl⟩ :
    q.dimension = q.unit.dimension ∧ q.isAbsolute = q.unit.isAbsolute)
  exact ⟨r, Attempt.bind_eq_ok.2 ⟨q.unit, h, hr⟩⟩

end Quantity

/-- A quantity that was read from a record converts into the unit of its field. -/
theorem Record.exists_convertTo_of_quantity {fields : Json.Fields α} {name unit : String}
    {q : Quantity α} (h : Record.quantity fields name unit = .ok q) :
    ∃ r, q.convertTo unit = .ok r := by
  obtain ⟨magnitude, -, h⟩ := Attempt.bind_eq_ok.1 h
  exact Quantity.exists_convertTo_of_parse_unit (Quantity.parse_unit (Attempt.mapError_eq_ok.1 h))

/-- A transition that was read from a record converts into the units of records. -/
theorem Transition.exists_inRecordUnits {fields : Json.Fields α} {side : Side}
    {t : Transition α Unit} (h : ofRecord fields side = .ok (some t)) :
    ∃ c, t.InRecordUnits c := by
  obtain ⟨kelvin, hkelvin, -⟩ := Quantity.exists_convertTo (measures_of_ofRecord h)
    (KnownUnit.spelled rfl rfl rfl : Spelled α "K" .ofTemperature true)
  exact ⟨{ t with temperature := kelvin }, hkelvin, rfl, rfl, rfl, rfl⟩

section
variable {fields : Json.Fields α} {d : Definition α}

/-- The mass of a definition that was read from a record converts into kilograms. -/
theorem Definition.ReadFrom.exists_kilograms (h : d.ReadFrom fields) :
    ∃ kilograms?, Option.Rel (fun q r => q.convertTo RecordUnits.standard.mass = .ok r)
      d.massPerTile kilograms? := by
  obtain ⟨maxMass?, -, hparse⟩ := h.massPerTile
  cases hmass : d.massPerTile with
  | none => exact ⟨none, .none⟩
  | some mass =>
    obtain ⟨maxMass, -, hparsed⟩ := Quantity.parse?_eq_some (hmass ▸ hparse)
    obtain ⟨kilograms, hkilograms⟩ :=
      Quantity.exists_convertTo_of_parse_unit (Quantity.parse_unit hparsed)
    exact ⟨some kilograms, .some hkilograms⟩

/-- The transitions of a definition that was read from a record convert into kelvin. -/
theorem Definition.ReadFrom.exists_kelvin (h : d.ReadFrom fields) (side : Side) :
    ∃ c?, Option.Rel Transition.InRecordUnits (d.transition? side) c? := by
  have hread := h.transitions side
  cases ht : d.transition? side with
  | none => exact ⟨none, .none⟩
  | some t =>
    obtain ⟨c, hc⟩ := Transition.exists_inRecordUnits (ht ▸ hread)
    exact ⟨some c, .some hc⟩

/-- A definition that was read from a record converts back into the units of records. -/
theorem Definition.ReadFrom.exists_inRecordUnits (h : d.ReadFrom fields) :
    ∃ c, d.InRecordUnits c := by
  obtain ⟨capacity, hcapacity⟩ := Record.exists_convertTo_of_quantity h.specificHeatCapacity
  obtain ⟨conductivity, hconductivity⟩ := Record.exists_convertTo_of_quantity h.thermalConductivity
  obtain ⟨molarMass, hmolarMass⟩ := Record.exists_convertTo_of_quantity h.molarMass
  obtain ⟨absorption, habsorption⟩ := Record.exists_convertTo_of_quantity h.radiationAbsorption
  obtain ⟨radioactivity, hradioactivity⟩ := Record.exists_convertTo_of_quantity h.radioactivity
  obtain ⟨kilograms?, hkilograms⟩ := h.exists_kilograms
  obtain ⟨low?, hlow⟩ := h.exists_kelvin .low
  obtain ⟨high?, hhigh⟩ := h.exists_kelvin .high
  exact ⟨⟨d.name, d.displayName, d.state, capacity, conductivity, molarMass, absorption,
    radioactivity, kilograms?, low?, high?⟩, rfl, rfl, rfl, hcapacity, hconductivity, hmolarMass,
    habsorption, hradioactivity, hkilograms, Side.forall_iff.2 ⟨hlow, hhigh⟩⟩

end

end ElementAtlas
