import ElementAtlas.Document
import ElementAtlas.Element.Heat
import ElementAtlas.Proofs.Atlas.Resolution
import ElementAtlas.Proofs.Element.Reading
import ElementAtlas.Proofs.PhysicalUnit.Standard

/-!
# Elements with measured properties

A record gives each property in a fixed unit, so the kinds of the units of an element are known
(`Element.Measured`). A definition that is read from a record has properties of these kinds, resolution
keeps them, and they are all that the derived properties need: whether an element has a density or a
diffusivity, and the heat it takes up, never depends on the magnitudes in a way that could fail.
-/

namespace ElementAtlas

variable {α ρ : Type}

/-- The properties of an element are of the kinds that derived properties need. -/
structure Element.Measured (e : Element α ρ) : Prop where
  specificHeatCapacity : e.specificHeatCapacity.unit.Measures .ofHeatCapacity false
  thermalConductivity : e.thermalConductivity.unit.Measures .ofConductivity false
  molarMass : e.molarMass.unit.Measures .ofMolarMass false
  massPerTile : ∀ mass, e.massPerTile = some mass → mass.unit.Measures .ofMass false
  temperature : ∀ side t, e.transition? side = some t →
    t.temperature.unit.Measures .ofTemperature true

variable [Scalar α]

/-! ## Reading records -/

/-- A quantity that is read from a record measures what its unit does. -/
theorem Record.measures_of_quantity {fields : Json.Fields α} {name unit : String} {q : Quantity α}
    {d : Dimension} {absolute : Bool} (h : Record.quantity fields name unit = .ok q)
    (hunit : Spelled α unit d absolute) : q.unit.Measures d absolute := by
  obtain ⟨magnitude, -, h⟩ := Attempt.bind_eq_ok.1 h
  exact Quantity.measures_of_parse (Attempt.mapError_eq_ok.1 h) hunit

/-- The temperature of a transition is converted to a scale before it is kept. -/
theorem Transition.measures_of_ofRecord {fields : Json.Fields α} {side : Side}
    {t : Transition α Unit} (h : Transition.ofRecord fields side = .ok (some t)) :
    t.temperature.unit.Measures .ofTemperature true := by
  obtain ⟨magnitude, kelvin, -, hkelvin, htemperature⟩ := (ofRecord_eq_some_iff.1 h).temperature
  have hscale : kelvin.unit.Measures .ofTemperature true :=
    Quantity.measures_of_parse hkelvin (KnownUnit.spelled rfl rfl rfl)
  obtain ⟨r, hr, hmeasures⟩ := Quantity.exists_convertTo hscale
    (KnownUnit.spelled rfl rfl rfl : Spelled α "degC" .ofTemperature true)
  cases hr.symm.trans htemperature
  exact hmeasures

/-- What a record gives is measured in the standard units. -/
theorem Definition.measured_of_ofRecord {fields : Json.Fields α} {d : Definition α}
    (h : Definition.ofRecord fields = .ok d) : d.Measured := by
  have hread := ofRecord_eq_ok_iff.1 h
  refine ⟨Record.measures_of_quantity hread.specificHeatCapacity spelled_heatCapacity,
    Record.measures_of_quantity hread.thermalConductivity spelled_conductivity,
    Record.measures_of_quantity hread.molarMass spelled_molarMass, fun mass hmass => ?_,
    fun side t ht => ?_⟩
  · obtain ⟨maxMass?, -, hparse⟩ := hread.massPerTile
    obtain ⟨maxMass, -, hkilograms⟩ := Quantity.parse?_eq_some (hmass ▸ hparse)
    exact Quantity.measures_of_parse hkilograms (KnownUnit.spelled rfl rfl rfl)
  · exact Transition.measures_of_ofRecord (ht ▸ hread.transitions side)

/-- Every definition of a document is read from a record. -/
theorem Document.ofRecord_of_definitions {document : Json α} {definitions : List (Definition α)}
    (h : Document.definitions document = .ok definitions) :
    ∀ d ∈ definitions, ∃ fields, Definition.ofRecord fields = .ok d := by
  intro d hd
  unfold Document.definitions at h
  split at h
  · split at h
    · obtain ⟨item, -, hitem⟩ := Attempt.exists_of_mem_mapM h hd
      unfold definition at hitem
      split at hitem
      next fields => exact ⟨fields, Attempt.mapError_eq_ok.1 hitem⟩
      · cases hitem
    · cases h
  · cases h

/-! ## Resolution -/

omit [Scalar α] in
/-- The transitions of an element have the temperatures of those of its definition. -/
theorem Definition.ResolvedIn.exists_source {atlas : Atlas α} {strings : StringTable}
    {d : Definition α} {e : Element α ElementId} (h : d.ResolvedIn atlas strings e) {side : Side}
    {t : Transition α ElementId} (ht : e.transition? side = some t) :
    ∃ source, d.transition? side = some source ∧ t.temperature = source.temperature := by
  have hrel := h.transitions side
  rw [ht] at hrel
  cases hsource : d.transition? side with
  | none =>
    rw [hsource] at hrel
    cases hrel
  | some source =>
    rw [hsource] at hrel
    cases hrel with
    | some hresolved => exact ⟨source, rfl, hresolved.temperature⟩

omit [Scalar α] in
/-- Resolving a definition keeps what its quantities measure. -/
theorem Element.Measured.resolvedIn {atlas : Atlas α} {strings : StringTable} {d : Definition α}
    {e : Element α ElementId} (hd : d.Measured) (h : d.ResolvedIn atlas strings e) :
    e.Measured := by
  refine ⟨h.specificHeatCapacity ▸ hd.specificHeatCapacity,
    h.thermalConductivity ▸ hd.thermalConductivity, h.molarMass ▸ hd.molarMass,
    h.massPerTile ▸ hd.massPerTile, fun side t ht => ?_⟩
  obtain ⟨source, hsource, htemperature⟩ := h.exists_source ht
  exact htemperature ▸ hd.temperature side source hsource

/-- All elements of an atlas that is loaded from a document are measured. -/
theorem Atlas.measured_of_document {document : Json α} {definitions : List (Definition α)}
    {strings : StringTable} {atlas : Atlas α}
    (hdocument : Document.definitions document = .ok definitions)
    (h : ofDefinitions definitions strings = .ok atlas) {m : Member α}
    (hm : atlas.get? m.id = some m) : m.element.Measured := by
  obtain ⟨d, hd, hresolved⟩ := (resolves_of_ofDefinitions h).exists_definition hm
  obtain ⟨fields, hfields⟩ := Document.ofRecord_of_definitions hdocument d hd
  exact (Definition.measured_of_ofRecord hfields).resolvedIn hresolved

/-! ## Derived properties -/

namespace Element.Measured

variable {e : Element α ρ} (h : e.Measured)
include h

/-- There is a density if there is a mass. -/
theorem exists_density : ∃ density?, e.density = .ok density? ∧
    (density? = none ↔ e.massPerTile = none) ∧
    ∀ density, density? = some density → density.unit.Measures .density false := by
  unfold density
  cases hmass : e.massPerTile with
  | none => exact ⟨none, rfl, by simp, nofun⟩
  | some mass =>
    have hvolume : (PhysicalUnit.linear "m^3" (Scalar.ofNat 1 : α) .volume).dimension = .volume :=
      rfl
    obtain ⟨unit, hunit, hmeasures⟩ :=
      PhysicalUnit.exists_div (h.massPerTile mass hmass).dimension hvolume (b := .density) rfl
    refine ⟨some ⟨mass.magnitude, unit⟩, ?_, by simp, fun density hdensity => ?_⟩
    · dsimp only
      rw [hunit]
      rfl
    · cases hdensity
      exact hmeasures

/-- There is a diffusivity unless the heat capacity is zero, and it is in its base unit. -/
theorem exists_thermalDiffusivity : ∃ diffusivity?, e.thermalDiffusivity = .ok diffusivity? ∧
    (diffusivity? = none ↔ (e.specificHeatCapacity.magnitude == Scalar.ofNat 0) = true) ∧
    ∀ diffusivity, diffusivity? = some diffusivity →
      diffusivity.unit = .base .ofDiffusivity := by
  unfold thermalDiffusivity
  split
  next hzero => exact ⟨none, rfl, by simp [hzero], nofun⟩
  next hzero =>
    obtain ⟨density?, hdensity, -, hmeasures⟩ := h.exists_density
    have hdivisor (one : Quantity α) (hone : one.unit.Measures .density false) :
        (density?.getD one).unit.Measures .density false := by
      cases density? with
      | none => exact hone
      | some density => exact hmeasures density rfl
    obtain ⟨capacity, hcapacity, hvolumetric⟩ := Quantity.exists_mul h.specificHeatCapacity
      (hdivisor ⟨Scalar.ofNat 1, .linear "kg/m^3" (Scalar.ofNat 1) .density⟩
        (PhysicalUnit.measures_linear _ _ _)) (b := ⟨1, -1, -2, -1, 0, 0⟩) rfl
    obtain ⟨diffusivity, hdiffusivity, hkind⟩ :=
      Quantity.exists_div h.thermalConductivity hvolumetric (b := .ofDiffusivity) rfl
    refine ⟨some diffusivity.toBaseUnit, ?_, by simp [hzero], fun q hq => ?_⟩
    · refine Attempt.bind_eq_ok.2 ⟨density?, hdensity, ?_⟩
      refine Attempt.bind_eq_ok.2 ⟨capacity, hcapacity, ?_⟩
      exact Attempt.bind_eq_ok.2 ⟨diffusivity, hdiffusivity, rfl⟩
    · cases hq
      exact Quantity.unit_toBaseUnit hkind

/-- The heat that a mass takes up for each degree. -/
theorem exists_heatPerDegree {mass : Quantity α} (hmass : mass.unit.Measures .ofMass false) :
    ∃ perDegree, e.heatPerDegree mass = .ok perDegree ∧
      perDegree.unit.Measures ⟨1, 2, -2, -1, 0, 0⟩ false := by
  obtain ⟨grams, hgrams, hkind⟩ :=
    Quantity.exists_convertTo hmass (KnownUnit.spelled rfl rfl rfl : Spelled α "g" .ofMass false)
  obtain ⟨perDegree, hperDegree, hmeasures⟩ :=
    Quantity.exists_mul h.specificHeatCapacity hkind (b := ⟨1, 2, -2, -1, 0, 0⟩) rfl
  exact ⟨perDegree, Attempt.bind_eq_ok.2 ⟨grams, hgrams, hperDegree⟩, hmeasures⟩

/-- Every mass takes up an energy when its temperature changes by any interval. -/
theorem exists_heatEnergy {interval mass : Quantity α}
    (hinterval : interval.unit.Measures .ofTemperature false)
    (hmass : mass.unit.Measures .ofMass false) :
    ∃ heat, e.heatEnergy interval mass = .ok heat ∧ heat.unit.Measures .energy false := by
  obtain ⟨perDegree, hperDegree, hperDegreeKind⟩ := h.exists_heatPerDegree hmass
  obtain ⟨degrees, hdegrees, hdegreesKind⟩ := Quantity.exists_convertTo hinterval
    (KnownUnit.spelled rfl rfl rfl : Spelled α "delta_degC" .ofTemperature false)
  obtain ⟨product, hproduct, hproductKind⟩ :=
    Quantity.exists_mul hperDegreeKind hdegreesKind (b := .energy) rfl
  obtain ⟨heat, hheat, hkind⟩ := Quantity.exists_convertTo hproductKind
    (KnownUnit.spelled rfl rfl rfl : Spelled α "DTU" .energy false)
  refine ⟨heat, ?_, hkind⟩
  refine Attempt.bind_eq_ok.2 ⟨perDegree, hperDegree, ?_⟩
  refine Attempt.bind_eq_ok.2 ⟨degrees, hdegrees, ?_⟩
  exact Attempt.bind_eq_ok.2 ⟨product, hproduct, hheat⟩

end Element.Measured

end ElementAtlas
