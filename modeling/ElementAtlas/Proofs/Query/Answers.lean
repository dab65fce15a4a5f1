import ElementAtlas.Proofs.Atlas.Selection
import ElementAtlas.Proofs.Element.Measured
import ElementAtlas.Proofs.Query.Stability
import ElementAtlas.Report

/-!
# Queries of measured elements

On an element whose properties are measured in the units of records, the columns of the standard
report have a value: a column converts a quantity of a known kind or one that is absent. The elements
of a report are selected by their state, and sorted by quantities of one kind.
-/

namespace ElementAtlas

variable {α : Type} [Scalar α] {atlas : Atlas α} {m : Member α}

/-! ## Columns -/

/-- The magnitude of a quantity in a unit of its kind has a value, also if the quantity is absent and
the path to it allows that. -/
theorem Attribute.exists_magnitude {a : Attribute α} {q? : Option (Quantity α)} {unit : String}
    {d : Dimension} {absolute : Bool} (h : a.evaluate atlas m = .ok (Value.ofQuantity? q?))
    (habsent : q? = none → a.isOptional = true)
    (hkind : ∀ q, q? = some q → q.unit.Measures d absolute) (hunit : Spelled α unit d absolute) :
    ∃ v, (a.convertTo unit).magnitude.evaluate atlas m = .ok v := by
  cases q? with
  | none => exact ⟨_, evaluate_magnitude_of_none h (habsent rfl)⟩
  | some q =>
    obtain ⟨r, hr, -⟩ := Quantity.exists_convertTo (hkind q rfl) hunit
    exact ⟨_, evaluate_magnitude h hr⟩

/-- The magnitude of a property that every element has. -/
theorem Attribute.exists_magnitude_ofField {name unit : String} {q : Quantity α} {d : Dimension}
    (h : Value.elementField m name = .ok (.quantity q)) (hkind : q.unit.Measures d false)
    (hunit : Spelled α unit d false) :
    ∃ v, ((ofField name).convertTo unit).magnitude.evaluate atlas m = .ok v := by
  obtain ⟨r, hr, -⟩ := Quantity.exists_convertTo hkind hunit
  exact ⟨_, evaluate_magnitude (evaluate_ofField h) hr⟩

omit [Scalar α] in
/-- The temperature of a transition of a measured element is absolute. -/
theorem Element.Measured.temperature_of_map {e : Element α ElementId} (h : e.Measured) (side : Side)
    {q : Quantity α} (hq : (e.transition? side).map (·.temperature) = some q) :
    q.unit.Measures .ofTemperature true := by
  obtain ⟨t, ht, rfl⟩ := Option.map_eq_some_iff.1 hq
  exact h.temperature side t ht

/-- Every column of the standard report has a value for a measured element. -/
theorem Column.exists_evaluate (h : m.element.Measured) {column : Column α}
    (hcolumn : column ∈ Column.standard) : ∃ v, column.path.evaluate atlas m = .ok v := by
  have hcelsius : Spelled α "°C" .ofTemperature true := KnownUnit.spelled rfl rfl rfl
  simp only [standard, List.mem_cons, List.not_mem_nil, or_false] at hcolumn
  rcases hcolumn with rfl | rfl | rfl | rfl | rfl | rfl | rfl
  · exact ⟨_, Attribute.evaluate_ofField rfl⟩
  · exact Attribute.exists_magnitude_ofField rfl h.specificHeatCapacity spelled_heatCapacity
  · exact Attribute.exists_magnitude_ofField rfl h.thermalConductivity spelled_conductivityShown
  · obtain ⟨diffusivity?, hdiffusivity, -, hbase⟩ := h.exists_thermalDiffusivity
    have hfield : Value.elementField m "thermal_diffusivity" =
        .ok (Value.ofQuantity? diffusivity?) := by
      rw [Value.elementField, hdiffusivity]
      rfl
    have hkind : ∀ q, diffusivity? = some q → q.unit.Measures .ofDiffusivity false :=
      fun q hq => hbase q hq ▸ PhysicalUnit.measures_linear _ _ _
    exact Attribute.exists_magnitude
      (Attribute.evaluate_optional (Attribute.evaluate_ofField hfield)) (fun _ => rfl) hkind
      spelled_diffusivity
  · exact Attribute.exists_magnitude_ofField rfl h.molarMass spelled_molarMass
  · exact Attribute.exists_magnitude Attribute.evaluate_lowTemperature (fun _ => rfl)
      (fun q hq => h.temperature_of_map .low hq) hcelsius
  · exact Attribute.exists_magnitude Attribute.evaluate_highTemperature (fun _ => rfl)
      (fun q hq => h.temperature_of_map .high hq) hcelsius

/-- The standard report can be made on any measured elements. -/
theorem Report.exists_build {selection : List (Member α)}
    (h : ∀ m ∈ selection, m.element.Measured) :
    ∃ report, Report.build atlas selection Column.standard = .ok report := by
  have hrows : ∀ m ∈ selection, ∃ cells, row atlas Column.standard m = .ok cells := by
    intro m hm
    refine Attempt.exists_mapM fun column hcolumn => ?_
    exact Attempt.exists_map_eq_ok_iff.2 (Column.exists_evaluate (h m hm) hcolumn)
  exact Attempt.exists_map_eq_ok_iff.2 (Attempt.exists_mapM hrows)

/-! ## Selecting and sorting -/

/-- The predicate on a state holds of the elements that are in it. -/
@[simp] theorem Predicate.evaluate_isState (state : State) :
    (isState state).evaluate atlas m = .ok (m.element.state == state) := by
  have hfield : (Attribute.ofField "state").evaluate atlas m = .ok (.state m.element.state) :=
    Attribute.evaluate_ofField rfl
  exact Attempt.bind_eq_ok.2 ⟨_, hfield, Attempt.bind_eq_ok.2 ⟨.state state, rfl, rfl⟩⟩

/-- Quantities that compare do so as values. -/
theorem Value.compare_quantity {q r : Quantity α} {order : Ordering} (h : q.compare r = .ok order) :
    (quantity q).compare (quantity r) = .ok order := by
  rw [compare_eq_ofQuantity, h]
  rfl

/-- Conductivities can be sorted by. -/
theorem Atlas.exists_sortedBy_conductivity {selection : List (Member α)}
    (h : ∀ m ∈ selection, m.element.Measured) :
    ∃ sorted, atlas.sortedBy selection (.ofField "thermal_conductivity") = .ok sorted ∧
      sorted.Perm selection := by
  refine exists_sortedBy
    (P := fun v => ∃ q, v = .quantity q ∧ q.unit.Measures .ofConductivity false) ?_ ?_
  · intro m hm
    exact ⟨_, Attribute.evaluate_ofField rfl, _, rfl, (h m hm).thermalConductivity⟩
  · rintro _ _ ⟨q, rfl, hq⟩ ⟨r, rfl, hr⟩
    obtain ⟨order, horder⟩ := Quantity.exists_compare hq hr
    exact ⟨order, Value.compare_quantity horder⟩

end ElementAtlas
