import ElementAtlas.Sample
import ElementAtlas.Proofs.Element.Writing
import ElementAtlas.Scalar.Rational

/-!
# Writing a definition and reading it again

A definition that was read from a record can be written: each of its quantities converts back into
the unit it was read in. What is written is read again entry by entry. A magnitude that has left the
finite numbers on the way was written as a null, which is read as an absent field; so a required
quantity that did so makes the reading fail, with the first one of them, a mass or a temperature
that did so is lost, and so is the transition with its temperature. Everything else comes back
(`Definition.ofRecord_toRecord`).
-/

namespace ElementAtlas

variable {α : Type} [Scalar α]

/-! ## Reading -/

namespace Record

/-- A number that was written is absent if it is not finite. -/
theorem number?_of_get? {fields : Json.Fields α} {name : String} {x : Option α}
    (h : fields.get? name = x.map Json.ofScalar) :
    number? fields name = .ok (x.filter Scalar.isFinite) := by
  rw [number?, h]
  cases x with
  | none => rfl
  | some x =>
    rw [Option.map_some, Json.ofScalar, Option.filter_some]
    by_cases hfinite : Scalar.isFinite x = true
    · rw [if_pos hfinite, if_pos hfinite]
      rfl
    · rw [if_neg hfinite, if_neg hfinite]

omit [Scalar α] in
/-- A text that is written into a field, or left out, is read from it. -/
theorem string?_of_get? {fields : Json.Fields α} {name : String} {s? : Option String}
    (h : fields.get? name = s?.map Json.string) : string? fields name = .ok s? := by
  rw [string?, h]
  cases s? <;> rfl

omit [Scalar α] in
/-- A text that is written into a required field is read from it. -/
theorem string_of_get? {fields : Json.Fields α} {name s : String}
    (h : fields.get? name = some (.string s)) : string fields name = .ok s :=
  Attempt.bind_eq_ok.2 ⟨some s, string?_of_get? h, rfl⟩

/-- A quantity that was written in a unit is read again, or missing if it is not finite. -/
theorem quantity_of_get? {fields : Json.Fields α} {name unit : String} {q : Quantity α}
    (h : fields.get? name = some (.ofScalar q.magnitude))
    (hunit : PhysicalUnit.parse unit = .ok q.unit) :
    quantity fields name unit =
      if Scalar.isFinite q.magnitude then .ok q else .error (.missing name) := by
  have hnumber : number? fields name = .ok ((some q.magnitude).filter Scalar.isFinite) :=
    number?_of_get? h
  rw [quantity, number, hnumber, Option.filter_some]
  split
  · exact Attempt.mapError_eq_ok.2 (Quantity.parse_magnitude hunit)
  · rfl

end Record

/-- The transition `u` is what is read of the transition `c`, whose temperature is in kelvin. -/
structure Transition.ReadBack (c u : Transition α Unit) : Prop where
  temperature : c.temperature.convertTo "degC" = .ok u.temperature
  targetName : u.targetName = c.targetName
  byproduct : u.byproduct = c.byproduct
  byproductName : u.byproductName = c.byproductName
  byproductRatio : u.byproductRatio = c.byproductRatio.filter Scalar.isFinite

/-- The definition `e` is what is read of the definition `c`, which is in the units of records: all
of it but the mass and the transitions whose magnitudes are not finite. -/
structure Definition.ReadBack (c e : Definition α) : Prop where
  name : e.name = c.name
  displayName : e.displayName = c.displayName
  state : e.state = c.state
  requiredNumbers : e.requiredNumbers = c.requiredNumbers
  massPerTile : e.massPerTile = c.massPerTile.filter (Scalar.isFinite ·.magnitude)
  transitions : ∀ side, Option.Rel Transition.ReadBack
    ((c.transition? side).filter (Scalar.isFinite ·.temperature.magnitude)) (e.transition? side)

/-- A transition is read again unless its temperature is not finite. -/
theorem Transition.exists_readBack {c : Transition α Unit} {fields : Json.Fields α} {side : Side}
    (hunit : PhysicalUnit.parse "K" = .ok c.temperature.unit)
    (hmark : c.byproduct = c.byproductName.map fun _ => ())
    (hfields : ∀ field : TransitionField, fields.get? (field.name side) = c.value? field) :
    ∃ u?, ofRecord fields side = .ok u? ∧
      Option.Rel ReadBack ((some c).filter (Scalar.isFinite ·.temperature.magnitude)) u? := by
  have htemperature : Record.number? fields (TransitionField.temperature.name side) =
      .ok ((some c.temperature.magnitude).filter Scalar.isFinite) :=
    Record.number?_of_get? (hfields .temperature)
  have htarget : Record.string? fields (TransitionField.target.name side) =
      .ok (some c.targetName) :=
    Record.string?_of_get? (hfields .target)
  by_cases hfinite : Scalar.isFinite c.temperature.magnitude = true
  · have hkelvin := Quantity.parse_magnitude hunit
    obtain ⟨celsius, hcelsius, -⟩ := Quantity.exists_convertTo
      (Quantity.measures_of_parse hkelvin (KnownUnit.spelled rfl rfl rfl))
      (KnownUnit.spelled rfl rfl rfl : Spelled α "degC" .ofTemperature true)
    rw [Option.filter_some, if_pos hfinite] at htemperature
    refine ⟨some ⟨celsius, (), c.targetName, c.byproduct, c.byproductName,
      c.byproductRatio.filter Scalar.isFinite⟩, ofRecord_eq_some_iff.2 ⟨?_, htarget, hmark, ?_, ?_⟩,
      ?_⟩
    · exact ⟨_, _, htemperature, hkelvin, hcelsius⟩
    · exact Record.string?_of_get? (hfields .byproduct)
    · exact Record.number?_of_get? (hfields .byproductRatio)
    · rw [Option.filter_some, if_pos hfinite]
      exact .some ⟨hcelsius, rfl, rfl, rfl, rfl⟩
  · rw [Option.filter_some, if_neg hfinite] at htemperature
    refine ⟨none, ofRecord_eq_none htemperature htarget (.inl rfl), ?_⟩
    rw [Option.filter_some, if_neg hfinite]
    exact .none

/-- A state is found under its name. -/
@[simp] theorem State.ofName?_name (state : State) : ofName? state.name = some state := by
  cases state <;> decide

/-- A result, unless one of some numbers that were written is not finite: the first one of them is
missing then. -/
def Record.unlessLost {β : Type} (numbers : List (String × Quantity α))
    (result : Except RecordError β) : Except RecordError β :=
  match numbers.find? fun (_, q) => !Scalar.isFinite q.magnitude with
  | some (name, _) => .error (.missing name)
  | none => result

/-- A required quantity is read before the others. -/
theorem Record.bind_eq_unlessLost {β : Type} {x : Except RecordError (Quantity α)}
    {f : Quantity α → Except RecordError β} {name : String} {q : Quantity α}
    {numbers : List (String × Quantity α)} {result : Except RecordError β}
    (hx : x = if Scalar.isFinite q.magnitude then .ok q else .error (.missing name))
    (hf : f q = unlessLost numbers result) : x >>= f = unlessLost ((name, q) :: numbers) result := by
  rw [hx, unlessLost]
  by_cases hfinite : Scalar.isFinite q.magnitude = true
  · rw [if_pos hfinite, List.find?_cons_of_neg (by simpa using hfinite)]
    exact hf
  · rw [if_neg hfinite, List.find?_cons_of_pos (by simpa using hfinite)]
    rfl

namespace Definition.InRecordUnits

variable {d c : Definition α} (h : d.InRecordUnits c)
include h

/-- The mass of a tile is read again if it is finite. -/
theorem parse?_maxMass :
    Quantity.parse? ((c.massPerTile.map (·.magnitude)).filter Scalar.isFinite)
      RecordUnits.standard.mass = .ok (c.massPerTile.filter (Scalar.isFinite ·.magnitude)) := by
  have hrel := h.massPerTile
  generalize d.massPerTile = mass?, c.massPerTile = kilograms? at hrel
  cases hrel with
  | none => rfl
  | @some _ kilograms hkilograms =>
    rw [Option.map_some, Option.filter_some, Option.filter_some]
    split
    · exact Attempt.map_eq_ok.2 ⟨kilograms,
        Quantity.parse_magnitude (Quantity.parse_unit_of_convertTo hkilograms), rfl⟩
    · rfl

/-- The transition on a side is read again if it has a finite temperature. -/
theorem exists_transition
    (hmarks : ∀ side t, c.transition? side = some t → t.byproduct = t.byproductName.map fun _ => ())
    (side : Side) :
    ∃ u?, Transition.ofRecord (Json.Fields.ofList c.entries) side = .ok u? ∧
      Option.Rel Transition.ReadBack
        ((c.transition? side).filter (Scalar.isFinite ·.temperature.magnitude)) u? := by
  have hfields (field : TransitionField) := c.get?_transition side field
  cases hc : c.transition? side with
  | none =>
    rw [hc] at hfields
    have htemperature : Record.number? (Json.Fields.ofList c.entries)
        (TransitionField.temperature.name side) = .ok none :=
      Record.number?_of_get? (x := none) (hfields .temperature)
    have htarget : Record.string? (Json.Fields.ofList c.entries)
        (TransitionField.target.name side) = .ok none :=
      Record.string?_of_get? (hfields .target)
    exact ⟨none, Transition.ofRecord_eq_none htemperature htarget (.inl rfl), .none⟩
  | some u =>
    rw [hc] at hfields
    obtain ⟨t, -, ht⟩ := h.exists_of_transition hc
    exact Transition.exists_readBack (Quantity.parse_unit_of_convertTo ht.temperature)
      (hmarks side u hc) hfields

/-- What is written of a definition in the units of records is read again, unless a required
quantity is not finite. -/
theorem exists_readBack
    (hmarks : ∀ side t, c.transition? side = some t → t.byproduct = t.byproductName.map fun _ => ()) :
    ∃ e, c.ReadBack e ∧
      ofRecord (Json.Fields.ofList c.entries) = Record.unlessLost c.requiredNumbers (.ok e) := by
  obtain ⟨low?, hlow, hlowRel⟩ := h.exists_transition hmarks .low
  obtain ⟨high?, hhigh, hhighRel⟩ := h.exists_transition hmarks .high
  have hstring (name s : String) (hs : (name, Json.string s) ∈ c.plainEntries) :=
    Record.string_of_get? (c.get?_of_mem_plain hs)
  have hname := hstring "elementId" c.name (by simp [Element.plainEntries])
  have hdisplayName := hstring "localizationID" c.displayName (by simp [Element.plainEntries])
  have hstate := hstring "state" c.state.name (by simp [Element.plainEntries])
  have hquantity (name : String) {unit : String} {q r : Quantity α}
      (hr : (name, r) ∈ c.requiredNumbers) (hunit : q.convertTo unit = .ok r) :=
    Record.quantity_of_get? (Element.get?_requiredNumber hr) (Quantity.parse_unit_of_convertTo hunit)
  have hcapacity := hquantity "specificHeatCapacity" (by simp [Element.requiredNumbers])
    h.specificHeatCapacity
  have hconductivity := hquantity "thermalConductivity" (by simp [Element.requiredNumbers])
    h.thermalConductivity
  have hmolarMass := hquantity "molarMass" (by simp [Element.requiredNumbers]) h.molarMass
  have habsorption := hquantity "radiationAbsorptionFactor" (by simp [Element.requiredNumbers])
    h.radiationAbsorption
  have hradioactivity := hquantity "radiationPer1000Mass" (by simp [Element.requiredNumbers])
    h.radioactivity
  have hmaxMass := Record.number?_of_get? c.get?_maxMass
  refine ⟨{ c with
      massPerTile := c.massPerTile.filter (Scalar.isFinite ·.magnitude)
      lowTransition := low?, highTransition := high? },
    ⟨rfl, rfl, rfl, rfl, rfl, Side.forall_iff.2 ⟨hlowRel, hhighRel⟩⟩, ?_⟩
  refine (Attempt.bind_of_ok hname).trans ?_
  refine (Attempt.bind_of_ok hdisplayName).trans ((Attempt.bind_of_ok hstate).trans ?_)
  rw [State.ofName?_name]
  refine Record.bind_eq_unlessLost hcapacity ?_
  refine Record.bind_eq_unlessLost hconductivity ?_
  refine Record.bind_eq_unlessLost hmolarMass ?_
  refine Record.bind_eq_unlessLost habsorption ?_
  refine Record.bind_eq_unlessLost hradioactivity ?_
  refine (Attempt.bind_of_ok hmaxMass).trans ?_
  refine (Attempt.bind_of_ok (Attempt.mapError_eq_ok.2 h.parse?_maxMass)).trans ?_
  exact (Attempt.bind_of_ok hlow).trans (Attempt.bind_of_ok hhigh)

end Definition.InRecordUnits

/-! ## The round trip -/

/-- A number that is read from a field stands in it. -/
theorem Record.number?_eq_some {fields : Json.Fields α} {name : String} {x : α}
    (h : number? fields name = .ok (some x)) :
    ∃ n, fields.get? name = some (.number n) ∧ n.toScalar = x := by
  rw [number?] at h
  split at h
  · cases h
  · cases h
  · next n hget =>
    cases h
    exact ⟨n, hget, rfl⟩
  · cases h

/-- A ratio that was read from a finite number is finite. -/
theorem Transition.ReadFrom.filter_byproductRatio {fields : Json.Fields α} {side : Side}
    {t : Transition α Unit} (h : t.ReadFrom fields side)
    (hfinite : ∀ name n, fields.get? name = some (.number n) →
      Scalar.isFinite n.toScalar = true) :
    t.byproductRatio.filter Scalar.isFinite = t.byproductRatio := by
  have hread := h.byproductRatio
  cases hratio : t.byproductRatio with
  | none => rfl
  | some ratio =>
    obtain ⟨n, hget, rfl⟩ := Record.number?_eq_some (hratio ▸ hread)
    rw [Option.filter_some, if_pos (hfinite _ n hget)]

/-- What is read back of a transition is left of one of that side. -/
theorem Definition.ReadBack.exists_of_transition {c e : Definition α} (h : c.ReadBack e)
    {side : Side} {u : Transition α Unit} (hu : e.transition? side = some u) :
    ∃ t, c.transition? side = some t ∧ t.ReadBack u := by
  have hrel := h.transitions side
  rw [hu] at hrel
  cases ht : c.transition? side with
  | none => simp [ht] at hrel
  | some t =>
    rw [ht, Option.filter_some] at hrel
    split at hrel
    · cases hrel with
      | some hback => exact ⟨t, rfl, hback⟩
    · cases hrel

/-- A definition `d` that was read from a record can be written, and the record that is written
holds exactly the fields of the properties that `d` has, with their values in the units of records.
This record is read as the definition, unless the magnitude of a required quantity is not finite in
those units: then it was written as a null, and the first such field is missing. Of the optional
properties those are lost that a magnitude belongs to which is not finite. -/
theorem Definition.ofRecord_toRecord {fields : Json.Fields α} {d : Definition α}
    (h : ofRecord fields = .ok d) :
    ∃ c written e, d.InRecordUnits c ∧ d.toRecord = .ok written ∧
      (∀ name, (written.get? name).isSome ↔ name ∈ d.entries.map (·.1)) ∧
      (∀ name value, written.get? name = some value ↔ (name, value) ∈ c.entries) ∧
      ofRecord written = Record.unlessLost c.requiredNumbers (.ok e) ∧ c.ReadBack e ∧
      ((∀ name n, fields.get? name = some (.number n) → Scalar.isFinite n.toScalar = true) →
        ∀ side t u, d.transition? side = some t → e.transition? side = some u →
          u.byproductRatio = t.byproductRatio) := by
  have hread := ofRecord_eq_ok_iff.1 h
  have htransition {side : Side} {t : Transition α Unit} (ht : d.transition? side = some t) :
      t.ReadFrom fields side :=
    Transition.ofRecord_eq_some_iff.1 (ht ▸ hread.transitions side)
  obtain ⟨c, hc⟩ := hread.exists_inRecordUnits
  have hmarks (side : Side) (u : Transition α Unit) (hu : c.transition? side = some u) :
      u.byproduct = u.byproductName.map fun _ => () := by
    obtain ⟨t, ht, hunits⟩ := hc.exists_of_transition hu
    rw [hunits.byproduct, hunits.byproductName, (htransition ht).byproduct]
  obtain ⟨e, hback, hwritten⟩ := hc.exists_readBack hmarks
  refine ⟨c, _, e, hc, hc.toRecord_eq, fun name => ?_, fun _ _ => c.get?_entries, hwritten, hback,
    fun hfinite side t v ht hv => ?_⟩
  · rw [← hc.names_entries, Option.isSome_iff_exists, List.mem_map]
    constructor
    · rintro ⟨value, hvalue⟩
      exact ⟨(name, value), c.get?_entries.1 hvalue, rfl⟩
    · rintro ⟨⟨_, value⟩, hmem, rfl⟩
      exact ⟨value, c.get?_entries.2 hmem⟩
  · obtain ⟨u, hu, hkept⟩ := hback.exists_of_transition hv
    obtain ⟨t', ht', hunits⟩ := hc.exists_of_transition hu
    cases ht.symm.trans ht'
    rw [hkept.byproductRatio, hunits.byproductRatio, (htransition ht).filter_byproductRatio hfinite]

/-- Over the rationals no magnitude leaves the finite numbers, and the record of water is read again
after it was written. -/
theorem Definition.ofRecord_toRecord_water :
    ∃ (fields written : Json.Fields Rat) (d e : Definition Rat),
      Sample.water = .object fields ∧ ofRecord fields = .ok d ∧ d.toRecord = .ok written ∧
      ofRecord written = .ok e ∧ e.name = d.name ∧ e.displayName = d.displayName ∧
      e.state = d.state := by
  have hwater : (Document.definition (Sample.water : Json Rat)).toOption.isSome = true := by
    decide +kernel
  obtain ⟨d, hd⟩ := Option.isSome_iff_exists.1 hwater
  have hread := Attempt.mapError_eq_ok.1 (Attempt.toOption_eq_some_iff.1 hd)
  obtain ⟨c, written, e, hunits, hwritten, -, -, hback, he, -⟩ := ofRecord_toRecord hread
  exact ⟨_, written, d, e, rfl, hread, hwritten, hback, he.name.trans hunits.name,
    he.displayName.trans hunits.displayName, he.state.trans hunits.state⟩

end ElementAtlas
