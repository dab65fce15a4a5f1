import ElementAtlas.Proofs.Element.Heat
import ElementAtlas.Proofs.Element.Validation
import ElementAtlas.Proofs.Quantity.BaseValues

/-!
# The balance of heat

The heat for an interval and the interval for an energy are computed by two different chains of
conversions, products and quotients. In base values each chain is one formula
(`Element.baseValue_of_heatEnergy`, `Element.baseValue_of_temperatureChange`), in which the units
that are converted to on the way do not occur any more, and the two formulas are inverse to each
other. A result is in a known unit, in which a base value has one magnitude, so it is what the
argument converts to (`Quantity.convertTo_of_baseValue`).

All this is over the rationals, where nothing rounds.
-/

namespace ElementAtlas

/-! ## Units with a scale -/

/-- The units that heat is computed in. -/
def PhysicalUnit.ofHeat : List String :=
  [RecordUnits.standard.specificHeatCapacity, "g", "DTU", "delta_degC"]

/-- No unit of a heat computation has the scale zero. -/
theorem PhysicalUnit.scale_ne_zero_of_mem {expression : String} {u : PhysicalUnit Rat}
    (h : parse expression = .ok u) (hmem : expression ∈ ofHeat) : u.scale ≠ 0 := by
  have hall : ∀ expression ∈ ofHeat,
      (parse expression : Except QuantityError (PhysicalUnit Rat)).toOption.all
        (·.scale != 0) = true := by
    decide +kernel
  have hscale := hall expression hmem
  rw [h] at hscale
  exact bne_iff_ne.1 hscale

/-! ## Base values through expressions -/

namespace Quantity

variable {a c : Quantity Rat} {expression : String}

/-- A conversion into one of the units that heat is computed in keeps the base value. -/
theorem baseValue_of_convertTo (h : a.convertTo expression = .ok c)
    (hmem : expression ∈ PhysicalUnit.ofHeat) : c.baseValue = a.baseValue := by
  have hscale := PhysicalUnit.scale_ne_zero_of_mem (parse_unit_of_convertTo h) hmem
  obtain ⟨u, -, hconvert⟩ := Attempt.bind_eq_ok.1 h
  exact baseValue_of_convert (unit_of_convert hconvert ▸ hscale) hconvert

/-- A quantity converts to the one that has its base value and is of its kind. -/
theorem convertTo_of_baseValue {d : Dimension} {absolute : Bool}
    (hunit : PhysicalUnit.parse expression = .ok c.unit) (hscale : c.unit.scale ≠ 0)
    (ha : a.unit.Measures d absolute) (hc : c.unit.Measures d absolute)
    (hbase : c.baseValue = a.baseValue) : a.convertTo expression = .ok c := by
  refine Attempt.bind_eq_ok.2 ⟨c.unit, hunit, convert_eq_ok_iff.2 ⟨⟨?_, ?_⟩, ?_⟩⟩
  · exact ha.dimension.trans hc.dimension.symm
  · exact ha.isAbsolute.trans hc.isAbsolute.symm
  · rw [← hbase, baseValue, PhysicalUnit.ofBase_toBase hscale]

/-- The base value of a linear quantity is zero only if its magnitude is. -/
theorem baseValue_ne_zero {d : Dimension} (ha : a.unit.Measures d false)
    (hscale : a.unit.scale ≠ 0) (hmagnitude : a.magnitude ≠ 0) : a.baseValue ≠ 0 := by
  rw [baseValue, PhysicalUnit.toBase_eq, PhysicalUnit.zero_of_linear ha.isAbsolute, add_zero]
  exact mul_ne_zero hmagnitude hscale

end Quantity

namespace Element

variable {ρ : Type} {e : Element Rat ρ} {mass argument perDegree result : Quantity Rat}

/-! ## The computations in base values -/

/-- The heat for each degree is the heat capacity times the mass, in base units. -/
theorem baseValue_of_heatPerDegree (h : e.heatPerDegree mass = .ok perDegree) :
    perDegree.baseValue = e.specificHeatCapacity.baseValue * mass.baseValue := by
  obtain ⟨grams, hgrams, hmul⟩ := Attempt.bind_eq_ok.1 h
  rw [Quantity.baseValue_of_mul hmul, Quantity.baseValue_of_convertTo hgrams (by decide)]

/-- The heat is the heat capacity times the mass times the interval, in base units. -/
theorem baseValue_of_heatEnergy (h : e.heatEnergy argument mass = .ok result) :
    result.baseValue =
      e.specificHeatCapacity.baseValue * mass.baseValue * argument.baseValue := by
  obtain ⟨perDegree, hperDegree, h⟩ := Attempt.bind_eq_ok.1 h
  obtain ⟨interval, hinterval, h⟩ := Attempt.bind_eq_ok.1 h
  obtain ⟨heat, hmul, hresult⟩ := Attempt.bind_eq_ok.1 h
  calc result.baseValue = heat.baseValue := Quantity.baseValue_of_convertTo hresult (by decide)
    _ = perDegree.baseValue * interval.baseValue := Quantity.baseValue_of_mul hmul
    _ = _ := by
      rw [baseValue_of_heatPerDegree hperDegree,
        Quantity.baseValue_of_convertTo hinterval (by decide)]

/-- The change of temperature is the energy for the heat of each degree, in base units. -/
theorem baseValue_of_temperatureChange (h : e.temperatureChange argument mass = .ok result) :
    result.baseValue =
      argument.baseValue / (e.specificHeatCapacity.baseValue * mass.baseValue) := by
  obtain ⟨perDegree, hperDegree, h⟩ := Attempt.bind_eq_ok.1 h
  obtain ⟨energy, henergy, h⟩ := Attempt.bind_eq_ok.1 h
  obtain ⟨change, hdiv, hresult⟩ := Attempt.bind_eq_ok.1 h
  calc result.baseValue = change.baseValue := Quantity.baseValue_of_convertTo hresult (by decide)
    _ = energy.baseValue / perDegree.baseValue := Quantity.baseValue_of_div hdiv
    _ = _ := by
      rw [baseValue_of_heatPerDegree hperDegree,
        Quantity.baseValue_of_convertTo henergy (by decide)]

/-! ## One computation after the other -/

/-- A heat comes in DTU. -/
theorem unit_of_heatEnergy (h : e.heatEnergy argument mass = .ok result) :
    PhysicalUnit.parse "DTU" = .ok result.unit := by
  obtain ⟨perDegree, -, h⟩ := Attempt.bind_eq_ok.1 h
  obtain ⟨interval, -, h⟩ := Attempt.bind_eq_ok.1 h
  obtain ⟨heat, -, hresult⟩ := Attempt.bind_eq_ok.1 h
  exact Quantity.parse_unit_of_convertTo hresult

/-- A change of temperature comes in intervals of degrees Celsius. -/
theorem unit_of_temperatureChange (h : e.temperatureChange argument mass = .ok result) :
    PhysicalUnit.parse "delta_degC" = .ok result.unit := by
  obtain ⟨perDegree, -, h⟩ := Attempt.bind_eq_ok.1 h
  obtain ⟨energy, -, h⟩ := Attempt.bind_eq_ok.1 h
  obtain ⟨change, -, hresult⟩ := Attempt.bind_eq_ok.1 h
  exact Quantity.parse_unit_of_convertTo hresult

/-- Every energy changes the temperature of a mass by an interval. -/
theorem Measured.exists_temperatureChange (h : e.Measured)
    (henergy : argument.unit.Measures .energy false) (hmass : mass.unit.Measures .ofMass false) :
    ∃ change, e.temperatureChange argument mass = .ok change ∧
      change.unit.Measures .ofTemperature false := by
  have hlaws : HeatLaws (e.temperatureChange argument mass) mass argument True
      "DTU" "delta_degC" .ofTemperature :=
    h.heatLaws (fun perDegree energy => energy.div perDegree)
      (iff_of_true hmass hmass.dimension) (iff_of_true henergy trivial)
      (KnownUnit.spelled rfl rfl rfl) (KnownUnit.spelled rfl rfl rfl)
      fun _ _ hperDegree hconverted => Quantity.exists_div hconverted hperDegree rfl
  obtain ⟨change, hchange⟩ := hlaws.exists_iff.2 ⟨hmass.dimension, trivial⟩
  obtain ⟨-, hdimension, habsolute⟩ := hlaws.result change hchange
  exact ⟨change, hchange, hdimension, habsolute⟩

section
variable (h : e.Measured) (hmass : mass.unit.Measures .ofMass false)
  (hcapacity : e.specificHeatCapacity.baseValue ≠ 0) (hne : mass.baseValue ≠ 0)
include h hmass hcapacity hne

/-- The heat that a mass takes up for an interval changes its temperature by that interval. -/
theorem Measured.temperatureChange_heatEnergy {interval : Quantity Rat}
    (hinterval : interval.unit.Measures .ofTemperature false) :
    ∃ heat change, e.heatEnergy interval mass = .ok heat ∧
      e.temperatureChange heat mass = .ok change ∧
      interval.convertTo "delta_degC" = .ok change := by
  obtain ⟨heat, hheat, hheatKind⟩ := h.exists_heatEnergy hinterval hmass
  obtain ⟨change, hchange, hchangeKind⟩ := h.exists_temperatureChange hheatKind hmass
  have hunit : PhysicalUnit.parse "delta_degC" = .ok change.unit :=
    unit_of_temperatureChange hchange
  have hscale := PhysicalUnit.scale_ne_zero_of_mem hunit (by decide)
  refine ⟨heat, change, hheat, hchange,
    Quantity.convertTo_of_baseValue hunit hscale hinterval hchangeKind ?_⟩
  rw [baseValue_of_temperatureChange hchange, baseValue_of_heatEnergy hheat,
    mul_div_cancel_left₀ _ (mul_ne_zero hcapacity hne)]

/-- A mass takes up, for the interval by which an energy changes its temperature, that energy. -/
theorem Measured.heatEnergy_temperatureChange {energy : Quantity Rat}
    (henergy : energy.unit.Measures .energy false) :
    ∃ change heat, e.temperatureChange energy mass = .ok change ∧
      e.heatEnergy change mass = .ok heat ∧ energy.convertTo "DTU" = .ok heat := by
  obtain ⟨change, hchange, hchangeKind⟩ := h.exists_temperatureChange henergy hmass
  obtain ⟨heat, hheat, hheatKind⟩ := h.exists_heatEnergy hchangeKind hmass
  have hunit : PhysicalUnit.parse "DTU" = .ok heat.unit := unit_of_heatEnergy hheat
  have hscale := PhysicalUnit.scale_ne_zero_of_mem hunit (by decide)
  refine ⟨change, heat, hchange, hheat,
    Quantity.convertTo_of_baseValue hunit hscale henergy hheatKind ?_⟩
  rw [baseValue_of_heatEnergy hheat, baseValue_of_temperatureChange hchange,
    mul_div_cancel₀ _ (mul_ne_zero hcapacity hne)]

end

end Element

/-- With an element that is read from a record and has a heat capacity, the interval for the heat
that a mass takes up is the interval that it was for, and the heat for the interval by which an
energy changes the temperature is that energy. The mass, the interval and the energy are in any units
for them; only that of the mass has to have a scale. -/
theorem Definition.heat_balance {fields : Json.Fields Rat} {d : Definition Rat}
    (h : ofRecord fields = .ok d) (hcapacity : d.specificHeatCapacity.magnitude ≠ 0)
    {mass : Quantity Rat} (hmass : mass.Reached) (hdimension : mass.dimension = .ofMass)
    (hmagnitude : mass.magnitude ≠ 0) (hscale : mass.unit.scale ≠ 0) :
    (∀ interval : Quantity Rat, interval.Reached → interval.dimension = .ofTemperature →
      interval.isAbsolute = false → ∃ heat change, d.heatEnergy interval mass = .ok heat ∧
        d.temperatureChange heat mass = .ok change ∧
        interval.convertTo "delta_degC" = .ok change) ∧
      ∀ energy : Quantity Rat, energy.Reached → energy.dimension = .energy →
        ∃ change heat, d.temperatureChange energy mass = .ok change ∧
          d.heatEnergy change mass = .ok heat ∧ energy.convertTo "DTU" = .ok heat := by
  have hmeasured := measured_of_ofRecord h
  have hmassKind : mass.unit.Measures .ofMass false :=
    (hmass.typed.measures_iff (by decide)).2 hdimension
  have hcapacityUnit : PhysicalUnit.parse RecordUnits.standard.specificHeatCapacity =
      .ok d.specificHeatCapacity.unit :=
    (ofRecord_eq_ok_iff.1 h).inFixedUnits.specificHeatCapacity
  have hcapacityBase : d.specificHeatCapacity.baseValue ≠ 0 :=
    Quantity.baseValue_ne_zero hmeasured.specificHeatCapacity
      (PhysicalUnit.scale_ne_zero_of_mem hcapacityUnit (by decide)) hcapacity
  have hmassBase : mass.baseValue ≠ 0 := Quantity.baseValue_ne_zero hmassKind hscale hmagnitude
  constructor
  · intro interval _ hinterval hlinear
    exact hmeasured.temperatureChange_heatEnergy hmassKind hcapacityBase hmassBase
      ⟨hinterval, hlinear⟩
  · intro energy henergy henergyDimension
    exact hmeasured.heatEnergy_temperatureChange hmassKind hcapacityBase hmassBase
      ((henergy.typed.measures_iff (by decide)).2 henergyDimension)

/-- Half a pound of water is heated by 36 degrees Fahrenheit, that is by 20 degrees Celsius. -/
theorem Definition.heat_balance_water :
    ∃ (fields : Json.Fields Rat) (d : Definition Rat) (interval mass heat change : Quantity Rat),
      Sample.water = .object fields ∧ ofRecord fields = .ok d ∧
      d.specificHeatCapacity.magnitude ≠ 0 ∧
      Quantity.parse 36 "delta_degF" = .ok interval ∧ Quantity.parse (1 / 2) "lb" = .ok mass ∧
      d.heatEnergy interval mass = .ok heat ∧ d.temperatureChange heat mass = .ok change ∧
      interval.convertTo "delta_degC" = .ok change ∧ change.magnitude = 20 := by
  have hwater : (Document.definition (Sample.water : Json Rat)).toOption.map
      (·.specificHeatCapacity.magnitude) = some (4179 / 1000) := by
    decide +kernel
  have hpounds : (Quantity.parse (1 / 2 : Rat) "lb").toOption.map
      (fun q => (q.dimension, q.magnitude, q.unit.scale)) =
        some (.ofMass, 1 / 2, 45359237 / 100000000) := by
    decide +kernel
  have hdegrees : (Quantity.parse (36 : Rat) "delta_degF").toOption.bind (fun q =>
      (q.convertTo "delta_degC").toOption.map fun r => (q.dimension, q.isAbsolute, r.magnitude)) =
        some (.ofTemperature, false, 20) := by
    decide +kernel
  obtain ⟨d, hd, hcapacity⟩ := Option.map_eq_some_iff.1 hwater
  obtain ⟨mass, hmass, hpounds⟩ := Option.map_eq_some_iff.1 hpounds
  obtain ⟨interval, hinterval, hdegrees⟩ := Option.bind_eq_some_iff.1 hdegrees
  obtain ⟨degrees, hconvert, hdegrees⟩ := Option.map_eq_some_iff.1 hdegrees
  obtain ⟨hdimension, hpounds⟩ := Prod.mk.inj hpounds
  obtain ⟨hmagnitude, hscale⟩ := Prod.mk.inj hpounds
  obtain ⟨htemperature, hdegrees⟩ := Prod.mk.inj hdegrees
  obtain ⟨hlinear, htwenty⟩ := Prod.mk.inj hdegrees
  have hread := Attempt.mapError_eq_ok.1 (Attempt.toOption_eq_some_iff.1 hd)
  have hmass := Attempt.toOption_eq_some_iff.1 hmass
  have hinterval := Attempt.toOption_eq_some_iff.1 hinterval
  have hne : d.specificHeatCapacity.magnitude ≠ 0 := by
    rw [hcapacity]
    norm_num
  obtain ⟨heat, change, hheat, hchange, hback⟩ :=
    (heat_balance hread hne (.parse hmass) hdimension (by rw [hmagnitude]; norm_num)
      (by rw [hscale]; norm_num)).1 interval (.parse hinterval) htemperature hlinear
  cases (Attempt.toOption_eq_some_iff.1 hconvert).symm.trans hback
  exact ⟨_, d, interval, mass, heat, degrees, rfl, hread, hne, hinterval, hmass, hheat, hchange,
    hback, htwenty⟩

end ElementAtlas
