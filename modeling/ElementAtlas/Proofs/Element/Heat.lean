import ElementAtlas.Proofs.Element.Measured
import ElementAtlas.Sample
import ElementAtlas.Scalar.Double

/-!
# Arguments of the heat computations

The heat that a mass takes up and the change of its temperature are computed by a chain of
conversions, products and quotients. Only the conversions of the two arguments can fail: they decide
the dimensions of all that is put together from them, so the unit of each intermediate result is
linear and has the dimension that the next link needs (`Element.Measured.heatLaws`). What is
refused is refused by the first of these conversions that does not apply, that of the mass before
that of the other argument.
-/

namespace ElementAtlas

variable {α ρ : Type} [Scalar α]

/-! ## Conversions that apply or not -/

namespace Quantity

/-- The error of the conversion of a quantity into a unit that is not compatible with its own. -/
def Misfit (q : Quantity α) (expression : String) (e : QuantityError) : Prop :=
  ∃ u : PhysicalUnit α, PhysicalUnit.parse expression = .ok u ∧
    e = .incompatible q.unit.label u.label

variable {q : Quantity α} {expression : String} {d : Dimension} {absolute : Bool}

/-- A quantity of another kind does not convert. -/
theorem exists_misfit (h : Spelled α expression d absolute) (hq : ¬ q.unit.Measures d absolute) :
    ∃ e, q.convertTo expression = .error e ∧ q.Misfit expression e := by
  obtain ⟨u, hu, hmeasures⟩ := h
  have hincompatible : q.unit.isCompatible u = false := by
    refine Bool.eq_false_iff.2 fun hcompatible => hq ?_
    obtain ⟨hdimension, habsolute⟩ := of_decide_eq_true hcompatible
    exact ⟨hdimension.trans hmeasures.dimension, habsolute.trans hmeasures.isAbsolute⟩
  refine ⟨.incompatible q.unit.label u.label, ?_, u, hu, rfl⟩
  rw [convertTo, Attempt.bind_of_ok hu, convert, PhysicalUnit.checkCompatible, hincompatible]
  rfl

end Quantity

/-- A well typed unit of another dimension than that of temperature is linear. -/
theorem PhysicalUnit.Typed.measures_iff {u : PhysicalUnit α} (h : u.Typed) {d : Dimension}
    (hd : d ≠ .ofTemperature) : u.Measures d false ↔ u.dimension = d := by
  refine ⟨Measures.dimension, fun hdimension => ⟨hdimension, ?_⟩⟩
  rw [Bool.eq_false_iff]
  intro habsolute
  exact hd (hdimension.symm.trans (h habsolute).1)

/-! ## The chain -/

namespace Element

/-- A computation with a mass and another argument has a result if the mass is one and the other
argument is accepted, and the result is in a unit of its own. It fails because of the mass if that
is none, and because of the other argument if the mass is one. -/
structure HeatLaws (computed : Except QuantityError (Quantity α)) (mass argument : Quantity α)
    (accepted : Prop) (unit resultUnit : String) (resultDimension : Dimension) : Prop where
  exists_iff : (∃ result, computed = .ok result) ↔ mass.dimension = .ofMass ∧ accepted
  result : ∀ result, computed = .ok result → PhysicalUnit.parse resultUnit = .ok result.unit ∧
    result.dimension = resultDimension ∧ result.isAbsolute = false
  failure : ∀ e, computed = .error e → mass.dimension ≠ .ofMass ∧ mass.Misfit "g" e ∨
    mass.dimension = .ofMass ∧ ¬ accepted ∧ argument.Misfit unit e

section
variable {computed : Except QuantityError (Quantity α)} {mass argument : Quantity α}
  {accepted : Prop} {unit resultUnit : String} {d resultDimension : Dimension}

/-- A computation with a result obeys the laws if it was given a mass and an accepted argument. -/
theorem HeatLaws.of_ok {result : Quantity α} (h : computed = .ok result)
    (hunit : PhysicalUnit.parse resultUnit = .ok result.unit)
    (hkind : result.unit.Measures resultDimension false) (hmass : mass.dimension = .ofMass)
    (haccepted : accepted) :
    HeatLaws computed mass argument accepted unit resultUnit resultDimension := by
  subst h
  refine ⟨iff_of_true ⟨result, rfl⟩ ⟨hmass, haccepted⟩, ?_, nofun⟩
  intro _ heq
  cases heq
  exact ⟨hunit, hkind.dimension, hkind.isAbsolute⟩

/-- A computation that fails because of the mass obeys the laws if that is none. -/
theorem HeatLaws.of_mass {e : QuantityError} (h : computed = .error e)
    (hmass : mass.dimension ≠ .ofMass) (hmisfit : mass.Misfit "g" e) :
    HeatLaws computed mass argument accepted unit resultUnit resultDimension := by
  subst h
  refine ⟨iff_of_false nofun fun hboth => hmass hboth.1, nofun, ?_⟩
  intro _ heq
  cases heq
  exact .inl ⟨hmass, hmisfit⟩

/-- A computation that fails because of the argument obeys the laws if this is refused. -/
theorem HeatLaws.of_argument {e : QuantityError} (h : computed = .error e)
    (hmass : mass.dimension = .ofMass) (hrefused : ¬ accepted) (hmisfit : argument.Misfit unit e) :
    HeatLaws computed mass argument accepted unit resultUnit resultDimension := by
  subst h
  refine ⟨iff_of_false nofun fun hboth => hrefused hboth.2, nofun, ?_⟩
  intro _ heq
  cases heq
  exact .inr ⟨hmass, hrefused, hmisfit⟩

/-- Both computations are this chain, for what combines the heat for each degree with the other
argument. If linear quantities of their dimensions combine, then the chain breaks only at one of the
arguments. -/
theorem Measured.heatLaws {e : Element α ρ} (h : e.Measured)
    (combine : Quantity α → Quantity α → Except QuantityError (Quantity α))
    (hmass : mass.unit.Measures .ofMass false ↔ mass.dimension = .ofMass)
    (haccepted : argument.unit.Measures d false ↔ accepted) (hunit : Spelled α unit d false)
    (hresultUnit : Spelled α resultUnit resultDimension false)
    (hcombine : ∀ perDegree converted : Quantity α,
      perDegree.unit.Measures ⟨1, 2, -2, -1, 0, 0⟩ false → converted.unit.Measures d false →
        ∃ combined, combine perDegree converted = .ok combined ∧
          combined.unit.Measures resultDimension false) :
    HeatLaws (do
      let perDegree ← e.heatPerDegree mass
      let converted ← argument.convertTo unit
      let combined ← combine perDegree converted
      combined.convertTo resultUnit) mass argument accepted unit resultUnit resultDimension := by
  by_cases hm : mass.unit.Measures .ofMass false
  case neg =>
    obtain ⟨error, herror, hmisfit⟩ :=
      Quantity.exists_misfit (KnownUnit.spelled rfl rfl rfl : Spelled α "g" .ofMass false) hm
    have hfactor : e.heatPerDegree mass = .error error := Attempt.bind_eq_error.2 (.inl herror)
    exact .of_mass (Attempt.bind_eq_error.2 (.inl hfactor)) (mt hmass.2 hm) hmisfit
  obtain ⟨perDegree, hperDegree, hperDegreeKind⟩ := h.exists_heatPerDegree hm
  by_cases ha : argument.unit.Measures d false
  case neg =>
    obtain ⟨error, herror, hmisfit⟩ := Quantity.exists_misfit hunit ha
    refine .of_argument ?_ (hmass.1 hm) (mt haccepted.2 ha) hmisfit
    exact Attempt.bind_eq_error.2 (.inr ⟨perDegree, hperDegree,
      Attempt.bind_eq_error.2 (.inl herror)⟩)
  obtain ⟨converted, hconverted, hconvertedKind⟩ := Quantity.exists_convertTo ha hunit
  obtain ⟨combined, hcombined, hcombinedKind⟩ :=
    hcombine perDegree converted hperDegreeKind hconvertedKind
  obtain ⟨result, hresult, hkind⟩ := Quantity.exists_convertTo hcombinedKind hresultUnit
  refine .of_ok ?_ (Quantity.parse_unit_of_convertTo hresult) hkind (hmass.1 hm) (haccepted.1 ha)
  refine Attempt.bind_eq_ok.2 ⟨perDegree, hperDegree, ?_⟩
  refine Attempt.bind_eq_ok.2 ⟨converted, hconverted, ?_⟩
  exact Attempt.bind_eq_ok.2 ⟨combined, hcombined, hresult⟩

end

end Element

/-- With an element that is read from a record, a mass takes up heat for every interval of
temperature, and its temperature changes for every energy. Arguments of other dimensions, and points
on a temperature scale, are refused for their dimension, and nothing else is. -/
theorem Definition.heat_of_ofRecord {fields : Json.Fields α} {d : Definition α}
    (h : ofRecord fields = .ok d) {argument mass : Quantity α} (hargument : argument.Reached)
    (hmass : mass.Reached) :
    Element.HeatLaws (d.heatEnergy argument mass) mass argument
        (argument.dimension = .ofTemperature ∧ argument.isAbsolute = false)
        "delta_degC" "DTU" .energy ∧
      Element.HeatLaws (d.temperatureChange argument mass) mass argument
        (argument.dimension = .energy) "DTU" "delta_degC" .ofTemperature := by
  have hmeasured := measured_of_ofRecord h
  have hmassKind : mass.unit.Measures .ofMass false ↔ mass.dimension = .ofMass :=
    hmass.typed.measures_iff (by decide)
  have hdegrees : Spelled α "delta_degC" .ofTemperature false := KnownUnit.spelled rfl rfl rfl
  have henergy : Spelled α "DTU" .energy false := KnownUnit.spelled rfl rfl rfl
  constructor
  · have hinterval : argument.unit.Measures .ofTemperature false ↔
        argument.dimension = .ofTemperature ∧ argument.isAbsolute = false :=
      ⟨fun hkind => ⟨hkind.dimension, hkind.isAbsolute⟩, fun ⟨hd, habsolute⟩ => ⟨hd, habsolute⟩⟩
    exact hmeasured.heatLaws Quantity.mul hmassKind hinterval hdegrees henergy
      fun _ _ hperDegree hconverted => Quantity.exists_mul hperDegree hconverted rfl
  · have hkind : argument.unit.Measures .energy false ↔ argument.dimension = .energy :=
      hargument.typed.measures_iff (by decide)
    exact hmeasured.heatLaws (fun perDegree converted => converted.div perDegree) hmassKind hkind
      henergy hdegrees
      fun _ _ hperDegree hconverted => Quantity.exists_div hconverted hperDegree rfl

/-- Water takes up heat for an interval of ten degrees, but none for the point of ten degrees. -/
theorem Definition.heat_of_ofRecord_water :
    ∃ (fields : Json.Fields Float) (d : Definition Float) (interval point mass : Quantity Float),
      Sample.water = .object fields ∧ ofRecord fields = .ok d ∧
      Quantity.parse (Scalar.ofNat 10) "delta_degC" = .ok interval ∧
      Quantity.parse (Scalar.ofNat 10) "degC" = .ok point ∧
      Quantity.parse (Scalar.ofNat 1) "kg" = .ok mass ∧
      (∃ heat, d.heatEnergy interval mass = .ok heat ∧
        PhysicalUnit.parse "DTU" = .ok heat.unit) ∧
      ∃ e, d.heatEnergy point mass = .error e ∧ point.Misfit "delta_degC" e := by
  have hwater : (Document.definition (Sample.water : Json Float)).toOption.isSome = true := by
    decide +kernel
  obtain ⟨d, hd⟩ := Option.isSome_iff_exists.1 hwater
  have hread := Attempt.mapError_eq_ok.1 (Attempt.toOption_eq_some_iff.1 hd)
  obtain ⟨interval, hinterval, hintervalKind⟩ := Quantity.exists_parse (Scalar.ofNat 10 : Float)
    (KnownUnit.spelled rfl rfl rfl : Spelled Float "delta_degC" .ofTemperature false)
  obtain ⟨point, hpoint, hpointKind⟩ := Quantity.exists_parse (Scalar.ofNat 10 : Float)
    (KnownUnit.spelled rfl rfl rfl : Spelled Float "degC" .ofTemperature true)
  obtain ⟨mass, hmass, hmassKind⟩ := Quantity.exists_parse (Scalar.ofNat 1 : Float)
    (KnownUnit.spelled rfl rfl rfl : Spelled Float "kg" .ofMass false)
  obtain ⟨hlaws, -⟩ := heat_of_ofRecord hread (.parse hinterval) (.parse hmass)
  obtain ⟨hpointLaws, -⟩ := heat_of_ofRecord hread (.parse hpoint) (.parse hmass)
  obtain ⟨heat, hheat⟩ := hlaws.exists_iff.2
    ⟨hmassKind.dimension, hintervalKind.dimension, hintervalKind.isAbsolute⟩
  have hrefused : ¬ ∃ heat, d.heatEnergy point mass = .ok heat := by
    rintro ⟨heat, hheat⟩
    obtain ⟨-, -, habsolute⟩ := hpointLaws.exists_iff.1 ⟨heat, hheat⟩
    cases habsolute.symm.trans hpointKind.isAbsolute
  obtain ⟨e, he⟩ := Attempt.exists_error_iff.2 hrefused
  refine ⟨_, d, interval, point, mass, rfl, hread, hinterval, hpoint, hmass,
    ⟨heat, hheat, (hlaws.result heat hheat).1⟩, e, he, ?_⟩
  rcases hpointLaws.failure e he with ⟨hother, -⟩ | ⟨-, -, hmisfit⟩
  · exact absurd hmassKind.dimension hother
  · exact hmisfit

end ElementAtlas
