import ElementAtlas.Proofs.Element.Validation
import ElementAtlas.Proofs.PhysicalUnit.Conversion
import ElementAtlas.Proofs.Quantity.Scales
import ElementAtlas.Proofs.Query.Stability
import ElementAtlas.Proofs.Scalar.Infinity

/-!
# Infinite temperatures

Among doubles an infinite magnitude is an infinite magnitude in every unit, and it counts as equal to
all magnitudes that are numbers. So at an infinite temperature every element that has a transition is
taken to cross it, also one whose only transition is at a low temperature
(`Quantity.infinity_equals_all`).
-/

namespace ElementAtlas

open Float.Model Float.Model.UnpackedFloat Double

/-! ## Converting infinities -/

namespace PhysicalUnit.Sound

variable {u : PhysicalUnit Float} {x : Float} {s : Sign}

/-- An infinite magnitude has an infinite base value. -/
theorem toBase_infinity (hu : u.Sound) (hx : x.toModel.unpack = .infinity s) :
    (u.toBase x).toModel.unpack = .infinity s := by
  have hproduct : (x * u.scale).toModel.unpack = .infinity s := mul_of_infinity hx hu.pos
  unfold toBase
  cases horigin : u.origin with
  | linear => exact hproduct
  | absolute offset interval => exact add_of_infinity hproduct (hu.offset horigin)

/-- An infinite base value has an infinite magnitude. -/
theorem ofBase_infinity (hu : u.Sound) (hx : x.toModel.unpack = .infinity s) :
    (u.ofBase x).toModel.unpack = .infinity s := by
  unfold ofBase
  cases horigin : u.origin with
  | linear => exact div_of_infinity hx hu.pos
  | absolute offset interval =>
    exact div_of_infinity (sub_of_infinity hx (hu.offset horigin)) hu.pos

/-- An infinite magnitude is infinite in every unit. -/
theorem isInf_convert {v : PhysicalUnit Float} (hu : u.Sound) (hv : v.Sound) (h : x.isInf = true) :
    (v.ofBase (u.toBase x)).isInf = true := by
  obtain ⟨s, hx⟩ := isInf_iff.1 h
  exact isInf_iff.2 ⟨s, hv.ofBase_infinity (hu.toBase_infinity hx)⟩

end PhysicalUnit.Sound

/-- An infinity is a number. -/
theorem Double.isNaN_of_isInf {x : Float} (h : x.isInf = true) : x.isNaN = false := by
  obtain ⟨s, hx⟩ := isInf_iff.1 h
  rw [Bool.eq_false_iff, ne_eq, isNaN_iff, hx]
  exact nofun

/-! ## Temperatures of transitions -/

/-- Degrees Celsius are a sound unit. -/
theorem PhysicalUnit.sound_celsius {u : PhysicalUnit Float} (h : parse "degC" = .ok u) :
    u.Sound := by
  have hscale : (parse "degC" : Except _ (PhysicalUnit Float)).toOption.map
      (fun u => (u.scale.isFinite, u.scale == Scalar.ofNat 0)) = some (true, false) := by
    decide +kernel
  rw [h] at hscale
  obtain ⟨hfinite, hne⟩ := Prod.mk.inj (Option.some.inj hscale)
  have hreached : Quantity.Reached (⟨Scalar.ofNat 0, u⟩ : Quantity Float) :=
    .parse (Attempt.map_eq_ok.2 ⟨u, h, rfl⟩)
  exact hreached.sound hfinite hne

/-- In a loaded atlas the temperatures of transitions are in degrees Celsius. -/
theorem Atlas.Loaded.celsius {α : Type} [Scalar α] {atlas : Atlas α} (h : atlas.Loaded)
    {m : Member α} (hm : atlas.get? m.id = some m) {side : Side} {t : Transition α ElementId}
    (ht : m.element.transition? side = some t) :
    PhysicalUnit.parse "degC" = .ok t.temperature.unit := by
  obtain ⟨d, strings, fields, hfields, hresolved⟩ := h.exists_record hm
  obtain ⟨source, hsource, htemperature⟩ := hresolved.exists_source ht
  have hunits := (Definition.ofRecord_eq_ok_iff.1 hfields).inFixedUnits
  exact htemperature ▸ (hunits.temperature side source hsource).1

/-! ## Comparing with infinities -/

namespace Quantity

variable {q r : Quantity Float}

/-- Two numbers in one unit are equal if one of them is infinite. -/
theorem compare_of_infinite (hcompatible : r.dimension = q.dimension ∧ r.isAbsolute = q.isAbsolute)
    (hq : q.magnitude.isNaN = false) (hr : (q.unit.ofBase r.baseValue).isNaN = false)
    (hinf : q.magnitude.isInf = true ∨ (q.unit.ofBase r.baseValue).isInf = true) :
    q.compare r = .ok .eq :=
  compare_eq_ok_iff.2 ⟨hcompatible, Double.compare_of_infinite hq hr hinf⟩

/-- An infinite magnitude is in order `.eq` with every magnitude that is a number. -/
theorem compare_infinite (hcompatible : r.dimension = q.dimension ∧ r.isAbsolute = q.isAbsolute)
    (hq : q.magnitude.isNaN = false) (hqu : q.unit.Sound) (hru : r.unit.Sound)
    (hinf : r.magnitude.isInf = true) : q.compare r = .ok .eq := by
  have hconverted : (q.unit.ofBase r.baseValue).isInf = true := hru.isInf_convert hqu hinf
  exact compare_of_infinite hcompatible hq (Double.isNaN_of_isInf hconverted) (.inr hconverted)

end Quantity

/-- An element is not stable at the temperature of one of its transitions. -/
theorem Element.not_stableAt_of_eq {ρ : Type} {e : Element Float ρ} {temperature : Quantity Float}
    {side : Side} {t : Transition Float ρ} (ht : e.transition? side = some t)
    (hcompare : t.temperature.compare temperature = .ok .eq) : ¬ e.StableAt temperature := by
  intro hstable
  cases side with
  | low => cases hcompare.symm.trans (hstable.low t ht)
  | high => cases hcompare.symm.trans (hstable.high t ht)

/-! ## Infinite temperatures -/

namespace Predicate

variable {atlas : Atlas Float} {m : Member Float} {side : Side} {t : Transition Float ElementId}
  {temperature : Quantity Float}

/-- No element is stable at a temperature that a transition of it is taken for equal to. -/
theorem evaluate_stableAt_of_eq (h : m.element.Measured) (ht : m.element.transition? side = some t)
    (hcompare : t.temperature.compare temperature = .ok .eq) :
    (stableAt temperature).evaluate atlas m = .ok false := by
  have hkind := h.temperature side t ht
  obtain ⟨hdimension, habsolute⟩ := (Quantity.compare_eq_ok_iff.1 hcompare).1
  have hlaws : StabilityLaws atlas m temperature := stabilityLaws h temperature
  obtain ⟨b, hb, hstable⟩ := hlaws.absolute
    ⟨hdimension.trans hkind.dimension, habsolute.trans hkind.isAbsolute⟩
  rw [hb, Bool.eq_false_iff.2 (mt hstable.1 (Element.not_stableAt_of_eq ht hcompare))]

/-- No element is stable over a range up to a temperature that a transition of it is taken for equal
to. -/
theorem evaluate_stableOver_of_eq (h : m.element.Measured)
    (ht : m.element.transition? side = some t)
    (hcompare : t.temperature.compare temperature = .ok .eq) {low : Quantity Float}
    (hlow : low.unit.Measures .ofTemperature true) :
    (stableOver low temperature).evaluate atlas m = .ok false := by
  obtain ⟨b, hb⟩ : ∃ b, (stableAt low).evaluate atlas m = .ok b := exists_stableAt h hlow
  rw [stableOver, evaluate, Attempt.bind_of_ok hb]
  cases b with
  | true => exact evaluate_stableAt_of_eq h ht hcompare
  | false => rfl

end Predicate

/-- In a loaded atlas no element that has a transition is stable at an infinite temperature. -/
theorem Atlas.Loaded.evaluate_stableAt_infinite {atlas : Atlas Float} (h : atlas.Loaded)
    {m : Member Float} (hm : atlas.get? m.id = some m) {side : Side} {t : Transition Float ElementId}
    (ht : m.element.transition? side = some t) (hnumber : t.temperature.magnitude.isNaN = false)
    {temperature : Quantity Float} (hkind : temperature.unit.Measures .ofTemperature true)
    (hsound : temperature.unit.Sound) (hinf : temperature.magnitude.isInf = true) :
    (Predicate.stableAt temperature).evaluate atlas m = .ok false := by
  have hmeasures := (h.measured hm).temperature side t ht
  have hcompatible : temperature.dimension = t.temperature.dimension ∧
      temperature.isAbsolute = t.temperature.isAbsolute :=
    ⟨hkind.dimension.trans hmeasures.dimension.symm, hkind.isAbsolute.trans hmeasures.isAbsolute.symm⟩
  have hunit := PhysicalUnit.sound_celsius (h.celsius hm ht)
  exact Predicate.evaluate_stableAt_of_eq (h.measured hm) ht
    (Quantity.compare_infinite hcompatible hnumber hunit hsound hinf)

/-- Two magnitudes count as equal if one of them is infinite, and this is their order only if they are
the same infinity. So an element that has a transition at a finite temperature is stable neither at an
infinite one nor over a range up to it. -/
theorem Quantity.infinity_equals_all {q r : Quantity Float}
    (hcompatible : r.dimension = q.dimension ∧ r.isAbsolute = q.isAbsolute)
    (hq : q.magnitude.isNaN = false) (hr : (q.unit.ofBase r.baseValue).isNaN = false)
    (hinf : q.magnitude.isInf = true ∨ (q.unit.ofBase r.baseValue).isInf = true) :
    q.compare r = .ok .eq ∧
    (∃ order, Scalar.compare? q.magnitude (q.unit.ofBase r.baseValue) = some order ∧
      (q.compare r = .ok order ↔ (q.magnitude == q.unit.ofBase r.baseValue) = true)) ∧
    ∀ (atlas : Atlas Float) (m : Member Float) (side : Side) (t : Transition Float ElementId),
      m.element.Measured → m.element.transition? side = some t → t.temperature = q →
        (Predicate.stableAt r).evaluate atlas m = .ok false ∧
        ∀ low : Quantity Float, low.unit.Measures .ofTemperature true →
          (Predicate.stableOver low r).evaluate atlas m = .ok false := by
  have hcompare : q.compare r = .ok .eq := compare_of_infinite hcompatible hq hr hinf
  refine ⟨hcompare, ?_, ?_⟩
  · obtain ⟨order, horder, hequal⟩ := exists_order_of_infinite hq hr hinf
    refine ⟨order, horder, ?_⟩
    rw [hcompare, Except.ok.injEq, eq_comm, hequal]
  · rintro atlas m side t h ht rfl
    exact ⟨Predicate.evaluate_stableAt_of_eq h ht hcompare, fun low hlow =>
      Predicate.evaluate_stableOver_of_eq h ht hcompare hlow⟩

/-- A kilogram against an infinite mass. -/
theorem Quantity.infinity_equals_all_kilogram :
    let kilogram : Quantity Float := ⟨1.0, .base .ofMass⟩
    let infinite : Quantity Float := ⟨1.0 / 0.0, .base .ofMass⟩
    kilogram.magnitude.isNaN = false ∧ (kilogram.unit.ofBase infinite.baseValue).isNaN = false ∧
      (kilogram.unit.ofBase infinite.baseValue).isInf = true ∧
      kilogram.compare infinite = .ok .eq ∧
      ∃ order, Scalar.compare? kilogram.magnitude (kilogram.unit.ofBase infinite.baseValue) =
          some order ∧
        (kilogram.compare infinite = .ok order ↔
          (kilogram.magnitude == kilogram.unit.ofBase infinite.baseValue) = true) := by
  intro kilogram infinite
  have hcompatible : infinite.dimension = kilogram.dimension ∧
      infinite.isAbsolute = kilogram.isAbsolute := ⟨rfl, rfl⟩
  have hnumbers : kilogram.magnitude.isNaN = false ∧
      (kilogram.unit.ofBase infinite.baseValue).isNaN = false ∧
      (kilogram.unit.ofBase infinite.baseValue).isInf = true := by
    decide +kernel
  obtain ⟨hkilogram, hnumber, hinf⟩ := hnumbers
  obtain ⟨hcompare, horder, -⟩ :=
    infinity_equals_all hcompatible hkilogram hnumber (.inr hinf)
  exact ⟨hkilogram, hnumber, hinf, hcompare, horder⟩

/-- Steam has no transition at a high temperature and is stable at 150 degrees, but not at an infinite
temperature, and an infinite mass is no greater than a kilogram. -/
theorem Quantity.infinity_not_above :
    (∃ kilogram infinite : Quantity Float, parse 1.0 "kg" = .ok kilogram ∧
      parse (1.0 / 0.0) "kg" = .ok infinite ∧ kilogram.compare infinite = .ok .eq) ∧
    ∃ (atlas : Atlas Float) (steam : Member Float) (warm infinite : Quantity Float),
      atlas.Loaded ∧ atlas.get? steam.id = some steam ∧ steam.element.name = "Steam" ∧
      steam.element.highTransition.isNone ∧ parse 150.0 "degC" = .ok warm ∧
      parse (1.0 / 0.0) "degC" = .ok infinite ∧
      (Predicate.stableAt warm).evaluate atlas steam = .ok true ∧
      (Predicate.stableAt infinite).evaluate atlas steam = .ok false ∧
      (Predicate.stableOver warm infinite).evaluate atlas steam = .ok false := by
  have hkilograms : (parse (1.0 : Float) "kg").toOption.bind (fun kilogram =>
      (parse (1.0 / 0.0 : Float) "kg").toOption.map fun infinite =>
        (kilogram.compare infinite).toOption) = some (some .eq) := by
    decide +kernel
  have hsample : (Sample.atlas : Except LoadError (Atlas Float)).toOption.map (fun atlas =>
      (atlas.get? ⟨2⟩).bind fun steam =>
        (parse (150.0 : Float) "degC").toOption.bind fun warm =>
          (parse (1.0 / 0.0 : Float) "degC").toOption.map fun infinite =>
            (steam.element.name, [some steam.element.highTransition.isNone,
              steam.element.lowTransition.map (·.temperature.magnitude.isNaN),
              some infinite.magnitude.isInf,
              ((Predicate.stableAt warm).evaluate atlas steam).toOption,
              ((Predicate.stableOver warm infinite).evaluate atlas steam).toOption])) =
      some (some ("Steam", [some true, some false, some true, some true, some false])) := by
    decide +kernel
  constructor
  · obtain ⟨kilogram, hkilogram, h⟩ := Option.bind_eq_some_iff.1 hkilograms
    obtain ⟨infinite, hinfinite, h⟩ := Option.map_eq_some_iff.1 h
    exact ⟨kilogram, infinite, Attempt.toOption_eq_some_iff.1 hkilogram,
      Attempt.toOption_eq_some_iff.1 hinfinite, Attempt.toOption_eq_some_iff.1 h⟩
  · obtain ⟨atlas, hloaded, h⟩ := Sample.exists_loaded hsample
    obtain ⟨steam, hsteam, h⟩ := Option.bind_eq_some_iff.1 h
    obtain ⟨warm, hwarm, h⟩ := Option.bind_eq_some_iff.1 h
    obtain ⟨infinite, hinfinite, h⟩ := Option.map_eq_some_iff.1 h
    simp only [Prod.mk.injEq, List.cons.injEq, Option.some.injEq,
      Attempt.toOption_eq_some_iff] at h hwarm hinfinite
    obtain ⟨hname, hnone, hlow, hinf, hstable, hrange, -⟩ := h
    obtain ⟨t, ht, hnumber⟩ := Option.map_eq_some_iff.1 hlow
    obtain ⟨u, hu, rfl⟩ := Attempt.map_eq_ok.1 hinfinite
    have hkind : u.Measures .ofTemperature true :=
      measures_of_parse hinfinite (KnownUnit.spelled rfl rfl rfl)
    have hat : atlas.get? steam.id = some steam := (Value.id_eq_of_get? hsteam).symm ▸ hsteam
    have htransition : steam.element.transition? .low = some t := ht
    exact ⟨atlas, steam, warm, _, hloaded, hat, hname, hnone, hwarm, hinfinite, hstable,
      hloaded.evaluate_stableAt_infinite hat htransition hnumber hkind
        (PhysicalUnit.sound_celsius hu) hinf, hrange⟩

end ElementAtlas
