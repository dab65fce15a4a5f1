import ElementAtlas.Proofs.Query.OptionalChaining
import ElementAtlas.Query.Stability

/-!
# Longer paths

A step that is added to a path is taken from the value of the path. If the path is absent and the step
is optional, the longer path is absent too. Paths with many steps are evaluated in this way from their
beginning, one step after another, also where it depends on the element whether they have a value.
-/

namespace ElementAtlas

variable {α : Type}

/-! ## Arguments -/

/-- Arguments without keywords go to the parameters in order. -/
theorem Arguments.bind_positional {n : Nat} (parameters : Vector String n)
    (literals : Vector (Literal α) n) :
    (Arguments.bind ⟨literals.toList, []⟩ parameters) = .ok literals := by
  have hlength : ¬ n < literals.toList.length := by simp
  have hslots : (Vector.ofFn fun i : Fin n =>
      (⟨parameters[i], literals.toList[i.val]?⟩ : Slot α)) =
      (parameters.zip literals).map fun given => ⟨given.1, some given.2⟩ := by
    ext i hi
    simp
  have hgiven : (parameters.zip literals).mapM (fun slot => (pure slot.2 : Except ArgumentFault _)) =
      pure ((parameters.zip literals).map Prod.snd) := Vector.mapM_pure Prod.snd
  rw [Arguments.bind]
  simp only [hlength, if_false, List.foldlM_nil, hslots, pure_bind, Vector.mapM_map]
  refine hgiven.trans ?_
  rw [Vector.map_snd_zip]
  rfl

/-- A text that is passed alone is the argument of a method with one parameter. -/
theorem Value.textArgument_text [Scalar α] (method parameter s : String) :
    textArgument (α := α) method parameter ⟨[.text s], []⟩ = .ok s := by
  have hbind := Arguments.bind_positional (α := α) #v[parameter] #v[.text s]
  exact Attempt.bind_eq_ok.2 ⟨#v[.text s], Attempt.mapError_eq_ok.2 hbind, rfl⟩

namespace Attribute

variable [Scalar α] {atlas : Atlas α} {a : Attribute α} {m : Member α} {v w : Value α}
  {step : Step α}

/-- A path that has a value goes on with the step from it. -/
theorem evaluate_push (h : a.evaluate atlas m = .ok v) (hv : v.isNone = false)
    (hstep : step.apply atlas v = .ok w) : (a.push step).evaluate atlas m = .ok w := by
  obtain ⟨start, hstart, hleads | ⟨rfl, -⟩⟩ := evaluate_eq_ok_iff.1 h
  · have hlonger : Leads atlas start (a.push step).hops w := hleads.concat hv hstep
    exact evaluate_eq_ok_iff.2 ⟨start, hstart, .inl hlonger⟩
  · cases hv

/-- An absent value stays absent on a path whose next step is optional. -/
theorem evaluate_push_of_none (h : a.evaluate atlas m = .ok .none) (hoptional : a.isOptional = true) :
    (a.push step).evaluate atlas m = .ok .none := by
  obtain ⟨start, hstart, hleads | ⟨-, before, hop, harrives, hhop⟩⟩ := evaluate_eq_ok_iff.1 h
  · have hlast : Arrives atlas start (a.push step).hops a.hops ⟨step, a.isOptional⟩ .none :=
      ⟨⟨[], rfl⟩, hleads⟩
    exact evaluate_eq_ok_iff.2 ⟨start, hstart, .inr ⟨rfl, _, _, hlast, hoptional⟩⟩
  · obtain ⟨⟨after, hsplit⟩, hleads⟩ := harrives
    have hsame : Arrives atlas start (a.push step).hops before hop .none :=
      ⟨⟨after ++ [⟨step, a.isOptional⟩], by simp [push, hsplit]⟩, hleads⟩
    exact evaluate_eq_ok_iff.2 ⟨start, hstart, .inr ⟨rfl, _, _, hsame, hhop⟩⟩

/-- Making later hops optional changes nothing yet. -/
theorem evaluate_optional (h : a.evaluate atlas m = .ok v) :
    a.optional.evaluate atlas m = .ok v := by
  have hfollowed := evaluate_eq_ok_iff.1 h
  exact evaluate_eq_ok_iff.2 hfollowed

/-- A path to a field has the value of the field. -/
theorem evaluate_ofField {name : String} (h : Value.elementField m name = .ok v) :
    (ofField name).evaluate atlas m = .ok v :=
  evaluate_push (rfl : root.evaluate atlas m = .ok (.element m)) rfl h

/-! ## Conversions -/

/-- A path that is converted has the converted quantity. -/
theorem evaluate_convertTo {q r : Quantity α} {unit : String}
    (h : a.evaluate atlas m = .ok (.quantity q)) (hr : q.convertTo unit = .ok r) :
    (a.convertTo unit).evaluate atlas m = .ok (.quantity r) := by
  have hmethod : (a.field "to").evaluate atlas m = .ok (.method (.quantity q) "to") :=
    evaluate_push h rfl rfl
  have hcall : (Value.method (.quantity q) "to").call ⟨[.text unit], []⟩ = .ok (.quantity r) := by
    refine Attempt.bind_eq_ok.2 ⟨unit, Value.textArgument_text _ _ _, ?_⟩
    rw [hr]
    rfl
  exact evaluate_push hmethod rfl hcall

/-- The magnitude of a quantity in another unit. -/
theorem evaluate_magnitude {q r : Quantity α} {unit : String}
    (h : a.evaluate atlas m = .ok (.quantity q)) (hr : q.convertTo unit = .ok r) :
    (a.convertTo unit).magnitude.evaluate atlas m = .ok (.number r.magnitude) :=
  evaluate_push (evaluate_convertTo h hr) rfl rfl

/-- An absent quantity has no magnitude in any unit. -/
theorem evaluate_magnitude_of_none {unit : String} (h : a.evaluate atlas m = .ok .none)
    (hoptional : a.isOptional = true) :
    (a.convertTo unit).magnitude.evaluate atlas m = .ok .none := by
  have hmethod : (a.field "to").evaluate atlas m = .ok .none := evaluate_push_of_none h hoptional
  have hconverted : (a.convertTo unit).evaluate atlas m = .ok .none :=
    evaluate_push_of_none hmethod hoptional
  exact evaluate_push_of_none hconverted hoptional

/-! ## Temperatures of transitions -/

/-- The temperature of a transition is absent where the element has no such transition. -/
theorem evaluate_temperature {name : String} {side : Side} {t? : Option (Transition α ElementId)}
    (h : Value.elementField m name = .ok ((t?.map (.transition m.id side)).getD .none)) :
    ((ofField name).optional.field "temperature").evaluate atlas m =
      .ok (Value.ofQuantity? (t?.map (·.temperature))) := by
  have hfield : (ofField name).optional.evaluate atlas m = .ok _ :=
    evaluate_optional (evaluate_ofField h)
  cases t? with
  | none => exact evaluate_push_of_none hfield rfl
  | some t => exact evaluate_push hfield rfl rfl

/-- The path to the low temperature has the temperature of the low transition, if there is one. -/
@[simp] theorem evaluate_lowTemperature : lowTemperature.evaluate atlas m =
    .ok (Value.ofQuantity? (m.element.lowTransition.map (·.temperature))) :=
  evaluate_temperature rfl

/-- The path to the high temperature has the temperature of the high transition, if there is one. -/
@[simp] theorem evaluate_highTemperature : highTemperature.evaluate atlas m =
    .ok (Value.ofQuantity? (m.element.highTransition.map (·.temperature))) :=
  evaluate_temperature rfl

end Attribute

end ElementAtlas
