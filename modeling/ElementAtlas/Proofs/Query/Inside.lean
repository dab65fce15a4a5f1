import ElementAtlas.Proofs.Atlas.Resolution
import ElementAtlas.Proofs.Query.OptionalChaining

/-!
# Paths inside an atlas

The elements of an atlas that is made of definitions refer only to each other (`Atlas.Linked`). So a
path that begins at one of them stays in the atlas: every element that it comes to is at its place,
every transition belongs to an element that is, and every method is one that the value it was looked
up on has (`Value.Inside`). Each step preserves this (`Value.Inside.apply`), and along hops it holds
of every value by induction (`Leads.inside`).
-/

namespace ElementAtlas

variable {α : Type}

/-- Every place that a transition of the atlas refers to has an element. -/
def Atlas.Linked (atlas : Atlas α) : Prop :=
  ∀ m side t id, atlas.get? m.id = some m → m.element.transition? side = some t → t.RefersTo id →
    ∃ n, atlas.get? id = some n

/-- A resolved transition refers to elements of the atlas. -/
theorem Transition.ResolvedIn.exists_get? {atlas : Atlas α} {t : Transition α Unit}
    {u : Transition α ElementId} {id : ElementId} (h : t.ResolvedIn atlas u)
    (hid : u.RefersTo id) : ∃ n, atlas.get? id = some n := by
  rcases hid with rfl | hbyproduct
  · obtain ⟨m, hm, -, -⟩ := h.target
    exact ⟨m, hm⟩
  · obtain ⟨_, -, e, he, -⟩ := (h.byproduct id).1 hbyproduct
    rw [Atlas.get?, he]
    exact ⟨⟨id, e⟩, rfl⟩

/-- The atlas of definitions is linked. -/
theorem Atlas.linked_of_ofDefinitions {atlas : Atlas α} {definitions : List (Definition α)}
    {strings : StringTable} (h : ofDefinitions definitions strings = .ok atlas) :
    atlas.Linked := by
  intro m side u id hm hu hid
  obtain ⟨d, -, hd⟩ := (resolves_of_ofDefinitions h).exists_definition hm
  have hrel := hd.transitions side
  rw [hu] at hrel
  generalize d.transition? side = t? at hrel
  cases hrel with
  | some ht => exact ht.exists_get? hid

namespace Value

/-- The value is plain or a part of the atlas: an element at its place, a transition of such an
element, or a method that a value of this kind has. -/
inductive Inside (atlas : Atlas α) : Value α → Prop
  | plain {v : Value α} : Plain v → Inside atlas v
  | element {m : Member α} : atlas.get? m.id = some m → Inside atlas (.element m)
  | transition {m : Member α} {side : Side} {t : Transition α ElementId} :
      atlas.get? m.id = some m → m.element.transition? side = some t →
      Inside atlas (.transition m.id side t)
  | method {receiver : Value α} {name : String} :
      Inside atlas receiver → name ∈ receiver.methods → Inside atlas (.method receiver name)

variable {atlas : Atlas α} {v w : Value α}

/-- A field of a value inside the atlas is inside it. -/
theorem Inside.field {name : String} (hv : v.Inside atlas) (h : Field atlas name v w) :
    w.Inside atlas := by
  cases h with
  | plain hw => exact .plain hw
  | transition ht =>
    cases hv with
    | plain hplain => cases hplain
    | element hm => exact .transition hm ht
  | element _ hm => exact .element hm
  | method hname => exact .method hv hname

/-- In a linked atlas no transition refers to a place without an element. -/
theorem Inside.no_danglingElement {name : String} {index : Nat} (hlinked : atlas.Linked)
    (hv : v.Inside atlas) : ¬ FieldFault atlas name v (.danglingElement index) := by
  intro h
  cases h with
  | dangling hrefers hnone =>
    cases hv with
    | plain hplain => cases hplain
    | transition hm ht =>
      obtain ⟨n, hn⟩ := hlinked _ _ _ _ hm ht hrefers
      rw [hnone] at hn
      cases hn

variable [Scalar α]

/-- The method that a field is can be called: whatever its arguments, a call does not find that the
value has no such method. -/
theorem method_of_field {receiver : Value α} {name method : String}
    (h : v.field atlas name = .ok (.method receiver method)) :
    method ∈ receiver.methods ∧ ∀ arguments kind,
      (Value.method receiver method).call arguments ≠ .error (.notCallable kind) := by
  have hstep : (Step.field name).apply atlas v = .ok (.method receiver method) := h
  have hmethod : method ∈ receiver.methods := by
    cases Step.result_of_apply hstep with
    | field hfield =>
      cases hfield with
      | plain hplain => cases hplain
      | method hname => exact hname
  refine ⟨hmethod, fun arguments kind hcall => ?_⟩
  have hstep : (Step.call arguments).apply atlas (.method receiver method) = .error _ := hcall
  cases Step.fault_of_apply hstep with
  | method hfault =>
    cases hfault with
    | unknown hunknown => exact hunknown hmethod
  | notMethod hkind => exact hkind rfl

/-- A step from inside the atlas leads to a value inside the atlas. -/
theorem Inside.apply {step : Step α} (hv : v.Inside atlas) (h : step.apply atlas v = .ok w) :
    w.Inside atlas := by
  cases Step.result_of_apply h with
  | field hfield => exact hv.field hfield
  | method hplain => exact .plain hplain

/-- A step from inside a linked atlas comes to no place without an element. -/
theorem Inside.apply_ne_danglingElement {step : Step α} (hlinked : atlas.Linked)
    (hv : v.Inside atlas) (index : Nat) :
    step.apply atlas v ≠ .error (.danglingElement index) := by
  intro h
  cases Step.fault_of_apply h with
  | field hfault => exact hv.no_danglingElement hlinked hfault
  | method hfault => cases hfault

/-- A step from inside the atlas finds that a value cannot be called only if it is a call, and the
value is no method. -/
theorem Inside.kind_of_notCallable {step : Step α} {kind : ValueKind} (hv : v.Inside atlas)
    (h : step.apply atlas v = .error (.notCallable kind)) :
    (∃ arguments, step = .call arguments) ∧ v.kind ≠ .method ∧ kind = v.kind := by
  cases Step.fault_of_apply h with
  | field hfault => cases hfault
  | @method _ _ arguments _ hfault =>
    cases hfault with
    | unknown hunknown =>
      cases hv with
      | plain hplain => cases hplain
      | method _ hmethod => exact absurd hmethod hunknown
  | @notMethod _ arguments hkind => exact ⟨⟨arguments, rfl⟩, hkind, rfl⟩

end Value

variable [Scalar α] {atlas : Atlas α}

/-- All values that hops lead to from inside the atlas are inside the atlas. -/
theorem Leads.inside {v w : Value α} {hops : List (Hop α)} (h : Leads atlas v hops w)
    (hv : v.Inside atlas) : w.Inside atlas := by
  induction h with
  | nil => exact hv
  | cons _ hstep _ ih => exact ih (hv.apply hstep)

namespace Attribute

variable {a : Attribute α} {m : Member α}

/-- The values that a path arrives at are inside the atlas. -/
theorem ArrivesAt.inside {before : List (Hop α)} {hop : Hop α} {v : Value α}
    (h : a.ArrivesAt atlas m before hop v) (hroot : a.base = .root)
    (hm : atlas.get? m.id = some m) : v.Inside atlas := by
  obtain ⟨start, hstart, harrives⟩ := h
  rw [hroot] at hstart
  cases hstart
  exact harrives.leads.inside (.element hm)

/-- The value of a path is inside the atlas. -/
theorem inside_of_evaluate {w : Value α} (h : a.evaluate atlas m = .ok w) (hroot : a.base = .root)
    (hm : atlas.get? m.id = some m) : w.Inside atlas := by
  obtain ⟨start, hstart, hend⟩ := evaluate_eq_ok_iff.1 h
  rw [hroot] at hstart
  cases hstart
  rcases hend with hleads | ⟨rfl, -⟩
  · exact hleads.inside (.element hm)
  · exact .plain .none

/-- The errors of a path that begins at the element. -/
theorem error_of_evaluate {e : QueryError} (h : a.evaluate atlas m = .error e)
    (hroot : a.base = .root) :
    a.StepFails atlas m e ∨ ∃ path, e = .missingValue path := by
  rcases evaluate_eq_error_iff.1 h with hbase | hstep | ⟨before, hop, -, rfl⟩
  · rw [hroot] at hbase
    cases hbase
  · exact .inl hstep
  · exact .inr ⟨_, rfl⟩

/-- In a linked atlas no path fails at a place without an element. -/
theorem evaluate_ne_danglingElement (hlinked : atlas.Linked) (hroot : a.base = .root)
    (hm : atlas.get? m.id = some m) (index : Nat) :
    a.evaluate atlas m ≠ .error (.danglingElement index) := by
  intro h
  rcases error_of_evaluate h hroot with ⟨before, hop, v, harrives, -, hstep⟩ | ⟨_, hmissing⟩
  · exact (harrives.inside hroot hm).apply_ne_danglingElement hlinked index hstep
  · cases hmissing

/-- No path fails because values do not compare. -/
theorem evaluate_ne_incomparable (hroot : a.base = .root) (left right : ValueKind) :
    a.evaluate atlas m ≠ .error (.incomparable left right) := by
  intro h
  rcases error_of_evaluate h hroot with hstep | ⟨_, hmissing⟩
  · cases hstep.ofStep
  · cases hmissing

/-- A path finds that a value cannot be called only at a call that it arrives at with a value that
is no method. -/
theorem arrivesAt_of_notCallable {kind : ValueKind}
    (h : a.evaluate atlas m = .error (.notCallable kind)) (hroot : a.base = .root)
    (hm : atlas.get? m.id = some m) :
    ∃ before hop v, a.ArrivesAt atlas m before hop v ∧ (∃ arguments, hop.step = .call arguments) ∧
      v.kind ≠ .method ∧ kind = v.kind := by
  rcases error_of_evaluate h hroot with ⟨before, hop, v, harrives, -, hstep⟩ | ⟨_, hmissing⟩
  · exact ⟨before, hop, v, harrives, (harrives.inside hroot hm).kind_of_notCallable hstep⟩
  · cases hmissing

end Attribute

end ElementAtlas
