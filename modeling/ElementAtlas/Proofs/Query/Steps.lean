import ElementAtlas.Proofs.Attempt
import ElementAtlas.Query.Attribute

/-!
# Single steps

What a step leads to, and why it may fail. A field is a plain value, a transition of the element, an
element that the transition refers to, or a method of the value; the result of a call is always
plain. A step fails because there is no such field, nothing to call or no fitting
argument, because of a quantity, or because a transition refers to no element of the atlas
(`StepResult`, `StepFault`).
-/

namespace ElementAtlas

variable {α : Type}

/-- The transition refers to a place, as its target or its byproduct. -/
def Transition.RefersTo (t : Transition α ElementId) (id : ElementId) : Prop :=
  t.target = id ∨ t.byproduct = some id

namespace Value

/-- The value holds no part of an atlas and no method. -/
inductive Plain : Value α → Prop
  | none : Plain .none
  | bool (b : Bool) : Plain (.bool b)
  | number (x : α) : Plain (.number x)
  | text (s : String) : Plain (.text s)
  | state (s : State) : Plain (.state s)
  | quantity (q : Quantity α) : Plain (.quantity q)

/-- A quantity that may be absent is plain. -/
theorem plain_ofQuantity? (q? : Option (Quantity α)) : Plain (ofQuantity? q?) := by
  cases q? with
  | none => exact .none
  | some q => exact .quantity q

/-- The names of the methods of a value. -/
def methods : Value α → List String
  | quantity _ => ["to", "to_base_units", "to_delta"]
  | element _ => ["heat_energy", "temperature_change"]
  | text _ => ["contains", "starts_with", "ends_with"]
  | _ => []

/-- What a field of a value can be. -/
inductive Field (atlas : Atlas α) (name : String) : Value α → Value α → Prop
  | plain {v w : Value α} : Plain w → Field atlas name v w
  | transition {m : Member α} {side : Side} {t : Transition α ElementId} :
      m.element.transition? side = some t → Field atlas name (.element m) (.transition m.id side t)
  | element {owner : ElementId} {side : Side} {t : Transition α ElementId} {m : Member α} :
      t.RefersTo m.id → atlas.get? m.id = some m →
      Field atlas name (.transition owner side t) (.element m)
  | method {v : Value α} : name ∈ v.methods → Field atlas name v (.method v name)

/-- Why a value has no field. -/
inductive FieldFault (atlas : Atlas α) (name : String) : Value α → QueryError → Prop
  | unknown {v : Value α} : FieldFault atlas name v (.noSuchField v.kind name)
  | quantity {v : Value α} (cause : QuantityError) : FieldFault atlas name v (.quantity cause)
  | dangling {owner : ElementId} {side : Side} {t : Transition α ElementId} {id : ElementId} :
      t.RefersTo id → atlas.get? id = Option.none →
      FieldFault atlas name (.transition owner side t) (.danglingElement id.index)

/-- Why a method of a value has no result. -/
inductive CallFault (method : String) : Value α → QueryError → Prop
  | arguments {v : Value α} (fault : ArgumentFault) :
      CallFault method v (.badArguments method fault)
  | quantity {v : Value α} (cause : QuantityError) : CallFault method v (.quantity cause)
  | unknown {v : Value α} : method ∉ v.methods → CallFault method v (.notCallable v.kind)

/-- The outcome of looking a field up is one that a field can have. -/
def FieldOutcome (atlas : Atlas α) (name : String) (v : Value α) :
    Except QueryError (Value α) → Prop
  | .ok w => Field atlas name v w
  | .error e => FieldFault atlas name v e

/-- The outcome of a call is one that a method can have. -/
def CallOutcome (method : String) (v : Value α) : Except QueryError (Value α) → Prop
  | .ok w => Plain w
  | .error e => CallFault method v e

/-- A place has a value if there is an element, and this is the value. -/
@[simp] theorem valueAt_eq_ok {atlas : Atlas α} {id : ElementId} {v : Value α} :
    atlas.valueAt id = .ok v ↔ ∃ m, atlas.get? id = some m ∧ v = .element m := by
  unfold Atlas.valueAt
  cases atlas.get? id <;> simp [eq_comm]

/-- A place has no value if there is no element. -/
@[simp] theorem valueAt_eq_error {atlas : Atlas α} {id : ElementId} {e : QueryError} :
    atlas.valueAt id = .error e ↔
      atlas.get? id = Option.none ∧ e = .danglingElement id.index := by
  unfold Atlas.valueAt
  cases atlas.get? id <;> simp [eq_comm]

/-- The element at a place is a member with this place. -/
theorem id_eq_of_get? {atlas : Atlas α} {id : ElementId} {m : Member α}
    (h : atlas.get? id = some m) : m.id = id := by
  obtain ⟨e, -, rfl⟩ := Option.map_eq_some_iff.1 h
  rfl

/-- The value of a place that a transition refers to is a field of the transition. -/
theorem outcome_valueAt {atlas : Atlas α} {owner : ElementId} {side : Side}
    {t : Transition α ElementId} {id : ElementId} (name : String) (h : t.RefersTo id) :
    FieldOutcome atlas name (.transition owner side t) (atlas.valueAt id) := by
  cases hvalue : atlas.valueAt id with
  | ok v =>
    obtain ⟨m, hm, rfl⟩ := valueAt_eq_ok.1 hvalue
    cases id_eq_of_get? hm
    exact .element h hm
  | error e =>
    obtain ⟨hnone, rfl⟩ := valueAt_eq_error.1 hvalue
    exact .dangling h hnone

/-- A transition that an element may have, as a field of the element. -/
theorem field_transition {atlas : Atlas α} {m : Member α} (side : Side) (name : String) :
    Field atlas name (.element m)
      (((m.element.transition? side).map (.transition m.id side)).getD .none) := by
  cases h : m.element.transition? side with
  | none => exact .plain .none
  | some t => exact .transition h

/-- A quantity that may be absent is an outcome of a field, and so is what keeps it from being
computed. -/
theorem outcome_quantity? {atlas : Atlas α} {v : Value α} (name : String)
    (r : Except QuantityError (Option (Quantity α))) :
    FieldOutcome atlas name v ((QueryError.ofQuantity r).map ofQuantity?) := by
  cases r with
  | ok q? => exact .plain (plain_ofQuantity? q?)
  | error cause => exact .quantity cause

/-- A plain value that may be absent is plain. -/
theorem plain_getD_map {β : Type} {f : β → Value α} (hf : ∀ b, Plain (f b)) (b? : Option β) :
    Plain ((b?.map f).getD .none) := by
  cases b? with
  | none => exact .none
  | some b => exact hf b

/-- Looking a field of a transition up has one of the outcomes of fields. -/
theorem outcome_transitionField {atlas : Atlas α} (owner : ElementId) (side : Side)
    (t : Transition α ElementId) (name : String) :
    FieldOutcome atlas name (.transition owner side t) (transitionField atlas t name) := by
  unfold transitionField
  split
  case h_1 => exact .plain (.quantity _)
  case h_2 => exact outcome_valueAt _ (.inl rfl)
  case h_3 => exact .plain (.text _)
  case h_4 =>
    cases h : t.byproduct with
    | none => exact .plain .none
    | some id => exact outcome_valueAt _ (.inr h)
  case h_5 => exact .plain (plain_getD_map .text _)
  case h_6 => exact .plain (plain_getD_map .number _)
  case h_7 => exact .unknown

variable [Scalar α]

/-- Looking a field of an element up has one of the outcomes of fields. -/
theorem outcome_elementField {atlas : Atlas α} (m : Member α) (name : String) :
    FieldOutcome atlas name (.element m) (elementField m name) := by
  unfold elementField
  dsimp only
  split
  case h_1 | h_2 => exact .plain (.text _)
  case h_3 => exact .plain (.state _)
  case h_4 | h_5 | h_6 | h_7 | h_8 => exact .plain (.quantity _)
  case h_9 => exact .plain (plain_ofQuantity? _)
  case h_10 => exact field_transition .low _
  case h_11 => exact field_transition .high _
  case h_12 | h_13 => exact outcome_quantity? _ _
  case h_14 | h_15 => exact .method (by simp [methods])
  case h_16 => exact .unknown

/-- Every field that a value has, and every fault of one that it does not have. -/
theorem outcome_field (atlas : Atlas α) (v : Value α) (name : String) :
    FieldOutcome atlas name v (v.field atlas name) := by
  unfold field
  split
  · exact outcome_elementField _ _
  · exact outcome_transitionField _ _ _ _
  · split
    case h_1 | h_2 => exact .plain (.number _)
    case h_3 | h_4 => exact .plain (.text _)
    case h_5 | h_6 | h_7 => exact .method (by simp [methods])
    case h_8 => exact .unknown
  · split
    case h_1 => exact .plain (.text _)
    case h_2 => exact .unknown
  · split
    case h_1 => exact .plain (.number _)
    case h_2 | h_3 | h_4 => exact .method (by simp [methods])
    case h_5 => exact .unknown
  · split
    case h_1 => exact .plain (.number _)
    case h_2 => exact .unknown
  · exact .unknown

/-! ## Calls -/

omit [Scalar α] in
/-- Arguments that are not bound are reported with the method. -/
theorem fault_of_argumentsOf {n : Nat} {method : String} {arguments : Arguments α}
    {parameters : Vector String n} {e : QueryError}
    (h : argumentsOf method arguments parameters = .error e) :
    ∃ fault, e = .badArguments method fault := by
  obtain ⟨fault, -, rfl⟩ := Attempt.mapError_eq_error.1 h
  exact ⟨fault, rfl⟩

/-- A text argument that is not there is reported with the method. -/
theorem fault_of_textArgument {method parameter : String} {arguments : Arguments α}
    {e : QueryError} (h : textArgument method parameter arguments = .error e) :
    ∃ fault, e = .badArguments method fault := by
  rcases Attempt.bind_eq_error.1 h with h | ⟨_, -, h⟩
  · exact fault_of_argumentsOf h
  · obtain ⟨fault, -, rfl⟩ := Attempt.mapError_eq_error.1 h
    exact ⟨fault, rfl⟩

/-- Quantity arguments that are not there are reported with the method. -/
theorem fault_of_quantityArguments {method first second : String} {arguments : Arguments α}
    {e : QueryError} (h : quantityArguments method first second arguments = .error e) :
    ∃ fault, e = .badArguments method fault := by
  rcases Attempt.bind_eq_error.1 h with h | ⟨_, -, h⟩
  · exact fault_of_argumentsOf h
  rcases Attempt.bind_eq_error.1 h with h | ⟨_, -, h⟩
  · obtain ⟨fault, -, rfl⟩ := Attempt.mapError_eq_error.1 h
    exact ⟨fault, rfl⟩
  rcases Attempt.bind_eq_error.1 h with h | ⟨_, -, h⟩
  · obtain ⟨fault, -, rfl⟩ := Attempt.mapError_eq_error.1 h
    exact ⟨fault, rfl⟩
  · cases h

omit [Scalar α] in
/-- A method that reads its arguments first and then has a plain result or fails with a quantity. -/
theorem callOutcome_bind {β : Type} {method : String} {v : Value α}
    {read : Except QueryError β} {run : β → Except QueryError (Value α)}
    (hread : ∀ e, read = .error e → ∃ fault, e = .badArguments method fault)
    (hrun : ∀ b, CallOutcome method v (run b)) : CallOutcome method v (read >>= run) := by
  cases h : read with
  | ok b => exact hrun b
  | error e =>
    obtain ⟨fault, rfl⟩ := hread e h
    exact .arguments fault

omit [Scalar α] in
/-- A quantity is an outcome of a call, and so is what keeps it from being computed. -/
theorem callOutcome_quantity {method : String} {v : Value α}
    (r : Except QuantityError (Quantity α)) :
    CallOutcome method v ((QueryError.ofQuantity r).map .quantity) := by
  cases r with
  | ok q => exact Plain.quantity q
  | error cause => exact CallFault.quantity cause

/-- Calling a method of a value has one of the outcomes of calls. -/
theorem outcome_callMethod (v : Value α) (method : String) (arguments : Arguments α) :
    CallOutcome method v (callMethod v method arguments) := by
  unfold callMethod
  split
  case h_1 =>
    exact callOutcome_bind (fun _ => fault_of_textArgument) fun _ => callOutcome_quantity _
  case h_2 | h_3 =>
    exact callOutcome_bind (fun _ => fault_of_argumentsOf) fun _ => Plain.quantity _
  case h_4 | h_5 =>
    exact callOutcome_bind (fun _ => fault_of_quantityArguments) fun _ => callOutcome_quantity _
  case h_6 | h_7 | h_8 =>
    exact callOutcome_bind (fun _ => fault_of_textArgument) fun _ => Plain.bool _
  case h_9 hto hbase hdelta hheat hchange hcontains hbegins hends =>
    refine CallFault.unknown fun hmem => ?_
    cases v with
    | quantity q =>
      simp only [methods, List.mem_cons, List.not_mem_nil, or_false] at hmem
      rcases hmem with rfl | rfl | rfl
      · exact hto q rfl rfl
      · exact hbase q rfl rfl
      · exact hdelta q rfl rfl
    | element m =>
      simp only [methods, List.mem_cons, List.not_mem_nil, or_false] at hmem
      rcases hmem with rfl | rfl
      · exact hheat m rfl rfl
      · exact hchange m rfl rfl
    | text s =>
      simp only [methods, List.mem_cons, List.not_mem_nil, or_false] at hmem
      rcases hmem with rfl | rfl | rfl
      · exact hcontains s rfl rfl
      · exact hbegins s rfl rfl
      · exact hends s rfl rfl
    | _ => cases hmem

end Value

/-! ## Steps -/

/-- Why a step cannot be taken from a value. -/
inductive StepFault (atlas : Atlas α) : Value α → Step α → QueryError → Prop
  | field {v : Value α} {name : String} {e : QueryError} :
      Value.FieldFault atlas name v e → StepFault atlas v (.field name) e
  | method {receiver : Value α} {method : String} {arguments : Arguments α} {e : QueryError} :
      Value.CallFault method receiver e →
      StepFault atlas (.method receiver method) (.call arguments) e
  | notMethod {v : Value α} {arguments : Arguments α} : v.kind ≠ .method →
      StepFault atlas v (.call arguments) (.notCallable v.kind)

/-- What a step from a value can lead to. -/
inductive StepResult (atlas : Atlas α) : Value α → Step α → Value α → Prop
  | field {v w : Value α} {name : String} :
      Value.Field atlas name v w → StepResult atlas v (.field name) w
  | method {receiver w : Value α} {method : String} {arguments : Arguments α} :
      w.Plain → StepResult atlas (.method receiver method) (.call arguments) w

/-- The errors that steps fail with. -/
inductive QueryError.OfStep : QueryError → Prop
  | noSuchField (kind : ValueKind) (field : String) : OfStep (.noSuchField kind field)
  | notCallable (kind : ValueKind) : OfStep (.notCallable kind)
  | badArguments (method : String) (fault : ArgumentFault) : OfStep (.badArguments method fault)
  | quantity (cause : QuantityError) : OfStep (.quantity cause)
  | danglingElement (index : Nat) : OfStep (.danglingElement index)

/-- The faults of a step are errors of steps. -/
theorem StepFault.ofStep {atlas : Atlas α} {v : Value α} {step : Step α} {e : QueryError}
    (h : StepFault atlas v step e) : e.OfStep := by
  cases h with
  | field hfault =>
    cases hfault with
    | unknown => exact .noSuchField _ _
    | quantity cause => exact .quantity cause
    | dangling => exact .danglingElement _
  | method hfault =>
    cases hfault with
    | arguments fault => exact .badArguments _ fault
    | quantity cause => exact .quantity cause
    | unknown => exact .notCallable _
  | notMethod => exact .notCallable _

namespace Step

variable [Scalar α] {atlas : Atlas α} {v : Value α} {step : Step α}

/-- A step fails with one of its faults. -/
theorem fault_of_apply {e : QueryError} (h : step.apply atlas v = .error e) :
    StepFault atlas v step e := by
  cases step with
  | field name =>
    have houtcome := v.outcome_field atlas name
    rw [show v.field atlas name = .error e from h] at houtcome
    exact .field houtcome
  | call arguments =>
    have hcall : v.call arguments = .error e := h
    cases v with
    | method receiver method =>
      have houtcome := receiver.outcome_callMethod method arguments
      rw [show receiver.callMethod method arguments = .error e from hcall] at houtcome
      exact .method houtcome
    | _ =>
      cases hcall
      exact .notMethod nofun

/-- A step has one of its results. -/
theorem result_of_apply {w : Value α} (h : step.apply atlas v = .ok w) :
    StepResult atlas v step w := by
  cases step with
  | field name =>
    have houtcome := v.outcome_field atlas name
    rw [show v.field atlas name = .ok w from h] at houtcome
    exact .field houtcome
  | call arguments =>
    have hcall : v.call arguments = .ok w := h
    cases v with
    | method receiver method =>
      have houtcome := receiver.outcome_callMethod method arguments
      rw [show receiver.callMethod method arguments = .ok w from hcall] at houtcome
      exact .method houtcome
    | _ => cases hcall

end Step

end ElementAtlas
