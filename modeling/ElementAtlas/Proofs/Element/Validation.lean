import ElementAtlas.Proofs.Element.RoundTrip

/-!
# Which records are accepted

What the reader of records asks of a record is a list of checks in the order in which the fields are
read (`Record.checks`): a field is required or may be absent, and has a type, or is the name of a
state. The byproduct of a transition is only checked where the transition has a temperature and a
target. A reader `Performs` some checks if its error is that of the first of them that fails. A
chain of readers performs the checks of its links, one after another (`Performs.bind`), and reading
quantities adds nothing to them, since the units of records are parsed and kelvin are converted
whatever the numbers are. So the reader of records performs its checks and does nothing else
(`performs_ofRecord`), which is to say that it accepts the records that are `Accepted`.

What is read depends only on the fields that are checked (`Record.ofRecord_congr`).
-/

namespace ElementAtlas

variable {α : Type}

/-! ## Fields -/

namespace Json.Fields

/-- The value that a field is given. A null gives none. -/
def given? (fields : Json.Fields α) (name : String) : Option (Json α) :=
  match fields.get? name with
  | some .null => none
  | value? => value?

/-- The field is absent, or it is null. -/
def Lacks (fields : Json.Fields α) (name : String) : Prop :=
  fields.get? name = none ∨ fields.get? name = some .null

/-- The field is of a type. -/
def Holds (fields : Json.Fields α) (name : String) : FieldType → Prop
  | .number => ∃ n, fields.get? name = some (.number n)
  | .string => ∃ s, fields.get? name = some (.string s)

/-- The field is absent, null or of a type. -/
def MayHold (fields : Json.Fields α) (name : String) (type : FieldType) : Prop :=
  fields.Lacks name ∨ fields.Holds name type

end Json.Fields

/-! ## Checks -/

/-- Whether a value is of a type. -/
def FieldType.admits : FieldType → Json α → Bool
  | .number, .number _ => true
  | .string, .string _ => true
  | _, _ => false

/-- What is asked of a field. -/
inductive Requirement where
  | required (type : FieldType)
  | optional (type : FieldType)
  | state

/-- What is wrong with the value that a field is given, if anything is. -/
def Requirement.fault? (field : String) : Requirement → Option (Json α) → Option RecordError
  | .optional _, none => none
  | .required _, none | .state, none => some (.missing field)
  | .optional type, some value | .required type, some value =>
    if type.admits value then none else some (.wrongType field type)
  | .state, some (.string name) =>
    if (State.ofName? name).isSome then none else some (.unknownState name)
  | .state, some _ => some (.wrongType field .string)

/-- A requirement on one field of a record. -/
structure Check where
  field : String
  requirement : Requirement

/-- What is wrong with the field that a check is about, if anything is. -/
def Check.fault? (fields : Json.Fields α) (check : Check) : Option RecordError :=
  check.requirement.fault? check.field (fields.given? check.field)

namespace Record

/-- The numbers that every record has to give, in the order in which they are read. -/
def requiredNumbers : List String :=
  ["specificHeatCapacity", "thermalConductivity", "molarMass", "radiationAbsorptionFactor",
    "radiationPer1000Mass"]

/-- The record gives both a temperature and a target for the transition on one side. -/
def givesTransition (fields : Json.Fields α) (side : Side) : Bool :=
  (fields.given? (TransitionField.temperature.name side)).isSome &&
    (fields.given? (TransitionField.target.name side)).isSome

/-- The checks of the transition on one side. -/
def transitionChecks (fields : Json.Fields α) (side : Side) : List Check :=
  ⟨TransitionField.temperature.name side, .optional .number⟩ ::
  ⟨TransitionField.target.name side, .optional .string⟩ ::
  if givesTransition fields side then
    [⟨TransitionField.byproductRatio.name side, .optional .number⟩,
      ⟨TransitionField.byproduct.name side, .optional .string⟩]
  else []

/-- The checks of a record, in the order in which its fields are read. -/
def checks (fields : Json.Fields α) : List Check :=
  ⟨"elementId", .required .string⟩ :: ⟨"localizationID", .required .string⟩ ::
  ⟨"state", .state⟩ ::
  (requiredNumbers.map (⟨·, .required .number⟩) ++ ⟨"maxMass", .optional .number⟩ ::
  (transitionChecks fields .low ++ transitionChecks fields .high))

/-- The error of the first check that fails. -/
def firstFault? (fields : Json.Fields α) : Option RecordError :=
  (checks fields).findSome? (·.fault? fields)

/-- What a record has to be like. -/
structure Accepted (fields : Json.Fields α) : Prop where
  name : fields.Holds "elementId" .string
  displayName : fields.Holds "localizationID" .string
  state : ∃ state : State, fields.get? "state" = some (.string state.name)
  requiredNumbers : ∀ field ∈ requiredNumbers, fields.Holds field .number
  maxMass : fields.MayHold "maxMass" .number
  temperature : ∀ side, fields.MayHold (TransitionField.temperature.name side) .number
  target : ∀ side, fields.MayHold (TransitionField.target.name side) .string
  byproduct : ∀ side, ¬ fields.Lacks (TransitionField.temperature.name side) →
    ¬ fields.Lacks (TransitionField.target.name side) →
    fields.MayHold (TransitionField.byproductRatio.name side) .number ∧
      fields.MayHold (TransitionField.byproduct.name side) .string

/-! ## Checks that pass -/

variable {fields : Json.Fields α} {field : String} {type : FieldType}

/-- A field is given no value if the record lacks it. -/
@[simp] theorem given?_eq_none_iff : fields.given? field = none ↔ fields.Lacks field := by
  unfold Json.Fields.given? Json.Fields.Lacks
  split <;> simp_all

/-- A required field has no fault if it holds a value of its type. -/
@[simp] theorem fault?_required_iff :
    Check.fault? fields ⟨field, .required type⟩ = none ↔ fields.Holds field type := by
  unfold Check.fault? Json.Fields.given? Json.Fields.Holds
  rcases hvalue : fields.get? field with _ | _ | _ | _ | _ | _ | _ <;> cases type <;>
    simp [Requirement.fault?, FieldType.admits]

/-- An optional field has no fault if the record lacks it or it holds a value of its type. -/
@[simp] theorem fault?_optional_iff :
    Check.fault? fields ⟨field, .optional type⟩ = none ↔ fields.MayHold field type := by
  unfold Check.fault? Json.Fields.given? Json.Fields.MayHold Json.Fields.Lacks Json.Fields.Holds
  rcases hvalue : fields.get? field with _ | _ | _ | _ | _ | _ | _ <;> cases type <;>
    simp [Requirement.fault?, FieldType.admits]

/-- A name is that of a state if a state has it. -/
theorem exists_ofName?_iff {name : String} :
    (∃ state, State.ofName? name = some state) ↔ ∃ state : State, name = state.name := by
  refine ⟨fun ⟨state, hstate⟩ => ⟨state, ?_⟩, ?_⟩
  · simpa [eq_comm] using List.find?_some hstate
  · rintro ⟨state, rfl⟩
    exact ⟨state, State.ofName?_name state⟩

/-- A field for a state has no fault if it holds the name of one. -/
@[simp] theorem fault?_state_iff :
    Check.fault? fields ⟨field, .state⟩ = none ↔
      ∃ state : State, fields.get? field = some (.string state.name) := by
  unfold Check.fault? Json.Fields.given?
  rcases hvalue : fields.get? field with _ | _ | _ | _ | name | _ | _ <;>
    simp [Requirement.fault?, ← exists_ofName?_iff, Option.eq_none_iff_forall_ne_some]

/-- A transition is given if neither its temperature nor its target is lacking. -/
@[simp] theorem givesTransition_iff {side : Side} :
    givesTransition fields side = true ↔
      ¬ fields.Lacks (TransitionField.temperature.name side) ∧
        ¬ fields.Lacks (TransitionField.target.name side) := by
  simp [givesTransition, Option.isSome_iff_ne_none]

/-- The checks of a transition pass if its fields are of their types, those of the byproduct only
where a transition is given. -/
theorem transitionChecks_pass_iff {side : Side} :
    (∀ check ∈ transitionChecks fields side, check.fault? fields = none) ↔
      fields.MayHold (TransitionField.temperature.name side) .number ∧
      fields.MayHold (TransitionField.target.name side) .string ∧
      (¬ fields.Lacks (TransitionField.temperature.name side) →
        ¬ fields.Lacks (TransitionField.target.name side) →
        fields.MayHold (TransitionField.byproductRatio.name side) .number ∧
          fields.MayHold (TransitionField.byproduct.name side) .string) := by
  rw [transitionChecks, List.forall_mem_cons, List.forall_mem_cons, fault?_optional_iff,
    fault?_optional_iff, ← and_imp, ← givesTransition_iff]
  refine and_congr_right fun _ => and_congr_right fun _ => ?_
  cases givesTransition fields side with
  | false => simp
  | true => simp [fault?_optional_iff]

/-- The checks of a record pass if and only if the record is accepted. -/
theorem firstFault?_eq_none_iff : firstFault? fields = none ↔ Accepted fields := by
  rw [firstFault?, List.findSome?_eq_none_iff, checks]
  simp only [List.forall_mem_cons, List.forall_mem_append, List.forall_mem_map,
    fault?_required_iff, fault?_optional_iff, fault?_state_iff, transitionChecks_pass_iff]
  constructor
  · rintro ⟨hname, hdisplayName, hstate, hnumbers, hmass, ⟨hlowTemp, hlowTarget, hlow⟩,
      hhighTemp, hhighTarget, hhigh⟩
    exact ⟨hname, hdisplayName, hstate, hnumbers, hmass, Side.forall_iff.2 ⟨hlowTemp, hhighTemp⟩,
      Side.forall_iff.2 ⟨hlowTarget, hhighTarget⟩, Side.forall_iff.2 ⟨hlow, hhigh⟩⟩
  · intro h
    exact ⟨h.name, h.displayName, h.state, h.requiredNumbers, h.maxMass,
      ⟨h.temperature .low, h.target .low, h.byproduct .low⟩,
      h.temperature .high, h.target .high, h.byproduct .high⟩

/-! ## Readers that perform checks -/

/-- The attempt fails if one of the checks does, with the error of the first one. -/
def Performs {β : Type} (fields : Json.Fields α) (checks : List Check)
    (attempt : Except RecordError β) : Prop :=
  ∀ e, attempt = .error e ↔ checks.findSome? (·.fault? fields) = some e

section
variable {β γ : Type} {x : Except RecordError β} {f : β → Except RecordError γ}
  {l l' : List Check} {check : Check}

/-- A result performs no checks. -/
theorem performs_ok (fields : Json.Fields α) (b : β) : Performs fields [] (.ok b) :=
  fun _ => ⟨nofun, nofun⟩

/-- An attempt performs one check if it fails with the fault of the check. -/
theorem performs_one :
    Performs fields [check] x ↔ ∀ e, x = .error e ↔ check.fault? fields = some e := by
  simp [Performs]

/-- A chain performs the checks of its links, one after another. -/
theorem Performs.bind (hx : Performs fields l x)
    (hf : ∀ b, x = .ok b → Performs fields l' (f b)) : Performs fields (l ++ l') (x >>= f) := by
  intro e
  rw [List.findSome?_append, Attempt.bind_eq_error, hx e]
  cases hfault : l.findSome? (·.fault? fields) with
  | some e' =>
    have herror : x = .error e' := (hx e').2 hfault
    simp [herror]
  | none =>
    cases hvalue : x with
    | error e' =>
      rw [(hx e').1 hvalue] at hfault
      cases hfault
    | ok b => simp [hf b hvalue e]

/-- A chain performs the check of its first link before those of the others. -/
theorem Performs.cons (hx : Performs fields [check] x)
    (hf : ∀ b, x = .ok b → Performs fields l (f b)) : Performs fields (check :: l) (x >>= f) :=
  hx.bind hf

/-- A last link that never fails checks nothing. -/
theorem Performs.bind_ok (hx : Performs fields l x) (hf : ∀ b, ∃ c, f b = .ok c) :
    Performs fields l (x >>= f) := by
  have hchain : Performs fields (l ++ []) (x >>= f) := hx.bind fun b _ => by
    obtain ⟨c, hc⟩ := hf b
    rw [hc]
    exact performs_ok fields c
  rwa [List.append_nil] at hchain

/-- A first link that does not fail checks nothing. -/
theorem Performs.of_ok {b : β} (hx : x = .ok b) (hf : Performs fields l (f b)) :
    Performs fields l (x >>= f) := by
  rwa [Attempt.bind_of_ok hx]

/-- Where no check fails there is a result. -/
theorem Performs.exists_ok_iff (h : Performs fields l x) :
    (∃ b, x = .ok b) ↔ l.findSome? (·.fault? fields) = none := by
  cases x with
  | ok b =>
    refine iff_of_true ⟨b, rfl⟩ (Option.eq_none_iff_forall_ne_some.2 fun e he => ?_)
    cases (h e).2 he
  | error e =>
    rw [(h e).1 rfl]
    exact iff_of_false nofun nofun

end

/-! ## Readers of fields -/

variable [Scalar α]

/-- Reading a number that may be absent performs the check of an optional number. -/
theorem performs_number? (fields : Json.Fields α) (field : String) :
    Performs fields [⟨field, .optional .number⟩] (number? fields field) := by
  rw [performs_one]
  unfold number? Check.fault? Json.Fields.given?
  rcases fields.get? field with _ | _ | _ | _ | _ | _ | _ <;>
    simp [Requirement.fault?, FieldType.admits]

omit [Scalar α] in
/-- Reading a text that may be absent performs the check of an optional text. -/
theorem performs_string? (fields : Json.Fields α) (field : String) :
    Performs fields [⟨field, .optional .string⟩] (string? fields field) := by
  rw [performs_one]
  unfold string? Check.fault? Json.Fields.given?
  rcases fields.get? field with _ | _ | _ | _ | _ | _ | _ <;>
    simp [Requirement.fault?, FieldType.admits]

/-- Reading a number performs the check of a required number. -/
theorem performs_number (fields : Json.Fields α) (field : String) :
    Performs fields [⟨field, .required .number⟩] (number fields field) := by
  rw [performs_one]
  unfold number number? Check.fault? Json.Fields.given?
  rcases fields.get? field with _ | _ | _ | _ | _ | _ | _ <;>
    simp [Requirement.fault?, FieldType.admits, bind, Except.bind, pure, Except.pure, throw,
      throwThe, MonadExceptOf.throw]

omit [Scalar α] in
/-- Reading a text performs the check of a required text. -/
theorem performs_string (fields : Json.Fields α) (field : String) :
    Performs fields [⟨field, .required .string⟩] (string fields field) := by
  rw [performs_one]
  unfold string string? Check.fault? Json.Fields.given?
  rcases fields.get? field with _ | _ | _ | _ | _ | _ | _ <;>
    simp [Requirement.fault?, FieldType.admits, bind, Except.bind, pure, Except.pure, throw,
      throwThe, MonadExceptOf.throw]

omit [Scalar α] in
/-- The name of a state is read as a string, and looked up. -/
theorem performs_state {β : Type} {f : State → Except RecordError β} {l : List Check}
    (hf : ∀ state, Performs fields l (f state)) :
    Performs fields (⟨field, .state⟩ :: l) (do
      let name ← string fields field
      let some state := State.ofName? name | throw (.unknownState name)
      f state) := by
  intro e
  have hrest (state : State) := hf state e
  rw [List.findSome?_cons]
  generalize l.findSome? (·.fault? fields) = rest? at hrest
  unfold string string? Check.fault? Json.Fields.given?
  rcases fields.get? field with _ | _ | _ | _ | name | _ | _ <;>
    simp [Requirement.fault?, bind, Except.bind, pure, Except.pure, throw,
      throwThe, MonadExceptOf.throw]
  cases hstate : State.ofName? name with
  | none => simp
  | some state => simpa using hrest state

/-- A number in a unit that can be parsed is checked to be a number. -/
theorem performs_quantity (fields : Json.Fields α) (field : String) {unit : String}
    {u : PhysicalUnit α} (hunit : PhysicalUnit.parse unit = .ok u) :
    Performs fields [⟨field, .required .number⟩] (quantity fields field unit) := by
  refine (performs_number fields field).bind_ok fun magnitude => ?_
  have hq : Quantity.parse magnitude unit = .ok ⟨magnitude, u⟩ :=
    Attempt.map_eq_ok.2 ⟨u, hunit, rfl⟩
  exact ⟨_, Attempt.mapError_eq_ok.2 hq⟩

/-! ## The reader of records -/

/-- A number is read if and only if its field is given a value. -/
theorem isSome_of_number? {x? : Option α} (h : number? fields field = .ok x?) :
    x?.isSome = (fields.given? field).isSome := by
  unfold number? at h
  unfold Json.Fields.given?
  generalize fields.get? field = value? at h
  rcases value? with _ | _ | _ | _ | _ | _ | _ <;> cases h <;> rfl

omit [Scalar α] in
/-- A text is read if and only if its field is given a value. -/
theorem isSome_of_string? {s? : Option String} (h : string? fields field = .ok s?) :
    s?.isSome = (fields.given? field).isSome := by
  unfold string? at h
  unfold Json.Fields.given?
  generalize fields.get? field = value? at h
  rcases value? with _ | _ | _ | _ | _ | _ | _ <;> cases h <;> rfl

/-- A temperature in kelvin is always converted. -/
theorem exists_celsius (magnitude : α) :
    ∃ kelvin celsius, Quantity.parse magnitude "K" = .ok kelvin ∧
      kelvin.convertTo "degC" = .ok celsius := by
  obtain ⟨kelvin, hkelvin, hmeasures⟩ := Quantity.exists_parse magnitude
    (KnownUnit.spelled rfl rfl rfl : Spelled α "K" .ofTemperature true)
  obtain ⟨celsius, hcelsius, -⟩ := Quantity.exists_convertTo hmeasures
    (KnownUnit.spelled rfl rfl rfl : Spelled α "degC" .ofTemperature true)
  exact ⟨kelvin, celsius, hkelvin, hcelsius⟩

/-- Reading a transition performs the checks of its side. -/
theorem performs_transition (fields : Json.Fields α) (side : Side) :
    Performs fields (transitionChecks fields side) (Transition.ofRecord fields side) := by
  refine .cons (performs_number? _ _) fun temperature? htemperature => ?_
  refine .cons (performs_string? _ _) fun target? htarget => ?_
  have hgives : givesTransition fields side = (temperature?.isSome && target?.isSome) := by
    rw [isSome_of_number? htemperature, isSome_of_string? htarget]
    rfl
  rw [hgives]
  cases temperature? with
  | none => exact performs_ok fields _
  | some magnitude =>
    cases target? with
    | none => exact performs_ok fields _
    | some targetName =>
      obtain ⟨kelvin, celsius, hkelvin, hcelsius⟩ := exists_celsius magnitude
      refine .of_ok (Attempt.mapError_eq_ok.2 hkelvin) ?_
      refine .of_ok (Attempt.mapError_eq_ok.2 hcelsius) ?_
      refine .cons (performs_number? _ _) fun ratio? _ => ?_
      exact (performs_string? _ _).bind_ok fun byproduct? => ⟨_, rfl⟩

/-- The reader of records performs the checks of records, and nothing else can fail. -/
theorem performs_ofRecord (fields : Json.Fields α) :
    Performs fields (checks fields) (Definition.ofRecord fields) := by
  refine .cons (performs_string _ _) fun name _ => ?_
  refine .cons (performs_string _ _) fun displayName _ => ?_
  refine performs_state fun state => ?_
  obtain ⟨_, hcapacity, -⟩ := spelled_heatCapacity (α := α)
  obtain ⟨_, hconductivity, -⟩ := spelled_conductivity (α := α)
  obtain ⟨_, hmolarMass, -⟩ := spelled_molarMass (α := α)
  obtain ⟨_, hplain, -⟩ :=
    (KnownUnit.spelled rfl rfl rfl : Spelled α "dimensionless" .dimensionless false)
  obtain ⟨_, hradioactivity, -⟩ := spelled_radioactivity (α := α)
  obtain ⟨mass, hmass, -⟩ := (KnownUnit.spelled rfl rfl rfl : Spelled α "kg" .ofMass false)
  refine .cons (performs_quantity _ _ hcapacity) fun capacity _ => ?_
  refine .cons (performs_quantity _ _ hconductivity) fun conductivity _ => ?_
  refine .cons (performs_quantity _ _ hmolarMass) fun molarMass _ => ?_
  refine .cons (performs_quantity _ _ hplain) fun absorption _ => ?_
  refine .cons (performs_quantity _ _ hradioactivity) fun radioactivity _ => ?_
  refine .cons (performs_number? _ _) fun maxMass? _ => ?_
  obtain ⟨massPerTile?, hmassPerTile⟩ : ∃ mass?, Quantity.parse? maxMass? "kg" = .ok mass? := by
    cases maxMass? with
    | none => exact ⟨none, rfl⟩
    | some maxMass =>
      refine ⟨some ⟨maxMass, mass⟩, ?_⟩
      rw [Quantity.parse?, Quantity.parse, hmass]
      rfl
  refine .of_ok (Attempt.mapError_eq_ok.2 hmassPerTile) ?_
  refine (performs_transition fields .low).bind fun low? _ => ?_
  exact (performs_transition fields .high).bind_ok fun high? => ⟨_, rfl⟩

/-! ## What is not checked -/

omit [Scalar α] in
/-- A check fails for its field, or for a state that there is not. -/
theorem error_of_fault? {check : Check} {e : RecordError} (h : check.fault? fields = some e) :
    e = .missing check.field ∨ (∃ type, e = .wrongType check.field type) ∨
      ∃ name, e = .unknownState name := by
  obtain ⟨field, requirement⟩ := check
  have hfault : requirement.fault? field (fields.given? field) = some e := h
  generalize fields.given? field = value? at hfault
  revert hfault
  fun_cases Requirement.fault? field requirement value? <;> simp +contextual [eq_comm]

omit [Scalar α] in
/-- No check is about quantities. -/
theorem firstFault?_ne_quantity (fields : Json.Fields α) (cause : QuantityError) :
    firstFault? fields ≠ some (.quantity cause) := by
  intro h
  obtain ⟨check, -, hfault⟩ := List.exists_of_findSome?_eq_some h
  obtain heq | ⟨type, heq⟩ | ⟨name, heq⟩ := error_of_fault? hfault
  · cases heq
  · cases heq
  · cases heq

section
variable {fields' : Json.Fields α}

/-- A number that may be absent is read from its field only. -/
theorem number?_congr (h : fields'.get? field = fields.get? field) :
    number? fields' field = number? fields field := by
  rw [number?, number?, h]

omit [Scalar α] in
/-- A text that may be absent is read from its field only. -/
theorem string?_congr (h : fields'.get? field = fields.get? field) :
    string? fields' field = string? fields field := by
  rw [string?, string?, h]

/-- A quantity is read from its field only. -/
theorem quantity_congr (h : fields'.get? field = fields.get? field) (unit : String) :
    quantity fields' field unit = quantity fields field unit := by
  rw [quantity, quantity, number, number, number?_congr h]

omit [Scalar α] in
/-- A text is read from its field only. -/
theorem string_congr (h : fields'.get? field = fields.get? field) :
    string fields' field = string fields field := by
  rw [string, string, string?_congr h]

/-- A transition does not depend on the fields that are not checked, so not on those of a byproduct
where there is none. -/
theorem transition_congr {side : Side}
    (h : ∀ check ∈ transitionChecks fields side,
      fields'.get? check.field = fields.get? check.field) :
    Transition.ofRecord fields' side = Transition.ofRecord fields side := by
  rw [transitionChecks, List.forall_mem_cons, List.forall_mem_cons] at h
  obtain ⟨htemperature, htarget, hbyproduct⟩ := h
  rw [Transition.ofRecord, Transition.ofRecord, number?_congr htemperature, string?_congr htarget]
  refine Attempt.bind_congr fun temperature? htemperature? => ?_
  refine Attempt.bind_congr fun target? htarget? => ?_
  cases temperature? with
  | none => rfl
  | some magnitude =>
    cases target? with
    | none => rfl
    | some targetName =>
      have hgives : givesTransition fields side = true := by
        rw [givesTransition, ← isSome_of_number? htemperature?, ← isSome_of_string? htarget?]
        rfl
      rw [hgives] at hbyproduct
      simp only [if_true, List.forall_mem_cons] at hbyproduct
      rw [number?_congr hbyproduct.1, string?_congr hbyproduct.2.1]

/-- A definition does not depend on the fields that are not checked. -/
theorem ofRecord_congr
    (h : ∀ check ∈ checks fields, fields'.get? check.field = fields.get? check.field) :
    Definition.ofRecord fields' = Definition.ofRecord fields := by
  simp only [checks, List.forall_mem_cons, List.forall_mem_append, List.forall_mem_map] at h
  obtain ⟨hname, hdisplayName, hstate, hnumbers, hmass, hlow, hhigh⟩ := h
  have hnumber (field unit : String) (hfield : field ∈ requiredNumbers) :
      quantity fields' field unit = quantity fields field unit :=
    quantity_congr (hnumbers field hfield) unit
  simp only [Definition.ofRecord, string_congr hname, string_congr hdisplayName,
    string_congr hstate, hnumber "specificHeatCapacity" _ (by decide),
    hnumber "thermalConductivity" _ (by decide), hnumber "molarMass" _ (by decide),
    hnumber "radiationAbsorptionFactor" _ (by decide),
    hnumber "radiationPer1000Mass" _ (by decide), number?_congr hmass, transition_congr hlow,
    transition_congr hhigh]

end

end Record

/-! ## Units -/

variable [Scalar α]

/-- Every quantity is in the unit that is fixed for its field, and the temperatures of transitions
are absolute and in degrees Celsius. -/
structure Definition.InFixedUnits (d : Definition α) : Prop where
  specificHeatCapacity :
    PhysicalUnit.parse RecordUnits.standard.specificHeatCapacity = .ok d.specificHeatCapacity.unit
  thermalConductivity :
    PhysicalUnit.parse RecordUnits.standard.thermalConductivity = .ok d.thermalConductivity.unit
  molarMass : PhysicalUnit.parse RecordUnits.standard.molarMass = .ok d.molarMass.unit
  radiationAbsorption :
    PhysicalUnit.parse RecordUnits.standard.radiationAbsorption = .ok d.radiationAbsorption.unit
  radioactivity : PhysicalUnit.parse RecordUnits.standard.radioactivity = .ok d.radioactivity.unit
  massPerTile : ∀ mass, d.massPerTile = some mass →
    PhysicalUnit.parse RecordUnits.standard.mass = .ok mass.unit
  temperature : ∀ side t, d.transition? side = some t →
    PhysicalUnit.parse "degC" = .ok t.temperature.unit ∧ t.temperature.isAbsolute = true

/-- A quantity that is read from a record is in the unit of its field. -/
theorem Record.parse_unit_of_quantity {fields : Json.Fields α} {field unit : String}
    {q : Quantity α} (h : quantity fields field unit = .ok q) :
    PhysicalUnit.parse unit = .ok q.unit := by
  obtain ⟨magnitude, -, h⟩ := Attempt.bind_eq_ok.1 h
  exact Quantity.parse_unit (Attempt.mapError_eq_ok.1 h)

/-- A definition that is read from a record is in the fixed units. -/
theorem Definition.ReadFrom.inFixedUnits {fields : Json.Fields α} {d : Definition α}
    (h : d.ReadFrom fields) : d.InFixedUnits where
  specificHeatCapacity := Record.parse_unit_of_quantity h.specificHeatCapacity
  thermalConductivity := Record.parse_unit_of_quantity h.thermalConductivity
  molarMass := Record.parse_unit_of_quantity h.molarMass
  radiationAbsorption := Record.parse_unit_of_quantity h.radiationAbsorption
  radioactivity := Record.parse_unit_of_quantity h.radioactivity
  massPerTile mass hmass := by
    obtain ⟨maxMass?, -, hparse⟩ := h.massPerTile
    obtain ⟨maxMass, -, hparsed⟩ := Quantity.parse?_eq_some (hmass ▸ hparse)
    exact Quantity.parse_unit hparsed
  temperature side t ht := by
    have hread := ht ▸ h.transitions side
    obtain ⟨_, _, -, -, hcelsius⟩ := (Transition.ofRecord_eq_some_iff.1 hread).temperature
    exact ⟨Quantity.parse_unit_of_convertTo hcelsius,
      (Transition.measures_of_ofRecord hread).isAbsolute⟩

end ElementAtlas
