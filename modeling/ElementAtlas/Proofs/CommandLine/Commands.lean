import ElementAtlas.CommandLine.Run
import ElementAtlas.Proofs.Atlas.Sample
import ElementAtlas.Proofs.Query.Answers
import ElementAtlas.Proofs.Query.Inside

/-!
# Commands that succeed

Once an atlas has been loaded from a document, no command fails but for what its caller asks: an
element that there is none of, or a search for what is no pattern (`Command.Fault`). All else that a
command does succeeds, since the elements are measured in the units of records and their transitions
lead to elements of the atlas: the derived properties and their conversions (`Element.Answers`), the
reports, the search for stable elements and the sorting of what it finds (`Atlas.Answers`).
-/

namespace ElementAtlas

open CommandLine

variable {α ρ : Type} [Scalar α]

/-! ## What is asked of elements -/

/-- The derived properties of an element, and the conversions that commands make of them, have
values. The density is absent if the mass is, and the diffusivity if the heat capacity is zero. -/
structure Element.Answers (e : Element α ρ) : Prop where
  density : ∃ density?, e.density = .ok density? ∧ (density? = none ↔ e.massPerTile = none) ∧
    ∀ density, density? = some density → ∃ shown, density.convertTo "kg/m^3" = .ok shown
  diffusivity : ∃ diffusivity?, e.thermalDiffusivity = .ok diffusivity? ∧
    (diffusivity? = none ↔ (e.specificHeatCapacity.magnitude == Scalar.ofNat 0) = true) ∧
    ∀ diffusivity, diffusivity? = some diffusivity →
      diffusivity.unit = .linear "m^2/s" (Scalar.ofNat 1) .ofDiffusivity ∧
      ∃ shown, diffusivity.convertTo "mm^2/s" = .ok shown
  heat : ∀ mass interval : α, ∃ kilograms degrees heat shown,
    Quantity.parse mass "kg" = .ok kilograms ∧ Quantity.parse interval "delta_degC" = .ok degrees ∧
    e.heatEnergy degrees kilograms = .ok heat ∧ heat.convertTo "kDTU" = .ok shown

/-- A measured element answers what commands ask of it. -/
theorem Element.Measured.answers {e : Element α ρ} (h : e.Measured) : e.Answers where
  density := by
    obtain ⟨density?, hdensity, hnone, hkind⟩ := h.exists_density
    refine ⟨density?, hdensity, hnone, fun density hsome => ?_⟩
    obtain ⟨shown, hshown, -⟩ := Quantity.exists_convertTo (hkind density hsome) spelled_density
    exact ⟨shown, hshown⟩
  diffusivity := by
    obtain ⟨diffusivity?, hdiffusivity, hnone, hbase⟩ := h.exists_thermalDiffusivity
    refine ⟨diffusivity?, hdiffusivity, hnone, fun diffusivity hsome => ?_⟩
    have hunit : diffusivity.unit = .linear "m^2/s" (Scalar.ofNat 1) .ofDiffusivity :=
      hbase diffusivity hsome
    have hkind : diffusivity.unit.Measures .ofDiffusivity false :=
      hunit ▸ PhysicalUnit.measures_linear _ _ _
    obtain ⟨shown, hshown, -⟩ := Quantity.exists_convertTo hkind spelled_diffusivity
    exact ⟨hunit, shown, hshown⟩
  heat := by
    intro mass interval
    have hkilogram : Spelled α "kg" .ofMass false := KnownUnit.spelled rfl rfl rfl
    have hdegree : Spelled α "delta_degC" .ofTemperature false := KnownUnit.spelled rfl rfl rfl
    have hkilodtu : Spelled α "kDTU" .energy false := KnownUnit.spelled rfl rfl rfl
    obtain ⟨kilograms, hkilograms, hmassKind⟩ := Quantity.exists_parse mass hkilogram
    obtain ⟨degrees, hdegrees, hintervalKind⟩ := Quantity.exists_parse interval hdegree
    obtain ⟨heat, hheat, hheatKind⟩ := h.exists_heatEnergy hintervalKind hmassKind
    obtain ⟨shown, hshown, -⟩ := Quantity.exists_convertTo hheatKind hkilodtu
    exact ⟨kilograms, degrees, heat, shown, hkilograms, hdegrees, hheat, hshown⟩

/-! ## What is asked of atlases -/

/-- What commands ask of an atlas has an answer: its elements have their derived properties and the
targets of their transitions, any selection of them has a report, any two of them compare by their
conductivities, and by these the elements of a state that are stable between any two temperatures
are sorted when they are found. -/
structure Atlas.Answers (atlas : Atlas α) : Prop where
  element : ∀ m, atlas.get? m.id = some m → m.element.Answers
  target : ∀ m side t, atlas.get? m.id = some m → m.element.transition? side = some t →
    ∃ target, atlas.target? t = some target
  report : ∀ selection, (∀ m ∈ selection, atlas.get? m.id = some m) →
    ∃ report, Report.build atlas selection Column.standard = .ok report
  comparable : ∀ m n, atlas.get? m.id = some m → atlas.get? n.id = some n →
    ∃ order, m.element.thermalConductivity.compare n.element.thermalConductivity = .ok order
  stable : ∀ (state : State) (low high : α), ∃ lowest highest found sorted,
    Quantity.parse low "degC" = .ok lowest ∧ Quantity.parse high "degC" = .ok highest ∧
    atlas.find (.predicate (.and (.isState state) (.stableOver lowest highest))) = .ok found ∧
    atlas.sortedBy found (.ofField "thermal_conductivity") = .ok sorted ∧
    ∀ m ∈ sorted, atlas.get? m.id = some m

/-- An atlas of measured elements that is linked answers what commands ask of it. -/
theorem Atlas.answers_of_measured {atlas : Atlas α}
    (hmeasured : ∀ m, atlas.get? m.id = some m → m.element.Measured)
    (hlinked : atlas.Linked) : atlas.Answers where
  element m hm := (hmeasured m hm).answers
  target m side t hm ht := hlinked m side t t.target hm ht (.inl rfl)
  report selection hselection :=
    Report.exists_build fun m hm => hmeasured m (hselection m hm)
  comparable m n hm hn := Quantity.exists_compare (hmeasured m hm).thermalConductivity
    (hmeasured n hn).thermalConductivity
  stable := by
    intro state low high
    have hcelsius : Spelled α "degC" .ofTemperature true := KnownUnit.spelled rfl rfl rfl
    obtain ⟨lowest, hlowest, hlowKind⟩ := Quantity.exists_parse low hcelsius
    obtain ⟨highest, hhighest, hhighKind⟩ := Quantity.exists_parse high hcelsius
    have hpredicate : ∀ m, atlas.get? m.id = some m → ∃ b, Needle.accepts atlas m
        (.predicate (.and (.isState state) (.stableOver lowest highest))) = .ok b := by
      intro m hm
      exact Predicate.exists_and ⟨_, Predicate.evaluate_isState state⟩
        (Predicate.exists_stableOver (hmeasured m hm) hlowKind hhighKind)
    obtain ⟨found, hfound, hmembers⟩ := Atlas.exists_find hpredicate
    obtain ⟨sorted, hsorted, hperm⟩ := Atlas.exists_sortedBy_conductivity
      fun m hm => hmeasured m (hmembers m hm)
    exact ⟨lowest, highest, found, sorted, hlowest, hhighest, hfound, hsorted,
      fun m hm => hmembers m (hperm.mem_iff.1 hm)⟩

namespace CommandLine

/-! ## Failures -/

/-- A query that succeeds does so as a command. -/
@[simp] theorem ofQuery_eq_ok {β : Type} {r : Except QueryError β} {b : β} :
    ofQuery r = .ok b ↔ r = .ok b :=
  Attempt.mapError_eq_ok

/-- A computation on quantities that succeeds does so as a command. -/
@[simp] theorem ofQuantity_eq_ok {β : Type} {r : Except QuantityError β} {b : β} :
    ofQuantity r = .ok b ↔ r = .ok b :=
  ofQuery_eq_ok.trans Attempt.mapError_eq_ok

/-- A quantity that may be absent is converted if it is there. -/
theorem exists_converted {r : Except QuantityError (Option (Quantity α))} {q? : Option (Quantity α)}
    {unit : String} (hr : r = .ok q?)
    (hconvert : ∀ q, q? = some q → ∃ shown, q.convertTo unit = .ok shown) :
    ∃ shown?, ofQuantity (do (← r).mapM fun q => q.convertTo unit) = .ok shown? := by
  have hshown : ∃ shown?, q?.mapM (fun q => q.convertTo unit) = .ok shown? := by
    cases q? with
    | none => exact ⟨none, rfl⟩
    | some q =>
      obtain ⟨shown, hshown⟩ := hconvert q rfl
      exact ⟨some shown, Attempt.map_eq_ok.2 ⟨shown, hshown, rfl⟩⟩
  obtain ⟨shown?, hall⟩ := Attempt.exists_bind hr hshown
  exact ⟨shown?, ofQuantity_eq_ok.2 hall⟩

/-- The element that a command is about. -/
def Command.subject? : Command α → Option String
  | .show name | .heat name _ _ => some name
  | .list | .find .. | .stable .. => none

/-- Why a command fails on an atlas: there is no element of the name that it asks for, or the text
that it searches for is no pattern. -/
inductive Command.Fault (atlas : Atlas α) (c : Command α) : Failure → Prop
  | unknownElement {name : String} : c.subject? = some name →
      (∀ e ∈ atlas.elements, e.name ≠ name) → Fault atlas c (.lookup (.unknownElement name))
  | invalidPattern {text : String} {cause : PatternError} : c = .find text true →
      Pattern.parse text = .error cause → Fault atlas c (.invalidPattern text cause)

variable {atlas : Atlas α}

/-- An element of the atlas is shown. -/
theorem exists_showText (h : atlas.Answers) {m : Member α} (hm : atlas.get? m.id = some m) :
    ∃ text, showText atlas m = .ok text := by
  obtain ⟨density?, hdensity, -, hshown⟩ := (h.element m hm).density
  obtain ⟨diffusivity?, hdiffusivity, -, hconverted⟩ := (h.element m hm).diffusivity
  obtain ⟨first, hfirst⟩ := exists_converted hdensity hshown
  obtain ⟨second, hsecond⟩ := exists_converted hdiffusivity fun q hq => (hconverted q hq).2
  exact Attempt.exists_bind hfirst (Attempt.exists_bind hsecond ⟨_, rfl⟩)

/-- The stable elements of the atlas are listed. -/
theorem exists_stableText (h : atlas.Answers) (state : State) (low high : α) :
    ∃ text, stableText atlas state low high = .ok text := by
  obtain ⟨lowest, highest, found, sorted, hlow, hhigh, hfound, hsorted, hmembers⟩ :=
    h.stable state low high
  obtain ⟨report, hreport⟩ := h.report sorted hmembers
  refine Attempt.exists_bind (ofQuantity_eq_ok.2 hlow) ?_
  refine Attempt.exists_bind (ofQuantity_eq_ok.2 hhigh) ?_
  refine Attempt.exists_bind (ofQuery_eq_ok.2 hfound) ?_
  refine Attempt.exists_bind (ofQuery_eq_ok.2 hsorted) ?_
  exact Attempt.exists_bind (ofQuery_eq_ok.2 hreport) ⟨_, rfl⟩

/-- The heat of an element that answers is computed. -/
theorem exists_heatText {m : Member α} (h : m.element.Answers) (mass interval : α) :
    ∃ text, heatText m mass interval = .ok text := by
  obtain ⟨kilograms, degrees, heat, shown, hmass, hinterval, hheat, hshown⟩ := h.heat mass interval
  refine Attempt.exists_bind (ofQuantity_eq_ok.2 hmass) ?_
  refine Attempt.exists_bind (ofQuantity_eq_ok.2 hinterval) ?_
  refine Attempt.exists_bind (ofQuantity_eq_ok.2 hheat) ?_
  exact Attempt.exists_bind (ofQuantity_eq_ok.2 hshown) ⟨_, rfl⟩

/-- A text and a pattern are found or not, on every element. -/
theorem exists_find_of_needle {text : String} {isPattern : Bool} {needle : Needle α}
    (h : CommandLine.needle text isPattern = .ok needle) :
    ∃ found, atlas.find needle = .ok found := by
  have haccepts : ∀ m, ∃ b, needle.accepts atlas m = .ok b := by
    intro m
    unfold CommandLine.needle at h
    split at h
    · split at h
      · cases h
        exact ⟨_, rfl⟩
      · cases h
    · cases h
      exact ⟨_, rfl⟩
  obtain ⟨found, hfound, -⟩ := Atlas.exists_find fun m _ => haccepts m
  exact ⟨found, hfound⟩

omit [Scalar α] in
/-- A needle is refused if it is a pattern that is not one. -/
theorem needle_eq_error {text : String} {isPattern : Bool} {failure : Failure} :
    (needle text isPattern : Except Failure (Needle α)) = .error failure ↔
      isPattern = true ∧ ∃ cause, Pattern.parse text = .error cause ∧
        failure = .invalidPattern text cause := by
  unfold needle
  cases isPattern with
  | false => simp
  | true => cases hparse : Pattern.parse text <;> simp [eq_comm]

omit [Scalar α] in
/-- A command on one element fails if there is no such element. -/
theorem subject_eq_error {name : String} {f : Member α → Except Failure String} {failure : Failure}
    (hf : ∀ m, atlas.get? m.id = some m → ∃ text, f m = .ok text) :
    ((atlas.lookup (.name name)).mapError Failure.lookup >>= f) = .error failure ↔
      (∀ e ∈ atlas.elements, e.name ≠ name) ∧ failure = .lookup (.unknownElement name) := by
  rw [Attempt.bind_eq_error, Attempt.mapError_eq_error]
  constructor
  · rintro (⟨cause, hlookup, rfl⟩ | ⟨m, hlookup, hfailure⟩)
    · obtain ⟨hall, rfl⟩ := Atlas.lookup_name_eq_error.1 hlookup
      exact ⟨hall, rfl⟩
    · have hm := Atlas.lookup_name_eq_ok.1 (Attempt.mapError_eq_ok.1 hlookup)
      obtain ⟨text, htext⟩ := hf m hm.1
      cases htext.symm.trans hfailure
  · rintro ⟨hall, rfl⟩
    exact .inl ⟨_, Atlas.lookup_name_eq_error.2 ⟨hall, rfl⟩, rfl⟩

/-- A command fails with one of its faults, and with each of them. -/
theorem Command.run_eq_error_iff (h : atlas.Answers) {c : Command α} {failure : Failure} :
    c.run atlas = .error failure ↔ c.Fault atlas failure := by
  cases c with
  | list =>
    constructor
    · rintro ⟨⟩
    · rintro (⟨⟨⟩, -⟩ | ⟨⟨⟩, -⟩)
  | «show» name =>
    refine (subject_eq_error fun m hm => exists_showText h hm).trans ?_
    constructor
    · rintro ⟨hall, rfl⟩
      exact .unknownElement rfl hall
    · rintro (⟨⟨⟩, hall⟩ | ⟨⟨⟩, -⟩)
      exact ⟨hall, rfl⟩
  | find text isPattern =>
    rw [run, Attempt.bind_eq_error, needle_eq_error]
    constructor
    · rintro (⟨rfl, cause, hparse, rfl⟩ | ⟨needle, hneedle, hfailure⟩)
      · exact .invalidPattern rfl hparse
      · obtain ⟨found, hfound⟩ := exists_find_of_needle hneedle
        rcases Attempt.bind_eq_error.1 hfailure with hfailure | ⟨_, -, ⟨⟩⟩
        cases (ofQuery_eq_ok.2 hfound).symm.trans hfailure
    · rintro (⟨⟨⟩, -⟩ | ⟨⟨⟩, hparse⟩)
      exact .inl ⟨rfl, _, hparse, rfl⟩
  | stable state low high =>
    obtain ⟨text, htext⟩ := exists_stableText h state low high
    constructor
    · intro hfailure
      cases htext.symm.trans hfailure
    · rintro (⟨⟨⟩, -⟩ | ⟨⟨⟩, -⟩)
  | heat name mass interval =>
    refine (subject_eq_error
      fun m hm => exists_heatText (h.element m hm) mass interval).trans ?_
    constructor
    · rintro ⟨hall, rfl⟩
      exact .unknownElement rfl hall
    · rintro (⟨⟨⟩, hall⟩ | ⟨⟨⟩, -⟩)
      exact ⟨hall, rfl⟩

/-- After an atlas is loaded from a document, what commands ask of it has an answer, and a command
fails only for an element or a pattern that there is none of. -/
theorem commands_succeed {document : Json α} {definitions : List (Definition α)}
    {strings : StringTable} (hdocument : Document.definitions document = .ok definitions)
    (h : Atlas.ofDefinitions definitions strings = .ok atlas) :
    atlas.Answers ∧
      ∀ (c : Command α) (failure : Failure),
        c.run atlas = .error failure ↔ c.Fault atlas failure := by
  have hanswers : atlas.Answers :=
    Atlas.answers_of_measured (fun m hm => Atlas.measured_of_document hdocument h hm)
      (Atlas.linked_of_ofDefinitions h)
  exact ⟨hanswers, fun c failure => Command.run_eq_error_iff hanswers⟩

/-- On the sample, the stable liquids are reported, and an element that it lacks is not shown. -/
theorem commands_succeed_sample :
    ∃ (definitions : List (Definition Float)) (atlas : Atlas Float),
      Document.definitions Sample.document = .ok definitions ∧
      Atlas.ofDefinitions definitions Sample.strings = .ok atlas ∧ atlas.Answers ∧
      (∃ text, Command.run atlas (.stable .liquid 30.0 90.0) = .ok text) ∧
      Command.run atlas (.show "Magma") = .error (.lookup (.unknownElement "Magma")) := by
  have hloaded : (Sample.atlas : Except LoadError (Atlas Float)).toOption.map
      (·.elements.map (·.name)) = some ["Ice", "Water", "Steam"] := by
    decide +kernel
  obtain ⟨definitions, atlas, hdocument, hatlas, hnames⟩ := Sample.exists_atlas hloaded
  obtain ⟨hanswers, hfaults⟩ := commands_succeed hdocument hatlas
  refine ⟨definitions, atlas, hdocument, hatlas, hanswers, ?_, ?_⟩
  · cases hrun : Command.run atlas (.stable .liquid 30.0 90.0) with
    | ok text => exact ⟨text, rfl⟩
    | error failure =>
      rcases (hfaults _ _).1 hrun with ⟨⟨⟩, -⟩ | ⟨⟨⟩, -⟩
  · refine (hfaults _ _).2 (.unknownElement rfl fun e he hname => ?_)
    have hmem : e.name ∈ atlas.elements.map (·.name) := List.mem_map_of_mem he
    rw [hnames, hname] at hmem
    revert hmem
    decide

end CommandLine

end ElementAtlas
