import ElementAtlas.Document
import ElementAtlas.Proofs.Element.Validation

/-!
# Which documents are accepted

An item of a document is a definition if it is an object whose fields are an accepted record
(`IsRecord`), and what is wrong with one that is not is its `Fault`: the fault of the first check
that fails, under the name that the record gives or under that of an unknown element. A document is
accepted if it has a list of elements and each item of the list is a definition; its error is the
fault of the first item that is none.

`validation_exact` says both. For a record this is what is known of its reader
(`Record.performs_ofRecord`), with the name of the element added to the error; for a document it
follows, since the items are read one after another.
-/

namespace ElementAtlas.Document

variable {α : Type}

/-! ## Faults of items -/

/-- What an error calls the element that some fields are about. -/
inductive CalledBy (fields : Json.Fields α) : String → Prop
  | given {name : String} : fields.get? "elementId" = some (.string name) → CalledBy fields name
  | unknown : ¬ fields.Holds "elementId" .string → CalledBy fields "<unknown>"

/-- An item is an object whose fields are an accepted record. -/
def IsRecord (item : Json α) : Prop := ∃ fields, item = .object fields ∧ Record.Accepted fields

/-- What is wrong with an item that is no definition. -/
inductive Fault : Json α → LoadError → Prop
  | record {fields : Json.Fields α} {name : String} {cause : RecordError} :
      CalledBy fields name → Record.firstFault? fields = some cause →
      Fault (.object fields) (.badDefinition name cause)
  | other {item : Json α} : (∀ fields, item ≠ .object fields) →
      Fault item (.badDefinition "<unknown>" .notAMapping)

/-- A document has some items in its list of elements. -/
def Lists (document : Json α) (items : List (Json α)) : Prop :=
  ∃ fields, document = .object fields ∧ Json.Fields.get? "elements" fields = some (.array items)

/-- Fields are called by the name that errors give them. -/
theorem calledBy_iff {fields : Json.Fields α} {name : String} :
    CalledBy fields name ↔ name = elementName fields := by
  constructor
  · rintro (hgiven | hunknown)
    · simp [elementName, hgiven]
    · unfold elementName
      split
      next given hgiven => exact absurd ⟨given, hgiven⟩ hunknown
      next => rfl
  · rintro rfl
    unfold elementName
    split
    next given hgiven => exact .given hgiven
    next hnone => exact .unknown fun ⟨given, hgiven⟩ => hnone given hgiven

/-- No fault is about a quantity. -/
theorem Fault.ne_quantity {item : Json α} {e : LoadError} (h : Fault item e) (name : String)
    (cause : QuantityError) : e ≠ .badDefinition name (.quantity cause) := by
  rintro rfl
  cases h with
  | record _ hfault => exact Record.firstFault?_ne_quantity _ _ hfault

/-! ## What validation has to achieve -/

variable [Scalar α]

/-- A record is read if and only if it is accepted. A definition that is read takes each property
from its field, in the unit of the field; an error is the fault of the record, and never about a
quantity. The fields that are not checked have no part in this. -/
structure RecordLaws (fields : Json.Fields α) : Prop where
  accepts : (∃ d, definitionOfFields fields = .ok d) ↔ Record.Accepted fields
  reads : ∀ d, definitionOfFields fields = .ok d → d.ReadFrom fields ∧ d.InFixedUnits
  rejects : ∀ e, definitionOfFields fields = .error e ↔ Fault (.object fields) e
  no_quantity : ∀ name cause,
    definitionOfFields fields ≠ .error (.badDefinition name (.quantity cause))
  frame : ∀ fields' : Json.Fields α,
    (∀ check ∈ Record.checks fields, fields'.get? check.field = fields.get? check.field) →
    definitionOfFields fields' = definitionOfFields fields

/-- A document is read if and only if it has a list of records that are accepted, and then its
definitions are those of the records in their order. An error is that of a document without a list,
or the fault of the first item that is no accepted record. -/
structure DocumentLaws (document : Json α) : Prop where
  accepts : (∃ ds, definitions document = .ok ds) ↔
    ∃ items, Lists document items ∧ ∀ item ∈ items, IsRecord item
  reads : ∀ ds, definitions document = .ok ds ↔ ∃ items, Lists document items ∧
    List.Forall₂ (fun item d => ∃ fields, item = .object fields ∧ definitionOfFields fields = .ok d)
      items ds
  rejects : ∀ e, definitions document = .error e ↔
    (e = .missingElements ∧ ∀ items, ¬ Lists document items) ∨
    ∃ before item after, Lists document (before ++ item :: after) ∧
      (∀ other ∈ before, IsRecord other) ∧ Fault item e

/-! ## Records -/

/-- Fields make a definition if they are accepted as a record. -/
theorem exists_definitionOfFields_iff {fields : Json.Fields α} :
    (∃ d, definitionOfFields fields = .ok d) ↔ Record.Accepted fields := by
  rw [← Record.firstFault?_eq_none_iff, Record.firstFault?,
    ← (Record.performs_ofRecord fields).exists_ok_iff]
  exact exists_congr fun _ => Attempt.mapError_eq_ok

/-- Fields fail with the fault of the object. -/
@[simp] theorem definitionOfFields_eq_error {fields : Json.Fields α} {e : LoadError} :
    definitionOfFields fields = .error e ↔ Fault (.object fields) e := by
  rw [definitionOfFields, Attempt.mapError_eq_error]
  constructor
  · rintro ⟨cause, hcause, rfl⟩
    exact .record (calledBy_iff.2 rfl) ((Record.performs_ofRecord fields cause).1 hcause)
  · rintro (⟨hname, hfault⟩ | hother)
    · obtain rfl := calledBy_iff.1 hname
      exact ⟨_, (Record.performs_ofRecord fields _).2 hfault, rfl⟩
    · exact absurd rfl (hother fields)

/-- A definition depends on the fields that are checked. -/
theorem definitionOfFields_congr {fields fields' : Json.Fields α}
    (h : ∀ check ∈ Record.checks fields, fields'.get? check.field = fields.get? check.field) :
    definitionOfFields fields' = definitionOfFields fields := by
  have hname : fields'.get? "elementId" = fields.get? "elementId" :=
    h ⟨"elementId", .required .string⟩ (.head _)
  rw [definitionOfFields, definitionOfFields, Record.ofRecord_congr h, elementName, elementName,
    hname]

/-- All records obey the laws of validation. -/
theorem recordLaws (fields : Json.Fields α) : RecordLaws fields where
  accepts := exists_definitionOfFields_iff
  reads d h := by
    have hread := Definition.ofRecord_eq_ok_iff.1 (Attempt.mapError_eq_ok.1 h)
    exact ⟨hread, hread.inFixedUnits⟩
  rejects _ := definitionOfFields_eq_error
  no_quantity name cause h := (definitionOfFields_eq_error.1 h).ne_quantity name cause rfl
  frame _ := definitionOfFields_congr

/-! ## Items -/

/-- An item makes a definition if it is an object whose fields do. -/
@[simp] theorem definition_eq_ok {item : Json α} {d : Definition α} :
    definition item = .ok d ↔
      ∃ fields, item = .object fields ∧ definitionOfFields fields = .ok d := by
  cases item <;> simp [definition]

/-- An item makes a definition if it is a record. -/
theorem exists_definition_iff {item : Json α} :
    (∃ d, definition item = .ok d) ↔ IsRecord item := by
  constructor
  · rintro ⟨d, h⟩
    obtain ⟨fields, rfl, hd⟩ := definition_eq_ok.1 h
    exact ⟨fields, rfl, exists_definitionOfFields_iff.1 ⟨d, hd⟩⟩
  · rintro ⟨fields, rfl, haccepted⟩
    exact exists_definitionOfFields_iff.2 haccepted

/-- An item fails with its fault. -/
@[simp] theorem definition_eq_error {item : Json α} {e : LoadError} :
    definition item = .error e ↔ Fault item e := by
  by_cases hitem : ∃ fields, item = .object fields
  · obtain ⟨fields, rfl⟩ := hitem
    exact definitionOfFields_eq_error
  · have hother : ∀ fields, item ≠ .object fields := not_exists.1 hitem
    have hdefinition : definition item = .error (.badDefinition "<unknown>" .notAMapping) := by
      unfold definition
      split
      next fields => exact absurd rfl (hother fields)
      next => rfl
    rw [hdefinition]
    constructor
    · rintro ⟨⟩
      exact .other hother
    · rintro (_ | _)
      · exact absurd rfl (hother _)
      · rfl

/-! ## Documents -/

/-- A document that has a list is read as the items of the list are. -/
theorem definitions_of_lists {document : Json α} {items : List (Json α)}
    (h : Lists document items) : definitions document = items.mapM definition := by
  obtain ⟨fields, rfl, hitems⟩ := h
  simp only [definitions, hitems]

/-- A document that lists no items has no elements. -/
theorem definitions_of_not_lists {document : Json α} (h : ∀ items, ¬ Lists document items) :
    definitions document = .error .missingElements := by
  unfold definitions
  split
  next fields =>
    split
    next items hitems => exact absurd ⟨fields, rfl, hitems⟩ (h items)
    next => rfl
  next => rfl

/-- A document has definitions if it lists items that make them. -/
theorem definitions_eq_ok {document : Json α} {ds : List (Definition α)} :
    definitions document = .ok ds ↔
      ∃ items, Lists document items ∧ items.mapM definition = .ok ds := by
  constructor
  · intro h
    by_cases hlist : ∃ items, Lists document items
    · obtain ⟨items, hitems⟩ := hlist
      exact ⟨items, hitems, definitions_of_lists hitems ▸ h⟩
    · rw [definitions_of_not_lists (not_exists.1 hlist)] at h
      cases h
  · rintro ⟨items, hitems, h⟩
    rwa [definitions_of_lists hitems]

/-- A document fails because it lists nothing, or with the first item that fails. -/
theorem definitions_eq_error {document : Json α} {e : LoadError} :
    definitions document = .error e ↔
      (e = .missingElements ∧ ∀ items, ¬ Lists document items) ∨
        ∃ items, Lists document items ∧ items.mapM definition = .error e := by
  constructor
  · intro h
    by_cases hlist : ∃ items, Lists document items
    · obtain ⟨items, hitems⟩ := hlist
      exact .inr ⟨items, hitems, definitions_of_lists hitems ▸ h⟩
    · rw [definitions_of_not_lists (not_exists.1 hlist)] at h
      cases h
      exact .inl ⟨rfl, not_exists.1 hlist⟩
  · rintro (⟨rfl, hnone⟩ | ⟨items, hitems, h⟩)
    · exact definitions_of_not_lists hnone
    · rwa [definitions_of_lists hitems]

/-- All documents obey the laws of validation. -/
theorem documentLaws (document : Json α) : DocumentLaws document where
  accepts := by
    simp only [definitions_eq_ok, ← exists_definition_iff, ← Attempt.exists_mapM_iff]
    constructor
    · rintro ⟨ds, items, hitems, hds⟩
      exact ⟨items, hitems, ds, hds⟩
    · rintro ⟨items, hitems, ds, hds⟩
      exact ⟨ds, items, hitems, hds⟩
  reads ds := by simp only [definitions_eq_ok, Attempt.mapM_eq_ok, definition_eq_ok]
  rejects e := by
    simp only [definitions_eq_error, Attempt.mapM_eq_error, exists_definition_iff,
      definition_eq_error]
    refine or_congr_right ⟨?_, ?_⟩
    · rintro ⟨_, hitems, before, item, after, rfl, hbefore, hfault⟩
      exact ⟨before, item, after, hitems, hbefore, hfault⟩
    · rintro ⟨before, item, after, hitems, hbefore, hfault⟩
      exact ⟨_, hitems, before, item, after, rfl, hbefore, hfault⟩

/-- The reading of records and of documents is exact: it accepts those that are as they should be,
and no others, and it fails with the first fault there is. -/
theorem validation_exact :
    (∀ fields : Json.Fields α, RecordLaws fields) ∧ ∀ document : Json α, DocumentLaws document :=
  ⟨recordLaws, documentLaws⟩

end ElementAtlas.Document
