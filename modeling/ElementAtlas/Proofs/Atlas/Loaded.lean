import ElementAtlas.Proofs.Element.Measured
import ElementAtlas.Sample

/-!
# Loaded atlases

The definitions of an atlas that is loaded from a document have been read from records (`Loaded`),
and so its elements are measured.
-/

namespace ElementAtlas

namespace Atlas

variable {α : Type} [Scalar α] {atlas : Atlas α}

/-- The definitions of the atlas have been read from records. -/
def Loaded (atlas : Atlas α) : Prop :=
  ∃ definitions strings, (∀ d ∈ definitions, ∃ fields, Definition.ofRecord fields = .ok d) ∧
    ofDefinitions definitions strings = .ok atlas

/-- The atlas of a document is loaded. -/
theorem loaded_of_document {document : Json α} {strings : StringTable}
    (h : Document.atlas document strings = .ok atlas) : atlas.Loaded := by
  obtain ⟨definitions, hdefinitions, hatlas⟩ := Attempt.bind_eq_ok.1 h
  exact ⟨definitions, strings, Document.ofRecord_of_definitions hdefinitions,
    Attempt.mapError_eq_ok.1 hatlas⟩

/-- An element of a loaded atlas has been read from a record. -/
theorem Loaded.exists_record (h : atlas.Loaded) {m : Member α} (hm : atlas.get? m.id = some m) :
    ∃ d strings fields, Definition.ofRecord fields = .ok d ∧
      Definition.ResolvedIn atlas strings d m.element := by
  obtain ⟨definitions, strings, hrecords, hatlas⟩ := h
  obtain ⟨d, hd, hresolved⟩ := (resolves_of_ofDefinitions hatlas).exists_definition hm
  obtain ⟨fields, hfields⟩ := hrecords d hd
  exact ⟨d, strings, fields, hfields, hresolved⟩

/-- The elements of a loaded atlas are measured. -/
theorem Loaded.measured (h : atlas.Loaded) {m : Member α} (hm : atlas.get? m.id = some m) :
    m.element.Measured := by
  obtain ⟨d, strings, fields, hfields, hresolved⟩ := h.exists_record hm
  exact (Definition.measured_of_ofRecord hfields).resolvedIn hresolved

end Atlas

/-- What is computed from the atlas of the sample is a fact about a loaded atlas. -/
theorem Sample.exists_loaded {α β : Type} [Scalar α] {f : Atlas α → β} {b : β}
    (h : (atlas : Except LoadError (Atlas α)).toOption.map f = some b) :
    ∃ atlas : Atlas α, atlas.Loaded ∧ f atlas = b := by
  obtain ⟨atlas, hatlas, hb⟩ := Option.map_eq_some_iff.1 h
  exact ⟨atlas, Atlas.loaded_of_document (Attempt.toOption_eq_some_iff.1 hatlas), hb⟩

end ElementAtlas
