import ElementAtlas.Proofs.Attempt
import ElementAtlas.Sample
import ElementAtlas.Scalar.Double

/-!
# The sample as an atlas

What is computed from the atlas of the sample, over the doubles, is a fact about an atlas that has
been loaded from a document.
-/

namespace ElementAtlas.Sample

/-- What is computed from the atlas of the sample comes from definitions that have this atlas. -/
theorem exists_atlas {β : Type} {f : Atlas Float → β} {b : β}
    (h : (atlas : Except LoadError (Atlas Float)).toOption.map f = some b) :
    ∃ (definitions : List (Definition Float)) (atlas : Atlas Float),
      Document.definitions document = .ok definitions ∧
      Atlas.ofDefinitions definitions strings = .ok atlas ∧ f atlas = b := by
  obtain ⟨loaded, hloaded, hb⟩ := Option.map_eq_some_iff.1 h
  obtain ⟨definitions, hdefinitions, hresolved⟩ :=
    Attempt.bind_eq_ok.1 (Attempt.toOption_eq_some_iff.1 hloaded)
  exact ⟨definitions, loaded, hdefinitions, Attempt.mapError_eq_ok.1 hresolved, hb⟩

end ElementAtlas.Sample
