import ElementAtlas.Proofs.UnitExpression.Writing
import ElementAtlas.Scalar.Rational

/-!
# The known units

Three known units are absolute, the temperature scales, each with a known unit for its intervals.
The names of the known units are names in the grammar of unit expressions, so each of them on its
own is an atom.
-/

namespace ElementAtlas.KnownUnit

open UnitExpression

/-! ## Temperature scales -/

variable {α : Type} [Scalar α]

/-- The names of the temperature scales. -/
def scaleNames : List String := ["K", "degC", "degF"]

/-- All multiples of base units are linear. -/
theorem origin_of_mem_multiples {unit : KnownUnit α} (h : unit ∈ multiples) :
    unit.origin = .linear := by
  have hall : ∀ unit ∈ (multiples : List (KnownUnit α)), unit.origin = .linear := by
    simp [multiples, multiple]
  exact hall unit h

/-- A known unit that is absolute is a temperature scale. -/
theorem scale_of_absolute {name interval : String} {unit : KnownUnit α} {offset : α}
    (h : find? name = some unit) (horigin : unit.origin = .absolute offset interval) :
    unit.dimension = .ofTemperature ∧ ∃ scale ∈ scaleNames, find? scale = some unit := by
  rcases List.mem_append.1 (List.mem_of_find?_eq_some h) with htemperature | hmultiple
  · simp only [temperatures, List.mem_cons, List.not_mem_nil, or_false] at htemperature
    rcases htemperature with rfl | rfl | rfl | rfl | rfl
    · exact ⟨rfl, "K", by decide, rfl⟩
    · exact ⟨rfl, "degC", by decide, rfl⟩
    · exact ⟨rfl, "degF", by decide, rfl⟩
    · cases horigin
    · cases horigin
  · rw [origin_of_mem_multiples hmultiple] at horigin
    cases horigin

/-- The intervals of a temperature scale have a known unit, with the scale of the temperatures. -/
theorem interval_of_absolute {name interval : String} {unit : KnownUnit α} {offset : α}
    (h : find? name = some unit) (horigin : unit.origin = .absolute offset interval) :
    ∃ companion : KnownUnit α, find? interval = some companion ∧ companion.scale = unit.scale ∧
      companion.dimension = unit.dimension := by
  obtain ⟨-, scale, hscale, hfind⟩ := scale_of_absolute h horigin
  simp only [scaleNames, List.mem_cons, List.not_mem_nil, or_false] at hscale
  rcases hscale with rfl | rfl | rfl
  · cases hfind
    cases horigin
    exact ⟨_, rfl, rfl, rfl⟩
  · cases hfind
    cases horigin
    exact ⟨_, rfl, rfl, rfl⟩
  · cases hfind
    cases horigin
    exact ⟨_, rfl, rfl, rfl⟩

/-! ## Names -/

/-- Whether a text is a name, all of it. -/
def isName : List Char → Bool
  | [] => false
  | c :: run => beginsName c && run.all continuesName

/-- The names of the known units do not depend on the scalars. -/
theorem names_eq :
    (temperatures ++ multiples : List (KnownUnit α)).map (·.names) =
      (temperatures ++ multiples : List (KnownUnit Rat)).map (·.names) :=
  rfl

/-- Every name that is known has the form of a name. -/
theorem isName_of_find? {name : String} {unit : KnownUnit α} (h : find? name = some unit) :
    isName name.toList = true := by
  have hall : ∀ names ∈ (temperatures ++ multiples : List (KnownUnit Rat)).map (·.names),
      ∀ name ∈ names, isName name.toList = true := by decide +kernel
  rw [find?] at h
  have hcontains := List.find?_some h
  have hmem : name ∈ unit.names := List.contains_iff_mem.1 hcontains
  have hnames := List.mem_map_of_mem (f := (·.names)) (List.mem_of_find?_eq_some h)
  rw [names_eq] at hnames
  exact hall _ hnames _ hmem

/-- The name of a known unit is an atom that denotes the unit. -/
theorem writes {name : String} {unit : KnownUnit α} (h : find? name = some unit) :
    Writes .atom name unit.scale unit.dimension.exponents := by
  have hname := isName_of_find? h
  refine ⟨.leaf ⟨unit.scale, unit.dimension⟩, .leaf ?_, trivial, rfl, rfl⟩
  cases htext : name.toList with
  | nil =>
    rw [htext] at hname
    cases hname
  | cons c run =>
    rw [htext, isName, Bool.and_eq_true, List.all_eq_true] at hname
    refine (names_iff_of_beginsName hname.1).2
      ⟨run, unit, (List.append_nil run).symm, hname.2, Text.stops_nil _, ?_, rfl⟩
    rw [← htext, String.ofList_toList]
    exact h

end ElementAtlas.KnownUnit
