import ElementAtlas.Proofs.Query.Path
import ElementAtlas.Proofs.Query.Steps

/-!
# Optional and required chaining

Making every hop of a path optional changes what becomes of the values that the path lacks, and
nothing else. A path without required hops has the value of the path, where that has one, and fails
with the same error where the base or a step fails. Where a required hop lacks the value to be taken
from, it is absent (`Attribute.evaluate_allOptional`).

Both paths take the same steps, so they arrive at the same hops with the same values
(`arrives_asOptional_iff`); they differ only in what they do at the first hop that has no value
before it.
-/

namespace ElementAtlas

variable {α : Type}

/-- The hop, optional. -/
def Hop.asOptional (hop : Hop α) : Hop α := { hop with isOptional := true }

/-- The path with the same base and the same steps, every hop of which is optional. -/
def Attribute.allOptional (a : Attribute α) : Attribute α :=
  { a with hops := a.hops.map Hop.asOptional }

variable [Scalar α] {atlas : Atlas α}

/-- Hops lead to the same values whether they are optional or not. -/
theorem leads_asOptional_iff {v w : Value α} {hops : List (Hop α)} :
    Leads atlas v (hops.map Hop.asOptional) w ↔ Leads atlas v hops w := by
  induction hops generalizing v with
  | nil =>
    rw [List.map_nil]
  | cons hop hops ih =>
    rw [List.map_cons]
    constructor
    · rintro (_ | ⟨hv, hstep, h⟩)
      exact .cons hv hstep (ih.1 h)
    · rintro (_ | ⟨hv, hstep, h⟩)
      exact .cons hv hstep (ih.2 h)

/-- A path arrives at the same hop with the same value if all hops are optional. -/
theorem Arrives.asOptional {v w : Value α} {hops before : List (Hop α)} {hop : Hop α}
    (h : Arrives atlas v hops before hop w) :
    Arrives atlas v (hops.map Hop.asOptional) (before.map Hop.asOptional) hop.asOptional w := by
  obtain ⟨⟨after, rfl⟩, hleads⟩ := h
  exact ⟨⟨after.map Hop.asOptional, by simp⟩, leads_asOptional_iff.2 hleads⟩

namespace Attribute

variable {a : Attribute α} {m : Member α}

/-- The evaluation arrives at a hop of the path. -/
def ArrivesAt (a : Attribute α) (atlas : Atlas α) (m : Member α) (before : List (Hop α))
    (hop : Hop α) (v : Value α) : Prop :=
  ∃ start, a.base.evaluate atlas m = .ok start ∧ Arrives atlas start a.hops before hop v

/-- The step of a hop that the evaluation arrives at fails. -/
def StepFails (a : Attribute α) (atlas : Atlas α) (m : Member α) (e : QueryError) : Prop :=
  ∃ before hop v, a.ArrivesAt atlas m before hop v ∧ v.isNone = false ∧
    hop.step.apply atlas v = .error e

/-- The evaluation arrives at a required hop with an absent value. It is the first hop that has no
value before it, since all hops before it have been taken. -/
def Lacks (a : Attribute α) (atlas : Atlas α) (m : Member α) (before : List (Hop α))
    (hop : Hop α) : Prop :=
  a.ArrivesAt atlas m before hop .none ∧ hop.isOptional = false

/-- An evaluation has the value that the hops lead to, or an absent one if an optional hop is
arrived at with that. -/
theorem evaluate_eq_ok_iff {w : Value α} :
    a.evaluate atlas m = .ok w ↔ ∃ start, a.base.evaluate atlas m = .ok start ∧
      (Leads atlas start a.hops w ∨ (w = .none ∧
        ∃ before hop, Arrives atlas start a.hops before hop .none ∧ hop.isOptional = true)) := by
  rw [evaluate, Attempt.bind_eq_ok]
  simp only [follow_eq_ok_iff]

/-- An evaluation fails with the base, with a step, or for lack of a value before a required hop. -/
theorem evaluate_eq_error_iff {e : QueryError} :
    a.evaluate atlas m = .error e ↔ a.base.evaluate atlas m = .error e ∨
      a.StepFails atlas m e ∨
      ∃ before hop, a.Lacks atlas m before hop ∧
        e = .missingValue (a.describe (before ++ [hop])) := by
  rw [evaluate, Attempt.bind_eq_error]
  simp only [follow_eq_error_iff, List.nil_append]
  constructor
  · rintro (hbase | ⟨start, hstart, before, hop, w, harrives, hend⟩)
    · exact .inl hbase
    · rcases hend with ⟨hw, hstep⟩ | ⟨rfl, hrequired, rfl⟩
      · exact .inr (.inl ⟨before, hop, w, ⟨start, hstart, harrives⟩, hw, hstep⟩)
      · exact .inr (.inr ⟨before, hop, ⟨⟨start, hstart, harrives⟩, hrequired⟩, rfl⟩)
  · rintro (hbase | ⟨before, hop, w, ⟨start, hstart, harrives⟩, hw, hstep⟩ |
      ⟨before, hop, ⟨⟨start, hstart, harrives⟩, hrequired⟩, rfl⟩)
    · exact .inl hbase
    · exact .inr ⟨start, hstart, before, hop, w, harrives, .inl ⟨hw, hstep⟩⟩
    · exact .inr ⟨start, hstart, before, hop, .none, harrives, .inr ⟨rfl, hrequired, rfl⟩⟩

/-! ## The path without required hops -/

/-- The path without required hops arrives where the path does. -/
theorem ArrivesAt.allOptional {before : List (Hop α)} {hop : Hop α} {v : Value α}
    (h : a.ArrivesAt atlas m before hop v) :
    a.allOptional.ArrivesAt atlas m (before.map Hop.asOptional) hop.asOptional v := by
  obtain ⟨start, hstart, harrives⟩ := h
  exact ⟨start, hstart, harrives.asOptional⟩

/-- A step that fails does so on the path without required hops too. -/
theorem StepFails.allOptional {e : QueryError} (h : a.StepFails atlas m e) :
    a.allOptional.StepFails atlas m e := by
  obtain ⟨before, hop, v, harrives, hv, hstep⟩ := h
  exact ⟨_, _, v, harrives.allOptional, hv, hstep⟩

/-- Steps fail with errors of steps only. -/
theorem StepFails.ofStep {e : QueryError} (h : a.StepFails atlas m e) : e.OfStep := by
  obtain ⟨_, _, _, -, -, hstep⟩ := h
  exact (Step.fault_of_apply hstep).ofStep

/-- A path arrived at a hop with an absent value is absent if the hop is optional. -/
theorem evaluate_of_arrivesAt_none {before : List (Hop α)} {hop : Hop α}
    (h : a.ArrivesAt atlas m before hop .none) (hoptional : hop.isOptional = true) :
    a.evaluate atlas m = .ok .none := by
  obtain ⟨start, hstart, harrives⟩ := h
  exact evaluate_eq_ok_iff.2 ⟨start, hstart, .inr ⟨rfl, before, hop, harrives, hoptional⟩⟩

/-- What a path has as its value stays so if all hops are optional. -/
theorem evaluate_allOptional_of_ok {w : Value α} (h : a.evaluate atlas m = .ok w) :
    a.allOptional.evaluate atlas m = .ok w := by
  obtain ⟨start, hstart, hleads | ⟨rfl, before, hop, harrives, -⟩⟩ := evaluate_eq_ok_iff.1 h
  · exact evaluate_eq_ok_iff.2 ⟨start, hstart, .inl (leads_asOptional_iff.2 hleads)⟩
  · exact evaluate_of_arrivesAt_none ⟨start, hstart, harrives.asOptional⟩ rfl

/-- The path without required hops refines the path: it has the same value and the same errors of
the base and of the steps, and it is absent where the path fails for lack of a value. This lack is
named by the description of the path up to the required hop, and these are all the ways in which the
path can fail. -/
theorem evaluate_allOptional (a : Attribute α) (atlas : Atlas α) (m : Member α) :
    (∀ w, a.evaluate atlas m = .ok w → a.allOptional.evaluate atlas m = .ok w) ∧
    (∀ e, a.base.evaluate atlas m = .error e →
      a.evaluate atlas m = .error e ∧ a.allOptional.evaluate atlas m = .error e) ∧
    (∀ e, a.StepFails atlas m e →
      e.OfStep ∧ a.evaluate atlas m = .error e ∧ a.allOptional.evaluate atlas m = .error e) ∧
    (∀ before hop, a.Lacks atlas m before hop →
      a.evaluate atlas m = .error (.missingValue (a.describe (before ++ [hop]))) ∧
        a.allOptional.evaluate atlas m = .ok .none) ∧
    ∀ e, a.evaluate atlas m = .error e → a.base.evaluate atlas m = .error e ∨
      a.StepFails atlas m e ∨
      ∃ before hop, a.Lacks atlas m before hop ∧
        e = .missingValue (a.describe (before ++ [hop])) := by
  refine ⟨fun w => evaluate_allOptional_of_ok, fun e hbase => ⟨?_, ?_⟩,
    fun e hstep => ⟨hstep.ofStep, ?_, ?_⟩, fun before hop hlacks => ⟨?_, ?_⟩,
    fun e => evaluate_eq_error_iff.1⟩
  · exact evaluate_eq_error_iff.2 (.inl hbase)
  · exact evaluate_eq_error_iff.2 (.inl hbase)
  · exact evaluate_eq_error_iff.2 (.inr (.inl hstep))
  · exact evaluate_eq_error_iff.2 (.inr (.inl hstep.allOptional))
  · exact evaluate_eq_error_iff.2 (.inr (.inr ⟨before, hop, hlacks, rfl⟩))
  · exact evaluate_of_arrivesAt_none hlacks.1.allOptional rfl

end Attribute

end ElementAtlas
