import ElementAtlas.Proofs.Attempt
import ElementAtlas.Query.Attribute

/-!
# Following paths

The evaluation of a path takes one hop after another, each from a value that is there. `Leads`
relates a value to the values that hops lead to in this way. It ends in one of four ways: at the end
of the hops, at an absent value before an optional hop, with the error of a step, or at an absent
value before a required hop, which is then named by the error (`Attribute.follow_eq_ok_iff`,
`Attribute.follow_eq_error_iff`).
-/

namespace ElementAtlas

variable {α : Type}

/-- A value that is absent is the absent one. -/
theorem Value.eq_none_of_isNone {v : Value α} (h : v.isNone = true) : v = .none := by
  cases v with
  | none => rfl
  | _ => cases h

variable [Scalar α] {atlas : Atlas α}

/-- The hops lead from one value to another. Each is taken, in order, from a value that is not
absent, and none of the steps fails. -/
inductive Leads (atlas : Atlas α) : Value α → List (Hop α) → Value α → Prop
  | nil {v : Value α} : Leads atlas v [] v
  | cons {v w x : Value α} {hop : Hop α} {hops : List (Hop α)} : v.isNone = false →
      hop.step.apply atlas v = .ok w → Leads atlas w hops x → Leads atlas v (hop :: hops) x

/-- One more hop is taken from the value that those before it lead to. -/
theorem Leads.concat {u v w : Value α} {hop : Hop α} {hops : List (Hop α)}
    (h : Leads atlas u hops v) (hv : v.isNone = false) (hstep : hop.step.apply atlas v = .ok w) :
    Leads atlas u (hops ++ [hop]) w := by
  induction h with
  | nil => exact .cons hv hstep .nil
  | cons hu hfirst _ ih => exact .cons hu hfirst (ih hv hstep)

/-- Following hops comes to one of them, with those before it behind and a value to take it from. -/
structure Arrives (atlas : Atlas α) (start : Value α) (hops before : List (Hop α)) (hop : Hop α)
    (v : Value α) : Prop where
  split : ∃ after, hops = before ++ hop :: after
  leads : Leads atlas start before v

/-- The first hop is arrived at with the value that the path starts from. -/
theorem Arrives.first {v : Value α} {hop : Hop α} {hops : List (Hop α)} :
    Arrives atlas v (hop :: hops) [] hop v :=
  ⟨⟨hops, rfl⟩, .nil⟩

/-- A path arrives where it does behind its first step. -/
theorem Arrives.cons {u v w : Value α} {first hop : Hop α} {hops before : List (Hop α)}
    (hu : u.isNone = false) (hstep : first.step.apply atlas u = .ok v)
    (h : Arrives atlas v hops before hop w) :
    Arrives atlas u (first :: hops) (first :: before) hop w := by
  obtain ⟨⟨after, rfl⟩, hleads⟩ := h
  exact ⟨⟨after, rfl⟩, .cons hu hstep hleads⟩

/-- Without hops there is none to arrive at. -/
theorem not_arrives_nil {u w : Value α} {hop : Hop α} {before : List (Hop α)} :
    ¬ Arrives atlas u [] before hop w := by
  rintro ⟨⟨after, hsplit⟩, -⟩
  simp at hsplit

/-- What is arrived at is the first hop, or a later one by way of the first. -/
theorem Arrives.cases {u w : Value α} {first hop : Hop α} {hops before : List (Hop α)}
    (h : Arrives atlas u (first :: hops) before hop w) :
    (before = [] ∧ hop = first ∧ w = u) ∨
      ∃ v before', before = first :: before' ∧ u.isNone = false ∧
        first.step.apply atlas u = .ok v ∧ Arrives atlas v hops before' hop w := by
  obtain ⟨⟨after, hsplit⟩, hleads⟩ := h
  cases hleads with
  | nil =>
    cases hsplit
    exact .inl ⟨rfl, rfl, rfl⟩
  | cons hu hstep hleads =>
    cases hsplit
    exact .inr ⟨_, _, rfl, hu, hstep, ⟨after, rfl⟩, hleads⟩

/-- No hop is taken from an absent value, so the first one is arrived at and no other. -/
theorem Arrives.eq_of_none {w : Value α} {first hop : Hop α} {hops before : List (Hop α)}
    (h : Arrives atlas .none (first :: hops) before hop w) :
    before = [] ∧ hop = first ∧ w = .none := by
  rcases h.cases with hfirst | ⟨_, _, -, hu, -⟩
  · exact hfirst
  · cases hu

namespace Attribute

variable {a : Attribute α} {v : Value α} {before hops : List (Hop α)}

/-- From an absent value, a path is absent at an optional hop and misses a value at a required
one. -/
@[simp] theorem follow_none {hop : Hop α} :
    a.follow atlas .none before (hop :: hops) =
      if hop.isOptional then .ok .none
      else .error (.missingValue (a.describe (before ++ [hop]))) := by
  simp only [follow, Value.isNone, if_true]

/-- From a value that is there, a path takes the first step and goes on from what it gives. -/
@[simp] theorem follow_of_not_isNone {hop : Hop α} (hv : v.isNone = false) :
    a.follow atlas v before (hop :: hops) =
      hop.step.apply atlas v >>= fun next => a.follow atlas next (before ++ [hop]) hops := by
  rw [follow, if_neg (by simp [hv])]

/-- Following hops has a value if they lead to it, or if it is absent and an optional hop is arrived
at with an absent value. -/
theorem follow_eq_ok_iff {w : Value α} :
    a.follow atlas v before hops = .ok w ↔ Leads atlas v hops w ∨
      (w = .none ∧ ∃ taken hop, Arrives atlas v hops taken hop .none ∧ hop.isOptional = true) := by
  induction hops generalizing v before with
  | nil =>
    constructor
    · rintro ⟨⟩
      exact .inl .nil
    · rintro (h | ⟨-, _, _, h, -⟩)
      · cases h
        rfl
      · exact absurd h not_arrives_nil
  | cons hop hops ih =>
    cases hv : v.isNone with
    | true =>
      cases Value.eq_none_of_isNone hv
      rw [follow_none]
      constructor
      · intro h
        split at h
        next hoptional =>
          cases h
          exact .inr ⟨rfl, [], hop, .first, hoptional⟩
        · cases h
      · rintro (h | ⟨rfl, _, _, h, hoptional⟩)
        · cases h with
          | cons h => cases h
        · obtain ⟨-, rfl, -⟩ := h.eq_of_none
          rw [if_pos hoptional]
    | false =>
      rw [follow_of_not_isNone hv, Attempt.bind_eq_ok]
      constructor
      · rintro ⟨next, hstep, h⟩
        rcases ih.1 h with hleads | ⟨rfl, taken, last, harrives, hoptional⟩
        · exact .inl (.cons hv hstep hleads)
        · exact .inr ⟨rfl, hop :: taken, last, harrives.cons hv hstep, hoptional⟩
      · rintro (h | ⟨rfl, taken, last, h, hoptional⟩)
        · cases h with
          | cons _ hstep hleads => exact ⟨_, hstep, ih.2 (.inl hleads)⟩
        · rcases h.cases with ⟨-, -, rfl⟩ | ⟨next, taken, rfl, -, hstep, harrives⟩
          · cases hv
          · exact ⟨next, hstep, ih.2 (.inr ⟨rfl, taken, last, harrives, hoptional⟩)⟩

/-- Following hops fails with the error of a step that is taken, or at an absent value before a
required hop. The error then names the path up to this hop. -/
theorem follow_eq_error_iff {e : QueryError} :
    a.follow atlas v before hops = .error e ↔ ∃ taken hop w, Arrives atlas v hops taken hop w ∧
      ((w.isNone = false ∧ hop.step.apply atlas w = .error e) ∨
        (w = .none ∧ hop.isOptional = false ∧
          e = .missingValue (a.describe (before ++ taken ++ [hop])))) := by
  induction hops generalizing v before with
  | nil =>
    constructor
    · rintro ⟨⟩
    · rintro ⟨_, _, _, h, -⟩
      exact absurd h not_arrives_nil
  | cons hop hops ih =>
    cases hv : v.isNone with
    | true =>
      cases Value.eq_none_of_isNone hv
      rw [follow_none]
      constructor
      · intro h
        split at h
        · cases h
        next hrequired =>
          cases h
          refine ⟨[], hop, .none, .first, .inr ⟨rfl, Bool.eq_false_iff.2 hrequired, ?_⟩⟩
          rw [List.append_nil]
      · rintro ⟨taken, last, w, h, hend⟩
        obtain ⟨rfl, rfl, rfl⟩ := h.eq_of_none
        rcases hend with ⟨hw, -⟩ | ⟨-, hrequired, rfl⟩
        · cases hw
        · rw [if_neg (by simp [hrequired]), List.append_nil]
    | false =>
      rw [follow_of_not_isNone hv, Attempt.bind_eq_error]
      constructor
      · rintro (hstep | ⟨next, hstep, h⟩)
        · exact ⟨[], hop, v, .first, .inl ⟨hv, hstep⟩⟩
        · obtain ⟨taken, last, w, harrives, hend⟩ := ih.1 h
          refine ⟨hop :: taken, last, w, harrives.cons hv hstep, ?_⟩
          rwa [List.append_cons before]
      · rintro ⟨taken, last, w, h, hend⟩
        rcases h.cases with ⟨rfl, rfl, rfl⟩ | ⟨next, taken, rfl, -, hstep, harrives⟩
        · rcases hend with ⟨-, hstep⟩ | ⟨rfl, -⟩
          · exact .inl hstep
          · cases hv
        · rw [List.append_cons before] at hend
          exact .inr ⟨next, hstep, ih.2 ⟨taken, last, w, harrives, hend⟩⟩

end Attribute

end ElementAtlas
