import ElementAtlas.Proofs.Atlas.Sample
import ElementAtlas.Proofs.Query.Extension
import ElementAtlas.Report

/-!
# Composition of paths

A further step of a path is taken from what the path without it results in
(`Attribute.evaluate_composed`), although an evaluation returns at the first optional hop without a
value before it and looks at none of the later ones. This skips no hop that would have failed: in the
paths that can be written, all hops after an optional one are optional
(`Attribute.Composed.onceOptional`), and an absent value stays as it is along optional hops
(`Attribute.takeAll_none`).
-/

namespace ElementAtlas.Attribute

variable {α : Type}

/-! ## Paths that can be written -/

/-- The paths that can be written: from the element or from a value that is computed from it, by
fields and calls, the later ones of which can be made optional at any point. -/
inductive Composed : Attribute α → Prop
  | root : Composed root
  | custom (label : String) (value : Atlas α → Member α → Except QueryError (Value α)) :
      Composed (custom label value)
  | optional {a : Attribute α} : Composed a → Composed a.optional
  | field {a : Attribute α} (name : String) : Composed a → Composed (a.field name)
  | call {a : Attribute α} (arguments : Arguments α) : Composed a → Composed (a.call arguments)

/-- The required hops of the path come first. Once there are optional ones, all later are. -/
def OnceOptional (a : Attribute α) : Prop :=
  ∃ required optional,
    a.hops.map (·.isOptional) = List.replicate required false ++ List.replicate optional true ∧
      (0 < optional → a.isOptional = true)

namespace Composed

variable {a : Attribute α}

/-- Looking a method up and calling it composes a path. -/
theorem method (name : String) (arguments : List (Literal α)) (h : a.Composed) :
    (a.method name arguments).Composed :=
  (h.field name).call _

/-- Converting the value composes a path. -/
theorem convertTo (unit : String) (h : a.Composed) : (a.convertTo unit).Composed := h.method _ _

/-- Taking the magnitude composes a path. -/
theorem magnitude (h : a.Composed) : a.magnitude.Composed := h.field _

/-- A path to a field of the element is composed. -/
theorem ofField (name : String) : (ofField name : Attribute α).Composed := .field name .root

/-- The path to the temperature of the low transition is composed. -/
theorem lowTemperature : (lowTemperature : Attribute α).Composed := (ofField _).optional.field _

/-- The path to the temperature of the high transition is composed. -/
theorem highTemperature : (highTemperature : Attribute α).Composed := (ofField _).optional.field _

/-- The columns of a report that are shown unless others are asked for. -/
theorem standard {column : Column α} (h : column ∈ Column.standard) : column.path.Composed := by
  simp only [Column.standard, List.mem_cons, List.not_mem_nil, or_false] at h
  rcases h with rfl | rfl | rfl | rfl | rfl | rfl | rfl
  · exact ofField _
  · exact ((ofField _).convertTo _).magnitude
  · exact ((ofField _).convertTo _).magnitude
  · exact ((ofField _).optional.convertTo _).magnitude
  · exact ((ofField _).convertTo _).magnitude
  · exact (lowTemperature.convertTo _).magnitude
  · exact (highTemperature.convertTo _).magnitude

end Composed

/-- A path without hops has no optional hop to begin with. -/
theorem OnceOptional.of_hops_nil {a : Attribute α} (h : a.hops = []) : a.OnceOptional :=
  ⟨0, 0, by rw [h]; rfl, fun hpos => absurd hpos (Nat.lt_irrefl 0)⟩

/-- One more step keeps the required hops before the optional ones. -/
theorem OnceOptional.push {a : Attribute α} (step : Step α) (h : a.OnceOptional) :
    (a.push step).OnceOptional := by
  obtain ⟨required, optional, hflags, hoptional⟩ := h
  cases hlater : a.isOptional with
  | true =>
    refine ⟨required, optional + 1, ?_, fun _ => hlater⟩
    rw [Attribute.push, List.map_append, hflags, List.append_assoc, List.replicate_succ']
    simp [hlater]
  | false =>
    -- the path has no optional hop yet, so the new one is put behind required ones only
    have hnone : optional = 0 := by
      by_contra hne
      cases hlater.symm.trans (hoptional (Nat.pos_of_ne_zero hne))
    subst hnone
    refine ⟨required + 1, 0, ?_, fun hpos => absurd hpos (Nat.lt_irrefl 0)⟩
    rw [Attribute.push, List.map_append, hflags, List.replicate_succ']
    simp [hlater]

/-- A composed path has its required hops before its optional ones. -/
theorem Composed.onceOptional {a : Attribute α} (h : a.Composed) : a.OnceOptional := by
  induction h with
  | root => exact .of_hops_nil rfl
  | custom label value => exact .of_hops_nil rfl
  | optional _ ih =>
    obtain ⟨required, optional, hflags, -⟩ := ih
    exact ⟨required, optional, hflags, fun _ => rfl⟩
  | field name _ ih => exact ih.push _
  | call arguments _ ih => exact ih.push _

/-- Behind an optional hop there are only optional ones. -/
theorem OnceOptional.pairwise {a : Attribute α} (h : a.OnceOptional) :
    a.hops.Pairwise fun hop later => hop.isOptional = true → later.isOptional = true := by
  obtain ⟨required, optional, hflags, -⟩ := h
  have hpairwise : (a.hops.map (·.isOptional)).Pairwise fun x y => x = true → y = true := by
    rw [hflags, List.pairwise_append]
    simp [List.pairwise_replicate]
  exact List.pairwise_map.1 hpairwise

/-! ## Hop by hop -/

variable [Scalar α] {atlas : Atlas α} {m : Member α} {a : Attribute α} {v : Value α}
  {before hops : List (Hop α)} {step : Step α}

/-- Takes one hop from the value before it. -/
def takeHop (a : Attribute α) (atlas : Atlas α) (before : List (Hop α)) (hop : Hop α)
    (value : Value α) : Except QueryError (Value α) :=
  if value.isNone then
    if hop.isOptional then .ok .none else .error (.missingValue (a.describe (before ++ [hop])))
  else hop.step.apply atlas value

/-- An absent value stays absent at an optional hop, and is missing at a required one. -/
@[simp] theorem takeHop_none {hop : Hop α} : a.takeHop atlas before hop .none =
    if hop.isOptional then .ok .none
    else .error (.missingValue (a.describe (before ++ [hop]))) := by
  simp only [takeHop, Value.isNone, if_true]

/-- From a value that is there, a hop takes its step. -/
@[simp] theorem takeHop_of_not_isNone {hop : Hop α} (hv : v.isNone = false) :
    a.takeHop atlas before hop v = hop.step.apply atlas v := by
  rw [takeHop, if_neg (by simp [hv])]

/-- Takes all hops one after another. None of them ends the path before the others are taken. -/
def takeAll (a : Attribute α) (atlas : Atlas α) (value : Value α) (before : List (Hop α)) :
    List (Hop α) → Except QueryError (Value α)
  | [] => .ok value
  | hop :: hops => do
    let next ← a.takeHop atlas before hop value
    a.takeAll atlas next (before ++ [hop]) hops

/-- An absent value stays as it is while all hops are optional. -/
theorem takeAll_none (h : ∀ hop ∈ hops, hop.isOptional = true) :
    a.takeAll atlas .none before hops = .ok .none := by
  induction hops generalizing before with
  | nil => rfl
  | cons hop hops ih =>
    obtain ⟨hhop, hhops⟩ := List.forall_mem_cons.1 h
    have hnone : a.takeHop atlas before hop .none = .ok .none := by simp [hhop]
    rw [takeAll, Attempt.bind_of_ok hnone, ih hhops]

/-- Following hops, which returns at an optional hop without a value before it, has the same outcome
as taking all of them, unless a required hop stands behind an optional one. -/
theorem follow_eq_takeAll
    (h : hops.Pairwise fun hop later => hop.isOptional = true → later.isOptional = true) :
    a.follow atlas v before hops = a.takeAll atlas v before hops := by
  induction hops generalizing v before with
  | nil => rfl
  | cons hop hops ih =>
    obtain ⟨hlater, hhops⟩ := List.pairwise_cons.1 h
    cases hv : v.isNone with
    | true =>
      cases Value.eq_none_of_isNone hv
      rw [follow_none, takeAll, takeHop_none]
      split
      next hoptional =>
        exact (takeAll_none fun later hmem => hlater later hmem hoptional).symm
      next => rfl
    | false =>
      rw [follow_of_not_isNone hv, takeAll, takeHop_of_not_isNone hv]
      exact Attempt.bind_congr fun next _ => ih hhops

/-- The last hop is taken from what the hops before it lead to. -/
@[simp] theorem takeAll_concat {hop : Hop α} : a.takeAll atlas v before (hops ++ [hop]) =
    a.takeAll atlas v before hops >>= a.takeHop atlas (before ++ hops) hop := by
  induction hops generalizing v before with
  | nil =>
    rw [List.nil_append, takeAll, List.append_nil, takeAll]
    exact bind_pure _
  | cons first hops ih =>
    rw [List.cons_append, takeAll, takeAll, bind_assoc, List.append_cons before first hops]
    exact Attempt.bind_congr fun next _ => ih

/-- Hops are taken alike on the path and on the path with one more step. -/
@[simp] theorem takeAll_push : (a.push step).takeAll atlas v before hops =
    a.takeAll atlas v before hops := by
  induction hops generalizing v before with
  | nil => rfl
  | cons hop hops ih => exact Attempt.bind_congr fun next _ => ih

/-- The evaluation of a path takes all its hops from the value of its base. -/
theorem evaluate_eq_takeAll (h : a.OnceOptional) : a.evaluate atlas m =
    a.base.evaluate atlas m >>= fun start => a.takeAll atlas start [] a.hops :=
  Attempt.bind_congr fun _ _ => follow_eq_takeAll h.pairwise

/-- The path with one more step takes it from the value of the path. -/
theorem evaluate_push_eq (h : a.OnceOptional) : (a.push step).evaluate atlas m =
    a.evaluate atlas m >>= a.takeHop atlas a.hops ⟨step, a.isOptional⟩ := by
  rw [evaluate_eq_takeAll (h.push step), evaluate_eq_takeAll h, bind_assoc]
  refine Attempt.bind_congr fun start _ => ?_
  rw [takeAll_push]
  exact takeAll_concat

/-- The paths that can be written are evaluated hop by hop. Their required hops come first, so that
no hop is skipped that would have failed; and the path with one more step has the error of the path,
or it takes the step from the value of the path. If this is absent, the longer path is absent too if
its step is optional, and fails if it is required. -/
theorem evaluate_composed (h : a.Composed) (atlas : Atlas α) (m : Member α) :
    a.OnceOptional ∧
    a.evaluate atlas m =
      (a.base.evaluate atlas m >>= fun start => a.takeAll atlas start [] a.hops) ∧
    ∀ step, (a.push step).evaluate atlas m = a.evaluate atlas m >>= fun v =>
      if v.isNone then
        if a.isOptional then .ok .none else .error (.missingValue (a.push step).text)
      else step.apply atlas v :=
  ⟨h.onceOptional, evaluate_eq_takeAll h.onceOptional,
    fun _ => evaluate_push_eq h.onceOptional⟩

/-- Ice has no transition at a low temperature: a step from there is an error if it is required, and
an optional one leads nowhere, so the column of a report that shows its temperature is empty. -/
theorem evaluate_composed_freezing : ∃ (atlas : Atlas Float) (m : Member Float),
    m.element.name = "Ice" ∧
    ((ofField "low_transition").push (.field "temperature")).evaluate atlas m =
      .error (.missingValue "low_transition.temperature") ∧
    ((ofField "low_transition").optional.push (.field "temperature")).evaluate atlas m =
      .ok .none ∧
    ∃ column ∈ Column.standard, column.header = "TLow (°C)" ∧
      column.path.evaluate atlas m = .ok .none := by
  have hsample : (Sample.atlas : Except LoadError (Atlas Float)).toOption.map (fun atlas =>
      atlas.members.head?.map fun m => (m.element.name, m.element.lowTransition.isNone)) =
      some (some ("Ice", true)) := by
    decide +kernel
  obtain ⟨_, atlas, -, -, hfirst⟩ := Sample.exists_atlas hsample
  obtain ⟨m, -, hm⟩ := Option.map_eq_some_iff.1 hfirst
  obtain ⟨hname, hlow⟩ := Prod.mk.inj hm
  have hfield : Value.elementField m "low_transition" = .ok .none := by
    rw [Value.elementField, Option.isNone_iff_eq_none.1 hlow]
    rfl
  have habsent : (ofField "low_transition").evaluate atlas m = .ok .none :=
    evaluate_ofField hfield
  obtain ⟨-, -, hpush⟩ := evaluate_composed (.ofField "low_transition") atlas m
  obtain ⟨-, -, hpushOptional⟩ := evaluate_composed (.optional (.ofField "low_transition")) atlas m
  have hcolumn : (⟨"TLow (°C)", (Attribute.lowTemperature.convertTo "°C").magnitude, some 1⟩ :
      Column Float) ∈ Column.standard := by simp [Column.standard]
  obtain ⟨-, hwhole, -⟩ := evaluate_composed (Composed.standard hcolumn) atlas m
  refine ⟨atlas, m, hname, ?_, ?_, _, hcolumn, rfl, ?_⟩
  · have htext : ((ofField "low_transition").push (.field "temperature") : Attribute Float).text =
        "low_transition.temperature" := by decide
    rw [hpush, habsent, htext]
    rfl
  · rw [hpushOptional, evaluate_optional habsent]
    rfl
  · have hstart : (Attribute.lowTemperature.convertTo "°C").magnitude.base.evaluate atlas m =
        .ok (.element m) := rfl
    have hhop {path : Attribute Float} :
        path.takeHop atlas [] ⟨.field "low_transition", false⟩ (.element m) = .ok .none :=
      (takeHop_of_not_isNone rfl).trans hfield
    rw [hwhole, Attempt.bind_of_ok hstart]
    exact (Attempt.bind_of_ok hhop).trans (takeAll_none (by decide))

end ElementAtlas.Attribute
