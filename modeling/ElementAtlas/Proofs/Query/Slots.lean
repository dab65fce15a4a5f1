import Mathlib.Data.List.Nodup
import ElementAtlas.Proofs.Attempt
import ElementAtlas.Query.Arguments

/-!
# Slots of parameters

The parameters of a method have different names, so a slot is told by the name of its parameter
(`Slot.For.unique`), and it keeps its place while arguments go to the slots (`Slot.For.assign`). An
argument with a keyword needs the slot of that name to be free (`Slot.exists_assign_iff`) and
changes no other slot (`Slot.mem_assign_iff`). By induction this gives what a list of such arguments
needs (`Slot.exists_assignAll_iff`) and which slots it leaves with which arguments
(`Slot.mem_assignAll_iff`). Both are told by the slots at first, whatever the order of the list.
-/

namespace ElementAtlas

variable {α : Type} {n : Nat} {parameters : Vector String n} {slots slots' : Vector (Slot α) n}
  {keyword : String} {argument : Literal α} {keywords : List (String × Literal α)}

/-! ## Places of parameters -/

/-- Different names stand in different places. -/
theorem Arguments.place_inj (hnames : parameters.toList.Nodup) {i j : Nat} (hi : i < n)
    (hj : j < n) (heq : parameters[i] = parameters[j]) : i = j := by
  rw [← Vector.getElem_toList (by simpa using hi), ← Vector.getElem_toList (by simpa using hj)]
    at heq
  exact hnames.getElem_inj_iff.1 heq

/-- The parameters behind the first ones are those at later places. -/
@[simp] theorem Arguments.mem_drop_iff {k : Nat} : keyword ∈ parameters.toList.drop k ↔
    ∃ (i : Nat) (hi : i < n), parameters[i] = keyword ∧ k ≤ i := by
  simp only [List.mem_drop_iff_getElem, Vector.length_toList, Vector.getElem_toList]
  constructor
  · rintro ⟨j, hj, heq⟩
    exact ⟨k + j, by omega, heq, by omega⟩
  · rintro ⟨i, hi, heq, hle⟩
    exact ⟨i - k, by omega, by simpa only [Nat.add_sub_cancel' hle] using heq⟩

/-! ## One keyword -/

namespace Slot

/-- The slots of some parameters, one for each of them, in their order. -/
def For (slots : Vector (Slot α) n) (parameters : Vector String n) : Prop :=
  slots.map Slot.parameter = parameters

/-- The slots stand in the order of the parameters. -/
theorem For.getElem (h : For slots parameters) (i : Nat) (hi : i < n) :
    slots[i].parameter = parameters[i] := by
  subst h
  exact (Vector.getElem_map Slot.parameter hi).symm

/-- Parameters with different names have their slots in different places. -/
theorem For.place_inj (h : For slots parameters) (hnames : parameters.toList.Nodup) {i j : Nat}
    (hi : i < n) (hj : j < n) (heq : slots[i].parameter = slots[j].parameter) : i = j := by
  rw [h.getElem, h.getElem] at heq
  exact Arguments.place_inj hnames hi hj heq

/-- Parameters with different names have one slot each. -/
theorem For.unique (h : For slots parameters) (hnames : parameters.toList.Nodup)
    {slot other : Slot α} (hslot : slot ∈ slots) (hother : other ∈ slots)
    (heq : slot.parameter = other.parameter) : slot = other := by
  obtain ⟨i, hi, rfl⟩ := Vector.getElem_of_mem hslot
  obtain ⟨j, hj, rfl⟩ := Vector.getElem_of_mem hother
  cases h.place_inj hnames hi hj heq
  rfl

/-- The slot that is found for a keyword is that of the keyword. -/
theorem parameter_of_findFinIdx? {i : Nat} {hi : i < n}
    (h : slots.findFinIdx? (·.parameter = keyword) = some ⟨i, hi⟩) :
    slots[i].parameter = keyword := by
  have hfind : slots.find? (·.parameter = keyword) = some slots[i] := by
    rw [Vector.find?_eq_map_findFinIdx?_getElem, h]
    rfl
  simpa using Vector.find?_some hfind

/-- The argument with a keyword goes to the slot of that name, which has to be free. -/
theorem assign_eq_ok_iff (h : For slots parameters) (hnames : parameters.toList.Nodup) :
    assign slots keyword argument = .ok slots' ↔
      ∃ (i : Nat) (hi : i < n), slots[i] = ⟨keyword, none⟩ ∧
        slots' = slots.set i ⟨keyword, some argument⟩ := by
  rw [assign]
  cases hfind : slots.findFinIdx? (·.parameter = keyword) with
  | none =>
    refine ⟨nofun, fun ⟨i, hi, hslot, _⟩ => ?_⟩
    have hnone := Vector.findFinIdx?_eq_none_iff.1 hfind slots[i] (Vector.getElem_mem hi)
    simp [hslot] at hnone
  | some place =>
    obtain ⟨i, hi⟩ := place
    have hparameter := parameter_of_findFinIdx? hfind
    dsimp only [Fin.getElem_fin]
    rw [Attempt.guard_eq_ok, Option.not_isSome_iff_eq_none]
    constructor
    · rintro ⟨hfree, heq⟩
      cases heq
      exact ⟨i, hi, congrArg₂ Slot.mk hparameter hfree, rfl⟩
    · rintro ⟨j, hj, hslot, rfl⟩
      cases h.place_inj hnames hi hj (hparameter.trans (by rw [hslot]))
      exact ⟨congrArg Slot.argument hslot, rfl⟩

/-- An argument that has gone to a slot leaves the parameters of the slots as they are. -/
theorem For.assign (h : For slots parameters) (hnames : parameters.toList.Nodup)
    (hassign : assign slots keyword argument = .ok slots') : For slots' parameters := by
  obtain ⟨i, hi, hslot, rfl⟩ := (assign_eq_ok_iff h hnames).1 hassign
  rw [For, Vector.map_set, h]
  ext j hj
  rw [Vector.getElem_set]
  split
  next heq =>
    subst heq
    rw [← h.getElem i hi, hslot]
  next => rfl

/-- One slot has got the argument, and all slots of other parameters are as before. -/
theorem mem_assign_iff (h : For slots parameters) (hnames : parameters.toList.Nodup)
    (hassign : assign slots keyword argument = .ok slots') {slot : Slot α} :
    slot ∈ slots' ↔
      slot = ⟨keyword, some argument⟩ ∨ slot ∈ slots ∧ slot.parameter ≠ keyword := by
  obtain ⟨i, hi, hslot, rfl⟩ := (assign_eq_ok_iff h hnames).1 hassign
  constructor
  · intro hmem
    obtain ⟨j, hj, rfl⟩ := Vector.getElem_of_mem hmem
    rw [Vector.getElem_set]
    split
    next => exact .inl rfl
    next hne =>
      refine .inr ⟨Vector.getElem_mem hj, fun hkeyword => hne ?_⟩
      exact h.place_inj hnames hi hj (by rw [hslot, hkeyword])
  · rintro (rfl | ⟨hmem, hne⟩)
    · exact Vector.mem_set hi
    · obtain ⟨j, hj, rfl⟩ := Vector.getElem_of_mem hmem
      refine Vector.mem_iff_getElem.2 ⟨j, hj, Vector.getElem_set_ne hi hj ?_⟩
      rintro rfl
      exact hne (congrArg Slot.parameter hslot)

/-- A free slot of that name is all that an argument with a keyword needs. -/
theorem exists_assign_iff (h : For slots parameters) (hnames : parameters.toList.Nodup) :
    (∃ slots', assign slots keyword argument = .ok slots') ↔ ⟨keyword, none⟩ ∈ slots := by
  simp only [assign_eq_ok_iff h hnames, Vector.mem_iff_getElem]
  constructor
  · rintro ⟨_, i, hi, hslot, -⟩
    exact ⟨i, hi, hslot⟩
  · rintro ⟨i, hi, hslot⟩
    exact ⟨_, i, hi, hslot, rfl⟩

/-! ## All keywords -/

/-- Gives arguments with keywords to their parameters, one after another. -/
def assignAll (slots : Vector (Slot α) n) (keywords : List (String × Literal α)) :
    Except ArgumentFault (Vector (Slot α) n) :=
  keywords.foldlM (fun slots (keyword, argument) => assign slots keyword argument) slots

/-- The first keyword is assigned before the others. -/
theorem assignAll_cons : assignAll slots ((keyword, argument) :: keywords) =
    assign slots keyword argument >>= fun slots' => assignAll slots' keywords :=
  List.foldlM_cons

/-- Arguments with keywords all find their slots free if no keyword is given twice and each is the
parameter of a slot that was free at first. -/
theorem exists_assignAll_iff (h : For slots parameters) (hnames : parameters.toList.Nodup) :
    (∃ slots', assignAll slots keywords = .ok slots') ↔
      (keywords.map Prod.fst).Nodup ∧
        ∀ keyword ∈ keywords.map Prod.fst, ⟨keyword, none⟩ ∈ slots := by
  induction keywords generalizing slots with
  | nil => exact iff_of_true ⟨slots, rfl⟩ ⟨.nil, nofun⟩
  | cons given keywords ih =>
    obtain ⟨keyword, argument⟩ := given
    -- the first keyword takes its slot and leaves all others free that were free
    have hfree {next : Vector (Slot α) n} (hnext : assign slots keyword argument = .ok next)
        {other : String} : ⟨other, none⟩ ∈ next ↔ ⟨other, none⟩ ∈ slots ∧ other ≠ keyword := by
      simp [mem_assign_iff h hnames hnext]
    rw [assignAll_cons, List.map_cons, List.nodup_cons, List.forall_mem_cons]
    constructor
    · rintro ⟨slots', hassign⟩
      obtain ⟨next, hnext, hrest⟩ := Attempt.bind_eq_ok.1 hassign
      obtain ⟨hnodup, hall⟩ := (ih (h.assign hnames hnext)).1 ⟨slots', hrest⟩
      refine ⟨⟨fun hmem => ?_, hnodup⟩, (exists_assign_iff h hnames).1 ⟨next, hnext⟩,
        fun other hother => ((hfree hnext).1 (hall other hother)).1⟩
      exact ((hfree hnext).1 (hall keyword hmem)).2 rfl
    · rintro ⟨⟨hnew, hnodup⟩, hslot, hall⟩
      obtain ⟨next, hnext⟩ : ∃ next, assign slots keyword argument = .ok next :=
        (exists_assign_iff h hnames).2 hslot
      refine Attempt.exists_bind hnext ((ih (h.assign hnames hnext)).2 ⟨hnodup, ?_⟩)
      intro other hother
      exact (hfree hnext).2 ⟨hall other hother, ne_of_mem_of_not_mem hother hnew⟩

/-- Assigning keywords keeps the parameters of the slots. -/
theorem For.assignAll (h : For slots parameters) (hnames : parameters.toList.Nodup)
    (hassign : assignAll slots keywords = .ok slots') : For slots' parameters := by
  induction keywords generalizing slots with
  | nil =>
    cases hassign
    exact h
  | cons given keywords ih =>
    obtain ⟨next, hnext, hrest⟩ := Attempt.bind_eq_ok.1 hassign
    exact ih (h.assign hnames hnext) hrest

/-- Afterwards a slot has an argument if it had one before or was given one by its name. -/
theorem mem_assignAll_iff (h : For slots parameters) (hnames : parameters.toList.Nodup)
    (hassign : assignAll slots keywords = .ok slots') :
    ⟨keyword, some argument⟩ ∈ slots' ↔
      ⟨keyword, some argument⟩ ∈ slots ∨ (keyword, argument) ∈ keywords := by
  induction keywords generalizing slots with
  | nil =>
    cases hassign
    simp
  | cons given keywords ih =>
    obtain ⟨key, value⟩ := given
    obtain ⟨next, hnext, hrest⟩ := Attempt.bind_eq_ok.1 hassign
    have hfree : ⟨key, none⟩ ∈ slots := (exists_assign_iff h hnames).1 ⟨next, hnext⟩
    -- the slot of the keyword was free, so no slot of that name has lost an argument
    have hne (hheld : ⟨keyword, some argument⟩ ∈ slots) : keyword ≠ key := by
      rintro rfl
      cases h.unique hnames hheld hfree rfl
    rw [ih (h.assign hnames hnext) hrest, mem_assign_iff h hnames hnext, and_iff_left_of_imp hne,
      or_comm (a := _ = _), or_assoc, List.mem_cons, Slot.mk.injEq, Option.some.injEq,
      Prod.mk.injEq]

/-! ## The slots at first and at last -/

/-- The slots before any keyword: those of the first parameters have the arguments without one. -/
def first (positional : List (Literal α)) (parameters : Vector String n) : Vector (Slot α) n :=
  Vector.ofFn fun i => ⟨parameters.get i, positional[i.val]?⟩

variable {positional : List (Literal α)}

/-- The slots that binding starts from are those of the parameters. -/
theorem for_first : For (first positional parameters) parameters := by
  ext1 i hi
  rw [first, Vector.getElem_map, Vector.getElem_ofFn]
  rfl

/-- A slot that binding starts from holds the positional argument at its place, if there is one. -/
@[simp] theorem mem_first_iff {slot : Slot α} : slot ∈ first positional parameters ↔
    ∃ (i : Nat) (hi : i < n), parameters[i] = slot.parameter ∧ positional[i]? = slot.argument := by
  rw [first, Vector.mem_ofFn]
  constructor
  · rintro ⟨i, rfl⟩
    exact ⟨i, i.2, rfl, rfl⟩
  · rintro ⟨i, hi, hparameter, hargument⟩
    exact ⟨⟨i, hi⟩, congrArg₂ Slot.mk hparameter hargument⟩

/-- At first the slots of the parameters after the positional arguments are free. -/
theorem free_first_iff : ⟨keyword, none⟩ ∈ first positional parameters ↔
    keyword ∈ parameters.toList.drop positional.length := by
  simp only [mem_first_iff, List.getElem?_eq_none_iff, Arguments.mem_drop_iff]

/-- At first only the slots of the parameters of the positional arguments have an argument. -/
theorem held_first_iff : (∃ argument, ⟨keyword, some argument⟩ ∈ first positional parameters) ↔
    keyword ∈ parameters.toList.take positional.length := by
  simp only [mem_first_iff, List.mem_take_iff_getElem, Vector.length_toList,
    Vector.getElem_toList, List.getElem?_eq_some_iff]
  constructor
  · rintro ⟨argument, i, hi, hparameter, hplace, -⟩
    exact ⟨i, by omega, hparameter⟩
  · rintro ⟨i, hi, hparameter⟩
    exact ⟨_, i, by omega, hparameter, by omega, rfl⟩

/-- At first the slots have the positional arguments, and as many are free as there are more
parameters. -/
theorem arguments_first (hlength : positional.length ≤ n) :
    (first positional parameters).toList.map Slot.argument =
      positional.map some ++ List.replicate (n - positional.length) none := by
  refine List.ext_getElem (by simp; omega) fun i hi hi' => ?_
  simp only [first, List.getElem_map, Vector.getElem_toList, Vector.getElem_ofFn,
    List.getElem_append, List.length_map, List.getElem_replicate]
  split
  next hplace => rw [List.getElem?_eq_getElem hplace]
  next hplace => rw [List.getElem?_eq_none (Nat.not_lt.1 hplace)]

/-- The argument that a slot has got. -/
def take (slot : Slot α) : Except ArgumentFault (Literal α) :=
  match slot.argument with
  | some argument => .ok argument
  | none => .error (.missing slot.parameter)

/-- A slot gives the argument that it holds. -/
@[simp] theorem take_eq_ok_iff {slot : Slot α} :
    slot.take = .ok argument ↔ slot.argument = some argument := by
  rw [take]
  split
  next value heq => rw [heq, Except.ok.injEq, Option.some.injEq]
  next heq => simp [heq]

/-- Arguments are bound if every slot has got one. -/
@[simp] theorem mapM_take_eq_ok_iff {given : Vector (Literal α) n} : slots.mapM take = .ok given ↔
    ∀ (i : Nat) (hi : i < n), slots[i].argument = some given[i] := by
  simp only [Attempt.vectorMapM_eq_ok, take_eq_ok_iff]

/-- An argument that a slot has got is bound in the place of its parameter. -/
theorem For.exists_place_of_mapM_take {given : Vector (Literal α) n} (h : For slots parameters)
    (hgiven : slots.mapM take = .ok given) (hmem : ⟨keyword, some argument⟩ ∈ slots) :
    ∃ (i : Nat) (hi : i < n), parameters[i] = keyword ∧ given[i] = argument := by
  obtain ⟨i, hi, hslot⟩ := Vector.getElem_of_mem hmem
  have hargument := mapM_take_eq_ok_iff.1 hgiven i hi
  rw [hslot] at hargument
  refine ⟨i, hi, ?_, (Option.some.inj hargument).symm⟩
  rw [← h.getElem i hi, hslot]

/-- Every slot has got an argument if every parameter has one. -/
theorem exists_mapM_take_iff (h : For slots parameters) (hnames : parameters.toList.Nodup) :
    (∃ given, slots.mapM take = .ok given) ↔
      ∀ parameter ∈ parameters, ∃ argument, ⟨parameter, some argument⟩ ∈ slots := by
  have hall : (∃ given, slots.mapM take = .ok given) ↔
      ∀ slot ∈ slots, ∃ argument, slot.argument = some argument := by
    rw [← Attempt.exists_map_eq_ok_iff (f := Vector.toList), Attempt.toList_vectorMapM,
      Attempt.exists_mapM_iff]
    simp only [Vector.mem_toList_iff, take_eq_ok_iff]
  rw [hall]
  constructor
  · intro hslots parameter hparameter
    obtain ⟨i, hi, rfl⟩ := Vector.getElem_of_mem hparameter
    obtain ⟨argument, hargument⟩ := hslots slots[i] (Vector.getElem_mem hi)
    have hslot : slots[i] = ⟨parameters[i], some argument⟩ :=
      congrArg₂ Slot.mk (h.getElem i hi) hargument
    exact ⟨argument, hslot ▸ Vector.getElem_mem hi⟩
  · intro hparameters slot hslot
    obtain ⟨i, hi, rfl⟩ := Vector.getElem_of_mem hslot
    obtain ⟨argument, hargument⟩ := hparameters parameters[i] (Vector.getElem_mem hi)
    rw [h.unique hnames hslot hargument (h.getElem i hi)]
    exact ⟨argument, rfl⟩

end Slot

end ElementAtlas
