import ElementAtlas.Proofs.Query.Slots

/-!
# Binding of arguments

Arguments are bound to parameters with different names if and only if they suit them
(`Arguments.exists_bind_iff`), and then each stands in the place of its parameter
(`Arguments.bind_eq_ok_iff`). Neither depends on the order of the keywords (`Suit.perm`,
`Placed.perm`).

The slots of `Arguments.bind` carry the names of their parameters, so it never looks for a place.
`Arguments.bindAt` keeps the arguments and the names in two lists, looks up in one of them what
stands in a place that was found in the other, and has no outcome if there is no such place. Its
outcome is that of `Arguments.bind` (`Arguments.bindAt_eq`), so every place is there.
-/

namespace ElementAtlas.Arguments

variable {α : Type} {n : Nat} {parameters : Vector String n} {slots : Vector (Slot α) n}
  {keyword : String} {argument : Literal α} {keywords : List (String × Literal α)}
  {arguments : Arguments α} {given : Vector (Literal α) n}

/-! ## Binding in three parts -/

/-- Binding in three parts: the slots at first, the keywords, and the slots at last. -/
theorem bind_eq : arguments.bind parameters =
    if n < arguments.positional.length then .error (.tooMany n arguments.positional.length)
    else Slot.assignAll (Slot.first arguments.positional parameters) arguments.keywords >>=
      fun slots => slots.mapM Slot.take :=
  rfl

/-- Binding succeeds if there are not too many positional arguments, every keyword finds a free
slot, and every slot is taken in the end. -/
theorem bind_eq_ok_iff_slots :
    arguments.bind parameters = .ok given ↔ arguments.positional.length ≤ n ∧
      ∃ slots, Slot.assignAll (Slot.first arguments.positional parameters) arguments.keywords =
        .ok slots ∧ slots.mapM Slot.take = .ok given := by
  simp [bind_eq]

/-- When the keywords have gone to their slots, the slots that have an argument are those of the
first parameters and those of the keywords. -/
theorem exists_given_iff (hnames : parameters.toList.Nodup)
    (hassign : Slot.assignAll (Slot.first arguments.positional parameters) arguments.keywords =
      .ok slots) :
    (∃ given, slots.mapM Slot.take = .ok given) ↔ ∀ parameter ∈ parameters.toList,
      parameter ∈ parameters.toList.take arguments.positional.length ∨
        parameter ∈ arguments.keywords.map Prod.fst := by
  have hfirst : Slot.For (Slot.first arguments.positional parameters) parameters := Slot.for_first
  rw [Slot.exists_mapM_take_iff (hfirst.assignAll hnames hassign) hnames]
  simp only [Slot.mem_assignAll_iff hfirst hnames hassign, exists_or, Slot.held_first_iff,
    List.mem_map, Prod.exists, exists_and_right, exists_eq_right, Vector.mem_toList_iff]

/-! ## Arguments that suit the parameters -/

/-- The arguments are as many as the parameters: the first parameters have those without a keyword,
and the keywords are the other parameters, each once, in any order. -/
structure Suit (arguments : Arguments α) (parameters : Vector String n) : Prop where
  length_le : arguments.positional.length ≤ n
  keywords_perm :
    (arguments.keywords.map Prod.fst).Perm (parameters.toList.drop arguments.positional.length)

/-- Arguments without a keyword stand in the first places, and an argument with a keyword in the
place of the parameter of that name. -/
structure Placed (arguments : Arguments α) (parameters : Vector String n)
    (given : Vector (Literal α) n) : Prop where
  positional {i : Nat} (hi : i < n) {argument : Literal α} :
    arguments.positional[i]? = some argument → given[i] = argument
  keyword {keyword : String} {argument : Literal α} : (keyword, argument) ∈ arguments.keywords →
    ∃ (i : Nat) (hi : i < n), parameters[i] = keyword ∧ given[i] = argument

/-- Some names are those behind a place of a list of different names, each once, if no name is
missing and none comes twice or stands before the place. -/
theorem perm_drop_iff {names keys : List String} (hnames : names.Nodup) (k : Nat) :
    keys.Perm (names.drop k) ↔ keys.Nodup ∧ (∀ key ∈ keys, key ∈ names.drop k) ∧
      ∀ name ∈ names, name ∈ names.take k ∨ name ∈ keys := by
  have hdrop : (names.drop k).Nodup := hnames.sublist (List.drop_sublist k names)
  have hsplit (name : String) : name ∈ names ↔ name ∈ names.take k ∨ name ∈ names.drop k := by
    rw [← List.mem_append, List.take_append_drop]
  constructor
  · intro h
    refine ⟨h.nodup_iff.2 hdrop, fun key => h.mem_iff.1, fun name hname => ?_⟩
    rw [h.mem_iff]
    exact (hsplit name).1 hname
  · rintro ⟨hkeys, hsubset, hall⟩
    refine (List.perm_ext_iff_of_nodup hkeys hdrop).2 fun name => ⟨hsubset name, fun hname => ?_⟩
    refine (hall name ((hsplit name).2 (.inr hname))).resolve_left fun htake => ?_
    exact List.disjoint_take_drop hnames (Nat.le_refl k) htake hname

/-- Arguments are bound if they suit the parameters. -/
theorem exists_bind_iff (hnames : parameters.toList.Nodup) :
    (∃ given, arguments.bind parameters = .ok given) ↔ arguments.Suit parameters := by
  have hfirst : Slot.For (Slot.first arguments.positional parameters) parameters := Slot.for_first
  simp only [bind_eq_ok_iff_slots]
  constructor
  · rintro ⟨given, hlength, slots, hassign, hgiven⟩
    obtain ⟨hnodup, hfree⟩ := (Slot.exists_assignAll_iff hfirst hnames).1 ⟨slots, hassign⟩
    refine ⟨hlength, (perm_drop_iff hnames _).2 ⟨hnodup, fun key hkey => ?_,
      (exists_given_iff hnames hassign).1 ⟨given, hgiven⟩⟩⟩
    exact Slot.free_first_iff.1 (hfree key hkey)
  · rintro ⟨hlength, hperm⟩
    obtain ⟨hnodup, hsubset, hall⟩ := (perm_drop_iff hnames _).1 hperm
    obtain ⟨slots, hassign⟩ := (Slot.exists_assignAll_iff hfirst hnames).2
      ⟨hnodup, fun key hkey => Slot.free_first_iff.2 (hsubset key hkey)⟩
    obtain ⟨given, hgiven⟩ := (exists_given_iff hnames hassign).2 hall
    exact ⟨given, hlength, slots, hassign, hgiven⟩

/-- What is bound stands where it was given. -/
theorem placed_of_bind (hnames : parameters.toList.Nodup)
    (h : arguments.bind parameters = .ok given) : arguments.Placed parameters given := by
  obtain ⟨-, slots, hassign, hgiven⟩ := bind_eq_ok_iff_slots.1 h
  have hfirst : Slot.For (Slot.first arguments.positional parameters) parameters := Slot.for_first
  have hbound {parameter : String} {argument : Literal α}
      (hheld : ⟨parameter, some argument⟩ ∈ Slot.first arguments.positional parameters ∨
        (parameter, argument) ∈ arguments.keywords) :
      ∃ (i : Nat) (hi : i < n), parameters[i] = parameter ∧ given[i] = argument :=
    (hfirst.assignAll hnames hassign).exists_place_of_mapM_take hgiven
      ((Slot.mem_assignAll_iff hfirst hnames hassign).2 hheld)
  constructor
  case keyword => exact fun hkeyword => hbound (.inr hkeyword)
  case positional =>
    intro i hi argument hargument
    obtain ⟨j, hj, hparameter, hplaced⟩ :=
      hbound (.inl (Slot.mem_first_iff.2 ⟨i, hi, rfl, hargument⟩))
    cases place_inj hnames hj hi hparameter
    exact hplaced

/-- Arguments that suit the parameters have one place each. -/
theorem Placed.unique {other : Vector (Literal α) n} (hnames : parameters.toList.Nodup)
    (hsuit : arguments.Suit parameters) (hgiven : arguments.Placed parameters given)
    (hother : arguments.Placed parameters other) : given = other := by
  ext1 i hi
  cases hpositional : arguments.positional[i]? with
  | some argument => rw [hgiven.positional hi hpositional, hother.positional hi hpositional]
  | none =>
    have hdrop : parameters[i] ∈ parameters.toList.drop arguments.positional.length :=
      mem_drop_iff.2 ⟨i, hi, rfl, List.getElem?_eq_none_iff.1 hpositional⟩
    obtain ⟨⟨keyword, argument⟩, hkeyword, heq⟩ :=
      List.mem_map.1 (hsuit.keywords_perm.mem_iff.2 hdrop)
    obtain ⟨j, hj, hparameter, hbound⟩ := hgiven.keyword hkeyword
    obtain ⟨k, hk, hparameter', hbound'⟩ := hother.keyword hkeyword
    cases place_inj hnames hj hi (hparameter.trans heq)
    cases place_inj hnames hk hi (hparameter'.trans heq)
    rw [hbound, hbound']

/-- Arguments are bound if they suit the parameters, and then as they are placed. -/
theorem bind_eq_ok_iff (hnames : parameters.toList.Nodup) :
    arguments.bind parameters = .ok given ↔
      arguments.Suit parameters ∧ arguments.Placed parameters given := by
  refine ⟨fun h => ⟨(exists_bind_iff hnames).1 ⟨given, h⟩, placed_of_bind hnames h⟩, ?_⟩
  rintro ⟨hsuit, hplaced⟩
  obtain ⟨other, hother⟩ := (exists_bind_iff hnames).2 hsuit
  rw [hother, hplaced.unique hnames hsuit (placed_of_bind hnames hother)]

/-- Arguments suit the parameters in any order of the keywords. -/
theorem Suit.perm (h : arguments.Suit parameters) (hperm : arguments.keywords.Perm keywords) :
    Suit ⟨arguments.positional, keywords⟩ parameters :=
  ⟨h.length_le, (hperm.symm.map Prod.fst).trans h.keywords_perm⟩

/-- Arguments are placed alike in any order of the keywords. -/
theorem Placed.perm (h : arguments.Placed parameters given)
    (hperm : arguments.keywords.Perm keywords) :
    Placed ⟨arguments.positional, keywords⟩ parameters given :=
  ⟨h.positional, fun hkeyword => h.keyword (hperm.mem_iff.2 hkeyword)⟩

/-! ## Places -/

/-- An outcome that was reached without looking for a place that is not there. -/
def found {β : Type} (outcome : Except ArgumentFault β) : ExceptT ArgumentFault Option β :=
  ExceptT.mk (some outcome)

/-- What stands in a place of a list. There is no outcome if the list ends before that place. -/
def readAt {β : Type} (l : List β) (place : Nat) : ExceptT ArgumentFault Option β :=
  ExceptT.lift l[place]?

/-- Gives an argument with a keyword to its parameter, where the names of the parameters and the
slots are two lists, and the slot is looked up in the place where the name was found. -/
def assignAt (parameters : List String) (slots : List (Option (Literal α))) (keyword : String)
    (argument : Literal α) : ExceptT ArgumentFault Option (List (Option (Literal α))) :=
  match parameters.idxOf? keyword with
  | none => throw (.unexpectedKeyword keyword)
  | some place => do
    if (← readAt slots place).isSome then throw (.givenTwice keyword)
    else return slots.set place (some argument)

/-- Assigns keyword arguments one after another. -/
def assignAllAt (parameters : List String) (slots : List (Option (Literal α)))
    (keywords : List (String × Literal α)) :
    ExceptT ArgumentFault Option (List (Option (Literal α))) :=
  keywords.foldlM (fun slots (keyword, argument) => assignAt parameters slots keyword argument)
    slots

/-- The argument of a slot. Where there is none, the name of the parameter is looked up in the place
of the slot. -/
def takeAt (parameters : List String) (slot : Option (Literal α)) (place : Nat) :
    ExceptT ArgumentFault Option (Literal α) :=
  match slot with
  | some argument => return argument
  | none => do throw (.missing (← readAt parameters place))

/-- Takes the arguments of all slots. -/
def takeAllAt (parameters : List String) (slots : List (Option (Literal α))) :
    ExceptT ArgumentFault Option (List (Literal α)) :=
  slots.zipIdx.mapM fun (slot, place) => takeAt parameters slot place

/-- Binds arguments to `n` parameters whose names are in a list. -/
def bindAt (arguments : Arguments α) (n : Nat) (parameters : List String) :
    ExceptT ArgumentFault Option (List (Literal α)) := do
  if n < arguments.positional.length then throw (.tooMany n arguments.positional.length)
  else
    let free := n - arguments.positional.length
    let slots := arguments.positional.map some ++ List.replicate free none
    takeAllAt parameters (← assignAllAt parameters slots arguments.keywords)

/-- Keywords are assigned one by one. -/
theorem assignAllAt_cons {names : List String} {slots : List (Option (Literal α))} :
    assignAllAt names slots ((keyword, argument) :: keywords) =
      assignAt names slots keyword argument >>= fun slots' => assignAllAt names slots' keywords :=
  List.foldlM_cons

@[simp] theorem found_ok_bind {β γ : Type} {b : β} {f : β → ExceptT ArgumentFault Option γ} :
    found (.ok b) >>= f = f b := rfl

/-- Steps that are found are taken one after the other as those in the simpler monad. -/
theorem found_bind {β γ : Type} {x : Except ArgumentFault β} {f : β → Except ArgumentFault γ} :
    found x >>= (fun b => found (f b)) = found (x >>= f) := by
  cases x <;> rfl

/-- A list of steps that are found is taken as in the simpler monad. -/
theorem mapM_found {β γ : Type} {l : List β} {f : β → ExceptT ArgumentFault Option γ}
    {g : β → Except ArgumentFault γ} (h : ∀ b ∈ l, f b = found (g b)) :
    l.mapM f = found (l.mapM g) := by
  induction l with
  | nil => rfl
  | cons b l ih =>
    obtain ⟨hb, hl⟩ := List.forall_mem_cons.1 h
    rw [List.mapM_cons, List.mapM_cons, hb, ih hl, ← found_bind]
    congr 1
    funext c
    rw [← found_bind]
    rfl

/-- A name is found in the list of the parameters where it is found on the slots. -/
theorem idxOf?_eq (h : Slot.For slots parameters) : parameters.toList.idxOf? keyword =
    (slots.findFinIdx? (·.parameter = keyword)).map Fin.val := by
  subst h
  rw [List.idxOf?, Vector.toList_map, List.findIdx?_map, List.findIdx?_eq_map_findFinIdx?_val]
  refine (congrArg (Option.map fun i => i.val) Vector.findFinIdx?_toList).trans ?_
  rw [Option.map_map]
  rfl

/-- The slot of a parameter is there in its place, and the argument goes to it. -/
theorem assignAt_eq (h : Slot.For slots parameters) :
    assignAt parameters.toList (slots.toList.map Slot.argument) keyword argument =
      found ((Slot.assign slots keyword argument).map (·.toList.map Slot.argument)) := by
  rw [assignAt, idxOf?_eq h, Slot.assign]
  cases slots.findFinIdx? (·.parameter = keyword) with
  | none => rfl
  | some i =>
    have hread : readAt (slots.toList.map Slot.argument) i = found (.ok slots[i].argument) := by
      have hplace : (slots.toList.map Slot.argument)[i.val]? = some slots[i].argument := by simp
      rw [readAt, hplace]
      rfl
    have hset : (slots.toList.map Slot.argument).set i (some argument) =
        (slots.set i ⟨keyword, some argument⟩).toList.map Slot.argument := by
      rw [Vector.toList_set, List.map_set]
    simp only [Option.map_some, hread, found_ok_bind, hset]
    split_ifs
    · rfl
    · rfl

/-- Assigning keywords by the places of the names is assigning them to the slots of the
parameters. -/
theorem assignAllAt_eq (h : Slot.For slots parameters) (hnames : parameters.toList.Nodup) :
    assignAllAt parameters.toList (slots.toList.map Slot.argument) keywords =
      found ((Slot.assignAll slots keywords).map (·.toList.map Slot.argument)) := by
  induction keywords generalizing slots with
  | nil => rfl
  | cons given keywords ih =>
    obtain ⟨keyword, argument⟩ := given
    rw [assignAllAt_cons, assignAt_eq h, Slot.assignAll_cons]
    cases hassign : Slot.assign slots keyword argument with
    | error fault => rfl
    | ok next => exact ih (h.assign hnames hassign)

/-- The name of a parameter without an argument is there in the place of its slot. -/
theorem takeAllAt_eq (h : Slot.For slots parameters) :
    takeAllAt parameters.toList (slots.toList.map Slot.argument) =
      found ((slots.mapM Slot.take).map Vector.toList) := by
  have htake (slot : Slot α × Nat) (hslot : slot ∈ slots.toList.zipIdx) :
      takeAt parameters.toList slot.1.argument slot.2 = found slot.1.take := by
    obtain ⟨⟨parameter, argument⟩, place⟩ := slot
    have hplace := congrArg (Option.map Slot.parameter) (List.mem_zipIdx_iff_getElem?.1 hslot)
    rw [← List.getElem?_map, ← Vector.toList_map, h] at hplace
    cases argument with
    | some argument => rfl
    | none =>
      simp only [takeAt, readAt, hplace]
      rfl
  rw [takeAllAt, List.zipIdx_map, List.mapM_map, Attempt.toList_vectorMapM]
  refine (mapM_found htake).trans (congrArg found ?_)
  conv_rhs => rw [← List.zipIdx_map_fst 0 slots.toList, List.mapM_map]
  rfl

/-- Binding by places finds every place, and has the outcome of binding. -/
theorem bindAt_eq (hnames : parameters.toList.Nodup) :
    arguments.bindAt n parameters.toList =
      found ((arguments.bind parameters).map Vector.toList) := by
  have hfirst : Slot.For (Slot.first arguments.positional parameters) parameters := Slot.for_first
  rw [bindAt, bind_eq]
  split_ifs with hlength
  · rfl
  dsimp only
  rw [← Slot.arguments_first (Nat.not_lt.1 hlength), assignAllAt_eq hfirst hnames]
  cases hassign :
      Slot.assignAll (Slot.first arguments.positional parameters) arguments.keywords with
  | error fault => rfl
  | ok slots => exact takeAllAt_eq (hfirst.assignAll hnames hassign)

/-- With fewer names than parameters there is a place without a name. -/
example : bindAt (α := Rat) ⟨[], []⟩ 1 [] = ExceptT.mk none := rfl

/-! ## Exact binding -/

/-- Arguments are bound to parameters with different names if and only if they suit them, and then
each stands in its place. The order of the keywords does not matter, neither for whether the
arguments are bound nor for how. Every place that is looked up on the way is there. -/
theorem bind_exact (hnames : parameters.toList.Nodup) (arguments : Arguments α) :
    ((∃ given, arguments.bind parameters = .ok given) ↔ arguments.Suit parameters) ∧
    (∀ given, arguments.bind parameters = .ok given ↔
      arguments.Suit parameters ∧ arguments.Placed parameters given) ∧
    (∀ keywords, arguments.keywords.Perm keywords → ∀ given,
      bind ⟨arguments.positional, keywords⟩ parameters = .ok given ↔
        arguments.bind parameters = .ok given) ∧
    arguments.bindAt n parameters.toList =
      found ((arguments.bind parameters).map Vector.toList) := by
  refine ⟨exists_bind_iff hnames, fun given => bind_eq_ok_iff hnames,
    fun keywords hperm given => ?_, bindAt_eq hnames⟩
  rw [bind_eq_ok_iff hnames, bind_eq_ok_iff hnames]
  exact ⟨fun ⟨hsuit, hplaced⟩ => ⟨hsuit.perm hperm.symm, hplaced.perm hperm.symm⟩,
    fun ⟨hsuit, hplaced⟩ => ⟨hsuit.perm hperm, hplaced.perm hperm⟩⟩

/-- One argument by its place and one by its name, for the parameters of a heat energy. -/
theorem bind_exact_heat :
    (#v["delta_t", "mass"]).toList.Nodup ∧
    bind (α := Rat) ⟨[], [("mass", .number 5), ("delta_t", .number 36)]⟩ (#v["delta_t", "mass"]) =
      .ok (#v[.number 36, .number 5]) ∧
    ¬ ∃ given, bind (α := Rat) ⟨[.number 36], [("delta_t", .number 36)]⟩
      (#v["delta_t", "mass"]) = .ok given := by
  have hnames : (#v["delta_t", "mass"]).toList.Nodup := by decide
  refine ⟨hnames, ((bind_exact hnames _).2.1 _).2 ⟨⟨by decide, by decide⟩, nofun, ?_⟩, ?_⟩
  · intro keyword argument hkeyword
    rcases List.mem_pair.1 hkeyword with heq | heq
    · cases heq
      exact ⟨1, by decide, rfl, rfl⟩
    · cases heq
      exact ⟨0, by decide, rfl, rfl⟩
  · rw [(bind_exact hnames _).1]
    exact fun hsuit => absurd hsuit.keywords_perm (by decide)

end ElementAtlas.Arguments
