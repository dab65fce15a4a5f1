import ElementAtlas.Atlas.Search
import ElementAtlas.Atlas.Sort
import ElementAtlas.Proofs.Atlas.Resolution

/-!
# Selecting and sorting

A search that fails on none of the elements keeps some of them in their order. Values that compare
with each other, whatever their order is, can be sorted: the sorting compares values of elements at
different places only, so it succeeds, and what it returns are the same elements.
-/

namespace ElementAtlas

variable {α : Type}

/-- The members of an atlas are its elements at their places. -/
@[simp] theorem Atlas.mem_members_iff {atlas : Atlas α} {m : Member α} :
    m ∈ atlas.members ↔ atlas.get? m.id = some m := by
  obtain ⟨⟨index⟩, e⟩ := m
  rw [get?_id_eq_some_iff, members, List.mem_map]
  constructor
  · rintro ⟨⟨e, index⟩, hmem, heq⟩
    cases heq
    exact List.mem_zipIdx_iff_getElem?.1 hmem
  · intro hget
    exact ⟨(e, index), List.mem_zipIdx_iff_getElem?.2 hget, rfl⟩

/-- The members of an atlas have the names of its elements. -/
@[simp] theorem Atlas.names_members (atlas : Atlas α) :
    atlas.members.map (·.element.name) = atlas.elements.map (·.name) := by
  have hfirst := congrArg (List.map (·.name)) (List.zipIdx_map_fst 0 atlas.elements)
  rw [List.map_map] at hfirst
  rw [members, List.map_map]
  exact hfirst

variable [Scalar α] {atlas : Atlas α}

/-! ## Selecting -/

/-- A selection succeeds if the needle accepts or refuses each element, and it keeps those that the
needle accepts. -/
@[simp] theorem Needle.select_eq_ok_iff {needle : Needle α} {ms found : List (Member α)} :
    needle.select atlas ms = .ok found ↔ (∀ m ∈ ms, ∃ b, needle.accepts atlas m = .ok b) ∧
      found = ms.filter fun m => needle.accepts atlas m matches .ok true := by
  induction ms generalizing found with
  | nil => simp [select, eq_comm]
  | cons m ms ih =>
    rw [select, Attempt.bind_eq_ok, List.forall_mem_cons]
    constructor
    · rintro ⟨isHit, hhit, h⟩
      obtain ⟨hits, hhits, h⟩ := Attempt.bind_eq_ok.1 h
      obtain ⟨hall, rfl⟩ := ih.1 hhits
      cases h
      refine ⟨⟨⟨isHit, hhit⟩, hall⟩, ?_⟩
      cases isHit <;> simp [hhit]
    · rintro ⟨⟨⟨isHit, hhit⟩, hall⟩, rfl⟩
      refine ⟨isHit, hhit, Attempt.bind_eq_ok.2 ⟨_, ih.2 ⟨hall, rfl⟩, ?_⟩⟩
      cases isHit <;> simp [hhit, pure, Except.pure]

/-- A selection fails with the error of the first element that its needle fails on. -/
theorem Needle.select_eq_error_iff {needle : Needle α} {ms : List (Member α)} {e : QueryError} :
    needle.select atlas ms = .error e ↔ ∃ before m after, ms = before ++ m :: after ∧
      (∀ n ∈ before, ∃ b, needle.accepts atlas n = .ok b) ∧ needle.accepts atlas m = .error e := by
  rw [← Attempt.mapM_eq_error]
  induction ms with
  | nil => exact iff_of_false nofun nofun
  | cons m ms ih =>
    rw [select, List.mapM_cons, Attempt.bind_eq_error, Attempt.bind_eq_error]
    refine or_congr_right (exists_congr fun isHit => and_congr_right fun _ => ?_)
    rw [Attempt.bind_eq_error, Attempt.bind_eq_error, ih]
    refine or_congr_right (iff_of_false ?_ ?_)
    · rintro ⟨hits, -, h⟩
      cases h
    · rintro ⟨answers, -, h⟩
      cases h

/-- A needle that accepts or refuses each of some members selects some of them. -/
theorem Needle.exists_select {needle : Needle α} {ms : List (Member α)}
    (h : ∀ m ∈ ms, ∃ b, needle.accepts atlas m = .ok b) :
    ∃ found, needle.select atlas ms = .ok found ∧ found.Sublist ms := by
  induction ms with
  | nil => exact ⟨[], rfl, .slnil⟩
  | cons m ms ih =>
    obtain ⟨isHit, hhit⟩ := h m (.head _)
    obtain ⟨found, hfound, hsublist⟩ := ih fun n hn => h n (.tail _ hn)
    refine ⟨_, Attempt.bind_eq_ok.2 ⟨isHit, hhit, Attempt.bind_eq_ok.2 ⟨found, hfound, rfl⟩⟩, ?_⟩
    split
    · exact hsublist.cons_cons m
    · exact hsublist.cons m

/-- A search has an answer if the needle accepts or refuses each element. -/
theorem Atlas.exists_find_iff {needle : Needle α} : (∃ found, atlas.find needle = .ok found) ↔
    ∀ m, atlas.get? m.id = some m → ∃ b, needle.accepts atlas m = .ok b := by
  simp only [find, Needle.select_eq_ok_iff, exists_and_left, exists_eq, and_true, mem_members_iff]

/-- A needle that accepts or refuses each element finds some elements of the atlas. -/
theorem Atlas.exists_find {needle : Needle α}
    (h : ∀ m, atlas.get? m.id = some m → ∃ b, needle.accepts atlas m = .ok b) :
    ∃ found, atlas.find needle = .ok found ∧ ∀ m ∈ found, atlas.get? m.id = some m := by
  have hmembers : ∀ m ∈ atlas.members, ∃ b, needle.accepts atlas m = .ok b :=
    fun m hm => h m (mem_members_iff.1 hm)
  obtain ⟨found, hfound, hsublist⟩ := Needle.exists_select hmembers
  exact ⟨found, hfound, fun m hm => mem_members_iff.1 (hsublist.subset hm)⟩

/-! ## Sorting -/

namespace Ranked

/-- The values of any two elements at different places compare, from either side. -/
def Comparable (elements : List (Ranked α)) : Prop :=
  elements.Pairwise fun r s => (∃ order, r.rank.compare s.rank = .ok order) ∧
    ∃ order, s.rank.compare r.rank = .ok order

/-- Elements compare in any arrangement. -/
theorem Comparable.perm {elements others : List (Ranked α)} (h : Comparable elements)
    (hperm : others.Perm elements) : Comparable others :=
  (hperm.pairwise_iff fun hboth => ⟨hboth.2, hboth.1⟩).2 h

/-- One element is put somewhere among those that are sorted already. -/
theorem exists_insert {new : Ranked α} {sorted : List (Ranked α)}
    (h : ∀ old ∈ sorted, ∃ order, new.rank.compare old.rank = .ok order) :
    ∃ inserted, new.insert sorted = .ok inserted ∧ inserted.Perm (new :: sorted) := by
  induction sorted with
  | nil => exact ⟨[new], rfl, .refl _⟩
  | cons old smaller ih =>
    obtain ⟨⟨order, horder⟩, hsmaller⟩ := List.forall_mem_cons.1 h
    by_cases hless : order = .lt
    · obtain ⟨inserted, hinserted, hperm⟩ := ih hsmaller
      refine ⟨old :: inserted, ?_, (hperm.cons old).trans (.swap new old smaller)⟩
      refine Attempt.bind_eq_ok.2 ⟨order, horder, ?_⟩
      rw [if_pos hless]
      exact Attempt.bind_eq_ok.2 ⟨inserted, hinserted, rfl⟩
    · refine ⟨new :: old :: smaller, ?_, .refl _⟩
      refine Attempt.bind_eq_ok.2 ⟨order, horder, ?_⟩
      rw [if_neg hless]
      rfl

/-- The elements are put one after another among those that are sorted already. -/
theorem exists_foldlM_insert {elements sorted : List (Ranked α)}
    (h : Comparable (elements ++ sorted)) :
    ∃ result, elements.foldlM (fun sorted (new : Ranked α) => new.insert sorted) sorted =
      .ok result ∧ result.Perm (elements ++ sorted) := by
  induction elements generalizing sorted with
  | nil => exact ⟨sorted, rfl, .refl _⟩
  | cons new elements ih =>
    obtain ⟨hnew, -⟩ := List.pairwise_cons.1 h
    obtain ⟨inserted, hinserted, hperm⟩ :=
      exists_insert fun old hold => (hnew old (List.mem_append_right elements hold)).1
    have hrest : (elements ++ inserted).Perm (new :: elements ++ sorted) :=
      (hperm.append_left elements).trans List.perm_middle
    obtain ⟨result, hresult, hall⟩ := ih (h.perm hrest)
    refine ⟨result, ?_, hall.trans hrest⟩
    rw [List.foldlM_cons]
    exact Attempt.bind_eq_ok.2 ⟨inserted, hinserted, hresult⟩

/-- Elements whose values compare can be sorted. -/
theorem exists_sort {elements : List (Ranked α)} (h : Comparable elements) :
    ∃ sorted, sort elements = .ok sorted ∧ sorted.Perm elements := by
  have hall : Comparable (elements ++ []) := (List.append_nil elements).symm ▸ h
  obtain ⟨result, hresult, hperm⟩ := exists_foldlM_insert hall
  rw [List.append_nil] at hperm
  exact ⟨result.reverse, Attempt.map_eq_ok.2 ⟨result, hresult, rfl⟩,
    (List.reverse_perm result).trans hperm⟩

/-- The check before the sorting looks at the first element with each of the others. -/
@[simp] theorem checkFirst_cons_iff {first : Ranked α} {others : List (Ranked α)} :
    checkFirst (first :: others) = .ok () ↔
      ∀ other ∈ others, ∃ order, first.rank.compare other.rank = .ok order := by
  rw [checkFirst]
  induction others with
  | nil => exact iff_of_true rfl (List.forall_mem_nil _)
  | cons other others ih =>
    constructor
    · intro h
      obtain ⟨_, hother, hrest⟩ := Attempt.bind_eq_ok.1 h
      obtain ⟨order, horder, -⟩ := Attempt.map_eq_ok.1 hother
      exact List.forall_mem_cons.2 ⟨⟨order, horder⟩, ih.1 hrest⟩
    · intro h
      obtain ⟨⟨order, horder⟩, hrest⟩ := List.forall_mem_cons.1 h
      exact Attempt.bind_eq_ok.2 ⟨(), Attempt.map_eq_ok.2 ⟨order, horder, rfl⟩, ih.2 hrest⟩

/-- Elements whose values compare pass the check before the sorting. -/
theorem checkFirst_of_comparable {elements : List (Ranked α)} (h : Comparable elements) :
    checkFirst elements = .ok () := by
  cases elements with
  | nil => rfl
  | cons first others =>
    exact checkFirst_cons_iff.2 fun other hother => ((List.pairwise_cons.1 h).1 other hother).1

/-- A member is ranked by the value of the key. -/
@[simp] theorem ofMember_eq_ok {key : Attribute α} {m : Member α} {r : Ranked α} :
    ofMember atlas key m = .ok r ↔ key.evaluate atlas m = .ok r.rank ∧ r.member = m := by
  rw [ofMember, Attempt.map_eq_ok]
  constructor
  · rintro ⟨v, hv, rfl⟩
    exact ⟨hv, rfl⟩
  · rintro ⟨hv, rfl⟩
    exact ⟨r.rank, hv, rfl⟩

/-- Elements keep their order while their values are computed. -/
theorem members_of_mapM {key : Attribute α} {selection : List (Member α)}
    {ranked : List (Ranked α)} (h : selection.mapM (ofMember atlas key) = .ok ranked) :
    ranked.map (·.member) = selection := by
  have hall := Attempt.mapM_eq_ok.1 h
  clear h
  induction hall with
  | nil => rfl
  | cons hr _ ih => rw [List.map_cons, ih, (ofMember_eq_ok.1 hr).2]

end Ranked

/-- Elements are sorted by values that compare with each other. -/
theorem Atlas.exists_sortedBy {selection : List (Member α)} {key : Attribute α}
    {P : Value α → Prop} (hkey : ∀ m ∈ selection, ∃ v, key.evaluate atlas m = .ok v ∧ P v)
    (hcompare : ∀ v w, P v → P w → ∃ order, v.compare w = .ok order) :
    ∃ sorted, atlas.sortedBy selection key = .ok sorted ∧ sorted.Perm selection := by
  have hranks : ∀ m ∈ selection, ∃ r, Ranked.ofMember atlas key m = .ok r := by
    intro m hm
    obtain ⟨v, hv, -⟩ := hkey m hm
    exact ⟨⟨v, m⟩, Ranked.ofMember_eq_ok.2 ⟨hv, rfl⟩⟩
  obtain ⟨ranked, hranked⟩ := Attempt.exists_mapM hranks
  have hvalue : ∀ r ∈ ranked, P r.rank := by
    intro r hr
    obtain ⟨m, hm, hof⟩ := Attempt.exists_of_mem_mapM hranked hr
    obtain ⟨v, hv, hp⟩ := hkey m hm
    cases hv.symm.trans (Ranked.ofMember_eq_ok.1 hof).1
    exact hp
  have hcomparable : Ranked.Comparable ranked :=
    List.pairwise_of_forall_mem_list fun r hr s hs =>
      ⟨hcompare _ _ (hvalue r hr) (hvalue s hs), hcompare _ _ (hvalue s hs) (hvalue r hr)⟩
  obtain ⟨sorted, hsorted, hperm⟩ := Ranked.exists_sort hcomparable
  have hmembers : (sorted.map (·.member)).Perm selection :=
    Ranked.members_of_mapM hranked ▸ hperm.map (·.member)
  refine ⟨sorted.map (·.member), ?_, hmembers⟩
  refine Attempt.bind_eq_ok.2 ⟨ranked, hranked, ?_⟩
  refine Attempt.bind_eq_ok.2 ⟨(), Ranked.checkFirst_of_comparable hcomparable, ?_⟩
  exact Attempt.bind_eq_ok.2 ⟨sorted, hsorted, rfl⟩

end ElementAtlas
