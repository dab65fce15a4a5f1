import ElementAtlas.Json.Basic

/-!
# Fields of objects

A field that is set has the value it was set to, and all other fields keep theirs. So fields that
are made of a list of pairs, each name once, have the values of the list and no others
(`Fields.get?_ofList_eq_some_iff`).
-/

namespace ElementAtlas.Json.Fields

variable {α : Type}

/-- The first field stands before the others. -/
@[simp] theorem get?_cons (name other : String) (value : Json α) (fields : Fields α) :
    get? other ((name, value) :: fields) =
      if other = name then some value else fields.get? other := by
  by_cases h : other = name
  · simp [get?, h]
  · simp [get?, List.lookup_cons, h, beq_eq_false_iff_ne.2 h]

/-- What is inserted stands under its name, and the other fields stay. -/
@[simp] theorem get?_insert (fields : Fields α) (name other : String) (value : Json α) :
    (fields.insert name value).get? other =
      if other = name then some value else fields.get? other := by
  induction fields with
  | nil => simp [insert]
  | cons field fields ih =>
    obtain ⟨first, old⟩ := field
    rw [insert]
    split
    next => simp
    next heq =>
      cases Std.compare_eq_iff_eq.1 heq
      rw [get?_cons, get?_cons]
      split <;> rfl
    next hgt =>
      have hne : first ≠ name := by
        rintro rfl
        rw [Std.compare_eq_iff_eq.2 rfl] at hgt
        cases hgt
      rw [get?_cons, get?_cons, ih]
      by_cases h : other = first
      · simp [h, hne]
      · simp [h]

/-- The fields with those of some pairs set, one after another. -/
def insertAll (fields : Fields α) (pairs : List (String × Json α)) : Fields α :=
  pairs.foldl (fun fields (name, value) => fields.insert name value) fields

/-- A list of fields is inserted into none. -/
theorem ofList_eq (pairs : List (String × Json α)) : ofList pairs = insertAll [] pairs := rfl

/-- Fields are inserted one after another. -/
@[simp] theorem insertAll_append (fields : Fields α) (pairs more : List (String × Json α)) :
    fields.insertAll (pairs ++ more) = (fields.insertAll pairs).insertAll more :=
  List.foldl_append

/-- Where each name occurs once, a field has the value of its pair, or the value that it had. -/
theorem get?_insertAll_eq_some_iff {fields : Fields α} {pairs : List (String × Json α)}
    (hnodup : (pairs.map (·.1)).Nodup) {name : String} {value : Json α} :
    (fields.insertAll pairs).get? name = some value ↔
      (name, value) ∈ pairs ∨ name ∉ pairs.map (·.1) ∧ fields.get? name = some value := by
  induction pairs generalizing fields with
  | nil => simp [insertAll]
  | cons pair pairs ih =>
    obtain ⟨first, new⟩ := pair
    obtain ⟨hfirst, hrest⟩ := List.nodup_cons.1 hnodup
    refine (ih hrest).trans ?_
    rw [get?_insert]
    by_cases h : name = first
    · subst h
      have hnot : (name, value) ∉ pairs := fun hmem => hfirst (List.mem_map.2 ⟨_, hmem, rfl⟩)
      simp [hfirst, hnot, eq_comm]
    · simp [h]

/-- Fields of different names each stand under their name. -/
theorem get?_ofList_eq_some_iff {pairs : List (String × Json α)} (hnodup : (pairs.map (·.1)).Nodup)
    {name : String} {value : Json α} :
    (ofList pairs).get? name = some value ↔ (name, value) ∈ pairs := by
  refine (get?_insertAll_eq_some_iff hnodup).trans ?_
  simp [get?]

end ElementAtlas.Json.Fields
