import Mathlib.Data.List.Forall2

/-!
# Attempts

A computation that may fail is an `Except`. A chain of attempts succeeds if each of its links does,
and it fails with the failure of the first link that does not; the same holds of an attempt made on
every element of a list (`Attempt.mapM_eq_ok`, `Attempt.mapM_eq_error`) or of a vector
(`Attempt.vectorMapM_eq_ok`).
-/

namespace ElementAtlas.Attempt

variable {ε β γ : Type}

/-! ## Steps that have been made -/

@[simp] theorem ok_bind (b : β) (f : β → Except ε γ) : .ok b >>= f = f b := rfl

@[simp] theorem error_bind (e : ε) (f : β → Except ε γ) : .error e >>= f = .error e := rfl

@[simp] theorem bind_ok (b : β) (f : β → Except ε γ) : (Except.ok b).bind f = f b := rfl

@[simp] theorem bind_error (e : ε) (f : β → Except ε γ) : (Except.error e).bind f = .error e := rfl

@[simp] theorem map_ok (b : β) (f : β → γ) : (.ok b : Except ε β).map f = .ok (f b) := rfl

@[simp] theorem map_error (e : ε) (f : β → γ) : (.error e : Except ε β).map f = .error e := rfl

@[simp] theorem mapError_ok {δ : Type} (b : β) (f : ε → δ) :
    (.ok b : Except ε β).mapError f = .ok b := rfl

@[simp] theorem mapError_error {δ : Type} (e : ε) (f : ε → δ) :
    (.error e : Except ε β).mapError f = .error (f e) := rfl

/-! ## Chains -/

/-- A chain succeeds with what its second link makes of the result of the first. -/
@[simp] theorem bind_eq_ok {x : Except ε β} {f : β → Except ε γ} {c : γ} :
    x >>= f = .ok c ↔ ∃ b, x = .ok b ∧ f b = .ok c := by
  cases x <;> simp

/-- A chain fails with its first link, or with the second one on the result of the first. -/
@[simp] theorem bind_eq_error {x : Except ε β} {f : β → Except ε γ} {e : ε} :
    x >>= f = .error e ↔ x = .error e ∨ ∃ b, x = .ok b ∧ f b = .error e := by
  cases x <;> simp

/-- A chain goes on from the result of its first link. -/
theorem bind_of_ok {x : Except ε β} {f : β → Except ε γ} {b : β} (h : x = .ok b) :
    x >>= f = f b := by
  rw [h]
  rfl

/-- Chains are equal that go on alike from what their first link results in. -/
theorem bind_congr {x : Except ε β} {f g : β → Except ε γ} (h : ∀ b, x = .ok b → f b = g b) :
    x >>= f = x >>= g := by
  cases x with
  | ok b => exact h b rfl
  | error e => rfl

/-- A chain has a result if its first link has one from which the others lead on. -/
theorem exists_bind {x : Except ε β} {f : β → Except ε γ} {b : β} (hx : x = .ok b)
    (hf : ∃ c, f b = .ok c) : ∃ c, x >>= f = .ok c := by
  obtain ⟨c, hc⟩ := hf
  exact ⟨c, bind_eq_ok.2 ⟨b, hx, hc⟩⟩

/-- A result that is mapped is the image of a result. -/
@[simp] theorem map_eq_ok {x : Except ε β} {f : β → γ} {c : γ} :
    x.map f = .ok c ↔ ∃ b, x = .ok b ∧ f b = c := by
  cases x <;> simp

/-- Mapping does not change whether there is a result. -/
theorem exists_map_eq_ok_iff {x : Except ε β} {f : β → γ} :
    (∃ c, x.map f = .ok c) ↔ ∃ b, x = .ok b := by
  cases x <;> simp

/-- Mapping keeps errors. -/
@[simp] theorem map_eq_error {x : Except ε β} {f : β → γ} {e : ε} :
    x.map f = .error e ↔ x = .error e := by
  cases x <;> simp

/-- Mapping errors keeps results. -/
@[simp] theorem mapError_eq_ok {δ : Type} {x : Except ε β} {f : ε → δ} {b : β} :
    x.mapError f = .ok b ↔ x = .ok b := by
  cases x <;> simp

/-- An error that is mapped is the image of an error. -/
@[simp] theorem mapError_eq_error {δ : Type} {x : Except ε β} {f : ε → δ} {e : δ} :
    x.mapError f = .error e ↔ ∃ cause, x = .error cause ∧ e = f cause := by
  cases x <;> simp [eq_comm]

/-- An attempt has an optional result if it succeeds. -/
@[simp]
theorem toOption_eq_some_iff {x : Except ε β} {b : β} : x.toOption = some b ↔ x = .ok b := by
  cases x <;> simp [Except.toOption]

/-- What stands behind a check is only attempted if the check passes. -/
@[simp] theorem guard_eq_ok {p : Prop} [Decidable p] {e : ε} {x : Except ε β} {b : β} :
    (if p then .error e else x) = .ok b ↔ ¬ p ∧ x = .ok b := by
  split <;> simp [*]

/-- An attempt fails if and only if it does not succeed. -/
theorem exists_error_iff {x : Except ε β} : (∃ e, x = .error e) ↔ ¬ ∃ b, x = .ok b := by
  cases x <;> simp

/-! ## Attempts that agree -/

/-- Two attempts have results that are related, or they have the same error. -/
inductive Agree (R : β → γ → Prop) : Except ε β → Except ε γ → Prop
  | ok {b : β} {c : γ} : R b c → Agree R (.ok b) (.ok c)
  | error (e : ε) : Agree R (.error e) (.error e)

/-- Attempts that agree go on to attempts that agree. -/
theorem Agree.bind {δ η : Type} {R : β → γ → Prop} {S : δ → η → Prop} {x : Except ε β}
    {y : Except ε γ} {f : β → Except ε δ} {g : γ → Except ε η} (h : Agree R x y)
    (hfg : ∀ b c, R b c → Agree S (f b) (g c)) : Agree S (x >>= f) (y >>= g) := by
  cases h with
  | ok hbc => exact hfg _ _ hbc
  | error e => exact .error e

/-- Chains are equal if their first links agree and the others go on alike from what is related. -/
theorem Agree.bind_eq {δ : Type} {R : β → γ → Prop} {x : Except ε β} {y : Except ε γ}
    {f : β → Except ε δ} {g : γ → Except ε δ} (h : Agree R x y) (hfg : ∀ b c, R b c → f b = g c) :
    x >>= f = y >>= g := by
  cases h with
  | ok hbc => exact hfg _ _ hbc
  | error e => rfl

/-- An attempt agrees with itself about what is related to itself. -/
theorem Agree.refl {R : β → β → Prop} {x : Except ε β} (h : ∀ b, x = .ok b → R b b) :
    Agree R x x := by
  cases x with
  | ok b => exact .ok (h b rfl)
  | error e => exact .error e

/-! ## One attempt for each element of a list -/

/-- The attempts on a list succeed if each of them does, and their results keep the order. -/
@[simp] theorem mapM_eq_ok {f : β → Except ε γ} {l : List β} {l' : List γ} :
    l.mapM f = .ok l' ↔ List.Forall₂ (fun b c => f b = .ok c) l l' := by
  induction l generalizing l' with
  | nil => cases l' <;> simp [pure, Except.pure]
  | cons b l ih =>
    rw [List.mapM_cons, bind_eq_ok]
    constructor
    · rintro ⟨c, hc, h⟩
      obtain ⟨cs, hcs, h⟩ := bind_eq_ok.1 h
      cases h
      exact .cons hc (ih.1 hcs)
    · rintro (_ | ⟨hc, hcs⟩)
      exact ⟨_, hc, bind_eq_ok.2 ⟨_, ih.2 hcs, rfl⟩⟩

/-- The result of an attempt on a list holds only results of its elements. -/
theorem exists_of_mem_mapM {f : β → Except ε γ} {l : List β} {l' : List γ} (h : l.mapM f = .ok l')
    {c : γ} (hc : c ∈ l') : ∃ b ∈ l, f b = .ok c := by
  have hall := mapM_eq_ok.1 h
  clear h
  induction hall with
  | nil => cases hc
  | @cons b _ _ _ hb _ ih =>
    rcases List.mem_cons.1 hc with rfl | hc
    · exact ⟨b, .head _, hb⟩
    · obtain ⟨other, hmem, hother⟩ := ih hc
      exact ⟨other, .tail _ hmem, hother⟩

/-- The attempts on a list fail with the failure of the first element that has one. -/
@[simp] theorem mapM_eq_error {f : β → Except ε γ} {l : List β} {e : ε} :
    l.mapM f = .error e ↔
      ∃ before b after, l = before ++ b :: after ∧ (∀ a ∈ before, ∃ c, f a = .ok c) ∧
        f b = .error e := by
  induction l with
  | nil => simp [pure, Except.pure]
  | cons b l ih =>
    rw [List.mapM_cons, bind_eq_error]
    constructor
    · rintro (h | ⟨c, hc, h⟩)
      · exact ⟨[], b, l, rfl, by simp, h⟩
      · rcases bind_eq_error.1 h with h | ⟨_, _, h⟩
        · obtain ⟨before, b', after, rfl, hok, herr⟩ := ih.1 h
          refine ⟨b :: before, b', after, rfl, fun a ha => ?_, herr⟩
          rcases List.mem_cons.1 ha with rfl | ha
          · exact ⟨c, hc⟩
          · exact hok a ha
        · cases h
    · rintro ⟨_ | ⟨a, before⟩, b', after, hl, hok, herr⟩
      · cases hl
        exact .inl herr
      · cases hl
        obtain ⟨c, hc⟩ := hok b (.head _)
        refine .inr ⟨c, hc, bind_eq_error.2 (.inl (ih.2 ⟨before, b', after, rfl, ?_, herr⟩))⟩
        exact fun a ha => hok a (.tail _ ha)

/-- If no attempt on an element of a list fails, then the attempts on the list succeed. -/
theorem exists_mapM {f : β → Except ε γ} {l : List β} (h : ∀ b ∈ l, ∃ c, f b = .ok c) :
    ∃ l', l.mapM f = .ok l' := by
  rw [← not_not (a := ∃ l', l.mapM f = .ok l'), ← exists_error_iff]
  rintro ⟨e, he⟩
  obtain ⟨before, b, after, rfl, -, hb⟩ := mapM_eq_error.1 he
  obtain ⟨c, hc⟩ := h b (by simp)
  cases hb.symm.trans hc

/-- The attempts on a list succeed together if and only if each of them does. -/
theorem exists_mapM_iff {f : β → Except ε γ} {l : List β} :
    (∃ l', l.mapM f = .ok l') ↔ ∀ b ∈ l, ∃ c, f b = .ok c := by
  refine ⟨?_, exists_mapM⟩
  rintro ⟨l', h⟩
  have hall := mapM_eq_ok.1 h
  clear h
  induction hall with
  | nil => exact nofun
  | cons hc _ ih => exact List.forall_mem_cons.2 ⟨⟨_, hc⟩, ih⟩

/-- Attempts on the elements of several lists, list by list, are those on all of them in a row. -/
theorem mapM_flatten {f : β → Except ε γ} {ls : List (List β)} :
    (ls.mapM (List.mapM f)).map List.flatten = ls.flatten.mapM f := by
  induction ls with
  | nil => rfl
  | cons l ls ih =>
    rw [List.mapM_cons, List.flatten_cons, List.mapM_append, ← ih]
    cases l.mapM f with
    | error e => rfl
    | ok cs => cases ls.mapM (List.mapM f) <;> rfl

/-! ## One attempt for each element of a vector -/

/-- Attempts on the elements of a vector are those on the elements of its list. -/
theorem toList_vectorMapM {n : Nat} {f : β → Except ε γ} {v : Vector β n} :
    (v.mapM f).map Vector.toList = v.toList.mapM f := by
  rw [Vector.toList, ← Array.toList_mapM, ← Vector.toArray_mapM]
  cases v.mapM f <;> rfl

/-- The attempts on a vector succeed if each of them does, and their results keep the order. -/
theorem vectorMapM_eq_ok {n : Nat} {f : β → Except ε γ} {v : Vector β n} {w : Vector γ n} :
    v.mapM f = .ok w ↔ ∀ (i : Nat) (hi : i < n), f v[i] = .ok w[i] := by
  have hlists : v.mapM f = .ok w ↔ v.toList.mapM f = .ok w.toList := by
    rw [← toList_vectorMapM, map_eq_ok]
    simp only [Vector.toList_inj, exists_eq_right]
  rw [hlists, mapM_eq_ok, List.forall₂_iff_get]
  simp

end ElementAtlas.Attempt
