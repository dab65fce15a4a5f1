import Mathlib.Data.List.Basic
import ElementAtlas.Text.Rest

/-!
# Replacing stretches of a text

A rule `M stretch text` says which stretches are to be replaced and by what. `Replaced M s r` is one
pass of the rule over a text, from left to right: where a stretch stands at the front it is replaced
and the pass goes on behind it, so that what was put in its place is never read, and where none
does, the first character is kept. A function that `Replaces` by the rule takes these steps, and it
computes the one outcome of the pass (`Replaces.replaced_iff`).
-/

namespace ElementAtlas.Text

/-! ## The first occurrence of a character -/

section
variable {mark : Char} {s run : List Char}

/-- What stands behind a mark is shorter than the text. -/
theorem length_lt_append_mark (run r : List Char) : r.length < (run ++ mark :: r).length := by
  rw [List.length_append, List.length_cons]
  omega

/-- A text is read up to the first mark in it. -/
@[simp] theorem upTo?_eq_some_iff {r : Rest s} :
    upTo? mark s = some (run, r) ↔ s = run ++ mark :: r.1 ∧ mark ∉ run := by
  induction s generalizing run with
  | nil => simp [upTo?]
  | cons c s ih =>
    obtain ⟨r, hr⟩ := r
    rw [upTo?]
    split
    · next hc =>
      subst hc
      cases run with
      | nil => simp [Rest.tail]
      | cons d run => simp +contextual [eq_comm]
    · next hc =>
      cases run with
      | nil => simp [hc]
      | cons d run =>
        rw [Option.map_eq_some_iff]
        constructor
        · rintro ⟨⟨run', r'⟩, hfirst, heq⟩
          cases heq
          obtain ⟨hs, hrun⟩ := ih.1 hfirst
          exact ⟨congrArg (c :: ·) hs, by simp [hrun, Ne.symm hc]⟩
        · rintro ⟨hs, hrun⟩
          obtain ⟨rfl, htail⟩ : c = d ∧ s = run ++ mark :: r := List.cons.inj hs
          have hlt : r.length < s.length := htail ▸ length_lt_append_mark run r
          exact ⟨(run, ⟨r, hlt⟩), ih.2 ⟨htail, fun hmem => hrun (.tail _ hmem)⟩, rfl⟩

/-- A text is not read up to a mark that is not in it. -/
@[simp] theorem upTo?_eq_none_iff : upTo? mark s = none ↔ mark ∉ s := by
  induction s with
  | nil => simp [upTo?]
  | cons c s ih =>
    rw [upTo?]
    split
    · next hc => simp [hc]
    · next hc => simp [ih, Ne.symm hc]

/-- The run before the first mark is the only one without a mark in it. -/
theorem run_unique {run' r r' : List Char} (h : run ++ mark :: r = run' ++ mark :: r')
    (hrun : mark ∉ run) (hrun' : mark ∉ run') : run = run' := by
  have hfirst := upTo?_eq_some_iff (r := ⟨r, length_lt_append_mark run r⟩).2 ⟨rfl, hrun⟩
  have hlt' : r'.length < (run ++ mark :: r).length := h ▸ length_lt_append_mark run' r'
  rw [upTo?_eq_some_iff (r := ⟨r', hlt'⟩).2 ⟨h, hrun'⟩] at hfirst
  exact (Prod.ext_iff.1 (Option.some.inj hfirst)).1.symm

end

/-! ## Passes over a text -/

variable {M : List Char → List Char → Prop} {f : List Char → List Char} {s r : List Char}

/-- A stretch that the rule replaces stands at the front of the text. -/
def Begins (M : List Char → List Char → Prop) (s : List Char) : Prop :=
  ∃ stretch text after, M stretch text ∧ s = stretch ++ after

/-- One pass of the rule over the text `s` makes `r` of it. -/
inductive Replaced (M : List Char → List Char → Prop) : List Char → List Char → Prop
  | nil : Replaced M [] []
  | hit {stretch text after r : List Char} : M stretch text → Replaced M after r →
      Replaced M (stretch ++ after) (text ++ r)
  | keep {c : Char} {s r : List Char} : ¬Begins M (c :: s) → Replaced M s r →
      Replaced M (c :: s) (c :: r)

/-- The function takes the steps of a pass of the rule, which replaces no empty stretch. -/
structure Replaces (M : List Char → List Char → Prop) (f : List Char → List Char) : Prop where
  nonempty {stretch text : List Char} : M stretch text → stretch ≠ []
  nil : f [] = []
  hit {stretch text : List Char} (after : List Char) : M stretch text →
    f (stretch ++ after) = text ++ f after
  keep {c : Char} {s : List Char} : ¬Begins M (c :: s) → f (c :: s) = c :: f s

/-- The induction over a pass. What follows a replaced stretch is shorter, as no stretch is empty. -/
theorem Replaces.induction (h : Replaces M f) {motive : List Char → Prop} (nil : motive [])
    (hit : ∀ stretch text after, M stretch text → motive after → motive (stretch ++ after))
    (keep : ∀ c s, ¬Begins M (c :: s) → motive s → motive (c :: s)) (s : List Char) :
    motive s := by
  induction hlength : s.length using Nat.strongRecOn generalizing s with
  | ind n ih =>
    cases s with
    | nil => exact nil
    | cons c s =>
      by_cases hfront : Begins M (c :: s)
      · obtain ⟨stretch, text, after, hM, heq⟩ := hfront
        rw [heq] at hlength ⊢
        rw [List.length_append] at hlength
        have hpos := List.length_pos_iff.2 (h.nonempty hM)
        exact hit stretch text after hM (ih after.length (by omega) after rfl)
      · exact keep c s hfront (ih s.length (hlength ▸ Nat.lt_succ_self _) s rfl)

/-- A function that replaces by a rule computes the outcome of the pass, which is the only one. -/
theorem Replaces.replaced_iff (h : Replaces M f) : Replaced M s r ↔ f s = r := by
  constructor
  · intro hpass
    induction hpass with
    | nil => exact h.nil
    | hit hM _ ih => rw [h.hit _ hM, ih]
    | keep hfront _ ih => rw [h.keep hfront, ih]
  · rintro rfl
    induction s using h.induction with
    | nil => rw [h.nil]; exact .nil
    | hit stretch text after hM ih => rw [h.hit after hM]; exact .hit hM ih
    | keep c s hfront ih => rw [h.keep hfront]; exact .keep hfront ih

/-- A text is replaced in two parts where no stretch at the front of an end of the first part reaches
into the second one. -/
theorem Replaces.append (h : Replaces M f) {t : List Char}
    (hcut : ∀ c s', c :: s' <:+ s → Begins M (c :: (s' ++ t)) → Begins M (c :: s')) :
    f (s ++ t) = f s ++ f t := by
  induction s using h.induction with
  | nil => rw [h.nil, List.nil_append, List.nil_append]
  | hit stretch text after hM ih =>
    have hafter := ih fun c s' hs => hcut c s' (hs.trans (List.suffix_append stretch after))
    rw [List.append_assoc, h.hit _ hM, h.hit _ hM, hafter, List.append_assoc]
  | keep c s hfront ih =>
    have hs := ih fun c' s' hs => hcut c' s' (hs.trans (List.suffix_cons c s))
    have hfront' := mt (hcut c s (List.suffix_refl _)) hfront
    rw [List.cons_append, h.keep hfront', h.keep hfront, hs, List.cons_append]

/-- A character that stands in replaced stretches at their front only cuts a text into two parts. -/
theorem Replaces.append_mark (h : Replaces M f) {mark : Char}
    (hmark : ∀ {stretch text}, M stretch text → mark ∉ stretch.tail) (s t : List Char) :
    f (s ++ mark :: t) = f s ++ f (mark :: t) := by
  refine h.append fun c s' _ hbegins => ?_
  obtain ⟨stretch, text, after, hM, heq⟩ := hbegins
  obtain ⟨w, rfl, hw⟩ | ⟨w, hs, -⟩ := List.append_eq_append_iff.1 (List.cons_append ▸ heq)
  -- A stretch that goes on into the second part has the mark in it, unless it ends before it.
  · cases w with
    | nil => exact ⟨c :: s', text, [], by simpa using hM, by simp⟩
    | cons d w =>
      obtain ⟨rfl, -⟩ := List.cons.inj hw
      exact absurd (by simp) (hmark hM)
  · exact ⟨stretch, text, w, hM, hs⟩

end ElementAtlas.Text
