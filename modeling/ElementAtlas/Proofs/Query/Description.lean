import ElementAtlas.Proofs.Atlas.Sample
import ElementAtlas.Proofs.Text.Classes
import ElementAtlas.Query.Predicate

/-!
# What the text of a predicate says

The text of a predicate that is put together from tests with one-word labels is read with the usual
precedence: `not` binds closer than `and`, and `and` closer than `or`. `Spells` is the grammar of
this reading. It says of a part of a text what it comes to, given what each word stands for, and the
parts of a chain are joined from the right.

A text has one reading (`Spells.unique`), and the text of a predicate is read as what the predicate
evaluates to (`Built.spells`): the printer puts an operand in parentheses where it would otherwise
be taken apart, and where it leaves them out in a chain of one connective, chains that are joined
from the left come to the same, failures included (`Connective.join_assoc`). So predicates with one
text evaluate alike (`evaluate_eq_of_text`).
-/

namespace ElementAtlas

open Text

namespace Predicate

/-! ## Connectives -/

/-- What a predicate comes to on an element. -/
abbrev Outcome := Except QueryError Bool

/-- The connectives of two operands. -/
inductive Connective where
  | and
  | or

/-- The operands from left to right, as far as the answer is not known. -/
def Connective.join : Connective → Outcome → Outcome → Outcome
  | .and, x, y => x >>= fun holds => if holds then y else return false
  | .or, x, y => x >>= fun holds => if holds then return true else y

/-- Connectives are associative, with their errors. -/
theorem Connective.join_assoc (c : Connective) (x y z : Outcome) :
    c.join (c.join x y) z = c.join x (c.join y z) := by
  cases c <;> rcases x with e | _ | _ <;> rfl

/-- How a connective is written. -/
def Connective.sign : Connective → String
  | .and => " and "
  | .or => " or "

/-- The parts of a text: an operand, or a chain of one connective. -/
inductive Rank where
  | operand
  | chain (c : Connective)

/-- What a chain is made of: `and` binds closer than `or`. -/
def Connective.link : Connective → Rank
  | .and => .operand
  | .or => .chain .and

/-! ## The grammar of descriptions -/

/-- The characters of a word: all but blanks and parentheses. -/
def continuesWord (c : Char) : Bool := c ≠ ' ' && c ≠ '(' && c ≠ ')'

/-- A word that is not one of the grammar itself. -/
structure IsWord (label : String) : Prop where
  ne_empty : label ≠ ""
  continues : ∀ c ∈ label.toList, continuesWord c = true
  not_reserved : label ∉ ["and", "or", "not"]

/-- Blanks and parentheses are no letters. -/
theorem isWord_of_letters {label : String} (hne : label ≠ "")
    (hletters : label.toList.all isLetter = true) (hreserved : label ∉ ["and", "or", "not"]) :
    IsWord label := by
  refine ⟨hne, fun c hc => ?_, hreserved⟩
  have hletter := List.all_eq_true.1 hletters c hc
  have hno : [' ', '(', ')'].any isLetter = false := by decide +kernel
  have hother (d : Char) (hd : d ∈ [' ', '(', ')']) : c ≠ d := by
    rintro rfl
    exact List.any_eq_false.1 hno c hd hletter
  simp [continuesWord, hother]

/-- The grammar: between the front of the first text and the second text stands a part, which comes
to the outcome if every word comes to what it stands for. -/
inductive Spells (meaning : String → Outcome) : Rank → Outcome → List Char → List Char → Prop
  | word {label : String} {r : List Char} : IsWord label → Stops continuesWord r →
      Spells meaning .operand (meaning label) (label.toList ++ r) r
  | not {x : Outcome} {s r : List Char} : Spells meaning .operand x s r →
      Spells meaning .operand (x.map (!·)) ("not ".toList ++ s) r
  | group {x : Outcome} {s r : List Char} : Spells meaning (.chain .or) x s (')' :: r) →
      Spells meaning .operand x ('(' :: s) r
  | single {c : Connective} {x : Outcome} {s r : List Char} : Spells meaning c.link x s r →
      Spells meaning (.chain c) x s r
  | join {c : Connective} {x y : Outcome} {s t r : List Char} :
      Spells meaning c.link x s (c.sign.toList ++ t) → Spells meaning (.chain c) y t r →
      Spells meaning (.chain c) (c.join x y) s r

/-- The text does not go on with a link of the chain, or of the chain that it is a link of. -/
def Rank.Ends : Rank → List Char → Prop
  | .operand, _ => True
  | .chain .and, r => ∀ t, r ≠ Connective.and.sign.toList ++ t
  | .chain .or, r => ∀ c : Connective, ∀ t, r ≠ c.sign.toList ++ t

/-- Where a chain ends, no sign of its connective follows. -/
theorem Rank.Ends.not_sign {c : Connective} {r : List Char} (h : (Rank.chain c).Ends r)
    (t : List Char) : r ≠ c.sign.toList ++ t := by
  cases c with
  | and => exact h t
  | or => exact h .or t

/-- Where a chain ends, its last link ends. -/
theorem Rank.Ends.link {c : Connective} {r : List Char} (h : (Rank.chain c).Ends r) :
    c.link.Ends r := by
  cases c with
  | and => trivial
  | or => exact h .and

/-- A link ends where the chain goes on. -/
theorem Connective.ends_link (c : Connective) (t : List Char) :
    c.link.Ends (c.sign.toList ++ t) := by
  cases c with
  | and => trivial
  | or => exact fun u h => absurd (congrArg (·[1]?) h) (by simp [sign])

/-- Links are joined by a sign, and a sign begins with a blank. -/
theorem Rank.ends_of_stops (rank : Rank) {r : List Char} (h : Stops (· = ' ') r) : rank.Ends r := by
  have hsign (c : Connective) (t : List Char) (heq : r = c.sign.toList ++ t) : False := by
    cases c <;> exact absurd (h ' ' _ heq) (by decide)
  cases rank with
  | operand => trivial
  | chain c =>
    cases c with
    | and => exact hsign .and
    | or => exact hsign

/-! ## One reading -/

/-- A word ends where its characters do. -/
theorem cut_word {w w' r r' : List Char} (hw : ∀ c ∈ w, continuesWord c = true)
    (hr : Stops continuesWord r) (hw' : ∀ c ∈ w', continuesWord c = true)
    (hr' : Stops continuesWord r') (h : w ++ r = w' ++ r') : w = w' ∧ r = r' := by
  have hspan := spanWhile_eq_iff.2 ⟨rfl, hw, hr⟩
  have hspan' := spanWhile_eq_iff.2 ⟨h, hw', hr'⟩
  exact ⟨hspan.1.symm.trans hspan'.1, hspan.2.symm.trans hspan'.2⟩

/-- No word is the beginning of a negation. -/
theorem IsWord.ne_not {label : String} (h : IsWord label) {r t : List Char}
    (hr : Stops continuesWord r) : label.toList ++ r ≠ "not ".toList ++ t := by
  intro heq
  have hcut : label.toList = "not".toList ∧ r = ' ' :: t :=
    cut_word h.continues hr (List.all_eq_true.1 (by decide)) (stops_cons.2 rfl) heq
  have hlabel : label = "not" := String.toList_inj.1 hcut.1
  exact h.not_reserved (by simp [hlabel])

/-- No word is the beginning of a group. -/
theorem IsWord.ne_group {label : String} (h : IsWord label) (r t : List Char) :
    label.toList ++ r ≠ '(' :: t := by
  intro heq
  obtain ⟨c, w, hlabel⟩ := List.exists_cons_of_ne_nil (mt String.toList_eq_nil_iff.1 h.ne_empty)
  rw [hlabel, List.cons_append] at heq
  have hc := h.continues c (hlabel ▸ .head _)
  rw [(List.cons.inj heq).1] at hc
  cases hc

namespace Spells

variable {meaning : String → Outcome} {rank : Rank} {c : Connective} {x y : Outcome}
  {s t r r' : List Char}

/-- The front of an operand says what kind it is of. -/
theorem operand_cases (h : Spells meaning .operand x s r) :
    (∃ label, IsWord label ∧ Stops continuesWord r ∧ s = label.toList ++ r ∧ x = meaning label) ∨
    (∃ y t, Spells meaning .operand y t r ∧ s = "not ".toList ++ t ∧ x = y.map (!·)) ∨
    ∃ t, Spells meaning (.chain .or) x t (')' :: r) ∧ s = '(' :: t := by
  cases h with
  | word hlabel hr => exact .inl ⟨_, hlabel, hr, rfl, rfl⟩
  | not h => exact .inr (.inl ⟨_, _, h, rfl, rfl⟩)
  | group h => exact .inr (.inr ⟨_, h, rfl⟩)

/-- A text has one part of a rank at its front that ends where no link follows, and the part comes
to one thing. -/
theorem unique (h : Spells meaning rank x s r) (h' : Spells meaning rank y s r')
    (hr : rank.Ends r) (hr' : rank.Ends r') : x = y ∧ r = r' := by
  induction h generalizing y r' with
  | word hlabel hstops =>
    obtain ⟨label', hlabel', hstops', heq, rfl⟩ | ⟨_, _, _, heq, rfl⟩ | ⟨_, _, heq⟩ :=
      operand_cases h'
    · obtain ⟨hword, rfl⟩ := cut_word hlabel.continues hstops hlabel'.continues hstops' heq
      exact ⟨congrArg meaning (String.toList_inj.1 hword), rfl⟩
    · exact absurd heq (hlabel.ne_not hstops)
    · exact absurd heq (hlabel.ne_group _ _)
  | not _ ih =>
    obtain ⟨_, hlabel', hstops', heq, rfl⟩ | ⟨_, _, h', heq, rfl⟩ | ⟨_, _, heq⟩ := operand_cases h'
    · exact absurd heq.symm (hlabel'.ne_not hstops')
    · cases List.append_cancel_left heq
      obtain ⟨rfl, rfl⟩ := ih h' trivial trivial
      exact ⟨rfl, rfl⟩
    · cases heq
  | group _ ih =>
    obtain ⟨_, hlabel', hstops', heq, rfl⟩ | ⟨_, _, _, heq, rfl⟩ | ⟨_, h', heq⟩ := operand_cases h'
    · exact absurd heq.symm (hlabel'.ne_group _ _)
    · cases heq
    · cases heq
      obtain ⟨rfl, hclose⟩ := ih h' (Rank.ends_of_stops _ (stops_cons.2 rfl))
        (Rank.ends_of_stops _ (stops_cons.2 rfl))
      exact ⟨rfl, (List.cons.inj hclose).2⟩
  | single _ ih =>
    cases h' with
    | single h' => exact ih h' hr.link hr'.link
    | join h' _ => exact absurd (ih h' hr.link (Connective.ends_link _ _)).2 (hr.not_sign _)
  | join _ _ ihlink ihchain =>
    cases h' with
    | single h' =>
      exact absurd (ihlink h' (Connective.ends_link _ _) hr'.link).2.symm (hr'.not_sign _)
    | join hlink' hchain' =>
      obtain ⟨rfl, hsign⟩ := ihlink hlink' (Connective.ends_link _ _) (Connective.ends_link _ _)
      cases List.append_cancel_left hsign
      obtain ⟨rfl, rfl⟩ := ihchain hchain' hr hr'
      exact ⟨rfl, rfl⟩

/-- A chain goes on with a chain. -/
theorem append (h : Spells meaning (.chain c) x s (c.sign.toList ++ t))
    (hy : Spells meaning (.chain c) y t r) : Spells meaning (.chain c) (c.join x y) s r := by
  generalize hrank : Rank.chain c = rank, hrest : c.sign.toList ++ t = rest at h
  induction h with
  | word | not | group => cases hrank
  | single hlink =>
    cases hrank
    subst hrest
    exact .join hlink hy
  | join hlink _ _ ih =>
    cases hrank
    rw [Connective.join_assoc]
    exact .join hlink (ih rfl hrest)

/-- Every part is a chain of the weakest connective. -/
theorem weaken (h : Spells meaning rank x s r) : Spells meaning (.chain .or) x s r := by
  cases rank with
  | operand => exact .single (.single h)
  | chain c =>
    cases c with
    | and => exact .single h
    | or => exact h

end Spells

/-! ## The text of a predicate -/

variable {α : Type}

/-- What the text of a predicate is. -/
def rank : Predicate α → Rank
  | and .. => .chain .and
  | or .. => .chain .or
  | _ => .operand

/-- Whether a predicate is put in parentheses depends on what its text is. -/
theorem needsGroup_eq (p : Predicate α) (underNot : Bool) :
    p.needsGroup underNot =
      match p.rank with
      | .operand => false
      | .chain .and => underNot
      | .chain .or => true := by
  cases p <;> rfl

/-- The predicate is put together from tests with one-word labels, and a label stands for one
test. -/
inductive Built (tests : String → Atlas α → Member α → Outcome) : Predicate α → Prop
  | test {label : String} : IsWord label → Built tests (.custom label (tests label))
  | and {p q : Predicate α} : Built tests p → Built tests q → Built tests (.and p q)
  | or {p q : Predicate α} : Built tests p → Built tests q → Built tests (.or p q)
  | not {p : Predicate α} : Built tests p → Built tests (.not p)

variable [Scalar α]

/-- In every place where no word goes on, the text says what the predicate comes to. -/
def SpelledBy (p : Predicate α) (meaning : String → Outcome) (x : Outcome) : Prop :=
  ∀ r, Stops continuesWord r → Spells meaning p.rank x (p.text.toList ++ r) r

section

variable {p q : Predicate α} {meaning : String → Outcome} {x : Outcome} {r : List Char}

/-- A group of a text that says what a predicate comes to says it as an operand. -/
theorem SpelledBy.group (h : p.SpelledBy meaning x) :
    Spells meaning .operand x ((group true p.text).toList ++ r) r := by
  have hgroup := Spells.group (h (')' :: r) (stops_cons.2 rfl)).weaken
  simpa [Predicate.group] using hgroup

/-- An operand of `not`. -/
theorem SpelledBy.of_not (h : p.SpelledBy meaning x) (hr : Stops continuesWord r) :
    Spells meaning .operand x ((Predicate.group (p.needsGroup true) p.text).toList ++ r) r := by
  have hplain := h r hr
  rw [needsGroup_eq]
  generalize p.rank = rank at hplain
  cases rank with
  | operand => exact hplain
  | chain c =>
    cases c with
    | and => exact h.group
    | or => exact h.group

/-- An operand of `and`. -/
theorem SpelledBy.of_and (h : p.SpelledBy meaning x) (hr : Stops continuesWord r) :
    Spells meaning (.chain .and) x
      ((Predicate.group (p.needsGroup false) p.text).toList ++ r) r := by
  have hplain := h r hr
  rw [needsGroup_eq]
  generalize p.rank = rank at hplain
  cases rank with
  | operand => exact .single hplain
  | chain c =>
    cases c with
    | and => exact hplain
    | or => exact .single h.group

end

/-- The text of a predicate is read as what the predicate evaluates to. -/
theorem Built.spells {tests : String → Atlas α → Member α → Outcome} {p : Predicate α}
    (h : p.Built tests) (atlas : Atlas α) (m : Member α) :
    p.SpelledBy (tests · atlas m) (p.evaluate atlas m) := by
  induction h with
  | test hlabel => exact fun r hr => .word hlabel hr
  | and _ _ ihp ihq =>
    intro r hr
    have hjoin := (ihp.of_and (stops_cons.2 rfl)).append (c := .and) (ihq.of_and hr)
    rwa [text, String.toList_append, String.toList_append, List.append_assoc, List.append_assoc]
  | or _ _ ihp ihq =>
    intro r hr
    have hjoin := (ihp _ (stops_cons.2 rfl)).weaken.append (c := .or) (ihq r hr).weaken
    rwa [text, String.toList_append, String.toList_append, List.append_assoc, List.append_assoc]
  | @not p _ ih =>
    intro r hr
    have hnot := (ih.of_not hr).not
    have hvalue : (p.evaluate atlas m).map (!·) = (Predicate.not p).evaluate atlas m := by
      rw [evaluate]
      cases p.evaluate atlas m <;> rfl
    rwa [text, String.toList_append, List.append_assoc, ← hvalue]

/-- Descriptions are unambiguous: predicates that are put together in any way from tests with
one-word labels and print the same text evaluate alike on every element of every atlas, failures
included. What they evaluate to is what the text comes to, and the only thing it comes to, when it
is read with the precedence of `not` over `and` over `or`. -/
theorem evaluate_eq_of_text {tests : String → Atlas α → Member α → Outcome} {p q : Predicate α}
    (hp : p.Built tests) (hq : q.Built tests) (htext : p.text = q.text) (atlas : Atlas α)
    (m : Member α) :
    p.evaluate atlas m = q.evaluate atlas m ∧
      ∀ x, Spells (tests · atlas m) (.chain .or) x p.text.toList [] ↔ x = p.evaluate atlas m := by
  have hread {q : Predicate α} (hq : q.Built tests) :
      Spells (tests · atlas m) (.chain .or) (q.evaluate atlas m) q.text.toList [] := by
    have hspells := (hq.spells atlas m [] (stops_nil _)).weaken
    rwa [List.append_nil] at hspells
  have hends : (Rank.chain .or).Ends [] := Rank.ends_of_stops _ (stops_nil _)
  refine ⟨((hread hp).unique (htext ▸ hread hq) hends hends).1, fun x => ⟨fun hx => ?_, ?_⟩⟩
  · exact (hx.unique (hread hp) hends hends).1
  · rintro rfl
    exact hread hp

/-- Whether a field of the element is truthy, as a test with the name of the field as its label. -/
def fieldTest (label : String) (atlas : Atlas Float) (m : Member Float) : Outcome :=
  (truthy (.ofField label)).evaluate atlas m

/-- Two ways to put three tests together that print the same text. The element has no pressure, so
both fail. -/
theorem evaluate_eq_of_text_pressure :
    ∃ (name pressure state : Predicate Float) (atlas : Atlas Float) (m : Member Float),
      (and (and name (not pressure)) (or state name)).text =
        "name and not pressure and (state or name)" ∧
      (and name (and (not pressure) (or state name))).text =
        "name and not pressure and (state or name)" ∧
      (and (and name (not pressure)) (or state name)).evaluate atlas m =
        .error (.noSuchField .element "pressure") ∧
      (and name (and (not pressure) (or state name))).evaluate atlas m =
        .error (.noSuchField .element "pressure") := by
  let test (label : String) : Predicate Float := .custom label (fieldTest label)
  let left := and (and (test "name") (not (test "pressure"))) (or (test "state") (test "name"))
  let right := and (test "name") (and (not (test "pressure")) (or (test "state") (test "name")))
  have hloaded : (Sample.atlas : Except LoadError (Atlas Float)).toOption.map (fun atlas =>
      (atlas.get? ⟨0⟩).map fun ice => left.evaluate atlas ice) =
      some (some (.error (.noSuchField .element "pressure"))) := by
    decide +kernel
  obtain ⟨-, atlas, -, -, hsample⟩ := Sample.exists_atlas hloaded
  obtain ⟨ice, -, hleft⟩ := Option.map_eq_some_iff.1 hsample
  have hname : (test "name").Built fieldTest :=
    .test (isWord_of_letters (by decide) (by decide +kernel) (by decide))
  have hpressure : (test "pressure").Built fieldTest :=
    .test (isWord_of_letters (by decide) (by decide +kernel) (by decide))
  have hstate : (test "state").Built fieldTest :=
    .test (isWord_of_letters (by decide) (by decide +kernel) (by decide))
  have heq := (evaluate_eq_of_text (.and (.and hname hpressure.not) (.or hstate hname))
    (.and hname (.and hpressure.not (.or hstate hname))) (by decide) atlas ice).1
  exact ⟨test "name", test "pressure", test "state", atlas, ice, by decide, by decide, hleft,
    heq.symm.trans hleft⟩

end Predicate

end ElementAtlas
