import ElementAtlas.Proofs.Attempt
import ElementAtlas.Query.Predicate

/-!
# Connectives

A conjunction evaluates its second operand where the first one holds, a disjunction where the first
one does not, and a negation its only operand. Only operands that are evaluated can fail, so each
outcome of a combination is told by the outcomes of its operands. Negation exchanges conjunction and
disjunction, also where they fail.
-/

namespace ElementAtlas.Predicate

variable {α : Type} [Scalar α] {atlas : Atlas α} {m : Member α} {p q : Predicate α} {e : QueryError}

/-- The second operand of a conjunction is evaluated where the first one holds. -/
@[simp] theorem evaluate_and (p q : Predicate α) : (and p q).evaluate atlas m =
    (p.evaluate atlas m).bind fun holds => if holds then q.evaluate atlas m else .ok false := by
  rw [evaluate]
  rfl

/-- The second operand of a disjunction is evaluated where the first one does not hold. -/
@[simp] theorem evaluate_or (p q : Predicate α) : (or p q).evaluate atlas m =
    (p.evaluate atlas m).bind fun holds => if holds then .ok true else q.evaluate atlas m := by
  rw [evaluate]
  rfl

/-- A negation has the other truth value, and fails where its operand fails. -/
@[simp] theorem evaluate_not (p : Predicate α) :
    (not p).evaluate atlas m = (p.evaluate atlas m).map (!·) := by
  rw [evaluate]
  cases p.evaluate atlas m <;> rfl

/-- Where both operands have a truth value, so do their combinations. -/
theorem evaluate_combined {b c : Bool} (hp : p.evaluate atlas m = .ok b)
    (hq : q.evaluate atlas m = .ok c) : (and p q).evaluate atlas m = .ok (b && c) ∧
      (or p q).evaluate atlas m = .ok (b || c) ∧ (not p).evaluate atlas m = .ok !b := by
  rw [evaluate_and, evaluate_or, evaluate_not, hp, hq]
  cases b <;> exact ⟨rfl, rfl, rfl⟩

/-- A conjunction has a truth value where both operands have one. -/
theorem exists_and (hp : ∃ b, p.evaluate atlas m = .ok b) (hq : ∃ b, q.evaluate atlas m = .ok b) :
    ∃ b, (and p q).evaluate atlas m = .ok b := by
  obtain ⟨b, hb⟩ := hp
  obtain ⟨c, hc⟩ := hq
  exact ⟨b && c, (evaluate_combined hb hc).1⟩

/-- A conjunction holds where both operands hold. -/
theorem evaluate_and_eq_true : (and p q).evaluate atlas m = .ok true ↔
    p.evaluate atlas m = .ok true ∧ q.evaluate atlas m = .ok true := by
  rw [evaluate_and]
  rcases p.evaluate atlas m with cause | (_ | _) <;> simp

/-- A conjunction fails with its first operand, or with the second one where the first one holds. -/
theorem evaluate_and_eq_error : (and p q).evaluate atlas m = .error e ↔
    p.evaluate atlas m = .error e ∨
      p.evaluate atlas m = .ok true ∧ q.evaluate atlas m = .error e := by
  rw [evaluate_and]
  rcases p.evaluate atlas m with cause | (_ | _) <;> simp

/-- A disjunction fails with its first operand, or with the second one where the first one does not
hold. -/
theorem evaluate_or_eq_error : (or p q).evaluate atlas m = .error e ↔
    p.evaluate atlas m = .error e ∨
      p.evaluate atlas m = .ok false ∧ q.evaluate atlas m = .error e := by
  rw [evaluate_or]
  rcases p.evaluate atlas m with cause | (_ | _) <;> simp

/-- The negation of a conjunction is the disjunction of the negations, errors included. -/
theorem evaluate_not_and (p q : Predicate α) :
    (not (and p q)).evaluate atlas m = (or (not p) (not q)).evaluate atlas m := by
  rw [evaluate_not, evaluate_and, evaluate_or, evaluate_not, evaluate_not]
  rcases p.evaluate atlas m with cause | (_ | _) <;> rfl

/-- The negation of a disjunction is the conjunction of the negations, errors included. -/
theorem evaluate_not_or (p q : Predicate α) :
    (not (or p q)).evaluate atlas m = (and (not p) (not q)).evaluate atlas m := by
  rw [evaluate_not, evaluate_and, evaluate_or, evaluate_not, evaluate_not]
  rcases p.evaluate atlas m with cause | (_ | _) <;> rfl

end ElementAtlas.Predicate
