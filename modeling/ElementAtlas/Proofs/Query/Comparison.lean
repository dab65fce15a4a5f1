import ElementAtlas.Proofs.Query.Stability

/-!
# Coherence of the comparison operators

The order of two values and their equality are computed apart from each other, over all pairs of
kinds. Where there is an order the two agree: values are equal if they stand in the order `.eq`, and
what keeps two quantities from being ordered keeps them from being equal or different
(`Value.coherent`). So the six operators are the usual ones. Exactly one of `<`, `==` and `>` holds
of values that have an order, `<=` and `>=` are put together from these, and each operator is the
negation of another, also where it fails (`Predicate.coherent_comparisons`).
-/

namespace ElementAtlas

/-! ## Orders that agree with equality -/

instance : Std.LawfulEqOrd State where
  compare_self {s} := by cases s <;> rfl
  eq_of_compare {s t} h := by cases s <;> cases t <;> first | rfl | cases h

variable {α : Type} [Scalar α]

/-- Two numbers that have an order are the same if it is `.eq`. -/
theorem Scalar.beq_of_compare? {x y : α} {order : Ordering} (h : Scalar.compare? x y = some order) :
    (x == y) = (order == .eq) := by
  rw [compare?] at h
  split_ifs at h with hequal
  · cases h
    exact hequal
  all_goals
    cases h
    exact eq_false_of_ne_true hequal

/-! ## Order and equality of values -/

namespace Value

variable {v w : Value α} {order : Ordering} {cause : QuantityError}

/-- Equality agrees with the order of two values, and fails with it because of quantities. -/
structure Coherent (v w : Value α) : Prop where
  equals_of_order : ∀ order, v.compare w = .ok order → v.equals w = .ok (order == .eq)
  equals_of_error : ∀ cause, v.compare w = .error (.quantity cause) →
    v.equals w = .error (.quantity cause)

/-- Values have an order if they are of kinds that compare and are not undefined numbers. -/
theorem compare_eq_ok_iff : v.compare w = .ok order ↔ v.compare? w = .ok (some order) := by
  rw [compare, Attempt.bind_eq_ok]
  constructor
  · rintro ⟨o?, ho, h⟩
    cases o? with
    | none => cases h
    | some o =>
      cases h
      exact ho
  · intro h
    exact ⟨some order, h, rfl⟩

/-- The lack of an order is no failure of quantities. -/
theorem compare_eq_quantity_iff :
    v.compare w = .error (.quantity cause) ↔ v.compare? w = .error (.quantity cause) := by
  rw [compare, Attempt.bind_eq_error]
  constructor
  · rintro (h | ⟨o?, -, h⟩)
    · exact h
    · cases o? with
      | none | some o => cases h
  · intro h
    exact .inl h

/-- Quantities are equal as values if they stand in the order `.eq`. -/
theorem equals_quantity (q r : Quantity α) : (quantity q).equals (quantity r) =
    ((quantity q).compare (quantity r)).map (· == .eq) := by
  rw [compare_eq_ofQuantity, equals, Quantity.equals]
  cases q.compare r with
  | error cause => rfl
  | ok order => cases order <;> rfl

/-- Values that have an order are equal if it is `.eq`. -/
theorem equals_of_compare (h : v.compare w = .ok order) : v.equals w = .ok (order == .eq) := by
  have horder := compare_eq_ok_iff.1 h
  unfold compare? at horder
  split at horder
  case h_1 x y =>
    rw [equals, Scalar.beq_of_compare? (Except.ok.inj horder)]
  case h_2 q r =>
    rw [equals_quantity, h]
    rfl
  case h_3 q y | h_4 x r =>
    rw [equals, h]
    cases order <;> rfl
  case h_5 s t | h_6 b c | h_7 s t =>
    cases horder
    rw [equals, Std.compare_beq_eq_beq]
  case h_8 =>
    cases horder

/-- What keeps two quantities from being ordered keeps them from being equal. -/
theorem equals_of_error (h : v.compare w = .error (.quantity cause)) :
    v.equals w = .error (.quantity cause) := by
  have herror := compare_eq_quantity_iff.1 h
  unfold compare? at herror
  split at herror
  case h_2 q r =>
    rw [equals_quantity, h]
    rfl
  all_goals cases herror

/-- The order and the equality of any two values agree. -/
theorem coherent (v w : Value α) : Coherent v w :=
  ⟨fun _ => equals_of_compare, fun _ => equals_of_error⟩

end Value

/-! ## The operators -/

namespace Comparison

variable {v w : Value α}

/-- The operators that say in which order two values stand. -/
def basic : List Comparison := [.lt, .eq, .gt]

/-- The basic operator that holds in an order. -/
def ofOrder : Ordering → Comparison
  | .lt => .lt
  | .eq => .eq
  | .gt => .gt

/-- The operator that an order belongs to is one of the three strict ones. -/
theorem ofOrder_mem_basic (order : Ordering) : ofOrder order ∈ basic := by
  cases order <;> decide

/-- The operator that holds where another does not. -/
def negation : Comparison → Comparison
  | .lt => .ge
  | .le => .gt
  | .eq => .ne
  | .ne => .eq
  | .gt => .le
  | .ge => .lt

/-- Of values in an order, each basic operator holds if it is the one of that order. -/
theorem holds_of_order {order : Ordering} (h : v.compare w = .ok order) {operator : Comparison}
    (hbasic : operator ∈ basic) : operator.holds v w = .ok (operator == ofOrder order) := by
  cases operator with
  | eq =>
    rw [holds, Value.equals_of_compare h]
    cases order <;> rfl
  | lt | gt =>
    rw [holds, h]
    cases order <;> rfl
  | le | ne | ge => exact absurd hbasic (by decide)

/-- The negation of an operator holds where the operator does not, and fails where it fails. -/
theorem holds_negation (operator : Comparison) :
    operator.negation.holds v w = (operator.holds v w).map (!·) := by
  cases operator with
  | eq => rfl
  | ne =>
    rw [negation, holds, holds]
    cases v.equals w <;> simp
  | lt | le | gt | ge =>
    rw [negation, holds, holds]
    cases v.compare w with
    | error e => rfl
    | ok order => cases order <;> rfl

/-- A weak inequality is the strict one or equality. -/
theorem holds_weak {strict weak : Comparison}
    (h : strict = .lt ∧ weak = .le ∨ strict = .gt ∧ weak = .ge) :
    weak.holds v w =
      (strict.holds v w).bind fun holds => if holds then .ok true else v.equals w := by
  rcases h with ⟨rfl, rfl⟩ | ⟨rfl, rfl⟩
  all_goals
    rw [holds, holds]
    cases horder : v.compare w with
    | error e => rfl
    | ok order =>
      rw [Value.equals_of_compare horder]
      cases order <;> rfl

end Comparison

namespace Predicate

variable (atlas : Atlas α) (m : Member α) (left : Attribute α) (right : Literal α)

/-- The laws of the comparisons of an attribute with a literal, on an element. -/
structure CoherentComparisons : Prop where
  exactly_one : ∀ v w order, left.evaluate atlas m = .ok v → right.toValue atlas = .ok w →
    v.compare w = .ok order → ∃ holding ∈ Comparison.basic, ∀ operator ∈ Comparison.basic,
      (compare left operator right).evaluate atlas m = .ok (operator == holding)
  le : (compare left .le right).evaluate atlas m =
    (or (compare left .lt right) (compare left .eq right)).evaluate atlas m
  ge : (compare left .ge right).evaluate atlas m =
    (or (compare left .gt right) (compare left .eq right)).evaluate atlas m
  not : ∀ operator, (not (compare left operator right)).evaluate atlas m =
    (compare left operator.negation right).evaluate atlas m
  ne : ∀ b, (compare left .eq right).evaluate atlas m = .ok b ↔
    (compare left .ne right).evaluate atlas m = .ok !b

/-- Where one of the two values is missing, all comparisons of them fail with one error. -/
theorem compare_cases :
    (∃ e, ∀ operator, (compare left operator right).evaluate atlas m = .error e) ∨
      ∃ v w, left.evaluate atlas m = .ok v ∧ right.toValue atlas = .ok w := by
  cases hv : left.evaluate atlas m with
  | error e => exact .inl ⟨e, fun operator => Attempt.bind_eq_error.2 (.inl hv)⟩
  | ok v =>
    cases hw : right.toValue atlas with
    | error e =>
      have hright : ∀ operator, (compare left operator right).evaluate atlas m = .error e :=
        fun operator => Attempt.bind_eq_error.2 (.inr ⟨v, hv, Attempt.bind_eq_error.2 (.inl hw)⟩)
      exact .inl ⟨e, hright⟩
    | ok w => exact .inr ⟨v, w, rfl, rfl⟩

variable {atlas m left right}

/-- A comparison is evaluated on the values of its operands. -/
theorem evaluate_compare {v w : Value α} (hv : left.evaluate atlas m = .ok v)
    (hw : right.toValue atlas = .ok w) (operator : Comparison) :
    (compare left operator right).evaluate atlas m = operator.holds v w := by
  rw [evaluate, Attempt.bind_of_ok hv, Attempt.bind_of_ok hw]

/-- Negating a comparison is comparing with the negated operator. -/
theorem evaluate_not_compare (operator : Comparison) :
    (not (compare left operator right)).evaluate atlas m =
      (compare left operator.negation right).evaluate atlas m := by
  rw [evaluate_not]
  rcases compare_cases atlas m left right with ⟨e, herror⟩ | ⟨v, w, hv, hw⟩
  · rw [herror, herror]
    rfl
  · rw [evaluate_compare hv hw, evaluate_compare hv hw, Comparison.holds_negation]

/-- A weak comparison is the strict one or equality. -/
theorem evaluate_weak {strict weak : Comparison}
    (h : strict = .lt ∧ weak = .le ∨ strict = .gt ∧ weak = .ge) :
    (compare left weak right).evaluate atlas m =
      (or (compare left strict right) (compare left .eq right)).evaluate atlas m := by
  rw [evaluate_or]
  rcases compare_cases atlas m left right with ⟨e, herror⟩ | ⟨v, w, hv, hw⟩
  · rw [herror, herror]
    rfl
  · rw [evaluate_compare hv hw, evaluate_compare hv hw, evaluate_compare hv hw]
    exact Comparison.holds_weak h

/-- Comparisons of any attribute with any literal follow from one order, in which equality is one of
the three possible outcomes. -/
theorem coherent_comparisons (atlas : Atlas α) (m : Member α) (left : Attribute α)
    (right : Literal α) :
    (∀ v w : Value α, v.Coherent w) ∧ CoherentComparisons atlas m left right := by
  refine ⟨Value.coherent, ?_, ?_, ?_, evaluate_not_compare, ?_⟩
  · intro v w order hv hw horder
    refine ⟨.ofOrder order, Comparison.ofOrder_mem_basic order, fun operator hbasic => ?_⟩
    rw [evaluate_compare hv hw]
    exact Comparison.holds_of_order horder hbasic
  · exact evaluate_weak (.inl ⟨rfl, rfl⟩)
  · exact evaluate_weak (.inr ⟨rfl, rfl⟩)
  · intro b
    have hne : (compare left .ne right).evaluate atlas m = _ := (evaluate_not_compare .eq).symm
    rw [hne, evaluate_not]
    cases (compare left .eq right).evaluate atlas m with
    | error e => exact iff_of_false nofun nofun
    | ok c => simp

end Predicate

end ElementAtlas
