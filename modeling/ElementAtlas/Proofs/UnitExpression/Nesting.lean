import ElementAtlas.Proofs.UnitExpression.Parentheses

/-!
# Nesting of the readers

The readers of a product, a power and an atom call each other, and only the reader of an atom calls
that of a product again, behind an opening parenthesis. Here this call is a parameter, so that
`productWith` reads one level of parentheses, and `productWithin` stacks a number of levels on a
reader that may do anything. The text behind an opening parenthesis has one of them less
(`count_lt_of_next?`), and the other readers go on in what is left of the text, which has no more of
them. So the reader at the bottom is never reached if there is one level for each opening
parenthesis, and one for the product itself (`readsBelow_productWithin`).
-/

namespace ElementAtlas.UnitExpression

open Text

variable {α : Type} [Scalar α]

/-! ## Readers of one level -/

section
variable (inner : (t : List Char) → Reading (Term α) t)

/-- Reads an atom. The product in parentheses is read by another reader. -/
def atomWith (s : List Char) : Reading (Term α) s :=
  match next? s with
  | none => .error (.fault .unexpectedEnd)
  | some (c, ⟨t, ht⟩) =>
    if c = '(' then
      match inner t with
      | .error e => .error e
      | .ok (value, r) =>
        match after? ')' r.1 with
        | none => .error (.fault .unclosed)
        | some r' => .ok (value, Rest.trans ⟨t, ht⟩ (r.trans r'))
    else if c.isDigit then
      let (run, r) := spanWhile (fun c => c.isDigit || c = '.') t
      match number? (c :: run) with
      | none => .error (.fault .malformedNumber)
      | some scale => .ok (⟨scale, .dimensionless⟩, Rest.remainder ⟨t, ht⟩ r)
    else if beginsName c then
      let (run, r) := spanWhile continuesName t
      let name := String.ofList (c :: run)
      match KnownUnit.find? name with
      | none => .error (.unknownName name)
      | some unit => .ok (⟨unit.scale, unit.dimension⟩, Rest.remainder ⟨t, ht⟩ r)
    else .error (.fault (.unexpected c))

/-- Reads an atom and its exponent. -/
def powerWith (s : List Char) : Reading (Term α) s :=
  match atomWith inner s with
  | .error e => .error e
  | .ok (base, r) =>
    match exponent r.1 with
    | .error e => .error e
    | .ok (n, r') =>
      match base.pow? n with
      | none => .error (.fault .exponentRange)
      | some value => .ok (value, r.remainder r')

/-- Reads the factors that follow a product, one after another. -/
def factorsWith (value : Term α) (s : List Char) : Except Failure (Term α × Remainder s) :=
  match next? s with
  | none => .ok (value, ⟨[], Nat.zero_le _⟩)
  | some (c, ⟨t, ht⟩) =>
    if c = ')' then .ok (value, ⟨c :: t, ht⟩)
    else match separator? s with
      | none => .error (.fault (.unexpected c))
      | some (separator, ⟨r, hr⟩) =>
        match powerWith inner r with
        | .error e => .error e
        | .ok (next, ⟨r', hr'⟩) =>
          match separator.apply? value next with
          | none => .error (.fault .exponentRange)
          | some value =>
            match factorsWith value r' with
            | .error e => .error e
            | .ok (value, r'') => .ok (value, ((Rest.trans ⟨r, hr⟩ ⟨r', hr'⟩).remainder r'').weaken)
termination_by s.length

/-- Reads a product. -/
def productWith (s : List Char) : Reading (Term α) s :=
  match powerWith inner s with
  | .error e => .error e
  | .ok (value, ⟨r, hr⟩) =>
    match factorsWith inner value r with
    | .error e => .error e
    | .ok (value, r') => .ok (value, Rest.remainder ⟨r, hr⟩ r')

end

/-- Reads a product in which parentheses are nested less than `depth` deep. Deeper ones are left to
another reader. -/
def productWithin (stop : (t : List Char) → Reading (Term α) t) :
    Nat → (s : List Char) → Reading (Term α) s
  | 0 => stop
  | depth + 1 => productWith (productWithin stop depth)

/-! ## The readers do not nest deeper than there are parentheses -/

section
variable {inner : (t : List Char) → Reading (Term α) t} {limit : Nat} {s : List Char}

/-- The reader reads the products with less than so many opening parentheses. -/
def ReadsBelow (inner : (t : List Char) → Reading (Term α) t) (limit : Nat) : Prop :=
  ∀ t : List Char, t.count '(' < limit → inner t = product t

/-- Behind an opening parenthesis there is one less. -/
theorem count_lt_of_next? {t : Rest s} (h : next? s = some ('(', t)) :
    t.1.count '(' < s.count '(' := by
  have hsuffix : '(' :: t.1 <:+ s := next?_eq_some_iff.1 h ▸ (blanks_dropBlanks s).suffix
  have hle := hsuffix.count_le '('
  rw [List.count_cons_self] at hle
  omega

/-- What a separator leaves is an end of the text. -/
theorem suffix_of_separator? {separator : Separator} {u : Rest s}
    (h : separator? s = some (separator, u)) : u.1 <:+ s := by
  have hblanks := (blanks_dropBlanks s).suffix
  unfold separator? at h
  split at h
  · cases h
  next c t hnext =>
    have hsuffix : t.1 <:+ s :=
      (List.suffix_cons c t.1).trans (next?_eq_some_iff.1 hnext ▸ hblanks)
    split_ifs at h
    · cases h
      exact hsuffix
    · cases h
      exact hsuffix
    · cases h
      exact skipBlanks_val s ▸ hblanks

/-- A text within the limit of parentheses has its atom read alike with the inner reader. -/
theorem atomWith_eq (hinner : ReadsBelow inner limit) (hs : s.count '(' ≤ limit) :
    atomWith inner s = atom s := by
  rw [atomWith, atom]
  cases hnext : next? s with
  | none => rfl
  | some next =>
    obtain ⟨c, t, ht⟩ := next
    by_cases hopen : c = '('
    · subst hopen
      have hproduct := hinner t (Nat.lt_of_lt_of_le (count_lt_of_next? hnext) hs)
      dsimp only
      generalize inner t = read at hproduct ⊢
      subst hproduct
      rfl
    · exact (if_neg hopen).trans (if_neg hopen).symm

/-- A text within the limit of parentheses has its power read alike with the inner reader. -/
theorem powerWith_eq (hinner : ReadsBelow inner limit) (hs : s.count '(' ≤ limit) :
    powerWith inner s = power s := by
  rw [power, ← atomWith_eq hinner hs]
  rfl

/-- The induction is on the length of the text, as the factors are read one after another. -/
theorem factorsWith_eq (hinner : ReadsBelow inner limit) (hs : s.count '(' ≤ limit)
    (value : Term α) : factorsWith inner value s = factors value s := by
  induction hn : s.length using Nat.strong_induction_on generalizing s value with
  | h n ih =>
    rw [factorsWith, factors]
    cases hnext : next? s with
    | none => rfl
    | some next =>
      obtain ⟨c, t, ht⟩ := next
      by_cases hclose : c = ')'
      · simp only [if_pos hclose]
      simp only [if_neg hclose]
      cases hseparator : separator? s with
      | none => rfl
      | some separated =>
        obtain ⟨separator, u, hu⟩ := separated
        have hcount := ((suffix_of_separator? hseparator).count_le '(').trans hs
        simp only [powerWith_eq hinner hcount]
        cases hpower : power (α := α) u with
        | error failure => rfl
        | ok read =>
          obtain ⟨next, r, hr⟩ := read
          cases hjoin : separator.apply? value next with
          | none => simp only [hjoin]
          | some w =>
            have hsuffix := (passes_of_reads_power ⟨hr, hpower⟩).suffix
            have hrest := ih r.length (hn ▸ Nat.lt_trans hr hu)
              ((hsuffix.count_le '(').trans hcount) w rfl
            simp only [hjoin]
            generalize factorsWith inner w r = rest at hrest ⊢
            subst hrest
            rfl

/-- A text within the limit of parentheses has its product read alike with the inner reader. -/
theorem productWith_eq (hinner : ReadsBelow inner limit) (hs : s.count '(' ≤ limit) :
    productWith inner s = product s := by
  rw [productWith, product, powerWith_eq hinner hs]
  cases hpower : power (α := α) s with
  | error failure => rfl
  | ok read =>
    obtain ⟨value, r, hr⟩ := read
    have hsuffix := (passes_of_reads_power ⟨hr, hpower⟩).suffix
    have hrest := factorsWith_eq hinner ((hsuffix.count_le '(').trans hs) value
    dsimp only
    generalize factorsWith inner value r = rest at hrest ⊢
    subst hrest
    rfl

/-- A product is read with one level for each opening parenthesis, and one for itself. -/
theorem readsBelow_productWithin (stop : (t : List Char) → Reading (Term α) t) (depth : Nat) :
    ReadsBelow (productWithin stop depth) depth := by
  induction depth with
  | zero => exact fun _ h => absurd h (Nat.not_lt_zero _)
  | succ depth ih => exact fun _ h => productWith_eq ih (Nat.le_of_lt_succ h)

/-- Two levels are not enough for two opening parentheses. -/
example : productWithin (α := Rat) (fun _ => .error (.unknownName "stop")) 2 "((m))".toList matches
    .error (.unknownName "stop") := by
  decide +kernel

end

end ElementAtlas.UnitExpression
