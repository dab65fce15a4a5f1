import ElementAtlas.Proofs.UnitExpression.Completeness

/-!
# Writing unit expressions

Parts of expressions are put together to larger ones: a part that stands alone is the same part with
text behind it, unless that text goes on with its last name or number (`Spells.append`). From this a
product is written by writing a sign and a factor behind it, a power by writing an exponent behind
an atom, and an atom by putting a product in parentheses.

`Writes` says that a text, all of it, spells a part with a given scale and given exponents.
-/

namespace ElementAtlas.UnitExpression

open Text

/-! ## Text behind a part -/

/-- Whether a name or a number goes on with a character. -/
def continuesToken (c : Char) : Bool := continuesName c || continuesNumber c

/-- What ends every name or number ends a name. -/
theorem Stops.name {w : List Char} (h : Stops continuesToken w) : Stops continuesName w :=
  fun c t heq => (Bool.or_eq_false_iff.1 (h c t heq)).1

/-- What ends every name or number ends a number. -/
theorem Stops.number {w : List Char} (h : Stops continuesToken w) : Stops continuesNumber w :=
  fun c t heq => (Bool.or_eq_false_iff.1 (h c t heq)).2

/-- An integer is written alike before a longer text. -/
theorem WrittenInteger.append {n : Int} {s r : List Char} (h : WrittenInteger n s r)
    (w : List Char) : WrittenInteger n (s ++ w) (r ++ w) := by
  cases h with
  | positive hne hall heq hn hlow hhigh =>
    exact .positive hne hall (by rw [heq, List.append_assoc]) hn hlow hhigh
  | negative hne hall heq hn hlow hhigh =>
    exact .negative hne hall (by rw [heq, List.append_assoc]) hn hlow hhigh

/-- An exponent is written alike before a longer text. -/
theorem Raises.append {n : Int} {s r : List Char} (h : Raises n s r) (w : List Char) :
    Raises n (s ++ w) (r ++ w) := by
  cases h with
  | caret hs ht hn => exact .caret (hs.append w) (ht.append w) (hn.append w)
  | stars hs ht hn => exact .stars (hs.append w) (ht.append w) (hn.append w)
  | square hn hs => exact .square hn (hs.append w)
  | cube hn hs => exact .cube hn (hs.append w)

/-- A separator is written alike before a longer text. -/
theorem Separates.append {s r : List Char} {separator : Separator} (h : Separates s r separator)
    (w : List Char) : Separates (s ++ w) (r ++ w) separator := by
  cases h with
  | star hs hr => exact .star (hs.append w) (hr.append w)
  | dot hs hr => exact .dot (hs.append w) (hr.append w)
  | slash hs hr => exact .slash (hs.append w) (hr.append w)
  | blanks hs hne => exact .blanks (hs.append w) (mt List.append_cancel_right hne)

variable {α : Type} [Scalar α]

/-- A name or number is written alike before a longer text that does not go on with it. -/
theorem Names.append {term : Term α} {s r w : List Char} (h : Names term s r)
    (hw : Stops continuesToken w) : Names term (s ++ w) (r ++ w) := by
  cases h with
  | unit hc hall hstops hfind =>
    rw [List.append_assoc]
    exact .unit hc hall (hstops.append (Stops.name hw)) hfind
  | number hc hall hstops hcount =>
    rw [List.append_assoc]
    exact .number hc hall (hstops.append (Stops.number hw)) hcount

/-- A part of an expression is the same part with text behind it that goes on with no name and no
number. -/
theorem Spells.append {part : Part} {e : Tree α} {s r w : List Char} (h : Spells part e s r)
    (hw : Stops continuesToken w) : Spells part e (s ++ w) (r ++ w) := by
  induction h with
  | leaf hnames => exact .leaf (hnames.append hw)
  | group hs _ hu ih => exact .group (hs.append w) ih (hu.append w)
  | plain _ ih => exact .plain ih
  | raised _ hraises ih => exact .raised ih (hraises.append w)
  | single _ ih => exact .single ih
  | join _ hseparates _ ihleft ihright => exact .join ihleft (hseparates.append w) ihright

/-! ## Integers -/

/-- The value of a digit is its distance from the character of zero. -/
theorem digit?_of_isDigit {c : Char} (h : c.isDigit = true) :
    (digit? 10 c).getD 0 = c.toNat - '0'.toNat := by
  obtain ⟨hlow, hhigh⟩ := isDigit_iff.1 h
  have hrange : '0' ≤ c ∧ c ≤ '9' := ⟨hlow, hhigh⟩
  have hvalue : c.toNat - '0'.toNat < 10 := by
    change c.toNat - 48 < 10
    omega
  rw [digit?]
  simp only [if_pos hrange, if_pos hvalue, Option.getD_some]

/-- The digits of a number denote it. -/
@[simp]
theorem valueOfDigits_toDigits (n : Nat) : Decimal.valueOfDigits (Nat.toDigits 10 n) = n := by
  have hfold (digits : List Char) (hall : ∀ c ∈ digits, c.isDigit = true) (m : Nat) :
      digits.foldl (fun n c => 10 * n + (digit? 10 c).getD 0) m = Nat.ofDigitChars 10 digits m := by
    induction digits generalizing m with
    | nil => rw [Nat.ofDigitChars_nil, List.foldl_nil]
    | cons c digits ih =>
      rw [List.foldl_cons, Nat.ofDigitChars_cons, digit?_of_isDigit (hall c (.head _))]
      exact ih (fun d hd => hall d (.tail _ hd)) _
  have hdigits : ∀ c ∈ Nat.toDigits 10 n, c.isDigit = true :=
    fun c hc => Nat.isDigit_of_mem_toDigits (by decide) (by decide) hc
  rw [Decimal.valueOfDigits, hfold _ hdigits]
  exact Nat.ofDigitChars_ten_toDigits

/-- An integer in the range of exponents is written as its text. -/
theorem writtenInteger_toString {n : Int} (hlow : -128 ≤ n) (hhigh : n ≤ 127) :
    WrittenInteger n (toString n).toList [] := by
  have hdigits (k : Nat) : ∀ c ∈ Nat.toDigits 10 k, c.isDigit = true :=
    fun c hc => Nat.isDigit_of_mem_toDigits (by decide) (by decide) hc
  rw [Int.toString_eq_repr, Int.repr_eq_if]
  split_ifs with hsign
  · refine .positive Nat.toDigits_ne_nil (hdigits n.toNat) ?_ ?_ hlow hhigh
    · rw [Nat.toList_repr, List.append_nil]
    · simp [Int.toNat_of_nonneg hsign]
  · refine .negative Nat.toDigits_ne_nil (hdigits (-n).toNat) ?_ ?_ hlow hhigh
    · rw [String.toList_append, Nat.toList_repr, List.append_nil]
      rfl
    · rw [valueOfDigits_toDigits]
      omega

/-! ## Putting parts together -/

/-- The sign that joins two factors. -/
def Separator.sign : Separator → String
  | .times => "*"
  | .over => "/"

section
variable {e l r : Tree α} {s t : String}

/-- A sign separates a product from the text behind it. -/
theorem Spells.before_sign (separator : Separator) (hl : Spells .product l s.toList [])
    (t : String) :
    ∃ q, Spells .product l (s ++ separator.sign ++ t).toList q ∧
      Separates q t.toList separator := by
  rw [String.toList_append, String.toList_append, List.append_assoc]
  cases separator with
  | times =>
    exact ⟨'*' :: t.toList, hl.append (stops_cons.2 (by decide +kernel)), .star (.refl _) (.refl _)⟩
  | «over» =>
    exact ⟨'/' :: t.toList, hl.append (stops_cons.2 (by decide +kernel)),
      .slash (.refl _) (.refl _)⟩

/-- A sign joins what is spelled on its two sides. -/
theorem Spells.joined (separator : Separator) (hl : Spells .product l s.toList [])
    (hr : Spells .power r t.toList []) :
    Spells .product (.join l separator r) (s ++ separator.sign ++ t).toList [] := by
  obtain ⟨q, hleft, hseparates⟩ := hl.before_sign separator t
  exact .join hleft hseparates hr

/-- An exponent behind an atom raises it. -/
theorem Spells.raisedTo {n : Int} (h : Spells .atom e s.toList []) (hlow : -128 ≤ n)
    (hhigh : n ≤ 127) : Spells .power (.power e n) (s ++ "^" ++ toString n).toList [] := by
  rw [String.toList_append, String.toList_append, List.append_assoc]
  exact .raised (h.append (stops_cons.2 (by decide +kernel)))
    (.caret (.refl _) (.refl _) (writtenInteger_toString hlow hhigh))

end

/-! ## Writing parts -/

/-- The text spells a part of an expression that has the given scale and the given exponents. -/
def Writes (part : Part) (text : String) (scale : α) (exponents : List Int) : Prop :=
  ∃ e : Tree α, Spells part e text.toList [] ∧ e.Fits ∧ e.scale = scale ∧ e.exponents = exponents

variable {s t : String} {a b : α} {v w : List Int}

/-- The exponents of what is written are those of a dimension. -/
theorem Writes.inRange {part : Part} (h : Writes part s a v) : Dimension.InRange v := by
  obtain ⟨e, -, hfits, -, rfl⟩ := h
  obtain ⟨x, hx⟩ := hfits.exists_denotes
  exact hx.exponents ▸ x.dimension.inRange_exponents

/-- An atom is a power, with the exponent left out. -/
theorem Writes.power (h : Writes .atom s a v) : Writes .power s a v := by
  obtain ⟨e, hspells, he⟩ := h
  exact ⟨e, .plain hspells, he⟩

/-- A power is a product of one factor. -/
theorem Writes.product (h : Writes .power s a v) : Writes .product s a v := by
  obtain ⟨e, hspells, he⟩ := h
  exact ⟨e, .single hspells, he⟩

/-- An atom is every part of an expression. -/
theorem Writes.ofAtom (h : Writes .atom s a v) : ∀ part, Writes part s a v
  | .atom => h
  | .power => h.power
  | .product => h.power.product

/-- Every part of an expression is a product. -/
theorem Writes.toProduct : ∀ {part : Part}, Writes part s a v → Writes .product s a v
  | .atom, h => h.power.product
  | .power, h => h.product
  | .product, h => h

/-- A part of an expression is never the empty text. -/
theorem Writes.ne_empty {part : Part} (h : Writes part s a v) : s ≠ "" := by
  obtain ⟨e, hspells, -⟩ := h
  obtain ⟨c, t, heq, -⟩ := hspells.begins
  rintro rfl
  cases heq

/-- A product or quotient is written with a sign between its operands. -/
theorem Writes.join (separator : Separator) (hs : Writes .product s a v)
    (ht : Writes .power t b w) (hrange : Dimension.InRange (separator.joinExponents v w)) :
    Writes .product (s ++ separator.sign ++ t) (separator.joinScales a b)
      (separator.joinExponents v w) := by
  obtain ⟨l, hl, hlfits, rfl, rfl⟩ := hs
  obtain ⟨r, hr, hrfits, rfl, rfl⟩ := ht
  exact ⟨.join l separator r, hl.joined separator hr, ⟨hlfits, hrfits, hrange⟩, rfl, rfl⟩

/-- A product is also written with a blank between its factors. -/
theorem Writes.beside (hs : Writes .product s a v) (ht : Writes .power t b w)
    (hrange : Dimension.InRange (Separator.times.joinExponents v w)) :
    Writes .product (s ++ " " ++ t) (Separator.times.joinScales a b)
      (Separator.times.joinExponents v w) := by
  obtain ⟨l, hl, hlfits, rfl, rfl⟩ := hs
  obtain ⟨r, hr, hrfits, rfl, rfl⟩ := ht
  refine ⟨.join l .times r, ?_, ⟨hlfits, hrfits, hrange⟩, rfl, rfl⟩
  rw [String.toList_append, String.toList_append, List.append_assoc]
  have hleft := hl.append (w := ' ' :: t.toList) (stops_cons.2 (by decide +kernel))
  exact .join hleft (.blanks ⟨[' '], List.forall_mem_singleton.2 (by decide +kernel), rfl⟩
    (List.cons_ne_self _ _)) hr

/-- A power is written with its exponent behind an atom. -/
theorem Writes.pow {n : Int} (hs : Writes .atom s a v) (hlow : -128 ≤ n) (hhigh : n ≤ 127)
    (hrange : Dimension.InRange (v.map (· * n))) :
    Writes .power (s ++ "^" ++ toString n) (Scalar.power a n) (v.map (· * n)) := by
  obtain ⟨e, hspells, hfits, rfl, rfl⟩ := hs
  exact ⟨.power e n, hspells.raisedTo hlow hhigh, ⟨hfits, hrange⟩, rfl, rfl⟩

/-- A product in parentheses is an atom. -/
theorem Writes.group (hs : Writes .product s a v) : Writes .atom ("(" ++ s ++ ")") a v := by
  obtain ⟨e, hspells, he⟩ := hs
  refine ⟨e, ?_, he⟩
  rw [String.toList_append, String.toList_append, List.append_assoc]
  exact .group (.refl _) (hspells.append (stops_cons.2 (by decide +kernel))) (.refl _)

/-! ## Writing what may leave the range -/

/-- The text spells a part of an expression that has the given scale and the given exponents. If
these are in range, so are all that are met on the way to them. -/
def WritesIfInRange (part : Part) (text : String) (scale : α) (exponents : List Int) : Prop :=
  ∃ e : Tree α, Spells part e text.toList [] ∧ (Dimension.InRange exponents → e.Fits) ∧
    e.scale = scale ∧ e.exponents = exponents

/-- What is written is written for as long as its exponents are in range. -/
theorem Writes.ifInRange {part : Part} (h : Writes part s a v) : WritesIfInRange part s a v := by
  obtain ⟨e, hspells, hfits, he⟩ := h
  exact ⟨e, hspells, fun _ => hfits, he⟩

/-- What is written for as long as its exponents are in range is written if they are. -/
theorem WritesIfInRange.writes {part : Part} (h : WritesIfInRange part s a v)
    (hrange : Dimension.InRange v) : Writes part s a v := by
  obtain ⟨e, hspells, hfits, he⟩ := h
  exact ⟨e, hspells, hfits hrange, he⟩

/-- A factor is joined to a product whose exponents are in range if those of the result are. -/
theorem WritesIfInRange.join (separator : Separator) (hs : WritesIfInRange .product s a v)
    (ht : Writes .power t b w)
    (hrange : Dimension.InRange (separator.joinExponents v w) → Dimension.InRange v) :
    WritesIfInRange .product (s ++ separator.sign ++ t) (separator.joinScales a b)
      (separator.joinExponents v w) := by
  obtain ⟨l, hl, hlfits, rfl, rfl⟩ := hs
  obtain ⟨r, hr, hrfits, rfl, rfl⟩ := ht
  exact ⟨.join l separator r, hl.joined separator hr,
    fun hjoin => ⟨hlfits (hrange hjoin), hrfits, hjoin⟩, rfl, rfl⟩

end ElementAtlas.UnitExpression
