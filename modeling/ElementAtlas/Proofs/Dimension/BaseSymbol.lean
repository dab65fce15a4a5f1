import ElementAtlas.Proofs.PhysicalUnit.Registry
import ElementAtlas.Proofs.Scalar.Lawful

/-!
# Base symbols

The symbol of the base unit of a dimension is a unit expression, and it denotes the base unit: its
scale is one, and its exponents are those of the dimension (`writes_baseSymbol`). Only an exponent
of -128 cannot be written, since a divisor is written with the exponent without its sign, and that
of -128 does not lose it: the symbol divides by a power of -128, so it stands for an exponent of 128
(`writesIfInRange_baseSymbol`).

The symbol is written in two passes over the exponents. The first writes the factors, which leave
the positive parts of the exponents; the second writes the divisors behind them. Either pass deals
with one exponent after the other, so both proofs are inductions on the exponents that are still to
come.
-/

namespace ElementAtlas.Dimension

open UnitExpression

variable {α : Type} [Scalar α] [Scalar.Lawful α]

/-- The exponents of a base quantity with `i` quantities before it and `k` behind it. -/
def unitVector (i k : Nat) : List Int := List.replicate i 0 ++ 1 :: List.replicate k 0

/-- The symbols stand for the base quantities from number `i` on. -/
def Bases (α : Type) [Scalar α] : Nat → List (String × Int8) → Prop
  | _, [] => True
  | i, (symbol, _) :: powers =>
    Writes (α := α) .atom symbol (Scalar.ofNat 1) (unitVector i powers.length) ∧
      Bases α (i + 1) powers

/-- A multiple of a unit vector has the factor at its place. -/
theorem unitVector_map (i k : Nat) (n : Int) :
    (unitVector i k).map (· * n) = List.replicate i 0 ++ n :: List.replicate k 0 := by
  simp [unitVector]

/-- Adding to one exponent leaves the exponents before it and behind it alone. -/
theorem zipWith_unitVector {f : Int → Int → Int} (hf : ∀ m, f m 0 = m) (before after : List Int)
    (m n : Int) :
    List.zipWith f (before ++ m :: after)
      ((unitVector before.length after.length).map (· * n)) = before ++ f m n :: after := by
  have hzeros (l : List Int) : List.zipWith f l (List.replicate l.length 0) = l := by
    induction l with
    | nil => rfl
    | cons m l ih => rw [List.length_cons, List.replicate_succ, List.zipWith_cons_cons, hf, ih]
  rw [unitVector_map, List.zipWith_append (by simp), List.zipWith_cons_cons, hzeros, hzeros]

/-- One exponent can be replaced by another one in range. -/
theorem InRange.replace {before after : List Int} {m n : Int} (h : InRange (before ++ m :: after))
    (hn : -128 ≤ n ∧ n ≤ 127) : InRange (before ++ n :: after) := by
  intro k hk
  rcases List.mem_append.1 hk with hk | hk
  · exact h k (List.mem_append_left _ hk)
  · rcases List.mem_cons.1 hk with rfl | hk
    · exact hn
    · exact h k (List.mem_append_right _ (List.mem_cons_of_mem _ hk))

/-- One and one are joined to one, by every separator. -/
@[simp] theorem joinScales_one (separator : Separator) :
    separator.joinScales (Scalar.ofNat 1 : α) (Scalar.ofNat 1) = Scalar.ofNat 1 := by
  cases separator with
  | times => exact Scalar.Lawful.mul_one _
  | «over» => exact Scalar.Lawful.div_one _

/-- Every byte is an exponent that can be written. -/
theorem byte_inRange (n : Int8) : -128 ≤ n.toInt ∧ n.toInt ≤ 127 :=
  ⟨n.le_toInt, Int.le_of_lt_add_one n.toInt_lt⟩

/-- A byte is positive if its number is. -/
theorem byte_pos_iff {n : Int8} : 0 < n ↔ 0 < n.toInt := Int8.lt_iff_toInt_lt

/-- A byte is negative if its number is. -/
theorem byte_neg_iff {n : Int8} : n < 0 ↔ n.toInt < 0 := Int8.lt_iff_toInt_lt

/-- The power of a base unit is written as its symbol with the exponent. -/
theorem writes_term {symbol : String} {i k : Nat} (n : Int8)
    (h : Writes (α := α) .atom symbol (Scalar.ofNat 1) (unitVector i k)) :
    Writes (α := α) .power (symbolLayout.term symbol n) (Scalar.ofNat 1)
      ((unitVector i k).map (· * n.toInt)) := by
  unfold Layout.term
  split_ifs with hone
  · subst hone
    simpa using h.power
  · have hrange : InRange ((unitVector i k).map (· * n.toInt)) := by
      have hn := byte_inRange n
      rw [unitVector_map]
      intro m hm
      simp only [List.mem_append, List.mem_replicate, List.mem_cons] at hm
      omega
    have hpower := h.pow (byte_inRange n).1 (byte_inRange n).2 hrange
    rwa [Scalar.power_one] at hpower

/-! ## The factors -/

/-- What has been written of the factors: none, if no exponent is positive so far, or their
product. -/
def Started (α : Type) [Scalar α] (factors : List String) (v : List Int) : Prop :=
  (factors = [] ∧ ∀ n ∈ v, n = 0) ∨
    (factors ≠ [] ∧ Writes (α := α) .product ("*".intercalate factors) (Scalar.ofNat 1) v)

/-- One more base unit is written behind the factors before it. -/
theorem Started.append {factors : List String} {symbol : String} {before : List Int} {k : Nat}
    (n : Int8) (h : Started α factors (before ++ 0 :: List.replicate k 0))
    (hsymbol : Writes (α := α) .atom symbol (Scalar.ofNat 1) (unitVector before.length k)) :
    Started α (factors ++ [symbolLayout.term symbol n])
      (before ++ n.toInt :: List.replicate k 0) := by
  have hpower := writes_term n hsymbol
  refine .inr ⟨List.append_ne_nil_of_right_ne_nil _ (List.cons_ne_nil _ _), ?_⟩
  rcases h with ⟨rfl, hzero⟩ | ⟨hne, hwrites⟩
  · have hbefore : before = List.replicate before.length 0 :=
      List.eq_replicate_iff.2 ⟨rfl, fun m hm => hzero m (List.mem_append_left _ hm)⟩
    rw [unitVector_map, ← hbefore] at hpower
    rw [List.nil_append, String.intercalate_singleton]
    exact hpower.product
  · have hsum := zipWith_unitVector (f := (· + ·)) (by simp) before (List.replicate k 0) 0 n.toInt
    rw [List.length_replicate, Int.zero_add] at hsum
    have hjoin := hwrites.join .times hpower (by
      rw [Separator.joinExponents, hsum]
      exact hwrites.inRange.replace (byte_inRange n))
    rw [Separator.joinExponents, hsum, joinScales_one] at hjoin
    rw [String.intercalate_append_of_ne_nil hne (List.cons_ne_nil _ _),
      String.intercalate_singleton]
    exact hjoin

/-- The factors leave the positive parts of the exponents. -/
theorem started_factors {powers : List (String × Int8)} (written : List Int)
    (factors : List String) (h : Bases α written.length powers)
    (hstarted : Started α factors (written ++ List.replicate powers.length 0)) :
    Started α (factors ++ (powers.filter (0 < ·.2)).map fun p => symbolLayout.term p.1 p.2)
      (written ++ powers.map fun p => max p.2.toInt 0) := by
  induction powers generalizing written factors with
  | nil => simpa using hstarted
  | cons power powers ih =>
    obtain ⟨symbol, n⟩ := power
    obtain ⟨hsymbol, hbases⟩ := h
    have hnext {m : Int} (factors : List String)
        (hwritten : Started α factors (written ++ m :: List.replicate powers.length 0)) :
        Started α (factors ++ (powers.filter (0 < ·.2)).map fun p => symbolLayout.term p.1 p.2)
          (written ++ m :: powers.map fun p => max p.2.toInt 0) := by
      have hrest := ih (written ++ [m]) factors (by simpa using hbases) (by simpa using hwritten)
      simpa using hrest
    by_cases hpositive : 0 < n
    · have hbyte : 0 < n.toInt := byte_pos_iff.1 hpositive
      simpa [hpositive, hbyte.le] using hnext _ (hstarted.append n hsymbol)
    · have hbyte : n.toInt ≤ 0 := not_lt.1 (mt byte_pos_iff.2 hpositive)
      have hskip := hnext (m := 0) factors hstarted
      simpa [hpositive, hbyte] using hskip

/-! ## The divisors -/

/-- The exponent that a byte stands for in a symbol, where it is written as a factor or, without its
sign, as a divisor. -/
def denoted (n : Int8) : Int := if n < 0 then -(-n).toInt else n.toInt

/-- All exponents but -128 lose their sign. -/
theorem denoted_eq {n : Int8} (h : n.toInt ≠ -128) : denoted n = n.toInt := by
  unfold denoted
  split_ifs
  · have hrange := byte_inRange n
    rw [Int8.toInt_neg, Int.bmod_eq_of_le (by omega) (by omega), neg_neg]
  · rfl

/-- A divisor takes the place of an exponent that has not been written. -/
theorem writesIfInRange_divisor {text symbol : String} {before after : List Int} {n : Int8}
    (h : WritesIfInRange (α := α) .product text (Scalar.ofNat 1) (before ++ 0 :: after))
    (hsymbol : Writes (α := α) .atom symbol (Scalar.ofNat 1)
      (unitVector before.length after.length)) (hn : n < 0) :
    WritesIfInRange (α := α) .product (text ++ ("/" ++ symbolLayout.term symbol (-n)))
      (Scalar.ofNat 1) (before ++ denoted n :: after) := by
  have hdifference := zipWith_unitVector (f := (· - ·)) (by simp) before after 0 (-n).toInt
  rw [zero_sub] at hdifference
  have hjoin := h.join .over (writes_term (-n) hsymbol) (by
    rw [Separator.joinExponents, hdifference]
    exact fun hrange => hrange.replace (by omega))
  rw [Separator.joinExponents, hdifference, joinScales_one, String.append_assoc] at hjoin
  rw [denoted, if_pos hn]
  exact hjoin

/-- The divisors add the exponents that are negative. -/
theorem writesIfInRange_divisors {powers : List (String × Int8)} (written : List Int)
    (text : String) (h : Bases α written.length powers)
    (hwrites : WritesIfInRange (α := α) .product text (Scalar.ofNat 1)
      (written ++ powers.map fun p => max p.2.toInt 0)) :
    WritesIfInRange (α := α) .product
      (text ++ String.join
        ((powers.filter (·.2 < 0)).map fun p => "/" ++ symbolLayout.term p.1 (-p.2)))
      (Scalar.ofNat 1) (written ++ powers.map fun p => denoted p.2) := by
  induction powers generalizing written text with
  | nil => simpa using hwrites
  | cons power powers ih =>
    obtain ⟨symbol, n⟩ := power
    obtain ⟨hsymbol, hbases⟩ := h
    have hnext (text : String)
        (htext : WritesIfInRange (α := α) .product text (Scalar.ofNat 1)
          (written ++ denoted n :: powers.map fun p => max p.2.toInt 0)) :
        WritesIfInRange (α := α) .product
          (text ++ String.join
            ((powers.filter (·.2 < 0)).map fun p => "/" ++ symbolLayout.term p.1 (-p.2)))
          (Scalar.ofNat 1) (written ++ denoted n :: powers.map fun p => denoted p.2) := by
      have hrest := ih (written ++ [denoted n]) text (by simpa using hbases) (by simpa using htext)
      simpa using hrest
    by_cases hnegative : n < 0
    · have hbyte : n.toInt ≤ 0 := (byte_neg_iff.1 hnegative).le
      rw [List.map_cons, max_eq_right hbyte] at hwrites
      have hdivisor :=
        hnext _ (writesIfInRange_divisor hwrites (by simpa using hsymbol) hnegative)
      simpa [hnegative, String.append_assoc] using hdivisor
    · have hbyte : 0 ≤ n.toInt := not_lt.1 (mt byte_neg_iff.2 hnegative)
      have hdenoted : denoted n = n.toInt := if_neg hnegative
      rw [List.map_cons, max_eq_left hbyte, ← hdenoted] at hwrites
      simpa [hnegative] using hnext text hwrites

/-! ## The symbol -/

/-- A known unit with the scale one is an atom with the scale one. -/
theorem writes_known {name : String} {names : List String} {d : Dimension}
    (h : KnownUnit.find? name = some (.multiple (α := α) names 1.0 d)) :
    Writes (α := α) .atom name (Scalar.ofNat 1) d.exponents := by
  have hwrites := KnownUnit.writes h
  rwa [KnownUnit.multiple, Scalar.Lawful.ofDecimal_one] at hwrites

/-- The base quantities have known units, with the scale one. -/
theorem bases_symbols (d : Dimension) :
    Bases α 0 (["kg", "m", "s", "K", "mol", "rad"].zip d.bytes) :=
  ⟨writes_known (d := .ofMass) rfl, writes_known (d := .ofLength) rfl,
    writes_known (d := .ofTime) rfl, KnownUnit.writes (rfl : KnownUnit.find? "K" = some _),
    writes_known (d := .ofSubstance) rfl, writes_known (d := .ofRadiation) rfl, trivial⟩

omit [Scalar.Lawful α] in
/-- The number one stands for no factors. -/
theorem writes_one :
    Writes (α := α) .product "1" (Scalar.ofNat 1) dimensionless.exponents := by
  have hnames : Names (α := α) ⟨numeral ['1'], .dimensionless⟩ (['1'] ++ []) [] :=
    .number (by decide) (by simp) (Text.stops_nil _) (by decide)
  have hspells : Spells (α := α) .atom (.leaf ⟨Scalar.ofNat 1, .dimensionless⟩) ['1'] [] :=
    .leaf hnames
  exact ⟨_, .single (.plain hspells), trivial, rfl, rfl⟩

/-- The symbol of a base unit spells a product with the exponents that its bytes stand for. -/
theorem writesIfInRange_baseSymbol (d : Dimension) :
    WritesIfInRange (α := α) .product d.baseSymbol (Scalar.ofNat 1) (d.bytes.map denoted) := by
  have hbases : Bases α 0 _ := bases_symbols d
  have hfactors := started_factors [] [] hbases (.inl ⟨rfl, by simp⟩)
  rw [List.nil_append, List.nil_append] at hfactors
  refine writesIfInRange_divisors [] _ hbases (Writes.ifInRange ?_)
  rcases hfactors with ⟨hnone, hzero⟩ | ⟨hne, hfactors⟩
  · rw [if_pos (by rw [List.isEmpty_iff]; exact hnone)]
    rw [List.nil_append, List.eq_replicate_iff.2 ⟨rfl, hzero⟩]
    exact writes_one
  · rw [if_neg (by rw [List.isEmpty_iff]; exact hne)]
    exact hfactors

/-- The symbol of a base unit denotes it. -/
theorem writes_baseSymbol {d : Dimension} (h : ∀ n ∈ d.exponents, n ≠ -128) :
    Writes (α := α) .product d.baseSymbol (Scalar.ofNat 1) d.exponents := by
  have hdenoted : d.bytes.map denoted = d.exponents :=
    List.map_congr_left fun n hn => denoted_eq (h n.toInt (List.mem_map_of_mem hn))
  have hwrites := writesIfInRange_baseSymbol (α := α) d
  rw [hdenoted] at hwrites
  exact hwrites.writes d.inRange_exponents

/-- An exponent of -128 is written as one of 128, which is out of range. -/
theorem not_inRange_denoted {d : Dimension} (h : -128 ∈ d.exponents) :
    ¬ InRange (d.bytes.map denoted) := by
  obtain ⟨n, hn, hvalue⟩ := List.mem_map.1 h
  have hmin : n = Int8.minValue := Int8.toInt_inj.1 hvalue
  subst hmin
  intro hrange
  have hbound := (hrange _ (List.mem_map_of_mem hn)).2
  exact absurd hbound (by decide)

end ElementAtlas.Dimension
