import ElementAtlas.Proofs.PhysicalUnit.Symbol

/-!
# Dimensions told by their texts

A dimension has two texts, the symbol of its base unit and its name. The symbol is parsed to a unit
with the dimension, so it belongs to no other one (`Dimension.eq_of_baseSymbol`). The name is the
symbol in other words: word by word it reads as the symbol (`Dimension.toSymbol_text`), so the name
belongs to no other dimension either.
-/

namespace ElementAtlas.Dimension

open UnitExpression

/-! ## The symbol is parsed to the base unit -/

section
variable {α : Type} [Scalar α] [Scalar.Lawful α]

/-- Of the base symbols, only that of temperatures names a temperature scale. -/
theorem namesScale_baseSymbol_iff {d : Dimension} (h : ∀ n ∈ d.exponents, n ≠ -128) :
    KnownUnit.NamesScale α d.baseSymbol ↔ d = ofTemperature := by
  constructor
  · rintro ⟨unit, hfind, habsolute⟩
    obtain ⟨offset, interval, horigin⟩ := PhysicalUnit.isAbsolute_iff.1 habsolute
    obtain ⟨hdimension, -⟩ := KnownUnit.scale_of_absolute hfind horigin
    obtain ⟨-, hexponents⟩ := (KnownUnit.writes hfind).toProduct.unique (writes_baseSymbol h)
    rw [← hdimension]
    exact (exponents_injective hexponents).symm
  · rintro rfl
    exact ⟨_, (rfl : KnownUnit.find? "K" = some _), rfl⟩

/-- The symbol of a base unit is parsed to a unit with its dimension and the scale one, which is
absolute for temperatures only. -/
theorem parse_baseSymbol {d : Dimension} (h : ∀ n ∈ d.exponents, n ≠ -128) :
    ∃ u : PhysicalUnit α, PhysicalUnit.parse d.baseSymbol = .ok u ∧ u.dimension = d ∧
      u.scale = Scalar.ofNat 1 ∧ (u.isAbsolute = true ↔ d = ofTemperature) := by
  have hmeans : PhysicalUnit.Means d.baseSymbol (Scalar.ofNat 1 : α) d :=
    .written (writes_baseSymbol h)
  obtain ⟨u, hparse, hdimension, hscale, habsolute⟩ := hmeans.parse
  exact ⟨u, hparse, hdimension, hscale, habsolute.trans (namesScale_baseSymbol_iff h)⟩

end

/-- No two dimensions have one base symbol. -/
theorem eq_of_baseSymbol {c d : Dimension} (hc : ∀ n ∈ c.exponents, n ≠ -128)
    (hd : ∀ n ∈ d.exponents, n ≠ -128) (h : c.baseSymbol = d.baseSymbol) : c = d := by
  obtain ⟨u, hu, rfl, -⟩ := parse_baseSymbol (α := Rat) hc
  obtain ⟨v, hv, rfl, -⟩ := parse_baseSymbol (α := Rat) hd
  rw [h, hv] at hu
  cases hu
  rfl

/-! ## The name reads as the symbol -/

/-- The words of a name and what they are in a symbol. -/
def symbolWords : List (String × String) :=
  [("[mass]", "kg"), ("[length]", "m"), ("[time]", "s"), ("[temperature]", "K"),
    ("[substance]", "mol"), ("[radiation]", "rad"), ("**", "^"), ("dimensionless", "1")]

/-- A word of a name, as it is in a symbol. -/
def toSymbolWord (word : List Char) : List Char :=
  ((symbolWords.lookup (String.ofList word)).map String.toList).getD word

/-- A name, as it is in symbols: word by word, and without the spaces. -/
def toSymbol (name : String) : List Char := (name.toList.splitOn ' ').flatMap toSymbolWord

/-- Words are put into symbols one by one. -/
@[simp]
theorem toSymbol_append (s t : String) : toSymbol (s ++ " " ++ t) = toSymbol s ++ toSymbol t := by
  have hlist : (s ++ " " ++ t).toList = s.toList ++ ' ' :: t.toList := by
    rw [String.toList_append, String.toList_append, List.append_assoc]
    rfl
  rw [toSymbol, hlist, List.splitOn_append_cons_of_beq _ _ (beq_self_eq_true ' '),
    List.flatMap_append]
  rfl

/-- A number is the same in both texts. -/
@[simp] theorem toSymbol_toString (n : Int8) : toSymbol (toString n) = (toString n).toList := by
  have hdigits {k : Nat} : ∀ c ∈ Nat.toDigits 10 k, c.isDigit = true :=
    fun c hc => Nat.isDigit_of_mem_toDigits (by decide) (by decide) hc
  have hchars : ∀ c ∈ (toString n).toList, c.isDigit = true ∨ c = '-' := by
    change ∀ c ∈ (toString n.toInt).toList, _
    rw [Int.toString_eq_repr, Int.repr_eq_if]
    split_ifs
    · rw [Nat.toList_repr]
      exact fun c hc => .inl (hdigits c hc)
    · rw [String.toList_append, Nat.toList_repr]
      rintro c (_ | ⟨_, hc⟩)
      · exact .inr rfl
      · exact .inl (hdigits c hc)
  have hspace : ' ' ∉ (toString n).toList := fun hmem => absurd (hchars _ hmem) (by decide)
  have hword : symbolWords.lookup (toString n) = none := by
    refine List.lookup_eq_none_iff.2 fun pair hpair => bne_iff_ne.2 fun heq => ?_
    have hno : ∀ pair ∈ symbolWords,
        ¬ (pair.1.toList.all fun c => c.isDigit || c = '-') = true := by decide
    refine hno pair hpair (List.all_eq_true.2 fun c hc => ?_)
    rw [Bool.or_eq_true, decide_eq_true_eq]
    exact hchars c (heq ▸ hc)
  rw [toSymbol, List.splitOn_eq_singleton hspace, List.flatMap_singleton, toSymbolWord,
    String.ofList_toList, hword]
  rfl

/-! ### Products of powers -/

/-- The name of a base dimension with an exponent has the symbol of its unit with the exponent. -/
theorem toSymbol_term {name symbol : String} (n : Int8) (h : toSymbol name = symbol.toList) :
    toSymbol (nameLayout.term name n) = (symbolLayout.term symbol n).toList := by
  rw [Layout.term, Layout.term]
  split_ifs
  · exact h
  · have hwords : nameLayout.power name n = name ++ " " ++ "**" ++ " " ++ toString n := by
      simp [nameLayout, String.append_assoc]
    have hmark : toSymbol "**" = ['^'] := by decide
    rw [hwords, toSymbol_append, toSymbol_append, h, hmark, toSymbol_toString n]
    simp [symbolLayout]

/-- Names with signs between them have the symbols with signs between them. -/
theorem toSymbol_times :
    ∀ {l : List String}, l ≠ [] →
      toSymbol (" * ".intercalate l) = ['*'].intercalate (l.map toSymbol)
  | [s], _ => by simp
  | s :: t :: l, _ => by
    have hmark : toSymbol "*" = ['*'] := by decide
    have hwords : " * ".intercalate (s :: t :: l) =
        s ++ " " ++ "*" ++ " " ++ " * ".intercalate (t :: l) := by
      rw [String.intercalate_cons_cons]
      simp [String.append_assoc]
    rw [hwords, toSymbol_append, toSymbol_append, toSymbol_times (List.cons_ne_nil t l), hmark]
    simp

/-- Divisors are read after what stands before them. -/
theorem toSymbol_over {s : String} {l : List String} :
    toSymbol (s ++ String.join (l.map (" / " ++ ·))) =
      toSymbol s ++ l.flatMap fun t => '/' :: toSymbol t := by
  have hmark : toSymbol "/" = ['/'] := by decide
  induction l generalizing s with
  | nil => simp
  | cons t l ih =>
    have hwords : s ++ String.join ((t :: l).map (" / " ++ ·)) =
        s ++ " " ++ "/" ++ " " ++ t ++ String.join (l.map (" / " ++ ·)) := by
      rw [List.map_cons, String.join_cons]
      simp [String.append_assoc]
    rw [hwords, ih, toSymbol_append, toSymbol_append, hmark]
    simp

/-- The names of the base quantities and the symbols of their units. -/
def bases : List (String × String) := symbolWords.take 6

/-- The base quantities with positive exponents. -/
def factors (d : Dimension) : List ((String × String) × Int8) :=
  (bases.zip d.bytes).filter (0 < ·.2)

/-- The base quantities with negative exponents. -/
def divisors (d : Dimension) : List ((String × String) × Int8) :=
  (bases.zip d.bytes).filter (·.2 < 0)

/-- A dimension is written as its factors and its divisors, in the order of the base dimensions. -/
theorem write_eq (layout : Layout) (f : String × String → String) (d : Dimension) :
    d.write layout (bases.map f) =
      (if d.factors = [] then "1"
        else layout.times.intercalate (d.factors.map fun p => layout.term (f p.1) p.2)) ++
      String.join (d.divisors.map fun p => layout.per ++ layout.term (f p.1) (-p.2)) := by
  rw [write, List.zip_map_left]
  simp only [List.filter_map, List.map_map, List.isEmpty_iff, List.map_eq_nil_iff]
  rfl

/-- A product of powers of the names reads as that of the symbols. -/
theorem toSymbol_write (d : Dimension) :
    toSymbol (d.write nameLayout (bases.map (·.1))) =
      (d.write symbolLayout (bases.map (·.2))).toList := by
  have hbases : ∀ base ∈ bases, toSymbol base.1 = base.2.toList := by decide
  have hfactors : ∀ p ∈ d.factors,
      toSymbol (nameLayout.term p.1.1 p.2) = (symbolLayout.term p.1.2 p.2).toList := by
    intro p hp
    exact toSymbol_term _ (hbases _ (List.of_mem_zip (List.mem_of_mem_filter hp)).1)
  have hdivisors : ∀ p ∈ d.divisors,
      toSymbol (nameLayout.term p.1.1 (-p.2)) = (symbolLayout.term p.1.2 (-p.2)).toList := by
    intro p hp
    exact toSymbol_term _ (hbases _ (List.of_mem_zip (List.mem_of_mem_filter hp)).1)
  have hproduct : toSymbol (if d.factors = [] then "1"
        else " * ".intercalate (d.factors.map fun p => nameLayout.term p.1.1 p.2)) =
      (if d.factors = [] then "1"
        else "*".intercalate (d.factors.map fun p => symbolLayout.term p.1.2 p.2)).toList := by
    split_ifs with hnone
    · decide
    · rw [toSymbol_times (mt List.map_eq_nil_iff.1 hnone), String.toList_intercalate,
        List.map_map, List.map_map]
      exact congrArg (['*'].intercalate ·) (List.map_congr_left hfactors)
  have hper : d.divisors.map (fun p => nameLayout.per ++ nameLayout.term p.1.1 (-p.2)) =
      (d.divisors.map fun p => nameLayout.term p.1.1 (-p.2)).map (" / " ++ ·) :=
    List.map_map.symm
  rw [write_eq, write_eq, hper, toSymbol_over]
  rw [String.toList_append, String.toList_join, List.flatMap_map, List.flatMap_map]
  refine congrArg₂ (· ++ ·) hproduct (List.flatMap_congr fun p hp => ?_)
  rw [hdivisors p hp, String.toList_append]
  rfl

/-- The name of a dimension reads as the symbol of its base unit. -/
theorem toSymbol_text (d : Dimension) : toSymbol d.text = d.baseSymbol.toList := by
  rw [text]
  split_ifs with h
  · subst h
    decide +kernel
  · exact toSymbol_write d

/-- No two dimensions have one name. -/
theorem eq_of_text {c d : Dimension} (hc : ∀ n ∈ c.exponents, n ≠ -128)
    (hd : ∀ n ∈ d.exponents, n ≠ -128) (h : c.text = d.text) : c = d := by
  have hsymbol : c.baseSymbol.toList = d.baseSymbol.toList := by
    rw [← toSymbol_text, ← toSymbol_text, h]
  exact eq_of_baseSymbol hc hd (String.toList_injective hsymbol)

/-- The symbol of a base unit is parsed to a unit with its dimension and the scale one, which is
absolute for temperatures only, and a dimension has its symbol and its name for itself. -/
theorem texts_exact {α : Type} [Scalar α] [Scalar.Lawful α] {d : Dimension}
    (h : ∀ n ∈ d.exponents, n ≠ -128) :
    (∃ u : PhysicalUnit α, PhysicalUnit.parse d.baseSymbol = .ok u ∧ u.dimension = d ∧
      u.scale = Scalar.ofNat 1 ∧ (u.isAbsolute = true ↔ d = ofTemperature)) ∧
    ∀ c : Dimension, (∀ n ∈ c.exponents, n ≠ -128) →
      (c.baseSymbol = d.baseSymbol → c = d) ∧ (c.text = d.text → c = d) :=
  ⟨parse_baseSymbol h, fun _ hc => ⟨eq_of_baseSymbol hc h, eq_of_text hc h⟩⟩

/-- The greatest and the least exponents that can be written. -/
theorem texts_exact_extreme :
    (∀ n ∈ (⟨127, -127, 1, -1, 0, 2⟩ : Dimension).exponents, n ≠ -128) ∧
    (∃ u : PhysicalUnit Float, PhysicalUnit.parse "kg^127*s*rad^2/m^127/K" = .ok u ∧
      u.dimension = ⟨127, -127, 1, -1, 0, 2⟩ ∧ u.scale = Scalar.ofNat 1 ∧
      u.isAbsolute = false) := by
  have h : ∀ n ∈ (⟨127, -127, 1, -1, 0, 2⟩ : Dimension).exponents, n ≠ -128 := by decide
  have hsymbol : (⟨127, -127, 1, -1, 0, 2⟩ : Dimension).baseSymbol = "kg^127*s*rad^2/m^127/K" := by
    decide +kernel
  obtain ⟨⟨u, hparse, hdimension, hscale, habsolute⟩, -⟩ := texts_exact (α := Float) h
  refine ⟨h, u, hsymbol ▸ hparse, hdimension, hscale, Bool.eq_false_iff.2 fun habs => ?_⟩
  exact absurd (habsolute.1 habs) (by decide)

end ElementAtlas.Dimension
