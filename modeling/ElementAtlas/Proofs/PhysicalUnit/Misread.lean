import ElementAtlas.Proofs.PhysicalUnit.Symbol
import ElementAtlas.Proofs.UnitExpression.Splicing

/-!
# Symbols that do not denote their units

The symbols of products, quotients and powers are put together from those of the operands. An
operand that is written with a point, with superscripts or with a blank other than a space is not
put in parentheses, and then the grammar takes it apart: a quotient divides by the first factor of
such a divisor only, and a power raises the last factor of such a base only. A base that is empty or
ends with a superscript leaves a text that is not read at all, and neither is the symbol of the base
unit of a dimension with an exponent of -128 (`Misread`).

Each of these is the reading of a text that the grammar spells with another tree than that of the
unit: the exponents of what is parsed are those of the tree (`exponents_of_parse`), and the tree
comes from splicing the operand into the larger expression.
-/

namespace ElementAtlas.PhysicalUnit

open Text UnitExpression

variable {α : Type} [Scalar α]

/-! ## What is parsed and what fails -/

/-- A text that is not evaluated denotes no unit. -/
theorem parse_eq_error {symbol : String} {f : Failure} (hsymbol : Trimmed symbol.toList)
    (hne : symbol ≠ "") (h : evaluate (α := α) symbol.toList = .error f) :
    parse (α := α) symbol = .error (f.inExpression symbol) := by
  have hfind : (KnownUnit.find? symbol : Option (KnownUnit α)) = none := by
    by_contra hsome
    obtain ⟨unit, hunit⟩ := Option.ne_none_iff_exists'.1 hsome
    obtain ⟨e, hspells, hfits, -⟩ := (KnownUnit.writes hunit).toProduct
    obtain ⟨x, hx⟩ := hfits.exists_denotes
    rw [(evaluate_eq_ok_iff_of_trimmed hspells.trimmed).2 ⟨e, hspells, hx⟩] at h
    cases h
  have hnil : ¬ symbol.toList.isEmpty = true :=
    mt (String.toList_eq_nil_iff.1 ∘ List.isEmpty_iff.1) hne
  unfold parse
  simp only [hsymbol.trimBlanks_eq, String.ofList_toList, hfind, h, if_neg hnil]

section
variable {e : UnitExpression.Tree α} {symbol : String}

/-- What is spelled, but leaves the range of exponents, denotes no unit. -/
theorem parse_eq_error_of_not_fits (h : Spells .product e symbol.toList []) (hfits : ¬ e.Fits) :
    parse (α := α) symbol = .error (.malformed symbol .exponentRange) := by
  obtain ⟨c, t, heq, -⟩ := h.begins
  have hne : symbol ≠ "" := by
    rintro rfl
    cases heq
  exact parse_eq_error h.trimmed hne (evaluate_eq_error_of_not_fits h hfits)

/-- A unit has the exponents of the tree that its expression spells. -/
theorem exponents_of_parse {x : PhysicalUnit α} (h : Spells .product e symbol.toList [])
    (hx : parse symbol = .ok x) : x.dimension.exponents = e.exponents := by
  by_cases hfits : e.Fits
  · obtain ⟨term, hterm⟩ := hfits.exists_denotes
    have hmeans : Means symbol e.scale term.dimension :=
      .written ⟨e, h, hfits, rfl, hterm.exponents.symm⟩
    obtain ⟨u, hu, hdimension, -⟩ := hmeans.parse
    cases hx.symm.trans hu
    rw [hdimension, hterm.exponents]
  · rw [parse_eq_error_of_not_fits h hfits] at hx
    cases hx

end

/-! ## Operands that come apart -/

/-- The exponents of a quotient by one factor that is multiplied by the others. -/
theorem zipWith_sub_add_eq_iff {u v w : List Int} (hv : v.length = u.length)
    (hw : w.length = u.length) :
    List.zipWith (· + ·) (List.zipWith (· - ·) u v) w =
        List.zipWith (· - ·) u (List.zipWith (· + ·) v w) ↔
      v = List.zipWith (· + ·) v w := by
  induction u generalizing v w with
  | nil => simp [List.length_eq_zero_iff.1 hv]
  | cons m u ih =>
    obtain ⟨k, v, rfl⟩ := List.exists_cons_of_length_eq_add_one hv
    obtain ⟨l, w, rfl⟩ := List.exists_cons_of_length_eq_add_one hw
    simp only [List.zipWith_cons_cons, List.cons.injEq,
      ih (Nat.succ.inj hv) (Nat.succ.inj hw)]
    refine and_congr_left fun _ => ?_
    omega

/-- The exponents of a product whose last factor is raised. -/
theorem zipWith_add_map_eq_iff {u v : List Int} {n : Int} (hv : v.length = u.length) :
    List.zipWith (· + ·) u (v.map (· * n)) = (List.zipWith (· + ·) u v).map (· * n) ↔
      n = 1 ∨ v = List.zipWith (· + ·) u v := by
  induction u generalizing v with
  | nil => simp [List.length_eq_zero_iff.1 hv]
  | cons m u ih =>
    obtain ⟨k, v, rfl⟩ := List.exists_cons_of_length_eq_add_one hv
    simp only [List.map_cons, List.zipWith_cons_cons, List.cons.injEq, ih (Nat.succ.inj hv)]
    have hhead : m + k * n = (m + k) * n ↔ n = 1 ∨ k = m + k := by
      constructor
      · intro h
        have hzero : m * (n - 1) = 0 := by linarith
        rcases Int.mul_eq_zero.1 hzero with hm | hn
        · exact .inr (by omega)
        · exact .inl (by omega)
      · rintro (rfl | hm)
        · ring
        · rw [show m = 0 by omega]
          ring
    rw [hhead, or_and_left]

/-- An operand that may lose its meaning is written as it is. -/
theorem grouped_of_not_operand {part : Part} {symbol : String} (h : ¬ Operand α part symbol) :
    grouped symbol = symbol :=
  by_contra fun hgrouped => h (.inl hgrouped)

/-- What is written as it is holds no sign of division. -/
theorem not_slash_of_grouped {symbol : String} (h : grouped symbol = symbol) :
    '/' ∉ symbol.toList :=
  fun hmem => (grouped_eq_self_iff.1 h _ hmem).1 rfl

/-- A right operand that is no power comes apart: the sign joins what stands before it to the first
factor, and the exponents of the other factors are added. -/
theorem exists_spliced {symbol : String} {scale : α} {v : List Int}
    (h : Writes .product symbol scale v) (hoperand : ¬ Operand α .power symbol) :
    ∃ (first : UnitExpression.Tree α) (t : List Char) (more : List Int),
      Spells .power first symbol.toList t ∧ more.length = 6 ∧
      v = List.zipWith (· + ·) first.exponents more ∧
      ∀ (separator : Separator) {p : String} {b : α} {l : List Int}, Writes .product p b l →
        ∃ e : UnitExpression.Tree α,
          Spells .product e (p ++ separator.sign ++ grouped symbol).toList [] ∧
          e.exponents = List.zipWith (· + ·) (separator.joinExponents l first.exponents) more := by
  have hgrouped := grouped_of_not_operand hoperand
  obtain ⟨e, hspells, -, -, rfl⟩ := h
  obtain ⟨first, rest, t, rfl, hfirst, hsplice⟩ :=
    hspells.exists_factors (not_slash_of_grouped hgrouped)
  obtain ⟨more, hlength, hmore⟩ := UnitExpression.Tree.exists_exponents_times rest
  refine ⟨first, t, more, hfirst, hlength, hmore first, fun separator p b l hp => ?_⟩
  obtain ⟨left, hleft, -, -, rfl⟩ := hp
  obtain ⟨q, hbefore, hseparates⟩ := hleft.before_sign separator symbol
  rw [hgrouped]
  exact ⟨_, hsplice hbefore hseparates, hmore (.join left separator first)⟩

section
variable [Scalar.Lawful α] {u v w x : PhysicalUnit α}

/-- What is read from the symbol of a unit that is formed has its dimension. -/
theorem Formed.dimension_of_parse (h : Formed w)
    (hx : PhysicalUnit.parse w.symbol = .ok x) :
    x.dimension = w.dimension := by
  obtain ⟨y, hy, hdimension, -⟩ := h.readsBack.parse
  cases hx.symm.trans hy
  exact hdimension

/-- A product keeps its dimension also where its right factor comes apart. -/
theorem Formed.dimension_of_mul (hu : Formed u) (hv : Formed v) (hmul : v.mul u = .ok w)
    (hx : PhysicalUnit.parse w.symbol = .ok x) : x.dimension = w.dimension := by
  by_cases hoperand : v.symbol = "" ∨ u.symbol = "" ∨ Operand α .power u.symbol
  · exact (Formed.mul hv hu hmul hoperand).dimension_of_parse hx
  · obtain ⟨hvne, hune, hnot⟩ := not_or.1 hoperand |>.imp_right not_or.1
    obtain ⟨d, hd, rfl⟩ := ofParts_eq_ok_iff.1 hmul
    obtain ⟨first, t, more, -, -, hmore, hsplice⟩ :=
      exists_spliced (hu.named.means.writes_of_ne hune) hnot
    obtain ⟨e, hspells, hexponents⟩ :=
      hsplice .times (writes_grouped_product (hv.named.means.writes_of_ne hvne))
    dsimp only [linear] at hx
    rw [if_neg (mt String.isEmpty_iff.1 hvne), if_neg (mt String.isEmpty_iff.1 hune)] at hx
    refine Dimension.exponents_injective ?_
    rw [exponents_of_parse hspells hx, hexponents, Separator.joinExponents, zipWith_add_assoc,
      ← hmore]
    exact (Dimension.mul?_eq_some_iff.1 hd).symm

omit [Scalar.Lawful α] in
/-- What a sign of division stands behind, in parentheses or as a number. -/
theorem Means.exists_dividend {s : String} {a : α} {d : Dimension} (h : Means s a d) (t : String) :
    ∃ p, (if s.isEmpty then "1/" ++ t else grouped s ++ "/" ++ t) = p ++ Separator.over.sign ++ t ∧
      Writes .product p a d.exponents := by
  cases h with
  | empty => exact ⟨"1", rfl, Dimension.writes_one⟩
  | written hwrites =>
    rw [if_neg (mt String.isEmpty_iff.1 hwrites.ne_empty)]
    exact ⟨grouped s, rfl, writes_grouped_product hwrites⟩

/-- A quotient divides by the first factor only of a divisor that comes apart. -/
theorem Formed.dimension_of_div (hu : Formed u) (hv : Formed v) (hdiv : v.div u = .ok w)
    (hne : u.symbol ≠ "") (hoperand : ¬ Operand α .power u.symbol) :
    ∃ (first : UnitExpression.Tree α) (t : List Char), Spells .power first u.symbol.toList t ∧
      ∀ x : PhysicalUnit α, PhysicalUnit.parse w.symbol = .ok x →
        (x.dimension = w.dimension ↔ first.exponents = u.dimension.exponents) := by
  obtain ⟨d, hd, rfl⟩ := ofParts_eq_ok_iff.1 hdiv
  obtain ⟨first, t, more, hfirst, hlength, hmore, hsplice⟩ :=
    exists_spliced (hu.named.means.writes_of_ne hne) hoperand
  obtain ⟨p, hsymbol, hp⟩ := hv.named.means.exists_dividend (grouped u.symbol)
  obtain ⟨e, hspells, hexponents⟩ := hsplice .over hp
  refine ⟨first, t, hfirst, fun x hx => ?_⟩
  dsimp only [linear] at hx
  rw [if_neg (mt String.isEmpty_iff.1 hne), hsymbol] at hx
  have hx := exponents_of_parse hspells hx
  have hw : d.exponents = List.zipWith (· - ·) v.dimension.exponents u.dimension.exponents :=
    Dimension.div?_eq_some_iff.1 hd
  have hsix (c : Dimension) : c.exponents.length = 6 := rfl
  rw [hexponents, Separator.joinExponents] at hx
  rw [hmore] at hw ⊢
  rw [← zipWith_sub_add_eq_iff (first.length_exponents.trans (hsix v.dimension).symm)
    (hlength.trans (hsix v.dimension).symm), ← hx, ← hw]
  exact ⟨congrArg Dimension.exponents, Dimension.exponents_injective⟩

end

/-! ## Powers -/

/-- The text of a power whose base is not put in parentheses. -/
theorem toList_power {symbol : String} (h : grouped symbol = symbol) (n : Int) :
    (grouped symbol ++ "^" ++ toString n).toList =
      symbol.toList ++ '^' :: (toString n).toList := by
  rw [h, String.toList_append, String.toList_append, List.append_assoc]
  rfl

/-- A power that is not evaluated denotes no unit. -/
theorem parse_power_eq_error {symbol : String} {n : Int} {f : Failure}
    (hsymbol : Stops isBlank symbol.toList) (hn : -128 ≤ n ∧ n ≤ 127)
    (hgrouped : grouped symbol = symbol)
    (h : evaluate (α := α) (symbol.toList ++ '^' :: (toString n).toList) = .error f) :
    parse (α := α) (grouped symbol ++ "^" ++ toString n) =
      .error (f.inExpression (grouped symbol ++ "^" ++ toString n)) := by
  have htext := toList_power hgrouped n
  have hends : Ends (symbol.toList ++ '^' :: (toString n).toList) [] :=
    (writtenInteger_toString hn.1 hn.2).ends.of_suffix
      ((List.suffix_cons _ _).trans (List.suffix_append _ _))
  refine parse_eq_error ?_ ?_ (htext ▸ h)
  · rw [htext]
    exact trimmed_of_ends (hsymbol.append (stops_cons.2 (by decide))) hends
  · intro hempty
    rw [hempty] at htext
    exact List.append_ne_nil_of_right_ne_nil _ (List.cons_ne_nil _ _) htext.symm

/-- An exponent without a base is not read. -/
theorem evaluate_caret (t : List Char) :
    evaluate (α := α) ('^' :: t) = .error strayCaret := by
  obtain ⟨ht, hnext⟩ := exists_next? (dropBlanks_caret t)
  have hatom : atom (α := α) ('^' :: t) = .error strayCaret := by
    rw [atom]
    simp only [hnext]
    rfl
  rw [evaluate, product_of_power_error (power_of_atom_error hatom)]

section
variable [Scalar.Lawful α] {u w x : PhysicalUnit α} {n : Int}

/-- A power raises the last factor only of a base that comes apart. -/
theorem Formed.dimension_of_pow (hu : Formed u) (hpow : u.pow n = .ok w)
    (hn : -128 ≤ n ∧ n ≤ 127) (hne : u.symbol ≠ "") (hoperand : ¬ Operand α .atom u.symbol)
    (hx : PhysicalUnit.parse w.symbol = .ok x) :
    ∃ (last : UnitExpression.Tree α) (t : List Char), t <:+ u.symbol.toList ∧
      Spells .atom last t [] ∧
      (x.dimension = w.dimension ↔ n = 1 ∨ last.exponents = u.dimension.exponents) := by
  obtain ⟨d, hd, rfl⟩ := ofParts_eq_ok_iff.1 hpow
  have hgrouped := grouped_of_not_operand hoperand
  have hwritten := writtenInteger_toString hn.1 hn.2
  obtain ⟨e, hspells, hfits, hscale, hexponents⟩ := hu.named.means.writes_of_ne hne
  rcases hspells.raise_last hfits (not_slash_of_grouped hgrouped) hwritten with
    hatom | ⟨left, last, t, rfl, ht, hlast, hraised⟩ | ⟨m, t, -, -, herror⟩
  · exact absurd (.inr ⟨_, _, e, hatom, hfits, hscale, hexponents⟩) hoperand
  · refine ⟨last, t, ht, hlast, ?_⟩
    rw [← toList_power hgrouped] at hraised
    have hx := exponents_of_parse hraised hx
    have hw : d.exponents = u.dimension.exponents.map (· * n) := Dimension.pow?_eq_some_iff.1 hd
    simp only [UnitExpression.Tree.exponents, Separator.joinExponents] at hx hexponents
    rw [← hexponents] at hw ⊢
    rw [← zipWith_add_map_eq_iff (last.length_exponents.trans left.length_exponents.symm),
      ← hx, ← hw]
    exact ⟨congrArg Dimension.exponents, Dimension.exponents_injective⟩
  · rw [linear, parse_power_eq_error hspells.stops_isBlank hn hgrouped herror] at hx
    cases hx

/-- The symbol has no place for an exponent: it is empty, or ends with a superscript and is not put
in parentheses. -/
def Unraisable (symbol : String) : Prop :=
  symbol = "" ∨ grouped symbol = symbol ∧ EndsRaised symbol.toList

/-- A power of a unit whose symbol has no place for an exponent is not read. -/
theorem Formed.parse_pow_eq_error (hu : Formed u) (hpow : u.pow n = .ok w)
    (hn : -128 ≤ n ∧ n ≤ 127) (h : Unraisable u.symbol) :
    PhysicalUnit.parse (α := α) w.symbol = .error (.malformed w.symbol (.unexpected '^')) := by
  obtain ⟨d, -, rfl⟩ := ofParts_eq_ok_iff.1 hpow
  by_cases hne : u.symbol = ""
  · dsimp only [linear]
    rw [hne]
    have hfront : Stops isBlank "".toList := stops_nil _
    exact parse_power_eq_error hfront hn (by decide) (evaluate_caret _)
  · obtain ⟨hgrouped, hends⟩ := h.resolve_left hne
    have hwritten := writtenInteger_toString hn.1 hn.2
    obtain ⟨e, hspells, hfits, -⟩ := hu.named.means.writes_of_ne hne
    rcases hspells.raise_last hfits (not_slash_of_grouped hgrouped) hwritten with
      hatom | ⟨left, last, t, -, ht, hlast, -⟩ | ⟨m, t, -, -, herror⟩
    · exact absurd hends hatom.not_endsRaised
    · obtain ⟨c, t, rfl, -⟩ := hlast.begins
      have hsuffix {d : Char} (hd : [d] <:+ u.symbol.toList) : [d] <:+ c :: t :=
        List.suffix_of_suffix_length_le hd ht (Nat.succ_le_succ (Nat.zero_le _))
      exact absurd (hends.imp hsuffix hsuffix) hlast.not_endsRaised
    · exact parse_power_eq_error hspells.stops_isBlank hn hgrouped herror

end

/-! ## Base units -/

/-- The symbol of the base unit of a dimension with an exponent of -128 is not read. -/
theorem parse_base_eq_error [Scalar.Lawful α] {d : Dimension} (h : -128 ∈ d.exponents) :
    parse (α := α) (base (α := α) d).symbol =
      .error (.malformed (base (α := α) d).symbol .exponentRange) := by
  have hd : d ≠ .dimensionless := by
    rintro rfl
    exact absurd h (by decide)
  have hsymbol : (base (α := α) d).symbol = d.baseSymbol := if_neg hd
  obtain ⟨e, hspells, -, -, hexponents⟩ := Dimension.writesIfInRange_baseSymbol (α := α) d
  rw [hsymbol]
  refine parse_eq_error_of_not_fits hspells fun hfits => ?_
  obtain ⟨x, hx⟩ := hfits.exists_denotes
  refine Dimension.not_inRange_denoted h ?_
  rw [← hexponents, ← hx.exponents]
  exact x.dimension.inRange_exponents

/-! ## The symbols of units -/

/-- Where the symbol of a unit does not keep its meaning in larger ones. As a right factor it keeps
its dimension. As a divisor that is no power it divides by its first factor only, and as a base that
is no atom its last factor only is raised, so the dimension is kept only if the other factors have
none. A base without a place for an exponent, and an exponent of -128 in a base unit, leave texts
that are not read. -/
structure Misread (u : PhysicalUnit α) : Prop where
  factor {v w x : PhysicalUnit α} : Formed v → v.mul u = .ok w → parse w.symbol = .ok x →
    x.dimension = w.dimension
  divisor {v w : PhysicalUnit α} : Formed v → v.div u = .ok w → u.symbol ≠ "" →
    ¬ Operand α .power u.symbol →
    ∃ (first : UnitExpression.Tree α) (t : List Char), Spells .power first u.symbol.toList t ∧
      ∀ x : PhysicalUnit α, parse w.symbol = .ok x →
        (x.dimension = w.dimension ↔ first.exponents = u.dimension.exponents)
  base {n : Int} {w x : PhysicalUnit α} : u.pow n = .ok w → -128 ≤ n ∧ n ≤ 127 →
    u.symbol ≠ "" → ¬ Operand α .atom u.symbol → parse w.symbol = .ok x →
    ∃ (last : UnitExpression.Tree α) (t : List Char), t <:+ u.symbol.toList ∧
      Spells .atom last t [] ∧
      (x.dimension = w.dimension ↔ n = 1 ∨ last.exponents = u.dimension.exponents)
  unraisable {n : Int} {w : PhysicalUnit α} : u.pow n = .ok w → -128 ≤ n ∧ n ≤ 127 →
    Unraisable u.symbol →
    parse (α := α) w.symbol = .error (.malformed w.symbol (.unexpected '^'))
  lowest (m : α) : u.isAbsolute = false → -128 ∈ u.dimension.exponents →
    parse (α := α) (Quantity.toBaseUnit ⟨m, u⟩).unit.symbol =
      .error (.malformed (Quantity.toBaseUnit ⟨m, u⟩).unit.symbol .exponentRange)

section
variable [Scalar.Lawful α]

/-- Products with a formed unit, quotients by it and its powers have symbols that are read as
`Misread` says. -/
theorem Formed.misread {u : PhysicalUnit α} (h : Formed u) : Misread u where
  factor hv hmul hx := h.dimension_of_mul hv hmul hx
  divisor hv hdiv hne hoperand := h.dimension_of_div hv hdiv hne hoperand
  base hpow hn hne hoperand hx := h.dimension_of_pow hpow hn hne hoperand hx
  unraisable hpow hn hsymbol := h.parse_pow_eq_error hpow hn hsymbol
  lowest m habsolute hlowest := by
    have hunit : (Quantity.toBaseUnit ⟨m, u⟩).unit = PhysicalUnit.base (α := α) u.dimension :=
      if_neg (Bool.eq_false_iff.1 habsolute)
    rw [hunit]
    exact parse_base_eq_error hlowest

/-- The symbol of a unit that is formed from parsed units denotes it, and as a part of a larger
symbol it does so unless it holds a character that is overlooked. A symbol that is no operand is
taken apart in the larger one, or leaves it unread. -/
theorem symbol_denotes {u : PhysicalUnit α} (h : Formed u) : ReadsBack u ∧ Misread u :=
  ⟨h.readsBack, h.misread⟩

end

/-- Heat capacities as they are put together from the names of their units, and the square of the
unit of plain numbers. -/
theorem symbol_denotes_heat_capacity :
    (∃ u v : PhysicalUnit Float, u.symbol = "(J/K)/g" ∧ parse u.symbol = .ok v ∧
      v.dimension = u.dimension ∧ v.scale = u.scale ∧ v.isCompatible u = true) ∧
    ∃ w : PhysicalUnit Float, dimensionless.pow 2 = .ok w ∧
      parse (α := Float) w.symbol = .error (.malformed "^2" (.unexpected '^')) := by
  have hoperand {name : String} {unit : KnownUnit Float} (h : KnownUnit.find? name = some unit) :
      Operand Float .power name := .inr ⟨_, _, (KnownUnit.writes h).power⟩
  have hjoule : Formed (α := Float) _ := .parse (rfl : parse "J" = .ok _)
  have hkelvin : Formed (α := Float) _ := .parse (rfl : parse "K" = .ok _)
  have hgram : Formed (α := Float) _ := .parse (rfl : parse "g" = .ok _)
  have hcapacity := Formed.div hjoule hkelvin rfl (.inr (hoperand rfl))
  have hspecific := Formed.div hcapacity hgram rfl (.inr (hoperand rfl))
  have hplain : Formed (α := Float) dimensionless := .parse (rfl : parse "" = .ok _)
  obtain ⟨v, hv, hdimension, hscale, hcompatible⟩ := (symbol_denotes hspecific).1.parse
  have hpow : (dimensionless : PhysicalUnit Float).pow 2 = .ok _ := rfl
  refine ⟨⟨_, v, rfl, hv, hdimension, hscale, hcompatible.2 (.inr ?_)⟩, _, hpow,
    (symbol_denotes hplain).2.unraisable hpow (by decide) (.inl rfl)⟩
  rintro ⟨unit, hfind, -⟩
  cases hfind

/-- Whether the unit is compatible with the unit that its symbol is parsed to, and none if the
symbol is not parsed. -/
def readsBack? (u : PhysicalUnit α) : Option Bool :=
  (PhysicalUnit.parse u.symbol).toOption.map (·.isCompatible u)

/-- Some symbols do not denote their units: the name of the intervals of kelvin is that of a
temperature scale, an operand can be written with characters that do not put it in parentheses, the
empty symbol is no base of a power, and an exponent of -128 does not lose its sign. -/
theorem symbols_of_other_units :
    ((parse (α := Float) "K").toOption.bind fun u => u.interval.readsBack?) = some false ∧
      (((parse (α := Float) "s").toOption.bind fun u =>
        (parse "kg·m").toOption.bind fun v => (u.div v).toOption).bind readsBack?) = some false ∧
      (((parse (α := Float) "kg²").toOption.bind fun u =>
        (u.pow 2).toOption).map readsBack?) = some none ∧
      (((dimensionless : PhysicalUnit Float).pow 2).toOption.map readsBack?) = some none ∧
      ((parse (α := Float) "1/m^127/m").toOption.map fun u =>
        (Quantity.toBaseUnit ⟨Scalar.ofNat 1, u⟩).unit.readsBack?) = some none := by
  decide +kernel

end ElementAtlas.PhysicalUnit
