import ElementAtlas.Proofs.Attempt
import ElementAtlas.Proofs.UnitExpression.Grammar

/-!
# What the readers of signs, numbers and names read

The readers of a unit expression return what remains of the text with a proof that it is shorter.
`Reads` says what was read and what remains and leaves that proof out, and the readers that call no
other reader of the grammar are told here in its terms: they look at the text without the blanks at
its front, and they read an integer, an exponent, a separator or a number where one is written.

An exponent or a separator is only found where the text after a part of an expression is one that an
expression can go on with: its end, a closing parenthesis, or a further factor (`Follows`).
-/

namespace ElementAtlas.UnitExpression

open Text

/-- The value `x` was read, and the text `r` remains. -/
def Reads {β : Type} {P : List Char → Prop} (result : Except Failure (β × { r // P r })) (x : β)
    (r : List Char) : Prop :=
  ∃ h, result = .ok (x, ⟨r, h⟩)

/-! ## The next character -/

@[simp] theorem skipBlanks_val (s : List Char) : (skipBlanks s).1 = dropBlanks s :=
  spanWhile_snd isBlank s

/-- The first character of a text is read, and the rest is left. -/
@[simp] theorem first?_eq_some_iff {s : List Char} {c : Char} {t : Rest s} :
    first? s = some (c, t) ↔ s = c :: t.1 := by
  obtain ⟨t, ht⟩ := t
  cases s with
  | nil => simp [first?]
  | cons d s => simp [first?, Rest.tail]

/-- A character is read off a text that begins with it, and the rest is left. -/
@[simp] theorem after?_eq_some_iff {s : List Char} {c : Char} {t : Rest s} :
    after? c s = some t ↔ s = c :: t.1 := by
  obtain ⟨t, ht⟩ := t
  cases s with
  | nil => simp [after?]
  | cons d s => simp [after?, Rest.tail]

/-- A character is not read off a text that does not begin with it. -/
@[simp]
theorem after?_eq_none_iff {s : List Char} {c : Char} : after? c s = none ↔ ∀ t, s ≠ c :: t := by
  cases s with
  | nil => simp [after?]
  | cons d s => simp [after?]

/-- The next character and what follows it are found after the blanks. -/
@[simp] theorem next?_eq_some_iff {s : List Char} {c : Char} {t : Rest s} :
    next? s = some (c, t) ↔ dropBlanks s = c :: t.1 := by
  rw [next?, Option.map_eq_some_iff, ← skipBlanks_val]
  constructor
  · rintro ⟨⟨d, r⟩, hfirst, heq⟩
    cases heq
    exact first?_eq_some_iff.1 hfirst
  · intro h
    have hlt : t.1.length < (skipBlanks s).1.length := by rw [h]; exact Nat.lt_succ_self _
    exact ⟨(c, ⟨t.1, hlt⟩), first?_eq_some_iff.2 h, rfl⟩

/-- No character is left behind blanks if the text is blank. -/
@[simp] theorem next?_eq_none_iff {s : List Char} : next? s = none ↔ dropBlanks s = [] := by
  rw [next?, Option.map_eq_none_iff, ← skipBlanks_val]
  cases (skipBlanks s).1 with
  | nil => simp [first?]
  | cons c t => simp [first?]

/-- A text goes on after its blanks with some character, unless it ends there. -/
theorem exists_next? {s t : List Char} {c : Char} (h : dropBlanks s = c :: t) :
    ∃ ht, next? s = some (c, ⟨t, ht⟩) := by
  have hle : (dropBlanks s).length ≤ s.length := (skipBlanks_val s) ▸ (skipBlanks s).2
  have hlt : t.length < s.length := by
    rw [h, List.length_cons] at hle
    omega
  exact ⟨hlt, next?_eq_some_iff.2 h⟩

/-- The next character is one that only blanks stand before. -/
theorem next?_of_blanks {s t : List Char} {c : Char} (h : Blanks s (c :: t))
    (hc : isBlank c = false) :
    ∃ ht, next? s = some (c, ⟨t, ht⟩) :=
  exists_next? ((blanks_iff (stops_cons.2 hc)).1 h)

/-! ## Integers and exponents -/

/-- The integer whose digits are at the front of the text after its sign, if there is one. -/
def digitsAfterSign (isNegative : Bool) {s : List Char} (t : Remainder s) :
    Except Failure (Int × Remainder s) :=
  let (digits, r) := spanWhile Char.isDigit t.1
  let value : Int := Decimal.valueOfDigits digits
  let value := if isNegative then -value else value
  if digits.isEmpty ∨ value < -128 ∨ 127 < value then .error (.fault .malformedExponent)
  else .ok (value, t.trans r)

/-- An integer is a sign, which may be missing, and digits behind it. -/
theorem integer_eq (s : List Char) :
    integer s =
      match after? '-' (skipBlanks s).1 with
      | some r => digitsAfterSign true ((skipBlanks s).rest r).weaken
      | none => digitsAfterSign false (skipBlanks s) := by
  unfold integer
  dsimp only
  cases after? '-' (skipBlanks s).1 with
  | none => rfl
  | some r => rfl

/-- Digits are read as far as they go, and are an exponent if their number, with the sign, is
one. -/
@[simp] theorem reads_digitsAfterSign_iff {isNegative : Bool} {s r : List Char} {t : Remainder s}
    {n : Int} :
    Reads (digitsAfterSign isNegative t) n r ↔
      ∃ digits, digits ≠ [] ∧ t.1 = digits ++ r ∧ (∀ c ∈ digits, c.isDigit = true) ∧
        Stops Char.isDigit r ∧
        n = (if isNegative then -(Decimal.valueOfDigits digits : Int)
          else Decimal.valueOfDigits digits) ∧
        -128 ≤ n ∧ n ≤ 127 := by
  unfold Reads digitsAfterSign
  dsimp only
  simp only [Attempt.guard_eq_ok, not_or, Int.not_lt, List.isEmpty_iff, Except.ok.injEq]
  constructor
  · rintro ⟨hr, ⟨hne, hlow, hhigh⟩, heq⟩
    cases heq
    obtain ⟨heq, hall, hstops⟩ := spanWhile_eq_iff.1 ⟨rfl, rfl⟩
    exact ⟨_, hne, heq, hall, hstops, rfl, hlow, hhigh⟩
  · rintro ⟨digits, hne, heq, hall, hstops, rfl, hlow, hhigh⟩
    obtain ⟨rfl, rfl⟩ := spanWhile_eq_iff.2 ⟨heq, hall, hstops⟩
    exact ⟨(t.trans (spanWhile Char.isDigit t.1).2).2, ⟨hne, hlow, hhigh⟩, rfl⟩

/-- An integer is read where one is written, as far as its digits go. -/
@[simp] theorem reads_integer_iff {s r : List Char} {n : Int} :
    Reads (integer s) n r ↔ WrittenInteger n (dropBlanks s) r ∧ Stops Char.isDigit r := by
  rw [← skipBlanks_val, integer_eq]
  cases hsign : after? '-' (skipBlanks s).1 with
  | some t =>
    rw [after?_eq_some_iff] at hsign
    simp only [reads_digitsAfterSign_iff, if_true]
    constructor
    · rintro ⟨digits, hne, heq, hall, hstops, hn, hlow, hhigh⟩
      exact ⟨.negative hne hall (hsign.trans (congrArg _ heq)) hn hlow hhigh, hstops⟩
    · rintro ⟨⟨hne, hall, heq, hn, hlow, hhigh⟩ | ⟨hne, hall, heq, hn, hlow, hhigh⟩, hstops⟩
      · obtain ⟨c, digits, rfl⟩ := List.exists_cons_of_ne_nil hne
        rw [hsign, List.cons_append, List.cons.injEq] at heq
        rw [← heq.1] at hall
        exact absurd (hall '-' (.head _)) (by decide)
      · rw [hsign, List.cons_append, List.cons.injEq] at heq
        exact ⟨_, hne, heq.2, hall, hstops, hn, hlow, hhigh⟩
  | none =>
    rw [after?_eq_none_iff] at hsign
    simp only [reads_digitsAfterSign_iff, Bool.false_eq_true, if_false]
    constructor
    · rintro ⟨digits, hne, heq, hall, hstops, hn, hlow, hhigh⟩
      exact ⟨.positive hne hall heq hn hlow hhigh, hstops⟩
    · rintro ⟨⟨hne, hall, heq, hn, hlow, hhigh⟩ | ⟨hne, hall, heq, hn, hlow, hhigh⟩, hstops⟩
      · exact ⟨_, hne, heq, hall, hstops, hn, hlow, hhigh⟩
      · exact absurd heq (hsign _)

/-- An integer begins with no blank, so it is read behind any blanks. -/
theorem WrittenInteger.reads_integer {s t r : List Char} {n : Int} (h : WrittenInteger n t r)
    (hs : Blanks s t) (hr : Stops Char.isDigit r) : Reads (integer s) n r := by
  have hstops : Stops isBlank t := by
    rintro c u rfl
    rw [Bool.eq_false_iff]
    intro hblank
    cases h with
    | @positive digits hne hall heq =>
      obtain ⟨d, digits, rfl⟩ := List.exists_cons_of_ne_nil hne
      rw [List.cons_append, List.cons.injEq] at heq
      have hdigit := hall d (.head _)
      grind
    | negative _ _ heq =>
      rw [List.cons_append, List.cons.injEq] at heq
      rw [heq.1] at hblank
      cases hblank
  rw [reads_integer_iff, (blanks_iff hstops).1 hs]
  exact ⟨h, hr⟩

/-- An exponent that is read after a sign is the integer there. -/
theorem reads_map_iff {β : Type} {P Q : List Char → Prop}
    {f : β × { r // P r } → β × { r // Q r }} (hf : ∀ x r, (f (x, r)).1 = x ∧ (f (x, r)).2.1 = r.1)
    {result : Except Failure (β × { r // P r })} {x : β} {r : List Char} :
    Reads (result.map f) x r ↔ Reads result x r := by
  constructor
  · rintro ⟨hr, h⟩
    obtain ⟨⟨y, t⟩, rfl, heq⟩ := Attempt.map_eq_ok.1 h
    obtain ⟨hx, ht⟩ := hf y t
    rw [heq] at hx ht
    subst hx ht
    exact ⟨t.2, rfl⟩
  · rintro ⟨hr, rfl⟩
    obtain ⟨hx, ht⟩ := hf x ⟨r, hr⟩
    have hrest : Q r := by
      have hq := (f (x, ⟨r, hr⟩)).2.2
      rwa [ht] at hq
    exact ⟨hrest, congrArg _ (Prod.ext hx (Subtype.ext ht))⟩

/-- A reading that has succeeded gives its result and what is left. -/
@[simp] theorem reads_ok_iff {β : Type} {P : List Char → Prop} {x y : β} {r : List Char}
    {t : { r // P r }} : Reads (.ok (y, t)) x r ↔ y = x ∧ t.1 = r := by
  constructor
  · rintro ⟨hr, h⟩
    cases h
    exact ⟨rfl, rfl⟩
  · rintro ⟨rfl, rfl⟩
    exact ⟨t.2, rfl⟩

/-- What is read after an atom is the first power and no text, or an exponent written there. -/
theorem raises_of_reads_exponent {s r : List Char} {n : Int} (h : Reads (exponent s) n r) :
    (n = 1 ∧ r = s) ∨ Raises n s r := by
  have hnone {n : Int} {r : List Char} (h : Reads (.ok (1, Remainder.all s)) n r) :
      n = 1 ∧ r = s := by
    obtain ⟨rfl, rfl⟩ := reads_ok_iff.1 h
    exact ⟨rfl, rfl⟩
  unfold exponent at h
  split at h
  · exact .inl (hnone h)
  next c t hnext =>
    have hblanks : Blanks s (c :: t.1) := next?_eq_some_iff.1 hnext ▸ blanks_dropBlanks s
    split_ifs at h with hcaret hsquare hcube hstar
    · subst hcaret
      rw [reads_map_iff fun _ _ => ⟨rfl, rfl⟩, reads_integer_iff] at h
      exact .inr (.caret hblanks (blanks_dropBlanks _) h.1)
    · subst hsquare
      obtain ⟨rfl, rfl⟩ := reads_ok_iff.1 h
      exact .inr (.square rfl hblanks)
    · subst hcube
      obtain ⟨rfl, rfl⟩ := reads_ok_iff.1 h
      exact .inr (.cube rfl hblanks)
    · subst hstar
      split at h
      · exact .inl (hnone h)
      next u hafter =>
        rw [reads_map_iff fun _ _ => ⟨rfl, rfl⟩, reads_integer_iff] at h
        rw [after?_eq_some_iff.1 hafter] at hblanks
        exact .inr (.stars hblanks (blanks_dropBlanks _) h.1)
    · exact .inl (hnone h)

/-- An exponent that is written after an atom is read, if its digits do not go on. -/
theorem Raises.reads_exponent {s r : List Char} {n : Int} (h : Raises n s r)
    (hr : Stops Char.isDigit r) : Reads (exponent s) n r := by
  unfold exponent
  cases h with
  | caret hs ht hn =>
    obtain ⟨hlt, hnext⟩ := next?_of_blanks hs (by decide)
    rw [hnext]
    exact (reads_map_iff fun _ _ => ⟨rfl, rfl⟩).2 (hn.reads_integer ht hr)
  | @stars t u hs ht hn =>
    obtain ⟨hlt, hnext⟩ := next?_of_blanks hs (by decide)
    obtain ⟨hlt', hafter⟩ : ∃ ht, after? '*' ('*' :: t) = some ⟨t, ht⟩ :=
      ⟨Nat.lt_succ_self _, after?_eq_some_iff.2 rfl⟩
    rw [hnext]
    simp only [hafter]
    exact (reads_map_iff fun _ _ => ⟨rfl, rfl⟩).2 (hn.reads_integer ht hr)
  | square hn hs =>
    obtain ⟨hlt, hnext⟩ := next?_of_blanks hs (by decide)
    rw [hnext]
    exact reads_ok_iff.2 ⟨hn.symm, rfl⟩
  | cube hn hs =>
    obtain ⟨hlt, hnext⟩ := next?_of_blanks hs (by decide)
    rw [hnext]
    exact reads_ok_iff.2 ⟨hn.symm, rfl⟩

/-! ## What an expression goes on with -/

/-- An atom begins with no blank. -/
@[grind →] theorem BeginsAtom.isBlank {c : Char} (h : BeginsAtom c) : isBlank c = false := by
  rw [Bool.eq_false_iff]
  intro hblank
  obtain rfl | hdigit | hname := h
  · exact absurd hblank (by decide)
  · grind
  · simp only [beginsName, isLetter_of_isBlank hblank, Bool.false_or, Bool.or_eq_true,
      decide_eq_true_eq] at hname
    obtain (rfl | rfl) | rfl := hname <;> exact absurd hblank (by decide)

/-- No sign of an expression begins an atom, except the opening parenthesis. -/
theorem not_beginsAtom {c : Char} (h : c ∈ ['*', '·', '/', '^', '²', '³', ')']) :
    ¬ BeginsAtom c := by
  have hall : (['*', '·', '/', '^', '²', '³', ')'].all fun c => !decide (BeginsAtom c)) = true := by
    decide +kernel
  simpa using List.all_eq_true.1 hall c h

/-- What separates two factors is where a separator is read, up to blanks before the second. -/
theorem separates_of_separator? {s t : List Char} {separator : Separator} {r : Rest s}
    (h : separator? s = some (separator, r)) (hr : Blanks r.1 t) (ht : Stops isBlank t) :
    Separates s t separator := by
  unfold separator? at h
  split at h
  · cases h
  next c u hnext =>
    have hblanks : Blanks s (c :: u.1) := next?_eq_some_iff.1 hnext ▸ blanks_dropBlanks s
    split_ifs at h with hsign hslash hlt
    · cases h
      obtain rfl | rfl := hsign
      · exact .star hblanks hr
      · exact .dot hblanks hr
    · cases h
      subst hslash
      exact .slash hblanks hr
    · cases h
      have heq : dropBlanks s = t := by simp [← (blanks_iff ht).1 hr]
      refine .blanks (heq ▸ blanks_dropBlanks s) ?_
      rintro rfl
      rw [skipBlanks_val, heq] at hlt
      exact Nat.lt_irrefl _ hlt

/-- Where a separator stands between two factors it is read, up to blanks before the second. -/
theorem Separates.separator? {s t : List Char} {c : Char} {separator : Separator}
    (h : Separates s (c :: t) separator) (hc : BeginsAtom c) :
    ∃ r, separator? s = some (separator, r) ∧ dropBlanks r.1 = c :: t := by
  have hstops : Stops isBlank (c :: t) := stops_cons.2 hc.isBlank
  unfold UnitExpression.separator?
  cases h with
  | @star u hs hu =>
    obtain ⟨hlt, hnext⟩ := next?_of_blanks hs (by decide)
    refine ⟨⟨u, hlt⟩, ?_, (blanks_iff hstops).1 hu⟩
    rw [hnext]
    rfl
  | @dot u hs hu =>
    obtain ⟨hlt, hnext⟩ := next?_of_blanks hs (by decide)
    refine ⟨⟨u, hlt⟩, ?_, (blanks_iff hstops).1 hu⟩
    rw [hnext]
    rfl
  | @slash u hs hu =>
    obtain ⟨hlt, hnext⟩ := next?_of_blanks hs (by decide)
    refine ⟨⟨u, hlt⟩, ?_, (blanks_iff hstops).1 hu⟩
    rw [hnext]
    rfl
  | blanks hs hne =>
    have heq := (blanks_iff hstops).1 hs
    obtain ⟨hlt, hnext⟩ := next?_of_blanks hs hc.isBlank
    have hsign {d : Char} (hd : d ∈ ['*', '·', '/', '^', '²', '³', ')']) : c ≠ d := by
      rintro rfl
      exact not_beginsAtom hd hc
    have hshorter : (skipBlanks s).1.length < s.length := by
      rw [skipBlanks_val, heq]
      exact hs.length_lt hne
    refine ⟨⟨(skipBlanks s).1, hshorter⟩, ?_, ?_⟩
    · rw [hnext]
      simp only [hsign (d := '*') (by decide), hsign (d := '·') (by decide),
        hsign (d := '/') (by decide), or_self, if_false, dif_pos hshorter]
    · simp [heq, hstops]

/-- What separates two factors begins with a blank or with a sign. -/
theorem Separates.head {c : Char} {s t : List Char} {separator : Separator}
    (h : Separates (c :: s) t separator) : isBlank c = true ∨ c ∈ ['*', '·', '/'] := by
  by_cases hblank : isBlank c = true
  · exact .inl hblank
  have hstops : Stops isBlank (c :: s) := stops_cons.2 (Bool.eq_false_iff.2 hblank)
  cases h with
  | star hs =>
    cases hs.eq_of_stops hstops
    exact .inr (by decide)
  | dot hs =>
    cases hs.eq_of_stops hstops
    exact .inr (by decide)
  | slash hs =>
    cases hs.eq_of_stops hstops
    exact .inr (by decide)
  | blanks hs hne => exact absurd (hs.eq_of_stops hstops) hne

/-- After the blanks between two factors comes a sign, or the second of them. -/
theorem Separates.next {c d : Char} {s t u : List Char} {separator : Separator}
    (h : Separates s (c :: t) separator) (hc : BeginsAtom c) (hs : dropBlanks s = d :: u) :
    (d = '*' ∧ Blanks u (c :: t)) ∨ d = '·' ∨ d = '/' ∨ d = c := by
  cases h with
  | star hstar hu =>
    cases ((blanks_iff (stops_cons.2 (by decide))).1 hstar).symm.trans hs
    exact .inl ⟨rfl, hu⟩
  | dot hdot =>
    cases ((blanks_iff (stops_cons.2 (by decide))).1 hdot).symm.trans hs
    exact .inr (.inl rfl)
  | slash hslash =>
    cases ((blanks_iff (stops_cons.2 (by decide))).1 hslash).symm.trans hs
    exact .inr (.inr (.inl rfl))
  | blanks hblanks =>
    cases ((blanks_iff (stops_cons.2 hc.isBlank)).1 hblanks).symm.trans hs
    exact .inr (.inr (.inr rfl))

/-- What can stand behind a factor of an expression: its end, a closing parenthesis, or a further
factor. -/
inductive Follows (r : List Char) : Prop
  | done : dropBlanks r = [] → Follows r
  | close {t : List Char} : dropBlanks r = ')' :: t → Follows r
  | factor {separator : Separator} {c : Char} {t : List Char} : Separates r (c :: t) separator →
      BeginsAtom c → Follows r

/-- A digit that stood behind a factor would belong to it. -/
theorem Follows.stops_isDigit {r : List Char} (h : Follows r) : Stops Char.isDigit r := by
  rintro c t rfl
  rw [Bool.eq_false_iff]
  intro hdigit
  have hblank : isBlank c = false := by grind
  cases h with
  | done hr =>
    rw [dropBlanks_of_stops (stops_cons.2 hblank)] at hr
    cases hr
  | close hr =>
    rw [dropBlanks_of_stops (stops_cons.2 hblank)] at hr
    cases hr
    cases hdigit
  | factor hs hc =>
    rcases hs.head with hb | hsign
    · rw [hblank] at hb
      cases hb
    · simp only [List.mem_cons, List.not_mem_nil, or_false] at hsign
      rcases hsign with rfl | rfl | rfl
      · cases hdigit
      · cases hdigit
      · cases hdigit

/-- The next character behind a factor is no sign of an exponent. -/
theorem Follows.next {r t : List Char} {c : Char} (h : Follows r) (hr : dropBlanks r = c :: t) :
    c ∉ ['^', '²', '³'] ∧ (c = '*' → ∀ u, t ≠ '*' :: u) := by
  cases h with
  | done hnil =>
    rw [hnil] at hr
    cases hr
  | close hclose =>
    cases hclose.symm.trans hr
    exact ⟨by decide, fun heq => absurd heq (by decide)⟩
  | factor hs hd =>
    rcases hs.next hd hr with ⟨rfl, hblanks⟩ | rfl | rfl | rfl
    · refine ⟨by decide, fun _ u heq => ?_⟩
      subst heq
      cases hblanks.eq_of_stops (stops_cons.2 (by decide))
      exact not_beginsAtom (by decide) hd
    · exact ⟨by decide, fun heq => absurd heq (by decide)⟩
    · exact ⟨by decide, fun heq => absurd heq (by decide)⟩
    · refine ⟨fun hsign => not_beginsAtom ?_ hd, ?_⟩
      · exact (by decide : ['^', '²', '³'] ⊆ ['*', '·', '/', '^', '²', '³', ')']) hsign
      · rintro rfl
        exact absurd hd (not_beginsAtom (by decide))

/-- No exponent is read where a further factor, the end or a closing parenthesis stands. -/
theorem Follows.reads_exponent {r : List Char} (h : Follows r) : Reads (exponent r) 1 r := by
  have hnone : Reads (.ok (1, Remainder.all r)) (1 : Int) r := reads_ok_iff.2 ⟨rfl, rfl⟩
  unfold exponent
  split
  · exact hnone
  next c t hnext =>
    obtain ⟨hsign, hstar⟩ := h.next (next?_eq_some_iff.1 hnext)
    simp only [List.mem_cons, List.not_mem_nil, or_false, not_or] at hsign
    rw [if_neg hsign.1, if_neg hsign.2.1, if_neg hsign.2.2]
    split_ifs with hc
    · rw [after?_eq_none_iff.2 (hstar hc)]
      exact hnone
    · exact hnone

/-! ## Numbers -/

/-- A text with at most one point has none behind its first one. -/
theorem count_point_le_one_iff {run : List Char} :
    run.count '.' ≤ 1 ↔ '.' ∉ (run.dropWhile (· ≠ '.')).drop 1 := by
  induction run with
  | nil => simp
  | cons c run ih =>
    by_cases hc : c = '.'
    · subst hc
      simp [List.count_eq_zero]
    · rw [List.count_cons_of_ne hc, List.dropWhile_cons_of_pos (by simpa using hc)]
      exact ih

/-- A run of digits and points is a number if it has at most one point. -/
@[simp] theorem number?_eq_some_iff {α : Type} [Scalar α] {run : List Char} {x : α} :
    number? run = some x ↔ run.count '.' ≤ 1 ∧ x = numeral run := by
  rw [count_point_le_one_iff, number?, numeral]
  split
  next h => exact ⟨nofun, fun heq => absurd (List.contains_iff_mem.1 h) heq.1⟩
  next h =>
    have hmem := mt List.contains_iff_mem.2 h
    rw [Option.some.injEq]
    exact ⟨fun heq => ⟨hmem, heq.symm⟩, fun heq => heq.2.symm⟩

end ElementAtlas.UnitExpression
