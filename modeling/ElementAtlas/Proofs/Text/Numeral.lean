import Mathlib.Data.List.Induction
import ElementAtlas.Text.Digit

/-!
# Numerals

A numeral is a run of digits of its base, at least one, with the place values of a positional
system. `number?` reads the numerals and nothing else, of any length, and `charOfCode?` turns a
number into the character that has it as its code.
-/

namespace ElementAtlas.Text

variable {base : Nat} {c : Char} {s : List Char} {n v : Nat}

/-- The character is the digit of value `v` in a base up to sixteen; letters are written in either
case. -/
def Digit (base : Nat) (c : Char) (v : Nat) : Prop :=
  v < base ∧ (c = Nat.digitChar v ∨ c = (Nat.digitChar v).toUpper)

instance (base : Nat) (c : Char) (v : Nat) : Decidable (Digit base c v) :=
  inferInstanceAs (Decidable (_ ∧ _))

/-- The digits denote a number in the base. -/
inductive Numeral (base : Nat) : List Char → Nat → Prop
  | digit {c : Char} {v : Nat} : Digit base c v → Numeral base [c] v
  | snoc {digits : List Char} {n : Nat} {c : Char} {v : Nat} : Numeral base digits n →
      Digit base c v → Numeral base (digits ++ [c]) (base * n + v)

/-- Of the digits to base sixteen, a smaller base has those below it. -/
theorem digit?_eq_some_iff_lt (_hbase : base ≤ 16) :
    digit? base c = some v ↔ v < base ∧ digit? 16 c = some v := by
  simp only [digit?, Char.le_def, UInt32.le_iff_toNat_le, Char.toNat_val, Char.reduceToNat,
    Option.ite_none_right_eq_some, Option.some.injEq]
  split_ifs <;> omega

/-- The digits are characters with small codes. -/
theorem toNat_lt_of_digit? (h : digit? 16 c = some v) : c.toNat < 128 := by
  simp only [digit?, Char.le_def, UInt32.le_iff_toNat_le, Char.toNat_val, Char.reduceToNat,
    Option.ite_none_right_eq_some, Option.some.injEq] at h
  split_ifs at h <;> omega

/-- A digit is a character with a small code. -/
theorem Digit.toNat_lt (h : Digit 16 c v) : c.toNat < 128 := by
  obtain ⟨hv, hc⟩ := h
  have hall : ∀ v < 16, (Nat.digitChar v).toNat < 128 ∧ (Nat.digitChar v).toUpper.toNat < 128 := by
    decide
  obtain rfl | rfl := hc
  · exact (hall v hv).1
  · exact (hall v hv).2

/-- The digits are ASCII characters, so they can be gone through one by one. -/
theorem digit?_eq_some_iff (hbase : base ≤ 16) : digit? base c = some v ↔ Digit base c v := by
  have hall : ∀ n < 128, ∀ v < 16,
      digit? 16 (Char.ofNat n) = some v ↔ Digit 16 (Char.ofNat n) v := by decide +kernel
  have hsixteen : v < 16 → (digit? 16 c = some v ↔ Digit 16 c v) := fun hv => by
    by_cases hc : c.toNat < 128
    · simpa only [Char.ofNat_toNat] using hall c.toNat hc v hv
    · exact iff_of_false (mt toNat_lt_of_digit? hc) (mt Digit.toNat_lt hc)
  rw [digit?_eq_some_iff_lt hbase]
  constructor
  · rintro ⟨hv, hd⟩
    exact ⟨hv, ((hsixteen (Nat.lt_of_lt_of_le hv hbase)).1 hd).2⟩
  · rintro ⟨hv, hd⟩
    exact ⟨hv, (hsixteen (Nat.lt_of_lt_of_le hv hbase)).2 ⟨Nat.lt_of_lt_of_le hv hbase, hd⟩⟩

/-- A numeral has a digit. -/
theorem Numeral.ne_nil (h : Numeral base s n) : s ≠ [] := by
  cases h <;> simp

/-- A numeral consists of digits. -/
theorem Numeral.exists_digit (h : Numeral base s n) : ∀ c ∈ s, ∃ v, Digit base c v := by
  induction h with
  | digit hd => simpa using ⟨_, hd⟩
  | snoc _ hd ih =>
    intro c hc
    rw [List.mem_append, List.mem_singleton] at hc
    obtain hc | rfl := hc
    · exact ih c hc
    · exact ⟨_, hd⟩

/-- A character that is no digit to base sixteen is in no numeral. -/
theorem Numeral.not_mem (h : Numeral base s n) (hbase : base ≤ 16) (hc : digit? 16 c = none) :
    c ∉ s := by
  intro hmem
  obtain ⟨v, hv⟩ := h.exists_digit c hmem
  have hd := ((digit?_eq_some_iff_lt hbase).1 ((digit?_eq_some_iff hbase).2 hv)).2
  rw [hc] at hd
  cases hd

/-- The digits of a numeral are read from the left, each as the last of the numeral so far. -/
theorem number?_snoc (hs : s ≠ []) :
    number? base (s ++ [c]) =
      (number? base s).bind fun n => (digit? base c).map (base * n + ·) := by
  simp [number?, hs, List.foldlM_append]

/-- The number of one digit is its value. -/
@[simp] theorem number?_singleton : number? base [c] = digit? base c := by
  simp [number?]

/-- A text has a number if it is a numeral for it. -/
theorem number?_eq_some_iff (hbase : base ≤ 16) : number? base s = some n ↔ Numeral base s n := by
  constructor
  · intro h
    induction s using List.reverseRecOn generalizing n with
    | nil => simp [number?] at h
    | append_singleton s c ih =>
      by_cases hs : s = []
      · subst hs
        rw [List.nil_append, number?_singleton, digit?_eq_some_iff hbase] at h
        exact .digit h
      · rw [number?_snoc hs, Option.bind_eq_some_iff] at h
        obtain ⟨m, hm, hd⟩ := h
        obtain ⟨v, hv, rfl⟩ := Option.map_eq_some_iff.1 hd
        exact .snoc (ih hm) ((digit?_eq_some_iff hbase).1 hv)
  · intro h
    induction h with
    | digit hd => rw [number?_singleton, digit?_eq_some_iff hbase]; exact hd
    | snoc hnumeral hd ih =>
      rw [number?_snoc hnumeral.ne_nil, ih, Option.bind_some, (digit?_eq_some_iff hbase).2 hd,
        Option.map_some]

/-- A code is that of the character with this code. -/
@[simp] theorem charOfCode?_eq_some_iff : charOfCode? n = some c ↔ c.toNat = n := by
  rw [charOfCode?, Option.ite_none_right_eq_some, Option.some.injEq]
  constructor
  · rintro ⟨hvalid, rfl⟩
    rw [Char.ofNat, dif_pos hvalid]
    rfl
  · rintro rfl
    exact ⟨c.valid, Char.ofNat_toNat c⟩

end ElementAtlas.Text
