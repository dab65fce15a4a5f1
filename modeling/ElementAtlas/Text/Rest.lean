/-!
# What is left of a text

A reader of a part of a text returns the rest of the text with the proof that it is shorter, so that
readers that call each other come to an end. Where the part may be empty, what remains is only known
to be no longer than the text.
-/

namespace ElementAtlas.Text

/-- What is left of a text after a part of it has been read. -/
abbrev Rest (s : List Char) := { r : List Char // r.length < s.length }

/-- What is left of a text after a part of it, or nothing, has been read. -/
abbrev Remainder (s : List Char) := { r : List Char // r.length ≤ s.length }

namespace Remainder

variable {s : List Char}

/-- All of a text. -/
def all (s : List Char) : Remainder s := ⟨s, Nat.le_refl _⟩

/-- What remains of what remains of a text. -/
def trans (r : Remainder s) (r' : Remainder r.1) : Remainder s := ⟨r'.1, Nat.le_trans r'.2 r.2⟩

/-- What remains of a text, as what is left after a character and the text. -/
def cons (c : Char) (r : Remainder s) : Rest (c :: s) := ⟨r.1, Nat.lt_succ_of_le r.2⟩

/-- What is left of what remains of a text. -/
def rest (r : Remainder s) (r' : Rest r.1) : Rest s := ⟨r'.1, Nat.lt_of_lt_of_le r'.2 r.2⟩

end Remainder

namespace Rest

variable {s : List Char}

/-- What is left of a text after its first character. -/
def tail (c : Char) (s : List Char) : Rest (c :: s) := ⟨s, Nat.lt_succ_self _⟩

/-- What is left of a text after a character and a part of what follows it. -/
def cons (c : Char) (r : Rest s) : Rest (c :: s) := ⟨r.1, Nat.lt_succ_of_lt r.2⟩

/-- What is left of a text after a part of it and a part of what follows that part. -/
def trans (r : Rest s) (r' : Rest r.1) : Rest s := ⟨r'.1, Nat.lt_trans r'.2 r.2⟩

/-- What is left of a text after a part of it and a part, which may be empty, of what follows. -/
def remainder (r : Rest s) (r' : Remainder r.1) : Rest s := ⟨r'.1, Nat.lt_of_le_of_lt r'.2 r.2⟩

/-- What is left of a text, where it does not matter that it is shorter. -/
def weaken (r : Rest s) : Remainder s := ⟨r.1, Nat.le_of_lt r.2⟩

end Rest

/-- The characters that satisfy a condition at the front of a text, and what remains. -/
def spanWhile (p : Char → Bool) : (s : List Char) → List Char × Remainder s
  | [] => ([], .all [])
  | c :: s =>
    if p c then
      let (cs, r) := spanWhile p s
      (c :: cs, (r.cons c).weaken)
    else ([], .all (c :: s))

/-- A span reads the longest run of characters of the class. -/
@[simp]
theorem spanWhile_fst (p : Char → Bool) (s : List Char) : (spanWhile p s).1 = s.takeWhile p := by
  induction s with
  | nil => rfl
  | cons c s ih => cases h : p c <;> simp [spanWhile, h, ih, Rest.weaken, Remainder.cons]

/-- A span leaves what stands behind the longest run of characters of the class. -/
@[simp]
theorem spanWhile_snd (p : Char → Bool) (s : List Char) : (spanWhile p s).2.1 = s.dropWhile p := by
  induction s with
  | nil => rfl
  | cons c s ih =>
    cases h : p c <;> simp [spanWhile, h, ih, Rest.weaken, Remainder.cons, Remainder.all]

/-- The characters before the first `mark` in a text, and what follows it. -/
def upTo? (mark : Char) : (s : List Char) → Option (List Char × Rest s)
  | [] => none
  | c :: s =>
    if c = mark then some ([], .tail c s)
    else (upTo? mark s).map fun (cs, r) => (c :: cs, r.cons c)

/-- The first character of a text, and what follows it. -/
def first? : (s : List Char) → Option (Char × Rest s)
  | [] => none
  | c :: s => some (c, .tail c s)

/-- What follows a character that a text begins with. -/
def after? (c : Char) : (s : List Char) → Option (Rest s)
  | [] => none
  | d :: s => if d = c then some (.tail d s) else none

end ElementAtlas.Text
