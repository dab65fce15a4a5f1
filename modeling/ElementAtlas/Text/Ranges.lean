/-!
# Tables of characters

A property of characters is kept as the list of its ranges of code points, which ascend and do not
touch. The tables of what names are made of follow version 17 of the character database, and those
of what patterns know follow version 16.
-/

namespace ElementAtlas.Text

/-- Whether a code point lies in one of the closed ranges of an ascending list. The search ends at
the first range that begins above it. -/
def inRanges (n : Nat) : List (Nat × Nat) → Bool
  | [] => false
  | (first, last) :: ranges => first ≤ n && (n ≤ last || inRanges n ranges)

end ElementAtlas.Text
