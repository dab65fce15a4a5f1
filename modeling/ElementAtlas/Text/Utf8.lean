/-!
# Characters as bytes

A code point is written in one to four bytes. A range of code points falls into stretches whose
written forms are all the ways to choose each byte from a range of its own.
-/

namespace ElementAtlas.Text

/-- The bytes in which a code point is written. -/
def utf8Bytes (n : Nat) : List Nat :=
  let tail (place : Nat) : Nat := 128 + n / Nat.pow 64 place % 64
  if n < 0x80 then [n]
  else if n < 0x800 then [192 + n / 64, tail 0]
  else if n < 0x10000 then [224 + n / 4096, tail 1, tail 0]
  else [240 + n / 262144, tail 2, tail 1, tail 0]

/-- The closed range of the values of a byte. -/
abbrev ByteRange := Nat × Nat

/-- Where to cut a range whose ends agree in the bytes before the last `m` values of those after
them, so that one part begins or ends where those bytes begin or end. -/
def cutBlock? (first last m : Nat) : Option Nat :=
  if first / m = last / m then none
  else if first % m ≠ 0 then some ((first / m + 1) * m - 1)
  else if last % m ≠ m - 1 then some (last / m * m - 1)
  else none

/-- The last code point of the first part of a range that has to be cut: where the number of bytes
changes, or else where the bytes that are varied together do. -/
def cut? (first last : Nat) : Option Nat :=
  match [0x7F, 0x7FF, 0xFFFF].find? fun n => first ≤ n ∧ n < last with
  | some n => some n
  | none => if last < 128 then none else [64, 4096, 262144].findSome? (cutBlock? first last)

/-- The byte ranges of a range of code points, in ascending order. -/
def byteRanges (first last : Nat) : List (List ByteRange) :=
  match cut? first last with
  | none => [(utf8Bytes first).zip (utf8Bytes last)]
  | some n =>
    if first ≤ n ∧ n < last then byteRanges first n ++ byteRanges (n + 1) last
    else [(utf8Bytes first).zip (utf8Bytes last)]
termination_by last - first
decreasing_by all_goals omega

/-- The byte ranges of the characters of a range of code points, which leave out the surrogates. -/
def charByteRanges (range : Nat × Nat) : List (List ByteRange) :=
  let parts := [(range.1, min range.2 0xD7FF), (max range.1 0xE000, range.2)]
  (parts.filter fun (first, last) => first ≤ last).flatMap fun (first, last) =>
    byteRanges first last

end ElementAtlas.Text
