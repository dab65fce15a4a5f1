/-!
# Alignment in columns

A text shorter than its column is filled up with spaces, on its right or on its left; a longer one
stands as it is. Widths count characters.
-/

namespace ElementAtlas.Text

/-- The text at the left of a column. -/
def alignLeft (width : Nat) (text : String) : String :=
  String.ofList (text.toList.rightpad width ' ')

/-- The text at the right of a column. -/
def alignRight (width : Nat) (text : String) : String :=
  String.ofList (text.toList.leftpad width ' ')

/-- A line of hyphens. -/
def rule (width : Nat) : String := String.ofList (List.replicate width '-')

end ElementAtlas.Text
