/-!
# Texts inside texts
-/

namespace ElementAtlas.Text

/-- Whether the characters of `needle` stand one after another somewhere in the list. -/
def occursIn (needle : List Char) : List Char → Bool
  | [] => needle.isEmpty
  | c :: cs => needle.isPrefixOf (c :: cs) || occursIn needle cs

/-- Whether `text` contains `needle`. -/
def contains (text needle : String) : Bool := occursIn needle.toList text.toList

/-- Whether `text` begins with `needle`. -/
def beginsWith (text needle : String) : Bool := needle.toList.isPrefixOf text.toList

/-- Whether `text` ends with `needle`. -/
def endsWith (text needle : String) : Bool := needle.toList.isSuffixOf text.toList

end ElementAtlas.Text
