import TokenGrammar.Text.CharSet

/-!
# White space

The characters with the White_Space property, and trimming by it.
-/

namespace TokenGrammar.Text

/-- The characters with the White_Space property. -/
def whiteSpace : CharSet := .ofRanges
  "9-D 20 85 A0 1680 2000-200A 2028-2029 202F 205F 3000"

/-- Whether the character has the White_Space property. -/
def isWhiteSpace (c : Char) : Bool := whiteSpace.contains c

/-- The text without the white space at both ends. -/
def trim (s : String) : String :=
  let front := s.toList.dropWhile isWhiteSpace
  .ofList (front.reverse.dropWhile isWhiteSpace).reverse

end TokenGrammar.Text
