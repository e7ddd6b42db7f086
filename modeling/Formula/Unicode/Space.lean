import Formula.Unicode.Range

/-!
# White space

The `White_Space` property and the removal of white space at both ends of a text.
-/

namespace Formula.Unicode

/-- The white space of all scripts, ASCII included. -/
def whiteSpaceRanges : List (Nat × Nat) := [
   (0x9, 0xD), (0x20, 0x20), (0x85, 0x85), (0xA0, 0xA0), (0x1680, 0x1680), (0x2000, 0x200A),
   (0x2028, 0x2029), (0x202F, 0x202F), (0x205F, 0x205F), (0x3000, 0x3000)]

/-- A character with the `White_Space` property. -/
def isWhiteSpace (c : Char) : Bool :=
  inRanges whiteSpaceRanges c

/-- A text without the white space at its two ends. -/
def trim (text : List Char) : List Char :=
  ((text.dropWhile isWhiteSpace).reverse.dropWhile isWhiteSpace).reverse

end Formula.Unicode
