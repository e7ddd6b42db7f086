/-!
# Ranges of code points

A character class beyond ASCII is a list of closed ranges of code points in increasing order;
`inRanges` says whether a character lies in one of them. All tables follow version 16.0 of the Unicode
standard; a code point that it leaves unassigned is in no class but that of unprintable characters.
-/

namespace Formula.Unicode

/-- Membership of a character in a list of closed ranges of code points. -/
def inRanges (ranges : List (Nat × Nat)) (c : Char) : Bool :=
  ranges.any fun range => range.1 ≤ c.toNat && c.toNat ≤ range.2

/-- A character of the ASCII block. -/
def isAscii (c : Char) : Bool :=
  c.toNat < 0x80

end Formula.Unicode
