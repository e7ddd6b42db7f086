/-!
# Decimal digits

The digits of a natural number, a natural number from its digits, and the positional text of
`n / 10 ^ places`.
-/

namespace Formula.Decimal

/-- One of the ten digits. -/
def isDigit (c : Char) : Bool :=
  '0' ≤ c && c ≤ '9'

/-- The value of a digit. -/
def digitValue (c : Char) : Nat :=
  c.toNat - '0'.toNat

/-- The digits of a natural number, without leading zeros but for zero itself. -/
def digits (n : Nat) : List Char :=
  Nat.toDigits 10 n

/-- The natural number that a row of digits stands for. -/
def ofDigits (text : List Char) : Nat :=
  text.foldl (fun n c => 10 * n + digitValue c) 0

/-- Zeros in front of a text, up to the given width. -/
def zeroPadded (width : Nat) (text : List Char) : List Char :=
  List.replicate (width - text.length) '0' ++ text

/-- The text of `n / 10 ^ places` with exactly that many places; the integer part has a digit. -/
def withPlaces (n places : Nat) : List Char :=
  if places = 0 then digits n
  else
    let all := zeroPadded (places + 1) (digits n)
    all.take (all.length - places) ++ '.' :: all.drop (all.length - places)

end Formula.Decimal
