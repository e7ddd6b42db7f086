import Formula.Decimal.Digits
import Formula.Decimal.Exact

/-!
# Shortest decimal text

A double is written with the fewest digits that still read back as the same double, and of the
decimals with so many digits the nearest one is taken. The text is positional at every magnitude: it
never has an exponent, and an integer has no point.
-/

namespace Formula.Decimal

/-- Numbers that round to one double: those between `low / den` and `high / den`, with the ends if
`closed`. The double itself is `mid / den`. -/
structure Neighbourhood where
  low : Nat
  mid : Nat
  high : Nat
  den : Nat
  closed : Bool

namespace Neighbourhood

/-- The numbers that round to `mantissa · 2 ^ exponent`. The gap below a power of two is half the
gap above it, but for the least normal exponent; a tie goes to the even mantissa. -/
def ofParts (mantissa : Nat) (exponent : Int) : Neighbourhood :=
  let unit := numerator 1 exponent
  let gapBelow := if mantissa = Nat.pow 2 52 ∧ -1074 < exponent then 1 else 2
  { low := (4 * mantissa - gapBelow) * unit
    mid := 4 * mantissa * unit
    high := (4 * mantissa + 2) * unit
    den := 4 * denominator exponent
    closed := mantissa % 2 == 0 }

/-- Whether the fraction `num / den` lies in the neighbourhood. -/
def contains (u : Neighbourhood) (num den : Nat) : Bool :=
  if u.closed then u.low * den ≤ num * u.den && num * u.den ≤ u.high * den
  else u.low * den < num * u.den && num * u.den < u.high * den

/-- The position of the leading digit: the number lies in `[10 ^ (p - 1), 10 ^ p)`. No double is so
small that a shift by 400 places leaves no integer part. -/
def leadingPosition (u : Neighbourhood) : Int :=
  (digits (u.mid * Nat.pow 10 400 / u.den)).length - 400

end Neighbourhood

/-- A decimal number `significand · 10 ^ exponent`. -/
structure Scaled where
  significand : Nat
  exponent : Int

namespace Scaled

/-- The numerator of a decimal number. -/
def num (d : Scaled) : Nat :=
  d.significand * Nat.pow 10 d.exponent.toNat

/-- The denominator of a decimal number. -/
def den (d : Scaled) : Nat :=
  Nat.pow 10 (-d.exponent).toNat

/-- The decimal that reads back and is the nearest to the double, among those with the given step
`10 ^ exponent` between neighbours; of two equally near ones the greater. -/
def nearest? (u : Neighbourhood) (exponent : Int) : Option Scaled :=
  let lower : Scaled :=
    ⟨u.mid * Nat.pow 10 (-exponent).toNat / (u.den * Nat.pow 10 exponent.toNat), exponent⟩
  let upper : Scaled := ⟨lower.significand + 1, exponent⟩
  let lowerFits := u.contains lower.num lower.den
  let upperFits := u.contains upper.num upper.den
  let upperIsNearer := (lower.num + upper.num) * u.den ≤ 2 * u.mid * lower.den
  if upperFits && (upperIsNearer || !lowerFits) then some upper
  else if lowerFits then some lower
  else none

/-- The nearest decimal with the fewest digits that reads back; seventeen digits always do. -/
def shortest (u : Neighbourhood) : Scaled :=
  let p := u.leadingPosition
  ((List.range 17).findSome? fun (n : Nat) => nearest? u (p - (n + 1))).getD
    ⟨u.mid * Nat.pow 10 (17 - p).toNat / (u.den * Nat.pow 10 (p - 17).toNat), p - 17⟩

/-- Positional text without idle zeros after the point. -/
def text (d : Scaled) : List Char :=
  if 0 ≤ d.exponent then digits d.num
  else
    let written := withPlaces d.significand (-d.exponent).toNat
    let trimmed := (written.reverse.dropWhile (· == '0')).reverse
    if trimmed.getLast? == some '.' then trimmed.dropLast else trimmed

end Scaled

/-- The shortest text of a double. -/
def shortestText (x : Float) : String :=
  match Exact.ofFloat x with
  | .nan => "NaN"
  | .infinite negative => if negative then "-inf" else "inf"
  | .finite negative m q =>
    let magnitude := if m = 0 then ['0'] else (Scaled.shortest (.ofParts m q)).text
    String.ofList (if negative then '-' :: magnitude else magnitude)

end Formula.Decimal
