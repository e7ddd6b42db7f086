import Formula.Decimal.Digits
import Formula.Decimal.Rounding

/-!
# Fixed decimal places

`placesText` writes the exact value of a non-negative double with a fixed number of places. Based on
it, `fixedText` rounds midpoints away from zero first and pads the integer part with zeros.
-/

namespace Formula.Decimal

/-- The exact value of a non-negative double, rounded to the given number of places; a tie goes to
the even last digit. -/
def placesText (x : Float) (places : Nat) : List Char :=
  match Exact.ofFloat x with
  | .nan => "NaN".toList
  | .infinite _ => "inf".toList
  | .finite _ m q =>
    withPlaces (Rounding.halfEven.quotient (numerator m q * Nat.pow 10 places) (denominator q)) places

/-- The product `1 · base · base · …` over the binary digits of `n`, squaring the base from digit to
digit. -/
def powBySquaring (acc base : Float) (n : Nat) : Float :=
  if n = 0 then acc
  else
    let acc := if n % 2 = 1 then acc * base else acc
    if n / 2 = 0 then acc else powBySquaring acc (base * base) (n / 2)
termination_by n

/-- Ten to a natural power, as a double. -/
def tenPow (n : Nat) : Float :=
  powBySquaring 1 10 n

/-- A double rounded to the given number of places, midpoints away from zero. A double that leaves
the range when it is scaled has no such places and stays. -/
def roundPlaces (x : Float) (places : Nat) : Float :=
  let scale := tenPow places
  let scaled := x * scale
  if scaled.isFinite then roundHalfAway scaled / scale else x

/-- Fixed-point text with at least `minInt` digits before the point and exactly `places` after it.
The sign is that of the value before rounding, and zeros have none. -/
def fixedText (x : Float) (minInt places : Nat) : String :=
  let body := placesText (roundPlaces x.abs places) places
  let intLength := (body.takeWhile (· != '.')).length
  let padded := List.replicate (minInt - intLength) '0' ++ body
  String.ofList (if x < 0 then '-' :: padded else padded)

end Formula.Decimal
