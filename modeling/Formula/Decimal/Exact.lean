/-!
# The exact value of a double

A finite double is `± mantissa · 2 ^ exponent`. Everything that prints, rounds or truncates a double
starts from this value, so that no rounding happens on the way.
-/

namespace Formula.Decimal

/-- What the bits of a double stand for. -/
inductive Exact where
  | nan
  | infinite (negative : Bool)
  | finite (negative : Bool) (mantissa : Nat) (exponent : Int)
  deriving DecidableEq, Repr

namespace Exact

/-- Sign, eleven bits of exponent and fifty-two bits of fraction; an exponent of zero has no hidden
bit, and the greatest exponent marks infinities and NaN. -/
def ofBits (bits : UInt64) : Exact :=
  let n := bits.toNat
  let negative : Bool := Nat.pow 2 63 ≤ n
  let exponent : Nat := n / Nat.pow 2 52 % Nat.pow 2 11
  let fraction : Nat := n % Nat.pow 2 52
  if exponent = 2047 then
    if fraction = 0 then .infinite negative else .nan
  else if exponent = 0 then .finite negative fraction (-1074)
  else .finite negative (Nat.pow 2 52 + fraction) (exponent - 1075)

/-- The exact value of a double. -/
def ofFloat (x : Float) : Exact :=
  ofBits x.toBits

end Exact

/-- A non-negative number `mantissa · 2 ^ exponent` as a fraction: its numerator. -/
def numerator (mantissa : Nat) (exponent : Int) : Nat :=
  mantissa * Nat.pow 2 exponent.toNat

/-- A non-negative number `mantissa · 2 ^ exponent` as a fraction: its denominator. -/
def denominator (exponent : Int) : Nat :=
  Nat.pow 2 (-exponent).toNat

/-- The denominator of a double is not zero. -/
theorem denominator_pos (exponent : Int) : 0 < denominator exponent :=
  Nat.pow_pos (by decide)

end Formula.Decimal
