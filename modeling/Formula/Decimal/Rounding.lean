import Formula.Decimal.Exact

/-!
# Rounding to an integer

`Rounding.quotient` rounds a fraction of natural numbers to a neighbouring natural number.
`Rounding.integral` rounds the magnitude of a double in the same way and keeps its sign, so that a
negative double that rounds to nothing becomes a negative zero.
-/

namespace Formula.Decimal

/-- The neighbour that is taken when a magnitude lies between two integers. -/
inductive Rounding where
  | down
  | up
  | halfEven
  | halfUp
  deriving DecidableEq, Repr

namespace Rounding

/-- Whether `lower + rest / den`, with a positive rest below `den`, goes to `lower + 1`. -/
def goesUp (mode : Rounding) (lower rest den : Nat) : Bool :=
  match mode with
  | .down => false
  | .up => true
  | .halfEven => den < 2 * rest || (2 * rest == den && lower % 2 == 1)
  | .halfUp => den ≤ 2 * rest

/-- The fraction `num / den` rounded to a natural number. -/
def quotient (mode : Rounding) (num den : Nat) : Nat :=
  let lower := num / den
  let rest := num % den
  if rest != 0 && mode.goesUp lower rest den then lower + 1 else lower

/-- A natural number below `2 ^ 53` as a double with a sign. -/
def signed (negative : Bool) (n : Nat) : Float :=
  if negative then -n.toUInt64.toFloat else n.toUInt64.toFloat

/-- A double whose magnitude is rounded to an integer; infinities and NaN stay. -/
def integral (mode : Rounding) (x : Float) : Float :=
  match Exact.ofFloat x with
  | .finite negative m q =>
    if 0 ≤ q then x else signed negative (mode.quotient (numerator m q) (denominator q))
  | _ => x

end Rounding

/-- Whether a double carries a minus sign. -/
def isNegative (x : Float) : Bool :=
  match Exact.ofFloat x with
  | .finite negative _ _ => negative
  | .infinite negative => negative
  | .nan => false

/-- The greatest integer that is not above a double. -/
def floor (x : Float) : Float :=
  Rounding.integral (if isNegative x then .up else .down) x

/-- The least integer that is not below a double. -/
def ceil (x : Float) : Float :=
  Rounding.integral (if isNegative x then .down else .up) x

/-- The nearest integer; of two equally near ones the even one. -/
def roundHalfEven (x : Float) : Float :=
  Rounding.integral .halfEven x

/-- The nearest integer; of two equally near ones the one farther from zero. -/
def roundHalfAway (x : Float) : Float :=
  Rounding.integral .halfUp x

end Formula.Decimal
