import Formula.Decimal.Rounding

/-!
# Words and doubles

Integer operators work on 32-bit words. A double becomes a word by dropping its fraction; what lies
outside the range of words becomes the nearest end of it, and NaN becomes 0. A word becomes the
double of the same value.
-/

namespace Formula.Word
open Formula.Decimal

/-- The integer part of a double; infinities count as integers outside the range of words. -/
def integerPart (x : Float) : Int :=
  match Exact.ofFloat x with
  | .nan => 0
  | .infinite negative => if negative then -Int.pow 2 31 else Int.pow 2 31 - 1
  | .finite negative m q =>
    let n : Nat := numerator m q / denominator q
    if negative then -n else n

/-- The nearest integer in the range of words. -/
def clamp (n : Int) : Int :=
  max (-Int.pow 2 31) (min n (Int.pow 2 31 - 1))

/-- The word of a double. -/
def ofFloat (x : Float) : Int32 :=
  Int32.ofInt (clamp (integerPart x))

/-- The double of a word. -/
def toFloat (w : Int32) : Float :=
  Rounding.signed (w < 0) w.toInt.natAbs

end Formula.Word
