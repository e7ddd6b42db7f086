import Formula.Decimal.Fixed
import Formula.Decimal.Reading
import Formula.Operator
import Formula.Word

/-!
# What operators and functions compute

Arithmetic is that of doubles. A number counts as true if it is greater than zero, and truth values
are 1 and 0. The remainder, the shifts and the bitwise operators work on 32-bit words: operands are
truncated, shifts take the amount modulo 32, and results are words again.
-/

namespace Formula

/-- Whether a number counts as true. -/
def isTrue (x : Float) : Bool :=
  0 < x

/-- A truth value as a number. -/
def ofBool (b : Bool) : Float :=
  if b then 1 else 0

/-- The value of a prefix operator. -/
def UnaryOp.apply : UnaryOp → Float → Float
  | .negate, x => -x
  | .not, x => ofBool !(isTrue x)
  | .complement, x => Word.toFloat (~~~ (Word.ofFloat x))

/-- An operator on words as an operator on doubles. -/
def onWords (f : Int32 → Int32 → Int32) (x y : Float) : Float :=
  Word.toFloat (f (Word.ofFloat x) (Word.ofFloat y))

/-- Whether the right operand is a divisor of zero. -/
def BinaryOp.dividesByZero : BinaryOp → Float → Bool
  | .divide, y => y == 0
  | .modulo, y => Word.ofFloat y == 0
  | _, _ => false

/-- The value of a binary operator; a remainder has the sign of the dividend. -/
def BinaryOp.apply : BinaryOp → Float → Float → Float
  | .add, x, y => x + y
  | .subtract, x, y => x - y
  | .multiply, x, y => x * y
  | .divide, x, y => x / y
  | .modulo, x, y => onWords (· % ·) x y
  | .equal, x, y => ofBool (x == y)
  | .notEqual, x, y => ofBool (x != y)
  | .less, x, y => ofBool (x < y)
  | .lessEqual, x, y => ofBool (x ≤ y)
  | .greater, x, y => ofBool (y < x)
  | .greaterEqual, x, y => ofBool (y ≤ x)
  | .bitAnd, x, y => onWords (· &&& ·) x y
  | .bitOr, x, y => onWords (· ||| ·) x y
  | .bitXor, x, y => onWords (· ^^^ ·) x y
  | .shiftLeft, x, y => onWords (· <<< ·) x y
  | .shiftRight, x, y => onWords (· >>> ·) x y

/-- The value of a logical operator on both operands. -/
def LogicalOp.apply : LogicalOp → Float → Float → Float
  | .or, x, y => ofBool (isTrue x || isTrue y)
  | .and, x, y => ofBool (isTrue x && isTrue y)

/-- An angle in degrees as one in radians. -/
def radians (x : Float) : Float :=
  x * Float.ofBits 0x3F91DF46A2529D39

/-- An angle in radians as one in degrees. -/
def degrees (x : Float) : Float :=
  x * Float.ofBits 0x404CA5DC1A63C1F8

/-- The value of a function of one argument. -/
def Function1.apply : Function1 → Float → Float
  | .abs, x => x.abs
  | .sqrt, x => x.sqrt
  | .round, x => Decimal.roundHalfEven x
  | .floor, x => Decimal.floor x
  | .ceil, x => Decimal.ceil x
  | .cos, x => x.cos
  | .cosDeg, x => (radians x).cos
  | .sin, x => x.sin
  | .sinDeg, x => (radians x).sin
  | .tan, x => x.tan
  | .tanDeg, x => (radians x).tan
  | .acos, x => x.acos
  | .acosDeg, x => degrees x.acos
  | .asin, x => x.asin
  | .asinDeg, x => degrees x.asin
  | .atan, x => x.atan
  | .atanDeg, x => degrees x.atan

/-- The value of a function of two arguments. The greater and the lesser of a number and NaN is the
number. -/
def Function2.apply : Function2 → Float → Float → Float
  | .max, x, y => if x.isNaN then y else if y.isNaN then x else if x < y then y else x
  | .min, x, y => if x.isNaN then y else if y.isNaN then x else if y < x then y else x
  | .power, x, y => x.pow y
  | .avg, x, y => (x + y) / 2

/-- A count of digits taken from a number: its integer part, but neither negative nor above a
limit. -/
def digitCount (x : Float) (limit : Nat) : Nat :=
  match Decimal.Exact.ofFloat x with
  | .finite false m q => min (Decimal.numerator m q / Decimal.denominator q) limit
  | .infinite false => limit
  | _ => 0

/-- The greatest count of digits before the point. -/
def maxIntDigits : Nat := 32

/-- The greatest count of digits after the point. -/
def maxPlaces : Nat := 15

/-- A number rounded through its fixed-point text; infinities and NaN stay. -/
def numberFormat (value intDigits places : Float) : Float :=
  if value.isFinite then
    let text :=
      Decimal.fixedText value (digitCount intDigits maxIntDigits) (digitCount places maxPlaces)
    (Decimal.read? text.toList).getD 0
  else value

end Formula
