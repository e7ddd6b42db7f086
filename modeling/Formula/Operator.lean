/-!
# Operators and functions

What an expression can apply: prefix operators, the binary operators that use both operands, the two
logical operators that may skip the right one, and the functions by their number of arguments.
-/

namespace Formula

/-- Prefix operators. -/
inductive UnaryOp where
  | negate
  | not
  | complement
  deriving DecidableEq, Repr

/-- Binary operators that use both operands. -/
inductive BinaryOp where
  | add
  | subtract
  | multiply
  | divide
  | modulo
  | equal
  | notEqual
  | less
  | lessEqual
  | greater
  | greaterEqual
  | bitAnd
  | bitOr
  | bitXor
  | shiftLeft
  | shiftRight
  deriving DecidableEq, Repr

/-- Binary operators that leave out the right operand when the left one decides. -/
inductive LogicalOp where
  | or
  | and
  deriving DecidableEq, Repr

/-- Functions of one argument; the ones that end in `Deg` measure angles in degrees. -/
inductive Function1 where
  | abs
  | sqrt
  | round
  | floor
  | ceil
  | cos
  | cosDeg
  | sin
  | sinDeg
  | tan
  | tanDeg
  | acos
  | acosDeg
  | asin
  | asinDeg
  | atan
  | atanDeg
  deriving DecidableEq, Repr

/-- Functions of two arguments. -/
inductive Function2 where
  | max
  | min
  | power
  | avg
  deriving DecidableEq, Repr

/-- The functions that a formula can call; `numberFormat` takes three arguments. -/
inductive Function where
  | one (f : Function1)
  | two (f : Function2)
  | numberFormat
  deriving DecidableEq, Repr

/-- The number of arguments. -/
def Function.arity : Function → Nat
  | .one _ => 1
  | .two _ => 2
  | .numberFormat => 3

end Formula
