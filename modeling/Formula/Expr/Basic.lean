import Formula.Operator

/-!
# Expressions

The body of a formula as a tree. Parameters are known by their slots. Functions have as many
arguments as their arity says, so every tree has a meaning.
-/

namespace Formula

/-- Expressions. `sequence` is the value of its second part after its first part was evaluated, and
`assign` stores a value and is that value. -/
inductive Expr where
  | const (value : Float)
  | param (slot : Nat)
  | assign (slot : Nat) (value : Expr)
  | unary (op : UnaryOp) (operand : Expr)
  | binary (op : BinaryOp) (left right : Expr)
  | logical (op : LogicalOp) (left right : Expr)
  | sequence (first second : Expr)
  | conditional (condition yes no : Expr)
  | call1 (f : Function1) (a : Expr)
  | call2 (f : Function2) (a b : Expr)
  | numberFormat (value intDigits places : Expr)
  deriving DecidableEq, Repr

/-- What stands between two operands. -/
inductive Infix where
  | logical (op : LogicalOp)
  | binary (op : BinaryOp)
  | sequence
  deriving DecidableEq, Repr

/-- Two operands joined. -/
def Infix.join : Infix → Expr → Expr → Expr
  | .logical op => .logical op
  | .binary op => .binary op
  | .sequence => .sequence

/-- The operators of one level of precedence by their signs; they group from the left. -/
abbrev Level := List (String × Infix)

namespace Level

/-- The levels of operators, the loosest first. -/
def operators : List Level :=
  [[("||", .logical .or)],
   [("&&", .logical .and)],
   [("&", .binary .bitAnd), ("|", .binary .bitOr), ("^", .binary .bitXor)],
   [("<", .binary .less), ("<=", .binary .lessEqual), (">", .binary .greater),
    (">=", .binary .greaterEqual), ("==", .binary .equal), ("!=", .binary .notEqual),
    ("<>", .binary .notEqual)],
   [("<<", .binary .shiftLeft), (">>", .binary .shiftRight)],
   [("+", .binary .add), ("-", .binary .subtract)],
   [("*", .binary .multiply), ("/", .binary .divide), ("%", .binary .modulo)]]

/-- The comma between the expressions of a parenthesis. -/
def comma : Level :=
  [(",", .sequence)]

end Level

/-- The prefix operators by their signs; a plus sign stands for none of them. -/
def UnaryOp.ofSign? : String → Option UnaryOp
  | "-" => some .negate
  | "!" => some .not
  | "~" => some .complement
  | _ => none

end Formula
