import Formula.Catalogue
import Formula.Decimal.Reading
import Formula.Parameters
import Formula.Parser.Basic
import Formula.Word

/-!
# The expression of a body

The grammar of bodies, from the loosest construct to the tightest: an assignment to a parameter,
which groups from the right; the levels of operators; the prefix operators; and the atoms, among them
calls, conditionals and parentheses. Expressions and prefix operators that are open at the same time
count as levels of nesting, of which there is a fixed number.
-/

namespace Formula

/-- What the place of an expression says about it: the parameters, whether a parenthesis is open
around it, and whether it may not assign. -/
structure Scope where
  parameters : Parameters
  inParens : Bool := false
  noAssignment : Bool := false
  deriving DecidableEq, Repr

/-- The scope inside a parenthesis. -/
def Scope.parens (s : Scope) : Scope :=
  { s with inParens := true }

/-- The scope of the condition of a conditional; `allowed` lifts the ban on assignments. -/
def Scope.condition (s : Scope) (allowed : Bool) : Scope :=
  { s.parens with noAssignment := s.noAssignment || !allowed }

namespace Parser

/-- The number of levels of nesting. -/
def maxNesting : Nat := 128

/-- The value of a number, which is 0 if its digits and points do not form one. -/
def numberValue (text : List Char) : Float :=
  (Decimal.read? text).getD 0

/-- The value of a hexadecimal digit. -/
def hexDigit? (c : Char) : Option Nat :=
  if '0' ≤ c && c ≤ '9' then some (c.toNat - '0'.toNat)
  else if 'a' ≤ c && c ≤ 'f' then some (c.toNat - 'a'.toNat + 10)
  else none

/-- The value of a hexadecimal number: its 32 bits as a signed integer, or 0 if there are other
characters than digits or more than 32 bits. -/
def hexValue (text : List Char) : Float :=
  match (text.drop 2).mapM hexDigit? with
  | none => 0
  | some digits =>
    let n := digits.foldl (fun n d => 16 * n + d) 0
    if n < Nat.pow 2 32 then Word.toFloat (Int32.ofNat n) else 0

/-- The comma between two arguments of a function. -/
def separator : Parser Unit :=
  expect "," .insufficientArgs

/-- The parenthesis that closes the arguments. If there is one more argument, the failure comes after
that argument. -/
def closeArguments (argument : Parser Expr) : Parser Unit := do
  if (← current).isDelimiter "," then
    advance
    let _ ← argument
    fail .tooManyArgs
  else expect ")" .missingParen

/-- The arguments of a function and the closing parenthesis. -/
def arguments (argument : Parser Expr) : Function → Parser Expr
  | .one f => do
    let a ← argument
    closeArguments argument
    return .call1 f a
  | .two f => do
    let a ← argument
    separator
    let b ← argument
    closeArguments argument
    return .call2 f a b
  | .numberFormat => do
    let a ← argument
    separator
    let b ← argument
    separator
    let c ← argument
    closeArguments argument
    return .numberFormat a b c

/-- A call from the token after the name on. -/
def call (argument : Parser Expr) (f : Function) : Parser Expr := do
  expect "(" .missingParen
  if (← current).isDelimiter ")" then fail .insufficientArgs
  arguments argument f

/-- The comma between two parts of a conditional. -/
def conditionalComma : Parser Unit := do
  let t ← current
  if t.isDelimiter "," then advance
  else if t.isDelimiter ")" then fail .insufficientArgs
  else fail .missingComma

/-- A conditional from the token after the name on. -/
def conditional (condition branch : Parser Expr) : Parser Expr := do
  expect "(" .missingParen
  let c ← condition
  conditionalComma
  let yes ← branch
  conditionalComma
  let no ← branch
  if (← current).isDelimiter "," then fail .tooManyArgs
  expect ")" .missingParen
  return .conditional c yes no

/-- An identifier: the catalogue is asked first, then the constants, then the parameters. -/
def identifier (s : Scope) (condition branch : Parser Expr) (name : String) : Parser Expr :=
  match Catalogue.callee? name with
  | some (.function f) => do advance; call branch f
  | some .conditional => do advance; conditional condition branch
  | none =>
    match Catalogue.constant? name with
    | some value => do advance; return .const value
    | none =>
      match s.parameters.slot? name with
      | some slot => do advance; return .param slot
      | none => fail .unknownName

/-- Expressions between parentheses; the value is that of the last one. -/
def parenthesis (inner : Parser Expr) : Parser Expr := do
  advance
  let e ← chain Level.comma inner
  expect ")" .missingParen
  return e

/-- An operand without a prefix operator. `condition` reads the condition of a conditional, and
`inner` any other expression inside parentheses. -/
def atom (s : Scope) (condition inner : Parser Expr) : Parser Expr := do
  let t ← current
  match t.kind with
  | .delimiter =>
    if t.text = "(" then parenthesis inner
    else if t.text = ")" ∧ ¬s.inParens then fail .unbalancedParens
    else fail .missingArg
  | .finished => fail .missingArg
  | .unknown => fail .other
  | .identifier => identifier s condition inner t.text
  | .number => do advance; return .const (numberValue t.text.toList)
  | .hexNumber => do advance; return .const (hexValue t.text.toList)

/-- The prefix operator that a token is. -/
def unaryOperator? (t : Token) : Option UnaryOp :=
  if t.kind = .delimiter then UnaryOp.ofSign? t.text else none

/-- The parameter whose assignment starts at the current token. -/
def assigned? (s : Scope) : List Token → Option Nat
  | t :: eq :: _ =>
    if t.kind = .identifier ∧ eq.isDelimiter "=" then s.parameters.slot? t.text else none
  | _ => none

/-- Operands joined by the operators of all levels; an equals sign may not follow. -/
def operation (operand : Parser Expr) : Parser Expr := do
  let e ← Level.operators.foldr chain operand
  if (← current).isDelimiter "=" then fail .illegalAssignment
  return e

mutual

/-- An expression with a given number of levels of nesting left. -/
def expression (allowed : Bool) (room : Nat) (s : Scope) : Parser Expr :=
  match room with
  | 0 => fail .malformed
  | room + 1 => do
    match assigned? s (← remaining) with
    | some slot =>
      advance
      if s.noAssignment then fail .conditionalAssignment
      advance
      return .assign slot (← expression allowed room s)
    | none => operation (operand allowed room s)

/-- An operand with its prefix operators, with a given number of levels of nesting left. -/
def operand (allowed : Bool) (room : Nat) (s : Scope) : Parser Expr :=
  match room with
  | 0 => fail .malformed
  | room + 1 => do
    let t ← current
    if t.isDelimiter "+" then
      advance
      operand allowed room s
    else
      match unaryOperator? t with
      | some op =>
        advance
        return .unary op (← operand allowed room s)
      | none =>
        atom s (expression allowed room (s.condition allowed)) (expression allowed room s.parens)

end

/-- The failure at a token that is left over after a complete expression. -/
def leftover (t : Token) : ErrorKind :=
  match t.kind with
  | .delimiter => if t.text = ")" then .unbalancedParens else .unsupportedOperator
  | .unknown => .other
  | _ => .malformed

/-- A whole body. -/
def body (allowed : Bool) (parameters : Parameters) : Parser Expr := do
  let e ← expression allowed maxNesting { parameters := parameters }
  match ← remaining with
  | [] => return e
  | t :: _ => fail (leftover t)

end Parser

/-- What was read of a body up to and including the current token. -/
def consumed (ts rest : List Token) : String :=
  String.join ((ts.take (ts.length + 1 - rest.length)).map (·.text))

/-- The expression that a body stands for. Assignments in conditions are accepted if `allowed`. -/
def parseBody (allowed : Bool) (parameters : Parameters) (text : String) : Except Diagnostic Expr :=
  let ts := tokens text
  match (Parser.body allowed parameters).run ts with
  | .ok (e, _) => .ok e
  | .error f => .error (.after f.kind (consumed ts f.rest))

end Formula
