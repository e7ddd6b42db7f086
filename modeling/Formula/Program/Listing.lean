import Formula.Catalogue
import Formula.Decimal.Shortest
import Formula.Program.Walk
import Formula.Text.Column

/-!
# Listings

A program line by line: the position of each instruction, its mnemonic, and what it works on. Jumps
show the place they go to. There are a plain listing and one that marks the places jumps go to.
-/

namespace Formula

/-- The sign of a binary operator. -/
def BinaryOp.sign : BinaryOp → String
  | .add => "+"
  | .subtract => "-"
  | .multiply => "*"
  | .divide => "/"
  | .modulo => "%"
  | .equal => "=="
  | .notEqual => "!="
  | .less => "<"
  | .lessEqual => "<="
  | .greater => ">"
  | .greaterEqual => ">="
  | .bitAnd => "&"
  | .bitOr => "|"
  | .bitXor => "^"
  | .shiftLeft => "<<"
  | .shiftRight => ">>"

/-- The sign of a logical operator. -/
def LogicalOp.sign : LogicalOp → String
  | .or => "||"
  | .and => "&&"

/-- The sign of a prefix operator. -/
def UnaryOp.sign : UnaryOp → String
  | .negate => "-"
  | .not => "!"
  | .complement => "~"

namespace Program

/-- A constant by its value, or by its number if there is none. -/
def constantText (p : Program) (w : Int32) : String :=
  ((p.constant? w).map Decimal.shortestText).getD s!"const[{w}]"

/-- What an instruction works on. -/
def operandText (p : Program) (i : Instruction) : String :=
  let n := i.operand.getD 0
  match i.op with
  | .push => "ax"
  | .pushVar => s!"varmem[{n}]"
  | .pushConst => p.constantText n
  | .loadConst => s!"ax, {p.constantText n}"
  | .loadVar => s!"ax, varmem[{n}]"
  | .storeVar => s!"varmem[{n}], ax"
  | .unary op => s!"{op.sign}ax"
  | .binary op => s!"stack[sp] {op.sign} ax"
  | .logical op => s!"stack[sp] {op.sign} ax"
  | .jump _ => toString (i.target?.getD 0)
  | .call _ | .conditional => Catalogue.nameOf i.op
  | .nothing | .endCode => ""

/-- The columns of a line: position, mnemonic and the rest. -/
def columns (position : Nat) (mnemonic text : String) : String :=
  Text.padRight 7 s!"{position}:" ++ Text.padRight 8 mnemonic ++ text

/-- The line of an instruction. -/
def instructionLine (p : Program) (i : Instruction) : String :=
  Text.trimEnd (columns i.position i.op.mnemonic (p.operandText i))

/-- The lines of a walk, each with the position it describes. -/
def walkLines (p : Program) : Walk → List (Nat × String)
  | .step i rest => (i.position, p.instructionLine i) :: p.walkLines rest
  | .done position => [(position, p.instructionLine ⟨position, .endCode, none⟩)]
  | .stuck position obstacle => [(position, columns position "err" obstacle.reason)]

/-- The only line of the listing of a program without an instruction. -/
def emptyListing : List String :=
  ["Error: No code"]

/-- The plain listing: three lines about the header, and a line for each place of the walk. -/
def listing (p : Program) : List String :=
  if p.isEmpty then emptyListing
  else
    ["-- Header --", s!"Parameters={p.code[0]?.getD 0}", "-- Code --"]
      ++ (p.walkLines p.walk).map (·.2)

/-- The places that the jumps of a program go to. -/
def jumpTargets (p : Program) : List Int :=
  p.walk.instructions.filterMap (·.target?)

/-- The listing with an arrow in front of every place that a jump goes to. -/
def markedListing (p : Program) : List String :=
  if p.isEmpty then emptyListing
  else
    let targets := p.jumpTargets
    s!"-- Parameters={p.code[0]?.getD 0} --" :: (p.walkLines p.walk).map fun (position, line) =>
      (if targets.contains (position : Int) then "► " else "  ") ++ line

end Program

end Formula
