import Formula.Diagnostic
import Formula.Program

/-!
# The assembler

Stack code is written step by step. A jump names a label, which stands for a place that is fixed when
the label is posted; `finish` replaces every label by the distance to its place. A push that directly
follows a load can be fused with it into one instruction, unless a label was posted in between: a
jump to that label does not run the load.
-/

namespace Formula

/-- A word of the code that is being written. -/
inductive Cell where
  | header (word : Int32)
  | opcode (op : Opcode)
  | operand (word : Int32)
  | target (label : Nat)
  deriving DecidableEq, Repr

namespace Cell

/-- The word of a cell; a label without a place counts as 0. -/
def word : Cell → Int32
  | .header w => w
  | .opcode op => op.word
  | .operand w => w
  | .target _ => 0

/-- The form of a load that pushes the loaded value as well. -/
def fused? : Cell → Option Cell
  | .opcode .loadVar => some (.opcode .pushVar)
  | .opcode .loadConst => some (.opcode .pushConst)
  | _ => none

end Cell

/-- What can be asked of an assembler. Slots, labels and constants are numbered from 0. -/
inductive Step where
  | header (count : Nat)
  | short (op : Opcode)
  | long (op : Opcode) (operand : Int32)
  | constant (pattern : UInt64)
  | loadConst (pattern : UInt64)
  | loadVar (slot : Nat)
  | storeVar (slot : Nat)
  | push
  | label
  | post (label : Nat)
  | branch (j : Jump) (label : Nat)
  deriving DecidableEq, Repr

/-- Code that is being written: its cells, the pool of constants, and the place of each label.
`joined` says that a label was posted after the latest cell. -/
structure Assembler where
  optimize : Bool
  cells : Array Cell := #[]
  constants : Array UInt64 := #[]
  labels : Array (Option Nat) := #[]
  joined : Bool := false
  deriving DecidableEq, Repr

namespace Assembler

/-- The position of the next cell. -/
def here (a : Assembler) : Nat :=
  a.cells.size

/-- The words written so far. -/
def words (a : Assembler) : Array Int32 :=
  a.cells.map Cell.word

/-- Write cells at the end. -/
def write (a : Assembler) (cells : List Cell) : Assembler :=
  { a with cells := a.cells ++ cells, joined := false }

/-- Write an instruction with its operand word. -/
def long (a : Assembler) (op : Opcode) (operand : Int32) : Assembler :=
  a.write [.opcode op, .operand operand]

/-- Add a constant to the pool; equal constants have places of their own. -/
def addConstant (a : Assembler) (pattern : UInt64) : Assembler :=
  { a with constants := a.constants.push pattern }

/-- The code with the load at its end turned into the form that pushes. -/
def fuse? (a : Assembler) : Option Assembler :=
  if a.optimize && !a.joined && 2 ≤ a.here then
    (a.cells[a.here - 2]?.bind Cell.fused?).map fun cell =>
      { a with cells := a.cells.setIfInBounds (a.here - 2) cell }
  else none

/-- The code after a step. -/
def step (a : Assembler) : Step → Assembler
  | .header count => a.write [.header (Int32.ofNat count)]
  | .short op => a.write [.opcode op]
  | .long op operand => a.long op operand
  | .constant pattern => a.addConstant pattern
  | .loadConst pattern => (a.addConstant pattern).long .loadConst (Int32.ofNat a.constants.size)
  | .loadVar slot => a.long .loadVar (Int32.ofNat slot)
  | .storeVar slot => a.long .storeVar (Int32.ofNat slot)
  | .push => a.fuse?.getD (a.write [.opcode .push])
  | .label => { a with labels := a.labels.push none }
  | .post label => { a with labels := a.labels.setIfInBounds label (some a.here), joined := true }
  | .branch j label => a.write [.opcode (.jump j), .target label]

/-- The number that a step gives out: that of the new constant or of the new label. -/
def number? (a : Assembler) : Step → Option Nat
  | .constant _ => some a.constants.size
  | .label => some a.labels.size
  | _ => none

/-- The code after a list of steps. -/
def run (a : Assembler) (steps : List Step) : Assembler :=
  steps.foldl step a

/-- The failure of a jump to a label that has no place. -/
def neverPosted (label : Nat) : Diagnostic :=
  .after .other s!"label {label} never posted"

/-- The final word of the cell at a position. The operand of a jump is the distance from the place
after its first word to the place of its label. -/
def resolve (a : Assembler) (cell : Cell) (position : Nat) : Except Diagnostic Int32 :=
  match cell with
  | .target label =>
    match a.labels[label]?.join with
    | some place => .ok (Int32.ofNat place - Int32.ofNat (position - 1) - 1)
    | none => .error (neverPosted label)
  | cell => .ok cell.word

/-- The program that was written, closed by the end instruction. -/
def finish (a : Assembler) : Except Diagnostic Program := do
  let a := a.write [.opcode .endCode]
  let code ← a.cells.toList.zipIdx.mapM fun (cell, position) => a.resolve cell position
  return { code := code.toArray, constants := a.constants }

end Assembler

/-- The program that a list of steps writes. -/
def assemble (optimize : Bool) (steps : List Step) : Except Diagnostic Program :=
  Assembler.finish (Assembler.run { optimize := optimize } steps)

end Formula
