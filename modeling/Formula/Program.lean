import Formula.Opcode

/-!
# Programs

Stack code as the machine runs it: a header word with the number of parameters, the words of the
instructions, and the pool of constants. Constants are kept as bit patterns, since a NaN may carry a
payload that has to outlive a copy.
-/

namespace Formula

/-- A program. The first word of the code is the header; the instructions start at position 1. -/
structure Program where
  code : Array Int32 := #[]
  constants : Array UInt64 := #[]
  deriving DecidableEq, Repr

namespace Program

/-- The number of parameters in the header. -/
def paramCount? (p : Program) : Option Nat :=
  p.code[0]?.bind index?

/-- A program without an instruction. -/
def isEmpty (p : Program) : Bool :=
  p.code.size < 2

/-- The constant that an operand word selects. -/
def constant? (p : Program) (w : Int32) : Option Float :=
  (index? w).bind fun i => p.constants[i]?.map Float.ofBits

end Program

end Formula
