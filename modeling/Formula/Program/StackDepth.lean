import Formula.Program.Walk

/-!
# Stack depth

The number of operands that a program keeps on the stack, found by one walk over its instructions. An
expression leaves the stack as it found it, so both ways around a jump meet at the same height and
the walk need not follow jumps.
-/

namespace Formula

/-- Why the stack of a program is not in order. -/
inductive StackError where
  | missingHeader
  | badWord (word : Int32) (position : Nat)
  | notAllowed (op : Opcode) (position : Nat)
  | underflow (op : Opcode) (position needed : Nat)
  | unbalanced (left : Nat)
  | truncated (op : Opcode)
  | noEnd
  deriving DecidableEq, Repr

namespace StackError

/-- The sentence for a failed check. -/
def message : StackError → String
  | .missingHeader => "missing header"
  | .badWord w position => s!"bad opcode {w} at ip={position}"
  | .notAllowed op position => s!"{op.name} not allowed at ip={position}"
  | .underflow op position needed =>
    s!"stack underflow at ip={position}, op={op.name}, needed {needed} items"
  | .unbalanced left => s!"unbalanced stack at end: {left} items left"
  | .truncated op => s!"truncated operand for {op.name}"
  | .noEnd => "no EndCode"

/-- The line for a failed check. -/
def line (e : StackError) : String :=
  s!"stack-check error: {e.message}"

end StackError

/-- The operands that an instruction takes from the stack and puts onto it; an instruction that no
program may hold has none. -/
def Opcode.stackEffect? : Opcode → Option (Nat × Nat)
  | .push | .pushVar | .pushConst => some (0, 1)
  | .binary _ | .logical _ => some (1, 0)
  | .call f => some (f.arity, 0)
  | .nothing | .conditional => none
  | .loadConst | .loadVar | .storeVar | .unary _ | .jump _ | .endCode => some (0, 0)

/-- The greatest height that the stack reaches on a walk, from a given height on and not less than
`deepest`. -/
def Walk.depth (height deepest : Nat) : Walk → Except StackError Nat
  | .step i rest =>
    match i.op.stackEffect? with
    | none => .error (.notAllowed i.op i.position)
    | some (pops, pushes) =>
      if height < pops then .error (.underflow i.op i.position pops)
      else
        let height := height - pops + pushes
        rest.depth height (max deepest height)
  | .done _ => if height = 0 then .ok deepest else .error (.unbalanced height)
  | .stuck position (.badWord w) => .error (.badWord w position)
  | .stuck _ (.missingOperand op) => .error (.truncated op)
  | .stuck _ .noEnd => .error .noEnd

/-- The greatest height of the stack of a program. -/
def Program.stackDepth (p : Program) : Except StackError Nat :=
  if p.code.isEmpty then .error .missingHeader else p.walk.depth 0 0

end Formula
