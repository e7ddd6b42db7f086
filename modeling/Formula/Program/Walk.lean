import Formula.Program

/-!
# Walks over a program

A walk goes through the instructions of a program from the first one on, without following jumps. It
ends with the end instruction, or it gets stuck at a place that cannot be decoded. No word past the
end of the code is looked at.
-/

namespace Formula

/-- An instruction at its place in the code. -/
structure Instruction where
  position : Nat
  op : Opcode
  operand : Option Int32
  deriving DecidableEq, Repr

/-- Why a walk cannot go on. -/
inductive Obstacle where
  | noEnd
  | badWord (word : Int32)
  | missingOperand (op : Opcode)
  deriving DecidableEq, Repr

/-- The instructions of a program in order, up to the end instruction or an obstacle. -/
inductive Walk where
  | step (i : Instruction) (rest : Walk)
  | done (position : Nat)
  | stuck (position : Nat) (obstacle : Obstacle)
  deriving DecidableEq, Repr

namespace Walk

/-- The walk over the words that start at a position. -/
def ofWords (position : Nat) (words : List Int32) : Walk :=
  match words with
  | [] => .stuck position .noEnd
  | w :: rest =>
    match Opcode.ofWord? w with
    | none => .stuck position (.badWord w)
    | some op =>
      if op.hasOperand then
        match rest with
        | [] => .stuck position (.missingOperand op)
        | n :: rest => .step ⟨position, op, some n⟩ (ofWords (position + 2) rest)
      else if op = .endCode then .done position
      else .step ⟨position, op, none⟩ (ofWords (position + 1) rest)
termination_by words.length

/-- The instructions that were decoded, the end instruction included. -/
def instructions : Walk → List Instruction
  | .step i rest => i :: rest.instructions
  | .done position => [⟨position, .endCode, none⟩]
  | .stuck _ _ => []

/-- The place where the walk got stuck, and why. -/
def obstacle? : Walk → Option (Nat × Obstacle)
  | .step _ rest => rest.obstacle?
  | .done _ => none
  | .stuck position obstacle => some (position, obstacle)

end Walk

/-- The place that a jump goes to: its own position, its operand and one. -/
def Instruction.target? (i : Instruction) : Option Int :=
  match i.op, i.operand with
  | .jump _, some offset => some (i.position + offset.toInt + 1)
  | _, _ => none

/-- The walk over a program; it leaves out the header. -/
def Program.walk (p : Program) : Walk :=
  .ofWords 1 (p.code.toList.drop 1)

/-- What an obstacle is called in a listing. -/
def Obstacle.reason : Obstacle → String
  | .noEnd => "no end"
  | .badWord w => s!"pcode={w}"
  | .missingOperand op => s!"{op.mnemonic} missing operand"

end Formula
