import Formula.Decimal.Shortest
import Formula.Diagnostic
import Formula.Opcode

/-!
# Faults

Why a run of a program ends without a value. A fault knows its cause; the kind and the detail that
are reported follow from it.
-/

namespace Formula

/-- The registers of the machine: the position in the code, the accumulator, and the height of the
stack. -/
structure Registers where
  position : Nat
  accumulator : Float
  height : Nat
  deriving DecidableEq, Repr

namespace Registers

/-- The registers as a text. -/
def text (r : Registers) : String :=
  s!"IP={r.position}, AX={Decimal.shortestText r.accumulator}, SP={r.height}"

/-- The note about operands that a finished run left on the stack. -/
def leakDiagnostic (r : Registers) : Diagnostic :=
  ⟨.stackMemoryLeak, s!"VCPU state: {r.text}"⟩

end Registers

/-- The causes of a failed run. -/
inductive Fault where
  | noCode
  | badHeader (word : Int32)
  | insufficientArgs (expected : Nat)
  | tooManyArgs (limit count : Nat)
  | pastEnd (position : Nat)
  | badWord (word : Int32)
  | underflow (position : Nat)
  | missingOperand (position : Nat)
  | badSlot (operand : Int32) (position : Nat)
  | badConstant (operand : Int32) (position : Nat)
  | badJump (operand : Int32) (position : Nat)
  | stackOverflow (registers : Registers)
  | divideByZero (registers : Registers)
  deriving DecidableEq, Repr

namespace Fault

/-- The kind of failure that a fault is. -/
def kind : Fault → ErrorKind
  | .noCode => .noCode
  | .insufficientArgs _ => .insufficientArgs
  | .tooManyArgs _ _ => .tooManyArgs
  | .stackOverflow _ => .stackOverflow
  | .divideByZero _ => .divideByZero
  | .badHeader _ | .pastEnd _ | .badWord _ | .underflow _ | .missingOperand _ | .badSlot _ _
  | .badConstant _ _ | .badJump _ _ => .illegalCode

/-- The detail of a fault. -/
def detail : Fault → String
  | .noCode => "Check compile error."
  | .badHeader w => s!"Header={w}"
  | .insufficientArgs expected => s!"Expecting {expected} arguments."
  | .tooManyArgs limit count => s!"Max arguments={limit}, argcount={count}"
  | .pastEnd position => s!"IP={position} past end of code"
  | .badWord w => s!"Pcode={w}"
  | .underflow position => s!"stack underflow at IP={position}"
  | .missingOperand position => s!"missing operand at IP={position}"
  | .badSlot n position => s!"varmem[{n}] out of range at IP={position}"
  | .badConstant n position => s!"const[{n}] out of range at IP={position}"
  | .badJump n position => s!"jump offset {n} out of range at IP={position}"
  | .stackOverflow r => r.text
  | .divideByZero r => r.text

/-- A fault as it is reported. -/
def diagnostic (f : Fault) : Diagnostic :=
  ⟨f.kind, f.detail⟩

end Fault

end Formula
