import Formula.Arithmetic
import Formula.Machine.Fault
import Formula.Program

/-!
# The machine

The machine has an accumulator, a stack of bounded height and a memory of fixed size. It fetches one
instruction after another; jumps only go forward, so the distance to the end of the code bounds the
run. Programs need not come from the compiler: every access is checked.
-/

namespace Formula

/-- The sizes of a machine: the capacity of the stack, and the number of slots of the memory. A stack
and a memory of these sizes are taken to be allocatable on the host, however large they are. -/
structure MachineConfig where
  stackSize : Nat := 50
  memorySize : Nat := 20
  deriving DecidableEq, Repr

/-- What a run changes: the accumulator, the stack with its top first, and the memory. -/
structure MachineState where
  accumulator : Float
  stack : List Float
  memory : Array Float
  deriving DecidableEq, Repr

/-- A finished run: the accumulator, and the registers if operands were left on the stack. -/
structure Execution where
  value : Float
  leak : Option Registers
  deriving DecidableEq, Repr

/-- Whether a jump is taken. -/
def Jump.isTaken (accumulator : Float) : Jump → Bool
  | .always => true
  | .ifFalse => !isTrue accumulator
  | .ifTrue => isTrue accumulator

namespace Machine

/-- What an instruction leads to: the machine goes on after leaving out so many words, or it stops. -/
inductive Outcome where
  | next (skip : Nat) (state : MachineState)
  | stop

/-- The registers at a position. -/
def registers (position : Nat) (s : MachineState) : Registers :=
  ⟨position, s.accumulator, s.stack.length⟩

/-- The state with a value on top of the stack. -/
def push (config : MachineConfig) (position : Nat) (x : Float) (s : MachineState) :
    Except Fault MachineState :=
  if s.stack.length < config.stackSize then .ok { s with stack := x :: s.stack }
  else .error (.stackOverflow (registers position s))

/-- The top of the stack, and the state without it. -/
def pop (position : Nat) (s : MachineState) : Except Fault (Float × MachineState) :=
  match s.stack with
  | x :: rest => .ok (x, { s with stack := rest })
  | [] => .error (.underflow position)

/-- The operand word of the instruction at a position. -/
def operand (p : Program) (position : Nat) : Except Fault Int32 :=
  match p.code[position + 1]? with
  | some w => .ok w
  | none => .error (.missingOperand position)

/-- The slot that the instruction at a position selects. -/
def slot (p : Program) (position : Nat) (s : MachineState) : Except Fault (Fin s.memory.size) := do
  let w ← operand p position
  match index? w with
  | some i => if h : i < s.memory.size then .ok ⟨i, h⟩ else .error (.badSlot w position)
  | none => .error (.badSlot w position)

/-- The constant that the instruction at a position selects. -/
def constant (p : Program) (position : Nat) : Except Fault Float := do
  let w ← operand p position
  match p.constant? w with
  | some x => .ok x
  | none => .error (.badConstant w position)

/-- The number of words between the first word of a jump and its target, which lies after the jump
and inside the code. -/
def jumpDistance (p : Program) (position : Nat) : Except Fault Nat := do
  let w ← operand p position
  match index? w with
  | some distance =>
    if position + distance + 1 < p.code.size then .ok distance else .error (.badJump w position)
  | none => .error (.badJump w position)

/-- The state after the arguments of a function were taken from the stack, the last one first. -/
def callFunction (position : Nat) (s : MachineState) : Function → Except Fault MachineState
  | .one f => do
    let (x, s) ← pop position s
    return { s with accumulator := f.apply x }
  | .two f => do
    let (y, s) ← pop position s
    let (x, s) ← pop position s
    return { s with accumulator := f.apply x y }
  | .numberFormat => do
    let (places, s) ← pop position s
    let (intDigits, s) ← pop position s
    let (value, s) ← pop position s
    return { s with accumulator := numberFormat value intDigits places }

/-- What the instruction at a position does. A divisor of zero is noticed before the stack is looked
at. -/
def perform (p : Program) (config : MachineConfig) (position : Nat) (s : MachineState) (op : Opcode) :
    Except Fault Outcome :=
  match op with
  | .push => do
    let s ← push config position s.accumulator s
    return .next 0 s
  | .pushVar => do
    let i ← slot p position s
    let x := s.memory[i]
    let s ← push config position x { s with accumulator := x }
    return .next 1 s
  | .pushConst => do
    let x ← constant p position
    let s ← push config position x { s with accumulator := x }
    return .next 1 s
  | .loadConst => do
    let x ← constant p position
    return .next 1 { s with accumulator := x }
  | .loadVar => do
    let i ← slot p position s
    return .next 1 { s with accumulator := s.memory[i] }
  | .storeVar => do
    let i ← slot p position s
    return .next 1 { s with memory := s.memory.set i s.accumulator }
  | .unary op => .ok (.next 0 { s with accumulator := op.apply s.accumulator })
  | .binary op =>
    if op.dividesByZero s.accumulator then .error (.divideByZero (registers position s))
    else do
      let (x, s) ← pop position s
      return .next 0 { s with accumulator := op.apply x s.accumulator }
  | .logical op => do
    let (x, s) ← pop position s
    return .next 0 { s with accumulator := op.apply x s.accumulator }
  | .jump j =>
    if j.isTaken s.accumulator then do
      let distance ← jumpDistance p position
      return .next distance s
    else .ok (.next 1 s)
  | .call f => do
    let s ← callFunction position s f
    return .next 0 s
  | .endCode => .ok .stop
  | .nothing | .conditional => .error (.badWord op.word)

/-- The run of a program from a position on. -/
def run (p : Program) (config : MachineConfig) (position : Nat) (s : MachineState) :
    Except Fault Execution :=
  if h : position < p.code.size then
    match Opcode.ofWord? p.code[position] with
    | none => .error (.badWord p.code[position])
    | some op =>
      match perform p config position s op with
      | .error fault => .error fault
      | .ok .stop =>
        .ok ⟨s.accumulator, if s.stack.isEmpty then none else some (registers position s)⟩
      | .ok (.next skip s) => run p config (position + skip + 1) s
  else .error (.pastEnd position)
termination_by p.code.size - position

/-- The memory at the start of a run: the declared arguments and zeros. -/
def startMemory (config : MachineConfig) (declared : Nat) (args : List Float) : Array Float :=
  (args.take declared ++ List.replicate (config.memorySize - declared) 0).toArray

end Machine

/-- The run of a program on arguments. Arguments beyond the declared ones are ignored. -/
def Program.execute (p : Program) (config : MachineConfig) (args : List Float) :
    Except Fault Execution :=
  if p.isEmpty then .error .noCode
  else
    match p.paramCount? with
    | none => .error (.badHeader (p.code[0]?.getD 0))
    | some declared =>
      if args.length < declared then .error (.insufficientArgs declared)
      else if config.memorySize < declared then
        .error (.tooManyArgs config.memorySize declared)
      else
        Machine.run p config 1 ⟨0, [], Machine.startMemory config declared args⟩

end Formula
