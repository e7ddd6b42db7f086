import Formula.Operator

/-!
# Opcodes

The instructions of stack code. Each has a number, which is the word that stands for it in a
program; `ofWord?_word` says that the word determines the instruction. Some instructions are followed
by one operand word.
-/

namespace Formula

/-- When a jump is taken: always, or by the sign of the accumulator. -/
inductive Jump where
  | always
  | ifFalse
  | ifTrue
  deriving DecidableEq, Repr

/-- Instructions. A binary one takes its left operand from the stack and its right operand from the
accumulator; a function takes all its arguments from the stack. Results go to the accumulator.
`nothing` and `conditional` are words without a meaning for the machine; the latter marks the entries
of the catalogue that are compiled to jumps. -/
inductive Opcode where
  | nothing
  | push
  | pushVar
  | pushConst
  | loadConst
  | loadVar
  | storeVar
  | unary (op : UnaryOp)
  | binary (op : BinaryOp)
  | logical (op : LogicalOp)
  | jump (j : Jump)
  | call (f : Function)
  | conditional
  | endCode
  deriving DecidableEq, Repr

namespace Opcode

/-- Every instruction, in the order of the numbers. -/
def all : List Opcode :=
  [.nothing, .push, .pushVar, .pushConst, .loadConst, .loadVar, .storeVar,
   .unary .negate, .binary .add, .binary .subtract, .binary .multiply, .binary .divide,
   .binary .modulo, .logical .or, .logical .and, .unary .not,
   .binary .equal, .binary .notEqual, .binary .less, .binary .lessEqual, .binary .greater,
   .binary .greaterEqual,
   .binary .bitAnd, .binary .bitOr, .binary .bitXor, .unary .complement, .binary .shiftLeft,
   .binary .shiftRight,
   .jump .always, .jump .ifFalse, .jump .ifTrue,
   .call (.one .abs), .conditional, .call (.two .max), .call (.two .min), .call (.one .sqrt),
   .call (.two .power), .call (.one .round), .call (.one .floor), .call (.one .ceil),
   .call (.one .cos), .call (.one .cosDeg), .call (.one .sin), .call (.one .sinDeg),
   .call (.one .tan), .call (.one .tanDeg), .call (.one .acos), .call (.one .acosDeg),
   .call (.one .asin), .call (.one .asinDeg), .call (.one .atan), .call (.one .atanDeg),
   .call .numberFormat, .call (.two .avg),
   .endCode]

/-- The number of an instruction. -/
def number (op : Opcode) : Nat :=
  all.idxOf op

/-- The word that stands for an instruction. -/
def word (op : Opcode) : Int32 :=
  Int32.ofNat op.number

/-- The instruction with a given number. -/
def ofNumber? (n : Nat) : Option Opcode :=
  all[n]?

end Opcode

/-- A word used as a count or as an index; a negative one is none. -/
def index? (w : Int32) : Option Nat :=
  if 0 ≤ w.toInt then some w.toInt.toNat else none

namespace Opcode

/-- The instruction that a word stands for. -/
def ofWord? (w : Int32) : Option Opcode :=
  (index? w).bind ofNumber?

/-- The number of an instruction determines it. -/
theorem ofNumber?_number (op : Opcode) : ofNumber? op.number = some op := by
  cases op with
  | unary op => cases op <;> rfl
  | binary op => cases op <;> rfl
  | logical op => cases op <;> rfl
  | jump j => cases j <;> rfl
  | call f =>
    cases f with
    | one f => cases f <;> rfl
    | two f => cases f <;> rfl
    | numberFormat => rfl
  | _ => rfl

/-- Numbers of instructions are small. -/
theorem number_lt (op : Opcode) : op.number < 55 :=
  (List.getElem?_eq_some_iff.1 (ofNumber?_number op)).1

/-- As an index, the word of an instruction is its number. -/
theorem index?_word (op : Opcode) : index? op.word = some op.number := by
  have h := number_lt op
  have hw : op.word.toInt = op.number := Int32.toInt_ofNat_of_lt (by omega)
  simp [index?, hw]

/-- The word of an instruction determines it. -/
theorem ofWord?_word (op : Opcode) : ofWord? op.word = some op := by
  simp [ofWord?, index?_word, ofNumber?_number]

/-- A number belongs to one instruction only. -/
theorem number_of_ofNumber? {n : Nat} {op : Opcode} (h : ofNumber? n = some op) : op.number = n := by
  have hnodup : all.Nodup := by decide
  exact (List.getElem?_inj (number_lt op) hnodup).1 ((ofNumber?_number op).trans h.symm)

/-- No word stands for an instruction but its own. -/
theorem word_of_ofWord? {w : Int32} {op : Opcode} (h : ofWord? w = some op) : op.word = w := by
  obtain ⟨n, hn, hop⟩ := Option.bind_eq_some_iff.1 h
  unfold index? at hn
  split at hn
  · next hw =>
    cases hn
    rw [word, number_of_ofNumber? hop, ← Int32.ofInt_eq_ofNat, Int.toNat_of_nonneg hw,
      Int32.ofInt_toInt]
  · cases hn

/-- Whether an operand word follows the instruction. -/
def hasOperand : Opcode → Bool
  | .pushVar | .pushConst | .loadConst | .loadVar | .storeVar | .jump _ => true
  | _ => false

/-- The number of words that an instruction takes. -/
def size (op : Opcode) : Nat :=
  if op.hasOperand then 2 else 1

/-- Every instruction takes a word. -/
theorem size_pos (op : Opcode) : 0 < op.size := by
  unfold size
  split
  · exact Nat.zero_lt_two
  · exact Nat.zero_lt_one

/-- Whether the instruction is a jump. -/
def isJump : Opcode → Bool
  | .jump _ => true
  | _ => false

/-- The short name of an instruction in a listing. -/
def mnemonic : Opcode → String
  | .nothing => "none"
  | .push => "push"
  | .pushVar => "pushv"
  | .pushConst => "pushc"
  | .loadConst => "loadc"
  | .loadVar => "loadv"
  | .storeVar => "storev"
  | .unary .negate => "neg"
  | .unary .not => "not"
  | .unary .complement => "bitnot"
  | .binary .add => "add"
  | .binary .subtract => "sub"
  | .binary .multiply => "mul"
  | .binary .divide => "div"
  | .binary .modulo => "mod"
  | .binary .equal => "eq"
  | .binary .notEqual => "neq"
  | .binary .less => "lt"
  | .binary .lessEqual => "le"
  | .binary .greater => "gt"
  | .binary .greaterEqual => "ge"
  | .binary .bitAnd => "bitand"
  | .binary .bitOr => "bitor"
  | .binary .bitXor => "bitxor"
  | .binary .shiftLeft => "bitlft"
  | .binary .shiftRight => "bitrgt"
  | .logical .or => "or"
  | .logical .and => "and"
  | .jump .always => "jump"
  | .jump .ifFalse => "jumpf"
  | .jump .ifTrue => "jumpt"
  | .call _ => "call"
  | .conditional => "call"
  | .endCode => "end"

/-- The full name of an instruction in a report. -/
def name : Opcode → String
  | .nothing => "None"
  | .push => "Push"
  | .pushVar => "PushVar"
  | .pushConst => "PushConst"
  | .loadConst => "LoadConst"
  | .loadVar => "LoadVar"
  | .storeVar => "StoreVar"
  | .unary .negate => "Neg"
  | .unary .not => "LogicalNot"
  | .unary .complement => "BitNot"
  | .binary .add => "Add"
  | .binary .subtract => "Subtract"
  | .binary .multiply => "Multiply"
  | .binary .divide => "Divide"
  | .binary .modulo => "Modulo"
  | .binary .equal => "Equal"
  | .binary .notEqual => "NotEqual"
  | .binary .less => "LessThan"
  | .binary .lessEqual => "LessEqual"
  | .binary .greater => "GreaterThan"
  | .binary .greaterEqual => "GreaterEqual"
  | .binary .bitAnd => "BitAnd"
  | .binary .bitOr => "BitOr"
  | .binary .bitXor => "BitXor"
  | .binary .shiftLeft => "BitShiftLeft"
  | .binary .shiftRight => "BitShiftRight"
  | .logical .or => "LogicalOr"
  | .logical .and => "LogicalAnd"
  | .jump .always => "JumpAlways"
  | .jump .ifFalse => "JumpFalse"
  | .jump .ifTrue => "JumpTrue"
  | .call (.one .abs) => "FuncAbs"
  | .call (.one .sqrt) => "FuncSqrt"
  | .call (.one .round) => "FuncRound"
  | .call (.one .floor) => "FuncFloor"
  | .call (.one .ceil) => "FuncCeil"
  | .call (.one .cos) => "FuncCos"
  | .call (.one .cosDeg) => "FuncCosD"
  | .call (.one .sin) => "FuncSin"
  | .call (.one .sinDeg) => "FuncSinD"
  | .call (.one .tan) => "FuncTan"
  | .call (.one .tanDeg) => "FuncTanD"
  | .call (.one .acos) => "FuncAcos"
  | .call (.one .acosDeg) => "FuncAcosD"
  | .call (.one .asin) => "FuncAsin"
  | .call (.one .asinDeg) => "FuncAsinD"
  | .call (.one .atan) => "FuncAtan"
  | .call (.one .atanDeg) => "FuncAtanD"
  | .call (.two .max) => "FuncMax"
  | .call (.two .min) => "FuncMin"
  | .call (.two .power) => "FuncPower"
  | .call (.two .avg) => "FuncAvg"
  | .call .numberFormat => "FuncNumberFormat"
  | .conditional => "FuncIif"
  | .endCode => "EndCode"

end Opcode

end Formula
