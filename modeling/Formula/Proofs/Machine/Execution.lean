import Formula.Proofs.Machine.Simulation

/-!
# Executing compiled expressions

The program of an expression, run on arguments, has the outcome that the evaluation of the expression
has over the memory of the arguments. Only the positions at which faults are noticed are not said,
since they depend on the code.
-/

namespace Formula

/-- A fault without the position at which a run was stopped. -/
def Fault.unplaced : Fault → Fault
  | .stackOverflow r => .stackOverflow { r with position := 0 }
  | .divideByZero r => .divideByZero { r with position := 0 }
  | f => f

/-- A value does not depend on how faults are told. -/
lemma eq_ok_of_mapError {ε ε' α : Type} {g : ε → ε'} {x : Except ε α} {a : α}
    (h : x.mapError g = .ok a) : x = .ok a := by
  cases x with
  | error => cases h
  | ok =>
    cases h
    rfl

/-- A run that ends with a fault, told without its position. -/
lemma exists_of_mapError_eq_error {ε ε' α : Type} {g : ε → ε'} {x : Except ε α} {b : ε'}
    (h : x.mapError g = .error b) : ∃ a, x = .error a ∧ g a = b := by
  cases x with
  | error a =>
    cases h
    exact ⟨a, rfl, rfl⟩
  | ok => cases h

/-- The kind of a fault does not depend on its position. -/
lemma Fault.kind_unplaced (f : Fault) : f.unplaced.kind = f.kind := by
  cases f with
  | _ => rfl

/-- Without its position, the fault of an evaluation is the same everywhere. -/
lemma Halt.unplaced_fault (position : Nat) (halt : Halt) :
    (halt.fault position).unplaced = halt.fault 0 := by
  cases halt with
  | stackOverflow => rfl
  | divideByZero => rfl

namespace Expr

/-- The outcome of an expression over a number of parameters, for a machine and arguments. -/
def outcome (paramCount : Nat) (e : Expr) (config : MachineConfig) (args : List Float) :
    Except Fault Execution :=
  if args.length < paramCount then .error (.insufficientArgs paramCount)
  else if config.memorySize < paramCount then
    .error (.tooManyArgs config.memorySize paramCount)
  else
    match e.evalWithin config.stackSize 0 (Machine.startMemory config paramCount args) with
    | .ok v => .ok ⟨v.value, none⟩
    | .error halt => .error (halt.fault 0)

/-- With enough arguments and memory, the outcome is that of the evaluation. -/
lemma outcome_of_le {paramCount : Nat} {config : MachineConfig} {args : List Float} (e : Expr)
    (hargs : paramCount ≤ args.length) (hmemory : paramCount ≤ config.memorySize) :
    e.outcome paramCount config args =
      match e.evalWithin config.stackSize 0 (Machine.startMemory config paramCount args) with
      | .ok v => .ok ⟨v.value, none⟩
      | .error halt => .error (halt.fault 0) := by
  rw [outcome, if_neg (Nat.not_lt.2 hargs), if_neg (Nat.not_lt.2 hmemory)]

/-- The outcomes that an expression can have; the stack overflows only if it has no place for the
depth of the expression. -/
lemma outcome_cases (e : Expr) (paramCount : Nat) (config : MachineConfig) (args : List Float) :
    args.length < paramCount ∧
        e.outcome paramCount config args = .error (.insufficientArgs paramCount) ∨
      paramCount ≤ args.length ∧ config.memorySize < paramCount ∧
        e.outcome paramCount config args = .error (.tooManyArgs config.memorySize paramCount) ∨
      paramCount ≤ args.length ∧ paramCount ≤ config.memorySize ∧
        ((∃ x, e.outcome paramCount config args = .ok ⟨x, none⟩) ∨
          (∃ r, e.outcome paramCount config args = .error (.divideByZero r)) ∨
          config.stackSize < e.depth ∧
            ∃ r, e.outcome paramCount config args = .error (.stackOverflow r)) := by
  rcases Nat.lt_or_ge args.length paramCount with hargs | hargs
  · exact .inl ⟨hargs, if_pos hargs⟩
  rcases Nat.lt_or_ge config.memorySize paramCount with hmemory | hmemory
  · refine .inr (.inl ⟨hargs, hmemory, ?_⟩)
    rw [outcome, if_neg (Nat.not_lt.2 hargs), if_pos hmemory]
  refine .inr (.inr ⟨hargs, hmemory, ?_⟩)
  rw [outcome_of_le e hargs hmemory]
  cases hv : e.evalWithin config.stackSize 0 (Machine.startMemory config paramCount args) with
  | ok v => exact .inl ⟨v.value, rfl⟩
  | error halt =>
    cases halt with
    | divideByZero divisor height => exact .inr (.inl ⟨_, rfl⟩)
    | stackOverflow value height =>
      have hdepth := lt_of_evalWithin_eq_stackOverflow hv
      rw [Nat.zero_add] at hdepth
      exact .inr (.inr ⟨hdepth, _, rfl⟩)

/-- There are at most as many constants as words. -/
lemma constants_length_le (optimize : Bool) (e : Expr) (push : Bool) (k : Nat) :
    e.constants.length ≤ (e.words optimize push k).length := by
  induction e generalizing push k with
  | const =>
    simp [constants, words, loadWords]
    split <;> simp
  | param => exact Nat.zero_le _
  | assign slot e ih =>
    have := ih false k
    simp [constants, words]
    omega
  | unary op e ih =>
    have := ih false k
    simp [constants, words]
    omega
  | binary op l r ihl ihr =>
    have := ihl true k
    have := ihr false (k + l.constants.length)
    simp [constants, words]
    omega
  | logical op l r ihl ihr =>
    have := ihl true k
    have := ihr false (k + l.constants.length)
    simp [constants, words]
    omega
  | sequence a b iha ihb =>
    have := iha false k
    have := ihb push (k + a.constants.length)
    simp [constants, words]
    omega
  | conditional c yes no ihc ihyes ihno =>
    have := ihc false k
    have := ihyes false (k + c.constants.length)
    have := ihno false (k + c.constants.length + yes.constants.length)
    simp [constants, words]
    omega
  | call1 f a ih =>
    have := ih true k
    simp [constants, words]
    omega
  | call2 f a b iha ihb =>
    have := iha true k
    have := ihb true (k + a.constants.length)
    simp [constants, words]
    omega
  | numberFormat a b c iha ihb ihc =>
    have := iha true k
    have := ihb true (k + a.constants.length)
    have := ihc true (k + a.constants.length + b.constants.length)
    simp [constants, words]
    omega

variable {optimize : Bool} {n : Nat} {e : Expr}

/-- The header of a program is its number of parameters. -/
lemma paramCount?_program (hn : n < 2 ^ 31) : (e.program optimize n).paramCount? = some n := by
  simp [Program.paramCount?, program, index?_ofNat hn]

/-- A program has an instruction. -/
lemma isEmpty_program : (e.program optimize n).isEmpty = false := by
  simp [Program.isEmpty, program]

/-- The code of a program has a header and an end around the words of the expression. -/
lemma code_size_program :
    (e.program optimize n).code.size = (e.words optimize false 0).length + 2 := by
  simp [program]

/-- The program of an expression has the outcome of the expression, positions apart. -/
theorem execute_program (hslots : e.SlotsBelow n) (hn : n < 2 ^ 31)
    (hsize : (e.program optimize n).code.size ≤ 2 ^ 31) (config : MachineConfig)
    (args : List Float) :
    ((e.program optimize n).execute config args).mapError Fault.unplaced =
      e.outcome n config args := by
  unfold Program.execute outcome
  rw [isEmpty_program, paramCount?_program hn]
  simp only [Bool.false_eq_true, if_false]
  split
  · rfl
  split
  · rfl
  next hargs hmemory =>
  have hpool : (e.program optimize n).constants.size ≤ 2 ^ 31 := by
    have := constants_length_le optimize e false 0
    rw [code_size_program] at hsize
    simp [program]
    omega
  -- The words of the expression stand between the header and the end of the code.
  have hcode : Holds (e.program optimize n).code 1 (e.words optimize false 0 ++
      [Opcode.endCode.word]) :=
    ⟨[Int32.ofNat n], [], by simp [program], rfl⟩
  have hconstants : Holds (e.program optimize n).constants 0 e.constants :=
    ⟨[], [], by simp [program], rfl⟩
  have hslots' : n ≤ (Machine.startMemory config n args).size := by
    simp [Machine.startMemory]
    omega
  have hsimulates : Machine.Simulates (e.program optimize n) config optimize n e :=
    Machine.simulates hslots (Nat.le_of_lt hn) hsize hpool optimize
  have hleads := hsimulates.alone (s := ⟨0, [], Machine.startMemory config n args⟩) hcode.left
    (by rw [code_size_program]; omega) hconstants hslots'
  cases hv : e.evalWithin config.stackSize 0 (Machine.startMemory config n args) with
  | error halt =>
    rw [show ([] : List Float).length = 0 from rfl, hv] at hleads
    obtain ⟨position, hrun⟩ := hleads
    rw [hrun, Except.mapError, Halt.unplaced_fault]
  | ok v =>
    rw [show ([] : List Float).length = 0 from rfl, hv] at hleads
    have hend : Machine.run (e.program optimize n) config
        (1 + (e.words optimize false 0).length) (v.state false []) = .ok ⟨v.value, none⟩ := by
      rw [Machine.run_of_word hcode.right.head]
      rfl
    rw [show Machine.run _ _ _ _ = _ from hleads, hend]
    rfl

end Expr

end Formula
