import Formula.Proofs.Machine.Effect
import Formula.Proofs.Program.StackDepth

/-!
# Runs of straight-line code

On code without jumps the depth that is found for the stack is exact, whatever the words are
(`Program.execute_agrees`). A run goes through the instructions that the walk decodes, and the height
of its stack is the one that the walk counts; so the run needs the depth that is found and no more, and
where no depth is found it does not end with an empty stack. A machine that has room fails for two
reasons only: a divisor of zero, and a slot or constant that is not there.
-/

namespace Formula

/-- A program whose walk decodes no jump. -/
def Program.IsStraight (p : Program) : Prop :=
  ∀ i ∈ p.walk.instructions, i.op.isJump = false

instance (p : Program) : Decidable p.IsStraight :=
  inferInstanceAs (Decidable (∀ i ∈ p.walk.instructions, i.op.isJump = false))

namespace Machine

/-- What the depth that was found for the stack of a program says of the result of a run. -/
structure Agrees (p : Program) (config : MachineConfig) (depth : Except StackError Nat)
    (result : Except Fault Execution) : Prop where
  roomy : ∀ d, depth = .ok d → d ≤ config.stackSize →
    Meets (fun f => f.kind = .divideByZero ∨ f.OutOfRange p config.memorySize)
      (fun e => e.leak = none) result
  cramped : ∀ d, depth = .ok d → config.stackSize < d → ∀ e, result ≠ .ok e
  disordered : ∀ err, depth = .error err → ∀ e, result = .ok e → e.leak ≠ none

namespace Agrees

variable {p : Program} {config : MachineConfig} {depth : Except StackError Nat}
  {result : Except Fault Execution}

/-- A run that fails, where no depth is found that the machine has room for. -/
lemma of_error {f : Fault} (h : ∀ d, depth = .ok d → config.stackSize < d) :
    Agrees p config depth (.error f) where
  roomy d hd hle := absurd hle (Nat.not_le.2 (h d hd))
  cramped _ _ _ := nofun
  disordered _ _ := nofun

/-- A run that fails, where no depth is found. -/
lemma failed (err : StackError) (f : Fault) : Agrees p config (.error err) (.error f) :=
  of_error fun d hd => by cases hd

/-- A run that fails for a reason that has nothing to do with the stack. -/
lemma of_fault {f : Fault} (h : f.kind = .divideByZero ∨ f.OutOfRange p config.memorySize) :
    Agrees p config depth (.error f) where
  roomy _ _ _ := h
  cramped _ _ _ := nofun
  disordered _ _ := nofun

/-- A run that stops with an empty stack. -/
lemma stopped {d : Nat} (hd : d ≤ config.stackSize) (x : Float) :
    Agrees p config (.ok d) (.ok ⟨x, none⟩) where
  roomy _ _ _ := .ok rfl
  cramped _ h hlt := by
    cases h
    exact absurd hlt (Nat.not_lt.2 hd)
  disordered _ := nofun

/-- A run that leaves operands on the stack. -/
lemma leaked (err : StackError) (x : Float) (r : Registers) :
    Agrees p config (.error err) (.ok ⟨x, some r⟩) where
  roomy _ := nofun
  cramped _ := nofun
  disordered _ _ e he := by
    cases he
    exact Option.some_ne_none r

end Agrees

variable {p : Program} {config : MachineConfig} {position : Nat} {s : MachineState} {op : Opcode}

/-- A run past the end of the code fails. -/
lemma run_of_size_le (h : p.code.size ≤ position) :
    run p config position s = .error (.pastEnd position) := by
  rw [run, dif_neg (Nat.not_lt.2 h)]

/-- A run fails at a word that stands for no instruction. -/
lemma run_of_badWord {w : Int32} (hw : p.code[position]? = some w) (hop : Opcode.ofWord? w = none) :
    run p config position s = .error (.badWord w) := by
  obtain ⟨hlt, rfl⟩ := Array.getElem?_eq_some_iff.1 hw
  rw [run, dif_pos hlt]
  split
  · rfl
  · next hsome => cases hop.symm.trans hsome

/-- A run fails at an instruction that no program may hold. -/
lemma run_of_stackEffect?_eq_none (hword : p.code[position]? = some op.word)
    (heffect : op.stackEffect? = none) : run p config position s = .error (.badWord op.word) := by
  rcases Opcode.stackEffect?_eq_none_iff.1 heffect with rfl | rfl
  · exact run_fault hword rfl
  · exact run_fault hword rfl

/-- A run fails if the code ends before the operand word of an instruction. A jump that is not taken
does not miss the word, but there is nothing behind it. -/
lemma exists_run_eq_error_of_missing (config : MachineConfig) (s : MachineState)
    (hword : p.code[position]? = some op.word)
    (hoperand : op.hasOperand = true) (hmissing : p.code.size ≤ position + 1) :
    ∃ f, run p config position s = .error f := by
  have hnone : p.code[position + 1]? = none := Array.getElem?_eq_none hmissing
  have hfault : operand p position = .error (.missingOperand position) := by
    rw [operand, hnone]
  cases op with
  | pushVar | loadVar | storeVar =>
    exact ⟨.missingOperand position, run_fault hword (by rw [perform, slot, hfault]; rfl)⟩
  | pushConst | loadConst =>
    exact ⟨.missingOperand position, run_fault hword (by rw [perform, constant, hfault]; rfl)⟩
  | jump j =>
    by_cases htaken : j.isTaken s.accumulator = true
    · refine ⟨.missingOperand position, run_fault hword ?_⟩
      rw [perform, if_pos htaken, jumpDistance, hfault]
      rfl
    · refine ⟨.pastEnd (position + 2), ?_⟩
      rw [run_next hword (if_neg htaken), run_of_size_le (by omega)]
  | _ => cases hoperand

/-- A run agrees with the walk at an instruction that is no jump and no end, if runs from behind it
do. -/
lemma agrees_step {operand : Option Int32} {rest : Walk} {deepest : Nat}
    (hword : p.code[position]? = some op.word) (hjump : op.isJump = false) (hend : op ≠ .endCode)
    (hoperand : op.hasOperand = true → p.code[position + 1]? ≠ none)
    (hs : s.stack.length ≤ deepest) (hdeepest : deepest ≤ config.stackSize)
    (hmemory : s.memory.size = config.memorySize)
    (hrest : ∀ (s' : MachineState) (deepest' : Nat), s'.stack.length ≤ deepest' →
      deepest' ≤ config.stackSize → s'.memory.size = config.memorySize →
      Agrees p config (rest.depth s'.stack.length deepest')
        (run p config (position + op.size) s')) :
    Agrees p config ((Walk.step ⟨position, op, operand⟩ rest).depth s.stack.length deepest)
      (run p config position s) := by
  rw [Walk.depth]
  cases heffect : op.stackEffect? with
  | none =>
    rw [run_of_stackEffect?_eq_none hword heffect]
    exact .failed _ _
  | some effect =>
    obtain ⟨pops, pushes⟩ := effect
    dsimp only
    -- The height that the walk counts next, and the reasons to fail before.
    rcases run_cases hword heffect hjump hend with ⟨f, hf, hrun⟩ | ⟨s', hs', hrun⟩
    · rw [hrun]
      split
      · exact .failed _ _
      · next hge =>
        cases hf with
        | underflow hlt => exact absurd hlt hge
        | stackOverflow hfull =>
          refine .of_error fun d hd => ?_
          obtain ⟨peak, -, rfl⟩ := (rest.depth_eq_ok_iff (Nat.le_max_right _ _)).1 hd
          omega
        | missingOperand hhas hnone => exact absurd hnone (hoperand hhas)
        | outOfRange hrange => exact .of_fault (.inr (hmemory ▸ hrange))
        | divideByZero => exact .of_fault (.inl rfl)
    · rw [hrun, if_neg (Nat.not_lt.2 hs'.pops_le), ← hs'.height_eq]
      have hle := hs'.height_le
      exact hrest s' _ (Nat.le_max_right _ _) (by omega) (hs'.memory_eq.trans hmemory)

/-- A run agrees with the walk over the words that are left. The induction is on the walk, from any
state within the sizes of the machine. -/
lemma agrees_run {words : List Int32} {deepest : Nat}
    (hwords : p.code.toList.drop position = words)
    (hstraight : ∀ i ∈ (Walk.ofWords position words).instructions, i.op.isJump = false)
    (hs : s.stack.length ≤ deepest) (hdeepest : deepest ≤ config.stackSize)
    (hmemory : s.memory.size = config.memorySize) :
    Agrees p config ((Walk.ofWords position words).depth s.stack.length deepest)
      (run p config position s) := by
  fun_induction Walk.ofWords position words generalizing s deepest with
  | case1 position =>
    rw [run_of_size_le (size_le_of_drop_toList hwords)]
    exact .failed _ _
  | case2 position w rest hop =>
    rw [run_of_badWord (drop_toList_eq_cons hwords).1 hop]
    exact .failed _ _
  | case3 position w op hop hoperand =>
    obtain ⟨hw, hnil⟩ := drop_toList_eq_cons hwords
    rw [← Opcode.word_of_ofWord? hop] at hw
    obtain ⟨f, hf⟩ := exists_run_eq_error_of_missing config s hw hoperand
      (size_le_of_drop_toList hnil)
    rw [hf]
    exact .failed _ _
  | case4 position w op hop hoperand n rest ih =>
    obtain ⟨hw, htail⟩ := drop_toList_eq_cons hwords
    obtain ⟨hn, hrest⟩ := drop_toList_eq_cons htail
    rw [← Opcode.word_of_ofWord? hop] at hw
    obtain ⟨hjump, hstraight⟩ := List.forall_mem_cons.1 hstraight
    refine agrees_step hw hjump (Opcode.ne_endCode_of_hasOperand hoperand)
      (fun _ => by simp [hn]) hs hdeepest hmemory ?_
    rw [Opcode.size, if_pos hoperand]
    exact fun s' deepest' => ih hrest hstraight
  | case5 position w rest hop hoperand =>
    have hw := (drop_toList_eq_cons hwords).1
    rw [← Opcode.word_of_ofWord? hop] at hw
    rw [run_of_word hw, perform, Walk.depth]
    cases hstack : s.stack with
    | nil => exact .stopped hdeepest _
    | cons x rest => exact .leaked _ _ _
  | case6 position w rest op hop hoperand hend ih =>
    obtain ⟨hw, hrest⟩ := drop_toList_eq_cons hwords
    rw [← Opcode.word_of_ofWord? hop] at hw
    obtain ⟨hjump, hstraight⟩ := List.forall_mem_cons.1 hstraight
    refine agrees_step hw hjump hend (fun hhas => absurd hhas hoperand) hs hdeepest hmemory ?_
    rw [Opcode.size, if_neg hoperand]
    exact fun s' deepest' => ih hrest hstraight

end Machine

/-- On a program without jumps the depth of the stack is exact, whatever its words are, if the machine
is given the declared arguments and has memory for them. With room for the depth it stops with an
empty stack, or it fails at a divisor of zero or at a slot or constant that is not there; with less
room it fails; and if there is no depth, then it fails or leaves operands on the stack. -/
theorem Program.execute_agrees {p : Program} (config : MachineConfig) (args : List Float)
    {declared : Nat} (hheader : p.paramCount? = some declared) (hstraight : p.IsStraight)
    (hargs : declared ≤ args.length) (hmemory : declared ≤ config.memorySize) :
    Machine.Agrees p config p.stackDepth (p.execute config args) := by
  have hcode : p.code.isEmpty = false := by
    rw [Bool.eq_false_iff, ne_eq, Array.isEmpty_iff]
    intro hnil
    simp [Program.paramCount?, hnil] at hheader
  rw [p.execute_eq_start config args, stackDepth, hcode]
  cases hempty : p.isEmpty with
  | true =>
    -- There is nothing behind the header, and the walk finds no end.
    have hsize : p.code.size < 2 := by simpa [isEmpty] using hempty
    have hwalk : p.walk = .stuck 1 .noEnd := by
      have hnil : p.code.toList.drop 1 = [] := List.drop_eq_nil_of_le (Nat.le_of_lt_succ hsize)
      rw [walk, hnil, Walk.ofWords]
    rw [start, hempty, hwalk]
    exact .failed _ _
  | false =>
    rw [Program.start_eq_ok_iff.2 ⟨hempty, declared, hheader, hargs, hmemory, rfl⟩]
    exact Machine.agrees_run (s := ⟨0, [], Machine.startMemory config declared args⟩) rfl hstraight
      (Nat.le_refl 0) (Nat.zero_le _) (Machine.size_startMemory hargs hmemory)

/-- A value that is added to itself takes one place on the stack. -/
theorem Program.execute_agrees_double :
    Program.IsStraight ⟨#[1, 2, 0, 5, 0, 8, 54], #[]⟩ ∧
      Program.stackDepth ⟨#[1, 2, 0, 5, 0, 8, 54], #[]⟩ = .ok 1 ∧
      (∀ x e, Program.execute ⟨#[1, 2, 0, 5, 0, 8, 54], #[]⟩ ⟨0, 1⟩ [x] ≠ .ok e) ∧
      ∀ x e, Program.execute ⟨#[1, 2, 0, 5, 0, 8, 54], #[]⟩ ⟨1, 1⟩ [x] = .ok e → e.leak = none := by
  have hheader : Program.paramCount? ⟨#[1, 2, 0, 5, 0, 8, 54], #[]⟩ = some 1 := by decide
  have hstraight : Program.IsStraight ⟨#[1, 2, 0, 5, 0, 8, 54], #[]⟩ := by decide +kernel
  have hdepth : Program.stackDepth ⟨#[1, 2, 0, 5, 0, 8, 54], #[]⟩ = .ok 1 :=
    eq_ok_of_toOption (by decide +kernel)
  refine ⟨hstraight, hdepth, fun x => ?_, fun x e he => ?_⟩
  · have hagrees := Program.execute_agrees ⟨0, 1⟩ [x] hheader hstraight (Nat.le_refl 1) (Nat.le_refl 1)
    exact hagrees.cramped 1 hdepth Nat.zero_lt_one
  · have hagrees := Program.execute_agrees ⟨1, 1⟩ [x] hheader hstraight (Nat.le_refl 1) (Nat.le_refl 1)
    have hroomy := hagrees.roomy 1 hdepth (Nat.le_refl 1)
    rwa [he] at hroomy

end Formula
