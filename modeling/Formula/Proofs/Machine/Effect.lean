import Formula.Program.StackDepth
import Formula.Proofs.Except
import Formula.Proofs.Machine.Containment
import Formula.Proofs.Machine.Run

/-!
# What an instruction does to the stack

One statement about every instruction that is no jump, over arbitrary code and from any state: either
the instruction changes the height of the stack by its effect, or it fails for a reason that can be
told beforehand (`Machine.meets_perform`, and `Machine.run_cases` for the run that goes on after it).
What is said of the height of the stack over a run follows from this and from nothing else about the
instructions.
-/

namespace Formula

/-- A fault at an operand word that selects nothing: a slot that the memory does not have, or a
constant that the pool does not have. -/
inductive Fault.OutOfRange (p : Program) (memorySize : Nat) : Fault → Prop where
  | slot {w position} :
    p.code[position + 1]? = some w →
    w.toInt < 0 ∨ (memorySize : Int) ≤ w.toInt →
    OutOfRange p memorySize (.badSlot w position)
  | constant {w position} :
    p.code[position + 1]? = some w →
    w.toInt < 0 ∨ (p.constants.size : Int) ≤ w.toInt →
    OutOfRange p memorySize (.badConstant w position)

namespace Machine

/-- Why an instruction at a position fails that takes and pushes so many operands. -/
inductive Mishap (p : Program) (config : MachineConfig) (position : Nat) (s : MachineState)
    (op : Opcode) (pops pushes : Nat) : Fault → Prop where
  | underflow :
    s.stack.length < pops →
    Mishap p config position s op pops pushes (.underflow position)
  | stackOverflow {r} :
    config.stackSize < s.stack.length - pops + pushes →
    Mishap p config position s op pops pushes (.stackOverflow r)
  | missingOperand :
    op.hasOperand = true →
    p.code[position + 1]? = none →
    Mishap p config position s op pops pushes (.missingOperand position)
  | outOfRange {f} :
    f.OutOfRange p s.memory.size →
    Mishap p config position s op pops pushes f
  | divideByZero {r} :
    Mishap p config position s op pops pushes (.divideByZero r)

/-- A state that an instruction leads to which takes and pushes so many operands. A push is possible
only below the capacity of the stack. -/
structure Effect (config : MachineConfig) (pops pushes : Nat) (s s' : MachineState) : Prop where
  pops_le : pops ≤ s.stack.length
  height_eq : s'.stack.length = s.stack.length - pops + pushes
  height_le : s'.stack.length ≤ max s.stack.length config.stackSize
  memory_eq : s'.memory.size = s.memory.size

variable {p : Program} {config : MachineConfig} {i : Nat} {s : MachineState} {E : Fault → Prop}

/-- The operand word of an instruction. -/
lemma meets_operand (hmissing : p.code[i + 1]? = none → E (.missingOperand i)) :
    Meets E (fun w => p.code[i + 1]? = some w) (operand p i) := by
  unfold operand
  cases hw : p.code[i + 1]? with
  | none => exact .error (hmissing hw)
  | some w => exact .ok rfl

/-- A word that is no index below a number is negative or not below it. -/
lemma neg_or_le_of_index? {w : Int32} {size : Nat} (h : ∀ n, index? w = some n → size ≤ n) :
    w.toInt < 0 ∨ (size : Int) ≤ w.toInt := by
  cases hn : index? w with
  | none =>
    unfold index? at hn
    split at hn
    · cases hn
    · omega
  | some n =>
    have := h n hn
    have := index?_eq_some_iff.1 hn
    omega

/-- A slot is looked up without the stack. -/
lemma meets_slot (hmissing : p.code[i + 1]? = none → E (.missingOperand i))
    (hrange : ∀ f, Fault.OutOfRange p s.memory.size f → E f) :
    Meets E (fun _ => True) (slot p i s) := by
  refine (meets_operand hmissing).bind fun w hw => ?_
  split
  · next n hn =>
    split
    · exact .ok trivial
    · next hlt =>
      refine .error (hrange _ (.slot hw (neg_or_le_of_index? fun m hm => ?_)))
      cases hn.symm.trans hm
      exact Nat.le_of_not_lt hlt
  · next hnone => exact .error (hrange _ (.slot hw (neg_or_le_of_index? (by simp [hnone]))))

/-- A constant is looked up without the stack. -/
lemma meets_constant (hmissing : p.code[i + 1]? = none → E (.missingOperand i))
    (hrange : ∀ f, Fault.OutOfRange p s.memory.size f → E f) :
    Meets E (fun _ => True) (constant p i) := by
  refine (meets_operand hmissing).bind fun w hw => ?_
  split
  · exact .ok trivial
  · next hnone =>
    refine .error (hrange _ (.constant hw (neg_or_le_of_index? fun n hn => ?_)))
    by_contra hlt
    have hpattern := Array.getElem?_eq_getElem (Nat.lt_of_not_le hlt)
    simp [Program.constant?, hn, hpattern] at hnone

/-- A push raises the height by one, if there is room. -/
lemma meets_push {x : Float}
    (hfull : ∀ r, config.stackSize < s.stack.length + 1 → E (.stackOverflow r)) :
    Meets E (Effect config 0 1 s) (push config i x s) := by
  unfold push
  split
  · next hroom => exact .ok ⟨Nat.zero_le _, rfl, Nat.le_trans hroom (Nat.le_max_right _ _), rfl⟩
  · next hroom => exact .error (hfull _ (by omega))

/-- A pop lowers the height by one, if there is an operand. -/
lemma meets_pop (config : MachineConfig) (hempty : s.stack.length < 1 → E (.underflow i)) :
    Meets E (fun a => Effect config 1 0 s a.2) (pop i s) := by
  unfold pop
  split
  · next x rest hstack =>
    have hlength : s.stack.length = rest.length + 1 := by rw [hstack, List.length_cons]
    refine .ok ⟨?_, ?_, ?_, rfl⟩
    · omega
    · simp [hlength]
    · dsimp only
      omega
  · next hstack => exact .error (hempty (by simp [hstack]))

namespace Effect

variable {pops pushes m n : Nat} {s' s'' : MachineState}

/-- An instruction that leaves the stack and the memory alone. -/
lemma refl (s : MachineState) (x : Float) : Effect config 0 0 s { s with accumulator := x } :=
  ⟨Nat.zero_le _, rfl, Nat.le_max_left _ _, rfl⟩

/-- A change of the accumulator at the end. -/
lemma accumulator (h : Effect config pops pushes s s') (x : Float) :
    Effect config pops pushes s { s' with accumulator := x } :=
  ⟨h.pops_le, h.height_eq, h.height_le, h.memory_eq⟩

/-- Pops after pops. -/
lemma pops_trans (h : Effect config m 0 s s') (h' : Effect config n 0 s' s'') :
    Effect config (m + n) 0 s s'' := by
  have hpops := h.pops_le
  have hpops' := h'.pops_le
  have heq := h.height_eq
  have heq' := h'.height_eq
  refine ⟨?_, ?_, ?_, h'.memory_eq.trans h.memory_eq⟩
  · omega
  · omega
  · omega

end Effect

/-- A pop after others. -/
lemma meets_pop_after {n : Nat} {s' : MachineState} (h : Effect config n 0 s s')
    (hempty : s.stack.length < n + 1 → E (.underflow i)) :
    Meets E (fun a => Effect config (n + 1) 0 s a.2) (pop i s') := by
  have hlength := h.height_eq
  exact (meets_pop config fun hlt => hempty (by omega)).imp fun a ha => h.pops_trans ha

/-- A function takes its arguments from the stack. -/
lemma meets_callFunction (config : MachineConfig) {f : Function}
    (hempty : s.stack.length < f.arity → E (.underflow i)) :
    Meets E (Effect config f.arity 0 s) (callFunction i s f) := by
  have hfewer {n : Nat} (hn : n ≤ f.arity) (hlt : s.stack.length < n) : E (.underflow i) :=
    hempty (Nat.lt_of_lt_of_le hlt hn)
  cases f with
  | one f =>
    refine (meets_pop config hempty).bind fun x hx => ?_
    exact .ok (hx.accumulator _)
  | two f =>
    refine (meets_pop config (hfewer Nat.le.refl.step)).bind fun y hy => ?_
    refine (meets_pop_after hy hempty).bind fun x hx => ?_
    exact .ok (hx.accumulator _)
  | numberFormat =>
    refine (meets_pop config (hfewer Nat.le.refl.step.step)).bind fun places hplaces => ?_
    refine (meets_pop_after hplaces (hfewer Nat.le.refl.step)).bind fun digits hdigits => ?_
    refine (meets_pop_after hdigits hempty).bind fun value hvalue => ?_
    exact .ok (hvalue.accumulator _)

section Instruction

variable {op : Opcode} {pops pushes : Nat}

/-- An instruction that is no jump and no end changes the stack by its effect, or it fails by a
mishap. -/
lemma meets_perform (heffect : op.stackEffect? = some (pops, pushes)) (hjump : op.isJump = false)
    (hend : op ≠ .endCode) :
    Meets (Mishap p config i s op pops pushes)
      (fun o => ∃ s', o = .next (op.size - 1) s' ∧ Effect config pops pushes s s')
      (perform p config i s op) := by
  cases op with
  | push =>
    cases heffect
    refine (meets_push fun _ hr => .stackOverflow hr).bind fun s' hs' => ?_
    exact .ok ⟨s', rfl, hs'⟩
  | pushVar =>
    cases heffect
    refine (meets_slot (.missingOperand rfl) fun _ => .outOfRange).bind fun n _ => ?_
    refine (meets_push (s := { s with accumulator := s.memory[n] })
      fun _ hr => .stackOverflow hr).bind fun s' hs' => ?_
    exact .ok ⟨s', rfl, hs'.pops_le, hs'.height_eq, hs'.height_le, hs'.memory_eq⟩
  | pushConst =>
    cases heffect
    refine (meets_constant (.missingOperand rfl) fun _ => .outOfRange).bind fun x _ => ?_
    refine (meets_push (s := { s with accumulator := x })
      fun _ hr => .stackOverflow hr).bind fun s' hs' => ?_
    exact .ok ⟨s', rfl, hs'.pops_le, hs'.height_eq, hs'.height_le, hs'.memory_eq⟩
  | loadConst =>
    cases heffect
    refine (meets_constant (.missingOperand rfl) fun _ => .outOfRange).bind fun x _ => ?_
    exact .ok ⟨_, rfl, .refl s x⟩
  | loadVar =>
    cases heffect
    refine (meets_slot (.missingOperand rfl) fun _ => .outOfRange).bind fun n _ => ?_
    exact .ok ⟨_, rfl, .refl s _⟩
  | storeVar =>
    cases heffect
    refine (meets_slot (.missingOperand rfl) fun _ => .outOfRange).bind fun n _ => ?_
    exact .ok ⟨_, rfl, Nat.zero_le _, rfl, Nat.le_max_left _ _, Array.size_set n.isLt⟩
  | unary op =>
    cases heffect
    exact .ok ⟨_, rfl, .refl s _⟩
  | binary op =>
    cases heffect
    rw [perform]
    split
    · exact .error .divideByZero
    · refine (meets_pop config .underflow).bind fun a ha => ?_
      exact .ok ⟨_, rfl, ha.accumulator _⟩
  | logical op =>
    cases heffect
    refine (meets_pop config .underflow).bind fun a ha => ?_
    exact .ok ⟨_, rfl, ha.accumulator _⟩
  | jump j => cases hjump
  | call f =>
    cases heffect
    refine (meets_callFunction config .underflow).bind fun s' hs' => ?_
    exact .ok ⟨s', rfl, hs'⟩
  | endCode => exact absurd rfl hend
  | nothing => cases heffect
  | conditional => cases heffect

/-- A run from an instruction that is no jump and no end: the instruction fails by a mishap, or the run
goes on behind it. -/
lemma run_cases (hword : p.code[i]? = some op.word) (heffect : op.stackEffect? = some (pops, pushes))
    (hjump : op.isJump = false) (hend : op ≠ .endCode) :
    (∃ f, Mishap p config i s op pops pushes f ∧ run p config i s = .error f) ∨
      ∃ s', Effect config pops pushes s s' ∧ run p config i s = run p config (i + op.size) s' := by
  have hperform : Meets (Mishap p config i s op pops pushes)
      (fun o => ∃ s', o = .next (op.size - 1) s' ∧ Effect config pops pushes s s')
      (perform p config i s op) := meets_perform heffect hjump hend
  have hskip : i + (op.size - 1) + 1 = i + op.size := by
    have := op.size_pos
    omega
  rw [run_of_word hword]
  cases ho : perform p config i s op with
  | error f =>
    rw [ho] at hperform
    exact .inl ⟨f, hperform, rfl⟩
  | ok o =>
    rw [ho] at hperform
    obtain ⟨s', rfl, hs'⟩ := hperform
    exact .inr ⟨s', hs', by rw [← hskip]⟩

end Instruction

end Machine

end Formula
