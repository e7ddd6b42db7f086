import Formula.Proofs.Machine.Containment
import Formula.Proofs.Machine.Run

/-!
# Runs on greater machines

What a greater stack, a greater memory and further arguments change of a run. Two machines run the
same program in step: `Extends` relates their states, and `Survives` their computations. As long as
the smaller machine has room, both do the same, over untrusted code as well, so only a fault for want
of room can turn into something else (`execute_enlarged`).
-/

namespace Formula

/-- Whether a fault is for want of room: arguments are missing, or the stack or the memory is too
small. A slot past the end of the memory is illegal code, though a greater memory may have it; a
negative one is illegal code everywhere. -/
def Fault.isShortage : Fault → Bool
  | .insufficientArgs _ | .tooManyArgs _ _ | .stackOverflow _ => true
  | .badSlot operand _ => (index? operand).isSome
  | _ => false

namespace Machine

/-- A state of a greater machine in step with one of a smaller machine: it has the same accumulator
and the same stack, and the slots of the smaller memory hold the same. -/
structure Extends (s s' : MachineState) : Prop where
  accumulator_eq : s'.accumulator = s.accumulator
  stack_eq : s'.stack = s.stack
  memory_eq : ∀ i < s.memory.size, s'.memory[i]? = s.memory[i]?

/-- A computation of a greater machine in step with one of a smaller machine: it has a related value
if the other one has a value, and the same fault if the other one has a fault, shortages apart. -/
def Survives {α α' : Type} (R : α → α' → Prop) (x : Except Fault α) (x' : Except Fault α') : Prop :=
  match x with
  | .ok a => ∃ a', x' = .ok a' ∧ R a a'
  | .error f => f.isShortage = true ∨ x' = .error f

namespace Survives

variable {α α' β β' : Type} {R : α → α' → Prop} {Q : β → β' → Prop} {x : Except Fault α}
  {x' : Except Fault α'} {f : α → Except Fault β} {f' : α' → Except Fault β'}

/-- Values that are related. -/
lemma ok {a : α} {a' : α'} (h : R a a') : Survives R (.ok a) (.ok a') :=
  ⟨a', rfl, h⟩

/-- The same fault. -/
lemma error (fault : Fault) : Survives R (.error fault) (.error fault) :=
  .inr rfl

/-- Anything may become of a shortage. -/
lemma shortage {fault : Fault} (h : fault.isShortage = true) : Survives R (.error fault) x' :=
  .inl h

/-- A computation that does not look at the machine. -/
lemma same (x : Except Fault α) : Survives Eq x x := by
  cases x with
  | error fault => exact error fault
  | ok a => exact ok rfl

/-- One computation after another. -/
lemma bind (hx : Survives R x x') (hf : ∀ a a', R a a' → Survives Q (f a) (f' a')) :
    Survives Q (x >>= f) (x' >>= f') := by
  cases x with
  | error fault =>
    rcases hx with h | rfl
    · exact shortage h
    · exact error fault
  | ok a =>
    obtain ⟨a', rfl, h⟩ := hx
    exact hf a a' h

end Survives

variable {p : Program} {config config' : MachineConfig} {s s' : MachineState} {i : Nat}

namespace Extends

/-- The registers are the same. -/
lemma registers_eq (h : Extends s s') (i : Nat) : registers i s' = registers i s := by
  simp [registers, h.accumulator_eq, h.stack_eq]

/-- The same change of the accumulator. -/
lemma accumulator (h : Extends s s') {x x' : Float} (hx : x' = x) :
    Extends { s with accumulator := x } { s' with accumulator := x' } :=
  ⟨hx, h.stack_eq, h.memory_eq⟩

/-- A push has room on the greater machine if it has on the smaller one. -/
lemma push (h : Extends s s') (hstack : config.stackSize ≤ config'.stackSize) (i : Nat)
    {x x' : Float} (hx : x' = x) :
    Survives Extends (Machine.push config i x s) (Machine.push config' i x' s') := by
  subst hx
  unfold Machine.push
  rw [h.stack_eq]
  split
  · next hroom =>
    rw [if_pos (Nat.lt_of_lt_of_le hroom hstack)]
    exact .ok ⟨h.accumulator_eq, rfl, h.memory_eq⟩
  · exact .shortage rfl

/-- A pop takes the same value from both stacks. -/
lemma pop (h : Extends s s') (i : Nat) :
    Survives (fun a a' => a'.1 = a.1 ∧ Extends a.2 a'.2) (Machine.pop i s) (Machine.pop i s') := by
  unfold Machine.pop
  rw [h.stack_eq]
  split
  · exact .ok ⟨rfl, h.accumulator_eq, rfl, h.memory_eq⟩
  · exact .error _

/-- A slot of the smaller memory is one of the greater memory. -/
lemma slot (h : Extends s s') (p : Program) (i : Nat) :
    Survives (fun n n' => n'.val = n.val) (Machine.slot p i s) (Machine.slot p i s') := by
  refine (Survives.same (operand p i)).bind ?_
  rintro w _ rfl
  cases hn : index? w with
  | none => exact .error _
  | some n =>
    by_cases hlt : n < s.memory.size
    · have hlt' : n < s'.memory.size := by
        have hslot := h.memory_eq n hlt
        rw [Array.getElem?_eq_getElem hlt] at hslot
        exact (Array.getElem?_eq_some_iff.1 hslot).1
      simp only [hlt, hlt', dif_pos]
      exact .ok rfl
    · simp only [hlt, dif_neg, not_false_eq_true]
      exact .shortage (Option.isSome_of_eq_some hn)

/-- A slot holds the same in both memories. -/
lemma load (h : Extends s s') {n : Fin s.memory.size} {n' : Fin s'.memory.size}
    (hn : n'.val = n.val) : s'.memory[n'] = s.memory[n] := by
  have hslot := h.memory_eq n n.isLt
  rw [← hn, Array.getElem?_eq_getElem n'.isLt] at hslot
  simp only [hn, Array.getElem?_eq_getElem n.isLt, Option.some.injEq] at hslot
  simpa [hn] using hslot

/-- The accumulator is stored in the same slot of both memories. -/
lemma store (h : Extends s s') {n : Fin s.memory.size} {n' : Fin s'.memory.size}
    (hn : n'.val = n.val) :
    Extends { s with memory := s.memory.set n s.accumulator n.isLt }
      { s' with memory := s'.memory.set n' s'.accumulator n'.isLt } where
  accumulator_eq := h.accumulator_eq
  stack_eq := h.stack_eq
  memory_eq j hj := by
    rw [Array.size_set] at hj
    simp only [Array.getElem?_set, hn, h.accumulator_eq]
    split
    · rfl
    · exact h.memory_eq j hj

/-- A function takes the same arguments from both stacks. -/
lemma callFunction (h : Extends s s') (i : Nat) (f : Function) :
    Survives Extends (Machine.callFunction i s f) (Machine.callFunction i s' f) := by
  cases f with
  | one f =>
    refine (h.pop i).bind ?_
    rintro ⟨x, t⟩ ⟨_, t'⟩ ⟨rfl, ht⟩
    exact .ok (ht.accumulator rfl)
  | two f =>
    refine (h.pop i).bind ?_
    rintro ⟨y, t⟩ ⟨_, t'⟩ ⟨rfl, ht⟩
    refine (ht.pop i).bind ?_
    rintro ⟨x, u⟩ ⟨_, u'⟩ ⟨rfl, hu⟩
    exact .ok (hu.accumulator rfl)
  | numberFormat =>
    refine (h.pop i).bind ?_
    rintro ⟨places, t⟩ ⟨_, t'⟩ ⟨rfl, ht⟩
    refine (ht.pop i).bind ?_
    rintro ⟨intDigits, u⟩ ⟨_, u'⟩ ⟨rfl, hu⟩
    refine (hu.pop i).bind ?_
    rintro ⟨value, v⟩ ⟨_, v'⟩ ⟨rfl, hv⟩
    exact .ok (hv.accumulator rfl)

end Extends

/-- Both runs go on at the same place with states in step, or both stop. -/
def Outcome.Extends : Outcome → Outcome → Prop
  | .next skip s, .next skip' s' => skip' = skip ∧ Machine.Extends s s'
  | .stop, .stop => True
  | _, _ => False

/-- An instruction keeps both machines in step. -/
lemma Extends.perform (h : Extends s s') (hstack : config.stackSize ≤ config'.stackSize)
    (p : Program) (i : Nat) (op : Opcode) :
    Survives Outcome.Extends (Machine.perform p config i s op)
      (Machine.perform p config' i s' op) := by
  cases op with
  | push =>
    refine (h.push hstack i h.accumulator_eq).bind ?_
    intro t t' ht
    exact .ok ⟨rfl, ht⟩
  | pushVar =>
    refine (h.slot p i).bind ?_
    intro n n' hn
    have hvalue := h.load hn
    refine ((h.accumulator hvalue).push hstack i hvalue).bind ?_
    intro t t' ht
    exact .ok ⟨rfl, ht⟩
  | pushConst =>
    refine (Survives.same (constant p i)).bind ?_
    rintro x _ rfl
    refine ((h.accumulator rfl).push hstack i rfl).bind ?_
    intro t t' ht
    exact .ok ⟨rfl, ht⟩
  | loadConst =>
    refine (Survives.same (constant p i)).bind ?_
    rintro x _ rfl
    exact .ok ⟨rfl, h.accumulator rfl⟩
  | loadVar =>
    refine (h.slot p i).bind ?_
    intro n n' hn
    exact .ok ⟨rfl, h.accumulator (h.load hn)⟩
  | storeVar =>
    refine (h.slot p i).bind ?_
    intro n n' hn
    exact .ok ⟨rfl, h.store hn⟩
  | unary op => exact .ok ⟨rfl, h.accumulator (by rw [h.accumulator_eq])⟩
  | binary op =>
    rw [Machine.perform, Machine.perform, h.accumulator_eq, h.registers_eq]
    split
    · exact .error _
    · refine (h.pop i).bind ?_
      rintro ⟨x, t⟩ ⟨_, t'⟩ ⟨rfl, ht⟩
      exact .ok ⟨rfl, ht.accumulator (by rw [ht.accumulator_eq])⟩
  | logical op =>
    refine (h.pop i).bind ?_
    rintro ⟨x, t⟩ ⟨_, t'⟩ ⟨rfl, ht⟩
    exact .ok ⟨rfl, ht.accumulator (by rw [ht.accumulator_eq])⟩
  | jump j =>
    rw [Machine.perform, Machine.perform, h.accumulator_eq]
    split
    · refine (Survives.same (jumpDistance p i)).bind ?_
      rintro distance _ rfl
      exact .ok ⟨rfl, h⟩
    · exact .ok ⟨rfl, h⟩
  | call f =>
    refine (h.callFunction i f).bind ?_
    intro t t' ht
    exact .ok ⟨rfl, ht⟩
  | endCode => exact .ok trivial
  | nothing => exact .error _
  | conditional => exact .error _

/-- Both machines run in step to the end. The induction is on the words that are left. -/
lemma Extends.run (h : Extends s s') (hstack : config.stackSize ≤ config'.stackSize) (p : Program)
    (i : Nat) : Survives Eq (Machine.run p config i s) (Machine.run p config' i s') := by
  induction hleft : p.code.size - i using Nat.strongRecOn generalizing i s s' with
  | ind left ih =>
    rw [Machine.run, Machine.run]
    by_cases hi : i < p.code.size
    · rw [dif_pos hi, dif_pos hi]
      cases Opcode.ofWord? p.code[i] with
      | none => exact .error _
      | some op =>
        simp only
        have hop := h.perform hstack p i op
        cases hperform : Machine.perform p config i s op with
        | error fault =>
          rw [hperform] at hop
          rcases hop with hshort | hop
          · exact .shortage hshort
          · rw [hop]
            exact .error fault
        | ok outcome =>
          rw [hperform] at hop
          obtain ⟨outcome', hop', hextends⟩ := hop
          rw [hop']
          cases outcome with
          | stop =>
            cases outcome' with
            | stop =>
              simp only [h.accumulator_eq, h.stack_eq, h.registers_eq]
              exact .ok rfl
            | next => exact hextends.elim
          | next skip t =>
            cases outcome' with
            | stop => exact hextends.elim
            | next skip' t' =>
              obtain ⟨rfl, ht⟩ := hextends
              exact ih _ (by omega) ht _ rfl
    · rw [dif_neg hi, dif_neg hi]
      exact .error _

/-- At the start the greater memory holds what the smaller one holds, and further zeros. -/
lemma extends_start {declared : Nat} {args : List Float} (hargs : declared ≤ args.length)
    (hdeclared : declared ≤ config.memorySize) (hmemory : config.memorySize ≤ config'.memorySize)
    (extra : List Float) :
    Extends ⟨0, [], startMemory config declared args⟩
      ⟨0, [], startMemory config' declared (args ++ extra)⟩ where
  accumulator_eq := rfl
  stack_eq := rfl
  memory_eq j hj := by
    have hzeros : config'.memorySize - declared =
        (config.memorySize - declared) + (config'.memorySize - config.memorySize) := by omega
    have htake : (args ++ extra).take declared = args.take declared :=
      List.take_append_of_le_length hargs
    simp only [startMemory, List.size_toArray] at hj
    simp only [startMemory, htake, hzeros, ← List.replicate_append_replicate,
      ← List.append_assoc, List.getElem?_toArray]
    exact List.getElem?_append_left hj

end Machine

/-- What a program does on a machine and arguments, it does on a greater machine with further
arguments: it has the same value and the same leak, or the same division by zero. Only a fault for
want of room can turn into something else. -/
theorem Program.execute_enlarged (p : Program) {config config' : MachineConfig}
    (hstack : config.stackSize ≤ config'.stackSize)
    (hmemory : config.memorySize ≤ config'.memorySize) (args extra : List Float) :
    (∀ x, p.execute config args = .ok x → p.execute config' (args ++ extra) = .ok x) ∧
      (∀ r, p.execute config args = .error (.divideByZero r) →
        p.execute config' (args ++ extra) = .error (.divideByZero r)) ∧
      (p.execute config' (args ++ extra) ≠ p.execute config args →
        ∃ f, p.execute config args = .error f ∧ f.isShortage = true) := by
  have hsurvives : Machine.Survives Eq (p.execute config args)
      (p.execute config' (args ++ extra)) := by
    unfold Program.execute
    split
    · exact .error _
    cases p.paramCount? with
    | none => exact .error _
    | some declared =>
      simp only
      split
      · exact .shortage rfl
      next hargs =>
      split
      · exact .shortage rfl
      next hdeclared =>
      rw [if_neg (by rw [List.length_append]; omega), if_neg (by omega)]
      have hstart := Machine.extends_start (Nat.le_of_not_lt hargs) (Nat.le_of_not_lt hdeclared)
        hmemory extra
      exact hstart.run hstack p 1
  refine ⟨?_, ?_, ?_⟩
  · intro x hx
    rw [hx] at hsurvives
    obtain ⟨_, hx', rfl⟩ := hsurvives
    exact hx'
  · intro r hr
    rw [hr] at hsurvives
    exact hsurvives.resolve_left nofun
  · intro hne
    cases hx : p.execute config args with
    | ok x =>
      rw [hx] at hsurvives hne
      obtain ⟨_, hx', rfl⟩ := hsurvives
      exact absurd hx' hne
    | error f =>
      rw [hx] at hsurvives hne
      exact ⟨f, rfl, hsurvives.resolve_right hne⟩

/-- A program that jumps into the middle of an instruction, and leaves an operand on the stack, does
so on a greater machine with a further argument as well. -/
theorem Program.execute_enlarged_leak :
    (∀ x, Program.execute ⟨#[1, 28, 2, 5, 1, 5, 0, 54], #[]⟩ ⟨1, 1⟩ [x] =
      .ok ⟨x, some ⟨7, x, 1⟩⟩) ∧
    ∀ x y, Program.execute ⟨#[1, 28, 2, 5, 1, 5, 0, 54], #[]⟩ ⟨9, 9⟩ [x, y] =
      .ok ⟨x, some ⟨7, x, 1⟩⟩ := by
  have hsmall (x : Float) : Program.execute ⟨#[1, 28, 2, 5, 1, 5, 0, 54], #[]⟩ ⟨1, 1⟩ [x] =
      .ok ⟨x, some ⟨7, x, 1⟩⟩ := by
    let p : Program := ⟨#[1, 28, 2, 5, 1, 5, 0, 54], #[]⟩
    have hjump : Machine.perform p ⟨1, 1⟩ 1 ⟨0, [], #[x]⟩ (.jump .always) =
        .ok (.next 2 ⟨0, [], #[x]⟩) := rfl
    have hpush : Machine.perform p ⟨1, 1⟩ 4 ⟨0, [], #[x]⟩ .push = .ok (.next 0 ⟨0, [0], #[x]⟩) := rfl
    have hload : Machine.perform p ⟨1, 1⟩ 5 ⟨0, [0], #[x]⟩ .loadVar =
        .ok (.next 1 ⟨x, [0], #[x]⟩) := rfl
    have h₁ := Machine.run_next (show p.code[1]? = some (Opcode.jump .always).word from rfl) hjump
    have h₄ := Machine.run_next (show p.code[4]? = some Opcode.push.word from rfl) hpush
    have h₅ := Machine.run_next (show p.code[5]? = some Opcode.loadVar.word from rfl) hload
    have hend : Machine.run p ⟨1, 1⟩ 7 ⟨x, [0], #[x]⟩ = .ok ⟨x, some ⟨7, x, 1⟩⟩ :=
      Machine.run_of_word (show p.code[7]? = some Opcode.endCode.word from rfl)
    exact h₁.trans (h₄.trans (h₅.trans hend))
  refine ⟨hsmall, fun x y => ?_⟩
  exact (Program.execute_enlarged _ (by decide) (by decide) [x] [y]).1 _ (hsmall x)

end Formula
