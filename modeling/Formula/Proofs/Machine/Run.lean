import Formula.Machine
import Formula.Proofs.Expr.Evaluation
import Mathlib

/-!
# Runs of the machine

What one instruction does to a run, for code that stands somewhere in a program. `Leads` relates a
run to a computation: the run goes on at a later place if the computation has a value, and it ends
with a fault if the computation halts. Runs are composed by `Leads.bind`.
-/

namespace Formula

/-- Values that stand in an array from a position on. -/
def Holds {α : Type} (xs : Array α) (i : Nat) (ys : List α) : Prop :=
  ∃ before after, xs.toList = before ++ ys ++ after ∧ before.length = i

namespace Holds

variable {α : Type} {xs : Array α} {i : Nat} {y : α} {ys zs : List α}

/-- The first part of what stands there. -/
lemma left (h : Holds xs i (ys ++ zs)) : Holds xs i ys := by
  obtain ⟨before, after, hxs, hi⟩ := h
  exact ⟨before, zs ++ after, by simp [hxs], hi⟩

/-- The second part of what stands there. -/
lemma right (h : Holds xs i (ys ++ zs)) : Holds xs (i + ys.length) zs := by
  obtain ⟨before, after, hxs, hi⟩ := h
  exact ⟨before ++ ys, after, by simp [hxs], by simp [hi]⟩

/-- The first value that stands there. -/
lemma head (h : Holds xs i (y :: ys)) : xs[i]? = some y := by
  obtain ⟨before, after, hxs, hi⟩ := h
  rw [← Array.getElem?_toList, hxs, ← hi]
  simp

/-- The values after the first one. -/
lemma tail (h : Holds xs i (y :: ys)) : Holds xs (i + 1) ys :=
  right (show Holds xs i ([y] ++ ys) from h)

end Holds

/-- A number below 2³¹ is the index that its word stands for. -/
lemma index?_ofNat {n : Nat} (h : n < 2 ^ 31) : index? (Int32.ofNat n) = some n := by
  have hn : (Int32.ofNat n).toInt = n := Int32.toInt_ofNat_of_lt h
  simp [index?, hn]

/-- The fault of an evaluation that stops, noticed at a position. -/
def Halt.fault (position : Nat) : Halt → Fault
  | .stackOverflow value height => .stackOverflow ⟨position, value, height⟩
  | .divideByZero divisor height => .divideByZero ⟨position, divisor, height⟩

namespace Machine

variable {p : Program} {config : MachineConfig} {i j k : Nat} {s : MachineState}

/-- The instruction at a position decides how a run goes on. -/
lemma run_of_word {op : Opcode} (h : p.code[i]? = some op.word) :
    run p config i s =
      match perform p config i s op with
      | .error fault => .error fault
      | .ok .stop =>
        .ok ⟨s.accumulator, if s.stack.isEmpty then none else some (registers i s)⟩
      | .ok (.next skip s) => run p config (i + skip + 1) s := by
  obtain ⟨hi, hword⟩ := Array.getElem?_eq_some_iff.1 h
  have hop : Opcode.ofWord? p.code[i] = some op := by rw [hword, Opcode.ofWord?_word]
  rw [run, dif_pos hi]
  cases hop' : Opcode.ofWord? p.code[i] with
  | none => cases hop.symm.trans hop'
  | some op' =>
    cases hop.symm.trans hop'
    rfl

/-- A run goes on after an instruction that does not fail. -/
lemma run_next {op : Opcode} {skip : Nat} {s' : MachineState} (h : p.code[i]? = some op.word)
    (hop : perform p config i s op = .ok (.next skip s')) :
    run p config i s = run p config (i + skip + 1) s' := by
  rw [run_of_word h, hop]

/-- A run ends at an instruction that fails. -/
lemma run_fault {op : Opcode} {fault : Fault} (h : p.code[i]? = some op.word)
    (hop : perform p config i s op = .error fault) : run p config i s = .error fault := by
  rw [run_of_word h, hop]

/-- The slot of an operand word that names a slot of the memory. -/
lemma slot_eq {n : Nat} (h : p.code[i + 1]? = some (Int32.ofNat n)) (hn : n < s.memory.size)
    (hword : n < 2 ^ 31) : slot p i s = .ok ⟨n, hn⟩ := by
  simp [slot, operand, h, bind, Except.bind, index?_ofNat hword, hn]

/-- The constant of an operand word that is the number of one. -/
lemma constant_eq {n : Nat} {pattern : UInt64} (h : p.code[i + 1]? = some (Int32.ofNat n))
    (hn : p.constants[n]? = some pattern) (hword : n < 2 ^ 31) :
    constant p i = .ok (Float.ofBits pattern) := by
  simp [constant, operand, h, bind, Except.bind, Program.constant?, index?_ofNat hword, hn]

/-- The distance of a jump that stays inside the code. -/
lemma jumpDistance_eq {distance : Nat} (h : p.code[i + 1]? = some (Int32.ofNat distance))
    (hdistance : i + distance + 1 < p.code.size) (hsize : p.code.size ≤ 2 ^ 31) :
    jumpDistance p i = .ok distance := by
  have hword : distance < 2 ^ 31 := by omega
  simp [jumpDistance, operand, h, bind, Except.bind, index?_ofNat hword, hdistance]

/-- From a state at one position, a run goes on at another one with the state that the value of a
computation gives, or it ends with the fault of the computation. -/
def Leads {α : Type} (p : Program) (config : MachineConfig) (i : Nat) (s : MachineState) (j : Nat)
    (x : Except Halt α) (state : α → MachineState) : Prop :=
  match x with
  | .ok a => run p config i s = run p config j (state a)
  | .error halt => ∃ position, run p config i s = .error (halt.fault position)

namespace Leads

variable {α β : Type} {s' : MachineState} {x : Except Halt α} {f : α → Except Halt β}
  {state : α → MachineState} {state' : β → MachineState}

/-- A run that has reached the end of a computation. -/
lemma refl (a : α) (state : α → MachineState) : Leads p config i (state a) i (.ok a) state :=
  rfl

/-- A run over an instruction without an operand. -/
lemma short {op : Opcode} {a : α} (h : p.code[i]? = some op.word)
    (hop : perform p config i s op = .ok (.next 0 (state a))) :
    Leads p config i s (i + 1) (.ok a) state :=
  run_next h hop

/-- A run that ends at an instruction. -/
lemma fault {op : Opcode} {halt : Halt} (h : p.code[i]? = some op.word)
    (hop : perform p config i s op = .error (halt.fault i)) :
    Leads p config i s j (.error halt) state :=
  ⟨i, run_fault h hop⟩

/-- A run that goes on from another state first. -/
lemma of_run_eq (h : run p config i s = run p config j s') (h' : Leads p config j s' k x state) :
    Leads p config i s k x state := by
  cases x with
  | error halt =>
    obtain ⟨position, hposition⟩ := h'
    exact ⟨position, h.trans hposition⟩
  | ok a => exact h.trans h'

/-- A run that goes on at another position at the end. -/
lemma run_eq (h : Leads p config i s j x state)
    (h' : ∀ a, run p config j (state a) = run p config k (state a)) :
    Leads p config i s k x state := by
  cases x with
  | error halt => exact h
  | ok a => exact Eq.trans h (h' a)

/-- One computation after another. -/
lemma bind (h : Leads p config i s j x state)
    (h' : ∀ a, x = .ok a → Leads p config j (state a) k (f a) state') :
    Leads p config i s k (x >>= f) state' := by
  cases x with
  | error halt => exact h
  | ok a => exact of_run_eq h (h' a rfl)

end Leads

end Machine

end Formula
