import Formula.Machine
import Formula.Proofs.Word

/-!
# Operators on integers

The remainder, the bitwise operators and the shifts see their operands as integers of 32 bits, and
so are their results, whatever doubles the operands are (`Machine.perform_integers`). The only pairs
of operands that an operator fails for are those whose second one is a divisor of zero.
-/

namespace Formula.Machine

/-- An operator on the top of the stack and the accumulator computes an integer of 32 bits. -/
def Computes (op : BinaryOp) (a b : Float) (n : ℤ) : Prop :=
  -2 ^ 31 ≤ n ∧ n ≤ 2 ^ 31 - 1 ∧ ∃ y, IsInteger y n ∧ ∀ p config position rest memory,
    perform p config position ⟨b, a :: rest, memory⟩ (.binary op) = .ok (.next 0 ⟨y, rest, memory⟩)

variable {op : BinaryOp} {a b : Float}

/-- The integer of a word is one of 32 bits. -/
lemma toInt_le (w : Int32) : -2 ^ 31 ≤ w.toInt ∧ w.toInt ≤ 2 ^ 31 - 1 :=
  ⟨w.le_toInt, Int.le_sub_one_of_lt w.toInt_lt⟩

/-- An operator on words computes the integer of the word, unless it divides by zero. -/
lemma computes_onWords {f : Int32 → Int32 → Int32} (happly : op.apply a b = onWords f a b)
    (hdivides : op.dividesByZero b = false) :
    Computes op a b (f (Word.ofFloat a) (Word.ofFloat b)).toInt := by
  obtain ⟨hlower, hupper⟩ := toInt_le (f (Word.ofFloat a) (Word.ofFloat b))
  refine ⟨hlower, hupper, onWords f a b, Word.isInteger_toFloat _, ?_⟩
  intro p config position rest memory
  rw [← happly]
  simp [perform, hdivides, pop, bind, Except.bind, pure, Except.pure]

/-- The bits of a word are those of the integer that it stands for. -/
lemma toBitVec_ofFloat (x : Float) : (Word.ofFloat x).toBitVec = BitVec.ofInt 32 (saturate x) := by
  rw [← Word.toInt_ofFloat, ← Int32.toInt_toBitVec, BitVec.ofInt_toInt]

/-- An operator on words that acts on their bits computes the integer of the resulting bits. -/
lemma computes_onBits {f : Int32 → Int32 → Int32} {g : BitVec 32 → BitVec 32 → BitVec 32}
    (happly : op.apply a b = onWords f a b) (hdivides : op.dividesByZero b = false)
    (hbits : ∀ v w : Int32, (f v w).toBitVec = g v.toBitVec w.toBitVec) :
    Computes op a b (g (BitVec.ofInt 32 (saturate a)) (BitVec.ofInt 32 (saturate b))).toInt := by
  rw [← toBitVec_ofFloat, ← toBitVec_ofFloat, ← hbits, Int32.toInt_toBitVec]
  exact computes_onWords happly hdivides

/-- The divisor of a remainder is zero if its integer is. -/
lemma dividesByZero_modulo (b : Float) :
    BinaryOp.dividesByZero .modulo b = decide (saturate b = 0) := by
  have hzero : Word.ofFloat b = 0 ↔ saturate b = 0 := by
    rw [← Word.toInt_ofFloat, ← Int32.toInt_inj]
    rfl
  rw [BinaryOp.dividesByZero, ← decide_eq_decide.2 hzero]
  rfl

/-- On all doubles, the remainder fails exactly for a divisor of zero and is else the one of the
integers of the operands. The bitwise operators act on the bits of the integers; a shift takes the
places modulo 32, and a shift to the left is wrapped around. -/
theorem perform_integers (a b : Float) :
    (if saturate b = 0 then
      ∀ p config position rest memory,
        perform p config position ⟨b, a :: rest, memory⟩ (.binary .modulo) =
          .error (.divideByZero ⟨position, b, rest.length + 1⟩)
    else Computes .modulo a b (saturate a - saturate b * truncate (saturate a / saturate b : ℚ))) ∧
    Computes .bitAnd a b (BitVec.ofInt 32 (saturate a) &&& BitVec.ofInt 32 (saturate b)).toInt ∧
    Computes .bitOr a b (BitVec.ofInt 32 (saturate a) ||| BitVec.ofInt 32 (saturate b)).toInt ∧
    Computes .bitXor a b (BitVec.ofInt 32 (saturate a) ^^^ BitVec.ofInt 32 (saturate b)).toInt ∧
    Computes .shiftLeft a b ((saturate a * 2 ^ (saturate b % 32).toNat).bmod (2 ^ 32)) ∧
    Computes .shiftRight a b ⌊(saturate a / 2 ^ (saturate b % 32).toNat : ℚ)⌋ ∧
    (-2 ^ 31 ≤ -saturate b - 1 ∧ -saturate b - 1 ≤ 2 ^ 31 - 1 ∧
      ∃ y, IsInteger y (-saturate b - 1) ∧ ∀ p config position stack memory,
        perform p config position ⟨b, stack, memory⟩ (.unary .complement) =
          .ok (.next 0 ⟨y, stack, memory⟩)) := by
  refine ⟨?_, computes_onBits rfl rfl Int32.toBitVec_and, computes_onBits rfl rfl Int32.toBitVec_or,
    computes_onBits rfl rfl Int32.toBitVec_xor, ?shiftLeft, ?shiftRight, ?complement⟩
  · split
    case isTrue hzero =>
      intro p config position rest memory
      simp [perform, dividesByZero_modulo, hzero, registers]
    case isFalse hzero =>
      have hdivides : BinaryOp.dividesByZero .modulo b = false := by
        rw [dividesByZero_modulo, decide_eq_false hzero]
      rw [← Word.toInt_ofFloat, ← Word.toInt_ofFloat, ← Word.toInt_mod]
      exact computes_onWords rfl hdivides
  case shiftLeft =>
    rw [← Word.toInt_ofFloat, ← Word.toInt_ofFloat, ← Word.toInt_shiftLeft]
    exact computes_onWords rfl rfl
  case shiftRight =>
    rw [← Word.toInt_ofFloat, ← Word.toInt_ofFloat, ← Word.toInt_shiftRight]
    exact computes_onWords rfl rfl
  case complement =>
    rw [← Word.toInt_ofFloat, ← Word.toInt_complement]
    obtain ⟨hlower, hupper⟩ := toInt_le (~~~Word.ofFloat b)
    exact ⟨hlower, hupper, _, Word.isInteger_toFloat _, fun _ _ _ _ _ => rfl⟩

end Formula.Machine
