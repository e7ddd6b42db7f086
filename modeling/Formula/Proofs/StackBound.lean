import Formula.Proofs.Correctness
import Formula.Proofs.LongJump
import Formula.Proofs.Machine.Height

/-!
# A bound on the stack of compiled code

The limit on the nesting of a body bounds the depth of its tree, however long the body is. An
expression costs at least two levels of nesting, one of its own and one of its operands, and between
two of them at most nine operands are pending: one at each of the seven levels of operators, and the
two arguments of a call that stand before its third one. Chains cost no nesting, and no stack either,
since they group from the left.

`Derives.depth_le` is the induction. It counts half of the nine places for each level of nesting, and
what a phrase may use beyond that depends on how far it is from the next level of nesting.

The bound holds for every text. Runs keep to it as long as jumps lead where they should
(`compiled_stackDepth_le`), but not in code with more words than a jump can tell
(`compiled_stackDepth_exceeded`).
-/

namespace Formula

/-- Twice the number of places that a phrase may use in addition to those of its levels of nesting,
and nine more. A level of operators adds one place, and an atom, which is in an operand without being
a level of nesting, adds half of the nine. -/
def Category.allowance : Category → Nat
  | .expression => 5
  | .chain _ c => c.allowance + 2
  | .operand => 0
  | .atom => 9

/-- An operator keeps its left operand on the stack at most, while the right one is evaluated. -/
lemma Infix.depth_join_le (op : Infix) (l r : Expr) :
    (op.join l r).depth ≤ max l.depth (r.depth + 1) := by
  cases op with
  | logical op => exact Nat.le_refl _
  | binary op => exact Nat.le_refl _
  | sequence => exact max_le_max_left l.depth (Nat.le_succ r.depth)

/-- The depth of a phrase is at most nine for every two levels of nesting, up to its allowance. -/
theorem Derives.depth_le {ps : Parameters} {c : Category} {ts : List Token} {r : Reading}
    (h : Derives ps c ts r) : 2 * r.tree.depth + 9 ≤ 9 * r.levels + c.allowance := by
  induction h with
  | assign _ _ ih =>
    simp only [Reading.assign, Reading.map, Reading.nest, Expr.depth, Category.allowance] at ih ⊢
    omega
  | operation _ ih =>
    simp only [Category.operation, Level.operators, List.foldr_cons, List.foldr_nil,
      Category.allowance, Reading.nest] at ih ⊢
    omega
  | single _ ih =>
    simp only [Category.allowance]
    omega
  | @more _ _ _ op _ _ l r _ _ _ ihl ihr =>
    have hjoin := op.depth_join_le l.tree r.tree
    simp only [Reading.join, Category.allowance] at ihl ⊢
    omega
  | plus _ ih =>
    simp only [Reading.nest, Category.allowance] at ih ⊢
    omega
  | prefixed _ _ ih =>
    simp only [Reading.nest, Reading.map, Expr.depth, Category.allowance] at ih ⊢
    omega
  | atom _ ih =>
    simp only [Reading.nest, Category.allowance] at ih ⊢
    omega
  | number => exact Nat.le_refl 9
  | hexNumber => exact Nat.le_refl 9
  | constant => exact Nat.le_refl 9
  | param => exact Nat.le_refl 9
  | parenthesis _ ih =>
    simp only [Category.sequence, Category.allowance] at ih ⊢
    omega
  | call1 _ _ iha =>
    simp only [Reading.map, Expr.depth, Category.allowance] at iha ⊢
    omega
  | call2 _ _ _ iha ihb =>
    simp only [Reading.join, Expr.depth, Category.allowance] at iha ihb ⊢
    omega
  | numberFormat _ _ _ _ iha ihb ihc =>
    simp only [Reading.join3, Expr.depth, Category.allowance] at iha ihb ihc ⊢
    omega
  | conditional _ _ _ _ ihc ihyes ihno =>
    simp only [Reading.conditional, Reading.join3, Expr.depth, Category.allowance] at ihc ihyes ihno ⊢
    omega

/-- The tree of a body is not deeper than nine operands for each of the 64 expressions that can be
open at the same time. -/
lemma depth_le_of_parseBody {allowed : Bool} {ps : Parameters} {text : String} {e : Expr}
    (h : parseBody allowed ps text = .ok e) : e.depth ≤ 9 * 64 := by
  obtain ⟨r, hr, rfl, hadm⟩ := parseBody_eq_ok_iff.1 h
  have hlevels : r.levels ≤ 128 := hadm.levels_le
  have hdepth := hr.depth_le
  rw [Category.allowance] at hdepth
  omega

/-- However long a text is, its program keeps no more than 576 operands on the stack, and it does not
overflow a stack that has place for them. Jumps tell their distances by words of 32 bits, and a distance
that has more would lead into the middle of an instruction, so of runs this is said where the program
has no more words than there are distances. -/
theorem compiled_stackDepth_le {text : String} {options : CompileOptions} {p : Program}
    (hcompile : compile text options = .ok p) :
    (∃ depth, p.stackDepth = .ok depth ∧ depth ≤ 9 * 64) ∧
      (p.code.size ≤ 2 ^ 32 → ∀ (config : MachineConfig) (args : List Float),
        9 * 64 ≤ config.stackSize → p.failure? config args ≠ some .stackOverflow) := by
  obtain ⟨clauses, parameters, e, -, -, hbody, rfl⟩ := compile_eq_ok_iff.1 hcompile
  have hdepth := depth_le_of_parseBody hbody
  refine ⟨⟨e.depth, e.stackDepth_program _ _, hdepth⟩, ?_⟩
  intro hsize config args hstack hfailure
  unfold Program.failure? at hfailure
  split at hfailure
  · cases hfailure
  · next fault hf =>
    exact Expr.execute_ne_stackOverflow hsize (hdepth.trans hstack) hf (Option.some.inj hfailure)

/-- The program of a call with three arguments stays within the bound on every machine with place for
it. -/
theorem compiled_stackDepth_le_call :
    ∃ p, compile "\x7b|a|numberformat(a,a,a*a)\x7d" {} = .ok p ∧ p.code.size ≤ 2 ^ 32 ∧
      (∃ depth, p.stackDepth = .ok depth ∧ depth ≤ 9 * 64) ∧
      ∀ (config : MachineConfig) (args : List Float), 9 * 64 ≤ config.stackSize →
        p.failure? config args ≠ some .stackOverflow := by
  have hcompile : compile "\x7b|a|numberformat(a,a,a*a)\x7d" {} =
      .ok ⟨#[1, 2, 0, 2, 0, 2, 0, 5, 0, 10, 1, 52, 54], #[]⟩ :=
    eq_ok_of_toOption (by decide +kernel)
  obtain ⟨hdepth, hruns⟩ := compiled_stackDepth_le hcompile
  exact ⟨_, hcompile, by decide, hdepth, hruns (by decide)⟩

/-- A program with more words than there are distances can overflow the stack. -/
theorem compiled_stackDepth_exceeded :
    ∃ p, compile (LongJump.text (2 ^ 31)) {} = .ok p ∧
      p.failure? ⟨9 * 64, 20⟩ [0, 0, 0] = some .stackOverflow := by
  obtain ⟨r, hr⟩ : ∃ r, (LongJump.program (2 ^ 31)).execute ⟨9 * 64, 20⟩ [0, 0, 0] =
      .error (.stackOverflow r) :=
    LongJump.execute_overflows (Nat.add_comm (2 ^ 31) 2) (by decide) (by decide) (by decide)
      (by decide) (by decide)
  refine ⟨_, LongJump.compile_text _, ?_⟩
  rw [Program.failure?, hr]
  rfl

end Formula
