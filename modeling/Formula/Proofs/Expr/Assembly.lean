import Formula.Proofs.Assembler.Block
import Formula.Proofs.Expr.Words
import Mathlib.Tactic.Common

/-!
# Assembling an expression

The steps of an expression write its words, whatever was written before. The induction is on the
expression; each case puts the blocks of the parts together. So every expression has a program: no
label stays without a place.
-/

namespace Formula.Expr

open Assembler

attribute [simp] steps

/-- The code after the steps of an expression. -/
def emit (a : Assembler) (e : Expr) : Assembler :=
  a.run (e.steps a.labels.size).1

/-- A run over the steps of an expression, named. -/
@[simp]
lemma run_steps (a : Assembler) (e : Expr) : a.run (e.steps a.labels.size).1 = e.emit a :=
  rfl

/-- The steps of an expression count labels as the assembler does, and they write its words: those
without the push, and those with it if the next step is a push. -/
structure Emits (a : Assembler) (e : Expr) : Prop where
  next_eq : (e.steps a.labels.size).2 = (e.emit a).labels.size
  alone : Writes a (e.emit a) e.constants (e.words a.optimize false a.constants.size)
  pushed : Writes a ((e.emit a).step .push) e.constants (e.words a.optimize true a.constants.size)

variable {a : Assembler}

/-- Code that a push does not fuse with is pushed by an instruction of its own. -/
lemma Emits.of_fuse? {e : Expr} (hload : e.endsInLoad = false)
    (hnext : (e.steps a.labels.size).2 = (e.emit a).labels.size)
    (halone : Writes a (e.emit a) e.constants (e.words a.optimize false a.constants.size))
    (hfuse : (e.emit a).fuse? = none) : Emits a e where
  next_eq := hnext
  alone := halone
  pushed := by
    rw [words_true_of_endsInLoad hload]
    exact halone.push hfuse

/-- A load is a block, with the push as well as without. -/
lemma writes_load (a : Assembler) (load fused : Opcode) (operand : Int32)
    (hload : (Cell.opcode load).fused? = some (.opcode fused)) :
    Writes a (a.long load operand) [] (loadWords a.optimize false load fused operand) ∧
      Writes a ((a.long load operand).step .push) []
        (loadWords a.optimize true load fused operand) := by
  have hcells (op : Opcode) : Writes a (a.long op operand) [] [op.word, operand] :=
    Writes.of_cells _ (by simp) rfl rfl
  refine ⟨?_, ?_⟩
  · simpa [loadWords, pushWords] using hcells load
  · -- Only with optimization does the push replace the load that it follows.
    cases ho : a.optimize with
    | false =>
      have hfuse : (a.long load operand).fuse? = none := by
        simp [fuse?_long, ho]
      simpa [loadWords, pushWords] using (hcells load).push hfuse
    | true =>
      have hfuse : (a.long load operand).fuse? = some (a.long fused operand) := by
        simp [fuse?_long, ho, hload]
        rfl
      simpa [loadWords, step_push, hfuse] using hcells fused

/-- An expression after a block. -/
lemma Emits.alone_after {b : Assembler} {ks : List UInt64} {ws : List Int32} {e : Expr}
    (h : Writes a b ks ws) (he : Emits b e) :
    Writes a (e.emit b) (ks ++ e.constants)
      (ws ++ e.words a.optimize false (a.constants.size + ks.length)) := by
  have := h.trans he.alone
  rwa [h.optimize_eq, h.constants_size_eq] at this

/-- An expression after a block, pushed. -/
lemma Emits.pushed_after {b : Assembler} {ks : List UInt64} {ws : List Int32} {e : Expr}
    (h : Writes a b ks ws) (he : Emits b e) :
    Writes a ((e.emit b).step .push) (ks ++ e.constants)
      (ws ++ e.words a.optimize true (a.constants.size + ks.length)) := by
  have := h.trans he.pushed
  rwa [h.optimize_eq, h.constants_size_eq] at this

/-- After an operand and its push, labels are counted on. -/
lemma Emits.next_push {e : Expr} (h : Emits a e) :
    (e.steps a.labels.size).2 = ((e.emit a).step .push).labels.size := by
  rw [labels_step_push]
  exact h.next_eq

/-- An expression that ends with an instruction of its own, after a block that its parts wrote. -/
lemma Emits.of_short {e : Expr} {b : Assembler} {ws : List Int32} (op : Opcode)
    (hload : e.endsInLoad = false) (hop : (Cell.opcode op).fused? = none)
    (hemit : e.emit a = b.step (.short op))
    (hnext : (e.steps a.labels.size).2 = b.labels.size)
    (hwords : e.words a.optimize false a.constants.size = ws ++ [op.word])
    (hwrites : Writes a b e.constants ws) : Emits a e := by
  refine .of_fuse? hload ?_ ?_ ?_
  · rw [hemit]
    exact hnext
  · rw [hemit, hwords]
    exact hwrites.short op hop
  · rw [hemit]
    exact fuse?_step_short hwrites.settled op

namespace Emits

variable {c l r x y z yes no : Expr}

/-- A number is loaded from the pool, where it is entered first. -/
lemma const (a : Assembler) (value : Float) : Emits a (.const value) := by
  obtain ⟨halone, hpushed⟩ := writes_load (a.addConstant value.toBits) .loadConst .pushConst
    (Int32.ofNat a.constants.size) rfl
  exact ⟨rfl, halone.of_addConstant, hpushed.of_addConstant⟩

/-- A parameter is loaded from its slot. -/
lemma param (a : Assembler) (slot : Nat) : Emits a (.param slot) := by
  obtain ⟨halone, hpushed⟩ := writes_load a .loadVar .pushVar (Int32.ofNat slot) rfl
  exact ⟨rfl, halone, hpushed⟩

/-- An assignment stores what its expression leaves in the accumulator. -/
lemma assign (slot : Nat) (h : Emits a x) : Emits a (.assign slot x) := by
  have hemit : emit a (.assign slot x) = (emit a x).long .storeVar (Int32.ofNat slot) := by
    rw [emit]
    simp only [steps, run_append, run_steps, run_cons, run_nil]
    rfl
  refine .of_fuse? rfl ?_ ?_ ?_
  · rw [hemit]
    exact h.next_eq
  · rw [hemit]
    simpa [words, pushWords, constants] using h.alone.long
  · rw [hemit, fuse?_long]
    simp [Cell.fused?]

/-- A prefix operator follows its operand. -/
lemma unary (op : UnaryOp) (h : Emits a x) : Emits a (.unary op x) := by
  have hemit : emit a (.unary op x) = (emit a x).step (.short (.unary op)) := by
    rw [emit]
    simp
  exact .of_short (.unary op) rfl rfl hemit h.next_eq (List.append_nil _) h.alone

/-- A binary operator follows its operands, the left of which is pushed. -/
lemma binary (op : BinaryOp) (hl : Emits a l) (hr : Emits ((l.emit a).step .push) r) :
    Emits a (.binary op l r) := by
  have hemit : emit a (.binary op l r) =
      (r.emit ((l.emit a).step .push)).step (.short (.binary op)) := by
    rw [emit]
    simp [hl.next_push]
  have hnext : ((Expr.binary op l r).steps a.labels.size).2 =
      (r.emit ((l.emit a).step .push)).labels.size := by
    rw [← hr.next_eq, ← hl.next_push]
    rfl
  exact .of_short (.binary op) rfl rfl hemit hnext (List.append_nil _) (hr.alone_after hl.pushed)

/-- A logical operator jumps over its right operand to itself. -/
lemma logical (op : LogicalOp) (hl : Emits a l)
    (hr : Emits (((l.emit a).step .push).leap op.skip) r) : Emits a (.logical op l r) := by
  -- The label of the jump is the first that is free once the left operand is pushed.
  set b := (l.emit a).step .push with hb
  have hlabels : (l.steps a.labels.size).2 + 1 = (b.leap op.skip).labels.size := by
    rw [labels_size_leap, hl.next_push]
  have hemit : emit a (.logical op l r) =
      ((r.emit (b.leap op.skip)).step (.post b.labels.size)).step (.short (.logical op)) := by
    rw [emit]
    simp only [steps, run_append, run_steps, hlabels]
    rw [hl.next_push]
    rfl
  have hnext : ((Expr.logical op l r).steps a.labels.size).2 =
      ((r.emit (b.leap op.skip)).step (.post b.labels.size)).labels.size := by
    rw [labels_size_step_post, ← hr.next_eq, ← hlabels]
    rfl
  have hoptimize : (b.leap op.skip).optimize = a.optimize := hl.pushed.optimize_eq
  have hconstants : (b.leap op.skip).constants.size = a.constants.size + l.constants.length :=
    hl.pushed.constants_size_eq
  have hright := hr.alone.skip
  rw [hoptimize, hconstants] at hright
  exact .of_short (.logical op) rfl rfl hemit hnext (List.append_nil _) (hl.pushed.trans hright)

/-- One expression after another. The last one may fuse with a push that follows. -/
lemma sequence (hx : Emits a x) (hy : Emits (x.emit a) y) : Emits a (.sequence x y) := by
  have hemit : emit a (.sequence x y) = y.emit (x.emit a) := by
    rw [emit]
    simp [hx.next_eq]
  refine ⟨?_, ?_, ?_⟩
  · rw [hemit, ← hy.next_eq, ← hx.next_eq]
    rfl
  · rw [hemit]
    exact hy.alone_after hx.alone
  · rw [hemit]
    exact hy.pushed_after hx.alone

/-- The condition of a conditional jumps to the second branch, and the first branch jumps over it.
The label after the condition is posted between the branches, and its own after both. -/
lemma conditional (hc : Emits a c) (hyes : Emits ((c.emit a).leap .ifFalse) yes)
    (hno : Emits (((yes.emit ((c.emit a).leap .ifFalse)).leap .always).step
      (.post (c.emit a).labels.size)) no) : Emits a (.conditional c yes no) := by
  -- The branches are written after `b` and after `d`, one label later each.
  set b := (c.emit a).leap .ifFalse with hb
  set d := ((yes.emit b).leap .always).step (.post (c.emit a).labels.size) with hd
  have hlabels : (c.steps a.labels.size).2 + 1 = b.labels.size := by
    rw [hb, labels_size_leap, hc.next_eq]
  have hlabels' : (yes.steps b.labels.size).2 + 1 = d.labels.size := by
    rw [hd, labels_size_step_post, labels_size_leap (yes.emit b), hyes.next_eq]
  have hemit : emit a (.conditional c yes no) =
      (no.emit d).step (.post (yes.emit b).labels.size) := by
    rw [emit]
    simp only [steps, run_append, run_steps, hlabels, hlabels']
    rw [hc.next_eq, hyes.next_eq]
    rfl
  have hwritesYes : Writes b (yes.emit b) yes.constants
      (yes.words a.optimize false (a.constants.size + c.constants.length)) := by
    have hoptimize : b.optimize = a.optimize := hc.alone.optimize_eq
    have hconstants : b.constants.size = a.constants.size + c.constants.length :=
      hc.alone.constants_size_eq
    rw [← hoptimize, ← hconstants]
    exact hyes.alone
  have hwritesNo : Writes d (no.emit d) no.constants
      (no.words a.optimize false (a.constants.size + c.constants.length + yes.constants.length)) := by
    have hoptimize : d.optimize = a.optimize :=
      hyes.alone.optimize_eq.trans hc.alone.optimize_eq
    have hconstants : d.constants.size =
        a.constants.size + c.constants.length + yes.constants.length := by
      rw [← hc.alone.constants_size_eq]
      exact hyes.alone.constants_size_eq
    rw [← hoptimize, ← hconstants]
    exact hno.alone
  refine .of_fuse? rfl ?_ ?_ ?_
  · rw [hemit, labels_size_step_post, ← hno.next_eq, ← hlabels', ← hlabels]
    rfl
  · rw [hemit]
    simpa [words, pushWords, constants] using hc.alone.trans (hwritesYes.branch hwritesNo)
  · rw [hemit]
    exact fuse?_step_post _ _

/-- A function of one argument follows its argument, which is pushed. -/
lemma call1 (f : Function1) (hx : Emits a x) : Emits a (.call1 f x) := by
  have hemit : emit a (.call1 f x) = ((x.emit a).step .push).step (.short (.call (.one f))) := by
    rw [emit]
    simp
  exact .of_short (.call (.one f)) rfl rfl hemit hx.next_push (List.append_nil _) hx.pushed

/-- A function of two arguments follows its arguments, which are pushed. -/
lemma call2 (f : Function2) (hx : Emits a x) (hy : Emits ((x.emit a).step .push) y) :
    Emits a (.call2 f x y) := by
  set b := (x.emit a).step .push with hb
  have hemit : emit a (.call2 f x y) =
      ((y.emit b).step .push).step (.short (.call (.two f))) := by
    rw [emit]
    simp [hx.next_push, ← hb]
  have hnext : ((Expr.call2 f x y).steps a.labels.size).2 =
      ((y.emit b).step .push).labels.size := by
    rw [← hy.next_push, ← hx.next_push]
    rfl
  exact .of_short (.call (.two f)) rfl rfl hemit hnext (List.append_nil _)
    (hy.pushed_after hx.pushed)

/-- The format of a number follows its three arguments, which are pushed. -/
lemma numberFormat (hx : Emits a x) (hy : Emits ((x.emit a).step .push) y)
    (hz : Emits ((y.emit ((x.emit a).step .push)).step .push) z) :
    Emits a (.numberFormat x y z) := by
  set b := (x.emit a).step .push with hb
  set d := (y.emit b).step .push with hd
  have hemit : emit a (.numberFormat x y z) =
      ((z.emit d).step .push).step (.short (.call .numberFormat)) := by
    rw [emit]
    simp [hx.next_push, ← hb, hy.next_push, ← hd]
  have hnext : ((Expr.numberFormat x y z).steps a.labels.size).2 =
      ((z.emit d).step .push).labels.size := by
    rw [← hz.next_push, ← hy.next_push, ← hx.next_push]
    rfl
  have hwrites := hz.pushed_after (hy.pushed_after hx.pushed)
  refine .of_short (.call .numberFormat) rfl rfl hemit hnext ?_ hwrites
  simp [words, pushWords, Nat.add_assoc]

end Emits

/-- Whatever was written before, the steps of an expression write its words. -/
theorem emits (a : Assembler) (e : Expr) : Emits a e := by
  induction e generalizing a with
  | const value => exact .const a value
  | param slot => exact .param a slot
  | assign slot _ ih => exact .assign slot (ih a)
  | unary op _ ih => exact .unary op (ih a)
  | binary op _ _ ihl ihr => exact .binary op (ihl a) (ihr _)
  | logical op _ _ ihl ihr => exact .logical op (ihl a) (ihr _)
  | sequence _ _ ihx ihy => exact .sequence (ihx a) (ihy _)
  | conditional _ _ _ ihc ihyes ihno => exact .conditional (ihc a) (ihyes _) (ihno _)
  | call1 f _ ih => exact .call1 f (ih a)
  | call2 f _ _ ihx ihy => exact .call2 f (ihx a) (ihy _)
  | numberFormat _ _ _ ihx ihy ihz => exact .numberFormat (ihx a) (ihy _) (ihz _)

/-- Every expression has a program: that of its words. -/
theorem compile_eq (optimize : Bool) (paramCount : Nat) (e : Expr) :
    e.compile optimize paramCount = .ok (e.program optimize paramCount) := by
  have hheader : Writes { optimize := optimize }
      (({ optimize := optimize } : Assembler).step (.header paramCount)) []
      [Int32.ofNat paramCount] :=
    Writes.of_cells _ (by simp) rfl rfl
  have hwrites := ((emits _ e).alone_after hheader).short .endCode rfl
  have hassemble : e.compile optimize paramCount =
      (emit (({ optimize := optimize } : Assembler).step (.header paramCount)) e).finish :=
    rfl
  rw [hassemble, hwrites.finish_eq]
  simp [program]

end Formula.Expr
