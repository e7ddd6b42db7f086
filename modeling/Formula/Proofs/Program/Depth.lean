import Formula.Program.StackDepth
import Formula.Proofs.Expr.Evaluation
import Formula.Proofs.Expr.Words
import Mathlib.Tactic.Common

/-!
# The stack depth of compiled code

The walk that measures a program does not follow jumps. It finds the depth of the expression all the
same: over the words of an expression it raises the height by the value that is pushed, if there is
one, and it meets the greatest height that an evaluation can reach.
-/

namespace Formula

/-- A walk over words leads from one height to another, and meets no height above its peak. -/
structure Climbs (ws : List Int32) (h peak h' : Nat) : Prop where
  le_peak : h' ≤ peak
  depth_eq : ∀ (position : Nat) (rest : List Int32) (deepest : Nat), h ≤ deepest →
    (Walk.ofWords position (ws ++ rest)).depth h deepest =
      (Walk.ofWords (position + ws.length) rest).depth h' (max deepest peak)

namespace Climbs

variable {ws us : List Int32} {h h' h'' peak peak' : Nat}

/-- Words after other words. -/
lemma append (hw : Climbs ws h peak h') (hu : Climbs us h' peak' h'') :
    Climbs (ws ++ us) h (max peak peak') h'' where
  le_peak := Nat.le_trans hu.le_peak (Nat.le_max_right peak peak')
  depth_eq position rest deepest hd := by
    have hd' : h' ≤ max deepest peak := Nat.le_trans hw.le_peak (Nat.le_max_right deepest peak)
    rw [List.append_assoc, hw.depth_eq _ _ _ hd, hu.depth_eq _ _ _ hd', List.length_append,
      Nat.add_assoc, Nat.max_assoc]

/-- A peak, written differently. -/
lemma of_eq (hw : Climbs ws h peak h') (hpeak : peak = peak') : Climbs ws h peak' h' := by
  subst hpeak
  exact hw

/-- No words. -/
lemma nil (h : Nat) : Climbs [] h h h where
  le_peak := Nat.le_refl h
  depth_eq position rest deepest hd := by simp [Nat.max_eq_left hd]

/-- An instruction without an operand word. -/
lemma short (op : Opcode) {pops pushes : Nat} (hop : op.hasOperand = false) (hend : op ≠ .endCode)
    (heffect : op.stackEffect? = some (pops, pushes)) :
    Climbs [op.word] (h + pops) (h + max pops pushes) (h + pushes) where
  le_peak := Nat.add_le_add_left (Nat.le_max_right pops pushes) h
  depth_eq position rest deepest hd := by
    -- What is popped was there before, so only what is pushed can be a new peak.
    have hpeak : max deepest (h + max pops pushes) = max deepest (h + pushes) := by omega
    rw [List.singleton_append, Walk.ofWords, Opcode.ofWord?_word, hpeak]
    simp [hop, hend, Walk.depth, heffect, Nat.not_lt.2 (Nat.le_add_left pops h)]

/-- An instruction with its operand word. -/
lemma long (op : Opcode) (operand : Int32) {pops pushes : Nat} (hop : op.hasOperand = true)
    (heffect : op.stackEffect? = some (pops, pushes)) :
    Climbs [op.word, operand] (h + pops) (h + max pops pushes) (h + pushes) where
  le_peak := Nat.add_le_add_left (Nat.le_max_right pops pushes) h
  depth_eq position rest deepest hd := by
    have hpeak : max deepest (h + max pops pushes) = max deepest (h + pushes) := by omega
    rw [List.cons_append, Walk.ofWords, Opcode.ofWord?_word, hpeak]
    simp [hop, Walk.depth, heffect, Nat.not_lt.2 (Nat.le_add_left pops h)]

/-- An instruction that takes operands from the stack. -/
lemma pops (op : Opcode) {n : Nat} (hop : op.hasOperand = false) (hend : op ≠ .endCode)
    (heffect : op.stackEffect? = some (n, 0)) : Climbs [op.word] (h + n) (h + n) h :=
  (short op hop hend heffect).of_eq (by rw [Nat.max_zero])

/-- A jump leaves the stack alone. -/
lemma jump (j : Jump) (operand : Int32) : Climbs [(Opcode.jump j).word, operand] h h h :=
  long (.jump j) operand rfl rfl

/-- A push, if there is one. -/
lemma pushWords (push : Bool) (h : Nat) :
    Climbs (Expr.pushWords push) h (h + push.toNat) (h + push.toNat) := by
  cases push with
  | false => exact nil h
  | true => exact short .push rfl (by simp) rfl

/-- A load, fused with the push after it or not. -/
lemma loadWords (optimize push : Bool) {load fused : Opcode} (operand : Int32) (h : Nat)
    (hload : load.hasOperand = true) (hfused : fused.hasOperand = true)
    (hloadEffect : load.stackEffect? = some (0, 0))
    (hfusedEffect : fused.stackEffect? = some (0, 1)) :
    Climbs (Expr.loadWords optimize push load fused operand) h (h + push.toNat)
      (h + push.toNat) := by
  unfold Expr.loadWords
  split
  · next hfuse =>
    obtain ⟨-, rfl⟩ := Bool.and_eq_true_iff.1 hfuse
    exact long fused operand hfused hfusedEffect
  · have hboth := (long load operand (h := h) hload hloadEffect).append (pushWords push h)
    exact hboth.of_eq (by omega)

/-- Code without a push, and then the push of its value if there is one. -/
lemma pushed {m : Nat} (push : Bool) (hw : Climbs ws h (h + m) h) :
    Climbs (ws ++ Expr.pushWords push) h (h + max m push.toNat) (h + push.toNat) :=
  (hw.append (pushWords push h)).of_eq (Nat.add_max_add_left h m push.toNat)

end Climbs

namespace Expr

/-- The walk over the words of an expression meets the depth of the expression. -/
def MeetsDepth (optimize : Bool) (e : Expr) : Prop :=
  ∀ (push : Bool) (k h : Nat),
    Climbs (e.words optimize push k) h (h + max e.depth push.toNat) (h + push.toNat)

namespace MeetsDepth

variable {optimize : Bool} {e : Expr}

/-- An expression that is not pushed. -/
lemma alone (he : MeetsDepth optimize e) (k h : Nat) :
    Climbs (e.words optimize false k) h (h + e.depth) h :=
  (he false k h).of_eq (by simp)

/-- An expression that is pushed. -/
lemma kept (he : MeetsDepth optimize e) (k h : Nat) :
    Climbs (e.words optimize true k) h (h + max e.depth 1) (h + 1) :=
  he true k h

end MeetsDepth

/-- Every expression meets its depth, with the code of both kinds. -/
theorem meetsDepth (optimize : Bool) (e : Expr) : MeetsDepth optimize e := by
  induction e with
  | const x =>
    intro push k h
    exact (Climbs.loadWords optimize push _ h rfl rfl rfl rfl).of_eq (by simp [depth])
  | param n =>
    intro push k h
    exact (Climbs.loadWords optimize push _ h rfl rfl rfl rfl).of_eq (by simp [depth])
  | assign n e ih =>
    intro push k h
    apply Climbs.pushed
    have hstore : Climbs [Opcode.storeVar.word, Int32.ofNat n] h h h := .long .storeVar _ rfl rfl
    exact ((ih.alone k h).append hstore).of_eq (by simp [depth])
  | unary op e ih =>
    intro push k h
    apply Climbs.pushed
    have hop : Climbs [(Opcode.unary op).word] h h h := .pops (.unary op) rfl (by simp) rfl
    exact ((ih.alone k h).append hop).of_eq (by simp [depth])
  | binary op l r ihl ihr =>
    intro push k h
    apply Climbs.pushed
    have hl := ihl.kept k h
    have hr := ihr.alone (k + l.constants.length) (h + 1)
    have hop := Climbs.pops (.binary op) (h := h) rfl (by simp) rfl
    exact ((hl.append hr).append hop).of_eq (by simp only [depth]; omega)
  | logical op l r ihl ihr =>
    intro push k h
    apply Climbs.pushed
    have hl := ihl.kept k h
    have hr := ihr.alone (k + l.constants.length) (h + 1)
    have hop := Climbs.pops (.logical op) (h := h) rfl (by simp) rfl
    exact ((hl.append ((Climbs.jump _ _).append hr)).append hop).of_eq (by simp only [depth]; omega)
  | sequence a b iha ihb =>
    intro push k h
    have ha := iha.alone k h
    have hb := ihb push (k + a.constants.length) h
    exact (ha.append hb).of_eq (by rw [depth]; omega)
  | conditional c yes no ihc ihyes ihno =>
    intro push k h
    apply Climbs.pushed
    have hc := ihc.alone k h
    have hyes := ihyes.alone (k + c.constants.length) h
    have hno := ihno.alone (k + c.constants.length + yes.constants.length) h
    -- Jumps do not move the height, so the walk sees both branches from the height of the condition.
    exact (hc.append ((((Climbs.jump _ _).append hyes).append (Climbs.jump _ _)).append hno)).of_eq
      (by simp only [depth]; omega)
  | call1 f a ih =>
    intro push k h
    apply Climbs.pushed
    have hcall := Climbs.pops (.call (.one f)) (h := h) rfl (by simp) rfl
    exact ((ih.kept k h).append hcall).of_eq (by simp only [depth, Function.arity]; omega)
  | call2 f a b iha ihb =>
    intro push k h
    apply Climbs.pushed
    have ha := iha.kept k h
    have hb := ihb.kept (k + a.constants.length) (h + 1)
    have hcall := Climbs.pops (.call (.two f)) (h := h) rfl (by simp) rfl
    exact ((ha.append hb).append hcall).of_eq (by simp only [depth, Function.arity]; omega)
  | numberFormat a b c iha ihb ihc =>
    intro push k h
    apply Climbs.pushed
    have ha := iha.kept k h
    have hb := ihb.kept (k + a.constants.length) (h + 1)
    have hc := ihc.kept (k + a.constants.length + b.constants.length) (h + 2)
    have hcall := Climbs.pops (.call .numberFormat) (h := h) rfl (by simp) rfl
    exact (((ha.append hb).append hc).append hcall).of_eq (by simp only [depth, Function.arity]; omega)

/-- The stack depth of the program of an expression is the depth of the expression. -/
theorem stackDepth_program (optimize : Bool) (paramCount : Nat) (e : Expr) :
    (e.program optimize paramCount).stackDepth = .ok e.depth := by
  have hwalk := (meetsDepth optimize e).alone 0 0
  have hprogram : (e.program optimize paramCount).stackDepth =
      (Walk.ofWords 1 (e.words optimize false 0 ++ [Opcode.endCode.word])).depth 0 0 := by
    simp [Program.stackDepth, program, Program.walk]
  rw [hprogram, hwalk.depth_eq _ _ _ (Nat.le_refl 0), Walk.ofWords, Opcode.ofWord?_word]
  simp [Opcode.hasOperand, Walk.depth]

end Expr

end Formula
