import Formula.Expr.Code
import Mathlib.Tactic.Common

/-!
# The words of an expression

What the steps of an expression amount to once every label has its place: a list of words that says
nothing about where it stands, since jumps are given by their distance. A value that is pushed
afterwards belongs to the words of its expression, because a load that ends them may be fused with
the push.
-/

namespace Formula.Expr

/-- The constants of an expression, in the order of its loads. -/
def constants : Expr → List UInt64
  | .const value => [value.toBits]
  | .param _ => []
  | .assign _ e => e.constants
  | .unary _ e => e.constants
  | .binary _ l r => l.constants ++ r.constants
  | .logical _ l r => l.constants ++ r.constants
  | .sequence a b => a.constants ++ b.constants
  | .conditional c t e => c.constants ++ t.constants ++ e.constants
  | .call1 _ a => a.constants
  | .call2 _ a b => a.constants ++ b.constants
  | .numberFormat a b c => a.constants ++ b.constants ++ c.constants

/-- Whether the code of an expression ends with a load, which a push can be fused with. -/
def endsInLoad : Expr → Bool
  | .const _ | .param _ => true
  | .sequence _ b => b.endsInLoad
  | _ => false

/-- The word of a push, if there is one. -/
def pushWords (push : Bool) : List Int32 :=
  if push then [Opcode.push.word] else []

/-- The words of a load, with the push after it if there is one. -/
def loadWords (optimize push : Bool) (load fused : Opcode) (operand : Int32) : List Int32 :=
  if optimize && push then [fused.word, operand] else [load.word, operand] ++ pushWords push

/-- The words of an expression, with a push of its value if there is one; its constants are numbered
from `k` on. -/
def words (optimize : Bool) : Expr → (push : Bool) → (k : Nat) → List Int32
  | .const _, push, k => loadWords optimize push .loadConst .pushConst (Int32.ofNat k)
  | .param slot, push, _ => loadWords optimize push .loadVar .pushVar (Int32.ofNat slot)
  | .assign slot e, push, k =>
    e.words optimize false k ++ [Opcode.storeVar.word, Int32.ofNat slot] ++ pushWords push
  | .unary op e, push, k =>
    e.words optimize false k ++ [(Opcode.unary op).word] ++ pushWords push
  | .binary op l r, push, k =>
    l.words optimize true k ++ r.words optimize false (k + l.constants.length) ++
      [(Opcode.binary op).word] ++ pushWords push
  | .logical op l r, push, k =>
    let right := r.words optimize false (k + l.constants.length)
    l.words optimize true k ++
      ([(Opcode.jump op.skip).word, Int32.ofNat (right.length + 1)] ++ right) ++
      [(Opcode.logical op).word] ++ pushWords push
  | .sequence a b, push, k =>
    a.words optimize false k ++ b.words optimize push (k + a.constants.length)
  | .conditional c t e, push, k =>
    let yes := t.words optimize false (k + c.constants.length)
    let no := e.words optimize false (k + c.constants.length + t.constants.length)
    c.words optimize false k ++
      ([(Opcode.jump .ifFalse).word, Int32.ofNat (yes.length + 3)] ++ yes ++
        [(Opcode.jump .always).word, Int32.ofNat (no.length + 1)] ++ no) ++ pushWords push
  | .call1 f a, push, k =>
    a.words optimize true k ++ [(Opcode.call (.one f)).word] ++ pushWords push
  | .call2 f a b, push, k =>
    a.words optimize true k ++ b.words optimize true (k + a.constants.length) ++
      [(Opcode.call (.two f)).word] ++ pushWords push
  | .numberFormat a b c, push, k =>
    a.words optimize true k ++ b.words optimize true (k + a.constants.length) ++
      c.words optimize true (k + a.constants.length + b.constants.length) ++
      [(Opcode.call .numberFormat).word] ++ pushWords push

/-- A push after code that does not end in a load is a word of its own. -/
lemma words_true_of_endsInLoad {e : Expr} (h : e.endsInLoad = false) (optimize : Bool) (k : Nat) :
    e.words optimize true k = e.words optimize false k ++ [Opcode.push.word] := by
  induction e generalizing k with
  | const => cases h
  | param => cases h
  | sequence a b _ ihb =>
    simp only [words]
    rw [ihb h, List.append_assoc]
  | _ => simp [words, pushWords]

/-- The program of an expression over a number of parameters. -/
def program (optimize : Bool) (paramCount : Nat) (e : Expr) : Program where
  code := (Int32.ofNat paramCount :: (e.words optimize false 0 ++ [Opcode.endCode.word])).toArray
  constants := e.constants.toArray

end Formula.Expr
