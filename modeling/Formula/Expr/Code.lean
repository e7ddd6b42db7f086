import Formula.Assembler
import Formula.Expr.Basic

/-!
# Stack code for expressions

The steps that write an expression leave its value in the accumulator and the stack as it was. A left
operand or an argument waits on the stack while what follows it is evaluated. A logical operator
jumps over its right operand; the operator itself then sees the left value on the stack and in the
accumulator.
-/

namespace Formula

/-- The jump that skips the right operand of a logical operator. -/
def LogicalOp.skip : LogicalOp → Jump
  | .or => .ifTrue
  | .and => .ifFalse

namespace Expr

/-- The steps for an expression; labels are numbered from `next` on, and the first number that is
still free afterwards comes with the steps. -/
def steps (next : Nat) : Expr → List Step × Nat
  | .const value => ([.loadConst value.toBits], next)
  | .param slot => ([.loadVar slot], next)
  | .assign slot value =>
    let (code, next) := value.steps next
    (code ++ [.storeVar slot], next)
  | .unary op e =>
    let (code, next) := e.steps next
    (code ++ [.short (.unary op)], next)
  | .binary op l r =>
    let (left, next) := l.steps next
    let (right, next) := r.steps next
    (left ++ [.push] ++ right ++ [.short (.binary op)], next)
  | .logical op l r =>
    let (left, done) := l.steps next
    let (right, next) := r.steps (done + 1)
    (left ++ [.push, .label, .branch op.skip done] ++ right ++ [.post done, .short (.logical op)],
      next)
  | .sequence a b =>
    let (first, next) := a.steps next
    let (second, next) := b.steps next
    (first ++ second, next)
  | .conditional c t e =>
    let (condition, onFalse) := c.steps next
    let (yes, done) := t.steps (onFalse + 1)
    let (no, next) := e.steps (done + 1)
    (condition ++ [.label, .branch .ifFalse onFalse] ++ yes
      ++ [.label, .branch .always done, .post onFalse] ++ no ++ [.post done], next)
  | .call1 f a =>
    let (code, next) := a.steps next
    (code ++ [.push, .short (.call (.one f))], next)
  | .call2 f a b =>
    let (first, next) := a.steps next
    let (second, next) := b.steps next
    (first ++ [.push] ++ second ++ [.push, .short (.call (.two f))], next)
  | .numberFormat a b c =>
    let (first, next) := a.steps next
    let (second, next) := b.steps next
    let (third, next) := c.steps next
    (first ++ [.push] ++ second ++ [.push] ++ third ++ [.push, .short (.call .numberFormat)], next)

/-- The program that evaluates an expression over a number of parameters. -/
def compile (optimize : Bool) (paramCount : Nat) (e : Expr) : Except Diagnostic Program :=
  assemble optimize (.header paramCount :: (e.steps 0).1)

end Expr

end Formula
