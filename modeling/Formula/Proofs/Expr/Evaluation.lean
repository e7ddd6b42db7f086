import Formula.Arithmetic
import Formula.Expr.Basic
import Mathlib.Tactic.Common

/-!
# Evaluating expressions

The meaning of an expression, by recursion on the tree: its value and what it stores, or the divisor
of the first division by zero. `evalWithin` keeps count of the operands that wait meanwhile, of which
there may be too many; `evalWithin_eq` says that this is the only difference, and that it does not
show within the depth of the expression.
-/

namespace Formula

/-- A value, and the memory after it was found. -/
structure Evaluation where
  value : Float
  memory : Array Float

/-- Whether the left operand of a logical operator decides its value. -/
def LogicalOp.isDecidedBy : LogicalOp → Float → Bool
  | .or, x => isTrue x
  | .and, x => !isTrue x

/-- Why an evaluation stops: no operand more can wait, or a divisor is zero. Both come with the value
at hand and the number of operands that wait. -/
inductive Halt where
  | stackOverflow (value : Float) (height : Nat)
  | divideByZero (divisor : Float) (height : Nat)

/-- The divisor, if there is one. -/
def Halt.divisor? : Halt → Option Float
  | .stackOverflow _ _ => none
  | .divideByZero divisor _ => some divisor

/-- A value is kept while others are found, if there is place for it. -/
def Evaluation.keep (limit height : Nat) (v : Evaluation) : Except Halt Evaluation :=
  if height < limit then .ok v else .error (.stackOverflow v.value height)

namespace Expr

/-- The value of an expression over a memory. Operands are evaluated from the left; what a logical
operator or a conditional does not need is not evaluated at all. -/
def eval : Expr → Array Float → Except Float Evaluation
  | .const x, memory => .ok ⟨x, memory⟩
  | .param slot, memory => .ok ⟨memory.getD slot 0, memory⟩
  | .assign slot e, memory => do
    let v ← e.eval memory
    return ⟨v.value, v.memory.setIfInBounds slot v.value⟩
  | .unary op e, memory => do
    let v ← e.eval memory
    return ⟨op.apply v.value, v.memory⟩
  | .binary op l r, memory => do
    let x ← l.eval memory
    let y ← r.eval x.memory
    if op.dividesByZero y.value then .error y.value
    else return ⟨op.apply x.value y.value, y.memory⟩
  | .logical op l r, memory => do
    let x ← l.eval memory
    if op.isDecidedBy x.value then return ⟨ofBool (isTrue x.value), x.memory⟩
    else do
      let y ← r.eval x.memory
      return ⟨ofBool (isTrue y.value), y.memory⟩
  | .sequence a b, memory => do
    let v ← a.eval memory
    b.eval v.memory
  | .conditional c yes no, memory => do
    let v ← c.eval memory
    if isTrue v.value then yes.eval v.memory else no.eval v.memory
  | .call1 f a, memory => do
    let x ← a.eval memory
    return ⟨f.apply x.value, x.memory⟩
  | .call2 f a b, memory => do
    let x ← a.eval memory
    let y ← b.eval x.memory
    return ⟨f.apply x.value y.value, y.memory⟩
  | .numberFormat a b c, memory => do
    let x ← a.eval memory
    let y ← b.eval x.memory
    let z ← c.eval y.memory
    return ⟨Formula.numberFormat x.value y.value z.value, z.memory⟩

/-- The value of an expression while `height` operands wait, of which there may be `limit` at most.
The left operand of an operator waits for the right one, and arguments wait for the call. -/
def evalWithin (limit : Nat) : Nat → Expr → Array Float → Except Halt Evaluation
  | _, .const x, memory => .ok ⟨x, memory⟩
  | _, .param slot, memory => .ok ⟨memory.getD slot 0, memory⟩
  | height, .assign slot e, memory => do
    let v ← e.evalWithin limit height memory
    return ⟨v.value, v.memory.setIfInBounds slot v.value⟩
  | height, .unary op e, memory => do
    let v ← e.evalWithin limit height memory
    return ⟨op.apply v.value, v.memory⟩
  | height, .binary op l r, memory => do
    let x ← l.evalWithin limit height memory >>= Evaluation.keep limit height
    let y ← r.evalWithin limit (height + 1) x.memory
    if op.dividesByZero y.value then .error (.divideByZero y.value (height + 1))
    else return ⟨op.apply x.value y.value, y.memory⟩
  | height, .logical op l r, memory => do
    let x ← l.evalWithin limit height memory >>= Evaluation.keep limit height
    if op.isDecidedBy x.value then return ⟨ofBool (isTrue x.value), x.memory⟩
    else do
      let y ← r.evalWithin limit (height + 1) x.memory
      return ⟨ofBool (isTrue y.value), y.memory⟩
  | height, .sequence a b, memory => do
    let v ← a.evalWithin limit height memory
    b.evalWithin limit height v.memory
  | height, .conditional c yes no, memory => do
    let v ← c.evalWithin limit height memory
    if isTrue v.value then yes.evalWithin limit height v.memory
    else no.evalWithin limit height v.memory
  | height, .call1 f a, memory => do
    let x ← a.evalWithin limit height memory >>= Evaluation.keep limit height
    return ⟨f.apply x.value, x.memory⟩
  | height, .call2 f a b, memory => do
    let x ← a.evalWithin limit height memory >>= Evaluation.keep limit height
    let y ← b.evalWithin limit (height + 1) x.memory >>= Evaluation.keep limit (height + 1)
    return ⟨f.apply x.value y.value, y.memory⟩
  | height, .numberFormat a b c, memory => do
    let x ← a.evalWithin limit height memory >>= Evaluation.keep limit height
    let y ← b.evalWithin limit (height + 1) x.memory >>= Evaluation.keep limit (height + 1)
    let z ← c.evalWithin limit (height + 2) y.memory >>= Evaluation.keep limit (height + 2)
    return ⟨Formula.numberFormat x.value y.value z.value, z.memory⟩

/-- The greatest number of operands of an expression that wait at the same time. -/
def depth : Expr → Nat
  | .const _ | .param _ => 0
  | .assign _ e | .unary _ e => e.depth
  | .binary _ l r | .logical _ l r => max l.depth (r.depth + 1)
  | .sequence a b => max a.depth b.depth
  | .conditional c yes no => max c.depth (max yes.depth no.depth)
  | .call1 _ a => max a.depth 1
  | .call2 _ a b => max a.depth (max (b.depth + 1) 2)
  | .numberFormat a b c => max a.depth (max (b.depth + 1) (max (c.depth + 2) 3))

end Expr

/-- A failure of either part of a computation is passed on. -/
lemma mapError_bind {ε ε' α β : Type} (g : ε → ε') (x : Except ε α) (f : α → Except ε β) :
    (x >>= f).mapError g = x.mapError g >>= fun a => (f a).mapError g := by
  cases x with
  | error => rfl
  | ok => rfl

/-- Where there is place for it, a value is kept. -/
lemma bind_keep_of_lt {limit height : Nat} (h : height < limit) (x : Except Halt Evaluation) :
    x >>= Evaluation.keep limit height = x := by
  cases x with
  | error => rfl
  | ok v => exact if_pos h

namespace Expr

/-- Within the depth of an expression nothing is said of the operands that wait. -/
theorem evalWithin_eq {limit height : Nat} {e : Expr} (h : height + e.depth ≤ limit)
    (memory : Array Float) :
    (e.evalWithin limit height memory).mapError Halt.divisor? = (e.eval memory).mapError some := by
  -- Within the limit every value that has to wait is kept, and then both recursions agree.
  induction e generalizing height memory with
  | const => rfl
  | param => rfl
  | assign slot e ih =>
    simp only [eval, evalWithin, mapError_bind, ih h]
    rfl
  | unary op e ih =>
    simp only [eval, evalWithin, mapError_bind, ih h]
    rfl
  | binary op l r ihl ihr =>
    rw [depth] at h
    have hl : height + l.depth ≤ limit := by omega
    have hr : height + 1 + r.depth ≤ limit := by omega
    rw [eval, evalWithin, bind_keep_of_lt (by omega)]
    simp only [mapError_bind, ihl hl, ihr hr]
    congr! 4 with x y
    split
    · rfl
    · rfl
  | logical op l r ihl ihr =>
    rw [depth] at h
    have hl : height + l.depth ≤ limit := by omega
    have hr : height + 1 + r.depth ≤ limit := by omega
    rw [eval, evalWithin, bind_keep_of_lt (by omega)]
    simp only [mapError_bind, ihl hl]
    congr! 2 with x
    split
    · rfl
    · simp only [mapError_bind, ihr hr]
      rfl
  | sequence a b iha ihb =>
    rw [depth] at h
    have ha : height + a.depth ≤ limit := by omega
    have hb : height + b.depth ≤ limit := by omega
    simp only [eval, evalWithin, mapError_bind, iha ha, ihb hb]
  | conditional c yes no ihc ihyes ihno =>
    rw [depth] at h
    have hc : height + c.depth ≤ limit := by omega
    have hyes : height + yes.depth ≤ limit := by omega
    have hno : height + no.depth ≤ limit := by omega
    simp only [eval, evalWithin, mapError_bind, ihc hc]
    congr! 2 with v
    split
    · exact ihyes hyes _
    · exact ihno hno _
  | call1 f a ih =>
    rw [depth] at h
    have ha : height + a.depth ≤ limit := by omega
    rw [eval, evalWithin, bind_keep_of_lt (by omega)]
    simp only [mapError_bind, ih ha]
    rfl
  | call2 f a b iha ihb =>
    rw [depth] at h
    have ha : height + a.depth ≤ limit := by omega
    have hb : height + 1 + b.depth ≤ limit := by omega
    rw [eval, evalWithin, bind_keep_of_lt (by omega)]
    simp only [bind_keep_of_lt (show height + 1 < limit by omega), mapError_bind, iha ha, ihb hb]
    rfl
  | numberFormat a b c iha ihb ihc =>
    rw [depth] at h
    have ha : height + a.depth ≤ limit := by omega
    have hb : height + 1 + b.depth ≤ limit := by omega
    have hc : height + 2 + c.depth ≤ limit := by omega
    rw [eval, evalWithin, bind_keep_of_lt (by omega)]
    simp only [bind_keep_of_lt (show height + 1 < limit by omega),
      bind_keep_of_lt (show height + 2 < limit by omega), mapError_bind, iha ha, ihb hb, ihc hc]
    rfl

/-- A value is found within the depth of an expression if it is found at all. -/
lemma evalWithin_eq_ok {limit height : Nat} {e : Expr} (h : height + e.depth ≤ limit)
    {memory : Array Float} {v : Evaluation} (hv : e.eval memory = .ok v) :
    e.evalWithin limit height memory = .ok v := by
  have he := evalWithin_eq h memory
  rw [hv] at he
  cases hw : e.evalWithin limit height memory with
  | error halt =>
    rw [hw] at he
    cases he
  | ok w =>
    rw [hw] at he
    cases he
    rfl

/-- A division by zero is noticed within the depth of an expression. -/
lemma evalWithin_eq_error {limit height : Nat} {e : Expr} (h : height + e.depth ≤ limit)
    {memory : Array Float} {divisor : Float} (hv : e.eval memory = .error divisor) :
    ∃ height', e.evalWithin limit height memory = .error (.divideByZero divisor height') := by
  have he := evalWithin_eq h memory
  rw [hv] at he
  cases hw : e.evalWithin limit height memory with
  | error halt =>
    rw [hw] at he
    cases halt with
    | stackOverflow value height' => cases he
    | divideByZero divisor' height' =>
      cases he
      exact ⟨height', rfl⟩
  | ok w =>
    rw [hw] at he
    cases he

/-- Too many operands wait only if there is no place for the depth of the expression. -/
lemma lt_of_evalWithin_eq_stackOverflow {limit height height' : Nat} {e : Expr}
    {memory : Array Float} {value : Float}
    (h : e.evalWithin limit height memory = .error (.stackOverflow value height')) :
    limit < height + e.depth := by
  by_contra hlimit
  have he := evalWithin_eq (Nat.le_of_not_lt hlimit) memory
  rw [h] at he
  cases hv : e.eval memory with
  | error divisor =>
    rw [hv] at he
    cases he
  | ok v =>
    rw [hv] at he
    cases he

end Expr

/-- An evaluation that ends leaves a memory of a given size. -/
def HasSize (n : Nat) (x : Except Halt Evaluation) : Prop :=
  ∀ v, x = .ok v → v.memory.size = n

namespace HasSize

variable {n : Nat} {x : Except Halt Evaluation} {f : Evaluation → Except Halt Evaluation}

/-- A value over a memory of the size. -/
lemma ok {v : Evaluation} (h : v.memory.size = n) : HasSize n (.ok v) := by
  intro w hw
  cases hw
  exact h

/-- Nothing is said of failures. -/
lemma error (halt : Halt) : HasSize n (.error halt) :=
  nofun

/-- One evaluation after another. -/
lemma bind (hx : HasSize n x) (hf : ∀ v, v.memory.size = n → HasSize n (f v)) :
    HasSize n (x >>= f) := by
  cases x with
  | error halt => exact error halt
  | ok v => exact hf v (hx v rfl)

/-- A value that is kept. -/
lemma keep (hx : HasSize n x) (limit height : Nat) :
    HasSize n (x >>= Evaluation.keep limit height) := by
  apply hx.bind
  intro v hv
  unfold Evaluation.keep
  split
  · exact ok hv
  · exact error _

/-- The memory has as many slots after an evaluation as before. -/
lemma evalWithin (limit height : Nat) (e : Expr) (memory : Array Float) :
    HasSize memory.size (e.evalWithin limit height memory) := by
  induction e generalizing height memory with
  | const => exact ok rfl
  | param => exact ok rfl
  | assign slot e ih =>
    apply (ih height memory).bind
    intro v hv
    exact ok (by simp [hv])
  | unary op e ih =>
    apply (ih height memory).bind
    intro v hv
    exact ok hv
  | binary op l r ihl ihr =>
    apply ((ihl height memory).keep _ _).bind
    intro x hx
    apply (hx ▸ ihr (height + 1) x.memory).bind
    intro y hy
    split
    · exact error _
    · exact ok hy
  | logical op l r ihl ihr =>
    apply ((ihl height memory).keep _ _).bind
    intro x hx
    split
    · exact ok hx
    · apply (hx ▸ ihr (height + 1) x.memory).bind
      intro y hy
      exact ok hy
  | sequence a b iha ihb =>
    apply (iha height memory).bind
    intro v hv
    exact hv ▸ ihb height v.memory
  | conditional c yes no ihc ihyes ihno =>
    apply (ihc height memory).bind
    intro v hv
    split
    · exact hv ▸ ihyes height v.memory
    · exact hv ▸ ihno height v.memory
  | call1 f a ih =>
    apply ((ih height memory).keep _ _).bind
    intro x hx
    exact ok hx
  | call2 f a b iha ihb =>
    apply ((iha height memory).keep _ _).bind
    intro x hx
    apply (hx ▸ (ihb (height + 1) x.memory).keep limit (height + 1)).bind
    intro y hy
    exact ok hy
  | numberFormat a b c iha ihb ihc =>
    apply ((iha height memory).keep _ _).bind
    intro x hx
    apply (hx ▸ (ihb (height + 1) x.memory).keep limit (height + 1)).bind
    intro y hy
    apply (hy ▸ (ihc (height + 2) y.memory).keep limit (height + 2)).bind
    intro z hz
    exact ok hz

end HasSize

end Formula
