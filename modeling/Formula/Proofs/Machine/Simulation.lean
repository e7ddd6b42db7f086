import Formula.Proofs.Expr.Words
import Formula.Proofs.Machine.Run
import Mathlib

/-!
# The machine evaluates expressions

Wherever the words of an expression stand in a program, a run over them does what the evaluation of
the expression says: it reaches the end of the words with the value in the accumulator and the stack
as it was, or it ends with the fault of the evaluation. The induction is on the expression, for both
kinds of code: that which leaves the value in the accumulator only, and that which pushes it as well.
-/

namespace Formula

namespace Evaluation

/-- A value is kept if it is pushed. -/
def keepIf (limit height : Nat) : Bool → Evaluation → Except Halt Evaluation
  | true, v => v.keep limit height
  | false, v => .ok v

/-- The state of the machine with a value in the accumulator, and on the stack if it is pushed. -/
def state (push : Bool) (stack : List Float) (v : Evaluation) : MachineState :=
  ⟨v.value, if push then v.value :: stack else stack, v.memory⟩

/-- A value that is not pushed is not kept. -/
lemma bind_keepIf_false (limit height : Nat) (x : Except Halt Evaluation) :
    x >>= keepIf limit height false = x := by
  cases x with
  | error => rfl
  | ok => rfl

end Evaluation

/-- The slots of an expression are below a number. -/
def Expr.SlotsBelow (n : Nat) : Expr → Prop
  | .const _ => True
  | .param slot => slot < n
  | .assign slot e => slot < n ∧ e.SlotsBelow n
  | .unary _ e => e.SlotsBelow n
  | .binary _ l r | .logical _ l r => l.SlotsBelow n ∧ r.SlotsBelow n
  | .sequence a b => a.SlotsBelow n ∧ b.SlotsBelow n
  | .conditional c yes no => c.SlotsBelow n ∧ yes.SlotsBelow n ∧ no.SlotsBelow n
  | .call1 _ a => a.SlotsBelow n
  | .call2 _ a b => a.SlotsBelow n ∧ b.SlotsBelow n
  | .numberFormat a b c => a.SlotsBelow n ∧ b.SlotsBelow n ∧ c.SlotsBelow n

namespace Machine

variable {p : Program} {config : MachineConfig} {i j : Nat} {s : MachineState}
  {stack : List Float} {v : Evaluation} {push : Bool}

/-- A push of the accumulator. -/
lemma leads_push (h : Holds p.code i (Expr.pushWords push)) :
    Leads p config i (v.state false stack) (i + (Expr.pushWords push).length)
      (v.keepIf config.stackSize stack.length push) (Evaluation.state push stack) := by
  cases push with
  | false => exact Leads.refl v _
  | true =>
    have hcode : Holds p.code i [Opcode.push.word] := h
    by_cases hroom : stack.length < config.stackSize
    · have hkeep : v.keepIf config.stackSize stack.length true = .ok v := if_pos hroom
      have hstep : perform p config i (v.state false stack) .push =
          .ok (.next 0 (v.state true stack)) := by
        simp [perform, Machine.push, Evaluation.state, hroom, bind, Except.bind]
        rfl
      rw [hkeep]
      exact run_next hcode.head hstep
    · have hkeep : v.keepIf config.stackSize stack.length true =
          .error (.stackOverflow v.value stack.length) := if_neg hroom
      have hstep : perform p config i (v.state false stack) .push =
          .error (.stackOverflow ⟨i, v.value, stack.length⟩) := by
        simp [perform, Machine.push, Evaluation.state, hroom, bind, Except.bind, registers]
      rw [hkeep]
      exact ⟨i, run_fault hcode.head hstep⟩

/-- Code without a push, and then the push of its value if there is one. -/
lemma Leads.pushed {ws : List Int32} {x : Except Halt Evaluation}
    (hcode : Holds p.code i (ws ++ Expr.pushWords push))
    (h : Leads p config i s (i + ws.length) x (Evaluation.state false stack)) :
    Leads p config i s (i + (ws ++ Expr.pushWords push).length)
      (x >>= Evaluation.keepIf config.stackSize stack.length push)
      (Evaluation.state push stack) := by
  rw [List.length_append, ← Nat.add_assoc]
  exact h.bind fun v _ => leads_push hcode.right

/-- The operand of a load, fused or not. -/
lemma operand_of_loadWords {optimize : Bool} {load fused : Opcode} {operand : Int32}
    (h : Holds p.code i (Expr.loadWords optimize push load fused operand)) :
    p.code[i + 1]? = some operand := by
  unfold Expr.loadWords at h
  split at h
  · exact h.tail.head
  · exact h.tail.head

/-- A load, which is fused with the push after it or not. -/
lemma leads_load {optimize : Bool} {load fused : Opcode} {operand : Int32} {x : Float}
    (hcode : Holds p.code i (Expr.loadWords optimize push load fused operand))
    (hload : perform p config i s load = .ok (.next 1 ⟨x, s.stack, s.memory⟩))
    (hfused : perform p config i s fused =
      (Machine.push config i x ⟨x, s.stack, s.memory⟩ >>= fun s => .ok (.next 1 s))) :
    Leads p config i s (i + (Expr.loadWords optimize push load fused operand).length)
      (Evaluation.keepIf config.stackSize s.stack.length push ⟨x, s.memory⟩)
      (Evaluation.state push s.stack) := by
  unfold Expr.loadWords at hcode ⊢
  split
  · next hfuse =>
    -- The fused load has the value in the accumulator when it finds the stack full, as the push has.
    obtain ⟨-, rfl⟩ := Bool.and_eq_true_iff.1 hfuse
    rw [if_pos hfuse] at hcode
    by_cases hroom : s.stack.length < config.stackSize
    · have hkeep : Evaluation.keepIf config.stackSize s.stack.length true ⟨x, s.memory⟩ =
          .ok ⟨x, s.memory⟩ := if_pos hroom
      rw [Machine.push, if_pos hroom] at hfused
      rw [hkeep]
      exact run_next hcode.head hfused
    · have hkeep : Evaluation.keepIf config.stackSize s.stack.length true ⟨x, s.memory⟩ =
          .error (.stackOverflow x s.stack.length) := if_neg hroom
      rw [Machine.push, if_neg hroom] at hfused
      rw [hkeep]
      exact ⟨i, run_fault hcode.head hfused⟩
  · next hfuse =>
    rw [if_neg hfuse] at hcode
    have hrun : Leads p config i s (i + 2) (.ok ⟨x, s.memory⟩) (Evaluation.state false s.stack) :=
      run_next hcode.head hload
    exact Leads.pushed hcode hrun

/-- A run goes on behind the distance of a jump that is taken. -/
lemma run_of_isTaken {jump : Jump} {distance : Nat} (h : p.code[i]? = some (Opcode.jump jump).word)
    (htaken : jump.isTaken s.accumulator = true) (hdistance : jumpDistance p i = .ok distance) :
    run p config i s = run p config (i + distance + 1) s := by
  have hstep : perform p config i s (.jump jump) = .ok (.next distance s) := by
    simp only [perform, htaken, if_true, hdistance, bind, Except.bind]
    rfl
  exact run_next h hstep

/-- A jump that is taken, in code that is not too long. -/
lemma run_jump {jump : Jump} {distance : Nat}
    (hcode : Holds p.code i [(Opcode.jump jump).word, Int32.ofNat distance])
    (htaken : jump.isTaken s.accumulator = true) (hj : j = i + distance + 1)
    (hend : j < p.code.size) (hsize : p.code.size ≤ 2 ^ 31) :
    run p config i s = run p config j s := by
  subst hj
  exact run_of_isTaken hcode.head htaken (jumpDistance_eq hcode.tail.head hend hsize)

/-- A jump that is not taken. -/
lemma run_jump_of_not {jump : Jump} {distance : Nat}
    (hcode : Holds p.code i [(Opcode.jump jump).word, Int32.ofNat distance])
    (htaken : jump.isTaken s.accumulator = false) :
    run p config i s = run p config (i + 2) s := by
  have hstep : perform p config i s (.jump jump) = .ok (.next 1 s) := by
    simp [perform, htaken]
  exact run_next hcode.head hstep

/-- A logical operator is left out where its left operand decides it. -/
lemma isTaken_skip (op : LogicalOp) (x : Float) : op.skip.isTaken x = op.isDecidedBy x := by
  cases op with
  | or => rfl
  | and => rfl

/-- A left operand that decides a logical operator is its value, by whether it is true. -/
lemma apply_self (op : LogicalOp) (x : Float) : op.apply x x = ofBool (isTrue x) := by
  cases op with
  | or => rw [LogicalOp.apply, Bool.or_self]
  | and => rw [LogicalOp.apply, Bool.and_self]

/-- A logical operator that is not decided by its left operand has the value of the right one, by
whether it is true. -/
lemma apply_of_not_isDecidedBy {op : LogicalOp} {x : Float} (h : ¬op.isDecidedBy x = true)
    (y : Float) : op.apply x y = ofBool (isTrue y) := by
  cases op with
  | or =>
    have hx : isTrue x = false := by simpa [LogicalOp.isDecidedBy] using h
    rw [LogicalOp.apply, hx, Bool.false_or]
  | and =>
    have hx : isTrue x = true := by simpa [LogicalOp.isDecidedBy] using h
    rw [LogicalOp.apply, hx, Bool.true_and]

/-- An evaluation that ends leaves a memory of the same size. -/
lemma size_of_evalWithin {limit height : Nat} {e : Expr} {memory : Array Float}
    (h : e.evalWithin limit height memory = .ok v) : v.memory.size = memory.size :=
  HasSize.evalWithin limit height e memory v h

/-- An evaluation whose value is kept leaves a memory of the same size. -/
lemma size_of_keep {limit height : Nat} {e : Expr} {memory : Array Float}
    (h : e.evalWithin limit height memory >>= Evaluation.keep limit height = .ok v) :
    v.memory.size = memory.size :=
  (HasSize.evalWithin limit height e memory).keep limit height v h

/-- Runs over the words of an expression do what its evaluation says, wherever the words and the
constants of the expression stand, if the memory has a number of slots. -/
def Simulates (p : Program) (config : MachineConfig) (optimize : Bool) (n : Nat) (e : Expr) : Prop :=
  ∀ (push : Bool) (k i : Nat) (s : MachineState),
    Holds p.code i (e.words optimize push k) →
    i + (e.words optimize push k).length < p.code.size →
    Holds p.constants k e.constants →
    n ≤ s.memory.size →
    Leads p config i s (i + (e.words optimize push k).length)
      (e.evalWithin config.stackSize s.stack.length s.memory >>=
        Evaluation.keepIf config.stackSize s.stack.length push)
      (Evaluation.state push s.stack)

namespace Simulates

variable {optimize : Bool} {n m k : Nat} {a b c e l r yes no : Expr}

/-- An expression that is not pushed. -/
lemma alone (h : Simulates p config optimize n e)
    (hcode : Holds p.code i (e.words optimize false k))
    (hend : i + (e.words optimize false k).length < p.code.size)
    (hconstants : Holds p.constants k e.constants) (hn : n ≤ s.memory.size) :
    Leads p config i s (i + (e.words optimize false k).length)
      (e.evalWithin config.stackSize s.stack.length s.memory)
      (Evaluation.state false s.stack) := by
  have hleads := h false k i s hcode hend hconstants hn
  rwa [Evaluation.bind_keepIf_false] at hleads

/-- An expression that is pushed. -/
lemma kept (h : Simulates p config optimize n e)
    (hcode : Holds p.code i (e.words optimize true k))
    (hend : i + (e.words optimize true k).length < p.code.size)
    (hconstants : Holds p.constants k e.constants) (hn : n ≤ s.memory.size) :
    Leads p config i s (i + (e.words optimize true k).length)
      (e.evalWithin config.stackSize s.stack.length s.memory >>=
        Evaluation.keep config.stackSize s.stack.length)
      (Evaluation.state true s.stack) :=
  h true k i s hcode hend hconstants hn

/-- The load of a number finds it in the pool. -/
lemma const (hpool : p.constants.size ≤ 2 ^ 31) (x : Float) :
    Simulates p config optimize n (.const x) := by
  intro push k i s hcode _ hconstants _
  have hk : p.constants[k]? = some x.toBits := hconstants.head
  have hword : k < 2 ^ 31 :=
    Nat.lt_of_lt_of_le (Array.getElem?_eq_some_iff.1 hk).1 hpool
  have hconstant : constant p i = .ok x := by
    rw [constant_eq (operand_of_loadWords hcode) hk hword, Float.ofBits_toBits]
  refine leads_load hcode ?_ ?_
  · simp [perform, hconstant, bind, Except.bind]
    rfl
  · simp [perform, hconstant, bind, Except.bind]
    rfl

/-- The load of a parameter finds its slot. -/
lemma param (hm : m < n) (hn : n ≤ 2 ^ 31) : Simulates p config optimize n (.param m) := by
  intro push k i s hcode _ _ hmemory
  have hsize : m < s.memory.size := Nat.lt_of_lt_of_le hm hmemory
  have hslot := slot_eq (operand_of_loadWords hcode) hsize (Nat.lt_of_lt_of_le hm hn)
  have hget : s.memory.getD m 0 = s.memory[m] := by
    rw [Array.getD, dif_pos hsize]
    rfl
  rw [Expr.evalWithin, hget]
  refine leads_load hcode ?_ ?_
  · simp [perform, hslot, bind, Except.bind]
    rfl
  · simp [perform, hslot, bind, Except.bind]
    rfl

/-- The store of an assignment finds the value of its expression, and its slot. -/
lemma assign (hm : m < n) (hn : n ≤ 2 ^ 31) (he : Simulates p config optimize n e) :
    Simulates p config optimize n (.assign m e) := by
  intro push k i s hcode hend hconstants hmemory
  refine Leads.pushed hcode ?_
  have hcode := hcode.left
  have hvalue := he.alone hcode.left (by simp [Expr.words] at hend; omega) hconstants hmemory
  rw [List.length_append, ← Nat.add_assoc, Expr.evalWithin]
  refine hvalue.bind fun v hv => ?_
  have hm' : m < v.memory.size := by
    rw [← size_of_evalWithin hv] at hmemory
    exact Nat.lt_of_lt_of_le hm hmemory
  have hslot := slot_eq (s := v.state false s.stack) hcode.right.tail.head hm'
    (Nat.lt_of_lt_of_le hm hn)
  have hset : v.memory.setIfInBounds m v.value = v.memory.set m v.value hm' := by
    rw [Array.setIfInBounds, dif_pos hm']
  have hstep : perform p config (i + (e.words optimize false k).length) (v.state false s.stack)
      .storeVar = .ok (.next 1 (Evaluation.state false s.stack
        ⟨v.value, v.memory.setIfInBounds m v.value⟩)) := by
    rw [hset]
    simp [perform, hslot, bind, Except.bind]
    rfl
  exact run_next hcode.right.head hstep

/-- A prefix operator finds its operand in the accumulator. -/
lemma unary (op : UnaryOp) (he : Simulates p config optimize n e) :
    Simulates p config optimize n (.unary op e) := by
  intro push k i s hcode hend hconstants hmemory
  refine Leads.pushed hcode ?_
  have hcode := hcode.left
  have hvalue := he.alone hcode.left (by simp [Expr.words] at hend; omega) hconstants hmemory
  rw [List.length_append, ← Nat.add_assoc, Expr.evalWithin]
  refine hvalue.bind fun v _ => ?_
  have hstep : perform p config (i + (e.words optimize false k).length) (v.state false s.stack)
      (.unary op) = .ok (.next 0 (Evaluation.state false s.stack ⟨op.apply v.value, v.memory⟩)) :=
    rfl
  exact run_next hcode.right.head hstep

/-- A binary operator finds the left operand on the stack and the right one in the accumulator. -/
lemma binary (op : BinaryOp) (hl : Simulates p config optimize n l)
    (hr : Simulates p config optimize n r) : Simulates p config optimize n (.binary op l r) := by
  intro push k i s hcode hend hconstants hmemory
  refine Leads.pushed hcode ?_
  have hcode := hcode.left
  have hleft := hl.kept hcode.left.left (by simp [Expr.words] at hend; omega) hconstants.left
    hmemory
  rw [Expr.evalWithin, List.length_append, List.length_append, ← Nat.add_assoc, ← Nat.add_assoc]
  refine hleft.bind fun x hx => ?_
  have hright := hr.alone (s := x.state true s.stack) hcode.left.right
    (by simp [Expr.words] at hend; omega) hconstants.right (size_of_keep hx ▸ hmemory)
  refine hright.bind fun y _ => ?_
  have hop := hcode.right.head
  rw [List.length_append, ← Nat.add_assoc] at hop
  split
  · next hzero =>
    -- The operator faults before it takes the left operand from the stack.
    refine Leads.fault hop ?_
    simp [perform, Evaluation.state, hzero]
    rfl
  · next hzero =>
    refine Leads.short hop ?_
    simp [perform, Evaluation.state, hzero]
    rfl

/-- The jump of a logical operator leads to the operator itself, or the right operand is evaluated. -/
lemma logical (hsize : p.code.size ≤ 2 ^ 31) (op : LogicalOp)
    (hl : Simulates p config optimize n l) (hr : Simulates p config optimize n r) :
    Simulates p config optimize n (.logical op l r) := by
  intro push k i s hcode hend hconstants hmemory
  refine Leads.pushed hcode ?_
  have hcode := hcode.left
  have hleft := hl.kept hcode.left.left (by simp [Expr.words] at hend; omega) hconstants.left
    hmemory
  have hjump := hcode.left.right.left
  have hcodeRight : Holds p.code (i + (l.words optimize true k).length + 2)
      (r.words optimize false (k + l.constants.length)) :=
    hcode.left.right.right
  have hop := hcode.right.head
  simp only [List.length_append, List.length_cons, List.length_nil, Nat.zero_add, ← Nat.add_assoc]
    at hop ⊢
  have hend : i + (l.words optimize true k).length + 2 +
      (r.words optimize false (k + l.constants.length)).length + 1 ≤ p.code.size := by
    simp [Expr.words] at hend
    omega
  rw [Expr.evalWithin]
  refine hleft.bind fun x hx => ?_
  split
  · next hdecided =>
    -- The jump leads to the operator, which finds the left value twice.
    have htaken : op.skip.isTaken (x.state true s.stack).accumulator = true :=
      (isTaken_skip op x.value).trans hdecided
    have hstep (position : Nat) : perform p config position (x.state true s.stack) (.logical op) =
        .ok (.next 0 (Evaluation.state false s.stack ⟨ofBool (isTrue x.value), x.memory⟩)) := by
      rw [← apply_self op]
      rfl
    exact Leads.of_run_eq (run_jump hjump htaken (by omega) (by omega) hsize)
      (Leads.short hop (hstep _))
  · next hdecided =>
    -- The right operand is evaluated while the left value waits.
    have htaken : op.skip.isTaken (x.state true s.stack).accumulator = false :=
      (isTaken_skip op x.value).trans (Bool.eq_false_iff.2 hdecided)
    refine Leads.of_run_eq (run_jump_of_not hjump htaken) ?_
    have hright := hr.alone (s := x.state true s.stack) hcodeRight (by omega)
      hconstants.right (size_of_keep hx ▸ hmemory)
    refine hright.bind fun y _ => ?_
    refine Leads.short hop ?_
    rw [← apply_of_not_isDecidedBy hdecided]
    rfl

/-- One expression is evaluated after another, and only the last one is pushed. -/
lemma sequence (ha : Simulates p config optimize n a) (hb : Simulates p config optimize n b) :
    Simulates p config optimize n (.sequence a b) := by
  intro push k i s hcode hend hconstants hmemory
  have hfirst := ha.alone hcode.left (by simp [Expr.words] at hend; omega) hconstants.left hmemory
  rw [Expr.evalWithin, Expr.words, List.length_append, ← Nat.add_assoc, bind_assoc]
  refine hfirst.bind fun x hx => ?_
  exact hb push _ _ (x.state false s.stack) hcode.right
    (by simp [Expr.words] at hend; omega) hconstants.right (size_of_evalWithin hx ▸ hmemory)

/-- Of the branches of a conditional, the one that its condition selects is evaluated. -/
lemma conditional (hsize : p.code.size ≤ 2 ^ 31) (hc : Simulates p config optimize n c)
    (hyes : Simulates p config optimize n yes) (hno : Simulates p config optimize n no) :
    Simulates p config optimize n (.conditional c yes no) := by
  intro push k i s hcode hend hconstants hmemory
  refine Leads.pushed hcode ?_
  have hcode := hcode.left
  have hcondition := hc.alone hcode.left (by simp [Expr.words] at hend; omega)
    hconstants.left.left hmemory
  have hbranches := hcode.right
  have honFalse := hbranches.left.left.left
  have hcodeYes : Holds p.code (i + (c.words optimize false k).length + 2)
      (yes.words optimize false (k + c.constants.length)) :=
    hbranches.left.left.right
  have hdone := hbranches.left.right
  have hcodeNo := hbranches.right
  have hpool := hconstants.right
  simp only [List.length_append, List.length_cons, List.length_nil, Nat.zero_add, ← Nat.add_assoc]
    at hdone hcodeNo hpool ⊢
  have hend : i + (c.words optimize false k).length + 2 +
      (yes.words optimize false (k + c.constants.length)).length + 2 +
      (no.words optimize false (k + c.constants.length + yes.constants.length)).length <
        p.code.size := by
    simp [Expr.words] at hend
    omega
  rw [Expr.evalWithin]
  refine hcondition.bind fun v hv => ?_
  have hmemory := size_of_evalWithin hv ▸ hmemory
  split
  · next htrue =>
    have htaken : Jump.isTaken (v.state false s.stack).accumulator .ifFalse = false := by
      rw [Jump.isTaken, Bool.not_eq_false']
      exact htrue
    refine Leads.of_run_eq (run_jump_of_not honFalse htaken) ?_
    have hleads := hyes.alone (s := v.state false s.stack) hcodeYes (by omega)
      hconstants.left.right hmemory
    -- After the first branch a jump leads over the second one.
    exact hleads.run_eq fun w => run_jump hdone rfl (by omega) (by omega) hsize
  · next hfalse =>
    have htaken : Jump.isTaken (v.state false s.stack).accumulator .ifFalse = true := by
      rw [Jump.isTaken, Bool.not_eq_true']
      exact Bool.eq_false_iff.2 hfalse
    have hleads := hno.alone (s := v.state false s.stack) hcodeNo (by omega) hpool hmemory
    exact Leads.of_run_eq (run_jump honFalse htaken (by omega) (by omega) hsize) hleads

/-- A function finds its argument on the stack. -/
lemma call1 (f : Function1) (ha : Simulates p config optimize n a) :
    Simulates p config optimize n (.call1 f a) := by
  intro push k i s hcode hend hconstants hmemory
  refine Leads.pushed hcode ?_
  have hcode := hcode.left
  have hfirst := ha.kept hcode.left (by simp [Expr.words] at hend; omega) hconstants hmemory
  rw [Expr.evalWithin, List.length_append, ← Nat.add_assoc]
  refine hfirst.bind fun x _ => ?_
  exact Leads.short hcode.right.head rfl

/-- A function finds its two arguments on the stack, the last one on top. -/
lemma call2 (f : Function2) (ha : Simulates p config optimize n a)
    (hb : Simulates p config optimize n b) : Simulates p config optimize n (.call2 f a b) := by
  intro push k i s hcode hend hconstants hmemory
  refine Leads.pushed hcode ?_
  have hcode := hcode.left
  have hfirst := ha.kept hcode.left.left (by simp [Expr.words] at hend; omega) hconstants.left
    hmemory
  rw [Expr.evalWithin, List.length_append, List.length_append, ← Nat.add_assoc, ← Nat.add_assoc]
  refine hfirst.bind fun x hx => ?_
  have hsecond := hb.kept (s := x.state true s.stack) hcode.left.right
    (by simp [Expr.words] at hend; omega) hconstants.right (size_of_keep hx ▸ hmemory)
  refine hsecond.bind fun y _ => ?_
  have hcall := hcode.right.head
  rw [List.length_append, ← Nat.add_assoc] at hcall
  exact Leads.short hcall rfl

/-- The format of a number finds its three arguments on the stack, the last one on top. -/
lemma numberFormat (ha : Simulates p config optimize n a) (hb : Simulates p config optimize n b)
    (hc : Simulates p config optimize n c) :
    Simulates p config optimize n (.numberFormat a b c) := by
  intro push k i s hcode hend hconstants hmemory
  refine Leads.pushed hcode ?_
  have hcode := hcode.left
  have hfirst := ha.kept hcode.left.left.left (by simp [Expr.words] at hend; omega)
    hconstants.left.left hmemory
  rw [Expr.evalWithin, List.length_append, List.length_append, List.length_append,
    ← Nat.add_assoc, ← Nat.add_assoc, ← Nat.add_assoc]
  refine hfirst.bind fun x hx => ?_
  have hx := size_of_keep hx
  have hsecond := hb.kept (s := x.state true s.stack) hcode.left.left.right
    (by simp [Expr.words] at hend; omega) hconstants.left.right (hx ▸ hmemory)
  refine hsecond.bind fun y hy => ?_
  have hy := (size_of_keep hy).trans hx
  have hcodeThird := hcode.left.right
  have hpool := hconstants.right
  have hcall := hcode.right.head
  simp only [List.length_append, ← Nat.add_assoc] at hcodeThird hpool hcall
  have hthird := hc.kept (s := y.state true (x.state true s.stack).stack) hcodeThird
    (by simp [Expr.words] at hend; omega) hpool (hy ▸ hmemory)
  refine hthird.bind fun z _ => ?_
  exact Leads.short hcall rfl

end Simulates

/-- Runs do what evaluation says, in every program that 32-bit words can address. -/
theorem simulates {n : Nat} {e : Expr} (hslots : e.SlotsBelow n) (hn : n ≤ 2 ^ 31)
    (hsize : p.code.size ≤ 2 ^ 31) (hpool : p.constants.size ≤ 2 ^ 31) (optimize : Bool) :
    Simulates p config optimize n e := by
  induction e with
  | const x => exact .const hpool x
  | param m => exact .param hslots hn
  | assign m e ih => exact .assign hslots.1 hn (ih hslots.2)
  | unary op e ih => exact .unary op (ih hslots)
  | binary op l r ihl ihr => exact .binary op (ihl hslots.1) (ihr hslots.2)
  | logical op l r ihl ihr => exact .logical hsize op (ihl hslots.1) (ihr hslots.2)
  | sequence a b iha ihb => exact .sequence (iha hslots.1) (ihb hslots.2)
  | conditional c yes no ihc ihyes ihno =>
    exact .conditional hsize (ihc hslots.1) (ihyes hslots.2.1) (ihno hslots.2.2)
  | call1 f a ih => exact .call1 f (ih hslots)
  | call2 f a b iha ihb => exact .call2 f (iha hslots.1) (ihb hslots.2)
  | numberFormat a b c iha ihb ihc =>
    exact .numberFormat (iha hslots.1) (ihb hslots.2.1) (ihc hslots.2.2)

end Machine

end Formula
