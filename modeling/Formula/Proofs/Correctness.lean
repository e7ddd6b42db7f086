import Formula.Proofs.Compile
import Formula.Proofs.Except
import Formula.Proofs.Machine.Execution
import Formula.Proofs.Program.Depth

/-!
# Correctness of the compiler

A compiled formula computes what the tree of its body means (`execute_compiled`). Fusing loads with
pushes does not show (`compile_optimize`), and a compiled formula fails in few ways
(`compiled_isSafe`). All three rest on the evaluation of the tree within the capacity of the stack,
which runs of both programs of the tree follow.
-/

namespace Formula

/-- A slot that is found is one of the declared parameters. -/
lemma Parameters.lt_size_of_slot? {ps : Parameters} {name : String} {slot : Nat}
    (h : ps.slot? name = some slot) : slot < ps.size := by
  obtain ⟨hslot, -⟩ := List.idxOf?_eq_some_iff.1 h
  exact hslot

/-- An operator's slots are those of its operands. -/
lemma Infix.slotsBelow_join {n : Nat} (op : Infix) {l r : Expr} (hl : l.SlotsBelow n)
    (hr : r.SlotsBelow n) : (op.join l r).SlotsBelow n := by
  cases op with
  | logical op => exact ⟨hl, hr⟩
  | binary op => exact ⟨hl, hr⟩
  | sequence => exact ⟨hl, hr⟩

/-- The slots of a tree are declared. -/
lemma Derives.slotsBelow {ps : Parameters} {c : Category} {ts : List Token} {r : Reading}
    (h : Derives ps c ts r) : r.tree.SlotsBelow ps.size := by
  induction h with
  | assign hslot _ ih => exact ⟨Parameters.lt_size_of_slot? hslot, ih⟩
  | more _ _ _ ihl ihr => exact Infix.slotsBelow_join _ ihl ihr
  | number => trivial
  | hexNumber => trivial
  | constant => trivial
  | param _ _ hslot => exact Parameters.lt_size_of_slot? hslot
  | call2 _ _ _ iha ihb => exact ⟨iha, ihb⟩
  | numberFormat _ _ _ _ iha ihb ihc => exact ⟨iha, ihb, ihc⟩
  | conditional _ _ _ _ ihc ihyes ihno => exact ⟨ihc, ihyes, ihno⟩
  | operation _ ih => exact ih
  | single _ ih => exact ih
  | plus _ ih => exact ih
  | prefixed _ _ ih => exact ih
  | atom _ ih => exact ih
  | parenthesis _ ih => exact ih
  | call1 _ _ ih => exact ih

/-- The parameters that a text declares. -/
def Declares (text : String) (parameters : Parameters) : Prop :=
  ∃ clauses, Clauses.ofText text = .ok clauses ∧
    Parameters.ofClause clauses.parameters = .ok parameters

/-- What a text stands for: the parameters that it declares, and the tree of the lexemes of its body
by the grammar. -/
def StandsFor (text : String) (parameters : Parameters) (e : Expr) : Prop :=
  ∃ clauses, Clauses.ofText text = .ok clauses ∧
    Parameters.ofClause clauses.parameters = .ok parameters ∧
    ∃ r, Derives parameters .expression (tokens clauses.body) r ∧ r.tree = e

/-- A text is short if 32-bit words hold the positions in its program and the slots of its
parameters. -/
structure Short (text : String) (p : Program) : Prop where
  code_size_le : p.code.size ≤ 2 ^ 31
  parameters_lt : ∀ parameters, Declares text parameters → parameters.size < 2 ^ 31

/-- A fault that is a division by zero when told without its position is one. -/
lemma Fault.exists_divideByZero {f : Fault} {r : Registers} (h : f.unplaced = .divideByZero r) :
    ∃ r', f = .divideByZero r' ∧ r'.accumulator = r.accumulator := by
  cases f with
  | divideByZero r' =>
    cases h
    exact ⟨r', rfl, rfl⟩
  | _ => cases h

variable {text : String} {options : CompileOptions} {p : Program} {parameters : Parameters}
  {e : Expr}

/-- A text declares its parameters once. -/
lemma Declares.unique {parameters' : Parameters} (h : Declares text parameters)
    (h' : Declares text parameters') : parameters = parameters' := by
  obtain ⟨clauses, hclauses, hparameters⟩ := h
  obtain ⟨clauses', hclauses', hparameters'⟩ := h'
  rw [hclauses] at hclauses'
  cases hclauses'
  rw [hparameters] at hparameters'
  cases hparameters'
  rfl

/-- A text is short if it declares few parameters and has a short program. -/
lemma Short.of_declares (h : Declares text parameters) (hparameters : parameters.size < 2 ^ 31)
    (hcode : p.code.size ≤ 2 ^ 31) : Short text p where
  code_size_le := hcode
  parameters_lt _ h' := h.unique h' ▸ hparameters

lemma StandsFor.declares (h : StandsFor text parameters e) : Declares text parameters := by
  obtain ⟨clauses, hclauses, hparameters, -⟩ := h
  exact ⟨clauses, hclauses, hparameters⟩

/-- A text stands for one tree at most. -/
lemma StandsFor.unique {parameters' : Parameters} {e' : Expr} (h : StandsFor text parameters e)
    (h' : StandsFor text parameters' e') : parameters = parameters' ∧ e = e' := by
  obtain ⟨clauses, hclauses, hparameters, r, hr, rfl⟩ := h
  obtain ⟨clauses', hclauses', hparameters', r', hr', rfl⟩ := h'
  rw [hclauses] at hclauses'
  cases hclauses'
  rw [hparameters] at hparameters'
  cases hparameters'
  exact ⟨rfl, hr.tree_unique hr'⟩

/-- The slots of the tree of a text are declared. -/
lemma StandsFor.slotsBelow (h : StandsFor text parameters e) : e.SlotsBelow parameters.size := by
  obtain ⟨_, _, _, r, hr, rfl⟩ := h
  exact hr.slotsBelow

/-- A text that is compiled stands for a tree, and the program is that of the tree. -/
lemma exists_standsFor (h : compile text options = .ok p) :
    ∃ parameters e, StandsFor text parameters e ∧
      p = e.program options.optimize parameters.size := by
  obtain ⟨clauses, parameters, e, hclauses, hparameters, hbody, hp⟩ := compile_eq_ok_iff.1 h
  obtain ⟨r, hr, htree, -⟩ := parseBody_eq_ok_iff.1 hbody
  exact ⟨parameters, e, ⟨clauses, hclauses, hparameters, r, hr, htree⟩, hp⟩

/-- The program of a short text has the outcome of its tree. -/
lemma execute_of_standsFor {optimize : Bool} (h : StandsFor text parameters e)
    (hshort : Short text (e.program optimize parameters.size)) (config : MachineConfig)
    (args : List Float) :
    ((e.program optimize parameters.size).execute config args).mapError Fault.unplaced =
      e.outcome parameters.size config args :=
  e.execute_program h.slotsBelow (hshort.parameters_lt _ h.declares) hshort.code_size_le config args

/-- The successor of a parameter stands for the sum of the parameter and one. -/
lemma standsFor_successor : StandsFor "\x7b|a|a+1\x7d" ⟨["a"]⟩
    (.binary .add (.param 0) (.const (Float.ofBits 0x3FF0000000000000))) := by
  have hbody : parseBody false ⟨["a"]⟩ "a+1" =
      .ok (.binary .add (.param 0) (.const (Float.ofBits 0x3FF0000000000000))) :=
    eq_ok_of_toOption (by decide +kernel)
  obtain ⟨r, hr, htree, -⟩ := parseBody_eq_ok_iff.1 hbody
  exact ⟨⟨"a", "a+1"⟩, eq_ok_of_toOption (by decide +kernel),
    eq_ok_of_toOption (by decide +kernel), r, hr, htree⟩

/-- A compiled text computes what its tree means. Given its arguments, memory for its parameters and
the depth of its program for the stack, a run has the value of the tree over the arguments, or it
fails with the divisor of the first division by zero. -/
theorem execute_compiled (hcompile : compile text options = .ok p) (hshort : Short text p) :
    (∃ parameters e, StandsFor text parameters e) ∧
      ∀ parameters e, StandsFor text parameters e →
        p.paramCount? = some parameters.size ∧
        ∃ depth, p.stackDepth = .ok depth ∧
          ∀ (config : MachineConfig) (args : List Float),
            parameters.size ≤ args.length →
            parameters.size ≤ config.memorySize →
            depth ≤ config.stackSize →
            match e.eval (Machine.startMemory config parameters.size args) with
            | .ok v => p.execute config args = .ok ⟨v.value, none⟩
            | .error divisor =>
              ∃ r, r.accumulator = divisor ∧ p.execute config args = .error (.divideByZero r) := by
  obtain ⟨parameters, e, hstands, rfl⟩ := exists_standsFor hcompile
  refine ⟨⟨parameters, e, hstands⟩, ?_⟩
  intro parameters' e' hstands'
  obtain ⟨rfl, rfl⟩ := hstands.unique hstands'
  refine ⟨Expr.paramCount?_program (hshort.parameters_lt _ hstands.declares), e.depth,
    e.stackDepth_program _ _, ?_⟩
  intro config args hargs hmemory hdepth
  have hrun := execute_of_standsFor hstands hshort config args
  rw [e.outcome_of_le hargs hmemory] at hrun
  -- With place for the depth, the evaluation that counts operands is the one that does not.
  have hroom : 0 + e.depth ≤ config.stackSize := by rwa [Nat.zero_add]
  cases hv : e.eval (Machine.startMemory config parameters.size args) with
  | ok v =>
    rw [Expr.evalWithin_eq_ok hroom hv] at hrun
    exact eq_ok_of_mapError hrun
  | error divisor =>
    obtain ⟨height, hhalt⟩ := Expr.evalWithin_eq_error hroom hv
    rw [hhalt] at hrun
    obtain ⟨fault, hfault, hunplaced⟩ := exists_of_mapError_eq_error hrun
    obtain ⟨r, rfl, hr⟩ := Fault.exists_divideByZero hunplaced
    exact ⟨r, hr, hfault⟩

/-- The program of a successor, which fuses the load of the parameter with its push, adds one. -/
theorem execute_compiled_successor :
    ∃ p, compile "\x7b|a|a+1\x7d" {} = .ok p ∧ Short "\x7b|a|a+1\x7d" p ∧
      ∀ x, p.execute {} [x] = .ok ⟨x + Float.ofBits 0x3FF0000000000000, none⟩ := by
  have hcompile : compile "\x7b|a|a+1\x7d" {} =
      .ok ⟨#[1, 2, 0, 4, 0, 8, 54], #[4607182418800017408]⟩ :=
    eq_ok_of_toOption (by decide +kernel)
  have hshort : Short "\x7b|a|a+1\x7d" ⟨#[1, 2, 0, 4, 0, 8, 54], #[4607182418800017408]⟩ :=
    .of_declares standsFor_successor.declares (by decide) (by decide)
  obtain ⟨-, hruns⟩ := execute_compiled hcompile hshort
  obtain ⟨-, depth, hdepth, hrun⟩ := hruns _ _ standsFor_successor
  have hone : Program.stackDepth ⟨#[1, 2, 0, 4, 0, 8, 54], #[4607182418800017408]⟩ = .ok 1 :=
    eq_ok_of_toOption (by decide +kernel)
  cases hone.symm.trans hdepth
  exact ⟨_, hcompile, hshort, fun x => hrun {} [x] (Nat.le_refl 1) (by decide) (by decide)⟩

/-- Fusing loads with pushes does not show: the same texts are compiled, programs have the same
constants, parameters and stack depth, and runs have the same outcome but for the position at which a
fault is noticed. -/
theorem compile_optimize (text : String) (allow : Bool)
    (hshort : ∀ optimize p, compile text ⟨optimize, allow⟩ = .ok p → Short text p) :
    (∃ d, compile text ⟨true, allow⟩ = .error d ∧ compile text ⟨false, allow⟩ = .error d) ∨
      ∃ p q, compile text ⟨true, allow⟩ = .ok p ∧ compile text ⟨false, allow⟩ = .ok q ∧
        p.constants = q.constants ∧ p.paramCount? = q.paramCount? ∧
        (∃ depth, p.stackDepth = .ok depth ∧ q.stackDepth = .ok depth) ∧
        ∀ (config : MachineConfig) (args : List Float),
          (p.execute config args).mapError Fault.unplaced =
            (q.execute config args).mapError Fault.unplaced := by
  cases hp : compile text ⟨true, allow⟩ with
  | error d => exact .inl ⟨d, rfl, compile_eq_error hp false⟩
  | ok p =>
    obtain ⟨clauses, parameters, e, hclauses, hparameters, hbody, rfl⟩ := compile_eq_ok_iff.1 hp
    have hq : compile text ⟨false, allow⟩ = .ok (e.program false parameters.size) :=
      compile_eq_ok_iff.2 ⟨clauses, parameters, e, hclauses, hparameters, hbody, rfl⟩
    obtain ⟨r, hr, htree, -⟩ := parseBody_eq_ok_iff.1 hbody
    have hstands : StandsFor text parameters e := ⟨clauses, hclauses, hparameters, r, hr, htree⟩
    have hlt := (hshort _ _ hq).parameters_lt _ hstands.declares
    refine .inr ⟨_, _, rfl, hq, rfl, ?_, ⟨e.depth, e.stackDepth_program _ _,
      e.stackDepth_program _ _⟩, ?_⟩
    · rw [Expr.paramCount?_program hlt, Expr.paramCount?_program hlt]
    · -- Neither program shows in the outcome, which is that of the tree.
      intro config args
      rw [execute_of_standsFor hstands (hshort _ _ hp), execute_of_standsFor hstands (hshort _ _ hq)]

/-- The two programs of a successor differ, and have the same outcomes. -/
theorem compile_optimize_successor :
    ∃ p q, compile "\x7b|a|a+1\x7d" ⟨true, false⟩ = .ok p ∧
      compile "\x7b|a|a+1\x7d" ⟨false, false⟩ = .ok q ∧ p ≠ q ∧
      ∀ (config : MachineConfig) (args : List Float),
        (p.execute config args).mapError Fault.unplaced =
          (q.execute config args).mapError Fault.unplaced := by
  have hp : compile "\x7b|a|a+1\x7d" ⟨true, false⟩ =
      .ok ⟨#[1, 2, 0, 4, 0, 8, 54], #[4607182418800017408]⟩ :=
    eq_ok_of_toOption (by decide +kernel)
  have hq : compile "\x7b|a|a+1\x7d" ⟨false, false⟩ =
      .ok ⟨#[1, 5, 0, 1, 4, 0, 8, 54], #[4607182418800017408]⟩ :=
    eq_ok_of_toOption (by decide +kernel)
  have hshort : ∀ optimize p, compile "\x7b|a|a+1\x7d" ⟨optimize, false⟩ = .ok p →
      Short "\x7b|a|a+1\x7d" p := by
    intro optimize p h
    cases optimize with
    | false =>
      cases hq.symm.trans h
      exact .of_declares standsFor_successor.declares (by decide) (by decide)
    | true =>
      cases hp.symm.trans h
      exact .of_declares standsFor_successor.declares (by decide) (by decide)
  rcases compile_optimize "\x7b|a|a+1\x7d" false hshort with
    ⟨d, hd, -⟩ | ⟨p, q, hp', hq', -, -, -, hruns⟩
  · cases hp.symm.trans hd
  · refine ⟨p, q, hp', hq', ?_, hruns⟩
    rintro rfl
    cases hp.symm.trans hp'
    cases hq.symm.trans hq'

/-- The kind of failure of a run, if it fails. -/
def Program.failure? (p : Program) (config : MachineConfig) (args : List Float) :
    Option ErrorKind :=
  match p.execute config args with
  | .ok _ => none
  | .error fault => some fault.kind

/-- A run fails in the way its outcome says. -/
lemma failure?_eq {config : MachineConfig} {args : List Float} {fault : Fault}
    (h : (p.execute config args).mapError Fault.unplaced = .error fault) :
    p.failure? config args = some fault.kind := by
  obtain ⟨fault', hfault', rfl⟩ := exists_of_mapError_eq_error h
  rw [Program.failure?, hfault', Fault.kind_unplaced]

/-- What runs of a program over a number of parameters can end with, if the stack has no place for a
depth or if it has. -/
structure SafeRun (p : Program) (declared depth : Nat) (config : MachineConfig)
    (args : List Float) : Prop where
  insufficientArgs_iff :
    p.failure? config args = some .insufficientArgs ↔ args.length < declared
  tooManyArgs_iff :
    p.failure? config args = some .tooManyArgs ↔
      declared ≤ args.length ∧ config.memorySize < declared
  otherwise :
    declared ≤ args.length → declared ≤ config.memorySize →
      (∃ x, p.execute config args = .ok ⟨x, none⟩) ∨
        p.failure? config args = some .divideByZero ∨
        p.failure? config args = some .stackOverflow ∧ config.stackSize < depth
  ne_noCode : p.failure? config args ≠ some .noCode
  ne_illegalCode : p.failure? config args ≠ some .illegalCode
  leak_eq_none : ∀ x, p.execute config args = .ok x → x.leak = none

/-- A run that fails, by the kind of its failure. -/
lemma SafeRun.of_failure {declared depth : Nat} {config : MachineConfig} {args : List Float}
    {kind : ErrorKind} (hf : p.failure? config args = some kind)
    (hinsufficient : kind = .insufficientArgs ↔ args.length < declared)
    (htooMany : kind = .tooManyArgs ↔ declared ≤ args.length ∧ config.memorySize < declared)
    (hotherwise : declared ≤ args.length → declared ≤ config.memorySize →
      kind = .divideByZero ∨ kind = .stackOverflow ∧ config.stackSize < depth)
    (hcode : kind ≠ .noCode ∧ kind ≠ .illegalCode) : SafeRun p declared depth config args where
  insufficientArgs_iff := by rw [hf, Option.some.injEq, hinsufficient]
  tooManyArgs_iff := by rw [hf, Option.some.injEq, htooMany]
  otherwise hargs hmemory := by
    rw [hf, Option.some.injEq, Option.some.injEq]
    exact .inr (hotherwise hargs hmemory)
  ne_noCode := by
    rw [hf, ne_eq, Option.some.injEq]
    exact hcode.1
  ne_illegalCode := by
    rw [hf, ne_eq, Option.some.injEq]
    exact hcode.2
  leak_eq_none x hx := by
    rw [Program.failure?, hx] at hf
    cases hf

/-- Compiled code is safe on all arguments and all machines. -/
theorem compiled_isSafe (hcompile : compile text options = .ok p) (hshort : Short text p) :
    ∃ parameters depth, Declares text parameters ∧ p.stackDepth = .ok depth ∧
      ∀ config args, SafeRun p parameters.size depth config args := by
  obtain ⟨parameters, e, hstands, rfl⟩ := exists_standsFor hcompile
  refine ⟨parameters, e.depth, hstands.declares, e.stackDepth_program _ _, ?_⟩
  intro config args
  have hrun := execute_of_standsFor hstands hshort config args
  rcases e.outcome_cases parameters.size config args with
    ⟨hargs, h⟩ | ⟨hargs, hmemory, h⟩ | ⟨hargs, hmemory, ⟨x, h⟩ | ⟨r, h⟩ | ⟨hdepth, r, h⟩⟩
  · refine .of_failure (failure?_eq (hrun.trans h)) ?_ ?_ ?_ ?_
    · simp [Fault.kind, hargs]
    · simp [Fault.kind]
      omega
    · omega
    · simp [Fault.kind]
  · refine .of_failure (failure?_eq (hrun.trans h)) ?_ ?_ ?_ ?_
    · simp [Fault.kind, hargs]
    · simp [Fault.kind, hargs, hmemory]
    · omega
    · simp [Fault.kind]
  · have hx := eq_ok_of_mapError (hrun.trans h)
    have hf : ((e.program options.optimize parameters.size).failure? config args) = none := by
      rw [Program.failure?, hx]
    refine ⟨?_, ?_, fun _ _ => .inl ⟨x, hx⟩, ?_, ?_, ?_⟩
    · simp [hf, hargs]
    · simp [hf, hargs, hmemory]
    · simp [hf]
    · simp [hf]
    · intro y hy
      rw [hx] at hy
      cases hy
      rfl
  · refine .of_failure (failure?_eq (hrun.trans h)) ?_ ?_ ?_ ?_
    · simp [Fault.kind, hargs]
    · simp [Fault.kind, hargs, hmemory]
    · exact fun _ _ => .inl rfl
    · simp [Fault.kind]
  · refine .of_failure (failure?_eq (hrun.trans h)) ?_ ?_ ?_ ?_
    · simp [Fault.kind, hargs]
    · simp [Fault.kind, hargs, hmemory]
    · exact fun _ _ => .inr ⟨rfl, hdepth⟩
    · simp [Fault.kind]

/-- The program of a quotient, which needs one place on the stack, is safe. -/
theorem compiled_isSafe_quotient :
    ∃ p, compile "\x7b|a,b|a/b\x7d" {} = .ok p ∧ Short "\x7b|a,b|a/b\x7d" p ∧
      ∃ parameters depth, Declares "\x7b|a,b|a/b\x7d" parameters ∧ p.stackDepth = .ok depth ∧
        ∀ config args, SafeRun p parameters.size depth config args := by
  have hcompile : compile "\x7b|a,b|a/b\x7d" {} = .ok ⟨#[2, 2, 0, 5, 1, 11, 54], #[]⟩ :=
    eq_ok_of_toOption (by decide +kernel)
  have hdeclares : Declares "\x7b|a,b|a/b\x7d" ⟨["a", "b"]⟩ :=
    ⟨⟨"a,b", "a/b"⟩, eq_ok_of_toOption (by decide +kernel), eq_ok_of_toOption (by decide +kernel)⟩
  have hshort : Short "\x7b|a,b|a/b\x7d" ⟨#[2, 2, 0, 5, 1, 11, 54], #[]⟩ :=
    .of_declares hdeclares (by decide) (by decide)
  exact ⟨_, hcompile, hshort, compiled_isSafe hcompile hshort⟩

end Formula
