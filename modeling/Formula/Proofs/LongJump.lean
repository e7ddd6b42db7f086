import Formula.Program.Walk
import Formula.Proofs.Clauses
import Formula.Proofs.Compile
import Formula.Proofs.Except
import Formula.Proofs.Lexeme.Punctuation
import Formula.Proofs.Machine.Containment
import Formula.Proofs.Machine.Execution

/-!
# Jumps over too many words

The operand of a jump is a word of 32 bits, and nothing keeps the distance of a jump below the
numbers that such a word can tell. In the formulas of this file a jump leads over a row of
parameters that is as long as one likes. From 2³¹ words on its operand is negative, so that a listing
shows a place before the code (`exists_backward_jump`). From 2³² words on it is the distance to a
nearer place, inside of a load: there the slots are taken for instructions, which push one value
after another (`execute_overflows`).
-/

namespace Formula.Machine

variable {p : Program} {config : MachineConfig} {s : MachineState} {i room slot : Nat}

/-- A load of a slot that is pushed, if the stack has room for it. -/
lemma perform_pushVar (h : Holds p.code i [Opcode.pushVar.word, Int32.ofNat slot])
    (hslot : slot < s.memory.size) (hword : slot < 2 ^ 31) :
    perform p config i s .pushVar =
      if s.stack.length < config.stackSize then
        .ok (.next 1 { s with accumulator := s.memory[slot], stack := s.memory[slot] :: s.stack })
      else .error (.stackOverflow ⟨i, s.memory[slot], s.stack.length⟩) := by
  simp only [perform, slot_eq h.tail.head hslot hword, bind, Except.bind, push]
  by_cases hroom : s.stack.length < config.stackSize
  · simp only [if_pos hroom]
    rfl
  · simp only [if_neg hroom]
    rfl

/-- A run over more pushes than the stack has room for overflows it. -/
lemma run_pushes
    (h : Holds p.code i (List.replicate (room + 1) [Opcode.pushVar.word, Int32.ofNat slot]).flatten)
    (hslot : slot < s.memory.size) (hword : slot < 2 ^ 31)
    (hroom : s.stack.length + room = config.stackSize) :
    ∃ r, run p config i s = .error (.stackOverflow r) := by
  induction room generalizing i s with
  | zero =>
    refine ⟨_, run_fault h.left.head (perform_pushVar h.left hslot hword |>.trans (if_neg ?_))⟩
    omega
  | succ room ih =>
    rw [List.replicate_succ, List.flatten_cons] at h
    have hlt : s.stack.length < config.stackSize := by omega
    have hnext : perform p config i s .pushVar = .ok (.next 1
        { s with accumulator := s.memory[slot], stack := s.memory[slot] :: s.stack }) :=
      (perform_pushVar h.left hslot hword).trans (if_pos hlt)
    rw [run_next h.left.head hnext]
    refine ih h.right hslot ?_
    rw [List.length_cons]
    omega

end Formula.Machine

namespace Formula.LongJump

/-- The parameter `c`, and as many more of it behind commas as told. -/
def row : Nat → String
  | 0 => "c"
  | n + 1 => row n ++ ",c"

/-- The clauses of a formula whose right operand is skipped. -/
def clauses (n : Nat) : Clauses :=
  ⟨"a,b,c", "0&&(" ++ row n ++ ",-c)"⟩

/-- The formula whose right operand is skipped. -/
def text (n : Nat) : String :=
  (clauses n).toText

/-- The tree of a row. -/
def rowTree : Nat → Expr
  | 0 => .param 2
  | n + 1 => .sequence (rowTree n) (.param 2)

/-- The left operand, which is false. -/
def zero : Float :=
  Parser.numberValue "0".toList

/-- The tree of the formula. -/
def tree (n : Nat) : Expr :=
  .logical .and (.const zero)
    (.sequence (rowTree n) (.unary .negate (.param 2)))

/-- The program of the formula, with fused loads. -/
def program (n : Nat) : Program :=
  (tree n).program true 3

section Texts

/-- The shortest row is one token. -/
lemma tokens_row_zero : tokens (row 0) = [.word "c"] := by
  decide +kernel

/-- A longer row has a comma and a parameter more. -/
lemma tokens_row_succ (n : Nat) :
    tokens (row (n + 1)) = tokens (row n) ++ [.sign ",", .word "c"] := by
  have hrow : (row (n + 1)).toList = (row n).toList ++ ',' :: (row 0).toList := by simp [row]
  rw [tokens_append_sign (c := ',') (by decide) _ _ hrow, tokens_row_zero]
  rfl

/-- The tokens of the body. -/
lemma tokens_body (n : Nat) : tokens (clauses n).body = [⟨.number, "0"⟩] ++ .sign "&&" ::
    (.sign "(" :: ((tokens (row n) ++ .sign "," :: [.sign "-", .word "c"]) ++ [.sign ")"])) := by
  have hleft : tokens "0&&" = [⟨.number, "0"⟩, .sign "&&"] := by decide +kernel
  have hlast : tokens "-c" = [.sign "-", .word "c"] := by decide +kernel
  have hbody : (clauses n).body.toList = "0&&".toList ++ '(' :: (row n ++ ",-c" ++ ")").toList := by
    simp [clauses]
  have hitems : (row n ++ ",-c").toList = (row n).toList ++ ',' :: "-c".toList := by simp
  rw [tokens_append_sign (c := '(') (by decide) _ _ hbody, tokens_append_close,
    tokens_append_sign (c := ',') (by decide) _ _ hitems, hleft, hlast]
  rfl

/-- The parameters of the formula. -/
def parameters : Parameters :=
  ⟨["a", "b", "c"]⟩

/-- An operand by itself is a chain on every level. -/
lemma derives_foldr {ps : Parameters} {ts : List Token} {r : Reading} (h : Derives ps .operand ts r)
    (levels : List Level) : Derives ps (levels.foldr .chain .operand) ts r := by
  induction levels with
  | nil => exact h
  | cons level levels ih => exact .single ih

/-- The parameter `c` is an atom. -/
lemma derives_param : Derives parameters .atom [.word "c"] (.leaf (.param 2)) :=
  .param (by decide) (by decide) (by decide)

/-- The comma makes a sequence. -/
lemma lookup_comma : Level.comma.lookup "," = some .sequence :=
  rfl

/-- A row is a sequence. -/
lemma derives_row (n : Nat) :
    Derives parameters .sequence (tokens (row n)) ⟨rowTree n, 2, false, false⟩ := by
  have hitem : Derives parameters .expression [.word "c"] ⟨.param 2, 2, false, false⟩ :=
    .operation (derives_foldr (.atom derives_param) Level.operators)
  induction n with
  | zero =>
    rw [tokens_row_zero]
    exact .single hitem
  | succ n ih =>
    rw [tokens_row_succ]
    exact .more ih lookup_comma hitem

/-- The body is an expression with the tree of the formula. -/
lemma derives_body (n : Nat) :
    Derives parameters .expression (tokens (clauses n).body) ⟨tree n, 5, false, false⟩ := by
  have hlast : Derives parameters .expression [.sign "-", .word "c"]
      ⟨.unary .negate (.param 2), 3, false, false⟩ :=
    .operation (derives_foldr (.prefixed (by decide) (.atom derives_param)) Level.operators)
  have hitems : Derives parameters .sequence (tokens (row n) ++ .sign "," :: [.sign "-", .word "c"])
      ⟨.sequence (rowTree n) (.unary .negate (.param 2)), 3, false, false⟩ :=
    .more (derives_row n) lookup_comma hlast
  have hand : List.lookup "&&" [("&&", Infix.logical .and)] = some (.logical .and) := rfl
  rw [tokens_body]
  exact .operation (.single (.more (.single (derives_foldr (.atom .number) _)) hand
    (derives_foldr (.atom (.parenthesis hitems)) _)))

/-- The characters of the body. -/
def bodyChars : List Char :=
  ['0', '&', '(', 'c', ',', '-', ')']

/-- A row has no characters but those of the body. -/
lemma row_subset (n : Nat) : (row n).toList ⊆ bodyChars := by
  induction n with
  | zero =>
    rw [row]
    decide
  | succ n ih =>
    rw [row, String.toList_append]
    exact List.append_subset.2 ⟨ih, by decide⟩

/-- The body has these characters. -/
lemma body_subset (n : Nat) : (clauses n).body.toList ⊆ bodyChars := by
  rw [clauses, String.toList_append, String.toList_append]
  exact List.append_subset.2 ⟨List.append_subset.2 ⟨by decide, row_subset n⟩, by decide⟩

/-- The clauses of the formula. -/
lemma ofText_text (n : Nat) : Clauses.ofText (text n) = .ok (clauses n) := by
  have hlower {l : List Char} (hl : l.all (fun a => decide (Unicode.IsLower a)) = true) :
      ∀ a ∈ l, Unicode.IsLower a :=
    fun a ha => of_decide_eq_true (List.all_eq_true.1 hl a ha)
  have hparameters : ∀ a ∈ "a,b,c".toList, Unicode.IsLower a := hlower (by decide +kernel)
  have hbody : ∀ a ∈ bodyChars, Unicode.IsLower a := hlower (by decide +kernel)
  have hpipe : Clauses.pipe ∉ "a,b,c".toList := by decide
  have hclosing : Clauses.closing ∉ "a,b,c".toList := by decide
  have hclosingBody : Clauses.closing ∉ bodyChars := by decide
  refine Clauses.ofText_toText hparameters (fun a ha => hbody a (body_subset n ha))
    ⟨hpipe, hclosing, fun h => hclosingBody (body_subset n h), ?_⟩
  rw [clauses, String.toList_append, String.toList_append, List.append_assoc, List.all_append]
  rfl

/-- The formula is compiled, however long it is. -/
theorem compile_text (n : Nat) : compile (text n) {} = .ok (program n) := by
  have hparameters : Parameters.ofClause "a,b,c" = .ok parameters :=
    eq_ok_of_toOption (by decide +kernel)
  have hlevels : 5 ≤ Parser.maxNesting := by decide
  have hbody : parseBody false parameters (clauses n).body = .ok (tree n) :=
    parseBody_eq_ok_iff.2 ⟨_, derives_body n, rfl, hlevels, nofun, fun _ => rfl⟩
  exact compile_eq_ok_iff.2
    ⟨clauses n, parameters, tree n, ofText_text n, hparameters, hbody, rfl⟩

end Texts

section Words

/-- Loads of the third parameter. -/
def loads (n : Nat) : List Int32 :=
  (List.replicate n [Opcode.loadVar.word, Int32.ofNat 2]).flatten

/-- One more load. -/
lemma loads_succ (n : Nat) : loads (n + 1) = loads n ++ [Opcode.loadVar.word, Int32.ofNat 2] := by
  rw [loads, List.replicate_succ', List.flatten_concat, ← loads]

/-- A load has two words. -/
lemma length_loads (n : Nat) : (loads n).length = 2 * n := by
  induction n with
  | zero => rfl
  | succ n ih =>
    rw [loads_succ, List.length_append, ih]
    rfl

/-- The words of a row are loads. -/
lemma words_rowTree (n k : Nat) : (rowTree n).words true false k = loads (n + 1) := by
  induction n with
  | zero => rfl
  | succ n ih =>
    rw [loads_succ, ← ih]
    rfl

/-- The words up to the jump, whose operand is the distance over all loads and the two operators
behind them. -/
def firstWords (n : Nat) : List Int32 :=
  [Int32.ofNat 3, Opcode.pushConst.word, Int32.ofNat 0, (Opcode.jump .ifFalse).word,
    Int32.ofNat (2 * n + 6)]

/-- The words behind the loads. -/
def lastWords : List Int32 :=
  [(Opcode.unary .negate).word, (Opcode.logical .and).word, Opcode.endCode.word]

/-- The words of the program. -/
lemma toList_code (n : Nat) :
    (program n).code.toList = firstWords n ++ loads (n + 2) ++ lastWords := by
  have hright : (Expr.sequence (rowTree n) (.unary .negate (.param 2))).words true false 1 =
      loads (n + 2) ++ [(Opcode.unary .negate).word] := by
    rw [Expr.words, words_rowTree, loads_succ (n + 1), List.append_assoc]
    rfl
  have hlength : (loads (n + 2) ++ [(Opcode.unary .negate).word]).length + 1 = 2 * n + 6 := by
    rw [List.length_append, length_loads, List.length_singleton]
    omega
  have hwords : (tree n).words true false 0 =
      [Opcode.pushConst.word, Int32.ofNat 0, (Opcode.jump .ifFalse).word,
        Int32.ofNat (2 * n + 6)] ++
      (loads (n + 2) ++ [(Opcode.unary .negate).word]) ++ [(Opcode.logical .and).word] := by
    rw [← hlength, ← hright]
    simp [tree, Expr.words, Expr.loadWords, Expr.pushWords, Expr.constants, LogicalOp.skip]
  rw [program, Expr.program, hwords]
  simp only [firstWords, lastWords, List.append_assoc, List.cons_append, List.nil_append]

/-- The number of the words. -/
lemma size_code (n : Nat) : (program n).code.size = 2 * n + 12 := by
  rw [← Array.length_toList, toList_code, List.length_append, List.length_append, length_loads]
  change 5 + 2 * (n + 2) + 3 = _
  omega

/-- The first words stand at the start. -/
lemma holds_firstWords (n : Nat) : Holds (program n).code 0 (firstWords n) :=
  ⟨[], loads (n + 2) ++ lastWords, (toList_code n).trans (List.append_assoc ..), rfl⟩

/-- The loads stand behind the jump. -/
lemma holds_loads (n : Nat) : Holds (program n).code 5 (loads (n + 2)) :=
  ⟨firstWords n, lastWords, toList_code n, rfl⟩

end Words

/-- The jump over 2³¹ words or more, but fewer than 2³², goes back. -/
theorem exists_backward_jump {n : Nat} (hn : 2 ^ 30 ≤ n + 3) (hn' : n + 3 < 2 ^ 31) :
    ∃ i ∈ (program n).walk.instructions, i.op.isJump = true ∧ i.position = 3 ∧
      i.target? = some (2 * n + 10 - 2 ^ 32 : ℤ) := by
  have hoperand : (Int32.ofNat (2 * n + 6)).toInt = 2 * n + 6 - 2 ^ 32 := by
    rw [Int32.toInt_ofNat', Int.bmod_def, show Int32.size = 2 ^ 32 from rfl]
    omega
  obtain ⟨rest, hwalk⟩ : ∃ rest, (program n).walk =
      .step ⟨1, .pushConst, some (Int32.ofNat 0)⟩
        (.step ⟨3, .jump .ifFalse, some (Int32.ofNat (2 * n + 6))⟩ rest) := by
    rw [Program.walk, toList_code, firstWords]
    simp only [List.cons_append, List.drop_succ_cons, List.drop_zero, Walk.ofWords,
      Opcode.ofWord?_word, Opcode.hasOperand, if_true]
    exact ⟨_, rfl⟩
  refine ⟨⟨3, .jump .ifFalse, some (Int32.ofNat (2 * n + 6))⟩, ?_, rfl, rfl, ?_⟩
  · rw [hwalk]
    exact List.mem_cons_of_mem _ List.mem_cons_self
  · have htarget : (3 : ℤ) + (Int32.ofNat (2 * n + 6)).toInt + 1 = 2 * n + 10 - 2 ^ 32 := by
      omega
    exact congrArg some htarget

section Runs

variable {config : MachineConfig} {args : List Float}

/-- Pairs in a row, seen from the second half of the first one on. -/
lemma flatten_replicate_pair {α : Type} (x y : α) (n : Nat) :
    (List.replicate (n + 1) [x, y]).flatten = x :: (List.replicate n [y, x]).flatten ++ [y] := by
  induction n with
  | zero => rfl
  | succ n ih =>
    rw [List.replicate_succ, List.flatten_cons, ih, List.replicate_succ, List.flatten_cons]
    rfl

/-- In the second half of the first load the words are pushes of another slot. -/
lemma loads_eq (n : Nat) : loads (n + 1) = Opcode.loadVar.word ::
    (List.replicate n [Opcode.pushVar.word, Int32.ofNat 5]).flatten ++ [Opcode.pushVar.word] :=
  flatten_replicate_pair Opcode.loadVar.word Opcode.pushVar.word n

/-- The pushes of the program, inside of the loads that the jump should lead over. -/
lemma holds_pushes {n before count : Nat} (hcount : before + count < n + 2) :
    Holds (program n).code (6 + 2 * before)
      (List.replicate count [Opcode.pushVar.word, Int32.ofNat 5]).flatten := by
  obtain ⟨rest, hrest⟩ : ∃ rest, n + 2 = before + (count + rest + 1) := by
    refine ⟨n + 1 - before - count, ?_⟩
    omega
  have hloads := holds_loads n
  rw [hrest, loads, List.replicate_add, List.flatten_append, ← loads, ← loads] at hloads
  have hlast := hloads.right
  rw [loads_eq, length_loads, List.replicate_add, List.flatten_append] at hlast
  have hpushes := hlast.tail.left.left
  rwa [show 5 + 2 * before + 1 = 6 + 2 * before by omega] at hpushes

/-- The jump over 2³² words or more goes by what is left of its distance. -/
lemma jumpDistance_eq {n before : Nat} (hn : n + 2 = before + 2 ^ 31) (hbefore : before < 2 ^ 29) :
    Machine.jumpDistance (program n) 3 = .ok (2 * before + 2) := by
  have hoperand : (Int32.ofNat (2 * n + 6)).toInt = 2 * before + 2 := by
    rw [Int32.toInt_ofNat', Int.bmod_def, show Int32.size = 2 ^ 32 from rfl]
    omega
  have hindex : index? (Int32.ofNat (2 * n + 6)) = some (2 * before + 2) := by
    rw [index?, hoperand, if_pos (by omega)]
    rfl
  have hsize : 3 + (2 * before + 2) + 1 < (program n).code.size := by
    rw [size_code]
    omega
  have hword : Machine.operand (program n) 3 = .ok (Int32.ofNat (2 * n + 6)) := by
    rw [Machine.operand, (holds_firstWords n).tail.tail.tail.tail.head]
  rw [Machine.jumpDistance, hword]
  simp only [bind, Except.bind, hindex, if_pos hsize]

/-- The left operand is the only constant. -/
lemma constants_eq (n : Nat) : (program n).constants = #[zero.toBits] := by
  have hrow : (rowTree n).constants = [] := by
    induction n with
    | zero => rfl
    | succ n ih =>
      rw [rowTree, Expr.constants, ih]
      rfl
  simp only [program, Expr.program, tree, Expr.constants, hrow]
  rfl

/-- The left operand decides that the right one is skipped. -/
lemma isTaken_zero : Jump.isTaken zero .ifFalse = true := by
  decide +kernel

/-- The run of the left operand, which is pushed. -/
lemma leads_zero (n : Nat) (s : MachineState) :
    Machine.Leads (program n) config 1 s 3
      (Evaluation.keep config.stackSize s.stack.length ⟨zero, s.memory⟩)
      (Evaluation.state true s.stack) := by
  have hfirst : Holds (program n).code 1 ((Expr.const zero).words true true 0 ++
      [(Opcode.jump .ifFalse).word, Int32.ofNat (2 * n + 6)]) := (holds_firstWords n).tail
  have hend : 1 + ((Expr.const zero).words true true 0).length < (program n).code.size := by
    rw [size_code]
    exact Nat.lt_add_left (2 * n) (by decide)
  have hpool : (program n).constants.size ≤ 2 ^ 31 := by
    rw [constants_eq]
    exact Nat.one_le_two_pow
  have hconstants : Holds (program n).constants 0 (Expr.const zero).constants := by
    rw [constants_eq]
    exact ⟨[], [], rfl, rfl⟩
  exact (Machine.Simulates.const (n := 0) hpool zero).kept hfirst.left hend hconstants (Nat.zero_le _)

/-- The run from the start to the loads that the jump leads to, if there is place for the left
operand. -/
lemma run_eq_run_pushes {n before : Nat} (hn : n + 2 = before + 2 ^ 31) (hbefore : before < 2 ^ 29)
    (hroom : 0 < config.stackSize) (memory : Array Float) :
    Machine.run (program n) config 1 ⟨0, [], memory⟩ =
      Machine.run (program n) config (6 + 2 * before) ⟨zero, [zero], memory⟩ := by
  have hzero : Machine.Leads (program n) config 1 ⟨0, [], memory⟩ 3
      (Evaluation.keep config.stackSize 0 ⟨zero, memory⟩) (Evaluation.state true []) :=
    leads_zero n _
  have hkeep : Evaluation.keep config.stackSize 0 ⟨zero, memory⟩ = .ok ⟨zero, memory⟩ :=
    if_pos hroom
  rw [hkeep] at hzero
  calc
    Machine.run (program n) config 1 ⟨0, [], memory⟩
      = Machine.run (program n) config 3 ⟨zero, [zero], memory⟩ := hzero
    _ = Machine.run (program n) config (3 + (2 * before + 2) + 1) ⟨zero, [zero], memory⟩ :=
        Machine.run_of_isTaken (holds_firstWords n).tail.tail.tail.head isTaken_zero
          (jumpDistance_eq hn hbefore)
    _ = Machine.run (program n) config (6 + 2 * before) ⟨zero, [zero], memory⟩ := by
        rw [show 3 + (2 * before + 2) + 1 = 6 + 2 * before by omega]

/-- The jump over 2³² words and some more leads into a load, and from there on the stack gets one
value after another until it overflows, unless it has place for 2³¹ of them. -/
theorem execute_overflows {n before : Nat} (hn : n + 2 = before + 2 ^ 31)
    (hbefore : before < 2 ^ 29) (hargs : 3 ≤ args.length) (hmemory : 5 < config.memorySize)
    (hroom : 0 < config.stackSize) (hstack : config.stackSize < 2 ^ 31) :
    ∃ r, (program n).execute config args = .error (.stackOverflow r) := by
  have hsize : (Machine.startMemory config 3 args).size = config.memorySize :=
    Machine.size_startMemory hargs (by omega)
  have hstart : (program n).start config args =
      .ok ⟨1, ⟨0, [], Machine.startMemory config 3 args⟩⟩ :=
    Program.start_eq_ok_iff.2 ⟨Expr.isEmpty_program, 3, Expr.paramCount?_program (by decide), hargs,
      by omega, rfl⟩
  rw [Program.execute_eq_start, hstart]
  change ∃ r, Machine.run (program n) config 1 ⟨0, [], Machine.startMemory config 3 args⟩ = _
  rw [run_eq_run_pushes hn hbefore hroom]
  have hpushes : Holds (program n).code (6 + 2 * before) (List.replicate (config.stackSize - 1 + 1)
      [Opcode.pushVar.word, Int32.ofNat 5]).flatten := holds_pushes (by omega)
  refine Machine.run_pushes hpushes (hsize.symm ▸ hmemory) (by decide) ?_
  rw [List.length_singleton]
  omega

end Runs

end Formula.LongJump
