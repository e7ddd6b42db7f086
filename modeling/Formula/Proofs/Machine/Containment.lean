import Formula.Machine
import Mathlib.Tactic.Common

/-!
# Runs of arbitrary programs

A program need not come from the compiler: its words may be anything. A run of it ends all the same,
and stays within the sizes of the machine (`execute_contained`). `round` is one pass of the machine
through its loop, and `Reaches` tells the configurations that passes lead to. What a pass keeps is
shown for each instruction, and what a run keeps follows by induction on the number of passes. The
indices that an instruction looks up are told apart from the machine, by `Configuration.accesses`, as
signed numbers that may lie anywhere.
-/

namespace Formula

/-- The kinds of failure that a run can end with. -/
def Fault.kinds : List ErrorKind :=
  [.noCode, .insufficientArgs, .tooManyArgs, .stackOverflow, .divideByZero, .illegalCode]

/-- Every fault is of one of these kinds. -/
lemma Fault.kind_mem_kinds (f : Fault) : f.kind ∈ Fault.kinds := by
  cases f with
  | _ => simp [Fault.kind, Fault.kinds]

/-- A word that is used as an index is the number that it holds. -/
lemma index?_eq_some_iff {w : Int32} {n : Nat} : index? w = some n ↔ w.toInt = n := by
  unfold index?
  split
  · simp only [Option.some.injEq]
    omega
  · simp only [reduceCtorEq, false_iff]
    omega

namespace Machine

/-- The machine between two instructions: the position of the word that is fetched next, and the
state. -/
structure Configuration where
  position : Nat
  state : MachineState

/-- One pass through the loop of the machine: a word is fetched, and its instruction is performed. The
run ends, or it goes on with another configuration. -/
def round (p : Program) (config : MachineConfig) (c : Configuration) :
    Except Fault Execution ⊕ Configuration :=
  match p.code[c.position]? with
  | none => .inl (.error (.pastEnd c.position))
  | some w =>
    match Opcode.ofWord? w with
    | none => .inl (.error (.badWord w))
    | some op =>
      match perform p config c.position c.state op with
      | .error fault => .inl (.error fault)
      | .ok .stop =>
        .inl (.ok ⟨c.state.accumulator,
          if c.state.stack.isEmpty then none else some (registers c.position c.state)⟩)
      | .ok (.next skip s) => .inr ⟨c.position + skip + 1, s⟩

/-- The configurations that a number of passes lead to. -/
inductive Reaches (p : Program) (config : MachineConfig) (start : Configuration) :
    Nat → Configuration → Prop where
  | refl : Reaches p config start 0 start
  | step {n c c'} : Reaches p config start n c → round p config c = .inr c' →
    Reaches p config start (n + 1) c'

/-- An index that is looked up in the code, in the pool of constants or in the memory. -/
inductive Access where
  | code (index : Int)
  | constant (index : Int)
  | slot (index : Int)

/-- An index is in bounds if there is something at it. -/
def Access.InBounds (p : Program) (config : MachineConfig) : Access → Prop
  | .code i => 0 ≤ i ∧ i < p.code.size
  | .constant i => 0 ≤ i ∧ i < p.constants.size
  | .slot i => 0 ≤ i ∧ i < config.memorySize

/-- The indices that an instruction looks up after its own word, by its operand word: the place of
that word, and what it selects. A jump that is not taken does not look at its operand. -/
def accesses (position : Nat) (accumulator : Float) (operand : Int) : Opcode → List Access
  | .pushVar | .loadVar | .storeVar => [.code (position + 1), .slot operand]
  | .pushConst | .loadConst => [.code (position + 1), .constant operand]
  | .jump j =>
    if j.isTaken accumulator then [.code (position + 1), .code (position + operand + 1)] else []
  | _ => []

/-- The operand word that follows a position, as a number. -/
def operandValue (p : Program) (position : Nat) : Int :=
  (p.code[position + 1]?.map Int32.toInt).getD 0

/-- The indices that the next pass looks up. -/
def Configuration.accesses (p : Program) (c : Configuration) : List Access :=
  .code c.position ::
    match p.code[c.position]?.bind Opcode.ofWord? with
    | none => []
    | some op => Machine.accesses c.position c.state.accumulator (operandValue p c.position) op

/-- A state that is within the sizes of the machine. -/
structure Fits (config : MachineConfig) (s : MachineState) : Prop where
  stack_le : s.stack.length ≤ config.stackSize
  memory_eq : s.memory.size = config.memorySize

/-- What is said of a run from a configuration: passes lead to its result, each of them goes forward in
the code, there are fewer of them than words, and at every place the state is within the sizes of the
machine and all lookups are in bounds, or else the run ends there as illegal code. -/
structure Contained (p : Program) (config : MachineConfig) (start : Configuration)
    (result : Except Fault Execution) : Prop where
  ends : ∃ n c, Reaches p config start n c ∧ round p config c = .inl result
  advances : ∀ n c c', Reaches p config start n c → round p config c = .inr c' →
    c.position < c'.position
  fetches_le : ∀ n c, Reaches p config start n c → c.position < p.code.size →
    n + 1 ≤ p.code.size - 1
  fits : ∀ n c, Reaches p config start n c → Fits config c.state
  inBounds : ∀ n c, Reaches p config start n c →
    (∀ a ∈ c.accesses p, a.InBounds p config) ∨
      ∃ f, round p config c = .inl (.error f) ∧ f.kind = .illegalCode

variable {p : Program} {config : MachineConfig} {c c' start : Configuration} {i n : Nat}
  {s : MachineState}

/-- A run is made of passes. -/
lemma run_eq_round (p : Program) (config : MachineConfig) (c : Configuration) :
    run p config c.position c.state =
      match round p config c with
      | .inl result => result
      | .inr c' => run p config c'.position c'.state := by
  rw [run]
  unfold round
  by_cases h : c.position < p.code.size
  · rw [dif_pos h, Array.getElem?_eq_getElem h]
    cases hop : Opcode.ofWord? p.code[c.position] with
    | none => simp [hop]
    | some op =>
      simp only [hop]
      cases perform p config c.position c.state op with
      | error fault => rfl
      | ok outcome =>
        cases outcome with
        | stop => rfl
        | next skip s => rfl
  · rw [dif_neg h, Array.getElem?_eq_none (Nat.le_of_not_lt h)]

/-- A pass after which the run goes on has performed an instruction. -/
lemma round_eq_inr_iff :
    round p config c = .inr c' ↔
      ∃ op skip s, p.code[c.position]?.bind Opcode.ofWord? = some op ∧
        perform p config c.position c.state op = .ok (.next skip s) ∧
        c' = ⟨c.position + skip + 1, s⟩ := by
  unfold round
  cases p.code[c.position]? with
  | none => simp
  | some w =>
    cases hop : Opcode.ofWord? w with
    | none => simp [hop]
    | some op =>
      simp only [hop, Option.bind_some, Option.some.injEq]
      cases hperform : perform p config c.position c.state op with
      | error fault => simp [hperform]
      | ok outcome =>
        cases outcome with
        | stop => simp [hperform]
        | next skip s =>
          simp only [Sum.inr.injEq, ↓existsAndEq, true_and, hperform, Except.ok.injEq,
            Outcome.next.injEq]
          exact eq_comm

/-- A pass goes forward in the code, also over a jump by no distance. -/
lemma position_lt_of_round (h : round p config c = .inr c') : c.position < c'.position := by
  obtain ⟨op, skip, s, -, -, rfl⟩ := round_eq_inr_iff.1 h
  exact Nat.lt_succ_of_le (Nat.le_add_right c.position skip)

/-- A pass starts inside the code. -/
lemma position_lt_size_of_round (h : round p config c = .inr c') : c.position < p.code.size := by
  obtain ⟨op, skip, s, hop, -, -⟩ := round_eq_inr_iff.1 h
  obtain ⟨w, hw, -⟩ := Option.bind_eq_some_iff.1 hop
  exact (Array.getElem?_eq_some_iff.1 hw).1

namespace Reaches

/-- Passes that come after a first one. -/
lemma head (h : round p config start = .inr c) (hn : Reaches p config c n c') :
    Reaches p config start (n + 1) c' := by
  induction hn with
  | refl => exact step refl h
  | step _ hround ih => exact step ih hround

/-- Every pass takes the position forward by one word at least. -/
lemma position_le (h : Reaches p config start n c) : start.position + n ≤ c.position := by
  induction h with
  | refl => exact Nat.le_refl _
  | step _ hround ih => exact Nat.lt_of_le_of_lt ih (position_lt_of_round hround)

end Reaches

/-- Passes lead to the result of a run. The induction is on the words that are left. -/
lemma exists_reaches_end (p : Program) (config : MachineConfig) (c : Configuration) :
    ∃ n c', Reaches p config c n c' ∧ round p config c' = .inl (run p config c.position c.state) := by
  induction hleft : p.code.size - c.position using Nat.strongRecOn generalizing c with
  | ind left ih =>
    have hrun := run_eq_round p config c
    cases hround : round p config c with
    | inl result =>
      rw [hround] at hrun
      exact ⟨0, c, .refl, by rw [hround, hrun]⟩
    | inr c₁ =>
      rw [hround] at hrun
      have hlt := position_lt_of_round hround
      have hsize := position_lt_size_of_round hround
      obtain ⟨n, c', hreaches, hend⟩ := ih _ (by omega) c₁ rfl
      exact ⟨n + 1, c', .head hround hreaches, by rw [hend, hrun]⟩

/-- A computation that has a value has one with a property. -/
def Yields {α : Type} (Q : α → Prop) (x : Except Fault α) : Prop :=
  ∀ a, x = .ok a → Q a

namespace Yields

variable {α β : Type} {Q : α → Prop} {R : β → Prop} {x : Except Fault α} {f : α → Except Fault β}

/-- A value with the property. -/
lemma ok {a : α} (h : Q a) : Yields Q (.ok a) := by
  intro b hb
  cases hb
  exact h

/-- Nothing is said of failures. -/
lemma error (fault : Fault) : Yields Q (.error fault) :=
  nofun

/-- One computation after another. -/
lemma bind (hx : Yields Q x) (hf : ∀ a, Q a → Yields R (f a)) : Yields R (x >>= f) := by
  cases x with
  | error fault => exact error fault
  | ok a => exact hf a (hx a rfl)

/-- A computation of which nothing is known comes first. -/
lemma after (hf : ∀ a, Yields R (f a)) : Yields R (x >>= f) :=
  bind (Q := fun _ => True) (fun _ _ => trivial) fun a _ => hf a

end Yields

namespace Fits

/-- A change of the accumulator. -/
lemma accumulator (h : Fits config s) (x : Float) : Fits config { s with accumulator := x } :=
  ⟨h.stack_le, h.memory_eq⟩

/-- A push is refused if there is no place for it. -/
lemma push (h : Fits config s) (i : Nat) (x : Float) :
    Yields (Fits config) (Machine.push config i x s) := by
  unfold Machine.push
  split
  · next hroom => exact .ok ⟨Nat.succ_le_of_lt hroom, h.memory_eq⟩
  · exact .error _

/-- A pop makes place. -/
lemma pop (h : Fits config s) (i : Nat) :
    Yields (fun a => Fits config a.2) (Machine.pop i s) := by
  unfold Machine.pop
  split
  · next x rest hstack =>
    have hle := h.stack_le
    rw [hstack, List.length_cons] at hle
    exact .ok ⟨Nat.le_of_succ_le hle, h.memory_eq⟩
  · exact .error _

/-- A store changes no size. -/
lemma store (h : Fits config s) (n : Fin s.memory.size) :
    Fits config { s with memory := s.memory.set n s.accumulator n.isLt } :=
  ⟨h.stack_le, (Array.size_set n.isLt).trans h.memory_eq⟩

/-- A function takes its arguments from the stack. -/
lemma callFunction (h : Fits config s) (i : Nat) (f : Function) :
    Yields (Fits config) (Machine.callFunction i s f) := by
  cases f with
  | one f => exact (h.pop i).bind fun a ha => .ok (ha.accumulator _)
  | two f => exact (h.pop i).bind fun b hb => (hb.pop i).bind fun a ha => .ok (ha.accumulator _)
  | numberFormat =>
    exact (h.pop i).bind fun c hc => (hc.pop i).bind fun b hb => (hb.pop i).bind fun a ha =>
      .ok (ha.accumulator _)

end Fits

/-- The state with which a run goes on after an instruction is within the sizes of the machine. -/
def Outcome.Fits (config : MachineConfig) : Outcome → Prop
  | .next _ s => Machine.Fits config s
  | .stop => True

/-- An instruction keeps to the sizes of the machine. -/
lemma Fits.perform (h : Fits config s) (p : Program) (i : Nat) (op : Opcode) :
    Yields (Outcome.Fits config) (Machine.perform p config i s op) := by
  cases op with
  | push => exact (h.push i _).bind fun s' hs => .ok hs
  | pushVar => exact .after fun n => ((h.accumulator _).push i _).bind fun s' hs => .ok hs
  | pushConst => exact .after fun x => ((h.accumulator x).push i x).bind fun s' hs => .ok hs
  | loadConst => exact .after fun x => .ok (h.accumulator x)
  | loadVar => exact .after fun n => .ok (h.accumulator _)
  | storeVar => exact .after fun n => .ok (h.store n)
  | unary op => exact .ok (h.accumulator _)
  | binary op =>
    rw [Machine.perform]
    split
    · exact .error _
    · exact (h.pop i).bind fun a ha => .ok (ha.accumulator _)
  | logical op => exact (h.pop i).bind fun a ha => .ok (ha.accumulator _)
  | jump j =>
    rw [Machine.perform]
    split
    · exact .after fun distance => .ok h
    · exact .ok h
  | call f => exact (h.callFunction i f).bind fun s' hs => .ok hs
  | endCode => exact .ok trivial
  | nothing => exact .error _
  | conditional => exact .error _

/-- A run keeps to the sizes of the machine. -/
lemma Reaches.fits (hstart : Fits config start.state) (h : Reaches p config start n c) :
    Fits config c.state := by
  induction h with
  | refl => exact hstart
  | step _ hround ih =>
    obtain ⟨op, skip, s, -, hperform, rfl⟩ := round_eq_inr_iff.1 hround
    exact ih.perform p _ op _ hperform

/-- A computation fails on illegal code unless something holds. -/
def Guards {α : Type} (P : Prop) (x : Except Fault α) : Prop :=
  P ∨ ∃ f, x = .error f ∧ f.kind = .illegalCode

/-- What a first computation guards against is guarded against. -/
lemma Guards.bind {α β : Type} {P : Prop} {x : Except Fault α} (h : Guards P x)
    (f : α → Except Fault β) : Guards P (x >>= f) := by
  rcases h with h | ⟨fault, rfl, hkind⟩
  · exact .inl h
  · exact .inr ⟨fault, rfl, hkind⟩

/-- A word that is looked up is in the code. -/
lemma guards_operand {α : Type} {P : Int → Prop} {f : Int32 → Except Fault α}
    (h : ∀ w, i + 1 < p.code.size → Guards (P w.toInt) (f w)) :
    Guards (P (operandValue p i)) (operand p i >>= f) := by
  unfold operand operandValue
  cases hw : p.code[i + 1]? with
  | none => exact .inr ⟨_, rfl, rfl⟩
  | some w => exact h w (Array.getElem?_eq_some_iff.1 hw).1

/-- A slot is selected inside the memory, by a word inside the code. -/
lemma guards_slot (hs : s.memory.size = config.memorySize) :
    Guards (∀ a ∈ [Access.code (i + 1), .slot (operandValue p i)], a.InBounds p config)
      (slot p i s) := by
  refine guards_operand (P := fun x => ∀ a ∈ [Access.code (i + 1), .slot x], a.InBounds p config)
    fun w hcode => ?_
  cases hn : index? w with
  | none => exact .inr ⟨.badSlot w i, by simp, rfl⟩
  | some n =>
    have hword : w.toInt = n := index?_eq_some_iff.1 hn
    by_cases hlt : n < s.memory.size
    · refine .inl ?_
      simp only [List.forall_mem_cons, Access.InBounds]
      refine ⟨by omega, by omega, nofun⟩
    · exact .inr ⟨.badSlot w i, by simp [hlt], rfl⟩

/-- A constant is selected inside the pool, by a word inside the code. -/
lemma guards_constant :
    Guards (∀ a ∈ [Access.code (i + 1), .constant (operandValue p i)], a.InBounds p config)
      (constant p i) := by
  refine guards_operand
    (P := fun x => ∀ a ∈ [Access.code (i + 1), .constant x], a.InBounds p config) fun w hcode => ?_
  cases hx : p.constant? w with
  | none => exact .inr ⟨.badConstant w i, by simp, rfl⟩
  | some x =>
    obtain ⟨n, hn, hconstant⟩ := Option.bind_eq_some_iff.1 hx
    obtain ⟨pattern, hpattern, -⟩ := Option.map_eq_some_iff.1 hconstant
    have hword : w.toInt = n := index?_eq_some_iff.1 hn
    have hlt : n < p.constants.size := (Array.getElem?_eq_some_iff.1 hpattern).1
    refine .inl ?_
    simp only [List.forall_mem_cons, Access.InBounds]
    refine ⟨by omega, by omega, nofun⟩

/-- The target of a jump is selected inside the code, by a word inside the code. -/
lemma guards_jumpDistance :
    Guards (∀ a ∈ [Access.code (i + 1), .code (i + operandValue p i + 1)], a.InBounds p config)
      (jumpDistance p i) := by
  refine guards_operand
    (P := fun x => ∀ a ∈ [Access.code (i + 1), .code (i + x + 1)], a.InBounds p config)
    fun w hcode => ?_
  cases hn : index? w with
  | none => exact .inr ⟨.badJump w i, by simp, rfl⟩
  | some n =>
    have hword : w.toInt = n := index?_eq_some_iff.1 hn
    by_cases hlt : i + n + 1 < p.code.size
    · refine .inl ?_
      simp only [List.forall_mem_cons, Access.InBounds]
      refine ⟨by omega, by omega, nofun⟩
    · exact .inr ⟨.badJump w i, by simp [hlt], rfl⟩

/-- An instruction looks up nothing out of bounds. -/
lemma guards_perform (hs : s.memory.size = config.memorySize) (op : Opcode) :
    Guards (∀ a ∈ accesses i s.accumulator (operandValue p i) op, a.InBounds p config)
      (perform p config i s op) := by
  cases op with
  | pushVar => exact (guards_slot hs).bind _
  | loadVar => exact (guards_slot hs).bind _
  | storeVar => exact (guards_slot hs).bind _
  | pushConst => exact guards_constant.bind _
  | loadConst => exact guards_constant.bind _
  | jump j =>
    rw [accesses, perform]
    split
    · exact guards_jumpDistance.bind _
    · exact .inl nofun
  | _ => exact .inl nofun

/-- A pass looks up nothing out of bounds: it ends the run as illegal code before it would. -/
lemma accesses_inBounds (hs : Fits config c.state) :
    (∀ a ∈ c.accesses p, a.InBounds p config) ∨
      ∃ f, round p config c = .inl (.error f) ∧ f.kind = .illegalCode := by
  unfold Configuration.accesses round
  cases hw : p.code[c.position]? with
  | none => exact .inr ⟨_, rfl, rfl⟩
  | some w =>
    have hcode : c.position < p.code.size := (Array.getElem?_eq_some_iff.1 hw).1
    have hfetch : (Access.code c.position).InBounds p config := by
      simp only [Access.InBounds]
      omega
    cases hop : Opcode.ofWord? w with
    | none => exact .inr ⟨.badWord w, by simp [hop], rfl⟩
    | some op =>
      simp only [Option.bind_some, hop]
      rcases guards_perform (p := p) (i := c.position) hs.memory_eq op with h | ⟨f, hf, hkind⟩
      · exact .inl (List.forall_mem_cons.2 ⟨hfetch, h⟩)
      · exact .inr ⟨f, by rw [hf], hkind⟩

/-- Runs from the first instruction on are contained. -/
lemma contained_run (hposition : start.position = 1) (hstart : Fits config start.state) :
    Contained p config start (run p config start.position start.state) where
  ends := exists_reaches_end p config start
  advances _ _ _ _ := position_lt_of_round
  fetches_le n c h hc := by
    have := h.position_le
    omega
  fits _ _ h := h.fits hstart
  inBounds _ _ h := accesses_inBounds (h.fits hstart)

end Machine

/-- The machine at the start of a run on arguments, or the fault that is found before it starts. -/
def Program.start (p : Program) (config : MachineConfig) (args : List Float) :
    Except Fault Machine.Configuration :=
  if p.isEmpty then .error .noCode
  else
    match p.paramCount? with
    | none => .error (.badHeader (p.code[0]?.getD 0))
    | some declared =>
      if args.length < declared then .error (.insufficientArgs declared)
      else if config.memorySize < declared then
        .error (.tooManyArgs config.memorySize declared)
      else .ok ⟨1, ⟨0, [], Machine.startMemory config declared args⟩⟩

/-- The machine at the start of a run: the memory has a slot for each declared parameter, and holds
an argument in it. -/
structure Machine.Loaded (p : Program) (args : List Float) (c : Machine.Configuration) : Prop where
  position_eq : c.position = 1
  argument : ∃ declared, p.paramCount? = some declared ∧
    ∀ i < declared, ∃ x, args[i]? = some x ∧ c.state.memory[i]? = some x

section Execute

variable {p : Program} {config : MachineConfig} {args : List Float} {c : Machine.Configuration}

/-- The memory at the start has the size of the machine. -/
lemma Machine.size_startMemory {declared : Nat} (hargs : declared ≤ args.length)
    (hmemory : declared ≤ config.memorySize) :
    (Machine.startMemory config declared args).size = config.memorySize := by
  simp only [Machine.startMemory, List.size_toArray, List.length_append, List.length_take,
    List.length_replicate]
  omega

/-- The memory at the start holds the declared arguments in their order. -/
lemma Machine.getElem?_startMemory {declared i : Nat} (hargs : declared ≤ args.length)
    (hi : i < declared) : (Machine.startMemory config declared args)[i]? = args[i]? := by
  have htake : i < (args.take declared).length := by
    rw [List.length_take]
    omega
  rw [Machine.startMemory, List.getElem?_toArray, List.getElem?_append_left htake,
    List.getElem?_take_of_lt hi]

/-- A run that starts at all starts with an empty stack and with its arguments in memory. -/
lemma Program.start_eq_ok_iff :
    p.start config args = .ok c ↔
      p.isEmpty = false ∧ ∃ declared, p.paramCount? = some declared ∧ declared ≤ args.length ∧
        declared ≤ config.memorySize ∧
        c = ⟨1, ⟨0, [], Machine.startMemory config declared args⟩⟩ := by
  unfold Program.start
  cases p.isEmpty with
  | true => simp
  | false =>
    cases p.paramCount? with
    | none => simp
    | some declared =>
      simp only [Bool.false_eq_true, if_false, Option.some.injEq, ↓existsAndEq, true_and]
      split
      · next h => simp [Nat.not_le.2 h]
      split
      · next h => simp [Nat.not_le.2 h]
      next hargs hmemory =>
      simp only [Except.ok.injEq, Nat.le_of_not_lt hargs, Nat.le_of_not_lt hmemory, true_and]
      exact eq_comm

/-- An execution is a run from the start, if there is one. -/
lemma Program.execute_eq_start (p : Program) (config : MachineConfig) (args : List Float) :
    p.execute config args =
      p.start config args >>= fun c => Machine.run p config c.position c.state := by
  unfold Program.execute Program.start
  split
  · rfl
  cases p.paramCount? with
  | none => rfl
  | some declared =>
    dsimp only
    split
    · rfl
    split
    · rfl
    rfl

/-- Every program, whatever its words and its constants, runs within its machine on every list of
arguments: the run ends, after fewer fetches than there are words; the stack and the memory keep to
their sizes; all indices are in bounds; and a failure is of one of six kinds. -/
theorem execute_contained (p : Program) (config : MachineConfig) (args : List Float) :
    (∀ f, p.execute config args = .error f → f.kind ∈ Fault.kinds) ∧
      match p.start config args with
      | .error f => p.execute config args = .error f
      | .ok c => Machine.Loaded p args c ∧ Machine.Contained p config c (p.execute config args) := by
  refine ⟨fun f _ => f.kind_mem_kinds, ?_⟩
  rw [p.execute_eq_start config args]
  cases hstart : p.start config args with
  | error f => rfl
  | ok c =>
    obtain ⟨-, declared, hdeclared, hargs, hmemory, rfl⟩ := Program.start_eq_ok_iff.1 hstart
    refine ⟨⟨rfl, declared, hdeclared, ?_⟩, Machine.contained_run rfl ⟨Nat.zero_le _, ?_⟩⟩
    · intro i hi
      have harg : args[i]? = some args[i] := List.getElem?_eq_getElem (by omega)
      exact ⟨args[i], harg, (Machine.getElem?_startMemory hargs hi).trans harg⟩
    · exact Machine.size_startMemory hargs hmemory

end Execute

end Formula
