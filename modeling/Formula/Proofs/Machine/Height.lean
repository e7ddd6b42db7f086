import Formula.Program.StackDepth
import Formula.Proofs.Except
import Formula.Proofs.Expr.Evaluation
import Formula.Proofs.Expr.Words
import Formula.Proofs.Machine.Effect

/-!
# The height of the stack over compiled code

A run over the words of an expression does not overflow a stack that has room for the depth of the
expression (`Expr.keepsHeight`). Nothing is asked of the slots and constants that the words name: where
they are out of range the run ends as illegal code. Jumps are told by 32-bit words, so the code may
have as many words as there are positions of 32 bits; a distance that has no signed word ends the run
as well.

`RoomyAt` speaks of all runs from a place, and words are followed from their end to their start: if
runs from behind them do not overflow the stack, then runs from their start do not.
-/

namespace Formula

/-- The words that stand in an array are no more than the array has from there on. -/
lemma Holds.length_le {α : Type} {xs : Array α} {i : Nat} {ys : List α} (h : Holds xs i ys) :
    i + ys.length ≤ xs.size := by
  obtain ⟨before, after, hxs, rfl⟩ := h
  rw [← Array.length_toList, hxs]
  simp

/-- As an index, the word of a number of 32 bits is that number, or none. -/
lemma eq_of_index?_ofNat {m n : Nat} (hn : n < 2 ^ 32) (h : index? (Int32.ofNat n) = some m) :
    m = n := by
  have hword := index?_eq_some_iff.1 h
  rw [Int32.toInt_ofNat', Int.bmod_def, show Int32.size = 2 ^ 32 from rfl] at hword
  omega

/-- A computation that does not overflow the stack, and whose value has a property. -/
def Roomy {α : Type} (Q : α → Prop) (x : Except Fault α) : Prop :=
  Meets (fun f : Fault => f.kind ≠ .stackOverflow) Q x

namespace Machine

variable {p : Program} {config : MachineConfig} {i h h' h'' : Nat} {s : MachineState}

/-- The distance of a jump is the number in its operand word. -/
lemma roomy_jumpDistance (p : Program) (i : Nat) :
    Roomy (fun distance => ∃ w, p.code[i + 1]? = some w ∧ index? w = some distance)
      (jumpDistance p i) := by
  refine (meets_operand fun _ => by simp [Fault.kind]).bind fun w hw => ?_
  split
  · next distance hdistance =>
    split
    · exact .ok ⟨w, hw, hdistance⟩
    · exact .error (by simp [Fault.kind])
  · exact .error (by simp [Fault.kind])

/-- Runs from a place with a given height of the stack do not overflow it. -/
def RoomyAt (p : Program) (config : MachineConfig) (i h : Nat) : Prop :=
  ∀ s : MachineState, s.stack.length = h → Roomy (fun _ => True) (run p config i s)

/-- Runs from an instruction that is no jump do not overflow the stack if those from the next one do
not. -/
lemma RoomyAt.of_word {op : Opcode} {pops pushes : Nat} (hword : p.code[i]? = some op.word)
    (heffect : op.stackEffect? = some (pops, pushes)) (hjump : op.isJump = false)
    (hend : op ≠ .endCode) (hroom : h + pushes ≤ config.stackSize)
    (hnext : RoomyAt p config (i + op.size) (h + pushes)) : RoomyAt p config i (h + pops) := by
  intro s hs
  rcases run_cases hword heffect hjump hend with ⟨f, hf, hrun⟩ | ⟨s', hs', hrun⟩
  · rw [hrun]
    refine .error ?_
    cases hf with
    | stackOverflow hfull => omega
    | outOfRange hrange =>
      cases hrange with
      | _ => simp [Fault.kind]
    | _ => simp [Fault.kind]
  · rw [hrun]
    exact hnext s' (by rw [hs'.height_eq, hs, Nat.add_sub_cancel])

/-- Runs from a jump do not overflow the stack if those from the next instruction and from its target
do not. -/
lemma RoomyAt.of_jump {j : Jump} {distance : Nat}
    (hcode : Holds p.code i [(Opcode.jump j).word, Int32.ofNat distance]) (hlt : distance < 2 ^ 32)
    (hnext : RoomyAt p config (i + 2) h) (htarget : RoomyAt p config (i + distance + 1) h) :
    RoomyAt p config i h := by
  intro s hs
  rw [run_of_word hcode.head, perform]
  by_cases htaken : j.isTaken s.accumulator = true
  · have hdistance := roomy_jumpDistance p i
    rw [if_pos htaken]
    cases hjump : jumpDistance p i with
    | error fault =>
      rw [hjump] at hdistance
      exact hdistance
    | ok distance' =>
      rw [hjump] at hdistance
      obtain ⟨w, hw, hindex⟩ := hdistance
      rw [hcode.tail.head] at hw
      cases hw
      cases eq_of_index?_ofNat hlt hindex
      exact htarget s hs
  · rw [if_neg htaken]
    exact hnext s hs

/-- The end of a program does not overflow the stack. -/
lemma RoomyAt.of_end (hword : p.code[i]? = some Opcode.endCode.word) : RoomyAt p config i h := by
  intro s _
  rw [run_of_word hword]
  exact .ok trivial

/-- Words over which the height of the stack goes from one number to another without an overflow,
wherever they stand. -/
def Keeps (config : MachineConfig) (ws : List Int32) (h h' : Nat) : Prop :=
  ∀ (p : Program) (i : Nat), p.code.size ≤ 2 ^ 32 → Holds p.code i ws →
    RoomyAt p config (i + ws.length) h' → RoomyAt p config i h

namespace Keeps

variable {ws us : List Int32} {push : Bool}

/-- No words. -/
lemma nil (h : Nat) : Keeps config [] h h :=
  fun _ _ _ _ hend => hend

/-- Words after other words. -/
lemma append (hw : Keeps config ws h h') (hu : Keeps config us h' h'') :
    Keeps config (ws ++ us) h h'' := by
  intro p i hsize hcode hend
  rw [List.length_append, ← Nat.add_assoc] at hend
  exact hw p i hsize hcode.left (hu p _ hsize hcode.right hend)

/-- An instruction without an operand word. -/
lemma short (op : Opcode) {pops pushes : Nat} (hop : op.hasOperand = false) (hend : op ≠ .endCode)
    (heffect : op.stackEffect? = some (pops, pushes)) (hroom : h + pushes ≤ config.stackSize) :
    Keeps config [op.word] (h + pops) (h + pushes) := by
  intro p i _ hcode hnext
  have hjump : op.isJump = false := by
    cases op with
    | jump => cases hop
    | _ => rfl
  refine .of_word hcode.head heffect hjump hend hroom ?_
  rw [Opcode.size, hop]
  exact hnext

/-- An instruction with its operand word. -/
lemma long (op : Opcode) (operand : Int32) {pops pushes : Nat} (hop : op.hasOperand = true)
    (hjump : op.isJump = false) (heffect : op.stackEffect? = some (pops, pushes))
    (hroom : h + pushes ≤ config.stackSize) :
    Keeps config [op.word, operand] (h + pops) (h + pushes) := by
  intro p i _ hcode hnext
  have hend : op ≠ .endCode := by
    rintro rfl
    cases hop
  refine .of_word hcode.head heffect hjump hend hroom ?_
  rw [Opcode.size, hop]
  exact hnext

/-- A push, if there is one. -/
lemma pushWords (hroom : h + push.toNat ≤ config.stackSize) :
    Keeps config (Expr.pushWords push) h (h + push.toNat) := by
  cases push with
  | false => exact nil h
  | true => exact short .push rfl (by simp) rfl hroom

/-- A load, fused with the push after it or not. -/
lemma loadWords (optimize : Bool) {load fused : Opcode} (operand : Int32)
    (hload : load.hasOperand = true) (hfused : fused.hasOperand = true)
    (hloadJump : load.isJump = false) (hfusedJump : fused.isJump = false)
    (hloadEffect : load.stackEffect? = some (0, 0)) (hfusedEffect : fused.stackEffect? = some (0, 1))
    (hroom : h + push.toNat ≤ config.stackSize) :
    Keeps config (Expr.loadWords optimize push load fused operand) h (h + push.toNat) := by
  unfold Expr.loadWords
  split
  · next hfuse =>
    obtain ⟨-, rfl⟩ := Bool.and_eq_true_iff.1 hfuse
    exact long fused operand hfused hfusedJump hfusedEffect hroom
  · exact (long load operand hload hloadJump hloadEffect (by omega)).append (pushWords hroom)

/-- Words, then an instruction that takes operands from the stack, and the push of its value if there
is one. -/
lemma thenPops (hw : Keeps config ws h (h + n)) (op : Opcode) (hop : op.hasOperand = false)
    (hend : op ≠ .endCode) (heffect : op.stackEffect? = some (n, 0))
    (hroom : h + push.toNat ≤ config.stackSize) :
    Keeps config (ws ++ [op.word] ++ Expr.pushWords push) h (h + push.toNat) :=
  (hw.append (short op hop hend heffect (by omega))).append (pushWords hroom)

/-- A jump over words. -/
lemma jumpOver (j : Jump) (hw : Keeps config ws h h) :
    Keeps config ([(Opcode.jump j).word, Int32.ofNat (ws.length + 1)] ++ ws) h h := by
  intro p i hsize hcode hend
  have hlength := hcode.length_le
  simp only [List.length_append, List.length_cons, List.length_nil] at hlength hend
  refine .of_jump hcode.left (by omega) (hw p _ hsize hcode.right ?_) ?_
  · rwa [← Nat.add_assoc] at hend
  · rwa [show i + (ws.length + 1) + 1 = i + (0 + 1 + 1 + ws.length) by omega]

/-- Two branches: a jump leads to the second one, and a jump at the end of the first one leads over
it. -/
lemma branches (j : Jump) (hw : Keeps config ws h h) (hu : Keeps config us h h) :
    Keeps config ([(Opcode.jump j).word, Int32.ofNat (ws.length + 3)] ++ ws ++
      [(Opcode.jump .always).word, Int32.ofNat (us.length + 1)] ++ us) h h := by
  intro p i hsize hcode hend
  have hlength := hcode.length_le
  simp only [List.length_append, List.length_cons, List.length_nil] at hlength hend
  -- The second branch stands behind both jumps and the first branch.
  have hsecond : RoomyAt p config (i + (ws.length + 3) + 1) h := by
    refine hu p _ hsize ?_ ?_
    · have hright := hcode.right
      simp only [List.length_append, List.length_cons, List.length_nil] at hright
      rwa [show i + (ws.length + 3) + 1 = i + (0 + 1 + 1 + ws.length + (0 + 1 + 1)) by omega]
    · rwa [show i + (ws.length + 3) + 1 + us.length =
        i + (0 + 1 + 1 + ws.length + (0 + 1 + 1) + us.length) by omega]
  have hfirst : RoomyAt p config (i + 2) h := by
    refine hw p _ hsize hcode.left.left.right ?_
    rw [List.append_assoc] at hcode
    have hover := jumpOver .always hu p _ hsize hcode.right
    simp only [List.length_append, List.length_cons, List.length_nil] at hover
    rw [show i + (0 + 1 + 1 + ws.length) = i + 2 + ws.length by omega] at hover
    refine hover ?_
    rwa [show i + 2 + ws.length + (0 + 1 + 1 + us.length) =
      i + (0 + 1 + 1 + ws.length + (0 + 1 + 1) + us.length) by omega]
  exact .of_jump hcode.left.left.left (by omega) hfirst hsecond

end Keeps

end Machine

/-- A run that does not start has not overflowed the stack. -/
lemma Program.kind_ne_of_start {p : Program} {config : MachineConfig} {args : List Float} {f : Fault}
    (h : p.start config args = .error f) : f.kind ≠ .stackOverflow := by
  unfold Program.start at h
  split at h
  · cases h
    exact nofun
  split at h
  · cases h
    exact nofun
  split at h
  · cases h
    exact nofun
  split at h
  · cases h
    exact nofun
  · cases h

namespace Expr

open Machine

variable {config : MachineConfig} {optimize : Bool} {h : Nat}

/-- The words of an expression do not overflow a stack with room for its depth. -/
def KeepsHeight (config : MachineConfig) (optimize : Bool) (e : Expr) : Prop :=
  ∀ (push : Bool) (k h : Nat), h + e.depth ≤ config.stackSize → h + push.toNat ≤ config.stackSize →
    Keeps config (e.words optimize push k) h (h + push.toNat)

namespace KeepsHeight

variable {e : Expr}

/-- An expression that is not pushed. -/
lemma alone (he : KeepsHeight config optimize e) (k : Nat) (hdepth : h + e.depth ≤ config.stackSize) :
    Keeps config (e.words optimize false k) h h :=
  he false k h hdepth (Nat.le_of_add_right_le hdepth)

/-- An expression that is pushed. -/
lemma kept (he : KeepsHeight config optimize e) (k : Nat) (hdepth : h + e.depth ≤ config.stackSize)
    (hroom : h + 1 ≤ config.stackSize) : Keeps config (e.words optimize true k) h (h + 1) :=
  he true k h hdepth hroom

end KeepsHeight

/-- No expression overflows a stack with room for its depth, with the code of both kinds. -/
theorem keepsHeight (config : MachineConfig) (optimize : Bool) (e : Expr) :
    KeepsHeight config optimize e := by
  induction e with
  | const x =>
    intro push k h _ hpush
    exact .loadWords optimize _ rfl rfl rfl rfl rfl rfl hpush
  | param slot =>
    intro push k h _ hpush
    exact .loadWords optimize _ rfl rfl rfl rfl rfl rfl hpush
  | assign slot e ih =>
    intro push k h hdepth hpush
    have hstore : Keeps config [Opcode.storeVar.word, Int32.ofNat slot] h h :=
      .long .storeVar _ rfl rfl rfl (by omega)
    exact ((ih.alone k hdepth).append hstore).append (.pushWords hpush)
  | unary op e ih =>
    intro push k h hdepth hpush
    exact (ih.alone k hdepth).thenPops (.unary op) rfl (by simp) rfl hpush
  | binary op l r ihl ihr =>
    intro push k h hdepth hpush
    rw [depth] at hdepth
    have hl := ihl.kept (h := h) k (by omega) (by omega)
    have hr := ihr.alone (h := h + 1) (k + l.constants.length) (by omega)
    exact (hl.append hr).thenPops (.binary op) rfl (by simp) rfl hpush
  | logical op l r ihl ihr =>
    intro push k h hdepth hpush
    rw [depth] at hdepth
    have hl := ihl.kept (h := h) k (by omega) (by omega)
    have hr := ihr.alone (h := h + 1) (k + l.constants.length) (by omega)
    exact (hl.append (hr.jumpOver op.skip)).thenPops (.logical op) rfl (by simp) rfl hpush
  | sequence a b iha ihb =>
    intro push k h hdepth hpush
    rw [depth] at hdepth
    have ha := iha.alone (h := h) k (by omega)
    have hb := ihb push (k + a.constants.length) h (by omega) hpush
    exact ha.append hb
  | conditional c yes no ihc ihyes ihno =>
    intro push k h hdepth hpush
    rw [depth] at hdepth
    have hc := ihc.alone (h := h) k (by omega)
    have hyes := ihyes.alone (h := h) (k + c.constants.length) (by omega)
    have hno := ihno.alone (h := h) (k + c.constants.length + yes.constants.length) (by omega)
    exact (hc.append (hyes.branches .ifFalse hno)).append (.pushWords hpush)
  | call1 f a ih =>
    intro push k h hdepth hpush
    rw [depth] at hdepth
    have ha := ih.kept (h := h) k (by omega) (by omega)
    exact ha.thenPops (.call (.one f)) rfl (by simp) rfl hpush
  | call2 f a b iha ihb =>
    intro push k h hdepth hpush
    rw [depth] at hdepth
    have ha := iha.kept (h := h) k (by omega) (by omega)
    have hb := ihb.kept (h := h + 1) (k + a.constants.length) (by omega) (by omega)
    exact (ha.append hb).thenPops (.call (.two f)) rfl (by simp) rfl hpush
  | numberFormat a b c iha ihb ihc =>
    intro push k h hdepth hpush
    rw [depth] at hdepth
    have ha := iha.kept (h := h) k (by omega) (by omega)
    have hb := ihb.kept (h := h + 1) (k + a.constants.length) (by omega) (by omega)
    have hc := ihc.kept (h := h + 2) (k + a.constants.length + b.constants.length) (by omega)
      (by omega)
    exact ((ha.append hb).append hc).thenPops (.call .numberFormat) rfl (by simp) rfl hpush

/-- The program of an expression does not overflow a stack with room for the depth of the expression,
whatever it is run on. -/
theorem execute_ne_stackOverflow {e : Expr} {n : Nat} {args : List Float} {f : Fault}
    (hsize : (e.program optimize n).code.size ≤ 2 ^ 32) (hdepth : e.depth ≤ config.stackSize)
    (hf : (e.program optimize n).execute config args = .error f) : f.kind ≠ .stackOverflow := by
  have hcode : Holds (e.program optimize n).code 1
      (e.words optimize false 0 ++ [Opcode.endCode.word]) :=
    ⟨[Int32.ofNat n], [], by simp [program], rfl⟩
  have hkeeps : Keeps config (e.words optimize false 0) 0 0 :=
    (keepsHeight config optimize e).alone 0 (by rwa [Nat.zero_add])
  have hroomy := hkeeps _ 1 hsize hcode.left (.of_end hcode.right.head)
  rw [Program.execute_eq_start] at hf
  cases hstart : (e.program optimize n).start config args with
  | error fault =>
    rw [hstart] at hf
    cases hf
    exact Program.kind_ne_of_start hstart
  | ok c =>
    obtain ⟨-, declared, -, -, -, rfl⟩ := Program.start_eq_ok_iff.1 hstart
    have hrun := hroomy ⟨0, [], startMemory config declared args⟩ rfl
    rw [hstart] at hf
    have hf : run (e.program optimize n) config 1 ⟨0, [], startMemory config declared args⟩ =
      .error f := hf
    rw [hf] at hrun
    exact hrun

end Expr

end Formula
