import Formula.Proofs.Expr.Layout
import Formula.Proofs.Machine.Containment

/-!
# Runs keep to instructions

Over the program of an expression a run fetches only words that start an instruction, though nothing
in the machine sees to that. An instruction is followed by the next one or, if it is a jump, by the
place where it lands; both are boundaries of the tiling of the program (`reaches_instruction`).
-/

namespace Formula

namespace Machine

variable {p : Program} {config : MachineConfig} {i : Nat} {s : MachineState}

/-- An instruction that does not end a run is followed by the next word after it, or it is a jump that
is taken. -/
lemma perform_skip (p : Program) (config : MachineConfig) (i : Nat) (s : MachineState) (op : Opcode) :
    Yields (fun outcome => ∀ skip s', outcome = .next skip s' →
      skip + 1 = op.size ∧ op ≠ .endCode ∨ ∃ j, op = .jump j ∧ jumpDistance p i = .ok skip)
      (perform p config i s op) := by
  have hnext (skip : Nat) (s' : MachineState) (h : skip + 1 = op.size ∧ op ≠ .endCode) :
      ∀ skip' s'', Outcome.next skip s' = .next skip' s'' →
        skip' + 1 = op.size ∧ op ≠ .endCode ∨ ∃ j, op = .jump j ∧ jumpDistance p i = .ok skip' := by
    intro skip' s'' heq
    cases heq
    exact .inl h
  cases op with
  | push => exact .after fun s' => .ok (hnext 0 s' (by decide))
  | pushVar => exact .after fun n => .after fun s' => .ok (hnext 1 s' (by decide))
  | pushConst => exact .after fun x => .after fun s' => .ok (hnext 1 s' (by decide))
  | loadConst => exact .after fun x => .ok (hnext 1 _ (by decide))
  | loadVar => exact .after fun n => .ok (hnext 1 _ (by decide))
  | storeVar => exact .after fun n => .ok (hnext 1 _ (by decide))
  | unary op => exact .ok (hnext 0 _ ⟨rfl, by simp⟩)
  | binary op =>
    rw [perform]
    split
    · exact .error _
    · exact .after fun a => .ok (hnext 0 _ ⟨rfl, by simp⟩)
  | logical op => exact .after fun a => .ok (hnext 0 _ ⟨rfl, by simp⟩)
  | jump j =>
    rw [perform]
    split
    · have hdistance : Yields (fun distance => jumpDistance p i = .ok distance) (jumpDistance p i) :=
        fun _ h => h
      refine hdistance.bind fun distance h => .ok ?_
      intro skip s' heq
      cases heq
      exact .inr ⟨j, rfl, h⟩
    · exact .ok (hnext 1 s ⟨rfl, by simp⟩)
  | call f => exact .after fun s' => .ok (hnext 0 s' ⟨rfl, by simp⟩)
  | endCode =>
    refine .ok ?_
    intro skip s' heq
    cases heq
  | nothing => exact .error _
  | conditional => exact .error _

/-- The operand word of a jump that is taken is its distance. -/
lemma operand_of_jumpDistance {distance : Nat} (h : jumpDistance p i = .ok distance) :
    ∃ w, p.code[i + 1]? = some w ∧ w.toInt = distance := by
  unfold jumpDistance operand at h
  cases hw : p.code[i + 1]? with
  | none =>
    rw [hw] at h
    cases h
  | some w =>
    refine ⟨w, rfl, ?_⟩
    cases hn : index? w with
    | none => simp [hw, hn, bind, Except.bind] at h
    | some n =>
      simp only [hw, hn, bind, Except.bind] at h
      split at h
      · cases h
        exact index?_eq_some_iff.1 hn
      · cases h

end Machine

namespace Expr

variable {n : Nat} {optimize : Bool} {e : Expr}

/-- The instruction that ends the program of an expression. -/
def lastInstruction (optimize : Bool) (e : Expr) : Instruction :=
  ⟨1 + (e.words optimize false 0).length, .endCode, none⟩

/-- A walk over the program of an expression goes through its instructions, and ends. -/
lemma walk_program {is : List Instruction} (htiles : Tiles 1 is (e.words optimize false 0))
    (hinner : ∀ i ∈ is, i.Inner n) :
    (e.program optimize n).walk.instructions = is ++ [e.lastInstruction optimize] ∧
      (e.program optimize n).walk.obstacle? = none := by
  have hends : ∀ i ∈ is, i.op ≠ .endCode := fun i hi => (hinner i hi).op_ne rfl
  have hend : Walk.ofWords (1 + (e.words optimize false 0).length) [Opcode.endCode.word] =
      .done (1 + (e.words optimize false 0).length) := by
    rw [Walk.ofWords, Opcode.ofWord?_word]
    rfl
  have hwalk := htiles.walk_eq hends [Opcode.endCode.word]
  rw [hend] at hwalk
  have hprogram : (e.program optimize n).walk =
      Walk.ofWords 1 (e.words optimize false 0 ++ [Opcode.endCode.word]) := rfl
  rw [hprogram, hwalk, Walk.instructions_foldr, Walk.obstacle?_foldr]
  exact ⟨rfl, rfl⟩

/-- The program of an expression is tiled by its instructions. -/
lemma tiles_program {is : List Instruction} (htiles : Tiles 1 is (e.words optimize false 0)) :
    Tiles 1 (is ++ [e.lastInstruction optimize])
      (e.words optimize false 0 ++ [Opcode.endCode.word]) :=
  htiles.append (Tiles.single (i := e.lastInstruction optimize) rfl)

/-- The words of each instruction stand at its position in the program. -/
lemma holds_program {is : List Instruction} (htiles : Tiles 1 is (e.words optimize false 0))
    {i : Instruction} (hi : i ∈ is ++ [e.lastInstruction optimize]) :
    Holds (e.program optimize n).code i.position i.words := by
  obtain ⟨before, after, hwords, hposition⟩ := (tiles_program htiles).exists_split hi
  refine ⟨Int32.ofNat n :: before, after, ?_, ?_⟩
  · simp [program, hwords]
  · rw [← hposition, List.length_cons, Nat.add_comm]

/-- At each boundary of the words of an expression an instruction of its program starts. -/
lemma exists_instruction {is : List Instruction} {place : Nat}
    (h : Boundary 1 is (e.words optimize false 0) place) :
    ∃ i ∈ is ++ [e.lastInstruction optimize], i.position = place := by
  rcases h with rfl | ⟨i, hi, hposition⟩
  · exact ⟨_, List.mem_append_right _ (List.mem_singleton_self _), rfl⟩
  · exact ⟨i, List.mem_append_left _ hi, hposition⟩

/-- A run over the program of an expression comes only to places where an instruction starts. One
pass leads from an instruction to the next one, or to where a jump lands. -/
lemma reaches_instruction {is : List Instruction} {count k : Nat} {config : MachineConfig}
    {start c : Machine.Configuration}
    (hblock : Block n 0 count 1 is (e.words optimize false 0))
    (hlength : (e.words optimize false 0).length ≤ 2 ^ 31) (hstart : start.position = 1)
    (h : Machine.Reaches (e.program optimize n) config start k c) :
    ∃ i ∈ is ++ [e.lastInstruction optimize], i.position = c.position := by
  induction h with
  | refl =>
    rw [hstart]
    exact exists_instruction hblock.tiles.boundary_start
  | @step k c c' _ hround ih =>
    obtain ⟨i, hi, hposition⟩ := ih
    obtain ⟨op, skip, s, hfetch, hperform, rfl⟩ := Machine.round_eq_inr_iff.1 hround
    have hcode := holds_program (n := n) hblock.tiles hi
    rw [hposition] at hcode
    have hop : i.op = op := by
      rw [show (e.program optimize n).code[c.position]? = some i.op.word from hcode.head,
        Option.bind_some, Opcode.ofWord?_word] at hfetch
      exact Option.some.inj hfetch
    have hskip := Machine.perform_skip _ _ _ _ _ _ hperform skip s rfl
    -- The end does not lead anywhere, so the instruction is one of those before it.
    have hne : i.op ≠ .endCode := by
      rw [hop]
      rcases hskip with ⟨-, hne⟩ | ⟨j, rfl, -⟩
      · exact hne
      · exact nofun
    have hi : i ∈ is := by
      rcases List.mem_append.1 hi with hi | hi
      · exact hi
      · rw [List.mem_singleton.1 hi] at hne
        exact absurd rfl hne
    rcases hskip with ⟨hsize, -⟩ | ⟨j, rfl, hdistance⟩
    · have hnext := exists_instruction (hblock.tiles.boundary_next hi)
      rwa [hposition, Instruction.length_words (hblock.tiles.operand_isSome hi), hop, ← hsize,
        ← Nat.add_assoc] at hnext
    · obtain ⟨w, hw, hvalue⟩ := Machine.operand_of_jumpDistance hdistance
      have hoperand : i.operand = some w := by
        have hsome := hblock.tiles.operand_isSome hi
        rw [hop] at hsome
        obtain ⟨w', hw'⟩ := Option.isSome_iff_exists.1 hsome
        have htail : Holds (e.program optimize n).code (c.position + 1) [w'] := by
          have := hcode.tail
          rwa [hw'] at this
        rw [hw', ← htail.head, hw]
      have htarget : i.target? = some (i.position + w.toInt + 1) := by
        rw [Instruction.target?, hop, hoperand]
      obtain ⟨place, hplace, -, hmem⟩ := hblock.lands hlength i hi _ htarget
      have hcalc : c.position + skip + 1 = place := by omega
      rw [hcalc]
      exact exists_instruction hmem

end Expr

end Formula
