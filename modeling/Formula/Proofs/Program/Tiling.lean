import Formula.Proofs.Machine.Run
import Formula.Program.Walk
import Mathlib.Tactic.Common

/-!
# Instructions that tile words

`Tiles` says of a list of words that it is cut into instructions without a gap. Words that are tiled
are what a walk sees (`Tiles.walk_eq`), whatever follows them. The places where instructions start,
and the place after the last one, are the boundaries of a tiling; they are the places that code may
go on at.
-/

namespace Formula

/-- The words of an instruction. -/
def Instruction.words (i : Instruction) : List Int32 :=
  i.op.word :: i.operand.toList

/-- Instructions that stand one directly after another from a position on, and the words that they
take. Those have an operand word whose opcode asks for one. -/
inductive Tiles : Nat → List Instruction → List Int32 → Prop where
  | nil {position} : Tiles position [] []
  | cons {i is ws} :
    i.operand.isSome = i.op.hasOperand →
    Tiles (i.position + i.words.length) is ws →
    Tiles i.position (i :: is) (i.words ++ ws)

/-- A place where an instruction starts, or the place after all of them. -/
def Boundary (position : Nat) (is : List Instruction) (ws : List Int32) (place : Nat) : Prop :=
  place = position + ws.length ∨ ∃ i ∈ is, i.position = place

/-- An instruction has as many words as its opcode says. -/
lemma Instruction.length_words {i : Instruction} (h : i.operand.isSome = i.op.hasOperand) :
    i.words.length = i.op.size := by
  unfold Instruction.words Opcode.size
  rw [← h]
  cases i.operand with
  | none => rfl
  | some w => rfl

namespace Tiles

variable {position : Nat} {i : Instruction} {is js : List Instruction} {ws us : List Int32}

/-- One instruction. -/
lemma single (h : i.operand.isSome = i.op.hasOperand) : Tiles i.position [i] i.words := by
  have := cons h (.nil : Tiles (i.position + i.words.length) [] [])
  rwa [List.append_nil] at this

/-- Instructions after other instructions. -/
lemma append (h : Tiles position is ws) (h' : Tiles (position + ws.length) js us) :
    Tiles position (is ++ js) (ws ++ us) := by
  induction h with
  | nil => exact h'
  | @cons i is ws hi _ ih =>
    rw [List.append_assoc]
    rw [List.length_append, ← Nat.add_assoc] at h'
    exact cons hi (ih h')

/-- A walk goes through the instructions, and on with what follows them. -/
lemma walk_eq (h : Tiles position is ws) (hend : ∀ i ∈ is, i.op ≠ .endCode) (rest : List Int32) :
    Walk.ofWords position (ws ++ rest) =
      is.foldr .step (Walk.ofWords (position + ws.length) rest) := by
  induction h with
  | nil => rfl
  | @cons i is ws hi _ ih =>
    obtain ⟨hop, hends⟩ := List.forall_mem_cons.1 hend
    rw [List.foldr_cons, List.length_append, ← Nat.add_assoc, ← ih hends]
    obtain ⟨place, op, operand⟩ := i
    cases operand with
    | none =>
      have hoperand : op.hasOperand = false := hi.symm
      simp [Instruction.words, Walk.ofWords, Opcode.ofWord?_word, hoperand, show op ≠ _ from hop]
    | some w =>
      have hoperand : op.hasOperand = true := hi.symm
      simp [Instruction.words, Walk.ofWords, Opcode.ofWord?_word, hoperand]

/-- The words of each instruction stand at its position. -/
lemma exists_split (h : Tiles position is ws) (hi : i ∈ is) :
    ∃ before after, ws = before ++ i.words ++ after ∧ position + before.length = i.position := by
  induction h with
  | nil => cases hi
  | @cons j is ws _ _ ih =>
    cases hi with
    | head => exact ⟨[], ws, rfl, rfl⟩
    | tail _ hi =>
      obtain ⟨before, after, rfl, hposition⟩ := ih hi
      refine ⟨j.words ++ before, after, by simp, ?_⟩
      rw [List.length_append, ← Nat.add_assoc, hposition]

/-- An instruction has an operand word if its opcode asks for one. -/
lemma operand_isSome (h : Tiles position is ws) (hi : i ∈ is) :
    i.operand.isSome = i.op.hasOperand := by
  induction h with
  | nil => cases hi
  | cons hoperand _ ih =>
    cases hi with
    | head => exact hoperand
    | tail _ hi => exact ih hi

/-- The first position is a boundary. -/
lemma boundary_start (h : Tiles position is ws) : Boundary position is ws position := by
  cases h with
  | nil => exact .inl rfl
  | cons => exact .inr ⟨_, List.mem_cons_self, rfl⟩

/-- After each instruction there is a boundary. -/
lemma boundary_next (h : Tiles position is ws) (hi : i ∈ is) :
    Boundary position is ws (i.position + i.words.length) := by
  induction h with
  | nil => cases hi
  | @cons j is ws _ htiles ih =>
    have hnext : Boundary (j.position + j.words.length) is ws (i.position + i.words.length) := by
      cases hi with
      | head => exact htiles.boundary_start
      | tail _ hi => exact ih hi
    rcases hnext with hlast | ⟨i', hi', hposition⟩
    · exact .inl (by rw [hlast, List.length_append, Nat.add_assoc])
    · exact .inr ⟨i', List.mem_cons_of_mem _ hi', hposition⟩

end Tiles

namespace Boundary

variable {position place : Nat} {is js : List Instruction} {ws us : List Int32}

/-- A boundary is not after the words. -/
lemma le (h : Boundary position is ws place) (htiles : Tiles position is ws) :
    place ≤ position + ws.length := by
  rcases h with rfl | ⟨i, hi, rfl⟩
  · exact Nat.le_refl _
  · obtain ⟨before, after, rfl, hposition⟩ := htiles.exists_split hi
    simp only [List.length_append]
    omega

/-- A boundary of the first part of a tiling. -/
lemma append_left (h : Boundary position is ws place)
    (htiles : Tiles (position + ws.length) js us) : Boundary position (is ++ js) (ws ++ us) place := by
  rcases h with rfl | ⟨i, hi, hposition⟩
  · rcases htiles.boundary_start with hlast | ⟨j, hj, hposition⟩
    · refine .inl ?_
      rw [List.length_append, ← Nat.add_assoc, ← hlast]
    · exact .inr ⟨j, List.mem_append_right _ hj, hposition⟩
  · exact .inr ⟨i, List.mem_append_left _ hi, hposition⟩

/-- A boundary of the second part of a tiling. -/
lemma append_right (is : List Instruction) (ws : List Int32)
    (h : Boundary (position + ws.length) js us place) :
    Boundary position (is ++ js) (ws ++ us) place := by
  rcases h with rfl | ⟨j, hj, hposition⟩
  · exact .inl (by rw [List.length_append, Nat.add_assoc])
  · exact .inr ⟨j, List.mem_append_right _ hj, hposition⟩

end Boundary

namespace Walk

/-- A walk that starts with instructions decodes them first. -/
lemma instructions_foldr (is : List Instruction) (w : Walk) :
    Walk.instructions (is.foldr .step w) = is ++ w.instructions := by
  induction is with
  | nil => rfl
  | cons i is ih => rw [List.foldr_cons, instructions, ih, List.cons_append]

/-- Instructions are no obstacle. -/
lemma obstacle?_foldr (is : List Instruction) (w : Walk) :
    Walk.obstacle? (is.foldr .step w) = w.obstacle? := by
  induction is with
  | nil => rfl
  | cons i is ih => rw [List.foldr_cons, obstacle?, ih]

end Walk

end Formula
