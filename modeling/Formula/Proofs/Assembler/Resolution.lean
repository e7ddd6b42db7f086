import Formula.Program.Walk
import Formula.Proofs.Assembler.Buffer
import Formula.Proofs.Except
import Formula.Proofs.Machine.Containment
import Mathlib.Algebra.Group.Nat.Defs

/-!
# Resolving labels

What a list of steps is assembled to, told from the steps: it is a program if and only if every
label that is branched to is posted, and the operand of a branch is the distance to the latest post of
its label, wherever that is (`assemble_resolves`). Nothing else of the words is changed in the end.
-/

namespace Formula

/-- A jump of a program with its operand, and the place that it goes to. The operand is the distance
in exact integers, so that a listing shows the place; the machine goes there if it lies ahead, for
it never goes back. -/
structure Program.JumpsTo (p : Program) (j : Jump) (start place : Nat) (operand : Int32) :
    Prop where
  word_eq : p.code[start]? = some (Opcode.jump j).word
  operand_eq : p.code[start + 1]? = some operand
  toInt_operand : operand.toInt = (place : Int) - start - 1
  target?_eq : Instruction.target? ⟨start, .jump j, some operand⟩ = some (place : Int)
  jumpDistance_eq : Machine.jumpDistance p start =
    if start < place then .ok (place - start - 1) else .error (.badJump operand start)

namespace Assembler

/-- A program is what some steps wrote, closed by the end instruction. Only the operands of branches
are other words than those that were written: they lead to the latest posts of the labels. -/
structure Resolved (optimize : Bool) (steps : List Step) (p : Program) : Prop where
  constants_eq : p.constants.toList = steps.filterMap Step.constant?
  size_eq : p.code.size = (ofSteps optimize steps).here + 1
  endCode_eq : p.code[(ofSteps optimize steps).here]? = some Opcode.endCode.word
  word_eq : ∀ i < (ofSteps optimize steps).here,
    (∀ j label start, Takes optimize steps (.branch j label) start → start + 1 ≠ i) →
      p.code[i]? = (ofSteps optimize steps).words[i]?
  jumpsTo : ∀ j label start place, Takes optimize steps (.branch j label) start →
    PostedLast optimize steps label place → ∃ operand, p.JumpsTo j start place operand

variable {a : Assembler} {optimize : Bool} {steps : List Step} {c : Cell} {cells : List Cell}
  {words : List Int32} {i position label place : Nat} {p : Program}

/-- Every cell becomes its word. -/
lemma Resolves.exists_getElem? (h : Resolves a position cells words) (hc : cells[i]? = some c) :
    ∃ w, words[i]? = some w ∧ a.resolve c (position + i) = .ok w := by
  induction h generalizing i with
  | nil => cases hc
  | @cons position cell word cells words hw _ ih =>
    cases i with
    | zero =>
      cases hc
      exact ⟨word, rfl, hw⟩
    | succ i =>
      obtain ⟨w, hget, hresolve⟩ := ih hc
      exact ⟨w, hget, by rwa [Nat.add_right_comm, Nat.add_assoc] at hresolve⟩

/-- A cell becomes no word only if it is a target whose label has no place. -/
lemma exists_of_resolve_eq_error {d : Diagnostic} (h : a.resolve c i = .error d) :
    ∃ label, c = .target label ∧ a.place? label = none ∧ d = neverPosted label := by
  cases c with
  | target label =>
    refine ⟨label, rfl, ?_⟩
    rw [resolve_target] at h
    cases hplace : a.place? label with
    | none =>
      rw [hplace] at h
      cases h
      exact ⟨rfl, rfl⟩
    | some place =>
      rw [hplace] at h
      cases h
  | _ => cases h

/-- Cells become words, or there is a target among them whose label has no place. -/
lemma meets_mapM (a : Assembler) (cells : List Cell) (position : Nat) :
    Meets (fun d => ∃ label, .target label ∈ cells ∧ a.place? label = none ∧ d = neverPosted label)
      (Resolves a position cells)
      ((cells.zipIdx position).mapM fun (cell, position) => a.resolve cell position) := by
  induction cells generalizing position with
  | nil => exact .ok .nil
  | cons c cells ih =>
    rw [List.zipIdx_cons, List.mapM_cons]
    cases hc : a.resolve c position with
    | error d =>
      obtain ⟨label, rfl, hplace, rfl⟩ := exists_of_resolve_eq_error hc
      simp only [hc]
      exact .error ⟨label, List.mem_cons_self, hplace, rfl⟩
    | ok w =>
      simp only [hc]
      refine ((ih (position + 1)).mono ?_).bind fun words hwords => .ok (.cons hc hwords)
      rintro d ⟨label, hmem, hd⟩
      exact ⟨label, List.mem_cons_of_mem _ hmem, hd⟩

/-- The code ends with a program of the words that its cells become, or there is a target in it
whose label has no place. -/
lemma meets_finish (a : Assembler) :
    Meets
      (fun d => ∃ label, .target label ∈ a.cells.toList ∧ a.place? label = none ∧
        d = neverPosted label)
      (fun p => p.constants = a.constants ∧
        Resolves (a.write [.opcode .endCode]) 0 (a.cells.toList ++ [.opcode .endCode])
          p.code.toList)
      a.finish := by
  have hcells : (a.write [.opcode .endCode]).cells.toList = a.cells.toList ++ [.opcode .endCode] :=
    Array.toList_appendList
  have h := meets_mapM (a.write [.opcode .endCode]) (a.cells.toList ++ [.opcode .endCode]) 0
  rw [← hcells] at h ⊢
  refine (h.mono ?_).bind fun words hwords => .ok ⟨rfl, hwords⟩
  rintro d ⟨label, hmem, hplace, hd⟩
  rw [hcells] at hmem
  refine ⟨label, ?_, hplace, hd⟩
  simpa using hmem

/-- The distance between two places of code that is not too long, in words. -/
lemma toInt_distance {start : Nat} (hplace : place < 2 ^ 31) (hstart : start < 2 ^ 31 - 1) :
    (Int32.ofNat place - Int32.ofNat start - 1).toInt = (place : Int) - start - 1 := by
  have hone : (1 : Int32).toInt = 1 := rfl
  have hword : (Int32.ofNat place).toInt = place := Int32.toInt_ofNat_of_lt hplace
  have hword' : (Int32.ofNat start).toInt = start := Int32.toInt_ofNat_of_lt (by omega)
  have hdifference : (Int32.ofNat place - Int32.ofNat start).toInt = (place : Int) - start := by
    rw [Int32.toInt_sub, hword, hword']
    exact Int.bmod_eq_of_le (by omega) (by omega)
  rw [Int32.toInt_sub, hdifference, hone]
  exact Int.bmod_eq_of_le (by omega) (by omega)

/-- The machine goes to a place ahead, and refuses to go back. -/
lemma jumpDistance_eq {start : Nat} {w : Int32} (hw : p.code[start + 1]? = some w)
    (hdistance : w.toInt = (place : Int) - start - 1) (hplace : place < p.code.size) :
    Machine.jumpDistance p start =
      if start < place then .ok (place - start - 1) else .error (.badJump w start) := by
  have hoperand : Machine.operand p start = .ok w := by
    rw [Machine.operand, hw]
  rw [Machine.jumpDistance, hoperand]
  split
  · next hlt =>
    have hindex : index? w = some (place - start - 1) := index?_eq_some_iff.2 (by omega)
    simp only [bind, Except.bind, hindex]
    rw [if_pos (by omega)]
  · next hle =>
    have hindex : index? w = none := by
      rw [index?, if_neg (by omega)]
    simp only [bind, Except.bind, hindex]

/-- The targets in the code are those of the branches. -/
lemma target_mem_iff : .target label ∈ (ofSteps optimize steps).cells.toList ↔
    ∃ j, .branch j label ∈ steps := by
  rw [List.mem_iff_getElem?]
  simp only [Array.getElem?_toList, getElem?_eq_target_iff]
  constructor
  · rintro ⟨i, j, start, htakes, -⟩
    exact ⟨j, exists_takes_iff.1 ⟨start, htakes⟩⟩
  · rintro ⟨j, hbranch⟩
    obtain ⟨start, htakes⟩ := exists_takes_iff.2 hbranch
    exact ⟨start + 1, j, start, htakes, rfl⟩

/-- A label has no place if and only if it is not posted. -/
lemma place?_eq_none_iff (h : LabelsTaken steps) :
    (ofSteps optimize steps).place? label = none ↔ .post label ∉ steps := by
  rw [← @exists_postedLast_iff optimize, Option.eq_none_iff_forall_ne_some, not_exists]
  exact forall_congr' fun place => not_congr (place?_ofSteps_iff h)

/-- If there is no program, a label that is branched to was not posted. -/
lemma exists_of_assemble_eq_error (h : LabelsTaken steps) {d : Diagnostic}
    (hd : assemble optimize steps = .error d) :
    ∃ j label, .branch j label ∈ steps ∧ .post label ∉ steps ∧ d = neverPosted label := by
  obtain ⟨label, hmem, hplace, rfl⟩ := (meets_finish (ofSteps optimize steps)).of_eq_error hd
  obtain ⟨j, hbranch⟩ := target_mem_iff.1 hmem
  exact ⟨j, label, hbranch, (place?_eq_none_iff h).1 hplace, rfl⟩

section Programs

variable (hp : assemble optimize steps = .ok p)

include hp

/-- A program has the constants that were added, and the words that the cells become. -/
lemma resolves_of_assemble :
    p.constants = (ofSteps optimize steps).constants ∧
      Resolves ((ofSteps optimize steps).write [.opcode .endCode]) 0
        ((ofSteps optimize steps).cells.toList ++ [.opcode .endCode]) p.code.toList := by
  have hfinish : (ofSteps optimize steps).finish = .ok p := hp
  have h := meets_finish (ofSteps optimize steps)
  rwa [hfinish] at h

/-- The word of a program that a cell becomes. -/
lemma exists_getElem?_of_assemble
    (hc : ((ofSteps optimize steps).cells.toList ++ [.opcode .endCode])[i]? = some c) :
    ∃ w, p.code[i]? = some w ∧ (ofSteps optimize steps).resolve c i = .ok w := by
  obtain ⟨w, hw, hresolve⟩ := (resolves_of_assemble hp).2.exists_getElem? hc
  rw [Array.getElem?_toList] at hw
  rw [Nat.zero_add] at hresolve
  exact ⟨w, hw, hresolve⟩

/-- The word of a program that a cell of the written code becomes. -/
lemma exists_getElem?_of_cell (hc : (ofSteps optimize steps).cells[i]? = some c) :
    ∃ w, p.code[i]? = some w ∧ (ofSteps optimize steps).resolve c i = .ok w := by
  refine exists_getElem?_of_assemble hp ?_
  rw [List.getElem?_append_left, Array.getElem?_toList, hc]
  exact (Array.getElem?_eq_some_iff.1 hc).1

/-- A program has one word more than was written. -/
lemma size_of_assemble : p.code.size = (ofSteps optimize steps).here + 1 := by
  have hlength := (resolves_of_assemble hp).2.length_eq
  simpa [here] using hlength

/-- The operand of a branch leads to the place of its label. -/
lemma exists_operand_of_takes {j : Jump} {start : Nat}
    (htakes : Takes optimize steps (.branch j label) start) :
    ∃ place, (ofSteps optimize steps).place? label = some place ∧
      p.code[start + 1]? = some (Int32.ofNat place - Int32.ofNat start - 1) := by
  have hcell := getElem?_eq_target_iff.2 ⟨j, start, htakes, rfl⟩
  obtain ⟨w, hw, hresolve⟩ := exists_getElem?_of_cell hp hcell
  rw [resolve_target] at hresolve
  cases hplace : (ofSteps optimize steps).place? label with
  | none =>
    rw [hplace] at hresolve
    cases hresolve
  | some place =>
    rw [hplace] at hresolve
    cases hresolve
    exact ⟨place, rfl, hw⟩

/-- A branch is a jump to the latest post of its label. -/
lemma exists_jumpsTo (h : LabelsTaken steps) (hsize : (ofSteps optimize steps).here < 2 ^ 31)
    {j : Jump} {start : Nat} (htakes : Takes optimize steps (.branch j label) start)
    (hposted : PostedLast optimize steps label place) :
    ∃ operand, p.JumpsTo j start place operand := by
  obtain ⟨place', hplace, hoperand⟩ := exists_operand_of_takes hp htakes
  obtain rfl : place = place' := by
    rw [(place?_ofSteps_iff h).2 hposted] at hplace
    exact Option.some.inj hplace
  have hle : place ≤ (ofSteps optimize steps).here := hposted.takes.le
  have hlt : start + 1 < (ofSteps optimize steps).here :=
    (Array.getElem?_eq_some_iff.1 (getElem?_eq_target_iff.2 ⟨j, start, htakes, rfl⟩)).1
  have hdistance := @toInt_distance place start (by omega) (by omega)
  obtain ⟨w, hw, hresolve⟩ := exists_getElem?_of_cell hp htakes.getElem?_eq_jump
  cases hresolve
  refine ⟨_, hw, hoperand, hdistance, ?_, jumpDistance_eq hoperand hdistance ?_⟩
  · change some ((start : Int) + (Int32.ofNat place - Int32.ofNat start - 1).toInt + 1) = _
    rw [hdistance, Option.some_inj]
    omega
  · rw [size_of_assemble hp]
    omega

/-- What is known of a program that steps are assembled to. -/
lemma resolved_of_assemble (h : LabelsTaken steps)
    (hsize : (ofSteps optimize steps).here < 2 ^ 31) : Resolved optimize steps p where
  constants_eq := by rw [(resolves_of_assemble hp).1, constants_ofSteps]
  size_eq := size_of_assemble hp
  endCode_eq := by
    obtain ⟨w, hw, hresolve⟩ := @exists_getElem?_of_assemble _ _ (.opcode .endCode)
      (ofSteps optimize steps).here _ hp (by simp [here])
    cases hresolve
    exact hw
  word_eq i hi hne := by
    have hc : (ofSteps optimize steps).cells[i]? = some (ofSteps optimize steps).cells[i] :=
      Array.getElem?_eq_getElem hi
    obtain ⟨w, hw, hresolve⟩ := exists_getElem?_of_cell hp hc
    rw [resolve_of_ne] at hresolve
    · cases hresolve
      rw [hw, getElem?_words, hc]
      rfl
    · intro label htarget
      obtain ⟨j, start, htakes, hstart⟩ :=
        getElem?_eq_target_iff.1 (hc.trans (congrArg some htarget))
      exact hne j label start htakes hstart
  jumpsTo j label start place htakes hposted := exists_jumpsTo hp h hsize htakes hposted

end Programs

/-- Steps are assembled to a program if and only if they post every label that they branch to. -/
lemma exists_assemble_eq_ok_iff (h : LabelsTaken steps) :
    (∃ p, assemble optimize steps = .ok p) ↔
      ∀ j label, .branch j label ∈ steps → .post label ∈ steps := by
  constructor
  · rintro ⟨p, hp⟩ j label hbranch
    obtain ⟨start, htakes⟩ := exists_takes_iff.2 hbranch
    obtain ⟨place, hplace, -⟩ := exists_operand_of_takes hp htakes
    exact exists_postedLast_iff.1 ⟨place, (place?_ofSteps_iff h).1 hplace⟩
  · intro hpost
    cases hassemble : assemble optimize steps with
    | ok p => exact ⟨p, rfl⟩
    | error d =>
      obtain ⟨j, label, hbranch, hnot, -⟩ := exists_of_assemble_eq_error h hassemble
      exact absurd (hpost j label hbranch) hnot

end Assembler

open Assembler

/-- Steps that use labels only after they were taken, and write no more words than can be counted,
are assembled to a program if and only if every label that is branched to is posted; the failure
names one that is not. The program is made of the words that were written, the end instruction and
the constants in order, and each branch leads to the latest post of its label. A push is a word of
its own, unless the load right before it, behind which no label was posted, is turned into one that
pushes. A buffer that is patched holds the same words and ends the same way. -/
theorem assemble_resolves (optimize : Bool) (steps : List Step) (htaken : LabelsTaken steps)
    (hsize : (ofSteps optimize steps).here < 2 ^ 31) :
    ((∃ p, assemble optimize steps = .ok p) ↔
      ∀ j label, .branch j label ∈ steps → .post label ∈ steps) ∧
    (∀ d, assemble optimize steps = .error d →
      ∃ j label, .branch j label ∈ steps ∧ .post label ∉ steps ∧ d = neverPosted label) ∧
    (∀ p, assemble optimize steps = .ok p → Resolved optimize steps p) ∧
    (∀ before after, steps = before ++ .push :: after →
      (∃ position load fused, Fusible optimize before position load fused ∧
        (ofSteps optimize (before ++ [.push])).words =
          (ofSteps optimize before).words.setIfInBounds position fused.word) ∨
      (∀ position load fused, ¬Fusible optimize before position load fused) ∧
        (ofSteps optimize (before ++ [.push])).words =
          (ofSteps optimize before).words.push Opcode.push.word) ∧
    (Buffer.ofSteps optimize steps).words = (ofSteps optimize steps).words ∧
    Buffer.assemble optimize steps = assemble optimize steps := by
  refine ⟨exists_assemble_eq_ok_iff htaken, ?_, ?_, ?_, ?_, Buffer.assemble_eq optimize steps⟩
  · intro d hd
    exact exists_of_assemble_eq_error htaken hd
  · intro p hp
    exact resolved_of_assemble hp htaken hsize
  · intro before after _
    exact words_push optimize before
  · exact (Buffer.represents_ofSteps optimize steps).words_eq

/-- A label that is posted before its branch, and one that is posted twice after it: the machine
refuses to go back to the first one. -/
theorem assemble_resolves_back :
    let steps : List Step := [.header 1, .label, .label, .post 0, .loadVar 0, .push,
      .branch .ifFalse 1, .loadConst 5, .post 1, .push, .post 1, .branch .always 0]
    let p : Program := ⟨#[1, 2, 0, 29, 4, 4, 0, 1, 28, -8, 54], #[5]⟩
    LabelsTaken steps ∧ (ofSteps true steps).here < 2 ^ 31 ∧ assemble true steps = .ok p ∧
      Resolved true steps p ∧ Machine.jumpDistance p 8 = .error (.badJump (-8) 8) := by
  intro steps p
  have htaken : LabelsTaken steps := by decide
  have hsize : (ofSteps true steps).here < 2 ^ 31 := by decide
  have hp : assemble true steps = .ok p := by rfl
  obtain ⟨-, -, hresolved, -⟩ := assemble_resolves true steps htaken hsize
  have h := hresolved p hp
  have htakes : Takes true steps (.branch .always 0) 8 := ⟨steps.dropLast, [], rfl, rfl⟩
  have hposted : PostedLast true steps 0 1 := ⟨steps.take 3, steps.drop 4, rfl, by decide, rfl⟩
  obtain ⟨operand, hjump⟩ := h.jumpsTo .always 0 8 1 htakes hposted
  have hoperand : (-8 : Int32) = operand := Option.some.inj hjump.operand_eq
  have hrefused := hjump.jumpDistance_eq
  rw [if_neg (by decide), ← hoperand] at hrefused
  exact ⟨htaken, hsize, hp, h, hrefused⟩

end Formula
