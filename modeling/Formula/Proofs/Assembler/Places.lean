import Formula.Proofs.Expr.Labels
import Mathlib.Data.List.Induction

/-!
# Where steps write

The code after some steps is told from the steps alone. Fusing touches only the opcodes of loads, so
that every other cell stays where its step wrote it (`getElem?_ofSteps_iff`), and with it each
header, operand and jump. A label has the place of its latest post (`place?_ofSteps_iff`), and a push
is fused if and only if the latest instruction is a load that no label stands behind
(`fuse?_ofSteps_eq_some_iff`).
-/

namespace Formula

/-- How far behind the start of its words a step writes a header or an operand. -/
def Step.dataOffset? : Step → Option Nat
  | .header _ => some 0
  | .long _ _ | .loadConst _ | .loadVar _ | .storeVar _ | .branch _ _ => some 1
  | _ => none

/-- The constant that a step adds. -/
def Step.constant? : Step → Option UInt64
  | .constant pattern | .loadConst pattern => some pattern
  | _ => none

/-- Labels are used only after they were taken. -/
def LabelsTaken (steps : List Step) : Prop :=
  ∀ before step after label, steps = before ++ step :: after → step.Uses label →
    label < before.count .label

section Lists

variable {α : Type} {xs before after : List α} {x y : α}

/-- A longer list is split at its last element or before. -/
lemma concat_eq_split_iff : xs ++ [x] = before ++ y :: after ↔
    xs = before ∧ x = y ∧ after = [] ∨ ∃ rest, xs = before ++ y :: rest ∧ after = rest ++ [x] := by
  constructor
  · intro h
    rcases List.eq_nil_or_concat after with rfl | ⟨rest, z, rfl⟩
    · obtain ⟨rfl, hx⟩ := List.append_inj' h rfl
      exact .inl ⟨rfl, List.singleton_inj.1 hx, rfl⟩
    · rw [List.concat_eq_append, ← List.cons_append, ← List.append_assoc] at h
      obtain ⟨rfl, hx⟩ := List.append_inj' h rfl
      exact .inr ⟨rest, rfl, by rw [List.concat_eq_append, hx]⟩
  · rintro (⟨rfl, rfl, rfl⟩ | ⟨rest, rfl, rfl⟩)
    · rfl
    · rw [List.append_assoc, List.cons_append]

/-- What holds at one of the elements of a longer list holds at the last one or at one before. -/
lemma exists_split_concat_iff {P : List α → α → Prop} :
    (∃ before y after, xs ++ [x] = before ++ y :: after ∧ P before y) ↔
      (∃ before y after, xs = before ++ y :: after ∧ P before y) ∨ P xs x := by
  constructor
  · rintro ⟨before, y, after, h, hP⟩
    rcases concat_eq_split_iff.1 h with ⟨rfl, rfl, -⟩ | ⟨rest, rfl, -⟩
    · exact .inr hP
    · exact .inl ⟨before, y, rest, rfl, hP⟩
  · rintro (⟨before, y, after, rfl, hP⟩ | hP)
    · exact ⟨before, y, after ++ [x], concat_eq_split_iff.2 (.inr ⟨after, rfl, rfl⟩), hP⟩
    · exact ⟨xs, x, [], rfl, hP⟩

end Lists

/-- Whether the labels that a step uses have numbers below a bound. -/
def Step.usesBelow (bound : Nat) : Step → Bool
  | .branch _ l | .post l => l < bound
  | _ => true

/-- The labels that a step uses are below a bound. -/
lemma Step.usesBelow_iff {bound : Nat} {s : Step} :
    s.usesBelow bound = true ↔ ∀ label, s.Uses label → label < bound := by
  cases s with
  | _ => simp [usesBelow, Uses]

/-- Labels are used only after they were taken if no step uses more labels than there are before. -/
lemma labelsTaken_iff {steps : List Step} : LabelsTaken steps ↔
    ∀ i : Fin steps.length, steps[i].usesBelow ((steps.take i).count .label) = true := by
  simp only [Step.usesBelow_iff]
  constructor
  · intro h i label
    refine h (steps.take i) steps[i] (steps.drop (i + 1)) label ?_
    simp
  · rintro h before step after label rfl
    have hlast := h ⟨before.length, by simp⟩ label
    simpa using hlast

instance (steps : List Step) : Decidable (LabelsTaken steps) :=
  decidable_of_iff _ labelsTaken_iff.symm

/-- Labels are used only after they were taken, if they were so far and the latest step uses none
but those. -/
lemma labelsTaken_concat_iff {steps : List Step} {s : Step} : LabelsTaken (steps ++ [s]) ↔
    LabelsTaken steps ∧ ∀ label, s.Uses label → label < steps.count .label := by
  constructor
  · intro h
    refine ⟨fun before step after label hsteps => ?_, fun label => h steps s [] label rfl⟩
    exact h before step (after ++ [s]) label (concat_eq_split_iff.2 (.inr ⟨after, hsteps, rfl⟩))
  · rintro ⟨h, hlast⟩ before step after label hsteps huses
    rcases concat_eq_split_iff.1 hsteps with ⟨rfl, rfl, -⟩ | ⟨rest, hsteps, -⟩
    · exact hlast label huses
    · exact h before step rest label hsteps huses

namespace Cell

/-- Whether a cell is an opcode, not a header or an operand. -/
def isOpcode : Cell → Bool
  | .opcode _ => true
  | _ => false

/-- Whether a cell is the opcode of a load, with or without a push. -/
def isLoad : Cell → Bool
  | .opcode .loadVar | .opcode .loadConst | .opcode .pushVar | .opcode .pushConst => true
  | _ => false

/-- Fusing makes the opcode of a load that pushes of that of a load. -/
lemma fused?_eq_some_iff {c d : Cell} : c.fused? = some d ↔ ∃ load fused,
    c = .opcode load ∧ d = .opcode fused ∧
      (load = .loadVar ∧ fused = .pushVar ∨ load = .loadConst ∧ fused = .pushConst) := by
  constructor
  · intro h
    unfold fused? at h
    split at h
    · cases h
      exact ⟨.loadVar, .pushVar, rfl, rfl, .inl ⟨rfl, rfl⟩⟩
    · cases h
      exact ⟨.loadConst, .pushConst, rfl, rfl, .inr ⟨rfl, rfl⟩⟩
    · cases h
  · rintro ⟨load, fused, rfl, rfl, ⟨rfl, rfl⟩ | ⟨rfl, rfl⟩⟩
    · rfl
    · rfl

/-- Before and after it is fused, a cell is a load. -/
lemma isLoad_of_fused? {c d : Cell} (h : c.fused? = some d) :
    c.isLoad = true ∧ d.isLoad = true := by
  obtain ⟨load, fused, rfl, rfl, ⟨rfl, rfl⟩ | ⟨rfl, rfl⟩⟩ := fused?_eq_some_iff.1 h
  · exact ⟨rfl, rfl⟩
  · exact ⟨rfl, rfl⟩

/-- Only opcodes are loads. -/
lemma isLoad_of_isOpcode {c : Cell} (h : c.isOpcode = false) : c.isLoad = false := by
  cases c with
  | opcode op => cases h
  | _ => rfl

end Cell

namespace Assembler

/-- The assembler after some steps from the start. -/
def ofSteps (optimize : Bool) (steps : List Step) : Assembler :=
  run { optimize := optimize } steps

/-- The cells that a step writes at the end of the code. -/
def newCells (a : Assembler) : Step → List Cell
  | .header count => [.header (Int32.ofNat count)]
  | .short op => [.opcode op]
  | .long op operand => [.opcode op, .operand operand]
  | .loadConst _ => [.opcode .loadConst, .operand (Int32.ofNat a.constants.size)]
  | .loadVar slot => [.opcode .loadVar, .operand (Int32.ofNat slot)]
  | .storeVar slot => [.opcode .storeVar, .operand (Int32.ofNat slot)]
  | .push => if a.fuse?.isSome then [] else [.opcode .push]
  | .branch j label => [.opcode (.jump j), .target label]
  | .constant _ | .label | .post _ => []

/-- Among some steps there is a given one, and it is taken when the next word has a given
position. -/
def Takes (optimize : Bool) (steps : List Step) (step : Step) (position : Nat) : Prop :=
  ∃ before after, steps = before ++ step :: after ∧ (ofSteps optimize before).here = position

/-- The latest post of a label is at a given position. -/
def PostedLast (optimize : Bool) (steps : List Step) (label position : Nat) : Prop :=
  ∃ before after, steps = before ++ .post label :: after ∧ .post label ∉ after ∧
    (ofSteps optimize before).here = position

/-- The word at a position was written as a header or as an operand. -/
def IsData (optimize : Bool) (steps : List Step) (position : Nat) : Prop :=
  ∃ step offset start, step.dataOffset? = some offset ∧ Takes optimize steps step start ∧
    start + offset = position

/-- After some steps a load can be fused with a push: fusing is asked for, the word two back was
written as an opcode, it is the load's, and no label was posted at the end of the code. -/
structure Fusible (optimize : Bool) (steps : List Step) (position : Nat) (load fused : Opcode) :
    Prop where
  optimize_eq : optimize = true
  position_eq : position + 2 = (ofSteps optimize steps).here
  loads : load = .loadVar ∧ fused = .pushVar ∨ load = .loadConst ∧ fused = .pushConst
  word_eq : (ofSteps optimize steps).words[position]? = some load.word
  not_isData : ¬IsData optimize steps position
  not_posted : ∀ label, ¬Takes optimize steps (.post label) (ofSteps optimize steps).here

variable {a : Assembler} {optimize : Bool} {steps : List Step} {s step : Step} {c : Cell}
  {i position label : Nat}

/-- The operand of a jump, by the place of its label. -/
lemma resolve_target (a : Assembler) (label i : Nat) :
    a.resolve (.target label) i =
      match a.place? label with
      | some place => .ok (Int32.ofNat place - Int32.ofNat (i - 1) - 1)
      | none => .error (neverPosted label) :=
  rfl

/-- A cell that is no target becomes its word. -/
lemma resolve_of_ne (a : Assembler) (hc : ∀ label, c ≠ .target label) (i : Nat) :
    a.resolve c i = .ok c.word := by
  cases c with
  | target label => exact absurd rfl (hc label)
  | _ => rfl

/-- One step after others. -/
lemma ofSteps_concat (optimize : Bool) (steps : List Step) (s : Step) :
    ofSteps optimize (steps ++ [s]) = (ofSteps optimize steps).step s := by
  rw [ofSteps, run_append]
  rfl

/-- When a load is fused, its opcode is replaced and nothing else. -/
lemma fuse?_eq_some_iff {b : Assembler} : a.fuse? = some b ↔
    a.optimize = true ∧ a.joined = false ∧ ∃ position c d, position + 2 = a.here ∧
      a.cells[position]? = some c ∧ c.fused? = some d ∧
      b = { a with cells := a.cells.setIfInBounds position d } := by
  unfold fuse?
  constructor
  · intro h
    split at h
    · next hcond =>
      simp only [Bool.and_eq_true, Bool.not_eq_true', decide_eq_true_eq] at hcond
      obtain ⟨⟨hoptimize, hjoined⟩, hhere⟩ := hcond
      obtain ⟨d, hd, rfl⟩ := Option.map_eq_some_iff.1 h
      obtain ⟨c, hc, hfused⟩ := Option.bind_eq_some_iff.1 hd
      exact ⟨hoptimize, hjoined, a.here - 2, c, d, Nat.sub_add_cancel hhere, hc, hfused, rfl⟩
    · cases h
  · rintro ⟨hoptimize, hjoined, position, c, d, hposition, hc, hfused, rfl⟩
    have hback : a.here - 2 = position := by omega
    have hhere : 2 ≤ a.here := by omega
    simp [hoptimize, hjoined, hhere, hback, hc, hfused]

/-- What stands in the code after cells were written at its end. -/
lemma getElem?_append_iff {cells : Array Cell} {new : List Cell} :
    (cells ++ new)[i]? = some c ↔
      cells[i]? = some c ∨ ∃ k, new[k]? = some c ∧ cells.size + k = i := by
  rw [← Array.getElem?_toList, Array.toList_appendList, List.getElem?_append, Array.length_toList,
    Array.getElem?_toList]
  split
  · next hlt =>
    constructor
    · exact .inl
    · rintro (h | ⟨k, -, hk⟩)
      · exact h
      · omega
  · next hle =>
    constructor
    · intro h
      exact .inr ⟨i - cells.size, h, by omega⟩
    · rintro (h | ⟨k, h, hk⟩)
      · exact absurd (Array.getElem?_eq_some_iff.1 h).1 hle
      · obtain rfl : i - cells.size = k := by omega
        exact h

/-- A push is written as a word of its own, or it fuses a load and changes nothing but the opcode of
that load. -/
lemma step_push_cases (a : Assembler) :
    (a.newCells .push = [.opcode .push] ∧ a.step .push = a.write [.opcode .push]) ∨
    (a.newCells .push = [] ∧ ∃ position c d, a.cells[position]? = some c ∧ c.fused? = some d ∧
      a.step .push = { a with cells := a.cells.setIfInBounds position d }) := by
  rw [newCells, step_push]
  cases hfuse : a.fuse? with
  | none => exact .inl ⟨rfl, rfl⟩
  | some b =>
    obtain ⟨-, -, position, c, d, -, hc, hfused, rfl⟩ := fuse?_eq_some_iff.1 hfuse
    exact .inr ⟨rfl, position, c, d, hc, hfused, rfl⟩

/-- A step writes its cells at the end of the code, or it writes none and fuses a load. -/
lemma cells_step_cases (a : Assembler) (s : Step) :
    (a.step s).cells = a.cells ++ a.newCells s ∨
    (a.newCells s = [] ∧ ∃ position c d, a.cells[position]? = some c ∧ c.fused? = some d ∧
      (a.step s).cells = a.cells.setIfInBounds position d) := by
  cases s with
  | push =>
    rcases a.step_push_cases with ⟨hnew, hpush⟩ | ⟨hnew, position, c, d, hc, hfused, hpush⟩
    · rw [hnew, hpush]
      exact .inl rfl
    · rw [hpush]
      exact .inr ⟨hnew, position, c, d, hc, hfused, rfl⟩
  | constant | label | post => exact .inl (by simp [step, addConstant, newCells])
  | _ => exact .inl rfl

/-- A step leaves all cells in their places and writes its own, but for those of loads. -/
lemma getElem?_step_iff (hc : c.isLoad = false) :
    (a.step s).cells[i]? = some c ↔
      a.cells[i]? = some c ∨ ∃ k, (a.newCells s)[k]? = some c ∧ a.here + k = i := by
  rcases a.cells_step_cases s with hcells | ⟨hnew, position, old, new, hold, hfused, hcells⟩
  · rw [hcells]
    exact getElem?_append_iff
  · obtain ⟨hload, hload'⟩ := Cell.isLoad_of_fused? hfused
    simp only [hcells, hnew, List.getElem?_nil, reduceCtorEq, false_and, exists_false, or_false]
    rcases eq_or_ne position i with rfl | hne
    · have hlt : position < a.cells.size := (Array.getElem?_eq_some_iff.1 hold).1
      rw [Array.getElem?_setIfInBounds_self_of_lt hlt, hold]
      constructor
      · rintro ⟨⟩
        exact absurd hc (by simp [hload'])
      · rintro ⟨⟩
        exact absurd hc (by simp [hload])
    · rw [Array.getElem?_setIfInBounds_ne hne]

/-- A step makes the code as much longer as it writes. -/
lemma here_step (a : Assembler) (s : Step) : (a.step s).here = a.here + (a.newCells s).length := by
  rcases a.cells_step_cases s with hcells | ⟨hnew, position, old, new, -, -, hcells⟩
  · simp [here, hcells, ← Array.length_toList]
  · simp [here, hcells, hnew]

/-- No step settles anew whether pushes are fused. -/
lemma optimize_step (a : Assembler) (s : Step) : (a.step s).optimize = a.optimize := by
  cases s with
  | push =>
    rcases a.step_push_cases with ⟨-, hpush⟩ | ⟨-, position, c, d, -, -, hpush⟩
    · rw [hpush, write]
    · rw [hpush]
  | _ => rfl

/-- A step adds its constant behind the others. -/
lemma constants_step (a : Assembler) (s : Step) :
    (a.step s).constants.toList = a.constants.toList ++ [s].filterMap Step.constant? := by
  cases s with
  | push =>
    have hpush : (a.step .push).constants = a.constants := by
      rcases a.step_push_cases with ⟨-, hpush⟩ | ⟨-, position, c, d, -, -, hpush⟩
      · rw [hpush, write]
      · rw [hpush]
    rw [hpush]
    exact (List.append_nil _).symm
  | constant pattern => exact Array.toList_push
  | loadConst pattern => exact Array.toList_push
  | _ => exact (List.append_nil _).symm

/-- A step that writes leaves no label at the end of the code. -/
lemma joined_step_of_ne_nil (h : a.newCells s ≠ []) : (a.step s).joined = false := by
  cases s with
  | push =>
    rcases a.step_push_cases with ⟨-, hpush⟩ | ⟨hnew, -⟩
    · rw [hpush, write]
    · exact absurd hnew h
  | constant | label | post => exact absurd rfl h
  | _ => rfl

/-- A step that neither writes nor posts leaves the labels at the end of the code. -/
lemma joined_step_of_eq_nil (h : a.newCells s = []) (hpost : ∀ label, s ≠ .post label) :
    (a.step s).joined = a.joined := by
  cases s with
  | push =>
    rcases a.step_push_cases with ⟨hnew, -⟩ | ⟨-, position, c, d, -, -, hpush⟩
    · rw [hnew] at h
      cases h
    · rw [hpush]
  | constant | label => rfl
  | post label => exact absurd rfl (hpost label)
  | _ => cases h

/-- What stands in the code after some steps, but for loads: what one of them wrote where it was
taken. -/
lemma getElem?_ofSteps_iff (hc : c.isLoad = false) :
    (ofSteps optimize steps).cells[i]? = some c ↔
      ∃ before s after, steps = before ++ s :: after ∧
        ∃ k, ((ofSteps optimize before).newCells s)[k]? = some c ∧
          (ofSteps optimize before).here + k = i := by
  induction steps using List.reverseRecOn with
  | nil => simp [ofSteps]
  | append_singleton steps s ih =>
    rw [ofSteps_concat, getElem?_step_iff hc, ih, exists_split_concat_iff]

/-- A step that is taken is one of the steps. -/
lemma takes_iff : Takes optimize steps step position ↔
    ∃ before s after, steps = before ++ s :: after ∧
      s = step ∧ (ofSteps optimize before).here = position := by
  constructor
  · rintro ⟨before, after, h, hposition⟩
    exact ⟨before, step, after, h, rfl, hposition⟩
  · rintro ⟨before, _, after, h, rfl, hposition⟩
    exact ⟨before, after, h, hposition⟩

/-- Every step is taken at some position. -/
lemma exists_takes_iff : (∃ position, Takes optimize steps step position) ↔ step ∈ steps := by
  constructor
  · rintro ⟨-, before, after, rfl, -⟩
    exact List.mem_append_right _ List.mem_cons_self
  · intro hmem
    obtain ⟨before, after, h⟩ := List.append_of_mem hmem
    exact ⟨_, before, after, h, rfl⟩

/-- Among no steps none is taken. -/
lemma not_takes_nil : ¬Takes optimize [] step position := by
  rintro ⟨before, after, h, -⟩
  simp at h

/-- A step after others is taken at the end of the code. -/
lemma takes_concat_iff : Takes optimize (steps ++ [s]) step position ↔
    Takes optimize steps step position ∨ s = step ∧ (ofSteps optimize steps).here = position := by
  rw [takes_iff, takes_iff, exists_split_concat_iff]

/-- The latest post of a label is a post. -/
lemma PostedLast.takes (h : PostedLast optimize steps label position) :
    Takes optimize steps (.post label) position := by
  obtain ⟨before, after, h, -, hposition⟩ := h
  exact ⟨before, after, h, hposition⟩

/-- Steps are taken inside the code or at its end. -/
lemma Takes.le (h : Takes optimize steps step position) :
    position ≤ (ofSteps optimize steps).here := by
  induction steps using List.reverseRecOn with
  | nil => exact absurd h not_takes_nil
  | append_singleton steps s ih =>
    rw [ofSteps_concat, here_step]
    rcases takes_concat_iff.1 h with h | ⟨-, rfl⟩
    · exact Nat.le_trans (ih h) (Nat.le_add_right _ _)
    · exact Nat.le_add_right _ _

/-- A label was posted after the latest cell if and only if it was posted at the end of the code. -/
lemma joined_ofSteps_iff : (ofSteps optimize steps).joined = true ↔
    ∃ label, Takes optimize steps (.post label) (ofSteps optimize steps).here := by
  induction steps using List.reverseRecOn with
  | nil =>
    refine iff_of_false Bool.false_ne_true ?_
    rintro ⟨label, h⟩
    exact not_takes_nil h
  | append_singleton steps s ih =>
    rw [ofSteps_concat, here_step]
    by_cases hnil : (ofSteps optimize steps).newCells s = []
    · rw [hnil, List.length_nil, Nat.add_zero]
      by_cases hpost : ∃ label, s = .post label
      · obtain ⟨label, rfl⟩ := hpost
        exact iff_of_true rfl ⟨label, takes_concat_iff.2 (.inr ⟨rfl, rfl⟩)⟩
      · rw [joined_step_of_eq_nil hnil (not_exists.1 hpost), ih]
        refine exists_congr fun label => ?_
        rw [takes_concat_iff]
        exact (or_iff_left fun h => hpost ⟨label, h.1⟩).symm
    · rw [joined_step_of_ne_nil hnil]
      refine iff_of_false Bool.false_ne_true ?_
      rintro ⟨label, h⟩
      rcases takes_concat_iff.1 h with h | ⟨rfl, -⟩
      · have hle := h.le
        have hpos := List.length_pos_iff.2 hnil
        omega
      · exact hnil rfl

/-- A step writes the target of a jump if it is a branch, behind the opcode of the jump. -/
lemma getElem?_newCells_eq_target_iff {k : Nat} :
    (a.newCells s)[k]? = some (.target label) ↔ ∃ j, s = .branch j label ∧ k = 1 := by
  cases s with
  | push =>
    rcases k with _ | k <;> cases hfuse : a.fuse? <;> simp [newCells, hfuse]
  | _ => rcases k with _ | _ | k <;> simp [newCells]

/-- Which of the cells that a step writes is a header or an operand. -/
lemma dataOffset?_eq_some_iff {k : Nat} :
    s.dataOffset? = some k ↔ ∃ c, (a.newCells s)[k]? = some c ∧ c.isOpcode = false := by
  cases s with
  | push =>
    rcases k with _ | k <;> cases hfuse : a.fuse? <;>
      simp [newCells, hfuse, Step.dataOffset?, Cell.isOpcode]
  | _ => rcases k with _ | _ | k <;> simp [newCells, Step.dataOffset?, Cell.isOpcode]

/-- The targets of jumps stand behind the first words of the branches. -/
lemma getElem?_eq_target_iff : (ofSteps optimize steps).cells[i]? = some (.target label) ↔
    ∃ j start, Takes optimize steps (.branch j label) start ∧ start + 1 = i := by
  rw [getElem?_ofSteps_iff rfl]
  constructor
  · rintro ⟨before, s, after, h, k, hk, rfl⟩
    obtain ⟨j, rfl, rfl⟩ := getElem?_newCells_eq_target_iff.1 hk
    exact ⟨j, _, ⟨before, after, h, rfl⟩, rfl⟩
  · rintro ⟨j, start, ⟨before, after, h, rfl⟩, rfl⟩
    exact ⟨before, _, after, h, 1, rfl, rfl⟩

/-- A branch writes the opcode of its jump where it is taken. -/
lemma Takes.getElem?_eq_jump {j : Jump} (h : Takes optimize steps (.branch j label) position) :
    (ofSteps optimize steps).cells[position]? = some (.opcode (.jump j)) := by
  obtain ⟨before, after, h, rfl⟩ := h
  exact (getElem?_ofSteps_iff rfl).2 ⟨before, _, after, h, 0, rfl, rfl⟩

/-- Headers and operands stand where they were written. -/
lemma isData_iff : IsData optimize steps i ↔
    ∃ c, (ofSteps optimize steps).cells[i]? = some c ∧ c.isOpcode = false := by
  constructor
  · rintro ⟨s, offset, start, hoffset, ⟨before, after, h, rfl⟩, rfl⟩
    obtain ⟨c, hc, hdata⟩ := dataOffset?_eq_some_iff.1 hoffset
    exact ⟨c, (getElem?_ofSteps_iff (Cell.isLoad_of_isOpcode hdata)).2
      ⟨before, s, after, h, offset, hc, rfl⟩, hdata⟩
  · rintro ⟨c, hc, hdata⟩
    obtain ⟨before, s, after, h, k, hk, rfl⟩ :=
      (getElem?_ofSteps_iff (Cell.isLoad_of_isOpcode hdata)).1 hc
    exact ⟨s, k, _, dataOffset?_eq_some_iff.2 ⟨c, hk, hdata⟩, ⟨before, after, h, rfl⟩, rfl⟩

/-- Whether pushes are fused is settled at the start. -/
lemma optimize_ofSteps (optimize : Bool) (steps : List Step) :
    (ofSteps optimize steps).optimize = optimize := by
  induction steps using List.reverseRecOn with
  | nil => rfl
  | append_singleton steps s ih =>
    rw [ofSteps_concat, optimize_step, ih]

/-- The constants after some steps are those that the steps added, in order. -/
lemma constants_ofSteps (optimize : Bool) (steps : List Step) :
    (ofSteps optimize steps).constants.toList = steps.filterMap Step.constant? := by
  induction steps using List.reverseRecOn with
  | nil => rfl
  | append_singleton steps s ih =>
    rw [ofSteps_concat, constants_step, ih, List.filterMap_append]

/-- The words of the cells. -/
lemma getElem?_words (a : Assembler) (i : Nat) : a.words[i]? = a.cells[i]?.map Cell.word := by
  rw [words, Array.getElem?_map]

/-- A load can be fused if and only if it is the latest instruction and no label stands behind
it. -/
lemma fuse?_ofSteps_eq_some_iff {b : Assembler} : (ofSteps optimize steps).fuse? = some b ↔
    ∃ position load fused, Fusible optimize steps position load fused ∧
      b = { ofSteps optimize steps with
        cells := (ofSteps optimize steps).cells.setIfInBounds position (.opcode fused) } := by
  constructor
  · intro hb
    obtain ⟨hoptimize, hjoined, position, c, d, hposition, hc, hfused, rfl⟩ :=
      fuse?_eq_some_iff.1 hb
    obtain ⟨load, fused, rfl, rfl, hloads⟩ := Cell.fused?_eq_some_iff.1 hfused
    rw [optimize_ofSteps] at hoptimize
    refine ⟨position, load, fused, ⟨hoptimize, hposition, hloads, ?_, ?_, ?_⟩, rfl⟩
    · rw [getElem?_words, hc]
      rfl
    · intro hdata
      obtain ⟨c, hc', hcell⟩ := isData_iff.1 hdata
      rw [hc] at hc'
      cases hc'
      cases hcell
    · intro label htakes
      rw [joined_ofSteps_iff.2 ⟨label, htakes⟩] at hjoined
      cases hjoined
  · rintro ⟨position, load, fused, h, rfl⟩
    have hword := h.word_eq
    rw [getElem?_words] at hword
    obtain ⟨c, hc, hword⟩ := Option.map_eq_some_iff.1 hword
    have hopcode : c.isOpcode = true := by
      by_contra hdata
      exact h.not_isData (isData_iff.2 ⟨c, hc, eq_false_of_ne_true hdata⟩)
    have hcell : c = .opcode load := by
      cases c with
      | opcode op =>
        have hop := congrArg Opcode.ofWord? hword
        rw [Cell.word, Opcode.ofWord?_word, Opcode.ofWord?_word] at hop
        rw [Option.some.inj hop]
      | _ => cases hopcode
    have hjoined : (ofSteps optimize steps).joined = false := by
      refine eq_false_of_ne_true fun hjoined => ?_
      obtain ⟨label, htakes⟩ := joined_ofSteps_iff.1 hjoined
      exact h.not_posted label htakes
    refine fuse?_eq_some_iff.2 ⟨?_, hjoined, position, c, .opcode fused, h.position_eq, hc, ?_, rfl⟩
    · rw [optimize_ofSteps, h.optimize_eq]
    · exact Cell.fused?_eq_some_iff.2 ⟨load, fused, hcell, rfl, h.loads⟩

/-- A push turns the load that can be fused into one that pushes; if there is none, it is a word of
its own. -/
lemma words_push (optimize : Bool) (steps : List Step) :
    (∃ position load fused, Fusible optimize steps position load fused ∧
      (ofSteps optimize (steps ++ [.push])).words =
        (ofSteps optimize steps).words.setIfInBounds position fused.word) ∨
    (∀ position load fused, ¬Fusible optimize steps position load fused) ∧
      (ofSteps optimize (steps ++ [.push])).words =
        (ofSteps optimize steps).words.push Opcode.push.word := by
  rw [ofSteps_concat, step_push]
  cases hfuse : (ofSteps optimize steps).fuse? with
  | none =>
    refine .inr ⟨fun position load fused h => ?_, ?_⟩
    · have hsome := fuse?_ofSteps_eq_some_iff.2 ⟨position, load, fused, h, rfl⟩
      rw [hfuse] at hsome
      cases hsome
    · simp [words, write, Cell.word]
  | some b =>
    obtain ⟨position, load, fused, h, rfl⟩ := fuse?_ofSteps_eq_some_iff.1 hfuse
    exact .inl ⟨position, load, fused, h, by simp [words, Cell.word]⟩

/-- The places of labels other than one that is posted stay. -/
lemma place?_step_of_ne (h : s ≠ .post label) : (a.step s).place? label = a.place? label := by
  cases s with
  | push => rw [place?, labels_step_push, place?]
  | label => exact place?_step_label a label
  | post other => exact place?_step_post_of_ne a fun heq => h (congrArg Step.post heq.symm)
  | _ => rfl

/-- A label that is posted last has its latest post there. -/
lemma postedLast_concat_self_iff : PostedLast optimize (steps ++ [.post label]) label position ↔
    (ofSteps optimize steps).here = position := by
  constructor
  · rintro ⟨before, after, h, hnot, hposition⟩
    rcases concat_eq_split_iff.1 h with ⟨rfl, -, -⟩ | ⟨rest, -, rfl⟩
    · exact hposition
    · exact absurd (List.mem_append_right _ List.mem_cons_self) hnot
  · intro hposition
    exact ⟨steps, [], rfl, List.not_mem_nil, hposition⟩

/-- Steps that do not post a label leave its latest post where it is. -/
lemma postedLast_concat_iff (hs : s ≠ .post label) :
    PostedLast optimize (steps ++ [s]) label position ↔
      PostedLast optimize steps label position := by
  constructor
  · rintro ⟨before, after, h, hnot, hposition⟩
    rcases concat_eq_split_iff.1 h with ⟨-, heq, -⟩ | ⟨rest, rfl, rfl⟩
    · exact absurd heq hs
    · exact ⟨before, rest, rfl, fun hmem => hnot (List.mem_append_left _ hmem), hposition⟩
  · rintro ⟨before, after, rfl, hnot, hposition⟩
    refine ⟨before, after ++ [s], by simp, ?_, hposition⟩
    simpa [hnot] using Ne.symm hs

/-- A label that is posted has a latest post. -/
lemma exists_postedLast_iff :
    (∃ position, PostedLast optimize steps label position) ↔ .post label ∈ steps := by
  induction steps using List.reverseRecOn with
  | nil => simp [PostedLast]
  | append_singleton steps s ih =>
    by_cases hs : s = .post label
    · subst hs
      exact iff_of_true ⟨_, postedLast_concat_self_iff.2 rfl⟩ (by simp)
    · simp [postedLast_concat_iff hs, ih, Ne.symm hs]

/-- A label has the place of its latest post. -/
lemma place?_ofSteps_iff (h : LabelsTaken steps) :
    (ofSteps optimize steps).place? label = some position ↔
      PostedLast optimize steps label position := by
  induction steps using List.reverseRecOn with
  | nil =>
    exact iff_of_false (by simp [ofSteps, place?]) fun h => not_takes_nil h.takes
  | append_singleton steps s ih =>
    obtain ⟨hsteps, hlast⟩ := labelsTaken_concat_iff.1 h
    rw [ofSteps_concat]
    by_cases hs : s = .post label
    · subst hs
      have hlt : label < (ofSteps optimize steps).labels.size := by
        rw [ofSteps, labels_size_run]
        exact Nat.lt_of_lt_of_le (hlast label rfl) (Nat.le_add_left _ _)
      rw [place?_step_post hlt, postedLast_concat_self_iff, Option.some_inj]
    · rw [place?_step_of_ne hs, ih hsteps, postedLast_concat_iff hs]

end Assembler

end Formula
