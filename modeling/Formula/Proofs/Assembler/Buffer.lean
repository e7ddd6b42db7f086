import Formula.Proofs.Assembler.Places

/-!
# Code that is patched

A buffer holds plain words. What the cells of the assembler tell is kept beside them: which words
are opcodes, where the jumps stand, and where a label was posted last. The operands of the jumps are
written in at the end. In every state a buffer says what the cells say (`Represents`), so that it
ends with the same program or failure (`Buffer.assemble_eq`).
-/

namespace Formula

/-- Words that are being written. `isOpcode` goes along with them; `jumps` has the position and the
label of each jump, and `postedAt` is the position where a label was posted last. -/
structure Buffer where
  optimize : Bool
  words : Array Int32 := #[]
  isOpcode : Array Bool := #[]
  constants : Array UInt64 := #[]
  labels : Array (Option Nat) := #[]
  jumps : Array (Nat × Nat) := #[]
  postedAt : Option Nat := none
  deriving DecidableEq, Repr

namespace Buffer

/-- The position of the next word. -/
def here (b : Buffer) : Nat :=
  b.words.size

/-- Write a word. -/
def write (b : Buffer) (word : Int32) (isOpcode : Bool) : Buffer :=
  { b with words := b.words.push word, isOpcode := b.isOpcode.push isOpcode }

/-- Write an instruction. -/
def short (b : Buffer) (op : Opcode) : Buffer :=
  b.write op.word true

/-- Write an instruction with its operand word. -/
def long (b : Buffer) (op : Opcode) (operand : Int32) : Buffer :=
  (b.short op).write operand false

/-- Add a constant to the pool. -/
def addConstant (b : Buffer) (pattern : UInt64) : Buffer :=
  { b with constants := b.constants.push pattern }

/-- The word of the load that pushes as well, for that of a load. -/
def fusedWord? (word : Int32) : Option Int32 :=
  match Opcode.ofWord? word with
  | some .loadVar => some Opcode.pushVar.word
  | some .loadConst => some Opcode.pushConst.word
  | _ => none

/-- The code with the load at its end turned into the form that pushes, unless a label was posted
here. -/
def fuse? (b : Buffer) : Option Buffer :=
  if b.postedAt = some b.here ∨ b.here < 2 then none
  else if b.isOpcode[b.here - 2]? = some true then
    (b.words[b.here - 2]?.bind fusedWord?).map fun word =>
      { b with words := b.words.setIfInBounds (b.here - 2) word }
  else none

/-- The code after a step. -/
def step (b : Buffer) : Step → Buffer
  | .header count => b.write (Int32.ofNat count) false
  | .short op => b.short op
  | .long op operand => b.long op operand
  | .constant pattern => b.addConstant pattern
  | .loadConst pattern => (b.addConstant pattern).long .loadConst (Int32.ofNat b.constants.size)
  | .loadVar slot => b.long .loadVar (Int32.ofNat slot)
  | .storeVar slot => b.long .storeVar (Int32.ofNat slot)
  | .push => (if b.optimize then b.fuse? else none).getD (b.short .push)
  | .label => { b with labels := b.labels.push none }
  | .post label =>
    { b with labels := b.labels.setIfInBounds label (some b.here), postedAt := some b.here }
  | .branch j label => { b with jumps := b.jumps.push (b.here, label) }.long (.jump j) 0

/-- The buffer after some steps from the start. -/
def ofSteps (optimize : Bool) (steps : List Step) : Buffer :=
  steps.foldl step { optimize := optimize }

/-- Words with the operand of a jump written in. -/
def patch (labels : Array (Option Nat)) (words : Array Int32) :
    Nat × Nat → Except Diagnostic (Array Int32)
  | (position, label) =>
    match labels[label]?.join with
    | some place =>
      .ok (words.setIfInBounds (position + 1) (Int32.ofNat place - Int32.ofNat position - 1))
    | none => .error (Assembler.neverPosted label)

/-- The program that was written, closed by the end instruction and with all operands of jumps. -/
def finish (b : Buffer) : Except Diagnostic Program := do
  let b := b.short .endCode
  let code ← b.jumps.foldlM (patch b.labels) b.words
  return { code := code, constants := b.constants }

/-- The program that a list of steps writes into a buffer. -/
def assemble (optimize : Bool) (steps : List Step) : Except Diagnostic Program :=
  (ofSteps optimize steps).finish

end Buffer

namespace Cell

/-- The jumps whose targets are among cells that start at a position, with their labels. -/
def jumps (position : Nat) : List Cell → List (Nat × Nat)
  | [] => []
  | .target label :: cells => (position - 1, label) :: jumps (position + 1) cells
  | _ :: cells => jumps (position + 1) cells

variable {c : Cell} {cells cells' : List Cell} {position i : Nat}

/-- A cell that is no target belongs to no jump. -/
lemma jumps_cons_of_ne (hc : ∀ label, c ≠ .target label) :
    jumps position (c :: cells) = jumps (position + 1) cells := by
  cases c with
  | target label => exact absurd rfl (hc label)
  | _ => rfl

/-- The jumps among cells one after another. -/
lemma jumps_append :
    jumps position (cells ++ cells') =
      jumps position cells ++ jumps (position + cells.length) cells' := by
  induction cells generalizing position with
  | nil => rfl
  | cons c cells ih =>
    have hlength : position + 1 + cells.length = position + (c :: cells).length := by
      rw [List.length_cons]
      omega
    by_cases hc : ∃ label, c = .target label
    · obtain ⟨label, rfl⟩ := hc
      simp only [List.cons_append, jumps, ih, hlength]
    · rw [List.cons_append, jumps_cons_of_ne (not_exists.1 hc), jumps_cons_of_ne (not_exists.1 hc),
        ih, hlength]

/-- Jumps do not depend on which opcode stands at a place. -/
lemma jumps_set {op op' : Opcode} (h : cells[i]? = some (.opcode op)) :
    jumps position (cells.set i (.opcode op')) = jumps position cells := by
  induction cells generalizing position i with
  | nil => rfl
  | cons c cells ih =>
    cases i with
    | zero =>
      cases h
      rfl
    | succ i =>
      rw [List.set_cons_succ]
      cases c with
      | target label => exact congrArg (List.cons _) (ih h)
      | _ => exact ih h

end Cell

namespace Assembler

/-- Cells that are written after other cells. -/
lemma write_write (a : Assembler) (cells cells' : List Cell) :
    (a.write cells).write cells' = a.write (cells ++ cells') := by
  have hcells : a.cells ++ cells ++ cells' = a.cells ++ (cells ++ cells') := by
    apply Array.ext'
    simp
  simp only [write, hcells]

end Assembler

namespace Buffer

/-- A word is fused if it is an opcode and its cell is fused. -/
lemma fusedWord?_word (c : Cell) :
    (if c.isOpcode then fusedWord? c.word else none) = c.fused?.map Cell.word := by
  cases c with
  | opcode op =>
    rw [Cell.isOpcode, if_pos rfl, fusedWord?, Cell.word, Opcode.ofWord?_word]
    cases op <;> rfl
  | _ => rfl

/-- A buffer says what the cells of an assembler say. -/
structure Represents (a : Assembler) (b : Buffer) : Prop where
  optimize_eq : b.optimize = a.optimize
  words_eq : b.words = a.words
  isOpcode_eq : b.isOpcode = a.cells.map Cell.isOpcode
  constants_eq : b.constants = a.constants
  labels_eq : b.labels = a.labels
  jumps_eq : b.jumps.toList = Cell.jumps 0 a.cells.toList
  postedAt_le : ∀ position, b.postedAt = some position → position ≤ b.here
  postedAt_iff : b.postedAt = some b.here ↔ a.joined = true

namespace Represents

variable {a : Assembler} {b : Buffer} {c : Cell}

/-- Both are at the same position. -/
lemma here_eq (h : Represents a b) : b.here = a.here := by
  rw [here, h.words_eq, Assembler.words, Array.size_map, Assembler.here]

/-- A word that is written for a cell. -/
lemma write_cell (h : Represents a b) (c : Cell) {new : List (Nat × Nat)}
    (hnew : Cell.jumps a.here [c] = new) :
    Represents (a.write [c]) ({ b with jumps := b.jumps ++ new }.write c.word c.isOpcode) where
  optimize_eq := h.optimize_eq
  words_eq := by simp [Buffer.write, Assembler.write, Assembler.words, h.words_eq]
  isOpcode_eq := by simp [Buffer.write, Assembler.write, h.isOpcode_eq]
  constants_eq := h.constants_eq
  labels_eq := h.labels_eq
  jumps_eq := by
    simp [Buffer.write, Assembler.write, Cell.jumps_append, h.jumps_eq, ← hnew, Assembler.here]
  postedAt_le position hposition := by
    have hle := h.postedAt_le position hposition
    simp only [Buffer.here, Buffer.write, Array.size_push] at hle ⊢
    omega
  postedAt_iff := by
    -- What was posted so far was posted before this word.
    refine iff_of_false (fun hposted => ?_) Bool.false_ne_true
    have hle := h.postedAt_le _ hposted
    simp only [Buffer.here, Buffer.write, Array.size_push] at hle
    omega

/-- A word that is written for a cell other than a target. -/
lemma write (h : Represents a b) (hc : ∀ label, c ≠ .target label) :
    Represents (a.write [c]) (b.write c.word c.isOpcode) := by
  have hcell := h.write_cell c (Cell.jumps_cons_of_ne hc)
  simpa [Cell.jumps] using hcell

/-- An instruction with its operand word. -/
lemma long (h : Represents a b) (op : Opcode) (operand : Int32) :
    Represents (a.long op operand) (b.long op operand) := by
  have hop := h.write (c := .opcode op) (by simp)
  have hoperand := hop.write (c := .operand operand) (by simp)
  rwa [Assembler.write_write] at hoperand

/-- A jump, whose target follows its opcode. -/
lemma branch (h : Represents a b) (j : Jump) (label : Nat) :
    Represents (a.step (.branch j label)) (b.step (.branch j label)) := by
  have hop := h.write (c := .opcode (.jump j)) (by simp)
  have hjump :
      Cell.jumps (a.write [.opcode (.jump j)]).here [.target label] = [(b.here, label)] := by
    simp [Cell.jumps, Assembler.here, Assembler.write, h.here_eq]
  have htarget := hop.write_cell (.target label) hjump
  rw [Assembler.write_write] at htarget
  simpa [Assembler.step, Buffer.step, Buffer.long, Buffer.short, Buffer.write, Cell.word,
    Cell.isOpcode] using htarget

/-- A constant that is added. -/
lemma addConstant (h : Represents a b) (pattern : UInt64) :
    Represents (a.addConstant pattern) (b.addConstant pattern) where
  optimize_eq := h.optimize_eq
  words_eq := h.words_eq
  isOpcode_eq := h.isOpcode_eq
  constants_eq := by rw [Assembler.addConstant, Buffer.addConstant, h.constants_eq]
  labels_eq := h.labels_eq
  jumps_eq := h.jumps_eq
  postedAt_le := h.postedAt_le
  postedAt_iff := h.postedAt_iff

/-- A load that is fused. -/
lemma fused {d : Cell} {i : Nat} (h : Represents a b) (hc : a.cells[i]? = some c)
    (hd : c.fused? = some d) :
    Represents { a with cells := a.cells.setIfInBounds i d }
      { b with words := b.words.setIfInBounds i d.word } := by
  obtain ⟨load, fused, rfl, rfl, -⟩ := Cell.fused?_eq_some_iff.1 hd
  have hisOpcode :
      (a.cells.map Cell.isOpcode).setIfInBounds i true = a.cells.map Cell.isOpcode := by
    apply Array.ext_getElem?
    intro k
    rcases eq_or_ne i k with rfl | hne
    · have hlt := (Array.getElem?_eq_some_iff.1 hc).1
      rw [Array.getElem?_setIfInBounds_self_of_lt (by simpa using hlt), Array.getElem?_map, hc]
      rfl
    · rw [Array.getElem?_setIfInBounds_ne hne]
  refine ⟨h.optimize_eq, ?_, ?_, h.constants_eq, h.labels_eq, ?_, ?_, ?_⟩
  · simp [h.words_eq, Assembler.words]
  · simpa [h.isOpcode_eq, Cell.isOpcode] using hisOpcode.symm
  · simp only [Array.toList_setIfInBounds, h.jumps_eq]
    exact (Cell.jumps_set (by rwa [Array.getElem?_toList])).symm
  · intro position hposition
    simpa [Buffer.here] using h.postedAt_le position hposition
  · simpa [Buffer.here] using h.postedAt_iff

/-- A load is fused in both or in none. -/
lemma fuse? (h : Represents a b) :
    Option.Rel Represents a.fuse? (if b.optimize then b.fuse? else none) := by
  have hposted : b.postedAt = some a.here ↔ a.joined = true := by
    rw [← h.here_eq]
    exact h.postedAt_iff
  by_cases hcond : a.optimize = true ∧ a.joined = false ∧ 2 ≤ a.here
  · obtain ⟨hoptimize, hjoined, hhere⟩ := hcond
    obtain ⟨c, hc⟩ : ∃ c, a.cells[a.here - 2]? = some c := by
      refine ⟨_, Array.getElem?_eq_getElem ?_⟩
      rw [Assembler.here] at hhere ⊢
      omega
    have hcells : a.fuse? = c.fused?.map fun d =>
        { a with cells := a.cells.setIfInBounds (a.here - 2) d } := by
      simp [Assembler.fuse?, hoptimize, hjoined, hhere, hc]
    have hnot : ¬(b.postedAt = some a.here ∨ a.here < 2) := by
      rw [hposted, hjoined, not_or]
      exact ⟨Bool.false_ne_true, Nat.not_lt.2 hhere⟩
    have hwords : (if b.optimize then b.fuse? else none) = (c.fused?.map Cell.word).map fun word =>
        { b with words := b.words.setIfInBounds (a.here - 2) word } := by
      rw [if_pos (h.optimize_eq.trans hoptimize), Buffer.fuse?, h.here_eq, ← fusedWord?_word,
        if_neg hnot, h.isOpcode_eq, h.words_eq]
      cases hcell : c.isOpcode <;> simp [Assembler.words, hc, hcell]
    rw [hcells, hwords]
    cases hd : c.fused? with
    | none => exact .none
    | some d => exact .some (h.fused hc hd)
  · have hcells : a.fuse? = none := by
      rw [Assembler.fuse?, if_neg]
      simpa [and_assoc] using hcond
    have hwords : (if b.optimize then b.fuse? else none) = none := by
      rw [h.optimize_eq, Buffer.fuse?, h.here_eq]
      by_cases hoptimize : a.optimize = true
      · have hcond' : b.postedAt = some a.here ∨ a.here < 2 := by
          rw [hposted]
          by_contra hnot
          rw [not_or, Bool.not_eq_true, Nat.not_lt] at hnot
          exact hcond ⟨hoptimize, hnot⟩
        rw [if_pos hoptimize, if_pos hcond']
      · rw [if_neg hoptimize]
    rw [hcells, hwords]
    exact .none

/-- After a step a buffer says again what the cells say. -/
lemma step (h : Represents a b) (s : Step) : Represents (a.step s) (b.step s) := by
  cases s with
  | header count => exact h.write (c := .header (Int32.ofNat count)) (by simp)
  | short op => exact h.write (c := .opcode op) (by simp)
  | long op operand => exact h.long op operand
  | constant pattern => exact h.addConstant pattern
  | loadConst pattern =>
    rw [Buffer.step, h.constants_eq]
    exact (h.addConstant pattern).long .loadConst _
  | loadVar slot => exact h.long .loadVar _
  | storeVar slot => exact h.long .storeVar _
  | push =>
    have hrel := h.fuse?
    rw [Assembler.step_push, Buffer.step]
    generalize a.fuse? = fa at hrel ⊢
    generalize (if b.optimize then b.fuse? else none) = fb at hrel ⊢
    cases hrel with
    | none => exact h.write (c := .opcode .push) (by simp)
    | some hfused => exact hfused
  | label =>
    exact ⟨h.optimize_eq, h.words_eq, h.isOpcode_eq, h.constants_eq,
      congrArg (Array.push · none) h.labels_eq, h.jumps_eq, h.postedAt_le, h.postedAt_iff⟩
  | post label =>
    refine ⟨h.optimize_eq, h.words_eq, h.isOpcode_eq, h.constants_eq, ?_, h.jumps_eq, ?_, ?_⟩
    · rw [Buffer.step, Assembler.step_post, h.labels_eq, h.here_eq]
    · rintro position ⟨⟩
      exact Nat.le_refl _
    · exact iff_of_true rfl rfl
  | branch j label => exact h.branch j label

end Represents

section Patching

variable {a : Assembler} {c : Cell} {cells : List Cell} {position : Nat} {word : Int32}

/-- The words of cells after one that is resolved. -/
lemma mapM_resolve_cons (h : a.resolve c position = .ok word) :
    (((c :: cells).zipIdx position).mapM fun (cell, position) => a.resolve cell position) =
      ((cells.zipIdx (position + 1)).mapM fun (cell, position) => a.resolve cell position) >>=
        fun words => .ok (word :: words) := by
  rw [List.zipIdx_cons, List.mapM_cons]
  simp only [h]
  rfl

/-- To patch the operand of a jump is to resolve its target, which stands behind the word of the
jump. -/
lemma patch_eq (a : Assembler) {before : List Int32} (hbefore : before ≠ []) (rest : List Int32)
    (label : Nat) :
    patch a.labels (before ++ word :: rest).toArray (before.length - 1, label) =
      a.resolve (.target label) before.length >>= fun operand =>
        .ok (before ++ operand :: rest).toArray := by
  have hposition : before.length - 1 + 1 = before.length :=
    Nat.sub_add_cancel (List.length_pos_iff.2 hbefore)
  rw [patch, Assembler.resolve_target, hposition, Assembler.place?]
  cases a.labels[label]?.join with
  | none => rfl
  | some place => exact congrArg Except.ok (by simp)

/-- To patch the operands of jumps into the words of cells is to resolve the cells. Before the first
target there is a word, that of its jump. -/
lemma foldlM_patch (a : Assembler) (before : List Int32) (cells : List Cell)
    (hbefore : before = [] → ∀ label, cells.head? ≠ some (.target label)) :
    (Cell.jumps before.length cells).foldlM (patch a.labels)
        (before ++ cells.map Cell.word).toArray =
      ((cells.zipIdx before.length).mapM fun (cell, position) => a.resolve cell position) >>=
        fun words => .ok (before ++ words).toArray := by
  induction cells generalizing before with
  | nil => rfl
  | cons c cells ih =>
    have hrest (word : Int32) : (Cell.jumps (before.length + 1) cells).foldlM (patch a.labels)
          (before ++ word :: cells.map Cell.word).toArray =
        ((cells.zipIdx (before.length + 1)).mapM fun (cell, position) =>
          a.resolve cell position) >>= fun words => .ok (before ++ word :: words).toArray := by
      simpa using ih (before ++ [word]) (by simp)
    by_cases hc : ∃ label, c = .target label
    · obtain ⟨label, rfl⟩ := hc
      have hne : before ≠ [] := fun hnil => hbefore hnil label rfl
      rw [Cell.jumps, List.foldlM_cons, List.map_cons, patch_eq a hne]
      cases hresolve : a.resolve (.target label) before.length with
      | error d =>
        rw [List.zipIdx_cons, List.mapM_cons]
        simp only [hresolve]
        rfl
      | ok operand =>
        rw [mapM_resolve_cons hresolve, bind_assoc, bind_assoc]
        exact hrest operand
    · rw [mapM_resolve_cons (a.resolve_of_ne (not_exists.1 hc) _),
        Cell.jumps_cons_of_ne (not_exists.1 hc), List.map_cons, hrest c.word, bind_assoc]
      rfl

end Patching

/-- One step after others. -/
lemma ofSteps_concat (optimize : Bool) (steps : List Step) (s : Step) :
    ofSteps optimize (steps ++ [s]) = (ofSteps optimize steps).step s :=
  List.foldl_append

/-- In every state a buffer says what the cells say. -/
theorem represents_ofSteps (optimize : Bool) (steps : List Step) :
    Represents (Assembler.ofSteps optimize steps) (ofSteps optimize steps) := by
  induction steps using List.reverseRecOn with
  | nil =>
    refine ⟨rfl, ?_, ?_, rfl, rfl, rfl, ?_, ?_⟩
    · simp [ofSteps, Assembler.ofSteps, Assembler.words]
    · simp [ofSteps, Assembler.ofSteps]
    · rintro position ⟨⟩
    · exact iff_of_false (by rintro ⟨⟩) Bool.false_ne_true
  | append_singleton steps s ih =>
    rw [Assembler.ofSteps_concat, ofSteps_concat]
    exact ih.step s

/-- Patched words are what the cells resolve to. -/
lemma Represents.code_eq {a : Assembler} {b : Buffer} (h : Represents a b)
    (hhead : ∀ label, a.cells.toList.head? ≠ some (.target label)) :
    b.jumps.foldlM (patch b.labels) b.words =
      (a.cells.toList.zipIdx.mapM fun (cell, position) => a.resolve cell position) >>=
        fun words => .ok words.toArray := by
  have hwords : b.words = ([] ++ a.cells.toList.map Cell.word).toArray := by
    rw [h.words_eq, List.nil_append, ← Array.toList_map]
    rfl
  rw [← Array.foldlM_toList, h.jumps_eq, h.labels_eq, hwords]
  exact foldlM_patch a [] _ fun _ => hhead

/-- Where all is said that the cells say, the code ends with the same program or failure. -/
lemma Represents.finish_eq {a : Assembler} {b : Buffer} (h : Represents a b)
    (hhead : ∀ label, (a.step (.short .endCode)).cells.toList.head? ≠ some (.target label)) :
    b.finish = a.finish := by
  -- The end instruction is a step like others.
  have hend : Represents (a.step (.short .endCode)) (b.short .endCode) := h.step (.short .endCode)
  calc b.finish
      = (b.short .endCode).jumps.foldlM (patch (b.short .endCode).labels)
            (b.short .endCode).words >>= fun code =>
          .ok ⟨code, (b.short .endCode).constants⟩ := rfl
    _ = (((a.step (.short .endCode)).cells.toList.zipIdx.mapM fun (cell, position) =>
            (a.step (.short .endCode)).resolve cell position) >>= fun words =>
              .ok words.toArray) >>= fun code =>
          .ok ⟨code, (a.step (.short .endCode)).constants⟩ := by
      rw [hend.code_eq hhead, hend.constants_eq]
    _ = a.finish := by
      rw [bind_assoc]
      rfl

/-- A buffer that is patched ends with the program or the failure that the assembler ends with. -/
theorem assemble_eq (optimize : Bool) (steps : List Step) :
    assemble optimize steps = Formula.assemble optimize steps := by
  refine (represents_ofSteps optimize steps).finish_eq fun label hhead => ?_
  -- No target is at the start, where no jump is before it.
  rw [← Assembler.ofSteps_concat, List.head?_eq_getElem?, Array.getElem?_toList] at hhead
  obtain ⟨j, start, -, hstart⟩ := Assembler.getElem?_eq_target_iff.1 hhead
  omega

end Buffer

end Formula
