import Formula.Assembler
import Mathlib.Tactic.Common

/-!
# Blocks of code

What a run of assembler steps adds to the code, independent of what stands around it. A block knows
the words that its cells become (`Resolves`); labels allocated in a block are posted in it, so these
words are settled as soon as the block ends, whatever is written later. `Writes` says all this about
two states of the assembler; blocks are put one after another by `Writes.trans` and around a jump by
`Writes.skip` and `Writes.branch`.
-/

namespace Formula.Assembler

/-- The place of a label, if it was posted. -/
def place? (a : Assembler) (label : Nat) : Option Nat :=
  a.labels[label]?.join

/-- Steps after other steps. -/
@[simp]
lemma run_append (a : Assembler) (first second : List Step) :
    a.run (first ++ second) = (a.run first).run second :=
  List.foldl_append

/-- No steps. -/
@[simp]
lemma run_nil (a : Assembler) : a.run [] = a :=
  rfl

/-- One step before others. -/
@[simp]
lemma run_cons (a : Assembler) (s : Step) (steps : List Step) :
    a.run (s :: steps) = (a.step s).run steps :=
  rfl

/-- A push is fused with the load before it, or written. -/
lemma step_push (a : Assembler) : a.step .push = a.fuse?.getD (a.write [.opcode .push]) :=
  rfl

/-- A short instruction is one cell. -/
lemma step_short (a : Assembler) (op : Opcode) : a.step (.short op) = a.write [.opcode op] :=
  rfl

/-- A jump is two cells. -/
lemma step_branch (a : Assembler) (j : Jump) (label : Nat) :
    a.step (.branch j label) = a.write [.opcode (.jump j), .target label] :=
  rfl

/-- A label is new at the end of the labels. -/
lemma step_label (a : Assembler) : a.step .label = { a with labels := a.labels.push none } :=
  rfl

/-- A label that is posted has the place of the next cell. -/
lemma step_post (a : Assembler) (label : Nat) :
    a.step (.post label) =
      { a with labels := a.labels.setIfInBounds label (some a.here), joined := true } :=
  rfl

/-- A push makes no label, fused or not. -/
lemma labels_step_push (a : Assembler) : (a.step .push).labels = a.labels := by
  rw [step_push]
  cases h : a.fuse? with
  | none => rfl
  | some b =>
    unfold fuse? at h
    split at h
    · obtain ⟨cell, _, rfl⟩ := Option.map_eq_some_iff.1 h
      rfl
    · cases h

/-- A new label has no place yet. -/
lemma place?_step_label (a : Assembler) (label : Nat) :
    (a.step .label).place? label = a.place? label := by
  simp only [place?, step_label, Array.getElem?_push]
  split
  · next h => simp [h]
  · rfl

/-- A label is posted where the next cell will be. -/
lemma place?_step_post {a : Assembler} {label : Nat} (h : label < a.labels.size) :
    (a.step (.post label)).place? label = some a.here := by
  simp [place?, step_post, h]

/-- Posting a label leaves the other ones where they are. -/
lemma place?_step_post_of_ne {label other : Nat} (a : Assembler) (h : other ≠ label) :
    (a.step (.post label)).place? other = a.place? other := by
  simp [place?, step_post, Ne.symm h]

/-- A jump to a label that is new. -/
def leap (a : Assembler) (j : Jump) : Assembler :=
  a.run [.label, .branch j a.labels.size]

/-- A leap takes one label. -/
@[simp]
lemma labels_size_leap (a : Assembler) (j : Jump) :
    (a.leap j).labels.size = a.labels.size + 1 := by
  simp [leap, step_label, step_branch, write]

/-- The cells of a leap. -/
@[simp]
lemma cells_leap (a : Assembler) (j : Jump) :
    (a.leap j).cells.toList = a.cells.toList ++ [.opcode (.jump j), .target a.labels.size] := by
  simp [leap, step_label, step_branch, write]

/-- A leap takes two cells. -/
@[simp]
lemma here_leap (a : Assembler) (j : Jump) : (a.leap j).here = a.here + 2 := by
  simp [here, ← Array.length_toList]

/-- A leap leaves all labels where they are. -/
@[simp]
lemma place?_leap (a : Assembler) (j : Jump) (label : Nat) :
    (a.leap j).place? label = a.place? label :=
  place?_step_label a label

/-- Posting a label makes no new one. -/
@[simp]
lemma labels_size_step_post (a : Assembler) (label : Nat) :
    (a.step (.post label)).labels.size = a.labels.size := by
  simp [step_post]

/-- Posting a label writes nothing. -/
@[simp]
lemma here_step_post (a : Assembler) (label : Nat) : (a.step (.post label)).here = a.here :=
  rfl

/-- Cells from a position on and the words that they become. -/
inductive Resolves (a : Assembler) : Nat → List Cell → List Int32 → Prop where
  | nil {position} : Resolves a position [] []
  | cons {position cell word cells words} :
    a.resolve cell position = .ok word →
    Resolves a (position + 1) cells words →
    Resolves a position (cell :: cells) (word :: words)

namespace Resolves

variable {a b : Assembler} {position : Nat} {cells cells' : List Cell} {words words' : List Int32}

/-- Every cell becomes one word. -/
lemma length_eq (h : Resolves a position cells words) : words.length = cells.length := by
  induction h with
  | nil => rfl
  | cons _ _ ih => simp [ih]

/-- Cells one after another become words one after another. -/
lemma append (h : Resolves a position cells words)
    (h' : Resolves a (position + cells.length) cells' words') :
    Resolves a position (cells ++ cells') (words ++ words') := by
  induction h with
  | nil => exact h'
  | cons hw _ ih =>
    refine .cons hw (ih ?_)
    rwa [List.length_cons, Nat.add_comm _ 1, ← Nat.add_assoc] at h'

/-- The words of a program are those that its cells become. -/
lemma mapM_eq (h : Resolves a position cells words) :
    ((cells.zipIdx position).mapM fun (cell, position) => a.resolve cell position) =
      .ok words := by
  induction h with
  | nil => rfl
  | cons hw _ ih =>
    rw [List.zipIdx_cons, List.mapM_cons, ih]
    simp only [hw]
    rfl

/-- A word that is not a jump's target is known at once. -/
lemma of_words (h : ∀ c ∈ cells, ∀ l, c ≠ .target l) :
    Resolves a position cells (cells.map Cell.word) := by
  induction cells generalizing position with
  | nil => exact .nil
  | cons c cells ih =>
    refine .cons ?_ (ih fun d hd => h d (List.mem_cons_of_mem _ hd))
    cases c with
    | target l => exact (h _ List.mem_cons_self l rfl).elim
    | _ => rfl

/-- A jump's target is the distance between the place after its word and the place of its label. -/
lemma target {label distance : Nat} (h : a.place? label = some (position + 1 + distance)) :
    a.resolve (.target label) (position + 1) = .ok (Int32.ofNat distance) := by
  unfold place? at h
  simp only [resolve, h, Nat.add_sub_cancel, Int32.ofNat_add]
  rw [Int32.add_assoc, Int32.add_comm, Int32.add_sub_cancel, Int32.add_comm]
  exact congrArg _ (Int32.add_sub_cancel _ _)

end Resolves

/-- The latest cell is no opcode of a load, which an operand would have to follow. -/
def Settled (a : Assembler) : Prop :=
  ∀ cell, a.cells.toList.getLast? = some cell → cell.fused? = none

/-- Nothing is fused across a label. -/
lemma fuse?_step_post (a : Assembler) (label : Nat) : (a.step (.post label)).fuse? = none := by
  simp [fuse?, step_post]

/-- A short instruction is not fused with the push after it, and neither is what stands before. -/
lemma fuse?_step_short {a : Assembler} (h : a.Settled) (op : Opcode) :
    (a.step (.short op)).fuse? = none := by
  -- Two cells back from the end stands the cell that was the latest one before.
  have hsize : (a.step (.short op)).here - 2 = a.cells.toList.length - 1 := by
    simp [here, step_short, write, ← Array.length_toList]
  have hlast : (a.step (.short op)).cells[(a.step (.short op)).here - 2]? =
      (a.cells.toList ++ [.opcode op])[a.cells.toList.length - 1]? := by
    rw [hsize, ← Array.getElem?_toList, step_short, write, Array.toList_appendList]
  unfold fuse?
  split
  · next hc =>
    simp only [Bool.and_eq_true, decide_eq_true_eq] at hc
    have hpos : 0 < a.cells.toList.length := by
      have := hc.2
      simp only [here, step_short, write, ← Array.length_toList, Array.toList_appendList,
        List.length_append, List.length_singleton] at this
      exact Nat.le_of_succ_le_succ this
    rw [hlast, List.getElem?_append_left (Nat.sub_lt hpos Nat.one_pos), ← List.getLast?_eq_getElem?]
    cases hcell : a.cells.toList.getLast? with
    | none => rfl
    | some cell => simp [h cell hcell]
  · rfl

/-- Only a load is fused with the push after it. -/
lemma fuse?_long (a : Assembler) (op : Opcode) (operand : Int32) :
    (a.long op operand).fuse? =
      if a.optimize then (Cell.opcode op).fused?.map (fun cell => a.write [cell, .operand operand])
      else none := by
  have hsize : (a.long op operand).here - 2 = a.cells.toList.length := by
    simp [here, long, write, ← Array.length_toList]
  have hget : (a.long op operand).cells[a.cells.toList.length]? = some (.opcode op) := by
    rw [← Array.getElem?_toList, long, write, Array.toList_appendList,
      List.getElem?_append_right (Nat.le_refl _), Nat.sub_self]
    rfl
  have hset (cell : Cell) :
      (a.long op operand).cells.setIfInBounds a.cells.toList.length cell =
        a.cells ++ [cell, .operand operand] := by
    apply Array.ext'
    simp [long, write]
  unfold fuse?
  rw [hsize, hget]
  simp only [hset]
  simp [long, write, here]

/-- From one state of the assembler to a later one, a block of code was written: its constants, and
the words that its cells become once its own labels have their places. -/
structure Writes (a a' : Assembler) (constants : List UInt64) (words : List Int32) : Prop where
  optimize_eq : a'.optimize = a.optimize
  constants_eq : a'.constants.toList = a.constants.toList ++ constants
  labels_le : a.labels.size ≤ a'.labels.size
  place?_eq : ∀ l < a.labels.size, a'.place? l = a.place? l
  settled : a'.Settled
  exists_cells : ∃ cells : List Cell, a'.cells.toList = a.cells.toList ++ cells ∧
    ∀ b : Assembler, (∀ l, a.labels.size ≤ l → l < a'.labels.size → b.place? l = a'.place? l) →
      Resolves b a.here cells words

namespace Writes

variable {a b c : Assembler} {constants constants' : List UInt64} {words words' : List Int32}

/-- A block takes one cell for every word. -/
lemma here_eq (h : Writes a b constants words) : b.here = a.here + words.length := by
  obtain ⟨cells, hcells, hresolves⟩ := h.exists_cells
  rw [(hresolves b fun _ _ _ => rfl).length_eq, here, ← Array.length_toList, hcells]
  simp [here]

/-- The number of constants after a block. -/
lemma constants_size_eq (h : Writes a b constants words) :
    b.constants.size = a.constants.size + constants.length := by
  simp [← Array.length_toList, h.constants_eq]

/-- One block after another. -/
lemma trans (h : Writes a b constants words) (h' : Writes b c constants' words') :
    Writes a c (constants ++ constants') (words ++ words') := by
  obtain ⟨cells, hcells, hresolves⟩ := h.exists_cells
  obtain ⟨cells', hcells', hresolves'⟩ := h'.exists_cells
  refine ⟨h'.optimize_eq.trans h.optimize_eq, ?_, Nat.le_trans h.labels_le h'.labels_le, ?_, h'.settled,
    cells ++ cells', ?_, ?_⟩
  · simp [h'.constants_eq, h.constants_eq]
  · intro l hl
    rw [h'.place?_eq l (Nat.lt_of_lt_of_le hl h.labels_le), h.place?_eq l hl]
  · simp [hcells', hcells]
  · intro d hd
    -- The labels of the first block are older than the second one, which does not post them.
    have hfirst : Resolves d a.here cells words := by
      refine hresolves d fun l hl hlb => ?_
      rw [hd l hl (Nat.lt_of_lt_of_le hlb h'.labels_le), h'.place?_eq l hlb]
    have hsecond : Resolves d b.here cells' words' :=
      hresolves' d fun l hl hlc => hd l (Nat.le_trans h.labels_le hl) hlc
    rw [h.here_eq, hfirst.length_eq] at hsecond
    exact hfirst.append hsecond

/-- Cells without a jump are a block if they do not end with the opcode of a load. -/
lemma of_cells (cells : List Cell) {last : Cell} (hcells : ∀ c ∈ cells, ∀ l, c ≠ .target l)
    (hlast : cells.getLast? = some last) (hfused : last.fused? = none) :
    Writes a (a.write cells) [] (cells.map Cell.word) where
  optimize_eq := rfl
  constants_eq := by simp [write]
  labels_le := Nat.le_refl _
  place?_eq _ _ := rfl
  settled := by
    intro cell hcell
    rw [write, Array.toList_appendList, List.getLast?_append, hlast] at hcell
    cases hcell
    exact hfused
  exists_cells := ⟨cells, by simp [write], fun _ _ => .of_words hcells⟩

/-- A short instruction at the end of a block. -/
lemma short (op : Opcode) (h : Writes a b constants words) (hop : (Cell.opcode op).fused? = none) :
    Writes a (b.step (.short op)) constants (words ++ [op.word]) := by
  have := h.trans (of_cells [.opcode op] (by simp) rfl hop)
  rwa [List.append_nil] at this

/-- An instruction with its operand at the end of a block. -/
lemma long {op : Opcode} {operand : Int32} (h : Writes a b constants words) :
    Writes a (b.long op operand) constants (words ++ [op.word, operand]) := by
  have := h.trans (of_cells [.opcode op, .operand operand] (by simp) rfl rfl)
  rwa [List.append_nil] at this

/-- A push at the end of a block that does not fuse with it. -/
lemma push (h : Writes a b constants words) (hfuse : b.fuse? = none) :
    Writes a (b.step .push) constants (words ++ [Opcode.push.word]) := by
  have hstep : b.step .push = b.step (.short .push) := by
    simp [step_push, step_short, hfuse]
  rw [hstep]
  exact h.short .push rfl

/-- The constant of a load belongs to its block. -/
lemma of_addConstant {pattern : UInt64} (h : Writes (a.addConstant pattern) b constants words) :
    Writes a b (pattern :: constants) words where
  optimize_eq := h.optimize_eq
  constants_eq := by simp [h.constants_eq, addConstant]
  labels_le := h.labels_le
  place?_eq := h.place?_eq
  settled := h.settled
  exists_cells := h.exists_cells

/-- A jump over a block: its label is new, and it is posted after the block. -/
lemma skip {j : Jump} (h : Writes (a.leap j) b constants words) :
    Writes a (b.step (.post a.labels.size)) constants
      ([(Opcode.jump j).word, Int32.ofNat (words.length + 1)] ++ words) := by
  obtain ⟨cells, hcells, hresolves⟩ := h.exists_cells
  have hlabels : a.labels.size < b.labels.size := by
    have := h.labels_le
    rwa [labels_size_leap] at this
  have hhere : b.here = a.here + 1 + (words.length + 1) := by
    rw [h.here_eq, here_leap]
    omega
  refine ⟨h.optimize_eq, h.constants_eq, ?_, ?_, h.settled,
    .opcode (.jump j) :: .target a.labels.size :: cells, ?_, ?_⟩
  · rw [labels_size_step_post]
    exact Nat.le_of_lt hlabels
  · intro l hl
    rw [place?_step_post_of_ne b (Nat.ne_of_lt hl), h.place?_eq l (by simp; omega), place?_leap]
  · rw [cells_leap] at hcells
    simp [step_post, hcells]
  · intro c hc
    rw [labels_size_step_post] at hc
    rw [labels_size_leap, here_leap] at hresolves
    -- The label of the jump is posted right after the block, and those of the block stay.
    refine .cons rfl (.cons (Resolves.target ?_) (hresolves c fun l hl hlb => ?_))
    · rw [hc _ (Nat.le_refl _) hlabels, place?_step_post hlabels, hhere]
    · rw [hc l (Nat.le_of_lt hl) hlb, place?_step_post_of_ne b (Nat.ne_of_gt hl)]

/-- Two blocks of which one is jumped over: the first one if the leading jump is taken, and else the
second one by the jump at the end of the first. The labels of the jumps overlap: that of the leading
jump is posted between the blocks, that of the other one after both. -/
lemma branch {j : Jump} {constants' : List UInt64} {words' : List Int32}
    (h : Writes (a.leap j) b constants words)
    (h' : Writes ((b.leap .always).step (.post a.labels.size)) c constants' words') :
    Writes a (c.step (.post b.labels.size)) (constants ++ constants')
      ([(Opcode.jump j).word, Int32.ofNat (words.length + 3)] ++ words ++
        [(Opcode.jump .always).word, Int32.ofNat (words'.length + 1)] ++ words') := by
  obtain ⟨cells, hcells, hresolves⟩ := h.exists_cells
  obtain ⟨cells', hcells', hresolves'⟩ := h'.exists_cells
  have hlabels : a.labels.size < b.labels.size := by
    have := h.labels_le
    rwa [labels_size_leap] at this
  have hlabels' : b.labels.size < c.labels.size := by
    have := h'.labels_le
    rwa [labels_size_step_post, labels_size_leap] at this
  have hhere : b.here = a.here + 2 + words.length := by
    rw [h.here_eq, here_leap]
  have hhere' : c.here = b.here + 2 + words'.length := by
    rw [h'.here_eq, here_step_post, here_leap]
  -- Up to the second jump no label is posted later but the one of the first jump.
  have hplace (l) (hl : l < b.labels.size) (hne : l ≠ a.labels.size) : c.place? l = b.place? l := by
    rw [h'.place?_eq l (by simp; omega), place?_step_post_of_ne _ hne, place?_leap]
  have hfirst : c.place? a.labels.size = some (b.here + 2) := by
    rw [h'.place?_eq _ (by simp; omega), place?_step_post (by simp; omega), here_leap]
  refine ⟨?_, ?_, ?_, ?_, h'.settled, .opcode (.jump j) :: .target a.labels.size ::
    (cells ++ .opcode (.jump .always) :: .target b.labels.size :: cells'), ?_, ?_⟩
  · exact h'.optimize_eq.trans h.optimize_eq
  · have hb : (b.leap .always).constants = b.constants := rfl
    have ha : (a.leap j).constants = a.constants := rfl
    have hconstants := h'.constants_eq
    have hconstants' := h.constants_eq
    simp only [step_post, hb] at hconstants ⊢
    rw [hconstants, hconstants', ha, List.append_assoc]
  · rw [labels_size_step_post]
    exact Nat.le_of_lt (Nat.lt_trans hlabels hlabels')
  · intro l hl
    rw [place?_step_post_of_ne c (by omega), hplace l (by omega) (by omega),
      h.place?_eq l (by simp; omega), place?_leap]
  · have hb := cells_leap b .always
    rw [cells_leap] at hcells
    simp only [step_post] at hcells' ⊢
    rw [hcells', hb, hcells]
    simp
  · intro d hd
    rw [labels_size_step_post] at hd
    rw [labels_size_leap, here_leap] at hresolves
    rw [labels_size_step_post, labels_size_leap, here_step_post, here_leap] at hresolves'
    -- Both blocks keep the places of their labels, and the two jumps find theirs.
    have hyes : Resolves d (a.here + 2) cells words := by
      refine hresolves d fun l hl hlb => ?_
      rw [hd l (by omega) (by omega), place?_step_post_of_ne c (by omega), hplace l hlb (by omega)]
    have hno : Resolves d (b.here + 2) cells' words' := by
      refine hresolves' d fun l hl hlc => ?_
      rw [hd l (by omega) hlc, place?_step_post_of_ne c (by omega)]
    have honFalse : d.place? a.labels.size = some (a.here + 1 + (words.length + 3)) := by
      rw [hd _ (by omega) (by omega), place?_step_post_of_ne c (by omega), hfirst, hhere]
      simp only [Option.some.injEq]
      omega
    have hdone : d.place? b.labels.size = some (b.here + 1 + (words'.length + 1)) := by
      rw [hd _ (by omega) (by omega), place?_step_post hlabels', hhere']
      simp only [Option.some.injEq]
      omega
    have hsecond : Resolves d b.here (.opcode (.jump .always) :: .target b.labels.size :: cells')
        ((Opcode.jump .always).word :: Int32.ofNat (words'.length + 1) :: words') :=
      .cons rfl (.cons (Resolves.target hdone) hno)
    rw [hhere, hyes.length_eq] at hsecond
    simp only [List.cons_append, List.nil_append, List.append_assoc]
    exact .cons rfl (.cons (Resolves.target honFalse) (hyes.append hsecond))

/-- A program is the one block that was written into it. -/
lemma finish_eq {optimize : Bool}
    (h : Writes { optimize := optimize } (a.step (.short .endCode)) constants words) :
    a.finish = .ok ⟨words.toArray, constants.toArray⟩ := by
  obtain ⟨cells, hcells, hresolves⟩ := h.exists_cells
  have hcode := (hresolves _ fun _ _ _ => rfl).mapM_eq
  have hconstants : (a.step (.short .endCode)).constants = constants.toArray :=
    Array.ext' h.constants_eq
  rw [List.nil_append] at hcells
  rw [← hcells] at hcode
  rw [← hconstants]
  exact congrArg (· >>= fun code => Except.ok
    (Program.mk code.toArray (a.step (.short .endCode)).constants)) hcode

end Writes

end Formula.Assembler
