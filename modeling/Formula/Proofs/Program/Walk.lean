import Formula.Proofs.Program.Tiling
import Mathlib.Data.List.Basic
import Mathlib.Tactic.Common

/-!
# What a walk shows

A walk over arbitrary words shows what stands there: instructions one directly after another, up to
the first end instruction or to a place where no instruction can be decoded. `Walk.Shows` says what
this means, and `Walk.shows_ofWords` that every walk does so. The instructions and the obstacle of a
walk are its items.
-/

namespace Formula

namespace Walk

/-- What a walk shows at a place: an instruction, or the obstacle that it gets stuck at. -/
inductive Item where
  | instruction (i : Instruction)
  | obstacle (position : Nat) (o : Obstacle)

namespace Item

/-- The place of an item. -/
def position : Item → Nat
  | .instruction i => i.position
  | .obstacle position _ => position

/-- The words that an item stands for; an obstacle stands for none. -/
def words : Item → List Int32
  | .instruction i => i.words
  | .obstacle _ _ => []

/-- Whether a walk ends with an item: with an end instruction, or with an obstacle. -/
def isLast : Item → Bool
  | .instruction i => i.op == .endCode
  | .obstacle _ _ => true

end Item

/-- Everything that a walk shows, in order: its instructions, and the obstacle if it meets one. -/
def items (w : Walk) : List Item :=
  w.instructions.map .instruction ++
    (w.obstacle?.map fun (position, o) => .obstacle position o).toList

/-- A walk that has decoded an instruction shows it first. -/
lemma items_step (i : Instruction) (rest : Walk) :
    (step i rest).items = .instruction i :: rest.items :=
  rfl

end Walk

/-- The end instruction has no operand word. -/
lemma Opcode.ne_endCode_of_hasOperand {op : Opcode} (h : op.hasOperand = true) : op ≠ .endCode := by
  rintro rfl
  cases h

/-- What an obstacle says of the words that are left where a walk gets stuck. -/
def Obstacle.Blocks : Obstacle → List Int32 → Prop
  | .noEnd, words => words = []
  | .badWord w, words => words.head? = some w ∧ Opcode.ofWord? w = none
  | .missingOperand op, words => words = [op.word] ∧ op.hasOperand = true

namespace Walk

/-- What it means that items show the words that start at a position. -/
structure Shows (position : Nat) (words : List Int32) (items : List Item) : Prop where
  initial : items.flatMap Item.words <+: words
  position_eq : ∀ before item after, items = before ++ item :: after →
    item.position = position + (before.flatMap Item.words).length
  operand_iff : ∀ i, .instruction i ∈ items → (i.operand.isSome ↔ i.op.hasOperand)
  last : ∃ before item, items = before ++ [item] ∧ item.isLast = true ∧
    ∀ other ∈ before, other.isLast = false
  blocked : ∀ place o, .obstacle place o ∈ items →
    ∃ rest, words = items.flatMap Item.words ++ rest ∧ o.Blocks rest

namespace Shows

variable {position : Nat} {words : List Int32} {items : List Item} {item : Item}

/-- An item that ends the walk. -/
lemma single (hplace : item.position = position) (hlast : item.isLast = true)
    (hoperand : ∀ i, item = .instruction i → (i.operand.isSome ↔ i.op.hasOperand))
    (hwords : ∃ rest, words = item.words ++ rest ∧
      ∀ place o, item = .obstacle place o → o.Blocks rest) : Shows position words [item] where
  initial := by
    obtain ⟨rest, rfl, -⟩ := hwords
    simp
  position_eq before other after h := by
    cases before with
    | nil =>
      cases h
      exact hplace
    | cons first before => simp at h
  operand_iff i hi := hoperand i (List.mem_singleton.1 hi).symm
  last := ⟨[], item, rfl, hlast, nofun⟩
  blocked place o ho := by
    obtain ⟨rest, rfl, hblocks⟩ := hwords
    exact ⟨rest, by simp, hblocks place o (List.mem_singleton.1 ho).symm⟩

/-- An instruction that the walk goes on after. -/
lemma cons {i : Instruction} (hplace : i.position = position)
    (hoperand : i.operand.isSome ↔ i.op.hasOperand) (hend : i.op ≠ .endCode)
    (h : Shows (position + i.words.length) words items) :
    Shows position (i.words ++ words) (.instruction i :: items) where
  initial := (List.prefix_append_right_inj i.words).2 h.initial
  position_eq before other after heq := by
    cases before with
    | nil =>
      cases heq
      exact hplace
    | cons first before =>
      cases heq
      rw [h.position_eq before other after rfl, List.flatMap_cons, List.length_append,
        Nat.add_assoc]
      rfl
  operand_iff j hj := by
    rcases List.mem_cons.1 hj with heq | hj
    · cases heq
      exact hoperand
    · exact h.operand_iff j hj
  last := by
    obtain ⟨before, item, rfl, hlast, hothers⟩ := h.last
    refine ⟨.instruction i :: before, item, rfl, hlast, ?_⟩
    exact List.forall_mem_cons.2 ⟨beq_eq_false_iff_ne.2 hend, hothers⟩
  blocked place o ho := by
    have ho : .obstacle place o ∈ items := (List.mem_cons.1 ho).resolve_left nofun
    obtain ⟨rest, hwords, hblocks⟩ := h.blocked place o ho
    exact ⟨rest, by rw [hwords, List.flatMap_cons, List.append_assoc]; rfl, hblocks⟩

end Shows

/-- A walk shows the words that it goes over, whatever they are. -/
theorem shows_ofWords (position : Nat) (words : List Int32) :
    Shows position words (ofWords position words).items := by
  fun_induction ofWords position words with
  | case1 position => exact .single rfl rfl nofun ⟨[], rfl, by rintro _ _ ⟨⟩; rfl⟩
  | case2 position w rest hop =>
    exact .single rfl rfl nofun ⟨w :: rest, rfl, by rintro _ _ ⟨⟩; exact ⟨rfl, hop⟩⟩
  | case3 position w op hop hoperand =>
    refine .single rfl rfl nofun ⟨[w], rfl, ?_⟩
    rintro _ _ ⟨⟩
    exact ⟨by rw [Opcode.word_of_ofWord? hop], hoperand⟩
  | case4 position w op hop hoperand n rest ih =>
    rw [← Opcode.word_of_ofWord? hop]
    exact .cons (i := ⟨position, op, some n⟩) rfl (by simp [hoperand])
      (Opcode.ne_endCode_of_hasOperand hoperand) ih
  | case5 position w rest hop hoperand =>
    refine .single rfl rfl ?_ ⟨rest, by rw [← Opcode.word_of_ofWord? hop]; rfl, nofun⟩
    rintro _ ⟨⟩
    simp [hoperand]
  | case6 position w rest op hop hoperand hend ih =>
    rw [← Opcode.word_of_ofWord? hop]
    exact .cons (i := ⟨position, op, none⟩) rfl (by simp [hoperand]) hend ih

end Walk

end Formula
