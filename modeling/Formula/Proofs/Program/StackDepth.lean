import Formula.Program.StackDepth
import Formula.Proofs.Program.Walk
import Mathlib.Data.List.Basic
import Mathlib.Tactic.Common

/-!
# The stack depth of arbitrary programs

The depth of the stack is a fold over what a walk shows: it is the greatest of the heights that the
items lead through, if these end at zero and never go below (`Walk.Balanced`). A check that steps from
position to position and looks for the end of the code on its own has the same result
(`Program.depthFrom_eq`), though the two notice a missing operand in different ways.
`Program.walk_and_stackDepth` says all of this of a program.
-/

namespace Formula

/-- What an instruction adds to the height of the stack. -/
def Opcode.heightChange : Opcode → Int
  | .push | .pushVar | .pushConst => 1
  | .binary _ | .logical _ => -1
  | .call f => -f.arity
  | _ => 0

/-- The effect of an instruction on the stack is the change of the height, and an instruction either
takes operands or puts one there. -/
lemma Opcode.heightChange_eq {op : Opcode} {pops pushes : Nat}
    (h : op.stackEffect? = some (pops, pushes)) :
    op.heightChange = pushes - pops ∧ (pops = 0 ∨ pushes = 0) := by
  cases op with
  | nothing => cases h
  | conditional => cases h
  | _ =>
    cases h
    simp [heightChange]

/-- Only the two instructions without a meaning have no effect. -/
lemma Opcode.stackEffect?_eq_none_iff {op : Opcode} :
    op.stackEffect? = none ↔ op = .nothing ∨ op = .conditional := by
  cases op with
  | _ => simp [stackEffect?]

namespace Walk

/-- What an item adds to the height of the stack. -/
def Item.heightChange : Item → Int
  | .instruction i => i.op.heightChange
  | .obstacle _ _ => 0

/-- The heights of the stack from a given one on, before each item and after the last one. -/
def heights (start : Int) (items : List Item) : List Int :=
  items.scanl (fun height item => height + item.heightChange) start

/-- Items that are all instructions with a meaning, and that keep the height of the stack from going
below zero and lead it to zero; `depth` is the greatest height. -/
structure Balanced (start : Int) (items : List Item) (depth : Nat) : Prop where
  decoded : ∀ item ∈ items, ∃ i, item = .instruction i ∧ i.op ≠ .nothing ∧ i.op ≠ .conditional
  nonneg : ∀ h ∈ heights start items, 0 ≤ h
  zero_at_end : (heights start items).getLast? = some 0
  greatest : (heights start items).max? = some ↑depth

/-- The heights start with the given one. -/
lemma heights_cons (start : Int) (item : Item) (items : List Item) :
    heights start (item :: items) = start :: heights (start + item.heightChange) items :=
  List.scanl_cons

/-- The last height does not change with a first item before. -/
lemma getLast?_heights_cons (start : Int) (item : Item) (items : List Item) :
    (heights start (item :: items)).getLast? =
      (heights (start + item.heightChange) items).getLast? := by
  rw [heights, heights, List.getLast?_scanl, List.getLast?_scanl, List.foldl_cons]

/-- The first height is one of them. -/
lemma mem_heights_start (start : Int) (items : List Item) : start ∈ heights start items := by
  cases items with
  | nil => exact List.mem_singleton_self _
  | cons item items =>
    rw [heights_cons]
    exact List.mem_cons_self

/-- The greatest height is not below the first one. -/
lemma Balanced.start_le {start : Int} {items : List Item} {depth : Nat}
    (h : Balanced start items depth) : start ≤ depth :=
  (List.max?_eq_some_iff.1 h.greatest).2 start (mem_heights_start start items)

/-- No items lead from zero to zero, and from no other height. -/
lemma balanced_nil_iff {h d : Nat} : Balanced h [] d ↔ h = 0 ∧ d = 0 := by
  have hheights : heights h [] = [(h : Int)] := rfl
  refine ⟨?_, ?_⟩
  · intro hbalanced
    have hzero := hbalanced.zero_at_end
    have hgreatest := hbalanced.greatest
    simp only [hheights, List.getLast?_singleton, List.max?_singleton, Option.some.injEq]
      at hzero hgreatest
    omega
  · rintro ⟨rfl, rfl⟩
    exact ⟨nofun, by decide, rfl, rfl⟩

/-- Items are balanced if the first one is an instruction with a meaning and the others are balanced
from the next height on. -/
lemma balanced_cons_iff {h h' d : Nat} {item : Item} (items : List Item)
    (hnext : h + item.heightChange = h') :
    Balanced h (item :: items) d ↔
      (∃ i, item = .instruction i ∧ i.op ≠ .nothing ∧ i.op ≠ .conditional) ∧
        ∃ peak, Balanced h' items peak ∧ d = max h peak := by
  have hheights : heights h (item :: items) = (h : Int) :: heights h' items := by
    rw [heights_cons, hnext]
  have hlast : (heights h (item :: items)).getLast? = (heights h' items).getLast? := by
    rw [getLast?_heights_cons, hnext]
  refine ⟨?_, ?_⟩
  · intro hbalanced
    obtain ⟨hfirst, hdecoded⟩ := List.forall_mem_cons.1 hbalanced.decoded
    have hnonneg := hbalanced.nonneg
    rw [hheights] at hnonneg
    have hrest := (List.forall_mem_cons.1 hnonneg).2
    obtain ⟨top, htop⟩ : ∃ top, (heights h' items).max? = some top :=
      Option.isSome_iff_exists.1 (List.isSome_max?_of_mem (mem_heights_start _ _))
    obtain ⟨peak, rfl⟩ := Int.eq_ofNat_of_zero_le (hrest top (List.max?_eq_some_iff.1 htop).1)
    refine ⟨hfirst, peak, ⟨hdecoded, hrest, hlast ▸ hbalanced.zero_at_end, htop⟩, ?_⟩
    have hgreatest := hbalanced.greatest
    rw [hheights, List.max?_cons, htop, Option.elim_some] at hgreatest
    have := Option.some.inj hgreatest
    omega
  · rintro ⟨hfirst, peak, hbalanced, rfl⟩
    refine ⟨List.forall_mem_cons.2 ⟨hfirst, hbalanced.decoded⟩, ?_, hlast ▸ hbalanced.zero_at_end, ?_⟩
    · rw [hheights]
      exact List.forall_mem_cons.2 ⟨Int.natCast_nonneg h, hbalanced.nonneg⟩
    · rw [hheights, List.max?_cons, hbalanced.greatest, Option.elim_some, Nat.cast_max]

/-- The depth that is found on a walk is the greatest height over its items, if these are balanced. The
induction is on the walk, from any height on. -/
lemma depth_eq_ok_iff (w : Walk) {h deepest d : Nat} (hle : h ≤ deepest) :
    w.depth h deepest = .ok d ↔ ∃ peak, Balanced h w.items peak ∧ d = max deepest peak := by
  induction w generalizing h deepest with
  | step i rest ih =>
    rw [items_step, depth]
    cases heffect : i.op.stackEffect? with
    | none =>
      simp only [reduceCtorEq, false_iff]
      rintro ⟨peak, hbalanced, -⟩
      obtain ⟨j, hj, hnothing, hconditional⟩ := hbalanced.decoded _ List.mem_cons_self
      cases hj
      exact (Opcode.stackEffect?_eq_none_iff.1 heffect).elim hnothing hconditional
    | some effect =>
      obtain ⟨pops, pushes⟩ := effect
      obtain ⟨hchange, hone⟩ := Opcode.heightChange_eq heffect
      have hnext : (h : Int) + (Item.instruction i).heightChange = h + (pushes - pops) := by
        rw [← hchange]
        rfl
      dsimp only
      split
      · next hlt =>
        simp only [reduceCtorEq, false_iff]
        rintro ⟨peak, hbalanced, -⟩
        have := hbalanced.nonneg (h + (pushes - pops)) (by
          rw [heights_cons, hnext]
          exact List.mem_cons_of_mem _ (mem_heights_start _ _))
        omega
      · next hge =>
        have hmeaning : i.op ≠ .nothing ∧ i.op ≠ .conditional := by
          rw [← not_or, ← Opcode.stackEffect?_eq_none_iff, heffect]
          exact nofun
        have hheight : (h : Int) + (Item.instruction i).heightChange = ↑(h - pops + pushes) := by
          rw [hnext]
          omega
        have hcons {d : Nat} := balanced_cons_iff (d := d) rest.items hheight
        rw [ih (Nat.le_max_right _ _)]
        refine ⟨?_, ?_⟩
        · rintro ⟨peak, hbalanced, rfl⟩
          refine ⟨max h peak, hcons.2 ⟨⟨i, rfl, hmeaning⟩, peak, hbalanced, rfl⟩, ?_⟩
          have := hbalanced.start_le
          omega
        · rintro ⟨top, hbalanced, rfl⟩
          obtain ⟨-, peak, hrest, rfl⟩ := hcons.1 hbalanced
          refine ⟨peak, hrest, ?_⟩
          have := hrest.start_le
          omega
  | done position =>
    have hheight : (h : Int) + (Item.instruction ⟨position, .endCode, none⟩).heightChange = h :=
      Int.add_zero _
    have hcons {d : Nat} := balanced_cons_iff (d := d) [] hheight
    rw [depth, show (done position).items = [.instruction ⟨position, .endCode, none⟩] from rfl]
    refine ⟨?_, ?_⟩
    · intro hdepth
      split at hdepth
      · next hzero =>
        cases hdepth
        refine ⟨0, hcons.2 ⟨⟨_, rfl, nofun, nofun⟩, 0, balanced_nil_iff.2 ⟨hzero, rfl⟩, ?_⟩, ?_⟩
        · omega
        · omega
      · cases hdepth
    · rintro ⟨top, hbalanced, rfl⟩
      obtain ⟨-, peak, hrest, rfl⟩ := hcons.1 hbalanced
      obtain ⟨rfl, rfl⟩ := balanced_nil_iff.1 hrest
      simp
  | stuck position o =>
    have hdepth : (Walk.stuck position o).depth h deepest ≠ .ok d := by
      cases o with
      | _ => simp [depth]
    simp only [hdepth, false_iff]
    rintro ⟨peak, hbalanced, -⟩
    obtain ⟨i, hi, -⟩ := hbalanced.decoded _ List.mem_cons_self
    cases hi

end Walk

/-- An instruction with an operand word takes nothing from the stack. -/
lemma Opcode.stackEffect?_of_hasOperand {op : Opcode} (h : op.hasOperand = true) :
    ∃ pushes, op.stackEffect? = some (0, pushes) := by
  cases op with
  | pushVar | pushConst => exact ⟨1, rfl⟩
  | loadConst | loadVar | storeVar | jump => exact ⟨0, rfl⟩
  | _ => cases h

/-- The depth of the stack, found by positions and without a walk. An instruction moves the position on
by its size, and only then it is noticed that the code has ended before. -/
def Program.depthFrom (p : Program) (position height deepest : Nat) : Except StackError Nat :=
  if h : position < p.code.size then
    match Opcode.ofWord? p.code[position] with
    | none => .error (.badWord p.code[position] position)
    | some op =>
      match op.stackEffect? with
      | none => .error (.notAllowed op position)
      | some (pops, pushes) =>
        if height < pops then .error (.underflow op position pops)
        else
          let height := height - pops + pushes
          if op = .endCode then
            if height = 0 then .ok (max deepest height) else .error (.unbalanced height)
          else if p.code.size < position + op.size then .error (.truncated op)
          else p.depthFrom (position + op.size) height (max deepest height)
  else .error .noEnd
termination_by p.code.size - position
decreasing_by
  have := op.size_pos
  omega

section Positions

variable {α : Type} {xs : Array α} {x : α} {i : Nat} {ys : List α}

/-- The first of the values from a position on, and those after it. -/
lemma drop_toList_eq_cons (h : xs.toList.drop i = x :: ys) :
    xs[i]? = some x ∧ xs.toList.drop (i + 1) = ys := by
  refine ⟨?_, ?_⟩
  · rw [← Array.getElem?_toList, ← Nat.add_zero i, ← List.getElem?_drop, h]
    rfl
  · rw [← List.tail_drop, h]
    rfl

/-- There are no values from the end on. -/
lemma size_le_of_drop_toList (h : xs.toList.drop i = []) : xs.size ≤ i := by
  rwa [List.drop_eq_nil_iff, Array.length_toList] at h

end Positions

namespace Program

variable {p : Program} {position height deepest : Nat} {op : Opcode} {w : Int32}

/-- Past the end the check by positions finds no end instruction. -/
lemma depthFrom_of_size_le (h : p.code.size ≤ position) :
    p.depthFrom position height deepest = .error .noEnd := by
  rw [depthFrom, dif_neg (Nat.not_lt.2 h)]

/-- The check by positions at a word that stands for an instruction. -/
lemma depthFrom_of_ofWord? (hw : p.code[position]? = some w) (hop : Opcode.ofWord? w = some op) :
    p.depthFrom position height deepest =
      match op.stackEffect? with
      | none => .error (.notAllowed op position)
      | some (pops, pushes) =>
        if height < pops then .error (.underflow op position pops)
        else
          let height := height - pops + pushes
          if op = .endCode then
            if height = 0 then .ok (max deepest height) else .error (.unbalanced height)
          else if p.code.size < position + op.size then .error (.truncated op)
          else p.depthFrom (position + op.size) height (max deepest height) := by
  obtain ⟨hlt, rfl⟩ := Array.getElem?_eq_some_iff.1 hw
  rw [depthFrom, dif_pos hlt]
  split
  · next hnone => cases hop.symm.trans hnone
  · next hsome =>
    cases hop.symm.trans hsome
    rfl

/-- The check by positions goes on after an instruction that does not end the walk. -/
lemma depthFrom_step {operand : Option Int32} {rest : Walk} (hw : p.code[position]? = some w)
    (hop : Opcode.ofWord? w = some op) (hend : op ≠ .endCode)
    (hle : position + op.size ≤ p.code.size)
    (hrest : ∀ height deepest,
      p.depthFrom (position + op.size) height deepest = rest.depth height deepest) :
    p.depthFrom position height deepest =
      (Walk.step ⟨position, op, operand⟩ rest).depth height deepest := by
  rw [depthFrom_of_ofWord? hw hop, Walk.depth]
  cases op.stackEffect? with
  | none => rfl
  | some effect => simp only [hend, Nat.not_lt.2 hle, if_false, hrest]

/-- The check by positions and the one by the walk have the same result, also where they fail. The
induction is on the words that the walk goes over. -/
lemma depthFrom_eq (p : Program) (position height deepest : Nat) :
    p.depthFrom position height deepest =
      (Walk.ofWords position (p.code.toList.drop position)).depth height deepest := by
  generalize hwords : p.code.toList.drop position = words
  fun_induction Walk.ofWords position words generalizing height deepest with
  | case1 position => exact depthFrom_of_size_le (size_le_of_drop_toList hwords)
  | case2 position w rest hop =>
    obtain ⟨hlt, rfl⟩ := Array.getElem?_eq_some_iff.1 (drop_toList_eq_cons hwords).1
    rw [depthFrom, dif_pos hlt]
    split
    · rfl
    · next hsome => cases hop.symm.trans hsome
  | case3 position w op hop hoperand =>
    obtain ⟨hw, hnil⟩ := drop_toList_eq_cons hwords
    -- An instruction with an operand takes nothing from the stack, so nothing else is noticed before.
    obtain ⟨pushes, heffect⟩ := Opcode.stackEffect?_of_hasOperand hoperand
    have hsize : p.code.size < position + op.size := by
      have := size_le_of_drop_toList hnil
      rw [Opcode.size, if_pos hoperand]
      omega
    rw [depthFrom_of_ofWord? hw hop, heffect]
    simp [Opcode.ne_endCode_of_hasOperand hoperand, hsize, Walk.depth]
  | case4 position w op hop hoperand n rest ih =>
    obtain ⟨hw, htail⟩ := drop_toList_eq_cons hwords
    obtain ⟨hn, hrest⟩ := drop_toList_eq_cons htail
    have hsize : op.size = 2 := if_pos hoperand
    refine depthFrom_step hw hop (Opcode.ne_endCode_of_hasOperand hoperand) ?_ ?_
    · rw [hsize]
      exact (Array.getElem?_eq_some_iff.1 hn).1
    · intro height deepest
      rw [hsize, ih _ _ hrest]
  | case5 position w rest hop hoperand =>
    rw [depthFrom_of_ofWord? (drop_toList_eq_cons hwords).1 hop]
    simp only [Opcode.stackEffect?, Nat.not_lt_zero, if_false, if_true, Nat.sub_zero, Nat.add_zero,
      Walk.depth]
    split
    · next hzero => rw [hzero, Nat.max_zero]
    · rfl
  | case6 position w rest op hop hoperand hend ih =>
    obtain ⟨hw, hrest⟩ := drop_toList_eq_cons hwords
    have hsize : op.size = 1 := if_neg hoperand
    refine depthFrom_step hw hop hend ?_ ?_
    · rw [hsize]
      exact (Array.getElem?_eq_some_iff.1 hw).1
    · intro height deepest
      rw [hsize, ih _ _ hrest]

end Program

/-- A walk shows what stands in a program after its header: instructions one directly after another,
up to the first end instruction or to an obstacle. The check by positions finds the depth of the stack
or fails as the one by the walk does. There is a depth if and only if what the walk shows is balanced,
and it is the greatest height over the items. -/
theorem Program.walk_and_stackDepth (p : Program) :
    Walk.Shows 1 (p.code.toList.drop 1) p.walk.items ∧
      (p.stackDepth = if p.code.isEmpty then .error .missingHeader else p.depthFrom 1 0 0) ∧
      ∀ d, p.stackDepth = .ok d ↔ Walk.Balanced 0 p.walk.items d := by
  have hfrom : p.depthFrom 1 0 0 = p.walk.depth 0 0 := p.depthFrom_eq 1 0 0
  refine ⟨Walk.shows_ofWords 1 _, by rw [hfrom]; rfl, fun d => ?_⟩
  have hdepth : p.stackDepth = .ok d ↔ p.walk.depth 0 0 = .ok d := by
    unfold Program.stackDepth
    split
    · next hempty =>
      -- There is no header, and the walk finds no word after it.
      have hcode : p.code = #[] := Array.isEmpty_iff.1 hempty
      simp [Program.walk, hcode, Walk.ofWords, Walk.depth]
    · rfl
  rw [hdepth, Walk.depth_eq_ok_iff _ (Nat.le_refl 0)]
  simp

end Formula
