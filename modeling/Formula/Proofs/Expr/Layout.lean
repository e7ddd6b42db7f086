import Formula.Proofs.Expr.Words
import Formula.Proofs.Machine.Simulation
import Formula.Proofs.Program.Tiling

/-!
# The layout of compiled expressions

The words of an expression are instructions, wherever they stand: their slots are declared, their
constants are numbered in the order of their loads, and their jumps aim at later places where an
instruction starts or where the words end. `WellLaid` says so of a list of words; it is put together
from the instructions by concatenation and by two ways to jump, and `wellLaid` follows by induction
on the expression. Jumps go to the places that they aim at if their distances fit into words
(`Block.lands`).
-/

namespace Formula

namespace Opcode

/-- Whether the operand word of an instruction is the number of a slot. -/
def selectsSlot : Opcode → Bool
  | .pushVar | .loadVar | .storeVar => true
  | _ => false

/-- Whether the operand word of an instruction is the number of a constant. -/
def selectsConstant : Opcode → Bool
  | .pushConst | .loadConst => true
  | _ => false

/-- Whether code may have an instruction before its end: all but the end itself, and the two words
that mean nothing to the machine. -/
def isInner : Opcode → Bool
  | .nothing | .conditional | .endCode => false
  | _ => true

end Opcode

/-- An instruction in code over a number of slots. -/
structure Instruction.Inner (n : Nat) (i : Instruction) : Prop where
  op_inner : i.op.isInner = true
  slot_lt : i.op.selectsSlot = true → ∃ slot < n, i.operand = some (Int32.ofNat slot)

/-- A jump goes forward, to a place of some kind. -/
def Instruction.Lands (place : Nat → Prop) (i : Instruction) : Prop :=
  ∀ target, i.target? = some target → ∃ j : Nat, target = j ∧ i.position < j ∧ place j

/-- The operand of a jump is the distance to a place of some kind, as far as it fits into a word. -/
def Instruction.Aims (place : Nat → Prop) (i : Instruction) : Prop :=
  i.op.isJump = true →
    ∃ distance, i.operand = some (Int32.ofNat distance) ∧ place (i.position + distance + 1)

/-- The operands of the instructions that select a constant. -/
def constantOperands (is : List Instruction) : List (Option Int32) :=
  (is.filter fun i => i.op.selectsConstant).map (·.operand)

/-- The operands that select a number of constants, from the one with number `k` on. -/
def numberedFrom (k count : Nat) : List (Option Int32) :=
  (List.range' k count).map fun number => some (Int32.ofNat number)

/-- Words that stand at a position are instructions over `n` slots. They select `count` constants,
which are numbered from `k` on. -/
structure Block (n k count position : Nat) (is : List Instruction) (ws : List Int32) : Prop where
  tiles : Tiles position is ws
  inner : ∀ i ∈ is, i.Inner n
  constants_eq : constantOperands is = numberedFrom k count
  aims : ∀ i ∈ is, i.Aims (Boundary position is ws)

/-- Words are instructions wherever they stand. -/
def WellLaid (n k count : Nat) (ws : List Int32) : Prop :=
  ∀ position, ∃ is, Block n k count position is ws

variable {n k count count' position : Nat} {i : Instruction} {is js : List Instruction}
  {ws us : List Int32} {op : Opcode} {optimize push : Bool}

/-- A jump aims at a place if the place is of another kind as well. -/
lemma Instruction.Aims.mono {place place' : Nat → Prop} (h : i.Aims place)
    (hplace : ∀ j, place j → place' j) : i.Aims place' := by
  intro hjump
  obtain ⟨distance, hoperand, hmem⟩ := h hjump
  exact ⟨distance, hoperand, hplace _ hmem⟩

/-- An instruction that is no jump aims at no place. -/
lemma Instruction.aims_of_not_jump {place : Nat → Prop} (h : i.op.isJump = false) :
    i.Aims place := by
  intro hjump
  rw [h] at hjump
  cases hjump

/-- A jump over a distance that fits into a word goes there. -/
lemma Instruction.target?_eq {distance : Nat} (hjump : i.op.isJump = true)
    (hoperand : i.operand = some (Int32.ofNat distance)) (hdistance : distance < 2 ^ 31) :
    i.target? = some ((i.position + distance + 1 : Nat) : Int) := by
  have hword : (Int32.ofNat distance).toInt = distance := Int32.toInt_ofNat_of_lt hdistance
  obtain ⟨position, op, operand⟩ := i
  cases hoperand
  cases op with
  | jump j =>
    change some ((position : Int) + (Int32.ofNat distance).toInt + 1) = _
    rw [hword]
    rfl
  | _ => cases hjump

/-- A jump that aims at a place which is near enough lands there. -/
lemma Instruction.Aims.lands {place : Nat → Prop} (h : i.Aims place)
    (hplace : ∀ j, place j → j ≤ i.position + 2 ^ 31) : i.Lands place := by
  intro target htarget
  have hjump : i.op.isJump = true := by
    obtain ⟨position, op, operand⟩ := i
    cases op with
    | jump j => rfl
    | _ => cases htarget
  obtain ⟨distance, hoperand, hmem⟩ := h hjump
  have hle := hplace _ hmem
  rw [target?_eq hjump hoperand (by omega)] at htarget
  exact ⟨i.position + distance + 1, (Option.some.inj htarget).symm, by omega, hmem⟩

/-- An instruction in code is none of those that only its end or no code has. -/
lemma Instruction.Inner.op_ne (h : i.Inner n) (hop : op.isInner = false) : i.op ≠ op := by
  rintro rfl
  rw [h.op_inner] at hop
  cases hop

/-- A jump with an operand word has a target. -/
lemma Instruction.exists_target (hoperand : i.operand.isSome = i.op.hasOperand)
    (hjump : i.op.isJump = true) : ∃ target, i.target? = some target := by
  obtain ⟨position, op, operand⟩ := i
  cases op with
  | jump j =>
    obtain ⟨w, rfl⟩ := Option.isSome_iff_exists.1 hoperand
    exact ⟨_, rfl⟩
  | _ => cases hjump

/-- Numbers that go on where others end. -/
lemma numberedFrom_append (k count count' : Nat) :
    numberedFrom k count ++ numberedFrom (k + count) count' = numberedFrom k (count + count') := by
  unfold numberedFrom
  rw [← List.map_append, List.range'_append_1]

namespace Block

/-- An instruction that is no jump. -/
lemma single (position : Nat) (operand : Option Int32) (hoperand : operand.isSome = op.hasOperand)
    (hinner : op.isInner = true) (hjump : op.isJump = false)
    (hslot : op.selectsSlot = true → ∃ slot < n, operand = some (Int32.ofNat slot))
    (hconstant : constantOperands [⟨position, op, operand⟩] = numberedFrom k count) :
    Block n k count position [⟨position, op, operand⟩] (op.word :: operand.toList) where
  tiles := Tiles.single (i := ⟨position, op, operand⟩) hoperand
  inner := by simpa using ⟨hinner, hslot⟩
  constants_eq := hconstant
  aims := by simpa using Instruction.aims_of_not_jump hjump

/-- Code after other code. -/
lemma append (h : Block n k count position is ws)
    (h' : Block n (k + count) count' (position + ws.length) js us) :
    Block n k (count + count') position (is ++ js) (ws ++ us) where
  tiles := h.tiles.append h'.tiles
  inner := List.forall_mem_append.2 ⟨h.inner, h'.inner⟩
  constants_eq := by
    have hconstants := congrArg₂ (· ++ ·) h.constants_eq h'.constants_eq
    unfold constantOperands at hconstants ⊢
    rw [List.filter_append, List.map_append, ← numberedFrom_append]
    exact hconstants
  aims := List.forall_mem_append.2
    ⟨fun i hi => (h.aims i hi).mono fun _ hj => hj.append_left h'.tiles,
      fun j hj => (h'.aims j hj).mono fun _ hj => hj.append_right is ws⟩

/-- A jump over some of the code after it, or over all of it. -/
lemma jump (j : Jump) (distance : Nat) (h : Block n k count (position + 2) is ws)
    (hboundary : Boundary (position + 2) is ws (position + distance + 1)) :
    Block n k count position (⟨position, .jump j, some (Int32.ofNat distance)⟩ :: is)
      ([(Opcode.jump j).word, Int32.ofNat distance] ++ ws) where
  tiles := .cons (i := ⟨position, .jump j, some (Int32.ofNat distance)⟩) rfl h.tiles
  inner := List.forall_mem_cons.2 ⟨⟨rfl, nofun⟩, h.inner⟩
  constants_eq := h.constants_eq
  aims := List.forall_mem_cons.2
    ⟨fun _ => ⟨distance, rfl, Boundary.append_right [_] [_, _] hboundary⟩,
      fun i hi => (h.aims i hi).mono fun _ hj => Boundary.append_right [_] [_, _] hj⟩

/-- The jumps of code that is not too long go forward to where they aim. -/
lemma lands (h : Block n k count position is ws) (hlength : ws.length ≤ 2 ^ 31) :
    ∀ i ∈ is, i.Lands (Boundary position is ws) := by
  intro i hi
  refine (h.aims i hi).lands fun j hj => ?_
  have hle := hj.le h.tiles
  obtain ⟨before, -, -, hposition⟩ := h.tiles.exists_split hi
  omega

end Block

namespace WellLaid

/-- No words. -/
lemma nil : WellLaid n k 0 [] :=
  fun _ => ⟨[], .nil, nofun, rfl, nofun⟩

/-- Words after other words. -/
lemma append (h : WellLaid n k count ws) (h' : WellLaid n (k + count) count' us) :
    WellLaid n k (count + count') (ws ++ us) := by
  intro position
  obtain ⟨is, his⟩ := h position
  obtain ⟨js, hjs⟩ := h' (position + ws.length)
  exact ⟨is ++ js, his.append hjs⟩

/-- An instruction without an operand word. -/
lemma short (op : Opcode) (hoperand : op.hasOperand = false) (hinner : op.isInner = true) :
    WellLaid n k 0 [op.word] := by
  intro position
  have hjump : op.isJump = false := by
    cases op with
    | jump j => cases hoperand
    | _ => rfl
  have hslot : op.selectsSlot = false := by
    cases op with
    | pushVar | loadVar | storeVar => cases hoperand
    | _ => rfl
  have hconstant : op.selectsConstant = false := by
    cases op with
    | pushConst | loadConst => cases hoperand
    | _ => rfl
  refine ⟨_, Block.single position none hoperand.symm hinner hjump ?_ ?_⟩
  · simp [hslot]
  · simp [constantOperands, hconstant, numberedFrom]

/-- An instruction that selects a slot. -/
lemma slot (op : Opcode) (hop : op.selectsSlot = true) {slot : Nat} (hslot : slot < n) :
    WellLaid n k 0 [op.word, Int32.ofNat slot] := by
  intro position
  cases op with
  | pushVar | loadVar | storeVar =>
    exact ⟨_, Block.single position (some (Int32.ofNat slot)) rfl rfl rfl
      (fun _ => ⟨slot, hslot, rfl⟩) rfl⟩
  | _ => cases hop

/-- An instruction that selects a constant. -/
lemma constant (op : Opcode) (hop : op.selectsConstant = true) :
    WellLaid n k 1 [op.word, Int32.ofNat k] := by
  intro position
  cases op with
  | pushConst | loadConst =>
    exact ⟨_, Block.single position (some (Int32.ofNat k)) rfl rfl rfl nofun rfl⟩
  | _ => cases hop

/-- The push of a value, if there is one. -/
lemma pushWords (push : Bool) : WellLaid n k 0 (Expr.pushWords push) := by
  cases push with
  | false => exact nil
  | true => exact short .push rfl rfl

/-- Words, and then the push of their value if there is one. -/
lemma pushed (h : WellLaid n k count ws) (push : Bool) :
    WellLaid n k count (ws ++ Expr.pushWords push) :=
  h.append (pushWords push)

/-- Words, and then an instruction without an operand word. -/
lemma thenShort (h : WellLaid n k count ws) (op : Opcode) (hoperand : op.hasOperand = false)
    (hinner : op.isInner = true) : WellLaid n k count (ws ++ [op.word]) :=
  h.append (short op hoperand hinner)

/-- A load, which is fused with the push after it or not. -/
lemma loadWords {load fused : Opcode} {operand : Int32}
    (hload : WellLaid n k count [load.word, operand])
    (hfused : WellLaid n k count [fused.word, operand]) :
    WellLaid n k count (Expr.loadWords optimize push load fused operand) := by
  unfold Expr.loadWords
  split
  · exact hfused
  · exact hload.pushed push

/-- A jump over the words after it. -/
lemma jumpOver (j : Jump) (h : WellLaid n k count ws) :
    WellLaid n k count ([(Opcode.jump j).word, Int32.ofNat (ws.length + 1)] ++ ws) := by
  intro position
  obtain ⟨is, his⟩ := h (position + 2)
  exact ⟨_, his.jump j _ (.inl (by omega))⟩

/-- Two branches: a jump leads to the second one, and a jump at the end of the first one leads over
it. -/
lemma branches (j : Jump) (h : WellLaid n k count ws) (h' : WellLaid n (k + count) count' us) :
    WellLaid n k (count + count')
      ([(Opcode.jump j).word, Int32.ofNat (ws.length + 3)] ++ ws ++
        [(Opcode.jump .always).word, Int32.ofNat (us.length + 1)] ++ us) := by
  intro position
  obtain ⟨is, his⟩ := h (position + 2)
  obtain ⟨js, hjs⟩ := h' (position + 2 + ws.length + 2)
  have hsecond := hjs.jump .always (us.length + 1) (.inl (by omega))
  have hboth := his.append hsecond
  -- The first jump goes to the words of the second branch, which are a boundary of both together.
  have hstart : Boundary (position + 2) (is ++ (⟨position + 2 + ws.length, .jump .always,
      some (Int32.ofNat (us.length + 1))⟩ :: js))
      (ws ++ ([(Opcode.jump .always).word, Int32.ofNat (us.length + 1)] ++ us))
      (position + (ws.length + 3) + 1) := by
    refine Boundary.append_right is ws (Boundary.append_right [_] [_, _] ?_)
    convert hjs.tiles.boundary_start using 1
    simp only [List.length_cons, List.length_nil]
    omega
  have hblock := hboth.jump j _ hstart
  simp only [List.append_assoc] at hblock ⊢
  exact ⟨_, hblock⟩

end WellLaid

namespace Expr

/-- The words of an expression are instructions, with the constants of the expression. -/
theorem wellLaid (optimize : Bool) {e : Expr} (hslots : e.SlotsBelow n) (push : Bool) (k : Nat) :
    WellLaid n k e.constants.length (e.words optimize push k) := by
  induction e generalizing push k with
  | const x => exact .loadWords (.constant .loadConst rfl) (.constant .pushConst rfl)
  | param slot => exact .loadWords (.slot .loadVar rfl hslots) (.slot .pushVar rfl hslots)
  | assign slot e ih =>
    obtain ⟨hslot, he⟩ := hslots
    have hvalue := ih he false k
    exact (hvalue.append (.slot .storeVar rfl hslot)).pushed push
  | unary op e ih =>
    have hvalue := ih hslots false k
    exact (hvalue.thenShort (.unary op) rfl rfl).pushed push
  | binary op l r ihl ihr =>
    obtain ⟨hl, hr⟩ := hslots
    have hleft := ihl hl true k
    have hright := ihr hr false (k + l.constants.length)
    rw [constants, List.length_append]
    exact ((hleft.append hright).thenShort (.binary op) rfl rfl).pushed push
  | logical op l r ihl ihr =>
    obtain ⟨hl, hr⟩ := hslots
    have hleft := ihl hl true k
    have hright := ihr hr false (k + l.constants.length)
    have hskip := hright.jumpOver op.skip
    rw [constants, List.length_append]
    exact ((hleft.append hskip).thenShort (.logical op) rfl rfl).pushed push
  | sequence a b iha ihb =>
    obtain ⟨ha, hb⟩ := hslots
    have hfirst := iha ha false k
    have hsecond := ihb hb push (k + a.constants.length)
    rw [constants, List.length_append]
    exact hfirst.append hsecond
  | conditional c yes no ihc ihyes ihno =>
    obtain ⟨hc, hyes, hno⟩ := hslots
    have hcondition := ihc hc false k
    have hfirst := ihyes hyes false (k + c.constants.length)
    have hsecond := ihno hno false (k + c.constants.length + yes.constants.length)
    have hbranches := hfirst.branches .ifFalse hsecond
    rw [constants, List.length_append, List.length_append, Nat.add_assoc]
    exact (hcondition.append hbranches).pushed push
  | call1 f a ih =>
    have harg := ih hslots true k
    exact (harg.thenShort (.call (.one f)) rfl rfl).pushed push
  | call2 f a b iha ihb =>
    obtain ⟨ha, hb⟩ := hslots
    have hfirst := iha ha true k
    have hsecond := ihb hb true (k + a.constants.length)
    rw [constants, List.length_append]
    exact ((hfirst.append hsecond).thenShort (.call (.two f)) rfl rfl).pushed push
  | numberFormat a b c iha ihb ihc =>
    obtain ⟨ha, hb, hc⟩ := hslots
    have hfirst := iha ha true k
    have hsecond := ihb hb true (k + a.constants.length)
    have hthird := ihc hc true (k + a.constants.length + b.constants.length)
    rw [constants, List.length_append, List.length_append]
    refine WellLaid.pushed (.thenShort ?_ (.call .numberFormat) rfl rfl) push
    refine (hfirst.append hsecond).append ?_
    rw [← Nat.add_assoc]
    exact hthird

end Expr

end Formula
