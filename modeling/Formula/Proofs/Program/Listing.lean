import Formula.Program.Listing
import Formula.Proofs.Correctness
import Formula.Proofs.LongJump
import Formula.Proofs.Machine.Boundary
import Formula.Proofs.Program.Walk

/-!
# The two listings of a program

The plain listing has a line for every item of the walk over a program, and the marked one has the
same lines behind their marks. The arrow stands exactly at the places that the decoded jumps go to,
in exact integers (`Program.IsJumpTarget`). In a compiled program such a place is always one of a
line (`listings_agree`), unless the distance of the jump is more than a word can tell
(`listings_agree_not_long`).
-/

namespace Formula

namespace Text

/-- A text that does not end with a blank stays as it is. -/
lemma trimEnd_eq {text : String} (h : text.toList.getLast? ≠ some ' ') : trimEnd text = text := by
  have hdrop : text.toList.reverse.dropWhile (· == ' ') = text.toList.reverse := by
    cases hreverse : text.toList.reverse with
    | nil => rfl
    | cons c rest =>
      rw [List.getLast?_eq_head?_reverse, hreverse] at h
      have hc : (c == ' ') = false := beq_eq_false_iff_ne.2 fun heq => h (congrArg some heq)
      simp [hc]
  rw [trimEnd, hdrop, List.reverse_reverse, String.ofList_toList]

/-- A natural number is told by digits. -/
lemma isDigit_of_mem_toString {c : Char} {n : ℕ} (h : c ∈ (toString n).toList) : c.isDigit = true := by
  rw [Nat.toString_eq_ofList_toDigits, String.toList_ofList] at h
  exact Nat.isDigit_of_mem_toDigits (by decide) (by decide) h

/-- A text that ends with a natural number does not end with a blank. -/
lemma getLast?_append_toString_nat (text : String) (n : ℕ) :
    (text ++ toString n).toList.getLast? ≠ some ' ' := by
  have hne : (toString n).toList ≠ [] := by
    rw [Nat.toString_eq_ofList_toDigits, String.toList_ofList]
    exact Nat.toDigits_ne_nil
  intro hlast
  rw [String.toList_append, List.getLast?_append_of_ne_nil _ hne] at hlast
  cases isDigit_of_mem_toString (List.mem_of_getLast? hlast)

/-- A text that ends with a number does not end with a blank. -/
lemma getLast?_append_toString (text : String) (z : ℤ) :
    (text ++ toString z).toList.getLast? ≠ some ' ' := by
  cases z with
  | ofNat n => exact getLast?_append_toString_nat text n
  | negSucc n =>
    have hsign : text ++ toString (Int.negSucc n) = text ++ "-" ++ toString (n + 1) :=
      String.append_assoc.symm
    rw [hsign]
    exact getLast?_append_toString_nat _ _

end Text

/-- The place that a jump goes to, by its position and its operand. -/
lemma Instruction.target?_eq_some_iff {i : Instruction} {target : ℤ} : i.target? = some target ↔
    ∃ j o, i.op = .jump j ∧ i.operand = some o ∧ (i.position : ℤ) + o.toInt + 1 = target := by
  obtain ⟨position, op, operand⟩ := i
  constructor
  · intro h
    cases op with
    | jump j =>
      cases operand with
      | none => cases h
      | some o => exact ⟨j, o, rfl, rfl, Option.some.inj h⟩
    | _ => cases h
  · rintro ⟨j, o, rfl, rfl, rfl⟩
    rfl

namespace Program

/-- A place that one of the decoded jumps goes to. -/
def IsJumpTarget (p : Program) (position : ℕ) : Prop :=
  ∃ i ∈ p.walk.instructions, ∃ j o, i.op = .jump j ∧ i.operand = some o ∧
    (i.position : ℤ) + o.toInt + 1 = position

/-- The line of an item of a walk. -/
def itemLine (p : Program) : Walk.Item → String
  | .instruction i => p.instructionLine i
  | .obstacle position obstacle => columns position "err" obstacle.reason

variable {p : Program} {i : Instruction}

/-- The places that the jumps go to are those that are collected. -/
lemma contains_jumpTargets_iff {position : ℕ} :
    p.jumpTargets.contains (position : ℤ) = true ↔ p.IsJumpTarget position := by
  simp only [List.contains_iff_mem, jumpTargets, List.mem_filterMap,
    Instruction.target?_eq_some_iff, IsJumpTarget]

instance (p : Program) (position : ℕ) : Decidable (p.IsJumpTarget position) :=
  decidable_of_iff _ contains_jumpTargets_iff

/-- A walk has a line for each of its items. -/
lemma walkLines_eq (p : Program) (w : Walk) :
    p.walkLines w = w.items.map fun item => (item.position, p.itemLine item) := by
  induction w with
  | step i rest ih =>
    rw [walkLines, ih]
    rfl
  | done position => rfl
  | stuck position obstacle => rfl

/-- The plain listing of a program with an instruction. -/
lemma listing_eq (hsize : 2 ≤ p.code.size) : p.listing =
    ["-- Header --", s!"Parameters={p.code[0]?.getD 0}", "-- Code --"] ++
      p.walk.items.map p.itemLine := by
  have hne : p.isEmpty = false := decide_eq_false (by omega)
  rw [listing, hne, walkLines_eq, List.map_map]
  rfl

/-- The marked listing of a program with an instruction. -/
lemma markedListing_eq (hsize : 2 ≤ p.code.size) : p.markedListing =
    s!"-- Parameters={p.code[0]?.getD 0} --" :: p.walk.items.map fun item =>
      (if p.IsJumpTarget item.position then "► " else "  ") ++ p.itemLine item := by
  have hne : p.isEmpty = false := decide_eq_false (by omega)
  rw [markedListing, hne, walkLines_eq]
  simp only [Bool.false_eq_true, if_false, List.map_map, contains_jumpTargets_iff]
  rfl

/-- The line of a jump shows the place that the jump goes to. -/
lemma instructionLine_of_target {target : ℤ} (h : i.target? = some target) :
    p.instructionLine i = columns i.position i.op.mnemonic (toString target) := by
  have htext : p.operandText i = toString target := by
    obtain ⟨j, o, hop, -, -⟩ := Instruction.target?_eq_some_iff.1 h
    simp only [operandText, hop, h]
    rfl
  rw [instructionLine, htext]
  exact Text.trimEnd_eq (Text.getLast?_append_toString _ target)

/-- A compiled jump aims at the place of an item. -/
lemma exists_aim {text : String} {options : CompileOptions}
    (hcompile : compile text options = .ok p) (hi : i ∈ p.walk.instructions)
    (hjump : i.op.isJump = true) :
    ∃ distance, i.operand = some (Int32.ofNat distance) ∧
      ∃ j ∈ p.walk.instructions, j.position = i.position + distance + 1 := by
  obtain ⟨clauses, parameters, e, -, -, hbody, rfl⟩ := compile_eq_ok_iff.1 hcompile
  obtain ⟨r, hr, rfl, -⟩ := parseBody_eq_ok_iff.1 hbody
  obtain ⟨is, hblock⟩ := Expr.wellLaid options.optimize hr.slotsBelow false 0 1
  obtain ⟨hinstructions, -⟩ :=
    Expr.walk_program (n := parameters.size) hblock.tiles hblock.inner
  rw [hinstructions] at hi ⊢
  rcases List.mem_append.1 hi with hi | hi
  · obtain ⟨distance, hoperand, hboundary⟩ := hblock.aims i hi hjump
    exact ⟨distance, hoperand, Expr.exists_instruction hboundary⟩
  · rw [List.mem_singleton.1 hi] at hjump
    cases hjump

/-- Both listings have the same lines, one for each item of the walk, and those of the marked one
are behind two characters: the arrow for the places that jumps go to, and blanks for others. The
jumps of a compiled program aim at the places of later lines. If the distance fits into a word, a
jump shows the place that it aims at, and the line there is marked with the arrow. -/
theorem listings_agree (hsize : 2 ≤ p.code.size) :
    p.listing = ["-- Header --", s!"Parameters={p.code[0]?.getD 0}", "-- Code --"] ++
      p.walk.items.map p.itemLine ∧
    p.markedListing = s!"-- Parameters={p.code[0]?.getD 0} --" :: p.walk.items.map (fun item =>
      (if p.IsJumpTarget item.position then "► " else "  ") ++ p.itemLine item) ∧
    ∀ text options, compile text options = .ok p →
      ∀ i ∈ p.walk.instructions, i.op.isJump = true →
        ∃ distance, i.operand = some (Int32.ofNat distance) ∧
          ∃ item ∈ p.walk.items, item.position = i.position + distance + 1 ∧
            (distance < 2 ^ 31 → p.IsJumpTarget item.position ∧ p.itemLine (.instruction i) =
              columns i.position i.op.mnemonic (toString item.position)) := by
  refine ⟨listing_eq hsize, markedListing_eq hsize, ?_⟩
  intro text options hcompile i hi hjump
  obtain ⟨distance, hoperand, j, hj, hposition⟩ := exists_aim hcompile hi hjump
  have hitem : .instruction j ∈ p.walk.items :=
    List.mem_append_left _ (List.mem_map_of_mem hj)
  refine ⟨distance, hoperand, .instruction j, hitem, hposition, ?_⟩
  intro hdistance
  have htarget := Instruction.target?_eq hjump hoperand hdistance
  rw [← hposition] at htarget
  exact ⟨⟨i, hi, Instruction.target?_eq_some_iff.1 htarget⟩, instructionLine_of_target htarget⟩

/-- The listings of a conditional, whose two jumps show the places of later lines. -/
theorem listings_agree_conditional :
    ∃ p, compile "\x7b|a|iif(a,1,2)\x7d" {} = .ok p ∧ 2 ≤ p.code.size ∧
      p.listing = ["-- Header --", s!"Parameters={p.code[0]?.getD 0}", "-- Code --"] ++
        p.walk.items.map p.itemLine ∧
      ∀ i ∈ p.walk.instructions, i.op.isJump = true →
        ∃ item ∈ p.walk.items, p.IsJumpTarget item.position ∧ p.itemLine (.instruction i) =
          columns i.position i.op.mnemonic (toString item.position) := by
  let p : Program := ⟨#[1, 5, 0, 29, 5, 4, 0, 28, 3, 4, 1, 54],
    #[4607182418800017408, 4611686018427387904]⟩
  have hcompile : compile "\x7b|a|iif(a,1,2)\x7d" {} = .ok p :=
    eq_ok_of_toOption (by decide +kernel)
  have hbound : ∀ item ∈ p.walk.items, item.position < 12 := by decide +kernel
  have hsize : 2 ≤ p.code.size := by decide
  obtain ⟨hlisting, -, hjumps⟩ := listings_agree hsize
  refine ⟨p, hcompile, hsize, hlisting, fun i hi hjump => ?_⟩
  obtain ⟨distance, -, item, hitem, hposition, hshown⟩ := hjumps _ _ hcompile i hi hjump
  have hlt := hbound item hitem
  exact ⟨item, hitem, hshown (by omega)⟩

/-- A jump over 2³¹ words shows a negative number, which is the place of no line. -/
theorem listings_agree_not_long :
    ∃ p, compile (LongJump.text (2 ^ 30)) {} = .ok p ∧ 2 ≤ p.code.size ∧
      ∃ i ∈ p.walk.instructions, i.op.isJump = true ∧
        p.itemLine (.instruction i) = columns i.position i.op.mnemonic "-2147483638" ∧
        ∀ item ∈ p.walk.items, toString item.position ≠ "-2147483638" := by
  obtain ⟨i, hi, hjump, -, htarget⟩ :=
    LongJump.exists_backward_jump (n := 2 ^ 30) (by decide) (by decide)
  have hplace : (2 * (2 ^ 30 : ℕ) + 10 - 2 ^ 32 : ℤ) = -2147483638 := by norm_num
  rw [hplace] at htarget
  refine ⟨_, LongJump.compile_text _, ?_, i, hi, hjump, instructionLine_of_target htarget, ?_⟩
  · rw [LongJump.size_code]
    exact Nat.le_add_left 2 _
  · intro item _ heq
    have hsign : '-' ∈ (toString item.position).toList := by
      rw [heq]
      decide
    cases Text.isDigit_of_mem_toString hsign

end Program

end Formula
