import Formula.Proofs.Correctness
import Formula.Proofs.Machine.Boundary
import Formula.Proofs.ParameterList

/-!
# Well-formedness of compiled programs

The code of a compiled formula is a header and instructions without a gap, of which only the last one
is the end (`compiled_wellFormed`). Its constants are those that the lexemes of the body stand for, in
their order. Since jumps land where instructions start, a run fetches only words that a walk decodes.
-/

namespace Formula

/-- The value of a lexeme that stands for a number by itself: a number, a hexadecimal number or the
name of a constant. -/
def Token.constantValue? (t : Token) : Option Float :=
  match t.kind with
  | .number => some (Parser.numberValue t.text.toList)
  | .hexNumber => some (Parser.hexValue t.text.toList)
  | .identifier => Catalogue.constant? t.text
  | _ => none

/-- A program over a number of parameters is in order, and has a pool of given values. -/
structure WellFormed (p : Program) (declared : Nat) (values : List Float) : Prop where
  paramCount_eq : p.paramCount? = some declared
  obstacle_eq : p.walk.obstacle? = none
  tiles : Tiles 1 p.walk.instructions (p.code.toList.drop 1)
  end_last : ∃ is, p.walk.instructions = is ++ [⟨p.code.size - 1, .endCode, none⟩] ∧
    ∀ i ∈ is, i.op ≠ .endCode
  op_ne : ∀ i ∈ p.walk.instructions, i.op ≠ .nothing ∧ i.op ≠ .conditional
  slot_lt : ∀ i ∈ p.walk.instructions, i.op.selectsSlot = true →
    ∃ slot < declared, i.operand.bind index? = some slot
  numbered : (p.walk.instructions.filter fun i => i.op.selectsConstant).map
    (fun i => i.operand.bind index?) = (List.range p.constants.size).map some
  constants_eq : p.constants.toList = values.map Float.toBits
  lands : ∀ i ∈ p.walk.instructions, i.op.isJump = true →
    ∃ j ∈ p.walk.instructions, i.target? = some (j.position : Int) ∧ i.position < j.position
  fetches : ∀ config args start n c, p.start config args = .ok start →
    Machine.Reaches p config start n c →
      ∃ i ∈ p.walk.instructions, i.position = c.position ∧ p.code[c.position]? = some i.op.word

/-- A parameter does not have the name of a constant. -/
lemma Parameters.constant?_of_slot? {clause : String} {ps : Parameters} (h : ofClause clause = .ok ps)
    {name : String} {slot : Nat} (hslot : ps.slot? name = some slot) :
    Catalogue.constant? name = none := by
  have hmem := List.mem_of_getElem? (slot?_eq_some_iff_first.1 hslot).1
  have hname := (ofClause_eq_ok_iff.1 h).2 name hmem
  have hreserved := mt Catalogue.isReserved_iff.1 (not_or.2 hname.2)
  simpa [Catalogue.isReserved] using hreserved

/-- The constants of two operands stand in the order of the operands. -/
lemma Infix.constants_join (op : Infix) (l r : Expr) :
    (op.join l r).constants = l.constants ++ r.constants := by
  cases op with
  | logical op => rfl
  | binary op => rfl
  | sequence => rfl

/-- The constants of a tree are the values of the lexemes that it was read from. -/
lemma Derives.constants_eq {ps : Parameters}
    (hps : ∀ name slot, ps.slot? name = some slot → Catalogue.constant? name = none)
    {c : Category} {ts : List Token} {r : Reading} (h : Derives ps c ts r) :
    r.tree.constants = (ts.filterMap Token.constantValue?).map Float.toBits := by
  have hsign (text : String) : (Token.sign text).constantValue? = none := rfl
  have hcall {name : String} {callee : Callee} (hname : Catalogue.callee? name = some callee) :
      (Token.word name).constantValue? = none := by
    cases hvalue : Catalogue.constant? name with
    | none => exact hvalue
    | some value =>
      rw [Catalogue.callee?_of_constant?_eq_some hvalue] at hname
      cases hname
  induction h with
  | @assign name slot ts r hslot _ ih =>
    have hname : (Token.word name).constantValue? = none := hps name slot hslot
    rw [List.filterMap_cons_none hname, List.filterMap_cons_none (hsign _)]
    exact ih
  | operation _ ih => exact ih
  | single _ ih => exact ih
  | more _ _ _ ihl ihr =>
    rw [List.filterMap_append, List.filterMap_cons_none (hsign _), List.map_append, ← ihl, ← ihr]
    exact Infix.constants_join _ _ _
  | plus _ ih =>
    rw [List.filterMap_cons_none (hsign _)]
    exact ih
  | prefixed _ _ ih =>
    rw [List.filterMap_cons_none (hsign _)]
    exact ih
  | atom _ ih => exact ih
  | number => rfl
  | hexNumber => rfl
  | @constant name value hvalue =>
    have hname : (Token.word name).constantValue? = some value := hvalue
    rw [List.filterMap_cons_some hname]
    rfl
  | @param name slot _ hconstant _ =>
    have hname : (Token.word name).constantValue? = none := hconstant
    rw [List.filterMap_cons_none hname]
    rfl
  | parenthesis _ ih =>
    rw [List.filterMap_cons_none (hsign _), List.filterMap_append,
      List.filterMap_cons_none (hsign _), List.filterMap_nil, List.append_nil]
    exact ih
  | call1 hname _ ih =>
    rw [List.filterMap_cons_none (hcall hname), List.filterMap_cons_none (hsign _),
      List.filterMap_append, List.filterMap_cons_none (hsign _), List.filterMap_nil,
      List.append_nil]
    exact ih
  | call2 hname _ _ iha ihb =>
    simp only [List.filterMap_cons_none (hcall hname), List.filterMap_cons_none (hsign _),
      List.filterMap_append, List.filterMap_nil, List.append_nil, List.map_append, ← iha, ← ihb]
    rfl
  | numberFormat hname _ _ _ iha ihb ihc =>
    simp only [List.filterMap_cons_none (hcall hname), List.filterMap_cons_none (hsign _),
      List.filterMap_append, List.filterMap_nil, List.append_nil, List.map_append, ← iha, ← ihb,
      ← ihc, ← List.append_assoc]
    rfl
  | conditional hname _ _ _ ihc ihyes ihno =>
    simp only [List.filterMap_cons_none (hcall hname), List.filterMap_cons_none (hsign _),
      List.filterMap_append, List.filterMap_nil, List.append_nil, List.map_append, ← ihc, ← ihyes,
      ← ihno, ← List.append_assoc]
    rfl

namespace Expr

variable {n : Nat} {optimize : Bool} {e : Expr}

/-- The operands that select constants are the numbers of the constants, if words hold them. -/
lemma map_index?_numberedFrom {count : Nat} (h : count ≤ 2 ^ 31) :
    (numberedFrom 0 count).map (·.bind index?) = (List.range count).map some := by
  unfold numberedFrom
  rw [List.map_map, ← List.range_eq_range']
  apply List.map_congr_left
  intro number hnumber
  exact index?_ofNat (Nat.lt_of_lt_of_le (List.mem_range.1 hnumber) h)

/-- The program of an expression is in order, if its positions and its slots fit into words. -/
theorem wellFormed_program (hslots : e.SlotsBelow n) (hn : n < 2 ^ 31)
    (hsize : (e.program optimize n).code.size ≤ 2 ^ 31) {values : List Float}
    (hvalues : e.constants = values.map Float.toBits) :
    WellFormed (e.program optimize n) n values := by
  rw [code_size_program] at hsize
  obtain ⟨is, hblock⟩ := wellLaid optimize hslots false 0 1
  obtain ⟨hinstructions, hobstacle⟩ := walk_program (n := n) hblock.tiles hblock.inner
  have hcount : e.constants.length ≤ 2 ^ 31 := by
    have := constants_length_le optimize e false 0
    omega
  have hall (P : Instruction → Prop) (his : ∀ i ∈ is, P i) (hend : P (e.lastInstruction optimize)) :
      ∀ i ∈ (e.program optimize n).walk.instructions, P i := by
    rw [hinstructions]
    exact List.forall_mem_append.2 ⟨his, List.forall_mem_singleton.2 hend⟩
  exact
    { paramCount_eq := paramCount?_program hn
      obstacle_eq := hobstacle
      tiles := by
        rw [hinstructions]
        exact tiles_program hblock.tiles
      end_last := by
        refine ⟨is, ?_, fun i hi => (hblock.inner i hi).op_ne rfl⟩
        rw [hinstructions, code_size_program, lastInstruction]
        congr 3
        omega
      op_ne := by
        refine hall _ (fun i hi => ?_) (by simp [lastInstruction])
        exact ⟨(hblock.inner i hi).op_ne rfl, (hblock.inner i hi).op_ne rfl⟩
      slot_lt := by
        refine hall _ (fun i hi hselects => ?_) (by simp [lastInstruction, Opcode.selectsSlot])
        obtain ⟨slot, hslot, hoperand⟩ := (hblock.inner i hi).slot_lt hselects
        refine ⟨slot, hslot, ?_⟩
        rw [hoperand, Option.bind_some, index?_ofNat (Nat.lt_trans hslot hn)]
      numbered := by
        have hnumbered := congrArg (List.map (·.bind index?)) hblock.constants_eq
        rw [map_index?_numberedFrom hcount, constantOperands, List.map_map] at hnumbered
        rw [hinstructions, List.filter_append]
        exact (congrArg (List.map _) (List.append_nil _)).trans hnumbered
      constants_eq := hvalues
      lands := by
        refine hall _ (fun i hi hjump => ?_) (by simp [lastInstruction, Opcode.isJump])
        obtain ⟨target, htarget⟩ := Instruction.exists_target (hblock.tiles.operand_isSome hi) hjump
        obtain ⟨place, rfl, hlt, hboundary⟩ := hblock.lands (by omega) i hi target htarget
        obtain ⟨j, hj, rfl⟩ := exists_instruction hboundary
        rw [hinstructions]
        exact ⟨j, hj, htarget, hlt⟩
      fetches := by
        intro config args start k c hstart hreaches
        obtain ⟨-, _, -, -, -, rfl⟩ := Program.start_eq_ok_iff.1 hstart
        obtain ⟨i, hi, hposition⟩ := reaches_instruction hblock (by omega) rfl hreaches
        rw [hinstructions, ← hposition]
        exact ⟨i, hi, rfl, (holds_program hblock.tiles hi).head⟩ }

end Expr

/-- The program of a short text is in order. It has as many parameters as the text declares, and the
constants that the lexemes of the body stand for. -/
theorem compiled_wellFormed {text : String} {options : CompileOptions} {p : Program}
    (hcompile : compile text options = .ok p) (hshort : Short text p) :
    ∃ clauses parameters, Clauses.ofText text = .ok clauses ∧
      Parameters.ofClause clauses.parameters = .ok parameters ∧
      WellFormed p parameters.size ((tokens clauses.body).filterMap Token.constantValue?) := by
  obtain ⟨clauses, parameters, e, hclauses, hparameters, hbody, rfl⟩ := compile_eq_ok_iff.1 hcompile
  obtain ⟨r, hr, rfl, -⟩ := parseBody_eq_ok_iff.1 hbody
  have hdeclares : Declares text parameters := ⟨clauses, hclauses, hparameters⟩
  refine ⟨clauses, parameters, hclauses, hparameters, ?_⟩
  refine Expr.wellFormed_program hr.slotsBelow (hshort.parameters_lt _ hdeclares)
    hshort.code_size_le ?_
  exact hr.constants_eq fun name slot => Parameters.constant?_of_slot? hparameters

/-- The program of a conditional, with a jump to each of the places after its branches, is in order. -/
theorem compiled_wellFormed_conditional :
    ∃ p, compile "\x7b|a|iif(a>0x1f,ce,2*a)\x7d" {} = .ok p ∧
      Short "\x7b|a|iif(a>0x1f,ce,2*a)\x7d" p ∧
      ∃ clauses parameters, Clauses.ofText "\x7b|a|iif(a>0x1f,ce,2*a)\x7d" = .ok clauses ∧
        Parameters.ofClause clauses.parameters = .ok parameters ∧
        WellFormed p parameters.size ((tokens clauses.body).filterMap Token.constantValue?) := by
  have hcompile : compile "\x7b|a|iif(a>0x1f,ce,2*a)\x7d" {} =
      .ok ⟨#[1, 2, 0, 4, 0, 20, 29, 5, 4, 1, 28, 6, 3, 2, 5, 0, 10, 54],
        #[4629418941960159232, 4613303445314885481, 4611686018427387904]⟩ :=
    eq_ok_of_toOption (by decide +kernel)
  have hdeclares : Declares "\x7b|a|iif(a>0x1f,ce,2*a)\x7d" ⟨["a"]⟩ :=
    ⟨⟨"a", "iif(a>0x1f,ce,2*a)"⟩, eq_ok_of_toOption (by decide +kernel),
      eq_ok_of_toOption (by decide +kernel)⟩
  have hshort : Short "\x7b|a|iif(a>0x1f,ce,2*a)\x7d"
      ⟨#[1, 2, 0, 4, 0, 20, 29, 5, 4, 1, 28, 6, 3, 2, 5, 0, 10, 54],
        #[4629418941960159232, 4613303445314885481, 4611686018427387904]⟩ :=
    .of_declares hdeclares (by decide) (by decide)
  exact ⟨_, hcompile, hshort, compiled_wellFormed hcompile hshort⟩

end Formula
