import Formula.Proofs.Grammar

/-!
# What the grammar has is accepted

A parser for a category reads every phrase of it that is within the limits of its place, up to its
end and no further. A phrase ends where the next token cannot go on with it; for a chain that is a
matter of its own level and of the tighter ones inside. While a chain is still going on, its parser
stands in its loop, so the induction says what the parser has left to do after the phrase
(`Category.resume`) and not that it is finished.
-/

namespace Formula
open Formula.Parser

namespace Category

/-- Whether a phrase of a category is at its end before an operator or punctuation. -/
def endsBefore : Category → String → Bool
  | .expression, text =>
    text != "=" && Level.operators.all fun level => (level.lookup text).isNone
  | .chain level c, text => (level.lookup text).isNone && c.endsBefore text
  | .operand, _ | .atom, _ => true

/-- The tokens on which a phrase of a category is at its end. -/
def Stops (c : Category) (rest : List Token) : Prop :=
  ∀ text us, rest = .sign text :: us → c.endsBefore text = true

/-- Whether the operators of every chain end its operands. -/
def separated : Category → Bool
  | .chain level c => level.all (fun (text, _) => c.endsBefore text) && c.separated
  | .expression | .operand | .atom => true

/-- What the loop of a parser works on: the operands of a chain, or the phrase itself. -/
def unit : Category → Category
  | .chain _ c => c
  | c => c

/-- The parser for a category in a place with a number of levels of nesting left. -/
def parser (allowed : Bool) (room : Nat) (s : Scope) : Category → Parser Expr
  | .expression => Parser.expression allowed room s
  | .chain level c => Parser.chain level (c.parser allowed room s)
  | .operand => Parser.operand allowed room s
  | .atom =>
    Parser.atom s (Parser.expression allowed room (s.condition allowed))
      (Parser.expression allowed room s.parens)

/-- What the parser for a category does after it has read a phrase: a chain goes on with its loop,
and any other phrase is finished. -/
def resume (allowed : Bool) (room : Nat) (s : Scope) :
    Category → Expr → List Token → Except Failure (Expr × List Token)
  | .chain level c, e, rest => Parser.runChain level (c.parser allowed room s) e rest
  | _, e, rest => .ok (e, rest)

variable {allowed : Bool} {room : Nat} {s : Scope} {c : Category} {rest : List Token}

/-- The end of the tokens ends every phrase. -/
lemma stops_nil : c.Stops [] :=
  nofun

/-- Punctuation ends the phrases that end before it. -/
lemma stops_sign_iff {text : String} : c.Stops (.sign text :: rest) ↔ c.endsBefore text = true := by
  refine ⟨?_, ?_⟩
  · intro h
    exact h text rest rfl
  · intro h _ _ he
    cases he
    exact h

/-- Where a phrase is at its end, its parts are as well. -/
lemma Stops.unit (h : c.Stops rest) : c.unit.Stops rest := by
  cases c with
  | chain level c =>
    intro text us hrest
    exact (Bool.and_eq_true_iff.1 (h text us hrest)).2
  | _ => exact h

/-- An expression ends where operands with operators end, unless an equals sign follows. -/
lemma endsBefore_expression (text : String) :
    expression.endsBefore text = (text != "=" && operation.endsBefore text) := by
  simp [endsBefore, operation, Level.operators]

/-- At the end of a phrase its parser is finished. -/
lemma resume_of_stops {e : Expr} (h : c.Stops rest) :
    c.resume allowed room s e rest = .ok (e, rest) := by
  cases c with
  | chain level c =>
    apply Parser.runChain_of_operator?_eq_none
    rintro t us rfl
    cases hop : Parser.operator? level t with
    | none => rfl
    | some op =>
      obtain ⟨text, rfl, hlookup⟩ := Parser.operator?_eq_some_iff.1 hop
      have hend := (Bool.and_eq_true_iff.1 (stops_sign_iff.1 h)).1
      simp [hlookup] at hend
  | _ => rfl

/-- A comma ends an expression. -/
lemma stops_comma (rest : List Token) : expression.Stops (.sign "," :: rest) :=
  stops_sign_iff.2 (by decide)

/-- A closing parenthesis ends an expression. -/
lemma stops_close (rest : List Token) : expression.Stops (.sign ")" :: rest) :=
  stops_sign_iff.2 (by decide)

/-- An operator of a chain ends its operands. -/
lemma endsBefore_of_lookup {level : Level} {text : String} {op : Infix}
    (h : (chain level c).separated = true) (hop : level.lookup text = some op) :
    c.endsBefore text = true := by
  obtain ⟨l₁, l₂, rfl, -⟩ := List.lookup_eq_some_iff.1 hop
  have hall := (Bool.and_eq_true_iff.1 h).1
  rw [List.all_eq_true] at hall
  exact hall (text, op) (by simp)

/-- The operators of the levels are told apart. -/
lemma separated_operation : operation.separated = true := by
  decide

/-- The comma ends an expression. -/
lemma separated_sequence : sequence.separated = true := by
  decide

end Category

/-- The name of a constant is no name of a function. -/
lemma Catalogue.callee?_of_constant?_eq_some {name : String} {value : Float}
    (h : Catalogue.constant? name = some value) : Catalogue.callee? name = none := by
  obtain ⟨l₁, l₂, hconst, -⟩ := List.lookup_eq_some_iff.1 h
  have hmem : name ∈ Catalogue.constants.map (·.1) := by simp [hconst]
  have hnames : ∀ n ∈ Catalogue.constants.map (·.1), Catalogue.callee? n = none := by decide
  exact hnames name hmem

namespace Derives

variable {ps : Parameters} {c : Category} {ts rest : List Token} {r : Reading}

/-- There are tokens in every phrase. -/
lemma ne_nil (h : Derives ps c ts r) : ts ≠ [] := by
  induction h with
  | operation _ ih => exact ih
  | single _ ih => exact ih
  | atom _ ih => exact ih
  | _ => simp

/-- No phrase starts with a closing parenthesis. -/
lemma ne_close (h : Derives ps c ts r) (us : List Token) : ts ++ rest ≠ .sign ")" :: us := by
  induction h generalizing rest us with
  | single _ ih => exact ih us
  | more _ _ _ ih =>
    rw [List.append_assoc]
    exact ih us
  | operation _ ih => exact ih us
  | atom _ ih => exact ih us
  | prefixed hop _ _ =>
    intro he
    cases he
    cases hop
  | _ => simp

/-- Where a phrase without an assignment of its own starts with a name, an equals sign does not
come next inside of it. -/
lemma eq_sign_of_append (h : Derives ps c ts r) (hc : c.endsBefore "=" = true) {name : String}
    {us : List Token} (he : ts ++ rest = .word name :: .sign "=" :: us) :
    rest = .sign "=" :: us := by
  induction h generalizing rest us with
  | assign => cases hc
  | operation => cases hc
  | single _ ih => exact ih (Bool.and_eq_true_iff.1 hc).2 he
  | more _ hop _ ih =>
    rw [List.append_assoc] at he
    cases ih hc he
    simp [Category.endsBefore, hop] at hc
  | atom _ ih => exact ih rfl he
  | constant =>
    cases he
    rfl
  | param =>
    cases he
    rfl
  | _ => simp at he

/-- No prefix operator starts an atom. -/
lemma atom_head (h : Derives ps .atom ts r) (rest : List Token) :
    (∀ us, ts ++ rest ≠ .sign "+" :: us) ∧
      Parser.unaryOperator? ((ts ++ rest).headD .finished) = none := by
  cases h <;> simp [Parser.unaryOperator?, UnaryOp.ofSign?]

/-- The parser of a category reads its phrases, and is left with what its loop has to do after
them. -/
lemma run_category (h : Derives ps c ts r) (hsep : c.separated = true) {allowed : Bool} {room : Nat}
    {s : Scope} (hs : s.parameters = ps) (hadm : r.Admitted allowed room s.noAssignment)
    (hstop : c.unit.Stops rest) :
    (c.parser allowed room s).run (ts ++ rest) = c.resume allowed room s r.tree rest := by
  -- Along the derivation the room shrinks where levels open, and the scope where parentheses do.
  induction h generalizing room s rest with
  | @assign name slot ts r hslot _ ih =>
    cases room with
    | zero => exact (Reading.not_admitted_nest_zero hadm).elim
    | succ room =>
      obtain ⟨hno, hadm⟩ := Reading.admitted_assign_iff.1 (Reading.admitted_nest_iff.1 hadm)
      have hv := ih rfl hs hadm hstop
      exact run_expression_iff.2 (.inl ⟨name, ts ++ rest, slot, r.tree, rfl, hs ▸ hslot, hno, hv, rfl⟩)
  | @operation ts r hd ih =>
    cases room with
    | zero => exact (Reading.not_admitted_nest_zero hadm).elim
    | succ room =>
      have hstop : Category.expression.Stops rest := hstop
      have hrest : ∀ us, rest ≠ .sign "=" :: us := by
        rintro us rfl
        exact absurd (Category.stops_sign_iff.1 hstop) (by decide)
      have hops : Category.operation.Stops rest := by
        intro text us he
        have hend := hstop text us he
        rw [Category.endsBefore_expression] at hend
        exact (Bool.and_eq_true_iff.1 hend).2
      -- The parser must not take the phrase for an assignment by its first two tokens.
      have hnone : assigned? s (ts ++ rest) = none := by
        cases hassigned : assigned? s (ts ++ rest) with
        | none => rfl
        | some slot =>
          obtain ⟨name, us, he, -⟩ := assigned?_eq_some_iff.1 hassigned
          exact (hrest us (hd.eq_sign_of_append (by decide) he)).elim
      have hrun := ih Category.separated_operation hs (Reading.admitted_nest_iff.1 hadm) hops.unit
      rw [Category.resume_of_stops hops] at hrun
      exact run_expression_iff.2 (.inr ⟨hnone, run_operation_iff.2 ⟨hrun, hrest⟩⟩)
  | @single level c ts r _ ih =>
    have hstop : c.Stops rest := hstop
    have hrun := ih (Bool.and_eq_true_iff.1 hsep).2 hs hadm hstop.unit
    rw [Category.resume_of_stops hstop] at hrun
    exact run_bind_of_ok hrun
  | @more level c text op ts us r t _ hop _ ih₁ ih₂ =>
    have hstop : c.Stops rest := hstop
    obtain ⟨hadm₁, hadm₂⟩ := Reading.admitted_join_iff.1 hadm
    -- The operator stops the operand on its left, though not the chain that it goes on with.
    have hop' : (Category.chain level c).unit.Stops (.sign text :: us ++ rest) :=
      Category.stops_sign_iff.2 (Category.endsBefore_of_lookup hsep hop)
    have hleft := ih₁ hsep hs hadm₁ hop'
    have hright := ih₂ (Bool.and_eq_true_iff.1 hsep).2 hs hadm₂ hstop.unit
    rw [Category.resume_of_stops hstop] at hright
    rw [List.append_assoc, hleft]
    exact runChain_of_lookup hop hright
  | @plus ts r _ ih =>
    cases room with
    | zero => exact (Reading.not_admitted_nest_zero hadm).elim
    | succ room =>
      have hrun := ih rfl hs (Reading.admitted_nest_iff.1 hadm) hstop
      exact run_operand_iff.2 (.inl ⟨ts ++ rest, rfl, hrun⟩)
  | @prefixed text op ts r hop _ ih =>
    cases room with
    | zero => exact (Reading.not_admitted_nest_zero hadm).elim
    | succ room =>
      have hadm := Reading.admitted_map_iff.1 (Reading.admitted_nest_iff.1 hadm)
      have hrun := ih rfl hs hadm hstop
      exact run_operand_iff.2 (.inr (.inl ⟨text, op, ts ++ rest, r.tree, rfl, hop, hrun, rfl⟩))
  | @atom ts r hd ih =>
    cases room with
    | zero => exact (Reading.not_admitted_nest_zero hadm).elim
    | succ room =>
      have hrun := ih rfl hs (Reading.admitted_nest_iff.1 hadm) hstop
      obtain ⟨hplus, hnone⟩ := hd.atom_head rest
      exact run_operand_iff.2 (.inr (.inr ⟨hplus, hnone, hrun⟩))
  | number => exact run_atom_number
  | hexNumber => exact run_atom_hexNumber
  | constant hvalue =>
    exact run_identifier_constant (Catalogue.callee?_of_constant?_eq_some hvalue) hvalue
  | @param name slot hcallee hconst hslot =>
    exact run_identifier_param hcallee hconst (hs ▸ hslot)
  | @parenthesis ts r _ ih =>
    have hstop' : Category.sequence.Stops (.sign ")" :: rest) :=
      Category.stops_sign_iff.2 (by decide)
    have hrun := ih Category.separated_sequence (s := s.parens) hs hadm hstop'.unit
    rw [Category.resume_of_stops hstop'] at hrun
    have he : .sign "(" :: (ts ++ [.sign ")"]) ++ rest = .sign "(" :: (ts ++ .sign ")" :: rest) := by
      simp
    rw [he]
    exact run_atom_sign_iff.2 ⟨rfl, hrun⟩
  | @call1 name f as a hf hd ih =>
    have ha := ih rfl (s := s.parens) hs (Reading.admitted_map_iff.1 hadm) (Category.stops_close rest)
    have hcall : (call (expression allowed room s.parens) (.one f)).run
        (.sign "(" :: (as ++ .sign ")" :: rest)) = .ok (.call1 f a.tree, rest) :=
      run_call_iff.2 ⟨_, rfl, hd.ne_close, run_arguments_one_iff.2 ⟨_, ha, rfl⟩⟩
    have he : .word name :: .sign "(" :: (as ++ [.sign ")"]) ++ rest =
        .word name :: .sign "(" :: (as ++ .sign ")" :: rest) := by simp
    rw [he]
    exact (run_identifier_function hf).trans hcall
  | @call2 name f as bs a b hf hd _ iha ihb =>
    obtain ⟨hadma, hadmb⟩ := Reading.admitted_join_iff.1 hadm
    have ha := iha rfl (s := s.parens) hs hadma
      (Category.stops_comma (bs ++ .sign ")" :: rest))
    have hb := ihb rfl (s := s.parens) hs hadmb (Category.stops_close rest)
    have hcall : (call (expression allowed room s.parens) (.two f)).run
        (.sign "(" :: (as ++ .sign "," :: (bs ++ .sign ")" :: rest))) =
          .ok (.call2 f a.tree b.tree, rest) :=
      run_call_iff.2 ⟨_, rfl, hd.ne_close, run_arguments_two_iff.2 ⟨_, _, _, ha, hb, rfl⟩⟩
    have he : .word name :: .sign "(" :: (as ++ .sign "," :: (bs ++ [.sign ")"])) ++ rest =
        .word name :: .sign "(" :: (as ++ .sign "," :: (bs ++ .sign ")" :: rest)) := by simp
    rw [he]
    exact (run_identifier_function hf).trans hcall
  | @numberFormat name as bs cs a b c hf hd _ _ iha ihb ihc =>
    obtain ⟨hadma, hadmb, hadmc⟩ := Reading.admitted_join3_iff.1 hadm
    have ha := iha rfl (s := s.parens) hs hadma
      (Category.stops_comma (bs ++ .sign "," :: (cs ++ .sign ")" :: rest)))
    have hb := ihb rfl (s := s.parens) hs hadmb
      (Category.stops_comma (cs ++ .sign ")" :: rest))
    have hc := ihc rfl (s := s.parens) hs hadmc (Category.stops_close rest)
    have hcall : (call (expression allowed room s.parens) .numberFormat).run
        (.sign "(" :: (as ++ .sign "," :: (bs ++ .sign "," :: (cs ++ .sign ")" :: rest)))) =
          .ok (.numberFormat a.tree b.tree c.tree, rest) :=
      run_call_iff.2
        ⟨_, rfl, hd.ne_close, run_arguments_numberFormat_iff.2 ⟨_, _, _, _, _, ha, hb, hc, rfl⟩⟩
    have he : .word name :: .sign "(" ::
        (as ++ .sign "," :: (bs ++ .sign "," :: (cs ++ [.sign ")"]))) ++ rest =
        .word name :: .sign "(" ::
          (as ++ .sign "," :: (bs ++ .sign "," :: (cs ++ .sign ")" :: rest))) := by simp
    rw [he]
    exact (run_identifier_function hf).trans hcall
  | @conditional name cs ys ns c yes no hname _ _ _ ihc ihy ihn =>
    obtain ⟨hadmc, hadmy, hadmn⟩ := Reading.admitted_conditional_iff.1 hadm
    have hc := ihc rfl (s := s.condition allowed) hs hadmc
      (Category.stops_comma (ys ++ .sign "," :: (ns ++ .sign ")" :: rest)))
    have hy := ihy rfl (s := s.parens) hs hadmy
      (Category.stops_comma (ns ++ .sign ")" :: rest))
    have hn := ihn rfl (s := s.parens) hs hadmn (Category.stops_close rest)
    have hcond : (Parser.conditional (expression allowed room (s.condition allowed))
        (expression allowed room s.parens)).run
        (.sign "(" :: (cs ++ .sign "," :: (ys ++ .sign "," :: (ns ++ .sign ")" :: rest)))) =
          .ok (.conditional c.tree yes.tree no.tree, rest) :=
      run_conditional_iff.2 ⟨_, _, _, _, _, _, rfl, hc, hy, hn, rfl⟩
    have he : .word name :: .sign "(" ::
        (cs ++ .sign "," :: (ys ++ .sign "," :: (ns ++ [.sign ")"]))) ++ rest =
        .word name :: .sign "(" ::
          (cs ++ .sign "," :: (ys ++ .sign "," :: (ns ++ .sign ")" :: rest))) := by simp
    rw [he]
    exact (run_identifier_conditional hname).trans hcond

/-- An expression that is within the limits of its place is read to its end. -/
theorem run_expression {s : Scope} (h : Derives s.parameters .expression ts r) {allowed : Bool}
    {room : Nat} (hadm : r.Admitted allowed room s.noAssignment)
    (hstop : Category.expression.Stops rest) :
    (expression allowed room s).run (ts ++ rest) = .ok (r.tree, rest) :=
  h.run_category rfl rfl hadm hstop

/-- A list of tokens is an expression in one way at most. -/
theorem tree_unique {r' : Reading} (h : Derives ps .expression ts r)
    (h' : Derives ps .expression ts r') : r.tree = r'.tree := by
  have hrun {r : Reading} (h : Derives ps .expression ts r) {room : Nat} (hr : r.levels ≤ room) :
      (expression true room { parameters := ps }).run (ts ++ []) = .ok (r.tree, []) :=
    run_expression (s := { parameters := ps }) h ⟨hr, nofun, nofun⟩ Category.stops_nil
  -- With room for both derivations, both say what the same run returns.
  have he := (hrun h (Nat.le_max_left _ r'.levels)).symm.trans (hrun h' (Nat.le_max_right _ _))
  simpa using he

end Derives

end Formula
