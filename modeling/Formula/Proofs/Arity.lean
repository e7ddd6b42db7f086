import Formula.Proofs.Compile
import Formula.Proofs.Except
import Formula.Proofs.Parser.Arguments

/-!
# The arity of calls

A call with arguments that compile on their own is compiled if and only if there are as many of them as
its function asks for; otherwise the failure says that there are too few or too many
(`compile_callText`). One call has a failure of another kind: a conditional without arguments misses its
condition, as it is read before any comma.
-/

namespace Formula
open Formula.Parser

/-- A phrase without an equals sign assigns nothing. -/
lemma Derives.assigns_eq_false {ps : Parameters} {c : Category} {ts : List Token} {r : Reading}
    (h : Derives ps c ts r) (hts : Token.sign "=" ∉ ts) :
    r.assigns = false ∧ r.conditionAssigns = false := by
  induction h with
  | assign => simp at hts
  | operation _ ih => exact ih hts
  | single _ ih => exact ih hts
  | more _ _ _ iha ihb =>
    simp only [List.mem_append, List.mem_cons, not_or] at hts
    simp [Reading.join, iha hts.1, ihb hts.2.2]
  | plus _ ih => exact ih (List.not_mem_of_not_mem_cons hts)
  | prefixed _ _ ih => exact ih (List.not_mem_of_not_mem_cons hts)
  | atom _ ih => exact ih hts
  | number | hexNumber | constant | param => exact ⟨rfl, rfl⟩
  | parenthesis _ ih =>
    simp only [List.mem_append, List.mem_cons, not_or] at hts
    exact ih hts.2.1
  | call1 _ _ ih =>
    simp only [List.mem_append, List.mem_cons, not_or] at hts
    exact ih hts.2.2.1
  | call2 _ _ _ iha ihb =>
    simp only [List.mem_append, List.mem_cons, not_or] at hts
    simp [Reading.join, iha hts.2.2.1, ihb hts.2.2.2.2.1]
  | numberFormat _ _ _ _ iha ihb ihc =>
    simp only [List.mem_append, List.mem_cons, not_or] at hts
    simp [Reading.join3, iha hts.2.2.1, ihb hts.2.2.2.2.1, ihc hts.2.2.2.2.2.2.1]
  | conditional _ _ _ _ iha ihb ihc =>
    simp only [List.mem_append, List.mem_cons, not_or] at hts
    simp [Reading.conditional, Reading.join3, iha hts.2.2.1, ihb hts.2.2.2.2.1,
      ihc hts.2.2.2.2.2.2.1]

/-- A text that can be an argument: an expression that assigns nothing, and that leaves two levels of
nesting for the call around it. -/
structure IsArgument (ps : Parameters) (e : String) : Prop where
  derives : ∃ r, Derives ps .expression (tokens e) r ∧ r.levels + 2 ≤ maxNesting
  assigns_nothing : Token.sign "=" ∉ tokens e

/-- An argument is a body that assigns nothing and that is read with two levels of nesting less. -/
lemma isArgument_iff (allowed : Bool) {ps : Parameters} {e : String} :
    IsArgument ps e ↔
      (∃ tree, (expression allowed (maxNesting - 2) { parameters := ps }).run (tokens e) =
        .ok (tree, [])) ∧ Token.sign "=" ∉ tokens e := by
  refine ⟨fun h => ⟨?_, h.assigns_nothing⟩, fun h => ⟨?_, h.2⟩⟩
  · obtain ⟨r, hr, hlevels⟩ := h.derives
    have hconditions := (hr.assigns_eq_false h.assigns_nothing).2
    have hadmitted : r.Admitted allowed (maxNesting - 2) false :=
      ⟨Nat.le_sub_of_add_le hlevels, nofun, fun _ => hconditions⟩
    have hrun := hr.run_expression (s := { parameters := ps }) hadmitted Category.stops_nil
    rw [List.append_nil] at hrun
    exact ⟨r.tree, hrun⟩
  · obtain ⟨tree, hrun⟩ := h.1
    obtain ⟨us, r, hts, hr, -, hadmitted⟩ := expression_sound hrun
    rw [List.append_nil] at hts
    exact ⟨r, hts ▸ hr, Nat.add_le_of_le_sub (by decide) hadmitted.levels_le⟩

namespace Parser

variable {allowed : Bool} {room : Nat} {s : Scope} {ts : List Token} {p : Parser Expr}
  {x : Except Failure (Expr × List Token)}

/-- A result that leaves no tokens, if it is no failure. -/
def Settled (x : Except Failure (Expr × List Token)) : Prop :=
  ∀ e rest, x = .ok (e, rest) → rest = []

/-- A parser that adds nothing at the end of the tokens. -/
lemma run_bind_of_settled {m : Expr → Parser Expr} (hx : Settled x) (h : p.run ts = x)
    (hm : ∀ e, (m e).run [] = .ok (e, [])) : (p >>= m).run ts = x := by
  cases x with
  | error f => exact run_bind_of_error h
  | ok r =>
    obtain ⟨e, rest⟩ := r
    obtain rfl := hx e rest rfl
    exact (run_bind_of_ok h).trans (hm e)

/-- A chain of a single operand that nothing follows. -/
lemma run_chain_of_settled {level : Level} (hx : Settled x) (h : p.run ts = x) :
    (chain level p).run ts = x :=
  run_bind_of_settled hx h fun _ => runChain_of_operator?_eq_none nofun

/-- A single operand that nothing follows, on all levels. -/
lemma run_operation_of_settled (hx : Settled x) (h : p.run ts = x) : (operation p).run ts = x := by
  have hlevels (levels : List Level) : (levels.foldr chain p).run ts = x := by
    induction levels with
    | nil => exact h
    | cons level levels ih => exact run_chain_of_settled hx ih
  exact run_bind_of_settled hx (hlevels _) fun _ => rfl

/-- An expression that is an atom. -/
lemma run_expression_of_atom (hx : Settled x) (hassigned : assigned? s ts = none)
    (hplus : (ts.headD .finished).isDelimiter "+" = false)
    (hunary : unaryOperator? (ts.headD .finished) = none)
    (h : (atom s (expression allowed room (s.condition allowed))
      (expression allowed room s.parens)).run ts = x) :
    (expression allowed (room + 2) s).run ts = x := by
  have hoperand : (operand allowed (room + 1) s).run ts = x := by
    rw [operand, run_current_bind, hplus, hunary]
    exact h
  rw [run_expression_of_none hassigned]
  exact run_operation_of_settled hx hoperand

/-- A body that is an expression, or that fails as an expression does. -/
lemma run_body_of_settled {ps : Parameters} (hx : Settled x)
    (h : (expression allowed maxNesting { parameters := ps }).run ts = x) :
    (body allowed ps).run ts = x :=
  run_bind_of_settled hx h fun _ => rfl

/-- An argument is read wherever an expression is expected in a call. -/
lemma readable_of_isArgument {e : String} (h : IsArgument s.parameters e) :
    Readable (expression allowed (maxNesting - 2) s) (tokens e) := by
  obtain ⟨r, hr, hlevels⟩ := h.derives
  obtain ⟨hassigns, hconditions⟩ := hr.assigns_eq_false h.assigns_nothing
  have hadmitted : r.Admitted allowed (maxNesting - 2) s.noAssignment :=
    ⟨Nat.le_sub_of_add_le hlevels, fun _ => hassigns, fun _ => hconditions⟩
  exact ⟨⟨r.tree, fun rest => hr.run_expression hadmitted⟩, fun rest => hr.ne_close⟩

section Body

variable {ps : Parameters} {name : String} {callee : Callee} {es : List String}

/-- A body that is a call is read as the call is. -/
lemma run_body_of_call (allowed : Bool) (ps : Parameters) (hx : Settled x)
    (h : (identifier { parameters := ps }
      (expression allowed (maxNesting - 2) (Scope.condition { parameters := ps } allowed))
      (expression allowed (maxNesting - 2) (Scope.parens { parameters := ps })) name).run
        (.word name :: .sign "(" :: ts) = x) :
    (body allowed ps).run (.word name :: .sign "(" :: ts) = x := by
  have hassigned : assigned? { parameters := ps } (.word name :: .sign "(" :: ts) = none := by
    simp [assigned?, Token.isDelimiter_iff]
  exact run_body_of_settled hx (run_expression_of_atom hx hassigned rfl rfl h)

/-- A body that is a call is accepted by the number of its arguments, but for a conditional without
any. -/
lemma counts_body (allowed : Bool) (hname : Catalogue.callee? name = some callee)
    (hes : ∀ e ∈ es, IsArgument ps e) (hne : callee = .conditional → es ≠ []) :
    Counts es.length callee.arity ((body allowed ps).run (tokens (callText name es))) := by
  have hbranch : ∀ ts ∈ es.map tokens,
      Readable (expression allowed (maxNesting - 2) (Scope.parens { parameters := ps })) ts :=
    List.forall_mem_map.2 fun e he => readable_of_isArgument (hes e he)
  rw [tokens_callText hname]
  cases callee with
  | function f =>
    have hcounts := counts_call hbranch f
    rw [List.length_map] at hcounts
    have hrun := run_body_of_call allowed ps (fun _ _ => hcounts.rest_eq_nil)
      (run_identifier_function hname)
    rw [hrun]
    exact hcounts
  | conditional =>
    obtain ⟨e, es, rfl⟩ := List.exists_cons_of_ne_nil (hne rfl)
    have hcondition : Readable (expression allowed (maxNesting - 2)
        (Scope.condition { parameters := ps } allowed)) (tokens e) :=
      readable_of_isArgument (hes e List.mem_cons_self)
    have hcounts := counts_conditional hcondition (List.forall_mem_cons.1 hbranch).2
    rw [List.length_map] at hcounts
    have hrun := run_body_of_call allowed ps (fun _ _ => hcounts.rest_eq_nil)
      (run_identifier_conditional hname)
    rw [List.map_cons, hrun]
    exact hcounts

/-- A conditional without arguments misses its condition. -/
lemma run_body_empty_conditional (allowed : Bool) (ps : Parameters)
    (hname : Catalogue.callee? name = some .conditional) :
    (body allowed ps).run (tokens (callText name [])) = .error ⟨.missingArg, [.sign ")"]⟩ := by
  have hcondition : (expression allowed (maxNesting - 2)
      (Scope.condition { parameters := ps } allowed)).run [.sign ")"] =
        .error ⟨.missingArg, [.sign ")"]⟩ :=
    run_expression_of_atom nofun rfl rfl rfl rfl
  rw [tokens_callText hname]
  refine run_body_of_call allowed ps nofun ?_
  rw [run_identifier_conditional hname, conditional, run_bind_of_ok (run_expect_iff (u := ()).2 rfl)]
  exact run_bind_of_error hcondition

end Body

end Parser

section Compile

variable {text : String} {options : CompileOptions} {clauses : Clauses} {parameters : Parameters}

/-- A compilation whose body is read. -/
lemma exists_compile_eq_ok (hclauses : Clauses.ofText text = .ok clauses)
    (hparameters : Parameters.ofClause clauses.parameters = .ok parameters) {e : Expr}
    {rest : List Token}
    (h : (body options.allowConditionalAssignment parameters).run (tokens clauses.body) =
      .ok (e, rest)) : ∃ p, compile text options = .ok p :=
  ⟨_, compile_eq_ok_iff.2
    ⟨clauses, parameters, e, hclauses, hparameters, parseBody_eq_ok_iff_run.2 ⟨rest, h⟩, rfl⟩⟩

/-- A compilation whose body is not read fails for the same reason. -/
lemma exists_compile_eq_error (hclauses : Clauses.ofText text = .ok clauses)
    (hparameters : Parameters.ofClause clauses.parameters = .ok parameters) {f : Failure}
    (h : (body options.allowConditionalAssignment parameters).run (tokens clauses.body) = .error f) :
    ∃ d, compile text options = .error d ∧ d.kind = f.kind := by
  exact ⟨_, (compile_eq_error_iff hclauses hparameters).2 ⟨f, h, rfl⟩, rfl⟩

/-- A call of a function or of the conditional, with arguments that compile on their own, is compiled
if and only if there are as many of them as are asked for. With fewer it fails for want of arguments,
and with more because of the surplus; only a conditional without arguments is said to miss an
argument. -/
theorem compile_callText (options : CompileOptions) {name : String} {callee : Callee}
    (es : List String) (hclauses : Clauses.ofText text = .ok clauses)
    (hparameters : Parameters.ofClause clauses.parameters = .ok parameters)
    (hname : Catalogue.callee? name = some callee) (hbody : clauses.body = callText name es)
    (hes : ∀ e ∈ es, IsArgument parameters e) :
    ((∃ p, compile text options = .ok p) ↔ es.length = callee.arity) ∧
      (es.length < callee.arity → ∃ d, compile text options = .error d ∧
        d.kind = if callee = .conditional ∧ es = [] then .missingArg else .insufficientArgs) ∧
      (callee.arity < es.length → ∃ d, compile text options = .error d ∧ d.kind = .tooManyArgs) := by
  have herror {f : Failure}
      (h : (body options.allowConditionalAssignment parameters).run (tokens (callText name es)) =
        .error f) : ∃ d, compile text options = .error d ∧ d.kind = f.kind :=
    exists_compile_eq_error hclauses hparameters (hbody ▸ h)
  by_cases hempty : callee = .conditional ∧ es = []
  · obtain ⟨rfl, rfl⟩ := hempty
    obtain ⟨d, hd, hkind⟩ := herror (run_body_empty_conditional _ parameters hname)
    refine ⟨⟨?_, nofun⟩, fun _ => ⟨d, hd, hkind⟩, nofun⟩
    rintro ⟨p, hp⟩
    cases hd.symm.trans hp
  · have hcounts := counts_body options.allowConditionalAssignment hname hes
      fun hconditional hnil => hempty ⟨hconditional, hnil⟩
    have hfew (hlt : es.length < callee.arity) :
        ∃ d, compile text options = .error d ∧ d.kind = .insufficientArgs := by
      obtain ⟨rest, hrun⟩ := hcounts.tooFew hlt
      exact herror hrun
    have hmany (hlt : callee.arity < es.length) :
        ∃ d, compile text options = .error d ∧ d.kind = .tooManyArgs := by
      obtain ⟨rest, hrun⟩ := hcounts.tooMany hlt
      exact herror hrun
    refine ⟨⟨?_, ?_⟩, fun hlt => by rw [if_neg hempty]; exact hfew hlt, hmany⟩
    · rintro ⟨p, hp⟩
      rcases Nat.lt_trichotomy es.length callee.arity with hlt | heq | hlt
      · obtain ⟨d, hd, -⟩ := hfew hlt
        cases hd.symm.trans hp
      · exact heq
      · obtain ⟨d, hd, -⟩ := hmany hlt
        cases hd.symm.trans hp
    · intro heq
      obtain ⟨e, hrun⟩ := hcounts.enough heq
      exact exists_compile_eq_ok hclauses hparameters (hbody ▸ hrun)

/-- The commas of a call inside of an argument do not count for the call around it. -/
theorem compile_callText_nested :
    (∃ p, compile "\x7b|a,b|max(min(a,b),a)\x7d" {} = .ok p) ∧
      (∃ d, compile "\x7b|a,b|max(min(a,b))\x7d" {} = .error d ∧ d.kind = .insufficientArgs) ∧
      ∃ d, compile "\x7b|a,b|max(min(a,b),a,b)\x7d" {} = .error d ∧ d.kind = .tooManyArgs := by
  have hparameters : Parameters.ofClause "a,b" = .ok ⟨["a", "b"]⟩ :=
    eq_ok_of_toOption (by decide +kernel)
  have hcallee : Catalogue.callee? "max" = some (.function (.two .max)) := by decide
  have hmin : IsArgument ⟨["a", "b"]⟩ "min(a,b)" :=
    (isArgument_iff true).2 ⟨⟨.call2 .min (.param 0) (.param 1), eq_ok_of_toOption (by decide +kernel)⟩,
      by decide +kernel⟩
  have ha : IsArgument ⟨["a", "b"]⟩ "a" :=
    (isArgument_iff true).2 ⟨⟨.param 0, eq_ok_of_toOption (by decide +kernel)⟩, by decide +kernel⟩
  have hb : IsArgument ⟨["a", "b"]⟩ "b" :=
    (isArgument_iff true).2 ⟨⟨.param 1, eq_ok_of_toOption (by decide +kernel)⟩, by decide +kernel⟩
  have hboth : Clauses.ofText "\x7b|a,b|max(min(a,b),a)\x7d" = .ok ⟨"a,b", "max(min(a,b),a)"⟩ :=
    eq_ok_of_toOption (by decide +kernel)
  have hone : Clauses.ofText "\x7b|a,b|max(min(a,b))\x7d" = .ok ⟨"a,b", "max(min(a,b))"⟩ :=
    eq_ok_of_toOption (by decide +kernel)
  have hthree : Clauses.ofText "\x7b|a,b|max(min(a,b),a,b)\x7d" =
      .ok ⟨"a,b", "max(min(a,b),a,b)"⟩ := eq_ok_of_toOption (by decide +kernel)
  refine ⟨?_, ?_, ?_⟩
  · have hcall := compile_callText {} ["min(a,b)", "a"] hboth hparameters hcallee
      (by decide +kernel) (by simp [hmin, ha])
    exact hcall.1.2 rfl
  · have hcall := compile_callText {} ["min(a,b)"] hone hparameters hcallee
      (by decide +kernel) (by simp [hmin])
    exact hcall.2.1 (by decide)
  · have hcall := compile_callText {} ["min(a,b)", "a", "b"] hthree hparameters
      hcallee (by decide +kernel) (by simp [hmin, ha, hb])
    exact hcall.2.2 (by decide)

/-- A conditional without arguments has too few of them, but it fails for another reason than other
calls do. -/
theorem compile_empty_conditional :
    Catalogue.callee? "iif" = some .conditional ∧
      Clauses.ofText "\x7b||iif()\x7d" = .ok ⟨"", callText "iif" []⟩ ∧
      ∃ d, compile "\x7b||iif()\x7d" {} = .error d ∧ d.kind = .missingArg := by
  have hcallee : Catalogue.callee? "iif" = some .conditional := by decide
  have hclauses : Clauses.ofText "\x7b||iif()\x7d" = .ok ⟨"", callText "iif" []⟩ :=
    eq_ok_of_toOption (by decide +kernel)
  have hparameters : Parameters.ofClause "" = .ok ⟨[]⟩ := eq_ok_of_toOption (by decide +kernel)
  exact ⟨hcallee, hclauses, exists_compile_eq_error hclauses hparameters
    (run_body_empty_conditional _ _ hcallee)⟩

end Compile

end Formula
