import Formula.Compile
import Formula.Proofs.Expr.Assembly
import Formula.Proofs.Parser.Completeness
import Formula.Proofs.Parser.Soundness
import Mathlib.Tactic.Common

/-!
# What is compiled, and to what

The parser of bodies accepts the grammar, within the limits on nesting and assignments, and nothing
else. Since every expression has a program, a formula is compiled if and only if its clauses and its
parameters are in order and its body is accepted.
-/

namespace Formula

namespace Parser

/-- A body is an expression that nothing follows. -/
lemma run_body_iff {allowed : Bool} {ps : Parameters} {ts rest : List Token} {e : Expr} :
    (body allowed ps).run ts = .ok (e, rest) ↔
      rest = [] ∧ (expression allowed maxNesting { parameters := ps }).run ts = .ok (e, []) := by
  simp only [body, run_bind_iff, run_remaining_iff]
  refine ⟨?_, ?_⟩
  · intro h
    obtain ⟨v, mid, hv, us, mid', ⟨hus, hmid⟩, h⟩ := h
    rw [hus, hmid] at h
    cases mid with
    | nil =>
      obtain ⟨rfl, rfl⟩ := run_pure_iff.1 h
      exact ⟨rfl, hv⟩
    | cons t ts => exact (run_fail_iff.1 h).elim
  · intro h
    obtain ⟨rfl, h⟩ := h
    exact ⟨e, [], h, [], [], ⟨rfl, rfl⟩, run_pure_iff.2 ⟨rfl, rfl⟩⟩

end Parser

/-- A body is read where its parser succeeds. -/
lemma parseBody_eq_ok_iff_run {allowed : Bool} {ps : Parameters} {text : String} {e : Expr} :
    parseBody allowed ps text = .ok e ↔
      ∃ rest, (Parser.body allowed ps).run (tokens text) = .ok (e, rest) := by
  unfold parseBody
  cases h : (Parser.body allowed ps).run (tokens text) with
  | error f => simp [h]
  | ok a => simp [h, Prod.ext_iff]

/-- A body stands for the tree of a derivation that is within the limits. -/
lemma parseBody_eq_ok_iff {allowed : Bool} {ps : Parameters} {text : String} {e : Expr} :
    parseBody allowed ps text = .ok e ↔
      ∃ r, Derives ps .expression (tokens text) r ∧ r.tree = e ∧
        r.Admitted allowed Parser.maxNesting false := by
  rw [parseBody_eq_ok_iff_run]
  refine ⟨?_, ?_⟩
  · -- The parser of bodies leaves nothing, so the phrase that it read is all of the tokens.
    intro h
    obtain ⟨rest, h⟩ := h
    obtain ⟨us, r, hts, hr, htree, hadm⟩ := Parser.expression_sound (Parser.run_body_iff.1 h).2
    rw [List.append_nil] at hts
    exact ⟨r, hts ▸ hr, htree, hadm⟩
  · intro h
    obtain ⟨r, hr, rfl, hadm⟩ := h
    have hrun := Derives.run_expression (s := { parameters := ps }) hr hadm Category.stops_nil
    rw [List.append_nil] at hrun
    exact ⟨[], Parser.run_body_iff.2 ⟨rfl, hrun⟩⟩

/-- The stages of a compilation that succeeds. -/
lemma compile_eq_ok_iff {text : String} {options : CompileOptions} {p : Program} :
    compile text options = .ok p ↔
      ∃ clauses parameters e,
        Clauses.ofText text = .ok clauses ∧
        Parameters.ofClause clauses.parameters = .ok parameters ∧
        parseBody options.allowConditionalAssignment parameters clauses.body = .ok e ∧
        p = e.program options.optimize parameters.size := by
  unfold compile
  refine ⟨?_, ?_⟩
  · intro h
    cases hclauses : Clauses.ofText text with
    | error d => simp [hclauses, bind, Except.bind] at h
    | ok clauses =>
    cases hparameters : Parameters.ofClause clauses.parameters with
    | error d => simp [hclauses, hparameters, bind, Except.bind] at h
    | ok parameters =>
    cases hbody : parseBody options.allowConditionalAssignment parameters clauses.body with
    | error d => simp [hclauses, hparameters, hbody, bind, Except.bind] at h
    | ok e =>
      simp only [hclauses, hparameters, hbody, bind, Except.bind, Expr.compile_eq] at h
      cases h
      exact ⟨clauses, parameters, e, rfl, hparameters, hbody, rfl⟩
  · intro h
    obtain ⟨clauses, parameters, e, hclauses, hparameters, hbody, rfl⟩ := h
    simp only [hclauses, hparameters, hbody, bind, Except.bind, Expr.compile_eq]

/-- Whether and why a compilation fails does not depend on the fusing of loads. -/
lemma compile_eq_error {text : String} {optimize allow : Bool} {d : Diagnostic}
    (h : compile text ⟨optimize, allow⟩ = .error d) (optimize' : Bool) :
    compile text ⟨optimize', allow⟩ = .error d := by
  unfold compile at h ⊢
  cases hclauses : Clauses.ofText text with
  | error d => simpa [hclauses, bind, Except.bind] using h
  | ok clauses =>
  cases hparameters : Parameters.ofClause clauses.parameters with
  | error d => simpa [hclauses, hparameters, bind, Except.bind] using h
  | ok parameters =>
  cases hbody : parseBody allow parameters clauses.body with
  | error d => simpa [hclauses, hparameters, hbody, bind, Except.bind] using h
  | ok e => simp [hclauses, hparameters, hbody, bind, Except.bind, Expr.compile_eq] at h

/-- A formula whose clauses and parameters are in order fails to compile where its body is not read. -/
lemma compile_eq_error_iff {text : String} {options : CompileOptions} {clauses : Clauses}
    {parameters : Parameters} {d : Diagnostic} (hclauses : Clauses.ofText text = .ok clauses)
    (hparameters : Parameters.ofClause clauses.parameters = .ok parameters) :
    compile text options = .error d ↔
      ∃ f, (Parser.body options.allowConditionalAssignment parameters).run (tokens clauses.body) =
          .error f ∧
        d = .after f.kind (consumed (tokens clauses.body) f.rest) := by
  cases hrun : (Parser.body options.allowConditionalAssignment parameters).run
      (tokens clauses.body) with
  | ok a =>
    simp [compile, hclauses, hparameters, parseBody, hrun, bind, Except.bind, Expr.compile_eq]
  | error f =>
    simp [compile, hclauses, hparameters, parseBody, hrun, bind, Except.bind, eq_comm]

/-- A formula is compiled if and only if its clauses and its parameters are in order, the lexemes of
its body are an expression of the grammar with at most 128 levels of nesting, and the condition of no
conditional assigns, unless that is allowed. -/
theorem compile_succeeds_iff (text : String) (options : CompileOptions) :
    (∃ p, compile text options = .ok p) ↔
      ∃ clauses parameters r,
        Clauses.ofText text = .ok clauses ∧
        Parameters.ofClause clauses.parameters = .ok parameters ∧
        Derives parameters .expression (tokens clauses.body) r ∧
        r.levels ≤ 128 ∧
        (options.allowConditionalAssignment = false → r.conditionAssigns = false) := by
  refine ⟨?_, ?_⟩
  · intro h
    obtain ⟨p, hp⟩ := h
    obtain ⟨clauses, parameters, e, hclauses, hparameters, hbody, -⟩ := compile_eq_ok_iff.1 hp
    obtain ⟨r, hr, -, hadm⟩ := parseBody_eq_ok_iff.1 hbody
    exact ⟨clauses, parameters, r, hclauses, hparameters, hr, hadm.levels_le,
      hadm.conditionAssigns_eq⟩
  · intro h
    obtain ⟨clauses, parameters, r, hclauses, hparameters, hr, hlevels, hconditions⟩ := h
    have hbody := parseBody_eq_ok_iff.2 ⟨r, hr, rfl, hlevels, nofun, hconditions⟩
    exact ⟨_, compile_eq_ok_iff.2 ⟨clauses, parameters, r.tree, hclauses, hparameters, hbody, rfl⟩⟩

end Formula
