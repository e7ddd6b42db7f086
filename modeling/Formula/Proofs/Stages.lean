import Formula.Proofs.Clauses
import Formula.Proofs.Compile
import Formula.Proofs.Except
import Formula.Proofs.ParameterList

/-!
# The kinds of failure of the stages

The clauses and the parameters of a formula fail with few kinds each. A compilation that fails with
any other kind fails in the body.
-/

namespace Formula

/-- A stage of a compilation that fails with one of some kinds, if it does. -/
def FailsWith {α : Type} (kinds : List ErrorKind) (x : Except Diagnostic α) : Prop :=
  Meets (fun d : Diagnostic => d.kind ∈ kinds) (fun _ => True) x

/-- A stage that stops after some text. -/
lemma FailsWith.after {α : Type} {kinds : List ErrorKind} {kind : ErrorKind} (hkind : kind ∈ kinds)
    (seen : String) : FailsWith kinds (.error (.after kind seen) : Except Diagnostic α) :=
  Meets.error hkind

/-- The kinds of failure of the clauses. -/
def Clauses.failures : List ErrorKind :=
  [.missingBracket, .missingPipe, .missingExpr]

/-- The clauses of a formula. -/
lemma Clauses.failsWith_ofText (text : String) : FailsWith failures (ofText text) := by
  cases h : ofText text with
  | ok c => exact .ok trivial
  | error d =>
    obtain ⟨seen, rest, kind, -, hlacks, rfl⟩ := split_eq_error_iff.1 h
    cases hlacks with
    | _ => exact .after (by decide) _

/-- The kinds of failure of the parameters. -/
def Parameters.failures : List ErrorKind :=
  [.missingParam, .missingComma, .reservedWord]

/-- The parameters of a formula. -/
lemma Parameters.failsWith_ofClause (clause : String) : FailsWith failures (ofClause clause) := by
  cases h : ofClause clause with
  | ok ps => exact .ok trivial
  | error d =>
    have hbreaks := ofClause_eq_error_iff.1 h
    generalize lexemes clause = ls at hbreaks
    cases hbreaks with
    | reserved => exact .error (by simp [Diagnostic.reserved, failures])
    | _ => exact .after (by decide) _

/-- The clauses and the parameters are in order where a compilation fails with another kind than
theirs. -/
lemma exists_of_compile_eq_error {text : String} {options : CompileOptions} {d : Diagnostic}
    (h : compile text options = .error d)
    (hkind : d.kind ∉ Clauses.failures ++ Parameters.failures) :
    ∃ clauses ps, Clauses.ofText text = .ok clauses ∧
      Parameters.ofClause clauses.parameters = .ok ps := by
  simp only [List.mem_append, not_or] at hkind
  unfold compile at h
  cases hclauses : Clauses.ofText text with
  | error d' =>
    obtain rfl : d' = d := by simpa [hclauses, bind, Except.bind] using h
    exact absurd ((Clauses.failsWith_ofText text).of_eq_error hclauses) hkind.1
  | ok clauses =>
  cases hps : Parameters.ofClause clauses.parameters with
  | error d' =>
    obtain rfl : d' = d := by simpa [hclauses, hps, bind, Except.bind] using h
    exact absurd ((Parameters.failsWith_ofClause clauses.parameters).of_eq_error hps) hkind.2
  | ok ps => exact ⟨clauses, ps, rfl, hps⟩

end Formula
