import Formula.Proofs.ErrorLocation
import Formula.Proofs.Parser.Closing
import Mathlib.Data.List.Count

/-!
# The parentheses of a body

A body that compiles is balanced. A body is refused for its parentheses at the first one that closes
without being open, and only there; and there it is refused for that wherever an operand is
required, or after a whole expression (`compile_parentheses`).
-/

namespace Formula

/-- Some lexemes have as many closing parentheses as opening ones, and no more at any place. -/
structure Balanced (ls : List String) : Prop where
  count_eq : ls.count "(" = ls.count ")"
  prefix_le : ∀ ms, ms <+: ls → ms.count ")" ≤ ms.count "("

/-- The last one of some lexemes is a closing parenthesis, and the first one that is not open. -/
structure Overclosed (ls : List String) : Prop where
  getLast?_eq : ls.getLast? = some ")"
  count_eq : ls.count ")" = ls.count "(" + 1
  prefix_le : ∀ ms, ms <+: ls → ms ≠ ls → ms.count ")" ≤ ms.count "("

/-- Some lexemes are a whole expression that is within the limits of a body. -/
def IsExpression (allowed : Bool) (ps : Parameters) (ls : List String) : Prop :=
  ∃ r, Derives ps .expression (ls.map .classify) r ∧ r.Admitted allowed Parser.maxNesting false

/-- An operand is required after some lexemes of a body, and no parenthesis is open there: if the
body ends there, it misses one. -/
def RequiresOperand (allowed : Bool) (ps : Parameters) (ls : List String) : Prop :=
  (Parser.body allowed ps).run (ls.map .classify) = .error ⟨.missingArg, []⟩ ∧
    ls.count "(" = ls.count ")"

/-- A parenthesis that closes after balanced lexemes is not open. -/
lemma Balanced.overclosed {ls : List String} (h : Balanced ls) : Overclosed (ls ++ [")"]) where
  getLast?_eq := List.getLast?_concat
  count_eq := by simp [h.count_eq]
  prefix_le ms hms hne := h.prefix_le ms ((List.prefix_concat_iff.1 hms).resolve_left hne)

/-- Lexemes that are told apart are told apart as tokens. -/
lemma classify_injective : Function.Injective Token.classify := by
  intro l m h
  exact congrArg Token.text h

/-- A parenthesis is counted among lexemes as among their tokens. -/
lemma count_map_classify (ls : List String) {text : String}
    (htext : Token.classify text = .sign text) :
    (ls.map Token.classify).count (.sign text) = ls.count text := by
  rw [← htext]
  exact List.count_map_of_injective ls _ classify_injective text

/-- As many parentheses open as close among lexemes if they do among their tokens. -/
lemma count_paren_eq_iff {ls : List String} :
    ls.count "(" = ls.count ")" ↔
      (ls.map Token.classify).count (.sign "(") = (ls.map Token.classify).count (.sign ")") := by
  rw [count_map_classify ls rfl, count_map_classify ls rfl]

/-- Lexemes whose tokens are balanced. -/
lemma Nests.balanced {ls : List String} (h : Nests 0 (ls.map .classify) 0) : Balanced ls where
  count_eq := by
    have hcount := h.count_eq
    rw [Nat.zero_add, Nat.zero_add] at hcount
    exact count_paren_eq_iff.2 hcount
  prefix_le ms hms := by
    have hle := h.prefix_le (hms.map Token.classify)
    rwa [count_map_classify ms rfl, count_map_classify ms rfl, Nat.zero_add] at hle

namespace Parser

variable {allowed : Bool} {ps : Parameters} {ls ms : List String}

/-- A body that is read is balanced. -/
lemma balanced_of_run_body {e : Expr} {rest : List Token}
    (h : (body allowed ps).run (ls.map .classify) = .ok (e, rest)) : Balanced ls := by
  obtain ⟨rfl, -⟩ := run_body_iff.1 h
  obtain ⟨us, hus, hnests⟩ := (tracks_body allowed ps _).ok h
  rw [List.append_nil] at hus
  subst hus
  exact hnests.balanced

/-- The lexemes before a parenthesis that a body refuses as unbalanced are balanced. -/
lemma balanced_of_run_body_error
    (h : (body allowed ps).run (ls.map .classify ++ .sign ")" :: ms.map .classify) =
      .error ⟨.unbalancedParens, .sign ")" :: ms.map .classify⟩) : Balanced ls := by
  obtain ⟨us, k, hus, hnests, hfits⟩ := (tracks_body allowed ps _).error h
  obtain rfl := List.append_cancel_right hus
  obtain ⟨rfl, -⟩ := hfits.unbalanced rfl
  exact hnests.balanced

/-- Whole expressions are the bodies that are read. -/
lemma isExpression_iff :
    IsExpression allowed ps ls ↔ ((body allowed ps).run (ls.map .classify)).isOk = true := by
  refine ⟨?_, ?_⟩
  · rintro ⟨r, hr, hadm⟩
    have hrun := hr.run_expression (s := { parameters := ps }) hadm Category.stops_nil
    rw [List.append_nil] at hrun
    rw [run_body_iff.2 ⟨rfl, hrun⟩]
    rfl
  · intro h
    cases hrun : (body allowed ps).run (ls.map .classify) with
    | error f => simp [hrun, Except.isOk, Except.toBool] at h
    | ok e =>
      obtain ⟨us, r, hus, hr, -, hadm⟩ := expression_sound (run_body_iff.1 hrun).2
      rw [List.append_nil] at hus
      exact ⟨r, hus ▸ hr, hadm⟩

/-- The parser of bodies decides whether some lexemes are a whole expression. -/
instance : Decidable (IsExpression allowed ps ls) :=
  decidable_of_iff' _ isExpression_iff

/-- An operand is required where a number would end an expression. -/
lemma requiresOperand_iff :
    RequiresOperand allowed ps ls ↔ IsExpression allowed ps (ls ++ ["0"]) := by
  have hzero : (ls ++ ["0"]).map Token.classify = ls.map Token.classify ++ [⟨.number, "0"⟩] := by
    rw [List.map_append]
    rfl
  rw [RequiresOperand, IsExpression, count_paren_eq_iff, hzero]
  exact run_body_missing_iff "0"

/-- The parentheses that a body refuses as unbalanced. -/
lemma run_body_unbalanced_iff :
    (body allowed ps).run (ls.map .classify ++ .sign ")" :: ms.map .classify) =
        .error ⟨.unbalancedParens, .sign ")" :: ms.map .classify⟩ ↔
      RequiresOperand allowed ps ls ∨ IsExpression allowed ps ls := by
  rw [run_body_closing_iff, RequiresOperand, IsExpression, count_paren_eq_iff]

end Parser

/-- Parentheses are accounted for in every compilation. The body of a formula that compiles is
balanced. If a compilation fails because parentheses are unbalanced, then it does so at the first
one that closes without being open, after a whole expression or where an operand is required. In
each such place it fails for that. An operand is required where a number would end an expression. -/
theorem compile_parentheses (text : String) (options : CompileOptions) :
    (∀ p, compile text options = .ok p →
      ∃ clauses, Clauses.ofText text = .ok clauses ∧ Balanced (lexemes clauses.body)) ∧
    (∀ d, compile text options = .error d → d.kind = .unbalancedParens →
      ∃ clauses ps stop ls, Clauses.ofText text = .ok clauses ∧
        Parameters.ofClause clauses.parameters = .ok ps ∧
        OnePass.read options.allowConditionalAssignment ps clauses.body = .error stop ∧
        (lexemes clauses.body).take stop.lexemesRead = ls ++ [")"] ∧ Overclosed (ls ++ [")"]) ∧
        d.detail = String.join (ls ++ [")"]) ++ d.kind.tag ∧
        (RequiresOperand options.allowConditionalAssignment ps ls ∨
          IsExpression options.allowConditionalAssignment ps ls)) ∧
    (∀ clauses ps ls ms, Clauses.ofText text = .ok clauses →
      Parameters.ofClause clauses.parameters = .ok ps → lexemes clauses.body = ls ++ ")" :: ms →
      RequiresOperand options.allowConditionalAssignment ps ls ∨
        IsExpression options.allowConditionalAssignment ps ls →
      compile text options = .error (.after .unbalancedParens (String.join (ls ++ [")"])))) ∧
    (∀ ps ls, RequiresOperand options.allowConditionalAssignment ps ls ↔
      IsExpression options.allowConditionalAssignment ps (ls ++ ["0"])) := by
  refine ⟨?_, ?_, ?_, fun ps ls => Parser.requiresOperand_iff⟩
  · intro p hp
    obtain ⟨clauses, ps, e, hclauses, -, hbody, -⟩ := compile_eq_ok_iff.1 hp
    obtain ⟨rest, hrun⟩ := parseBody_eq_ok_iff_run.1 hbody
    exact ⟨clauses, hclauses, Parser.balanced_of_run_body hrun⟩
  · intro d hd hkind
    obtain ⟨clauses, ps, s, rest, hclauses, hps, hrun, hread, hstands, hdetail⟩ :=
      exists_read_of_compile_eq_error hd (by rw [hkind]; decide)
    rw [hkind] at hrun
    -- The current token is the parenthesis, and what was read before it is balanced.
    obtain ⟨us, k, -, -, hfits⟩ := (Parser.tracks_body _ ps _).error hrun
    obtain ⟨-, vs, rfl⟩ := hfits.unbalanced rfl
    obtain ⟨ls, l, ms, hlexemes, htake, hl, rfl⟩ := hstands.exists_of_cons
    obtain rfl : ")" = l := congrArg Token.text hl
    rw [tokens, hlexemes, List.map_append, List.map_cons, ← hl] at hrun
    refine ⟨clauses, ps, _, ls, hclauses, hps, hread, ?_, ?_, ?_, ?_⟩
    · rw [hstands.take_lexemesRead, htake]
    · exact (Parser.balanced_of_run_body_error hrun).overclosed
    · rw [hdetail, htake]
    · exact Parser.run_body_unbalanced_iff.1 hrun
  · intro clauses ps ls ms hclauses hps hlexemes hls
    have hrun : (Parser.body options.allowConditionalAssignment ps).run
        ((ls ++ ")" :: ms).map .classify) =
          .error ⟨.unbalancedParens, (")" :: ms).map .classify⟩ := by
      rw [List.map_append]
      exact Parser.run_body_unbalanced_iff.2 hls
    have hstart : ls ++ [")"] <+: lexemes clauses.body := ⟨ms, by rw [hlexemes]; simp⟩
    exact compile_eq_error_of_lexemes hps hrun (by decide) hclauses hstart

/-- The second closing parenthesis of `(a)+)*2` stands where an operand is required. -/
theorem compile_parentheses_operand :
    lexemes "(a)+)*2" = ["(", "a", ")", "+"] ++ ")" :: ["*", "2"] ∧
      RequiresOperand false ⟨["a"]⟩ ["(", "a", ")", "+"] ∧
      compile "\x7b|a|(a)+)*2\x7d" {} = .error ⟨.unbalancedParens, "(a)+)<e12>"⟩ := by
  have hclauses : Clauses.ofText "\x7b|a|(a)+)*2\x7d" = .ok ⟨"a", "(a)+)*2"⟩ := by decide +kernel
  have hps : Parameters.ofClause "a" = .ok ⟨["a"]⟩ := by decide +kernel
  have hlexemes : lexemes "(a)+)*2" = ["(", "a", ")", "+"] ++ ")" :: ["*", "2"] := by
    decide +kernel
  have hoperand : IsExpression false ⟨["a"]⟩ (["(", "a", ")", "+"] ++ ["0"]) := by decide +kernel
  obtain ⟨-, -, hrefused, hrequires⟩ := compile_parentheses "\x7b|a|(a)+)*2\x7d" {}
  have hplace := (hrequires _ _).2 hoperand
  refine ⟨hlexemes, hplace, ?_⟩
  exact (hrefused _ _ _ _ hclauses hps hlexemes (.inl hplace)).trans (by decide +kernel)

end Formula
