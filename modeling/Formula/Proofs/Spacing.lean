import Formula.Compile
import Formula.Proofs.Clauses
import Formula.Proofs.Except
import Formula.Proofs.Lexeme.Spacing

/-!
# Formulas with other white space

The lexemes of a text with other white space between them are the lexemes of the new text. A formula
whose clauses are spaced anew is compiled to the same program, or it fails in the same way
(`compile_respaced`): the marks of the formula are no white space, and all that is compiled are the
lexemes of its clauses.
-/

namespace Formula
open Formula.Unicode

variable {c c' : Clauses} {text text' : String}

/-- What is compiled are the lexemes of the clauses. -/
lemma compile_of_lexemes (h : Clauses.ofText text = .ok c) (h' : Clauses.ofText text' = .ok c')
    (hparameters : lexemes c'.parameters = lexemes c.parameters)
    (hbody : lexemes c'.body = lexemes c.body) (options : CompileOptions) :
    compile text' options = compile text options := by
  have hclause : Parameters.ofClause c'.parameters = Parameters.ofClause c.parameters := by
    rw [Parameters.ofClause, tokens, hparameters]
    rfl
  have hparse (ps : Parameters) : parseBody options.allowConditionalAssignment ps c'.body =
      parseBody options.allowConditionalAssignment ps c.body := by
    rw [parseBody, tokens, hbody]
    rfl
  rw [compile, compile, h, h']
  simp only [bind, Except.bind, hclause, hparse]

namespace Clauses

/-- Clauses that are spaced anew keep clear of their marks, unless nothing is left of the body. -/
lemma IsClear.of_isSpaced (hc : c.IsClear) (hne : lexemes c.body ≠ [])
    (hparameters : IsSpaced (lexemes c.parameters) c'.parameters)
    (hbody : IsSpaced (lexemes c.body) c'.body) : c'.IsClear := by
  have hpipe : ∀ a, isWhiteSpace a = true → a ≠ pipe := by
    rintro a ha rfl
    cases ha
  have hclosing : ∀ a, isWhiteSpace a = true → a ≠ closing := by
    rintro a ha rfl
    cases ha
  have hkeeps {mark : Char} {old new : String} (hspace : ∀ a, isWhiteSpace a = true → a ≠ mark)
      (hold : mark ∉ old.toList) (hnew : IsSpaced (lexemes old) new) : mark ∉ new.toList :=
    fun hmem => forall_mem_of_isSpaced hspace (fun _ ha he => hold (he ▸ ha)) hnew _ hmem rfl
  refine ⟨hkeeps hpipe hc.pipe_parameters hparameters,
    hkeeps hclosing hc.closing_parameters hparameters, hkeeps hclosing hc.closing_body hbody, ?_⟩
  have hlexemes : lexemes c'.body = lexemes c.body :=
    lexemes_of_isSpaced (fun _ hl => ⟨_, hl⟩) hbody
  exact not_blank_of_lexemes (hlexemes ▸ hne)

end Clauses

/-- Lexemes are stable under new spacing. The lexemes of a text with white space between them, and any
white space at its ends, are the lexemes of the new text, and a lexeme alone is its own only lexeme. A
formula with a lexeme in its body, whose clauses are spaced anew, is compiled to the same program, or it
fails with the same diagnostic; this holds of every text with the new clauses, and of the one that
consists of them. -/
theorem compile_respaced :
    (∀ text text', IsSpaced (lexemes text) text' → lexemes text' = lexemes text) ∧
    (∀ text, ∀ l ∈ lexemes text, lexemes l = [l]) ∧
    ∀ (text : String) (options : CompileOptions) (c c' : Clauses),
      Clauses.ofText text = .ok c → lexemes c.body ≠ [] →
      IsSpaced (lexemes c.parameters) c'.parameters → IsSpaced (lexemes c.body) c'.body →
        compile c'.toText options = compile text options ∧
          ∀ text' : String, Clauses.Encloses (lowerCase (trim text'.toList)) c' →
            compile text' options = compile text options := by
  have hstable (text text' : String) (h : IsSpaced (lexemes text) text') :
      lexemes text' = lexemes text :=
    lexemes_of_isSpaced (fun _ hl => ⟨text, hl⟩) h
  refine ⟨hstable, fun _ _ => lexemes_of_mem_lexemes, ?_⟩
  intro text options c c' hclauses hne hparameters hbody
  have hclear := (Clauses.ofText_eq_ok_iff.1 hclauses).2.of_isSpaced hne hparameters hbody
  have hcompile {text' : String} (h : Clauses.ofText text' = .ok c') :
      compile text' options = compile text options :=
    compile_of_lexemes hclauses h (hstable _ _ hparameters) (hstable _ _ hbody) options
  refine ⟨hcompile (Clauses.ofText_toText ?_ ?_ hclear), ?_⟩
  · exact forall_mem_of_isSpaced (fun _ => isLower_of_isWhiteSpace)
      (Clauses.isLower_of_ofText hclauses).1 hparameters
  · exact forall_mem_of_isSpaced (fun _ => isLower_of_isWhiteSpace)
      (Clauses.isLower_of_ofText hclauses).2 hbody
  · exact fun text' h => hcompile (Clauses.ofText_eq_ok_iff.2 ⟨h, hclear⟩)

/-- A sum whose operands are moved apart, with a comma that stands alone. -/
theorem compile_respaced_sum :
    IsSpaced (lexemes "a,b") " a ,\tb" ∧ IsSpaced (lexemes "a+b") "a\n+  b " ∧
      compile " \x7b| A ,\tb|a\n+  B \x7d;" {} = compile "\x7b|a,b|a+b\x7d" {} := by
  have hparameters : IsSpaced (lexemes "a,b") " a ,\tb" := by
    have hlexemes : lexemes "a,b" = ["a", ",", "b"] := by decide +kernel
    rw [hlexemes]
    exact ⟨[' '], _, by decide, @Spaced.cons _ [' '] _ _ (by decide) (by decide)
      (@Spaced.cons _ ['\t'] _ _ (by decide) (by decide) (@Spaced.cons _ [] _ _ nofun nofun .nil)), rfl⟩
  have hbody : IsSpaced (lexemes "a+b") "a\n+  b " := by
    have hlexemes : lexemes "a+b" = ["a", "+", "b"] := by decide +kernel
    rw [hlexemes]
    exact ⟨[], _, by decide, @Spaced.cons _ ['\n'] _ _ (by decide) (by decide)
      (@Spaced.cons _ [' ', ' '] _ _ (by decide) (by decide)
        (@Spaced.cons _ [' '] _ _ (by decide) nofun .nil)), rfl⟩
  have hclauses : Clauses.ofText "\x7b|a,b|a+b\x7d" = .ok ⟨"a,b", "a+b"⟩ :=
    eq_ok_of_toOption (by decide +kernel)
  refine ⟨hparameters, hbody, ?_⟩
  exact (compile_respaced.2.2 _ {} _ ⟨" a ,\tb", "a\n+  b "⟩ hclauses (by decide +kernel) hparameters
    hbody).2 _ ⟨[';'], by decide +kernel⟩

end Formula
