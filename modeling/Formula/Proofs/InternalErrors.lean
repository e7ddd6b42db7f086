import Formula.Proofs.ErrorLocation
import Formula.Proofs.Lexeme.Kind
import Formula.Proofs.Parser.Parentheses

/-!
# Internal errors

Two failures tell of a slip in the compiler itself: a token that is put back too often, and a label
that has no place. No text leads to either (`compile_internal_errors`). Failures of kind `other` are
about lexemes of unknown kind, which are points alone. A compilation that succeeds has branched to
every label that it took and has posted it.
-/

namespace Formula
open Formula.Lexeme

/-- Some lexeme is points alone. -/
def IsPoints (lexeme : String) : Prop :=
  lexeme ≠ "" ∧ ∀ c ∈ lexeme.toList, c = '.'

/-- A lexeme of unknown kind is points alone. -/
lemma isPoints_of_mem_lexemes {text lexeme : String} (h : lexeme ∈ lexemes text)
    (hkind : (Token.classify lexeme).kind = .unknown) : IsPoints lexeme := by
  obtain ⟨⟨rule, l⟩, hmem, rfl⟩ := List.mem_map.1 h
  obtain ⟨afterWord, text, rest, hfirst⟩ := exists_first?_of_mem_scan hmem
  obtain ⟨-, hne⟩ := first?_eq_some hfirst
  refine ⟨by simpa using hne, ?_⟩
  rw [String.toList_ofList]
  exact (classified_of_first? hfirst).unknown_iff.1 hkind

/-- The report of a label without a place does not end as lexemes do whose last one is points alone.
-/
lemma neverPosted_ne_after {lexeme : String} (h : IsPoints lexeme) (ls : List String)
    (label : Nat) : Assembler.neverPosted label ≠ .after .other (String.join (ls ++ [lexeme])) := by
  intro heq
  have hdetail : "label " ++ toString label ++ " never posted" = String.join (ls ++ [lexeme]) :=
    (String.append_left_inj _).1 (congrArg Diagnostic.detail heq)
  obtain ⟨hne, hpoints⟩ := h
  have hnil : lexeme.toList ≠ [] := by simpa using hne
  have hlast := congrArg (fun text : String => text.toList.getLast?) hdetail
  simp only [String.toList_append, String.join_append, List.getLast?_append,
    List.getLast?_eq_some_getLast hnil, String.join_cons] at hlast
  have hd : some 'd' = some (lexeme.toList.getLast hnil) := by simpa using hlast
  rw [hpoints _ (List.getLast_mem hnil)] at hd
  exact absurd hd (by decide)

/-- A compilation that fails with kind `other` stops at a lexeme that is points alone. -/
lemma exists_isPoints_of_compile_eq_error {text : String} {options : CompileOptions}
    {d : Diagnostic} (h : compile text options = .error d) (hkind : d.kind = .other) :
    ∃ clauses ps stop ls lexeme, Clauses.ofText text = .ok clauses ∧
      Parameters.ofClause clauses.parameters = .ok ps ∧
      OnePass.read options.allowConditionalAssignment ps clauses.body = .error stop ∧
      (lexemes clauses.body).take stop.lexemesRead = ls ++ [lexeme] ∧ IsPoints lexeme ∧
      d = .after .other (String.join (ls ++ [lexeme])) := by
  obtain ⟨clauses, ps, s, rest, hclauses, hps, hrun, hread, hstands, hdetail⟩ :=
    exists_read_of_compile_eq_error h (by rw [hkind]; decide)
  obtain ⟨us, k, -, -, hfits⟩ := (Parser.tracks_body _ ps _).error hrun
  obtain ⟨text', vs, rfl⟩ := hfits.unknown hkind
  obtain ⟨ls, lexeme, ms, hlexemes, htake, hclassify, rfl⟩ := hstands.exists_of_cons
  have hmem : lexeme ∈ lexemes clauses.body := by simp [hlexemes]
  refine ⟨clauses, ps, _, ls, lexeme, hclauses, hps, hread, ?_, ?_, ?_⟩
  · rw [hstands.take_lexemesRead, htake]
  · exact isPoints_of_mem_lexemes hmem (by rw [← hclassify])
  · obtain ⟨kind, detail⟩ := d
    subst hkind
    rw [htake] at hdetail
    rw [Diagnostic.after, ← hdetail]

/-- The steps that are written for a body that is read use every label that they take. -/
lemma OnePass.labelled_of_read {allowed : Bool} {ps : Parameters} {text : String} {e : Expr}
    {rest : List Token} (h : (Parser.body allowed ps).run (tokens text) = .ok (e, rest)) :
    ∃ s, read allowed ps text = .ok s ∧ s.steps = .header ps.size :: (e.steps 0).1 ∧
      Labelled 0 s.steps s.labels := by
  obtain ⟨s, hread, hsteps⟩ := read_of_ok h
  have hheader : Labelled 0 [.header ps.size] 0 := .plain 0 rfl (by simp [Step.Uses])
  have hlabelled := hheader.append (e.labelled_steps 0)
  rw [List.singleton_append, ← hsteps] at hlabelled
  have hlabels : s.labels = (e.steps 0).2 := by
    have hnext := hlabelled.next_eq
    rw [Nat.zero_add] at hnext
    exact hnext.symm
  exact ⟨s, hread, hsteps, hlabels ▸ hlabelled⟩

/-- No text leads to a failure that tells of a slip in the compiler. A token that is put back is
never refused, no label is left without a place, and a failure of kind `other` is at a lexeme that
is points alone. If a compilation succeeds, every label that was taken was branched to once, and
posted once, after that. -/
theorem compile_internal_errors (text : String) (options : CompileOptions) :
    OnePass.compile text options = compile text options ∧
    (∀ d, compile text options = .error d → d.kind ≠ .putBack) ∧
    (∀ label, compile text options ≠ .error (Assembler.neverPosted label)) ∧
    (∀ d, compile text options = .error d → d.kind = .other →
      ∃ clauses ps stop lexeme, Clauses.ofText text = .ok clauses ∧
        Parameters.ofClause clauses.parameters = .ok ps ∧
        OnePass.read options.allowConditionalAssignment ps clauses.body = .error stop ∧
        ((lexemes clauses.body).take stop.lexemesRead).getLast? = some lexeme ∧
        IsPoints lexeme) ∧
    (∀ p, compile text options = .ok p →
      ∃ clauses ps s, Clauses.ofText text = .ok clauses ∧
        Parameters.ofClause clauses.parameters = .ok ps ∧
        OnePass.read options.allowConditionalAssignment ps clauses.body = .ok s ∧
        assemble options.optimize s.steps = .ok p ∧
        (Assembler.run { optimize := options.optimize } s.steps).labels.size = s.labels ∧
        (∀ label < s.labels, UsedOnce 0 s.steps label) ∧
        ∀ step ∈ s.steps, ∀ label, step.Uses label → label < s.labels) := by
  refine ⟨OnePass.compile_eq text options, ?_, ?_, ?_, ?_⟩
  · intro d hd hkind
    obtain ⟨clauses, ps, s, rest, -, -, hrun, -⟩ :=
      exists_read_of_compile_eq_error hd (by rw [hkind]; decide)
    obtain ⟨us, k, -, -, hfits⟩ := (Parser.tracks_body _ ps _).error hrun
    exact hfits.kind_ne hkind
  · intro label hd
    obtain ⟨clauses, ps, stop, ls, lexeme, -, -, -, -, hpoints, heq⟩ :=
      exists_isPoints_of_compile_eq_error hd rfl
    exact neverPosted_ne_after hpoints ls label heq
  · intro d hd hkind
    obtain ⟨clauses, ps, stop, ls, lexeme, hclauses, hps, hread, htake, hpoints, -⟩ :=
      exists_isPoints_of_compile_eq_error hd hkind
    refine ⟨clauses, ps, stop, lexeme, hclauses, hps, hread, ?_, hpoints⟩
    rw [htake, List.getLast?_concat]
  · intro p hp
    obtain ⟨clauses, ps, e, hclauses, hps, hbody, rfl⟩ := compile_eq_ok_iff.1 hp
    obtain ⟨rest, hrun⟩ := parseBody_eq_ok_iff_run.1 hbody
    obtain ⟨s, hread, hsteps, hlabelled⟩ := OnePass.labelled_of_read hrun
    refine ⟨clauses, ps, s, hclauses, hps, hread, ?_, ?_, ?_, ?_⟩
    · rw [hsteps]
      exact Expr.compile_eq _ _ _
    · rw [Assembler.labels_size_run]
      exact Nat.zero_add _
    · intro label hlabel
      exact hlabelled.used_once label (Nat.zero_le _) hlabel
    · intro step hstep label huses
      exact (hlabelled.range step hstep label huses).2

/-- The third lexeme of `a+..` is points alone. -/
example : compile "\x7b|a|a+..\x7d" {} = .error ⟨.other, "a+..<e33>"⟩ := by
  decide +kernel

end Formula
