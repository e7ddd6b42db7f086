import Formula.Proofs.Arity
import Formula.Proofs.Clauses
import Formula.Proofs.Lexeme.Spacing
import Formula.Proofs.Machine.Containment
import Formula.Proofs.ParameterList
import Formula.Proofs.WellFormed

/-!
# Reading a parameter

A formula whose body is the name of a declared parameter is compiled, and it evaluates to the
argument at the first place where the name is declared (`compile_parameter`). Names of the catalogue
are the exception: they can be declared and assigned to, but as atoms they are calls, so a body that
is such a name misses a parenthesis. A name is a word of its clause, and a word is a lexeme wherever
it stands alone.
-/

namespace Formula
open Formula.Unicode Formula.Lexeme

/-- What stands in a list with separators is a separator, or it is of the list. -/
lemma eq_or_mem_of_mem_intersperse {α : Type} {sep a : α} {l : List α}
    (h : a ∈ l.intersperse sep) : a = sep ∨ a ∈ l := by
  fun_induction List.intersperse sep l with
  | case1 => exact .inr h
  | case2 => exact .inr h
  | case3 b l _ ih =>
    simp only [List.mem_cons] at h ⊢
    rcases h with rfl | rfl | h
    · exact .inr (.inl rfl)
    · exact .inl rfl
    · exact (ih h).imp id .inr

/-- Separators leave out nothing. -/
lemma mem_intersperse_of_mem {α : Type} (sep : α) {a : α} {l : List α} (h : a ∈ l) :
    a ∈ l.intersperse sep := by
  fun_induction List.intersperse sep l with
  | case1 => exact h
  | case2 => exact h
  | case3 b l _ ih =>
    rcases List.mem_cons.1 h with rfl | h
    · exact List.mem_cons_self
    · exact List.mem_cons_of_mem _ (List.mem_cons_of_mem _ (ih h))

/-- Separators are mapped like what they separate. -/
lemma map_intersperse {α β : Type} (f : α → β) (sep : α) (l : List α) :
    (l.intersperse sep).map f = (l.map f).intersperse (f sep) := by
  fun_induction List.intersperse sep l with
  | case1 => rfl
  | case2 => rfl
  | case3 a l _ ih =>
    cases l with
    | nil => contradiction
    | cons b l => rw [List.map_cons, List.map_cons, ih]; rfl

namespace Lexeme

variable {c : Char} {l : List Char} {text name : String}

/-- An identifier of a text is a word that does not start as a number does. -/
lemma exists_of_mem_tokens (h : Token.word name ∈ tokens text) :
    ∃ c l, name.toList = c :: l ∧ (∀ d ∈ c :: l, isWord d = true) ∧ isNumberChar c = false := by
  obtain ⟨lexeme, hlexeme, hclassify⟩ := List.mem_map.1 h
  obtain ⟨⟨rule, l⟩, hmem, rfl⟩ := List.mem_map.1 hlexeme
  obtain ⟨afterWord, text', rest, hfirst⟩ := exists_first?_of_mem_scan hmem
  have hname : name = String.ofList l := (congrArg Token.text hclassify).symm
  obtain rfl := (classified_of_first? hfirst).identifier_iff.1 (congrArg Token.kind hclassify)
  cases Starts.of_first? hfirst with
  | word _ hall hnumber => exact ⟨_, _, by rw [hname, String.toList_ofList], hall, hnumber⟩

/-- An identifier of a text is the only token of the text that it is itself. -/
lemma tokens_of_mem_tokens (h : Token.word name ∈ tokens text) : tokens name = [.word name] := by
  obtain ⟨lexeme, hlexeme, hclassify⟩ := List.mem_map.1 h
  obtain rfl : lexeme = name := congrArg Token.text hclassify
  rw [tokens, lexemes_of_mem_lexemes hlexeme, List.map_singleton, hclassify]

end Lexeme

namespace Parameters

variable {ps : Parameters} {clause name : String}

/-- The slot of a declared name is the first place where it is declared. -/
lemma slot?_of_mem (hname : name ∈ ps.names) : ps.slot? name = some (ps.names.idxOf name) := by
  rw [slot?, List.idxOf_eq_getD_idxOf?]
  cases hslot : ps.names.idxOf? name with
  | none => exact absurd hname (List.idxOf?_eq_none_iff.1 hslot)
  | some slot => rfl

/-- An accepted clause consists of the names that it declares, with commas between them. -/
lemma tokens_of_ofClause (h : ofClause clause = .ok ps) :
    tokens clause = (ps.names.map Token.word).intersperse (.sign ",") := by
  obtain ⟨hlexemes, hnames⟩ := ofClause_eq_ok_iff.1 h
  have hcomma : Token.classify "," = .sign "," := by decide
  have hword : ∀ n ∈ ps.names, Token.classify n = .word n := fun n hn => by
    rw [Token.word, ← (hnames n hn).1]
    rfl
  rw [tokens, hlexemes, map_intersperse, hcomma, List.map_congr_left hword]

/-- A declared name is an identifier of the clause. -/
lemma mem_tokens_of_mem_names (h : ofClause clause = .ok ps) (hname : name ∈ ps.names) :
    Token.word name ∈ tokens clause := by
  rw [tokens_of_ofClause h]
  exact mem_intersperse_of_mem _ (List.mem_map_of_mem hname)

/-- A character of an accepted clause that can be in a lexeme is in a word, or it is a comma. -/
lemma isWord_of_mem_clause (h : ofClause clause = .ok ps) {c : Char} (hc : c ∈ clause.toList)
    (hlexical : isLexical c = true) (hne : c ≠ ',') : isWord c = true := by
  obtain ⟨letters, foreign, stretches, hcut⟩ := exists_cut false clause.toList
  rw [hcut.text_eq, List.mem_append, List.mem_append, List.mem_flatMap] at hc
  rcases hc with (hletters | hforeign) | ⟨s, hs, hc⟩
  · exact isWord_of_isLetter (hcut.letters_isLetter c hletters)
  · cases (hcut.foreign_not_lexical c hforeign).symm.trans hlexical
  rw [Stretch.text, List.mem_append, List.mem_append] at hc
  rcases hc with (hlexeme | hletters) | hforeign
  · -- The lexeme is a token of the clause: a comma or an identifier.
    have htoken : Token.classify (String.ofList s.lexeme) ∈ tokens clause := by
      rw [tokens, lexemes, hcut.scan_eq, List.map_map, List.map_map]
      exact List.mem_map.2 ⟨s, hs, rfl⟩
    have hmem := htoken
    rw [tokens_of_ofClause h] at hmem
    rcases eq_or_mem_of_mem_intersperse hmem with hcomma | hname
    · have hs : s.lexeme = [','] := String.ofList_injective (congrArg Token.text hcomma)
      rw [hs] at hlexeme
      exact absurd (List.mem_singleton.1 hlexeme) hne
    · obtain ⟨n, -, hn⟩ := List.mem_map.1 hname
      obtain ⟨d, l, hl, hall, -⟩ := exists_of_mem_tokens (hn ▸ htoken)
      have hs : n = String.ofList s.lexeme := congrArg Token.text hn
      rw [hs, String.toList_ofList] at hl
      rw [hl] at hlexeme
      exact hall c hlexeme
  · exact isWord_of_isLetter (s.letters_isLetter c hletters)
  · cases (s.foreign_not_lexical c hforeign).symm.trans hlexical

/-- No pipe is in an accepted clause. -/
lemma pipe_not_mem (h : ofClause clause = .ok ps) : Clauses.pipe ∉ clause.toList := by
  intro hmem
  have hword := isWord_of_mem_clause h hmem (by decide) (by decide)
  revert hword
  decide

end Parameters

/-- A text is a formula of a clause and a body if it is their formula once it is trimmed and in
lower case. -/
def IsFormula (text clause body : String) : Prop :=
  lowerCase (trim text.toList) = ("\x7b|" ++ clause ++ "|" ++ body ++ "\x7d").toList

section Alone

open Formula.Parser

variable {ps : Parameters} {text clause name : String} {options : CompileOptions}

/-- The clauses of a formula whose body is a name of its clause. -/
lemma ofText_of_isFormula (htext : IsFormula text clause name)
    (hclosing : Clauses.closing ∉ clause.toList) (hparameters : Parameters.ofClause clause = .ok ps)
    (hname : name ∈ ps.names) : Clauses.ofText text = .ok ⟨clause, name⟩ := by
  have hmem := Parameters.mem_tokens_of_mem_names hparameters hname
  obtain ⟨c, l, hc, hall, -⟩ := exists_of_mem_tokens hmem
  have hbody : Clauses.closing ∉ name.toList := by
    intro hmem
    have hword := hall _ (hc ▸ hmem)
    revert hword
    decide
  have hblank : name.toList.all isWhiteSpace = false := by
    refine not_blank_of_lexemes fun hnil => ?_
    have htokens := tokens_of_mem_tokens hmem
    rw [tokens, hnil] at htokens
    cases htokens
  refine Clauses.ofText_eq_ok_iff.2 ⟨⟨[], ?_⟩, Parameters.pipe_not_mem hparameters, hclosing, hbody,
    hblank⟩
  rw [htext]
  simp [Clauses.opening, Clauses.pipe, Clauses.closing]

/-- A body that is a name is read as the name is. -/
lemma run_body_of_name (allowed : Bool) (ps : Parameters)
    {x : Except Failure (Expr × List Token)} (hx : Settled x)
    (h : (identifier { parameters := ps }
      (expression allowed (maxNesting - 2) (Scope.condition { parameters := ps } allowed))
      (expression allowed (maxNesting - 2) (Scope.parens { parameters := ps })) name).run
        [.word name] = x) :
    (body allowed ps).run [.word name] = x :=
  run_body_of_settled hx (run_expression_of_atom hx rfl rfl rfl h)

/-- The name of a parameter that is not in the catalogue is read as the parameter. -/
lemma parseBody_parameter (allowed : Bool) (hparameters : Parameters.ofClause clause = .ok ps)
    (hname : name ∈ ps.names) (hcallee : Catalogue.callee? name = none) :
    parseBody allowed ps name = .ok (.param (ps.names.idxOf name)) := by
  have hslot := Parameters.slot?_of_mem hname
  have hconstant := Parameters.constant?_of_slot? hparameters hslot
  have hmem := Parameters.mem_tokens_of_mem_names hparameters hname
  rw [parseBody_eq_ok_iff_run, tokens_of_mem_tokens hmem]
  exact ⟨[], run_body_of_name allowed ps (by rintro _ _ ⟨⟩; rfl)
    (run_identifier_param hcallee hconstant hslot)⟩

/-- The name of a parameter that is in the catalogue is read as a call. -/
lemma run_body_catalogue (allowed : Bool) (ps : Parameters) {callee : Callee}
    (hcallee : Catalogue.callee? name = some callee) :
    (body allowed ps).run [.word name] = .error ⟨.missingParen, []⟩ := by
  refine run_body_of_name allowed ps nofun ?_
  cases callee with
  | function f => exact run_identifier_function hcallee
  | conditional => exact run_identifier_conditional hcallee

/-- The program of a parameter evaluates to its argument. -/
lemma execute_parameter {optimize : Bool} {n slot : Nat} (hslot : slot < n) (hn : n < 2 ^ 31)
    {config : MachineConfig} {args : List Float} (hargs : n ≤ args.length)
    (hmemory : n ≤ config.memorySize) :
    ∃ x, args[slot]? = some x ∧
      ((Expr.param slot).program optimize n).execute config args = .ok ⟨x, none⟩ := by
  have harg : args[slot]? = some args[slot] := List.getElem?_eq_getElem (by omega)
  have hmem : (Machine.startMemory config n args).getD slot 0 = args[slot] := by
    rw [Array.getD_eq_getD_getElem?, Machine.getElem?_startMemory hargs hslot, harg]
    rfl
  have hsize : ((Expr.param slot).program optimize n).code.size ≤ 2 ^ 31 := by
    simp [Expr.program, Expr.words, Expr.loadWords, Expr.pushWords]
  have hslots : (Expr.param slot).SlotsBelow n := hslot
  have hrun := Expr.execute_program hslots hn hsize config args
  rw [Expr.outcome_of_le _ hargs hmemory, Expr.evalWithin, hmem] at hrun
  exact ⟨args[slot], harg, eq_ok_of_mapError hrun⟩

/-- A formula whose body is the name of a declared parameter is compiled unless the name is in the
catalogue, and it evaluates to the argument at the first place where the name is declared. A name of
the catalogue misses its parenthesis. -/
theorem compile_parameter (options : CompileOptions) (htext : IsFormula text clause name)
    (hclosing : Clauses.closing ∉ clause.toList) (hparameters : Parameters.ofClause clause = .ok ps)
    (hname : name ∈ ps.names) :
    (Catalogue.callee? name = none →
      ∃ p, compile text options = .ok p ∧
        (ps.size < 2 ^ 31 → ∀ (config : MachineConfig) (args : List Float),
          ps.size ≤ args.length → ps.size ≤ config.memorySize →
            ∃ x, args[ps.names.idxOf name]? = some x ∧ p.execute config args = .ok ⟨x, none⟩)) ∧
      ((Catalogue.callee? name).isSome = true →
        compile text options = .error (.after .missingParen name)) := by
  have hclauses := ofText_of_isFormula htext hclosing hparameters hname
  refine ⟨?_, ?_⟩
  · intro hcallee
    have hbody := parseBody_parameter options.allowConditionalAssignment hparameters hname hcallee
    refine ⟨_, compile_eq_ok_iff.2 ⟨_, ps, _, hclauses, hparameters, hbody, rfl⟩, ?_⟩
    intro hsize config args hargs hmemory
    exact execute_parameter (List.idxOf_lt_length_of_mem hname) hsize hargs hmemory
  · intro hcallee
    obtain ⟨callee, hcallee⟩ := Option.isSome_iff_exists.1 hcallee
    have hrun := run_body_catalogue options.allowConditionalAssignment ps hcallee
    have htokens := tokens_of_mem_tokens (Parameters.mem_tokens_of_mem_names hparameters hname)
    rw [← htokens] at hrun
    have hconsumed : consumed (tokens name) [] = name := by
      rw [htokens]
      simp [consumed]
    exact (compile_eq_error_iff hclauses hparameters).2 ⟨_, hrun, by rw [hconsumed]⟩

/-- The second of two parameters of one name is not read, and the case of their letters is the same.
-/
theorem compile_parameter_twice :
    IsFormula " \x7b|B, a,b|B\x7d" "b, a,b" "b" ∧
      ∃ p, compile " \x7b|B, a,b|B\x7d" {} = .ok p ∧
        ∀ x y z, p.execute {} [x, y, z] = .ok ⟨x, none⟩ := by
  have htext : IsFormula " \x7b|B, a,b|B\x7d" "b, a,b" "b" := by
    unfold IsFormula
    decide +kernel
  have hparameters : Parameters.ofClause "b, a,b" = .ok ⟨["b", "a", "b"]⟩ :=
    eq_ok_of_toOption (by decide +kernel)
  obtain ⟨p, hcompile, hexecute⟩ :=
    (compile_parameter {} htext (by decide) hparameters (by decide)).1 (by decide)
  refine ⟨htext, p, hcompile, ?_⟩
  intro x y z
  obtain ⟨v, hv, hrun⟩ := hexecute (by decide) {} [x, y, z] (Nat.le_refl 3) (by decide)
  cases hv
  exact hrun

/-- A parameter with the name of a function is declared, and it cannot be read. -/
theorem compile_parameter_abs :
    Parameters.ofClause "abs" = .ok ⟨["abs"]⟩ ∧ IsFormula "\x7b|abs|abs\x7d" "abs" "abs" ∧
      ∀ options p, compile "\x7b|abs|abs\x7d" options ≠ .ok p := by
  have hparameters : Parameters.ofClause "abs" = .ok ⟨["abs"]⟩ :=
    eq_ok_of_toOption (by decide +kernel)
  have hclauses : Clauses.ofText "\x7b|abs|abs\x7d" = .ok ⟨"abs", "abs"⟩ :=
    eq_ok_of_toOption (by decide +kernel)
  have htext : IsFormula "\x7b|abs|abs\x7d" "abs" "abs" := by
    unfold IsFormula
    decide +kernel
  have hcallee : Catalogue.callee? "abs" = some (.function (.one .abs)) := by decide
  refine ⟨hparameters, htext, ?_⟩
  intro options p hp
  have hrun := run_body_catalogue options.allowConditionalAssignment ⟨["abs"]⟩ hcallee
  rw [← tokens_name hcallee] at hrun
  have herror := (compile_eq_error_iff hclauses hparameters).2 ⟨_, hrun, rfl⟩
  cases herror.symm.trans hp

end Alone

end Formula
