import Formula.Proofs.Clauses
import Formula.Proofs.Compile
import Formula.Proofs.ConditionalAssignment
import Formula.Proofs.Lexeme.Punctuation
import Formula.Proofs.Lexeme.Spacing
import Formula.Proofs.Lexeme.Spelling
import Formula.Proofs.ParameterList
import Formula.Proofs.Parser.Replacement

/-!
# Spellings that make no difference

Which of its two names a conditional has and which of the two signs stands for operands that are not
equal makes no difference to the program of a formula, and neither does a pair of parentheses around the
whole body, as long as there is room for it (`compile_respelled`). The body is another text, but it has a
derivation with the same tree.
-/

namespace Formula
open Formula.Unicode Formula.Lexeme

variable {ps : Parameters} {text text' : String} {r : Reading}

/-- A name of the conditional is a token that calls the conditional. -/
lemma classify_conditional {l : List Char} (hl : l ∈ conditionals) :
    Token.classify (String.ofList l) = .word (String.ofList l) ∧
      Catalogue.callee? (String.ofList l) = some .conditional ∧
        Catalogue.constant? (String.ofList l) = none := by
  revert l
  decide +kernel

/-- A sign for operands that are not equal is a token that compares them. -/
lemma classify_unequal {l : List Char} (hl : l ∈ unequals) :
    Token.classify (String.ofList l) = .sign (String.ofList l) ∧
      String.ofList l ∉ Token.marks ∧ UnaryOp.ofSign? (String.ofList l) = none ∧
        ∀ level ∈ Level.all, level.lookup (String.ofList l) = level.lookup "!=" := by
  revert l
  decide +kernel

/-- Synonyms can be put in place of each other. -/
lemma Lexeme.Synonyms.like {l l' : List Char} (h : Synonyms ps l l') :
    Token.Like ps (.classify (String.ofList l)) (.classify (String.ofList l')) := by
  cases h with
  | same => exact .same _
  | conditional hl hl' hnames =>
    obtain ⟨htoken, hcallee, hconstant⟩ := classify_conditional hl
    obtain ⟨htoken', hcallee', hconstant'⟩ := classify_conditional hl'
    have hslot := Parameters.slot?_eq_none_iff.2 (hnames l hl)
    have hslot' := Parameters.slot?_eq_none_iff.2 (hnames l' hl')
    rw [htoken, htoken']
    exact .word ⟨hcallee'.trans hcallee.symm, hconstant'.trans hconstant.symm,
      hslot'.trans hslot.symm⟩
  | unequal hl hl' =>
    obtain ⟨htoken, hmark, hprefix, hlookup⟩ := classify_unequal hl
    obtain ⟨htoken', -, hprefix', hlookup'⟩ := classify_unequal hl'
    rw [htoken, htoken']
    exact .sign hmark ⟨hprefix'.trans hprefix.symm, fun level hlevel =>
      (hlookup' level hlevel).trans (hlookup level hlevel).symm⟩

/-- The lexemes of an expression can be replaced by synonyms, and the reading is the same. -/
theorem Derives.respelled (h : Derives ps .expression (tokens text) r)
    (htext : Respelled ps false text.toList text'.toList) :
    Derives ps .expression (tokens text') r := by
  have hapart : (scan false text.toList).IsChain Apart := by
    have hchain := h.isChain
    rw [tokens, lexemes, List.map_map, List.isChain_map] at hchain
    refine hchain.imp fun a b hab ha hb => ?_
    have hsigns := hab "<" "!=" (by simp [ha]; decide) (by simp [hb]; decide)
    revert hsigns
    unfold Token.StartsOperand
    decide
  refine h.replace (List.nil_subset _) ?_
  rw [tokens, tokens, lexemes, lexemes, List.map_map, List.map_map, List.forall₂_map_left_iff,
    List.forall₂_map_right_iff]
  exact (htext.forall₂_scan hapart).imp fun _ _ hab => hab.2.like

/-- A body with parentheses around it has its tokens between the tokens of the parentheses. -/
lemma tokens_parens (text : String) :
    tokens ("(" ++ text ++ ")") = .sign "(" :: (tokens text ++ [.sign ")"]) := by
  rw [tokens_append_sign (c := '(') (by decide) "" (text ++ ")") (by simp), tokens_append_close,
    tokens_empty]
  rfl

/-- An expression in parentheses is an expression, two levels deeper: that of the parentheses as an
operand, and that of the whole. -/
lemma Derives.parens {ts : List Token} (h : Derives ps .expression ts r) :
    Derives ps .expression (.sign "(" :: (ts ++ [.sign ")"])) r.nest.nest := by
  have hchains (levels : List Level) {us : List Token} {s : Reading} (h : Derives ps .operand us s) :
      Derives ps (levels.foldr .chain .operand) us s := by
    induction levels with
    | nil => exact h
    | cons level levels ih => exact .single ih
  exact .operation (hchains _ (.atom (.parenthesis (.single h))))

/-- A body with other spellings stands for the same tree. -/
lemma parseBody_respelled {allowed : Bool} {e : Expr} (h : parseBody allowed ps text = .ok e)
    (htext : Respelled ps false text.toList text'.toList) : parseBody allowed ps text' = .ok e := by
  obtain ⟨r, hr, htree, hadm⟩ := parseBody_eq_ok_iff.1 h
  exact parseBody_eq_ok_iff.2 ⟨r, hr.respelled htext, htree, hadm⟩

/-- A body with parentheses around it stands for the same tree if there is room for it. -/
lemma parseBody_parens {allowed : Bool} {e : Expr} (h : parseBody allowed ps text = .ok e)
    (hr : Derives ps .expression (tokens ("(" ++ text ++ ")")) r)
    (hlevels : r.levels ≤ Parser.maxNesting) : parseBody allowed ps ("(" ++ text ++ ")") = .ok e := by
  obtain ⟨s, hs, rfl, hadm⟩ := parseBody_eq_ok_iff.1 h
  have hparens := hs.parens
  rw [← tokens_parens] at hparens
  have htree : r.tree = s.nest.nest.tree := hr.tree_unique hparens
  -- Where it assigns is told from the tree.
  have hconditions : r.conditionAssigns = s.conditionAssigns := by
    rw [← hr.assigns_eq.2, htree, hparens.assigns_eq.2]
    rfl
  exact parseBody_eq_ok_iff.2 ⟨r, hr, htree, hlevels, nofun,
    fun hallowed => hconditions.trans (hadm.conditionAssigns_eq hallowed)⟩

/-- Clauses keep clear of their marks with any other expression as their body. -/
lemma Clauses.IsClear.of_derives {c : Clauses} {body : String} (hc : c.IsClear)
    (hclosing : closing ∉ body.toList) (h : Derives ps .expression (tokens body) r) :
    (⟨c.parameters, body⟩ : Clauses).IsClear :=
  ⟨hc.pipe_parameters, hc.closing_parameters, hclosing,
    not_blank_of_lexemes fun hnil => h.ne_nil (by rw [tokens, hnil]; rfl)⟩

/-- Spellings that make no difference. For a text that is compiled, any text whose body has some names of
the conditional replaced by each other, unless one of them is a parameter, and some signs for operands
that are not equal, is compiled to the same program. A text whose body has one more pair of parentheses
around it is compiled to the same program if and only if its levels of nesting are within their number,
and these are two more than those of the body. -/
theorem compile_respelled {c : Clauses} {options : CompileOptions} {p : Program}
    (hclauses : Clauses.ofText text = .ok c)
    (hparameters : Parameters.ofClause c.parameters = .ok ps)
    (hcompile : compile text options = .ok p) :
    (∀ body' text' : String, Respelled ps false c.body.toList body'.toList →
      Clauses.Encloses (lowerCase (trim text'.toList)) ⟨c.parameters, body'⟩ →
        compile text' options = .ok p) ∧
    (∀ text' : String,
      Clauses.Encloses (lowerCase (trim text'.toList)) ⟨c.parameters, "(" ++ c.body ++ ")"⟩ →
        (compile text' options = .ok p ↔
          ∃ r, Derives ps .expression (tokens ("(" ++ c.body ++ ")")) r ∧
            r.levels ≤ Parser.maxNesting)) ∧
    ∀ r, Derives ps .expression (tokens c.body) r →
      ∃ r', Derives ps .expression (tokens ("(" ++ c.body ++ ")")) r' ∧
        r'.levels = r.levels + 2 := by
  obtain ⟨c', ps', e, hclauses', hparameters', hbody, rfl⟩ := compile_eq_ok_iff.1 hcompile
  obtain rfl : c = c' := Except.ok.inj (hclauses.symm.trans hclauses')
  obtain rfl : ps = ps' := Except.ok.inj (hparameters.symm.trans hparameters')
  obtain ⟨-, hclear⟩ := Clauses.ofText_eq_ok_iff.1 hclauses
  obtain ⟨r, hr, -⟩ := parseBody_eq_ok_iff.1 hbody
  refine ⟨?_, ?_, ?_⟩
  · intro body' text' hbody' htext'
    have hclosing : Clauses.closing ∉ body'.toList := fun hmem =>
      hbody'.forall_mem (p := (· ≠ Clauses.closing)) (by decide)
        (fun _ ha he => hclear.closing_body (he ▸ ha)) _ hmem rfl
    have hclear' := hclear.of_derives hclosing (hr.respelled hbody')
    exact compile_eq_ok_iff.2 ⟨_, ps, e, Clauses.ofText_eq_ok_iff.2 ⟨htext', hclear'⟩, hparameters,
      parseBody_respelled hbody hbody', rfl⟩
  · intro text' htext'
    have hclosing : Clauses.closing ∉ ("(" ++ c.body ++ ")").toList := by
      have hmarks : Clauses.closing ≠ '(' ∧ Clauses.closing ≠ ')' := by decide
      simp [hclear.closing_body, hmarks]
    have hclear' := hclear.of_derives hclosing (tokens_parens c.body ▸ hr.parens)
    have hclauses' := Clauses.ofText_eq_ok_iff.2 ⟨htext', hclear'⟩
    refine ⟨fun h => ?_, ?_⟩
    · obtain ⟨c', ps', e', hc', hps', hbody', -⟩ := compile_eq_ok_iff.1 h
      cases hclauses'.symm.trans hc'
      cases hparameters.symm.trans hps'
      obtain ⟨r', hr', -, hadm'⟩ := parseBody_eq_ok_iff.1 hbody'
      exact ⟨r', hr', hadm'.levels_le⟩
    · rintro ⟨r', hr', hlevels⟩
      exact compile_eq_ok_iff.2 ⟨_, ps, e, hclauses', hparameters,
        parseBody_parens hbody hr' hlevels, rfl⟩
  · intro r hr
    rw [tokens_parens]
    exact ⟨_, hr.parens, rfl⟩

/-- A conditional under its other name, with the other sign in its condition, and in parentheses. -/
theorem compile_respelled_conditional :
    ∃ p, compile "\x7b|a|if(a<>0,1,2)\x7d" {} = .ok p ∧
      compile "\x7b|a|IIF(a!=0,1,2)\x7d" {} = .ok p ∧
        compile "\x7b|a|(if(a<>0,1,2))\x7d" {} = .ok p := by
  have hclauses : Clauses.ofText "\x7b|a|if(a<>0,1,2)\x7d" = .ok ⟨"a", "if(a<>0,1,2)"⟩ :=
    eq_ok_of_toOption (by decide +kernel)
  have hparameters : Parameters.ofClause "a" = .ok ⟨["a"]⟩ := eq_ok_of_toOption (by decide +kernel)
  obtain ⟨p, hp⟩ : ∃ p, compile "\x7b|a|if(a<>0,1,2)\x7d" {} = .ok p := by
    obtain ⟨p, hp⟩ := Option.isSome_iff_exists.1
      (show (compile "\x7b|a|if(a<>0,1,2)\x7d" {}).toOption.isSome = true by decide +kernel)
    exact ⟨p, eq_ok_of_toOption hp⟩
  have hbody : Respelled ⟨["a"]⟩ false "if(a<>0,1,2)".toList "iif(a!=0,1,2)".toList := by
    have hlexemes : Respelled ⟨["a"]⟩ false
        (['i', 'f'] ++ (['('] ++ (['a'] ++ (['<', '>'] ++ "0,1,2)".toList))))
        (['i', 'i', 'f'] ++ (['('] ++ (['a'] ++ (['!', '='] ++ "0,1,2)".toList)))) := by
      refine .lexeme (Starts.word rfl (by decide) (by decide) (by simp; decide)).first?
        (.conditional (by decide) (by decide) (by decide)) ?_
      refine .lexeme (Starts.paren (by decide)).first? (.same _) ?_
      refine .lexeme (Starts.word rfl (by decide) (by decide) (by simp; decide)).first? (.same _) ?_
      exact .lexeme (Starts.pair (by decide)).first? (.unequal (by decide) (by decide)) (.refl _ _)
    exact hlexemes
  obtain ⟨hspelling, hparens, -⟩ := compile_respelled hclauses hparameters hp
  refine ⟨p, hp, hspelling _ _ hbody ⟨[], by decide +kernel⟩, (hparens _ ⟨[], by decide +kernel⟩).2 ?_⟩
  obtain ⟨e, he⟩ := Option.isSome_iff_exists.1
    (show (parseBody false ⟨["a"]⟩ "(if(a<>0,1,2))").toOption.isSome = true by decide +kernel)
  obtain ⟨r, hr, -, hadm⟩ := parseBody_eq_ok_iff.1 (eq_ok_of_toOption he)
  exact ⟨r, hr, hadm.levels_le⟩

end Formula
