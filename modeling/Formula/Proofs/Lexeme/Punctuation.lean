import Formula.Catalogue
import Formula.Proofs.Lexeme.First
import Formula.Proofs.Parser.Run
import Formula.Token

/-!
# Lexemes around punctuation

A parenthesis or a comma is a lexeme of its own, and no rule reads past it. So what stands before it and
what stands after it are cut into lexemes independently of each other (`tokens_append_sign`), and the
tokens of a call are those of its arguments with punctuation between them (`tokens_callText`).
-/

namespace Formula.Lexeme
open Formula.Unicode

/-- The parentheses and the comma. -/
def punctuation : List Char :=
  ['(', ')', ',']

variable {afterWord : Bool} {rule : Rule} {c : Char} {text l rest after : List Char}

/-- Punctuation ends the lexeme before it. -/
lemma separates_of_mem_punctuation : ∀ c ∈ punctuation, Separates c := by
  unfold Separates
  decide

/-- Punctuation is a lexeme of its own. -/
lemma exists_first?_punctuation (hc : c ∈ punctuation) (afterWord : Bool) (rest : List Char) :
    ∃ rule, first? afterWord (c :: rest) = some (rule, [c], rest) := by
  simp only [punctuation, List.mem_cons, List.not_mem_nil, or_false] at hc
  rcases hc with rfl | rfl | rfl
  · exact ⟨.paren, rfl⟩
  · exact ⟨.paren, rfl⟩
  · -- The comma starts no pair, whatever comes next.
    refine ⟨.sign, ?_⟩
    cases rest with
    | nil => rfl
    | cons d rest => rfl

/-- The lexemes before punctuation and those after it do not depend on each other. -/
lemma scan_append (hc : c ∈ punctuation) (afterWord : Bool) (text after : List Char) :
    ∃ rule, scan afterWord (text ++ c :: after) =
      scan afterWord text ++ (rule, [c]) :: scan false after := by
  fun_induction scan afterWord text with
  | case1 afterWord text rule l rest hfirst ih =>
    obtain ⟨rule', ih⟩ := ih
    obtain ⟨rfl, hstarts⟩ := first?_eq_some_iff.1 hfirst
    have hfirst' := (hstarts.append (separates_of_mem_punctuation c hc) after).first?
    exact ⟨rule', by rw [List.append_assoc, scan_of_first?_eq_some hfirst', ih, List.cons_append]⟩
  | case2 afterWord hfirst =>
    obtain ⟨rule, hrule⟩ := exists_first?_punctuation hc afterWord after
    refine ⟨rule, ?_⟩
    rw [List.nil_append, scan_of_first?_eq_some hrule, List.nil_append]
    simp [(separates_of_mem_punctuation c hc).2.1]
  | case3 afterWord d rest hfirst ih =>
    obtain ⟨rule, ih⟩ := ih
    have hfirst' : first? afterWord (d :: (rest ++ c :: after)) = none :=
      first?_eq_none_iff.2 (first?_eq_none_iff.1 hfirst)
    exact ⟨rule, by rw [List.cons_append, scan_of_first?_eq_none hfirst', ih]⟩

end Formula.Lexeme

namespace Formula
open Formula.Lexeme

/-- The text of a call. -/
def callText (name : String) (es : List String) : String :=
  name ++ "(" ++ ",".intercalate es ++ ")"

namespace Token

/-- The tokens behind an argument: a comma before each further argument, and the parenthesis at the
end. -/
def behind (arguments : List (List Token)) : List Token :=
  arguments.flatMap (.sign "," :: ·) ++ [.sign ")"]

/-- The tokens of the arguments of a call and of the parenthesis at the end. -/
def enclosed : List (List Token) → List Token
  | [] => [.sign ")"]
  | ts :: tss => ts ++ behind tss

end Token

/-- Punctuation is a token of its own, and it does not change the tokens before and after it. -/
lemma tokens_append_sign {c : Char} (hc : c ∈ punctuation) {text : String} (before after : String)
    (htext : text.toList = before.toList ++ c :: after.toList) :
    tokens text = tokens before ++ .sign (String.singleton c) :: tokens after := by
  obtain ⟨rule, hscan⟩ := scan_append hc false before.toList after.toList
  have hsign : Token.classify (String.singleton c) = .sign (String.singleton c) := by
    simp only [punctuation, List.mem_cons, List.not_mem_nil, or_false] at hc
    rcases hc with rfl | rfl | rfl
    · decide
    · decide
    · decide
  simp [tokens, lexemes, htext, hscan, hsign]

/-- An empty text has no tokens. -/
lemma tokens_empty : tokens "" = [] := by
  rw [tokens, lexemes, String.toList_empty, scan_nil]
  rfl

/-- The tokens of a text before a closing parenthesis. -/
lemma tokens_append_close (e : String) : tokens (e ++ ")") = tokens e ++ [.sign ")"] := by
  rw [tokens_append_sign (c := ')') (by decide) e "" (by simp), tokens_empty]
  rfl

/-- The tokens of expressions with commas between them are those of the expressions, with commas. -/
lemma tokens_arguments (es : List String) :
    tokens (",".intercalate es ++ ")") = Token.enclosed (es.map tokens) := by
  induction es with
  | nil =>
    rw [String.intercalate_nil, tokens_append_close, tokens_empty]
    rfl
  | cons e es ih =>
    cases es with
    | nil => exact tokens_append_close e
    | cons e' es =>
      rw [tokens_append_sign (c := ',') (by decide) e (",".intercalate (e' :: es) ++ ")") (by simp), ih]
      simp [Token.enclosed, Token.behind]

/-- The name of a function is one token. -/
lemma tokens_name {name : String} {callee : Callee} (h : Catalogue.callee? name = some callee) :
    tokens name = [.word name] := by
  obtain ⟨l₁, l₂, hfunctions, -⟩ := List.lookup_eq_some_iff.1 h
  have hmem : name ∈ Catalogue.functions.map (·.1) := by simp [hfunctions]
  have hnames : ∀ n ∈ Catalogue.functions.map (·.1), tokens n = [.word n] := by decide +kernel
  exact hnames name hmem

/-- The tokens of a call are its name, and its arguments between parentheses. -/
lemma tokens_callText {name : String} {callee : Callee} (h : Catalogue.callee? name = some callee)
    (es : List String) :
    tokens (callText name es) = .word name :: .sign "(" :: Token.enclosed (es.map tokens) := by
  rw [tokens_append_sign (c := '(') (by decide) name (",".intercalate es ++ ")") (by simp [callText]),
    tokens_name h, tokens_arguments]
  rfl

end Formula
