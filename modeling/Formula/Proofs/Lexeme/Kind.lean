import Formula.Proofs.Lexeme.First
import Formula.Token

/-!
# The kinds of lexemes

Lexemes are classified without regard to how they were read, by tests of their own in another order.
The kind of a lexeme is nevertheless the one of the rule that read it (`lexemes_classified`). Only
points without a digit, which are read as a number, are of unknown kind. What a rule reads could pass
the test of an earlier kind in one case, a word that starts as a number does; but there the rule for
numbers reads first.
-/

namespace Formula
open Formula.Unicode

/-- No text is classified as the token past the last one. -/
lemma Token.kind_classify_ne (lexeme : String) : (classify lexeme).kind ≠ .finished := by
  simp only [classify, TokenKind.ofText]
  repeat' split
  all_goals decide

namespace Lexeme

/-- The kind of what a rule has read. -/
def Rule.kind (l : List Char) : Rule → TokenKind
  | .paren | .pair | .sign => .delimiter
  | .hex => .hexNumber
  | .number => if l.any isDecimalDigit then .number else .unknown
  | .word => .identifier

/-- What it means that a token is of the kind of the rule that read it. -/
structure Classified (rule : Rule) (l : List Char) (t : Token) : Prop where
  text_eq : t.text = String.ofList l
  delimiter_iff : t.kind = .delimiter ↔ rule = .paren ∨ rule = .pair ∨ rule = .sign
  hexNumber_iff : t.kind = .hexNumber ↔ rule = .hex
  identifier_iff : t.kind = .identifier ↔ rule = .word
  number_iff : t.kind = .number ↔ rule = .number ∧ ∃ c ∈ l, isDecimalDigit c = true
  unknown_iff : t.kind = .unknown ↔ ∀ c ∈ l, c = '.'
  ne_finished : t.kind ≠ .finished

variable {afterWord : Bool} {rule : Rule} {c : Char} {text l rest : List Char}

/-- Every lexeme of a scan is the first one at some place. -/
lemma exists_first?_of_mem_scan (h : (rule, l) ∈ scan afterWord text) :
    ∃ afterWord' text' rest, first? afterWord' text' = some (rule, l, rest) := by
  fun_induction scan afterWord text with
  | case1 afterWord text rule' l' rest hfirst ih =>
    rcases List.mem_cons.1 h with heq | h
    · cases heq
      exact ⟨afterWord, text, rest, hfirst⟩
    · exact ih h
  | case2 => cases h
  | case3 afterWord c rest hfirst ih => exact ih h

/-- A delimiter consists of characters of operators. -/
lemma mem_operatorChars_of_isDelimiter (h : TokenKind.isDelimiter l = true) :
    ∀ c ∈ l, c ∈ operatorChars := by
  intro c hc
  unfold TokenKind.isDelimiter at h
  split at h
  · rw [List.mem_singleton.1 hc]
    rcases Bool.or_eq_true_iff.1 h with hparen | hsign
    · exact mem_operatorChars_of_isParen hparen
    · exact mem_operatorChars_of_mem_signs _ (List.contains_iff_mem.1 hsign)
  · obtain ⟨ha, hb⟩ := mem_operatorChars_of_mem_pairs _ (List.contains_iff_mem.1 h)
    rcases List.mem_pair.1 hc with rfl | rfl
    · exact ha
    · exact hb
  · cases h

/-- A text whose first character is of no operator is no delimiter. -/
lemma isDelimiter_eq_false (h : c ∉ operatorChars) : TokenKind.isDelimiter (c :: l) = false := by
  by_contra hdelimiter
  exact h (mem_operatorChars_of_isDelimiter (Bool.of_not_eq_false hdelimiter) c List.mem_cons_self)

/-- A point is no word character. -/
lemma isWord_point : isWord '.' = false := by
  decide

/-- A hexadecimal number starts with its mark. -/
lemma exists_of_isHexNumber (h : TokenKind.isHexNumber l = true) :
    ∃ digits, l = '0' :: 'x' :: digits := by
  unfold TokenKind.isHexNumber at h
  split at h
  · exact ⟨_, rfl⟩
  · cases h

/-- What the rule for hexadecimal numbers reads is no delimiter. -/
lemma ofText_hex (hne : l ≠ []) (hall : ∀ c ∈ l, isHexChar c = true) :
    TokenKind.ofText ('0' :: 'x' :: l) = .hexNumber := by
  have hdelimiter : TokenKind.isDelimiter ('0' :: 'x' :: l) = false :=
    isDelimiter_eq_false (by decide)
  have hhex : TokenKind.isHexNumber ('0' :: 'x' :: l) = true := by
    simpa [TokenKind.isHexNumber, hne] using hall
  simp [TokenKind.ofText, hdelimiter, hhex]

/-- What the rule for numbers reads is a number if it has a digit, and points are of no kind. -/
lemma ofText_number (hne : l ≠ []) (hall : ∀ c ∈ l, isNumberChar c = true) :
    TokenKind.ofText l = if l.any isDecimalDigit then .number else .unknown := by
  have hdelimiter : TokenKind.isDelimiter l = false := by
    obtain ⟨c, l, rfl⟩ := List.exists_cons_of_ne_nil hne
    exact isDelimiter_eq_false (not_mem_operatorChars_of_isNumberChar (hall c List.mem_cons_self))
  have hhex : TokenKind.isHexNumber l = false := by
    by_contra hhex
    obtain ⟨digits, rfl⟩ := exists_of_isHexNumber (Bool.of_not_eq_false hhex)
    have := hall 'x' (by simp)
    revert this
    decide
  have hnumber : TokenKind.isNumber l = l.any isDecimalDigit := by
    simp [TokenKind.isNumber, List.all_eq_true.2 hall]
  simp only [TokenKind.ofText, hdelimiter, hhex, hnumber, Bool.false_eq_true, if_false]
  cases hdigit : l.any isDecimalDigit with
  | true => rfl
  | false =>
    have hidentifier : TokenKind.isIdentifier l = false := by
      obtain ⟨c, l, rfl⟩ := List.exists_cons_of_ne_nil hne
      have hc : isDecimalDigit c = false := (Bool.or_eq_false_iff.1 hdigit).1
      have hpoint : c = '.' := by simpa [isNumberChar, hc] using hall c List.mem_cons_self
      simp [TokenKind.isIdentifier, hpoint, isWord_point]
    simp [hidentifier]

/-- What the rule for words reads is an identifier if it does not start as a number does. -/
lemma ofText_word (hall : ∀ d ∈ c :: l, isWord d = true) (hc : isNumberChar c = false) :
    TokenKind.ofText (c :: l) = .identifier := by
  have hword := hall c List.mem_cons_self
  have hdelimiter : TokenKind.isDelimiter (c :: l) = false := by
    refine isDelimiter_eq_false fun hoperator => ?_
    rw [isWord_of_mem_operatorChars c hoperator] at hword
    cases hword
  have hhex : TokenKind.isHexNumber (c :: l) = false := by
    by_contra hhex
    obtain ⟨digits, heq⟩ := exists_of_isHexNumber (Bool.of_not_eq_false hhex)
    cases heq
    revert hc
    decide
  have hnumber : TokenKind.isNumber (c :: l) = false := by simp [TokenKind.isNumber, hc]
  have hidentifier : TokenKind.isIdentifier (c :: l) = true := by
    simpa [TokenKind.isIdentifier] using hall
  simp [TokenKind.ofText, hdelimiter, hhex, hnumber, hidentifier]

/-- A lexeme has the kind of the rule that reads it first. -/
lemma ofText_of_first? (h : first? afterWord text = some (rule, l, rest)) :
    TokenKind.ofText l = rule.kind l := by
  cases Starts.of_first? h with
  | paren hparen => simp [TokenKind.ofText, TokenKind.isDelimiter, hparen, Rule.kind]
  | pair hpair => simp [TokenKind.ofText, TokenKind.isDelimiter, hpair, Rule.kind]
  | sign hsign => simp [TokenKind.ofText, TokenKind.isDelimiter, hsign, Rule.kind]
  | hex hne hall => exact ofText_hex hne hall
  | number hne hall => exact ofText_number hne hall
  | word _ hall hnumber => exact ofText_word hall hnumber

/-- Only the rule for numbers reads points alone. -/
lemma kind_eq_unknown_iff (h : Reads afterWord rule l rest) :
    rule.kind l = .unknown ↔ ∀ c ∈ l, c = '.' := by
  have hoperator {c : Char} (hc : c ∈ operatorChars) : c ≠ '.' := by
    rintro rfl
    revert hc
    decide
  cases h with
  | paren hparen =>
    simpa [Rule.kind] using hoperator (mem_operatorChars_of_isParen hparen)
  | pair hpair =>
    have ha := hoperator (mem_operatorChars_of_mem_pairs _ hpair).1
    simp [Rule.kind, ha]
  | hex => simp [Rule.kind]
  | sign hsign => simpa [Rule.kind] using hoperator (mem_operatorChars_of_mem_signs _ hsign)
  | number hne hall =>
    have hpoint {c : Char} (hc : c ∈ l) : isDecimalDigit c = false ↔ c = '.' := by
      refine ⟨fun hdigit => ?_, ?_⟩
      · simpa [isNumberChar, hdigit] using hall c hc
      · rintro rfl
        decide
    simp only [Rule.kind, ite_eq_right_iff, reduceCtorEq, imp_false, Bool.not_eq_true,
      List.any_eq_false]
    exact forall₂_congr fun c hc => hpoint hc
  | word _ hne hall =>
    obtain ⟨c, l, rfl⟩ := List.exists_cons_of_ne_nil hne
    have hc : c ≠ '.' := by
      rintro rfl
      have hword := hall '.' List.mem_cons_self
      rw [isWord_point] at hword
      cases hword
    simp [Rule.kind, hc]

/-- What the rule for numbers reads is of one of two kinds. -/
lemma kind_number (l : List Char) :
    (Rule.number.kind l = .number ∧ ∃ c ∈ l, isDecimalDigit c = true) ∨
      (Rule.number.kind l = .unknown ∧ ¬∃ c ∈ l, isDecimalDigit c = true) := by
  rw [Rule.kind, ← List.any_eq_true]
  split
  · next h => exact .inl ⟨rfl, h⟩
  · next h => exact .inr ⟨rfl, h⟩

/-- A token of a lexeme is of the kind of the rule that reads it first. -/
lemma classified_of_first? (h : first? afterWord text = some (rule, l, rest)) :
    Classified rule l (.classify (String.ofList l)) := by
  have hkind : (Token.classify (String.ofList l)).kind = rule.kind l := by
    rw [Token.classify, String.toList_ofList, ofText_of_first? h]
  have hunknown := kind_eq_unknown_iff (reads_of_first? h)
  rw [← hkind] at hunknown
  cases rule with
  | number =>
    rcases kind_number l with ⟨hnumber, hdigit⟩ | ⟨hpoints, hdigit⟩
    · rw [hnumber] at hkind
      exact ⟨rfl, by simp [hkind], by simp [hkind], by simp [hkind], by simp [hkind, hdigit],
        hunknown, by simp [hkind]⟩
    · rw [hpoints] at hkind
      exact ⟨rfl, by simp [hkind], by simp [hkind], by simp [hkind], by simp [hkind, hdigit],
        hunknown, by simp [hkind]⟩
  | _ =>
    rw [Rule.kind] at hkind
    exact ⟨rfl, by simp [hkind], by simp [hkind], by simp [hkind], by simp [hkind], hunknown,
      by simp [hkind]⟩

end Lexeme

open Lexeme

/-- Every lexeme of a text is classified by the rule that read it: the lexemes are what the scan of the
text reads, in this order, and the token of each is of the kind that belongs to its rule. -/
theorem lexemes_classified (text : String) :
    List.Forall₂
      (fun (rule, l) lexeme => lexeme = String.ofList l ∧ Classified rule l (.classify lexeme))
      (scan false text.toList) (lexemes text) := by
  rw [lexemes, List.forall₂_map_right_iff, List.forall₂_same]
  rintro ⟨rule, l⟩ hmem
  obtain ⟨_, _, _, hfirst⟩ := exists_first?_of_mem_scan hmem
  exact ⟨rfl, classified_of_first? hfirst⟩

end Formula
