import Formula.Lexeme
import Formula.Proofs.Unicode.Range
import Mathlib.Data.List.Chain
import Mathlib.Data.List.TakeWhile
import Mathlib.Tactic.Common

/-!
# What lexemes leave out

Lexemes cover a text but for two kinds of characters: those that no rule can contain, and letters
that stand directly after a number or a hexadecimal number, where no word can start
(`lexemes_cover`). So a text may lose letters (`lexemes_lose_letters`), but it never loses a digit, a
point or an operator. `Reads` says what each rule reads; everything else follows from it by induction
on the scan.
-/

namespace Formula.Lexeme
open Formula.Unicode

/-- The characters of operators, parentheses and the comma. -/
def operatorChars : List Char :=
  ['(', ')', '<', '>', '=', '!', '&', '|', '^', '~', '+', '-', '*', '/', '%', ',']

/-- A character that some rule can contain. -/
def isLexical (c : Char) : Bool :=
  isWord c || c == '.' || operatorChars.contains c

/-- A word character that is not a digit. -/
def isLetter (c : Char) : Bool :=
  isWord c && !isDecimalDigit c

/-- What a rule reads at the start of a text, and the rest of the text. Runs of characters are as long
as can be. -/
inductive Reads (afterWord : Bool) : Rule → List Char → List Char → Prop where
  | paren {c rest} : isParen c = true → Reads afterWord .paren [c] rest
  | pair {a b rest} : (a, b) ∈ pairs → Reads afterWord .pair [a, b] rest
  | hex {l rest} : (∀ c ∈ l, isHexChar c = true) → Reads afterWord .hex ('0' :: 'x' :: l) rest
  | sign {c rest} : c ∈ signs → Reads afterWord .sign [c] rest
  | number {l rest} : l ≠ [] → (∀ c ∈ l, isNumberChar c = true) → Reads afterWord .number l rest
  | word {l rest} : afterWord = false → l ≠ [] → (∀ c ∈ l, isWord c = true) →
    (∀ c ∈ rest.head?, isWord c = false) → Reads afterWord .word l rest

/-- A piece of a text: a lexeme with the rule that reads it, and what is dropped between it and the
next lexeme. Letters are dropped only after a number or a hexadecimal number that ends in a word
character. -/
structure Stretch where
  rule : Rule
  lexeme : List Char
  letters : List Char
  foreign : List Char
  lexeme_lexical : ∀ c ∈ lexeme, isLexical c = true
  letters_isLetter : ∀ c ∈ letters, isLetter c = true
  foreign_not_lexical : ∀ c ∈ foreign, isLexical c = false
  numeral_of_letters : letters ≠ [] →
    (rule = .number ∨ rule = .hex) ∧ lexeme.getLast?.any isWord = true

namespace Stretch

/-- The characters of a piece of a text. -/
def text (s : Stretch) : List Char :=
  s.lexeme ++ s.letters ++ s.foreign

/-- A lexeme that follows a word character directly does not start with a letter. -/
def Before (s s' : Stretch) : Prop :=
  s.foreign = [] → s.lexeme.getLast?.any isWord = true → ∀ c ∈ s'.lexeme.head?, isLetter c = false

end Stretch

/-- A text, cut into what is dropped at its start and the pieces that a scan finds in it. -/
structure Cut (afterWord : Bool) (text letters foreign : List Char) (stretches : List Stretch) :
    Prop where
  text_eq : text = letters ++ foreign ++ stretches.flatMap Stretch.text
  letters_isLetter : ∀ c ∈ letters, isLetter c = true
  foreign_not_lexical : ∀ c ∈ foreign, isLexical c = false
  afterWord_of_letters : letters ≠ [] → afterWord = true
  scan_eq : scan afterWord text = stretches.map fun s => (s.rule, s.lexeme)
  start : foreign = [] → afterWord = true →
    ∀ s ∈ stretches.head?, ∀ c ∈ s.lexeme.head?, isLetter c = false
  chain : stretches.IsChain Stretch.Before

variable {afterWord : Bool} {rule : Rule} {c : Char} {text l rest letters foreign : List Char}
  {stretches : List Stretch}

/-- A run consists of characters of its class, and no character of the class follows it. -/
lemma run?_spec {p : Char → Bool} (h : run? p text = some (l, rest)) :
    l ≠ [] ∧ (∀ c ∈ l, p c = true) ∧ ∀ c ∈ rest.head?, p c = false := by
  have hne := (run?_eq_some h).2
  unfold run? at h
  split at h
  · cases h
  · cases h
    refine ⟨hne, fun c hc => List.mem_takeWhile_imp hc, ?_⟩
    intro c hc
    have := List.head?_dropWhile_not p text
    rw [hc] at this
    simpa using this

/-- What a rule reads is as it is said. -/
lemma reads_of_read? (h : rule.read? afterWord text = some (l, rest)) :
    Reads afterWord rule l rest := by
  unfold Rule.read? at h
  split at h
  · split at h
    · next hc =>
      cases h
      exact .paren hc
    · cases h
  · split at h
    · next hc =>
      cases h
      exact .pair (List.contains_iff_mem.1 hc)
    · cases h
  · obtain ⟨⟨l', rest'⟩, hrun, heq⟩ := Option.map_eq_some_iff.1 h
    cases heq
    exact .hex (run?_spec hrun).2.1
  · split at h
    · next hc =>
      cases h
      exact .sign (List.contains_iff_mem.1 hc)
    · cases h
  · obtain ⟨hne, hall, -⟩ := run?_spec h
    exact .number hne hall
  · split at h
    · cases h
    · next hword =>
      obtain ⟨hne, hall, hrest⟩ := run?_spec h
      exact .word (Bool.eq_false_iff.2 hword) hne hall hrest
  · cases h

/-- The rule that decides at a place has read the lexeme. -/
lemma read?_of_first?_eq_some (h : first? afterWord text = some (rule, l, rest)) :
    rule.read? afterWord text = some (l, rest) := by
  obtain ⟨rule', -, hread⟩ := List.exists_of_findSome?_eq_some h
  obtain ⟨⟨l', rest'⟩, hread, heq⟩ := Option.map_eq_some_iff.1 hread
  cases heq
  exact hread

/-- What is read at a place is as it is said of some rule. -/
lemma reads_of_first? (h : first? afterWord text = some (rule, l, rest)) :
    Reads afterWord rule l rest :=
  reads_of_read? (read?_of_first?_eq_some h)

/-- Where nothing is read, each rule reads nothing. -/
lemma read?_of_first?_eq_none (h : first? afterWord text = none) (rule : Rule) :
    rule.read? afterWord text = none := by
  have hmem : rule ∈ Rule.all := by
    cases rule with
    | _ => simp [Rule.all]
  simpa using List.findSome?_eq_none_iff.1 h rule hmem

/-- A scan reads the first lexeme and goes on with the rest. -/
lemma scan_of_first?_eq_some (h : first? afterWord text = some (rule, l, rest)) :
    scan afterWord text = (rule, l) :: scan (l.getLast?.any isWord) rest := by
  rw [scan]
  split
  · next heq =>
    cases h.symm.trans heq
    rfl
  · next heq => cases h.symm.trans heq

/-- A scan drops a character at which nothing is read. -/
lemma scan_of_first?_eq_none (h : first? afterWord (c :: rest) = none) :
    scan afterWord (c :: rest) = scan (isWord c) rest := by
  rw [scan]
  split
  · next heq => cases h.symm.trans heq
  · rfl

/-- An empty text has no lexemes. -/
lemma scan_nil : scan afterWord [] = [] := by
  rw [scan]
  split
  · next heq =>
    obtain ⟨hnil, hne⟩ := first?_eq_some heq
    exact absurd (List.append_eq_nil_iff.1 hnil.symm).1 hne
  · rfl

/-- A run of a class starts with each of its characters. -/
lemma run?_cons_ne_none {p : Char → Bool} (h : p c = true) : run? p (c :: rest) ≠ none := by
  simp [run?, h]

/-- The characters of operators are no word characters. -/
lemma isWord_of_mem_operatorChars : ∀ c ∈ operatorChars, isWord c = false := by
  decide

/-- Signs and the characters of pairs are characters of operators. -/
lemma mem_operatorChars_of_mem_signs : ∀ c ∈ signs, c ∈ operatorChars := by
  decide

lemma mem_operatorChars_of_mem_pairs : ∀ p ∈ pairs, p.1 ∈ operatorChars ∧ p.2 ∈ operatorChars := by
  decide

lemma mem_operatorChars_of_isParen (h : isParen c = true) : c ∈ operatorChars := by
  rcases Bool.or_eq_true_iff.1 h with h | h
  · rw [eq_of_beq h]
    decide
  · rw [eq_of_beq h]
    decide

/-- An operator is a parenthesis or it has a sign. -/
lemma isParen_or_mem_signs : ∀ c ∈ operatorChars, isParen c = true ∨ c ∈ signs := by
  decide

lemma isLexical_of_mem_operatorChars (h : c ∈ operatorChars) : isLexical c = true := by
  simp [isLexical, h]

lemma isLexical_of_isWord (h : isWord c = true) : isLexical c = true := by
  simp [isLexical, h]

/-- Points and digits are lexical, and they are no letters. -/
lemma isLexical_of_isNumberChar (h : isNumberChar c = true) : isLexical c = true := by
  rcases Bool.or_eq_true_iff.1 h with hpoint | hdigit
  · simp [isLexical, hpoint]
  · exact isLexical_of_isWord (isWord_of_isDecimalDigit hdigit)

lemma isLetter_of_isNumberChar (h : isNumberChar c = true) : isLetter c = false := by
  rcases Bool.or_eq_true_iff.1 h with hpoint | hdigit
  · rw [eq_of_beq hpoint]
    decide
  · simp [isLetter, hdigit]

/-- The small letters of ASCII are word characters. -/
lemma isWord_of_small (h : ('a' ≤ c && c ≤ 'z') = true) : isWord c = true := by
  obtain ⟨hlow, hhigh⟩ := Bool.and_eq_true_iff.1 h
  have hlower : c.isLower = true :=
    Bool.and_eq_true_iff.2 ⟨decide_eq_true (of_decide_eq_true hlow),
      decide_eq_true (of_decide_eq_true hhigh)⟩
  have halpha : c.isAlpha = true := Bool.or_eq_true_iff.2 (.inr hlower)
  have hascii : isAscii c = true := by
    have hle : c.toNat ≤ 122 := (of_decide_eq_true hhigh : c ≤ 'z')
    simp [isAscii]
    omega
  simp [isWord, isAlphabetic, hascii, halpha]

lemma isLexical_of_isHexChar (h : isHexChar c = true) : isLexical c = true := by
  rcases Bool.or_eq_true_iff.1 h with hnumber | hsmall
  · exact isLexical_of_isNumberChar hnumber
  · exact isLexical_of_isWord (isWord_of_small hsmall)

namespace Reads

/-- Rules read nothing but lexical characters. -/
lemma lexical (h : Reads afterWord rule l rest) : ∀ c ∈ l, isLexical c = true := by
  intro c hc
  cases h with
  | paren hparen =>
    rw [List.mem_singleton.1 hc]
    exact isLexical_of_mem_operatorChars (mem_operatorChars_of_isParen hparen)
  | pair hpair =>
    obtain ⟨ha, hb⟩ := mem_operatorChars_of_mem_pairs _ hpair
    rcases List.mem_pair.1 hc with rfl | rfl
    · exact isLexical_of_mem_operatorChars ha
    · exact isLexical_of_mem_operatorChars hb
  | hex hall =>
    rcases List.mem_cons.1 hc with rfl | hc
    · decide
    rcases List.mem_cons.1 hc with rfl | hc
    · decide
    · exact isLexical_of_isHexChar (hall c hc)
  | sign hsign =>
    rw [List.mem_singleton.1 hc]
    exact isLexical_of_mem_operatorChars (mem_operatorChars_of_mem_signs _ hsign)
  | number _ hall => exact isLexical_of_isNumberChar (hall c hc)
  | word _ _ hall _ => exact isLexical_of_isWord (hall c hc)

/-- Directly after a word character no rule reads a letter first. -/
lemma head_not_letter (h : Reads true rule l rest) : ∀ c ∈ l.head?, isLetter c = false := by
  have hoperator {c : Char} (hc : c ∈ operatorChars) : isLetter c = false := by
    simp [isLetter, isWord_of_mem_operatorChars c hc]
  intro c hc
  cases h with
  | paren hparen =>
    cases hc
    exact hoperator (mem_operatorChars_of_isParen hparen)
  | pair hpair =>
    cases hc
    exact hoperator (mem_operatorChars_of_mem_pairs _ hpair).1
  | hex =>
    cases hc
    decide
  | sign hsign =>
    cases hc
    exact hoperator (mem_operatorChars_of_mem_signs _ hsign)
  | number _ hall => exact isLetter_of_isNumberChar (hall c (List.mem_of_head? hc))
  | word hword => cases hword

/-- Only after a number or a hexadecimal number a word character directly follows another one. -/
lemma numeral (h : Reads afterWord rule l rest) (hlast : l.getLast?.any isWord = true)
    (hrest : rest.head? = some c) (hc : isWord c = true) : rule = .number ∨ rule = .hex := by
  have hoperator {c : Char} (hc : c ∈ operatorChars) : isWord c ≠ true := by
    simp [isWord_of_mem_operatorChars c hc]
  cases h with
  | paren hparen => exact absurd hlast (hoperator (mem_operatorChars_of_isParen hparen))
  | pair hpair => exact absurd hlast (hoperator (mem_operatorChars_of_mem_pairs _ hpair).2)
  | hex => exact .inr rfl
  | sign hsign => exact absurd hlast (hoperator (mem_operatorChars_of_mem_signs _ hsign))
  | number => exact .inl rfl
  | word _ _ _ hend =>
    rw [hend c hrest] at hc
    cases hc

end Reads

/-- A character at which nothing is read is a letter after a word character, or no rule can contain
it. -/
lemma dropped_of_first?_eq_none (h : first? afterWord (c :: rest) = none) :
    (isLetter c = true ∧ afterWord = true) ∨ isLexical c = false := by
  have hread := read?_of_first?_eq_none h
  have hparen : isParen c = false := by simpa [Rule.read?] using hread .paren
  have hsign : c ∉ signs := by simpa [Rule.read?] using hread .sign
  have hnumber : isNumberChar c = false := by
    by_contra hc
    exact run?_cons_ne_none (Bool.of_not_eq_false hc) (hread .number)
  obtain ⟨hpoint, hdigit⟩ := Bool.or_eq_false_iff.1 hnumber
  cases hword : isWord c with
  | true =>
    refine .inl ⟨by simp [isLetter, hword, hdigit], ?_⟩
    by_contra hafter
    have hrun : run? isWord (c :: rest) = none := by simpa [Rule.read?, hafter] using hread .word
    exact run?_cons_ne_none hword hrun
  | false =>
    have hoperator : c ∉ operatorChars := by
      intro hc
      rcases isParen_or_mem_signs c hc with hc | hc
      · rw [hparen] at hc
        cases hc
      · exact hsign hc
    exact .inr (by simp [isLexical, hword, hpoint, hoperator])

/-- No character is both a letter and one that no rule can contain. -/
lemma isWord_of_isLetter (h : isLetter c = true) : isWord c = true :=
  (Bool.and_eq_true_iff.1 h).1

namespace Cut

/-- A lexeme before a text that is cut. -/
lemma lexeme (hfirst : first? afterWord text = some (rule, l, rest))
    (h : Cut (l.getLast?.any isWord) rest letters foreign stretches) :
    ∃ stretches', Cut afterWord text [] [] stretches' := by
  have hreads := reads_of_first? hfirst
  obtain ⟨rfl, -⟩ := first?_eq_some hfirst
  -- Letters that are dropped after the lexeme make it a numeral.
  have hnumeral : letters ≠ [] →
      (rule = .number ∨ rule = .hex) ∧ l.getLast?.any isWord = true := by
    intro hne
    have hlast := h.afterWord_of_letters hne
    obtain ⟨c, letters', rfl⟩ := List.exists_cons_of_ne_nil hne
    have hc := isWord_of_isLetter (h.letters_isLetter c List.mem_cons_self)
    refine ⟨hreads.numeral hlast ?_ hc, hlast⟩
    rw [h.text_eq]
    rfl
  let s : Stretch :=
    ⟨rule, l, letters, foreign, hreads.lexical, h.letters_isLetter, h.foreign_not_lexical, hnumeral⟩
  refine ⟨s :: stretches, ?_, nofun, nofun, nofun, ?_, ?_, ?_⟩
  · simp [Stretch.text, s, h.text_eq]
  · rw [scan_of_first?_eq_some hfirst, h.scan_eq, List.map_cons]
  · intro _ hafter s' hs'
    cases hs'
    subst hafter
    exact hreads.head_not_letter
  · refine List.isChain_cons.2 ⟨?_, h.chain⟩
    intro s' hs' hforeign hlast
    exact h.start hforeign hlast s' hs'

/-- A dropped character before a text that is cut. -/
lemma drop (hfirst : first? afterWord (c :: rest) = none)
    (h : Cut (isWord c) rest letters foreign stretches) :
    ∃ letters' foreign', Cut afterWord (c :: rest) letters' foreign' stretches := by
  have hscan : scan afterWord (c :: rest) = stretches.map fun s => (s.rule, s.lexeme) := by
    rw [scan_of_first?_eq_none hfirst, h.scan_eq]
  rcases dropped_of_first?_eq_none hfirst with ⟨hletter, hafter⟩ | hforeign
  · refine ⟨c :: letters, foreign, ?_, ?_, h.foreign_not_lexical, fun _ => hafter, hscan, ?_, h.chain⟩
    · simp [h.text_eq]
    · exact List.forall_mem_cons.2 ⟨hletter, h.letters_isLetter⟩
    · exact fun hempty _ => h.start hempty (isWord_of_isLetter hletter)
  · -- Such a character is no word character, so no letters were dropped directly after it.
    have hword : isWord c = false := by
      cases hword : isWord c with
      | false => rfl
      | true =>
        rw [isLexical_of_isWord hword] at hforeign
        cases hforeign
    have hletters : letters = [] := by
      by_contra hne
      have := h.afterWord_of_letters hne
      rw [hword] at this
      cases this
    subst hletters
    refine ⟨[], c :: foreign, ?_, nofun, ?_, nofun, hscan, nofun, h.chain⟩
    · simp [h.text_eq]
    · exact List.forall_mem_cons.2 ⟨hforeign, h.foreign_not_lexical⟩

end Cut

/-- Every text is cut by its scan. -/
lemma exists_cut (afterWord : Bool) (text : List Char) :
    ∃ letters foreign stretches, Cut afterWord text letters foreign stretches := by
  fun_induction scan afterWord text with
  | case1 afterWord text rule l rest hfirst ih =>
    obtain ⟨letters, foreign, stretches, h⟩ := ih
    obtain ⟨stretches', h'⟩ := h.lexeme hfirst
    exact ⟨[], [], stretches', h'⟩
  | case2 afterWord hfirst =>
    exact ⟨[], [], [], rfl, nofun, nofun, nofun, scan_nil, nofun, .nil⟩
  | case3 afterWord c rest hfirst ih =>
    obtain ⟨letters, foreign, stretches, h⟩ := ih
    obtain ⟨letters', foreign', h'⟩ := h.drop hfirst
    exact ⟨letters', foreign', stretches, h'⟩

/-- The lexical characters of a piece are those of its lexeme and the letters after it. -/
lemma filter_text (s : Stretch) : s.text.filter isLexical = s.lexeme ++ s.letters := by
  have hlexeme : s.lexeme.filter isLexical = s.lexeme := List.filter_eq_self.2 s.lexeme_lexical
  have hletters : s.letters.filter isLexical = s.letters :=
    List.filter_eq_self.2 fun c hc => isLexical_of_isWord (isWord_of_isLetter (s.letters_isLetter c hc))
  have hforeign : s.foreign.filter isLexical = [] :=
    List.filter_eq_nil_iff.2 fun c hc => by simp [s.foreign_not_lexical c hc]
  rw [Stretch.text, List.filter_append, List.filter_append, hlexeme, hletters, hforeign,
    List.append_nil]

/-- The lexical characters of pieces. -/
lemma filter_flatMap_text (stretches : List Stretch) :
    (stretches.flatMap Stretch.text).filter isLexical =
      stretches.flatMap fun s => s.lexeme ++ s.letters := by
  rw [List.filter_flatMap]
  exact List.flatMap_congr fun s _ => filter_text s

end Formula.Lexeme

namespace Formula
open Formula.Lexeme

/-- The lexemes of a text, one after another, are the text without two kinds of characters: those that
no rule can contain, and the letters that directly follow a number or a hexadecimal number, none of
which starts a lexeme. Every digit, point and operator is in a lexeme. -/
theorem lexemes_cover (text : String) :
    (∃ (lead : List Char) (stretches : List Stretch),
      text.toList = lead ++ stretches.flatMap Stretch.text ∧
      (∀ c ∈ lead, isLexical c = false) ∧
      stretches.IsChain Stretch.Before ∧
      scan false text.toList = stretches.map (fun s => (s.rule, s.lexeme)) ∧
      lexemes text = stretches.map (fun s => String.ofList s.lexeme) ∧
      text.toList.filter isLexical = stretches.flatMap fun s => s.lexeme ++ s.letters) ∧
    (String.join (lexemes text)).toList.filter (fun c => !isLetter c) =
      (text.toList.filter isLexical).filter (fun c => !isLetter c) := by
  obtain ⟨letters, lead, stretches, h⟩ := exists_cut false text.toList
  have hletters : letters = [] := by
    by_contra hne
    cases h.afterWord_of_letters hne
  subst hletters
  have htext : text.toList = lead ++ stretches.flatMap Stretch.text := h.text_eq
  have hlexemes : lexemes text = stretches.map fun s => String.ofList s.lexeme := by
    rw [lexemes, h.scan_eq, List.map_map]
    rfl
  have hlexical : text.toList.filter isLexical = stretches.flatMap fun s => s.lexeme ++ s.letters := by
    have hlead : lead.filter isLexical = [] :=
      List.filter_eq_nil_iff.2 fun c hc => by simp [h.foreign_not_lexical c hc]
    rw [htext, List.filter_append, hlead, List.nil_append, filter_flatMap_text]
  refine ⟨⟨lead, stretches, htext, h.foreign_not_lexical, h.chain, h.scan_eq, hlexemes, hlexical⟩, ?_⟩
  rw [hlexical, hlexemes, String.toList_join, List.flatMap_map, List.filter_flatMap,
    List.filter_flatMap]
  refine List.flatMap_congr fun s _ => ?_
  have hdropped : s.letters.filter (fun c => !isLetter c) = [] :=
    List.filter_eq_nil_iff.2 fun c hc => by simp [s.letters_isLetter c hc]
  rw [List.filter_append, hdropped, List.append_nil, String.toList_ofList]

/-- The letters after a number are lost. -/
theorem lexemes_lose_letters :
    String.join (lexemes "5abc") ≠ String.ofList ("5abc".toList.filter isLexical) := by
  decide +kernel

end Formula
