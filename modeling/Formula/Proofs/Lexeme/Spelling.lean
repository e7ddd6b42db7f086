import Formula.Parameters
import Formula.Proofs.Lexeme.First
import Mathlib.Data.List.Chain
import Mathlib.Data.List.Forall2

/-!
# Two spellings of a lexeme

The conditional has two names, and there are two signs for operands that are not equal. A text in which
some of these lexemes are replaced by their other spelling is read as before, but for these lexemes
(`Respelled.forall₂_scan`). Only after the sign `<` the other spelling of `!=` would be read in another
way, and no formula has the two in a row.
-/

namespace Formula.Lexeme
open Formula.Unicode

/-- The names of the conditional. -/
def conditionals : List (List Char) :=
  [['i', 'f'], ['i', 'i', 'f']]

/-- The signs for operands that are not equal. -/
def unequals : List (List Char) :=
  [['<', '>'], ['!', '=']]

/-- Lexemes that are spellings of one thing. The names of the conditional are so unless one of them is a
parameter. -/
inductive Synonyms (ps : Parameters) : List Char → List Char → Prop where
  | same (l) : Synonyms ps l l
  | conditional {l l'} :
    l ∈ conditionals → l' ∈ conditionals →
    (∀ name ∈ conditionals, String.ofList name ∉ ps.names) →
    Synonyms ps l l'
  | unequal {l l'} : l ∈ unequals → l' ∈ unequals → Synonyms ps l l'

/-- A text in which some lexemes of another text are replaced by synonyms, each in its place. -/
inductive Respelled (ps : Parameters) : Bool → List Char → List Char → Prop where
  | nil {afterWord} : Respelled ps afterWord [] []
  | lexeme {afterWord text rule l l' rest rest'} :
    first? afterWord text = some (rule, l, rest) →
    Synonyms ps l l' →
    Respelled ps (l.getLast?.any isWord) rest rest' →
    Respelled ps afterWord text (l' ++ rest')
  | dropped {afterWord c rest rest'} :
    first? afterWord (c :: rest) = none →
    Respelled ps (isWord c) rest rest' →
    Respelled ps afterWord (c :: rest) (c :: rest')

/-- Two lexemes in a row, where the second one is not the sign `!=` after `<`. -/
def Apart (a b : Rule × List Char) : Prop :=
  a.2 = ['<'] → b.2 ≠ ['!', '=']

variable {ps : Parameters} {afterWord : Bool} {rule : Rule} {text text' l l' rest rest' : List Char}

/-- The sign for operands that are not equal is read as a pair. -/
lemma Starts.rule_of_unequal (h : Starts afterWord rule l rest) (hl : l ∈ unequals) :
    rule = .pair := by
  have hnumber : ∀ l ∈ unequals, ¬∀ c ∈ l, isNumberChar c = true := by decide
  have hword : ∀ l ∈ unequals, ¬∀ c ∈ l, isWord c = true := by decide
  cases h with
  | paren => simp [unequals] at hl
  | pair => rfl
  | hex => simp [unequals] at hl
  | sign => simp [unequals] at hl
  | number _ hall => exact absurd hall (hnumber _ hl)
  | word _ hall => exact absurd hall (hword _ hl)

/-- A name of the conditional is read as a word. -/
lemma Starts.word_of_conditional (h : Starts afterWord rule l rest) (hl : l ∈ conditionals) :
    rule = .word ∧ afterWord = false ∧ ∀ c ∈ rest.head?, isWord c = false := by
  have hpair : ∀ p ∈ pairs, [p.1, p.2] ∉ conditionals := by decide
  have hnumber : ∀ l ∈ conditionals, ¬∀ c ∈ l, isNumberChar c = true := by decide
  cases h with
  | paren => simp [conditionals] at hl
  | pair hp => exact absurd hl (hpair _ hp)
  | hex => simp [conditionals] at hl
  | sign => simp [conditionals] at hl
  | number _ hall => exact absurd hall (hnumber _ hl)
  | word hafter _ _ hrest => exact ⟨rfl, hafter, hrest⟩

namespace Synonyms

/-- Synonyms end in a word character, or none of them does. -/
lemma any_getLast? (h : Synonyms ps l l') : l'.getLast?.any isWord = l.getLast?.any isWord := by
  have hconditional : ∀ l ∈ conditionals, l.getLast?.any isWord = true := by decide
  have hunequal : ∀ l ∈ unequals, l.getLast?.any isWord = false := by decide
  cases h with
  | same => rfl
  | conditional hl hl' => rw [hconditional _ hl, hconditional _ hl']
  | unequal hl hl' => rw [hunequal _ hl, hunequal _ hl']

end Synonyms

namespace Respelled

/-- A text in which nothing is replaced. -/
lemma refl (afterWord : Bool) (text : List Char) : Respelled ps afterWord text text := by
  fun_induction scan afterWord text with
  | case1 afterWord text rule l rest hfirst ih =>
    obtain ⟨rfl, -⟩ := first?_eq_some hfirst
    exact .lexeme hfirst (.same l) ih
  | case2 => exact .nil
  | case3 afterWord c rest hfirst ih => exact .dropped hfirst ih

/-- The first character of a text is replaced by `!` or by `<` at most, and by `<` only where the text
starts with the sign `!=`. -/
lemma forall_head {p : Char → Prop} (h : Respelled ps afterWord text text') (hbang : p '!')
    (hless : p '<' ∨ ∀ rule rest, first? afterWord text ≠ some (rule, ['!', '='], rest))
    (htext : ∀ c ∈ text.head?, p c) : ∀ c ∈ text'.head?, p c := by
  cases h with
  | nil => exact nofun
  | dropped => exact htext
  | lexeme hfirst hs _ =>
    obtain ⟨rfl, hne⟩ := first?_eq_some hfirst
    cases hs with
    | same =>
      obtain ⟨c, l, rfl⟩ := List.exists_cons_of_ne_nil hne
      exact htext
    | conditional hl hl' =>
      have hhead : ∀ l ∈ conditionals, l.head? = some 'i' := by decide
      rw [List.head?_append, hhead _ hl, Option.some_or] at htext
      rw [List.head?_append, hhead _ hl', Option.some_or]
      exact htext
    | unequal hl hl' =>
      simp only [unequals, List.mem_cons, List.not_mem_nil, or_false] at hl hl'
      rcases hl' with rfl | rfl
      · rcases hl with rfl | rfl
        · exact htext
        · have hless := hless.resolve_right fun hne => hne _ _ hfirst
          simpa using hless
      · simpa using hbang

/-- What holds of the characters of a text, and of those of all synonyms, holds of the new text. -/
lemma forall_mem {p : Char → Prop} (h : Respelled ps afterWord text text')
    (hsynonyms : ∀ l ∈ conditionals ++ unequals, ∀ c ∈ l, p c) (htext : ∀ c ∈ text, p c) :
    ∀ c ∈ text', p c := by
  induction h with
  | nil => exact htext
  | @lexeme _ text _ l l' rest rest' hfirst hs _ ih =>
    obtain ⟨rfl, -⟩ := first?_eq_some hfirst
    rw [List.forall_mem_append] at htext ⊢
    refine ⟨?_, ih htext.2⟩
    cases hs with
    | same => exact htext.1
    | conditional _ hl' => exact hsynonyms _ (List.mem_append_left _ hl')
    | unequal _ hl' => exact hsynonyms _ (List.mem_append_right _ hl')
  | dropped _ _ ih =>
    rw [List.forall_mem_cons] at htext ⊢
    exact ⟨htext.1, ih htext.2⟩

/-- Behind a zero, the new text does not go on as a hexadecimal number unless the text does. -/
lemma forall_head_mark (h : Respelled ps true rest ('x' :: rest'))
    (hrest : ∀ t, rest = 'x' :: t → ∀ c ∈ t.head?, isHexChar c = false) :
    ∀ c ∈ rest'.head?, isHexChar c = false := by
  have hmark : rest.head? = some 'x' := by
    by_contra hne
    refine h.forall_head (p := (· ≠ 'x')) (by decide) (.inl (by decide)) ?_ 'x' rfl rfl
    rintro c hc rfl
    exact hne hc
  obtain ⟨t, rfl⟩ := List.head?_eq_some_iff.1 hmark
  have hnone : first? true ('x' :: t) = none := first?_eq_none_iff.2 (.inl ⟨by decide, rfl⟩)
  generalize htext : 'x' :: rest' = text' at h
  cases h with
  | lexeme hfirst => cases hnone.symm.trans hfirst
  | dropped _ h =>
    obtain ⟨-, rfl⟩ := List.cons.inj htext
    exact h.forall_head (p := (isHexChar · = false)) (by decide) (.inl (by decide)) (hrest t rfl)

end Respelled

/-- A rule that reads a lexeme reads its synonyms, and what is replaced in the rest does not change what
it reads. -/
lemma Starts.respelled (h : Starts afterWord rule l rest) (hs : Synonyms ps l l')
    (hrest : Respelled ps (l.getLast?.any isWord) rest rest')
    (hapart : l = ['<'] →
      ∀ rule t, Lexeme.first? (l.getLast?.any isWord) rest ≠ some (rule, ['!', '='], t)) :
    Starts afterWord rule l' rest' := by
  have hhead {p : Char → Bool} (hbang : p '!' = false) (hless : p '<' = false) :
      (∀ c ∈ rest.head?, p c = false) → ∀ c ∈ rest'.head?, p c = false :=
    hrest.forall_head hbang (.inl hless)
  cases hs with
  | conditional hl hl' =>
    have hword : ∀ l ∈ conditionals, ∀ c ∈ l, isWord c = true := by decide
    obtain ⟨rfl, hafter, hend⟩ := h.word_of_conditional hl
    have hall := hword _ hl'
    simp only [conditionals, List.mem_cons, List.not_mem_nil, or_false] at hl'
    rcases hl' with rfl | rfl
    · exact .word hafter hall (by decide) (hhead (by decide) (by decide) hend)
    · exact .word hafter hall (by decide) (hhead (by decide) (by decide) hend)
  | unequal hl hl' =>
    obtain rfl := h.rule_of_unequal hl
    simp only [unequals, List.mem_cons, List.not_mem_nil, or_false] at hl'
    rcases hl' with rfl | rfl
    · exact .pair (by decide)
    · exact .pair (by decide)
  | same =>
    cases h with
    | paren hparen => exact .paren hparen
    | pair hpair => exact .pair hpair
    | hex hne hall hend => exact .hex hne hall (hhead (by decide) (by decide) hend)
    | @sign c _ hsign hend =>
      -- Of the signs, only `<` makes a pair with one of the two characters.
      have hbang : ∀ c ∈ signs, (c, '!') ∉ pairs := by decide
      have hless : ∀ c ∈ signs, c ≠ '<' → (c, '<') ∉ pairs := by decide
      refine .sign hsign (hrest.forall_head (hbang c hsign) ?_ hend)
      by_cases hc : c = '<'
      · exact .inr (hapart (by rw [hc]))
      · exact .inl (hless c hsign hc)
    | number hne hall hend hzero =>
      refine .number hne hall (hhead (by decide) (by decide) hend) ?_
      rintro rfl t rfl
      exact hrest.forall_head_mark (hzero rfl)
    | word hafter hall hnumber hend =>
      exact .word hafter hall hnumber (hhead (by decide) (by decide) hend)

/-- The lexemes of the new text are synonyms of those of the text, read by the same rules. -/
lemma Respelled.forall₂_scan (h : Respelled ps afterWord text text')
    (hapart : (scan afterWord text).IsChain Apart) :
    List.Forall₂ (fun a b => a.1 = b.1 ∧ Synonyms ps a.2 b.2) (scan afterWord text)
      (scan afterWord text') := by
  induction h with
  | nil =>
    rw [scan_nil]
    exact .nil
  | @lexeme _ _ _ l l' rest rest' hfirst hs hrest ih =>
    rw [scan_of_first?_eq_some hfirst] at hapart ⊢
    have hstarts := (Starts.of_first? hfirst).respelled hs hrest fun hl rule t hnext => by
      rw [scan_of_first?_eq_some hnext, List.isChain_cons_cons] at hapart
      exact hapart.1 hl rfl
    rw [scan_of_first?_eq_some hstarts.first?, hs.any_getLast?]
    exact .cons ⟨rfl, hs⟩ (ih hapart.tail)
  | @dropped w c rest rest' hfirst _ ih =>
    have hfirst' : first? w (c :: rest') = none :=
      first?_eq_none_iff.2 (first?_eq_none_iff.1 hfirst)
    rw [scan_of_first?_eq_none hfirst] at hapart ⊢
    rw [scan_of_first?_eq_none hfirst']
    exact ih hapart

end Formula.Lexeme
