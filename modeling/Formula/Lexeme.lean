import Formula.Unicode.Word

/-!
# Lexemes

A clause of a formula is cut into lexemes. At each place the rules are tried in order and the first
that reads something decides; where none does, the character is dropped. Only the rule for words
looks back: a word starts where the character before it is not a word character, so letters that
follow a number directly are dropped. `first?_eq_some` says that a lexeme is a non-empty initial
segment of the text.
-/

namespace Formula.Lexeme
open Formula.Unicode

/-- The rules that read lexemes, in the order in which they are tried. -/
inductive Rule where
  | paren
  | pair
  | hex
  | sign
  | number
  | word
  deriving DecidableEq, Repr

/-- Every rule, in the order in which they are tried. -/
def Rule.all : List Rule :=
  [.paren, .pair, .hex, .sign, .number, .word]

/-- The two parentheses. -/
def isParen (c : Char) : Bool :=
  c == '(' || c == ')'

/-- The operators of two characters. -/
def pairs : List (Char × Char) :=
  [('>', '='), ('<', '='), ('<', '>'), ('|', '|'), ('&', '&'), ('!', '='), ('=', '='), ('<', '<'),
   ('>', '>')]

/-- The operators of one character, and the comma. -/
def signs : List Char :=
  ['&', '^', '|', '~', '+', '>', '<', '=', '*', '/', '-', '!', '%', ',']

/-- A digit or a point. -/
def isNumberChar (c : Char) : Bool :=
  c == '.' || isDecimalDigit c

/-- A digit, a point or a small letter of ASCII. -/
def isHexChar (c : Char) : Bool :=
  isNumberChar c || ('a' ≤ c && c ≤ 'z')

/-- The longest non-empty run of characters of a class, and the rest of the text. -/
def run? (p : Char → Bool) (text : List Char) : Option (List Char × List Char) :=
  if (text.takeWhile p).isEmpty then none else some (text.takeWhile p, text.dropWhile p)

/-- The lexeme that a rule reads at the start of a text, and the rest of the text. `afterWord` says
whether the character before is a word character. -/
def Rule.read? (afterWord : Bool) : Rule → List Char → Option (List Char × List Char)
  | .paren, c :: rest => if isParen c then some ([c], rest) else none
  | .pair, a :: b :: rest => if pairs.contains (a, b) then some ([a, b], rest) else none
  | .hex, '0' :: 'x' :: rest => (run? isHexChar rest).map fun (l, rest) => ('0' :: 'x' :: l, rest)
  | .sign, c :: rest => if signs.contains c then some ([c], rest) else none
  | .number, text => run? isNumberChar text
  | .word, text => if afterWord then none else run? isWord text
  | _, _ => none

/-- The first lexeme of a text with the rule that reads it, if there is one right at the start. -/
def first? (afterWord : Bool) (text : List Char) : Option (Rule × List Char × List Char) :=
  Rule.all.findSome? fun rule => (rule.read? afterWord text).map (rule, ·)

/-- A run is a non-empty initial segment of the text. -/
theorem run?_eq_some {p : Char → Bool} {text l rest : List Char} (h : run? p text = some (l, rest)) :
    text = l ++ rest ∧ l ≠ [] := by
  unfold run? at h
  split at h
  · simp at h
  · next hne =>
    simp only [Option.some.injEq, Prod.mk.injEq] at h
    obtain ⟨rfl, rfl⟩ := h
    exact ⟨List.takeWhile_append_dropWhile.symm, by simpa using hne⟩

/-- What a rule reads is a non-empty initial segment of the text. -/
theorem Rule.read?_eq_some {rule : Rule} {afterWord : Bool} {text l rest : List Char}
    (h : rule.read? afterWord text = some (l, rest)) : text = l ++ rest ∧ l ≠ [] := by
  have hsome {a b : List Char} (h : some (a, b) = some (l, rest)) (ha : a ≠ []) :
      a ++ b = l ++ rest ∧ l ≠ [] := by
    simp only [Option.some.injEq, Prod.mk.injEq] at h
    exact ⟨by rw [h.1, h.2], h.1 ▸ ha⟩
  unfold Rule.read? at h
  split at h
  · split at h
    · exact hsome h (by simp)
    · simp at h
  · split at h
    · exact hsome h (by simp)
    · simp at h
  · obtain ⟨⟨l', rest'⟩, hr, he⟩ := Option.map_eq_some_iff.1 h
    simp only [Prod.mk.injEq] at he
    obtain ⟨rfl, rfl⟩ := he
    simp [(run?_eq_some hr).1]
  · split at h
    · exact hsome h (by simp)
    · simp at h
  · exact run?_eq_some h
  · split at h
    · simp at h
    · exact run?_eq_some h
  · simp at h

/-- The first lexeme is a non-empty initial segment of the text. -/
theorem first?_eq_some {afterWord : Bool} {text l rest : List Char} {rule : Rule}
    (h : first? afterWord text = some (rule, l, rest)) : text = l ++ rest ∧ l ≠ [] := by
  obtain ⟨r, _, hr⟩ := List.exists_of_findSome?_eq_some h
  obtain ⟨⟨l', rest'⟩, hread, he⟩ := Option.map_eq_some_iff.1 hr
  simp only [Prod.mk.injEq] at he
  obtain ⟨rfl, rfl, rfl⟩ := he
  exact Rule.read?_eq_some hread

/-- The lexemes of a text, each with the rule that read it. -/
def scan (afterWord : Bool) (text : List Char) : List (Rule × List Char) :=
  match _h : first? afterWord text with
  | some (rule, l, rest) => (rule, l) :: scan (l.getLast?.any isWord) rest
  | none =>
    match text with
    | [] => []
    | c :: rest => scan (isWord c) rest
termination_by text.length
decreasing_by
  · obtain ⟨ht, hl⟩ := first?_eq_some _h
    have := List.length_pos_iff.2 hl
    simp only [ht, List.length_append]
    omega
  · simp

end Formula.Lexeme

namespace Formula

/-- The lexemes of a text in order. -/
def lexemes (text : String) : List String :=
  (Lexeme.scan false text.toList).map fun (_, l) => String.ofList l

end Formula
