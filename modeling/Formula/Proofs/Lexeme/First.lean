import Formula.Proofs.Lexeme.Coverage

/-!
# The first lexeme of a text

What it takes that a rule reads the first lexeme of a text: the form of the lexeme, and a look at the
few characters after it (`first?_eq_some_iff`). What makes a text start without a lexeme is said of its
first character alone (`first?_eq_none_iff`). So both can be carried over to another text that goes on
in a different way.
-/

namespace Formula.Lexeme
open Formula.Unicode

/-- A rule reads the first lexeme of a text, and a rest follows. Runs end before the rest, a sign makes
no pair with it, and a zero is not the start of a hexadecimal number. -/
inductive Starts (afterWord : Bool) : Rule → List Char → List Char → Prop where
  | paren {c rest} : isParen c = true → Starts afterWord .paren [c] rest
  | pair {a b rest} : (a, b) ∈ pairs → Starts afterWord .pair [a, b] rest
  | hex {l rest} : l ≠ [] → (∀ c ∈ l, isHexChar c = true) →
    (∀ c ∈ rest.head?, isHexChar c = false) → Starts afterWord .hex ('0' :: 'x' :: l) rest
  | sign {c rest} : c ∈ signs → (∀ d ∈ rest.head?, (c, d) ∉ pairs) → Starts afterWord .sign [c] rest
  | number {l rest} : l ≠ [] → (∀ c ∈ l, isNumberChar c = true) →
    (∀ c ∈ rest.head?, isNumberChar c = false) →
    (l = ['0'] → ∀ t, rest = 'x' :: t → ∀ c ∈ t.head?, isHexChar c = false) →
    Starts afterWord .number l rest
  | word {c l rest} : afterWord = false → (∀ d ∈ c :: l, isWord d = true) → isNumberChar c = false →
    (∀ d ∈ rest.head?, isWord d = false) → Starts afterWord .word (c :: l) rest

/-- A character that ends the lexeme before it, whatever that is. -/
def Separates (c : Char) : Prop :=
  isHexChar c = false ∧ isWord c = false ∧ ∀ p ∈ pairs, p.2 ≠ c

variable {afterWord : Bool} {rule : Rule} {c : Char} {text l rest : List Char}

/-- The first member of a list with a value is the one that has no member with a value before it. -/
lemma findSome?_map_eq_some_iff {α β : Type} [DecidableEq α] {f : α → Option β} {as : List α} {a : α}
    {b : β} :
    as.findSome? (fun a => (f a).map (a, ·)) = some (a, b) ↔
      a ∈ as ∧ f a = some b ∧ ∀ a' ∈ as.takeWhile (· != a), f a' = none := by
  induction as with
  | nil => simp
  | cons a' as ih =>
    rw [List.findSome?_cons]
    by_cases ha : a' = a
    · subst ha
      cases hf : f a' with
      | none => simp [ih, hf]
      | some b' => simp
    · have hne : a ≠ a' := fun h => ha h.symm
      cases hf : f a' with
      | none => simp [ih, ha, hne, hf]
      | some b' => simp [ha, hf]

/-- The rule that reads the first lexeme is the first one that reads anything. -/
lemma first?_eq_some_iff_read? :
    first? afterWord text = some (rule, l, rest) ↔
      rule.read? afterWord text = some (l, rest) ∧
        ∀ earlier ∈ Rule.all.takeWhile (· != rule), earlier.read? afterWord text = none := by
  have hmem : rule ∈ Rule.all := by
    cases rule with
    | _ => simp [Rule.all]
  rw [first?, findSome?_map_eq_some_iff, and_iff_right hmem]

/-- A run is as long as can be. -/
lemma run?_eq_some_iff {p : Char → Bool} :
    run? p text = some (l, rest) ↔
      text = l ++ rest ∧ l ≠ [] ∧ (∀ c ∈ l, p c = true) ∧ ∀ c ∈ rest.head?, p c = false := by
  refine ⟨fun h => ⟨(run?_eq_some h).1, run?_spec h⟩, ?_⟩
  rintro ⟨rfl, hne, hall, hrest⟩
  have htake : (l ++ rest).takeWhile p = l := by
    rw [List.takeWhile_append_of_pos hall]
    cases rest with
    | nil => simp
    | cons c rest => simp [hrest c rfl]
  have hdrop : (l ++ rest).dropWhile p = rest := by
    rw [List.dropWhile_append_of_pos hall]
    cases rest with
    | nil => rfl
    | cons c rest => simp [hrest c rfl]
  simp [run?, htake, hdrop, hne]

/-- No run starts with a character that is not of its class. -/
lemma run?_eq_none_iff {p : Char → Bool} : run? p text = none ↔ ∀ c ∈ text.head?, p c = false := by
  cases text with
  | nil => simp [run?]
  | cons c text => cases hc : p c <;> simp [run?, hc]

/-- The rules for operators read nothing where another character stands. -/
lemma read?_eq_none_of_not_operator (hc : c ∉ operatorChars) (hrule : rule ∈ [.paren, .pair, .sign]) :
    rule.read? afterWord (c :: rest) = none := by
  simp only [List.mem_cons, List.not_mem_nil, or_false] at hrule
  rcases hrule with rfl | rfl | rfl
  · have hparen : ¬isParen c = true := fun h => hc (mem_operatorChars_of_isParen h)
    simp [Rule.read?, hparen]
  · cases rest with
    | nil => rfl
    | cons d rest =>
      have hpair : (c, d) ∉ pairs := fun h => hc (mem_operatorChars_of_mem_pairs _ h).1
      simp [Rule.read?, hpair]
  · have hsign : c ∉ signs := fun h => hc (mem_operatorChars_of_mem_signs c h)
    simp [Rule.read?, hsign]

/-- The rule for hexadecimal numbers reads nothing without their mark. -/
lemma read?_hex_eq_none (h : ∀ rest, text ≠ '0' :: 'x' :: rest) :
    Rule.hex.read? afterWord text = none := by
  unfold Rule.read?
  split
  · next heq => cases heq
  · next heq => cases heq
  · next rest _ => exact absurd rfl (h rest)
  · next heq => cases heq
  · next heq => cases heq
  · next heq => cases heq
  · rfl

/-- The rule for hexadecimal numbers reads nothing where there is no zero. -/
lemma read?_hex_of_ne (hc : c ≠ '0') : Rule.hex.read? afterWord (c :: rest) = none :=
  read?_hex_eq_none fun _ he => hc (List.cons.inj he).1

/-- Points and digits are no operators. -/
lemma not_mem_operatorChars_of_isNumberChar (hc : isNumberChar c = true) : c ∉ operatorChars := by
  intro hoperator
  have hall : ∀ c ∈ operatorChars, isNumberChar c = false := by decide
  rw [hall c hoperator] at hc
  cases hc

/-- A word character is no operator. -/
lemma not_mem_operatorChars_of_isWord (hc : isWord c = true) : c ∉ operatorChars := by
  intro hmem
  rw [isWord_of_mem_operatorChars c hmem] at hc
  cases hc

/-- Where a word character stands that starts no number, only the rule for words reads anything. -/
lemma read?_eq_none_of_isWord (hc : isWord c = true) (hnumber : isNumberChar c = false)
    (hrule : rule ≠ .word) : rule.read? afterWord (c :: rest) = none := by
  have hoperator := not_mem_operatorChars_of_isWord hc
  cases rule with
  | paren => exact read?_eq_none_of_not_operator hoperator (by simp)
  | pair => exact read?_eq_none_of_not_operator hoperator (by simp)
  | sign => exact read?_eq_none_of_not_operator hoperator (by simp)
  | hex =>
    refine read?_hex_of_ne ?_
    rintro rfl
    cases hnumber
  | number => exact run?_eq_none_iff.2 (by simpa using hnumber)
  | word => exact absurd rfl hrule

namespace Starts

/-- What a rule reads first is as it is said. -/
lemma of_first? (h : Lexeme.first? afterWord text = some (rule, l, rest)) :
    Starts afterWord rule l rest := by
  obtain ⟨hread, hearlier⟩ := first?_eq_some_iff_read?.1 h
  have htext := (first?_eq_some h).1
  have hreads := reads_of_first? h
  cases rule with
  | paren =>
    cases hreads with
    | paren hparen => exact .paren hparen
  | pair =>
    cases hreads with
    | pair hpair => exact .pair hpair
  | hex =>
    cases hreads with
    | hex =>
      subst htext
      obtain ⟨⟨l, rest⟩, hrun, heq⟩ := Option.map_eq_some_iff.1 hread
      cases heq
      obtain ⟨-, hne, hall, hrest⟩ := run?_eq_some_iff.1 hrun
      exact .hex hne hall hrest
  | sign =>
    cases hreads with
    | sign hsign =>
      refine .sign hsign fun d hd => ?_
      obtain ⟨rest, rfl⟩ := List.head?_eq_some_iff.1 hd
      subst htext
      simpa [Rule.read?] using hearlier .pair (by decide)
  | number =>
    obtain ⟨-, hne, hall, hrest⟩ := run?_eq_some_iff.1 hread
    refine .number hne hall hrest ?_
    rintro rfl t rfl
    subst htext
    exact run?_eq_none_iff.1 (Option.map_eq_none_iff.1 (hearlier .hex (by decide)))
  | word =>
    cases hreads with
    | word hafter hne hall hrest =>
      obtain ⟨c, l, rfl⟩ := List.exists_cons_of_ne_nil hne
      subst htext
      have hnumber := run?_eq_none_iff.1 (hearlier .number (by decide))
      exact .word hafter hall (by simpa using hnumber) hrest

/-- A lexeme with what follows it, as it is said of a rule, is read by this rule. -/
lemma read? (h : Starts afterWord rule l rest) :
    rule.read? afterWord (l ++ rest) = some (l, rest) := by
  cases h with
  | paren hparen => simp [Rule.read?, hparen]
  | pair hpair => simp [Rule.read?, hpair]
  | sign hsign => simp [Rule.read?, hsign]
  | hex hne hall hrest =>
    have hrun := run?_eq_some_iff.2 ⟨rfl, hne, hall, hrest⟩
    simp [Rule.read?, hrun]
  | number hne hall hrest => exact run?_eq_some_iff.2 ⟨rfl, hne, hall, hrest⟩
  | word hafter hall _ hrest =>
    subst hafter
    exact run?_eq_some_iff.2 ⟨rfl, List.cons_ne_nil _ _, hall, hrest⟩

/-- A lexeme with what follows it, as it is said of a rule, is not read by an earlier one. -/
lemma read?_earlier (h : Starts afterWord rule l rest) {earlier : Rule}
    (hearlier : earlier ∈ Rule.all.takeWhile (· != rule)) :
    earlier.read? afterWord (l ++ rest) = none := by
  cases h with
  | paren => cases hearlier
  | @pair a b rest hpair =>
    have hall : ∀ p ∈ pairs, isParen p.1 = false := by decide
    obtain rfl : earlier = .paren := by simpa [Rule.all] using hearlier
    simp [Rule.read?, hall _ hpair]
  | hex =>
    have hrule : earlier = .paren ∨ earlier = .pair := by simpa [Rule.all] using hearlier
    refine read?_eq_none_of_not_operator (by decide) ?_
    rcases hrule with rfl | rfl
    · simp
    · simp
  | @sign c rest hsign hrest =>
    have hall : ∀ c ∈ signs, isParen c = false ∧ c ≠ '0' := by decide
    have hrule : earlier = .paren ∨ earlier = .pair ∨ earlier = .hex := by
      simpa [Rule.all] using hearlier
    rcases hrule with rfl | rfl | rfl
    · simp [Rule.read?, (hall c hsign).1]
    · cases rest with
      | nil => rfl
      | cons d rest => simp [Rule.read?, hrest d rfl]
    · exact read?_hex_of_ne (hall c hsign).2
  | @number l rest hne hall hrest hzero =>
    obtain ⟨c, l, rfl⟩ := List.exists_cons_of_ne_nil hne
    have hoperator := not_mem_operatorChars_of_isNumberChar (hall c List.mem_cons_self)
    have hrule : earlier = .paren ∨ earlier = .pair ∨ earlier = .hex ∨ earlier = .sign := by
      simpa [Rule.all] using hearlier
    rcases hrule with rfl | rfl | rfl | rfl
    · exact read?_eq_none_of_not_operator hoperator (by simp)
    · exact read?_eq_none_of_not_operator hoperator (by simp)
    · by_cases hmark : ∃ t, c :: l ++ rest = '0' :: 'x' :: t
      · obtain ⟨t, heq⟩ := hmark
        cases l with
        | nil =>
          cases heq
          have hrun := run?_eq_none_iff.2 (hzero rfl t rfl)
          simp [Rule.read?, hrun]
        | cons d l =>
          cases heq
          have hx := hall 'x' (by simp)
          cases hx
      · exact read?_hex_eq_none (not_exists.1 hmark)
    · exact read?_eq_none_of_not_operator hoperator (by simp)
  | word _ hall hnumber _ =>
    refine read?_eq_none_of_isWord (hall _ List.mem_cons_self) hnumber ?_
    rintro rfl
    revert hearlier
    decide

end Starts

/-- A rule reads the first lexeme of a text if the text starts with it as it is said. -/
lemma Starts.first? (h : Starts afterWord rule l rest) :
    Lexeme.first? afterWord (l ++ rest) = some (rule, l, rest) :=
  first?_eq_some_iff_read?.2 ⟨h.read?, fun _ => h.read?_earlier⟩

/-- A rule reads the first lexeme of a text if and only if the text starts with it as it is said. -/
lemma first?_eq_some_iff :
    first? afterWord text = some (rule, l, rest) ↔
      text = l ++ rest ∧ Starts afterWord rule l rest := by
  refine ⟨fun h => ⟨(first?_eq_some h).1, .of_first? h⟩, ?_⟩
  rintro ⟨rfl, h⟩
  exact h.first?

/-- A separator is in no number. -/
lemma Separates.isNumberChar_eq (h : Separates c) : isNumberChar c = false :=
  (Bool.or_eq_false_iff.1 h.1).1

namespace Starts

/-- Before a separator or at the end of a text, a rule reads what it reads elsewhere. -/
lemma of_separates (h : Starts afterWord rule l rest) {rest' : List Char}
    (hrest : ∀ c ∈ rest'.head?, Separates c) : Starts false rule l rest' := by
  cases h with
  | paren hparen => exact .paren hparen
  | pair hpair => exact .pair hpair
  | hex hne hall => exact .hex hne hall fun d hd => (hrest d hd).1
  | sign hsign => exact .sign hsign fun d hd hpair => (hrest d hd).2.2 _ hpair rfl
  | number hne hall =>
    refine .number hne hall (fun d hd => (hrest d hd).isNumberChar_eq) ?_
    rintro - t rfl
    have hx := (hrest 'x' rfl).1
    cases hx
  | word _ hall hnumber => exact .word rfl hall hnumber fun d hd => (hrest d hd).2.1

/-- A separator at the end of a text changes nothing before it. -/
lemma append (h : Starts afterWord rule l rest) (hc : Separates c) (after : List Char) :
    Starts afterWord rule l (rest ++ c :: after) := by
  have hhead {p : Char → Prop} {rest : List Char} (hrest : ∀ d ∈ rest.head?, p d) (hp : p c) :
      ∀ d ∈ (rest ++ c :: after).head?, p d := by
    cases rest with
    | nil => simpa using hp
    | cons d rest => simpa using hrest
  cases h with
  | paren hparen => exact .paren hparen
  | pair hpair => exact .pair hpair
  | hex hne hall hrest => exact .hex hne hall (hhead hrest hc.1)
  | sign hsign hrest => exact .sign hsign (hhead hrest fun hpair => hc.2.2 _ hpair rfl)
  | number hne hall hrest hzero =>
    refine .number hne hall (hhead hrest hc.isNumberChar_eq) fun hl t ht => ?_
    cases rest with
    | nil =>
      cases ht
      have hx := hc.1
      cases hx
    | cons d rest =>
      cases ht
      exact hhead (hzero hl rest rfl) hc.1
  | word hafter hall hnumber hrest => exact .word hafter hall hnumber (hhead hrest hc.2.1)

end Starts

/-- A text starts without a lexeme if and only if no rule can contain its first character, or it is a
letter after a word character. -/
lemma first?_eq_none_iff :
    first? afterWord (c :: rest) = none ↔
      (isLetter c = true ∧ afterWord = true) ∨ isLexical c = false := by
  refine ⟨dropped_of_first?_eq_none, fun h => ?_⟩
  have hnone (hall : ∀ rule : Rule, rule.read? afterWord (c :: rest) = none) :
      first? afterWord (c :: rest) = none :=
    List.findSome?_eq_none_iff.2 fun rule _ => by rw [hall rule, Option.map_none]
  refine hnone fun rule => ?_
  rcases h with ⟨hletter, rfl⟩ | hforeign
  · have hword := isWord_of_isLetter hletter
    have hnumber : isNumberChar c = false := by
      by_contra hc
      rw [isLetter_of_isNumberChar (Bool.of_not_eq_false hc)] at hletter
      cases hletter
    by_cases hrule : rule = .word
    · rw [hrule]
      rfl
    · exact read?_eq_none_of_isWord hword hnumber hrule
  · have hlexical {p : Prop} (h : p → isLexical c = true) : ¬p := fun hp => by
      rw [h hp] at hforeign
      cases hforeign
    have hoperator := hlexical (isLexical_of_mem_operatorChars (c := c))
    cases rule with
    | paren => exact read?_eq_none_of_not_operator hoperator (by simp)
    | pair => exact read?_eq_none_of_not_operator hoperator (by simp)
    | sign => exact read?_eq_none_of_not_operator hoperator (by simp)
    | hex =>
      refine read?_hex_of_ne ?_
      rintro rfl
      revert hforeign
      decide
    | number =>
      have hnumber := hlexical (isLexical_of_isNumberChar (c := c))
      exact run?_eq_none_iff.2 (by simpa using hnumber)
    | word =>
      have hword := hlexical (isLexical_of_isWord (c := c))
      cases afterWord with
      | true => rfl
      | false => exact run?_eq_none_iff.2 (by simpa using hword)

end Formula.Lexeme
