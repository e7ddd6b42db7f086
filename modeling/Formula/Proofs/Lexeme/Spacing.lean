import Formula.Proofs.Lexeme.Kind
import Formula.Proofs.Unicode.Space

/-!
# White space around lexemes

Lexemes with white space between them are read as the same lexemes, whatever text they came from and
whatever white space it is (`lexemes_of_isSpaced`). White space ends the lexeme before it and is dropped,
and after it a rule reads a lexeme as it did in its old place.
-/

namespace Formula
open Formula.Unicode

/-- White space, or nothing. -/
def IsBlank (gap : List Char) : Prop :=
  ∀ c ∈ gap, isWhiteSpace c = true

instance (gap : List Char) : Decidable (IsBlank gap) :=
  inferInstanceAs (Decidable (∀ c ∈ gap, isWhiteSpace c = true))

/-- Lexemes with white space behind each of them, at least some of it between two of them. -/
inductive Spaced : List String → List Char → Prop where
  | nil : Spaced [] []
  | cons {l gap ls text} :
    IsBlank gap →
    (ls ≠ [] → gap ≠ []) →
    Spaced ls text →
    Spaced (l :: ls) (l.toList ++ (gap ++ text))

/-- A text that consists of given lexemes, with white space between them and any white space at its two
ends. -/
def IsSpaced (ls : List String) (text : String) : Prop :=
  ∃ before rest, IsBlank before ∧ Spaced ls rest ∧ text.toList = before ++ rest

namespace Lexeme

variable {afterWord : Bool} {rule : Rule} {c : Char} {text l rest gap : List Char}

/-- White space ends the lexeme before it. -/
lemma separates_of_isWhiteSpace (h : isWhiteSpace c = true) : Separates c :=
  ⟨of_inRanges (p := fun c => isHexChar c = false) (by decide +kernel) h, isWord_of_isWhiteSpace h,
    of_inRanges (p := fun c => ∀ p ∈ pairs, p.2 ≠ c) (by decide +kernel) h⟩

/-- No rule can contain white space. -/
lemma isLexical_of_isWhiteSpace (h : isWhiteSpace c = true) : isLexical c = false := by
  have hother : (c == '.' || operatorChars.contains c) = false :=
    of_inRanges (p := fun c => (c == '.' || operatorChars.contains c) = false) (by decide +kernel) h
  rw [isLexical, Bool.or_assoc, hother, isWord_of_isWhiteSpace h, Bool.or_self]

/-- White space is dropped, and a word may start after it. -/
lemma scan_of_isWhiteSpace (h : isWhiteSpace c = true) (text : List Char) :
    scan afterWord (c :: text) = scan false text := by
  have hfirst : first? afterWord (c :: text) = none :=
    first?_eq_none_iff.2 (.inr (isLexical_of_isWhiteSpace h))
  rw [scan_of_first?_eq_none hfirst, isWord_of_isWhiteSpace h]

/-- White space at the start of a text is dropped. -/
lemma scan_blank_append (hgap : IsBlank gap) (text : List Char) :
    scan false (gap ++ text) = scan false text := by
  induction gap with
  | nil => rfl
  | cons c gap ih =>
    obtain ⟨hc, hgap⟩ := List.forall_mem_cons.1 hgap
    rw [List.cons_append, scan_of_isWhiteSpace hc, ih hgap]

/-- White space between a lexeme and a text is dropped, and the text does not depend on the lexeme. -/
lemma scan_gap_append (hgap : IsBlank gap) (htext : text ≠ [] → gap ≠ []) :
    scan afterWord (gap ++ text) = scan false text := by
  cases gap with
  | nil =>
    have hnil : text = [] := by simpa using htext
    rw [hnil, List.append_nil, scan_nil, scan_nil]
  | cons c gap =>
    obtain ⟨hc, hgap⟩ := List.forall_mem_cons.1 hgap
    rw [List.cons_append, scan_of_isWhiteSpace hc, scan_blank_append hgap]

/-- Where the text before the white space behind a lexeme starts with the lexeme, it is read there. -/
lemma scan_lexeme_append (h : Starts afterWord rule l rest) (hgap : IsBlank gap)
    (htext : text ≠ [] → gap ≠ []) :
    scan false (l ++ (gap ++ text)) = (rule, l) :: scan false text := by
  have hfirst : first? false (l ++ (gap ++ text)) = some (rule, l, gap ++ text) := by
    refine (h.of_separates fun c hc => separates_of_isWhiteSpace ?_).first?
    cases gap with
    | nil =>
      have hnil : text = [] := by simpa using htext
      rw [hnil] at hc
      cases hc
    | cons d gap =>
      cases hc
      exact hgap c List.mem_cons_self
  rw [scan_of_first?_eq_some hfirst, scan_gap_append hgap htext]

/-- A lexeme of a text is read in some place. -/
lemma exists_starts_of_mem_lexemes {text l : String} (h : l ∈ lexemes text) :
    ∃ afterWord rule rest, Starts afterWord rule l.toList rest := by
  obtain ⟨⟨rule, l⟩, hmem, rfl⟩ := List.mem_map.1 h
  obtain ⟨afterWord, text', rest, hfirst⟩ := exists_first?_of_mem_scan hmem
  rw [String.toList_ofList]
  exact ⟨afterWord, rule, rest, .of_first? hfirst⟩

/-- Lexemes with white space behind each of them are read again. -/
lemma map_scan_of_spaced {ls : List String} (hls : ∀ l ∈ ls, ∃ text, l ∈ lexemes text)
    (h : Spaced ls text) : (scan false text).map (fun (_, l) => String.ofList l) = ls := by
  induction h with
  | nil =>
    rw [scan_nil]
    rfl
  | @cons l gap ls text hgap hne htext ih =>
    obtain ⟨⟨_, hl⟩, hls⟩ := List.forall_mem_cons.1 hls
    obtain ⟨afterWord, rule, rest, hstarts⟩ := exists_starts_of_mem_lexemes hl
    have hgap' : text ≠ [] → gap ≠ [] := fun h => hne fun hnil => by
      subst hnil
      cases htext
      exact h rfl
    rw [scan_lexeme_append hstarts hgap hgap', List.map_cons, ih hls]
    simp

end Lexeme

/-- Lexemes with white space between them are the lexemes of the text that they make. -/
lemma lexemes_of_isSpaced {ls : List String} {text : String}
    (hls : ∀ l ∈ ls, ∃ text, l ∈ lexemes text) (h : IsSpaced ls text) : lexemes text = ls := by
  obtain ⟨before, rest, hbefore, hspaced, htext⟩ := h
  rw [lexemes, htext, Lexeme.scan_blank_append hbefore]
  exact Lexeme.map_scan_of_spaced hls hspaced

/-- A lexeme of a text is a part of the text. -/
lemma mem_of_mem_lexemes {text l : String} (h : l ∈ lexemes text) : ∀ c ∈ l.toList, c ∈ text.toList := by
  obtain ⟨⟨rule, l⟩, hmem, rfl⟩ := List.mem_map.1 h
  obtain ⟨letters, foreign, stretches, hcut⟩ := Lexeme.exists_cut false text.toList
  rw [hcut.scan_eq] at hmem
  obtain ⟨s, hs, heq⟩ := List.mem_map.1 hmem
  intro c hc
  have hc : c ∈ s.lexeme := by
    rw [(Prod.mk.inj heq).2]
    simpa using hc
  rw [hcut.text_eq]
  exact List.mem_append_right _ (List.mem_flatMap.2 ⟨s, hs, by simp [Lexeme.Stretch.text, hc]⟩)

/-- The characters of spaced lexemes are white space and those of the lexemes. -/
lemma isWhiteSpace_or_mem_of_spaced {ls : List String} {text : List Char} (h : Spaced ls text) :
    ∀ c ∈ text, isWhiteSpace c = true ∨ ∃ l ∈ ls, c ∈ l.toList := by
  induction h with
  | nil => exact nofun
  | @cons l gap ls text hgap _ _ ih =>
    intro c hc
    simp only [List.mem_append] at hc
    rcases hc with hc | hc | hc
    · exact .inr ⟨l, List.mem_cons_self, hc⟩
    · exact .inl (hgap c hc)
    · exact (ih c hc).imp_right fun ⟨l', hl', hc'⟩ => ⟨l', List.mem_cons_of_mem l hl', hc'⟩

/-- What holds of white space and of the characters of a text holds of the lexemes of the text with
white space between them. -/
lemma forall_mem_of_isSpaced {p : Char → Prop} {text text' : String}
    (hspace : ∀ c, isWhiteSpace c = true → p c) (htext : ∀ c ∈ text.toList, p c)
    (h : IsSpaced (lexemes text) text') : ∀ c ∈ text'.toList, p c := by
  obtain ⟨before, rest, hbefore, hspaced, htext'⟩ := h
  intro c hc
  rw [htext', List.mem_append] at hc
  rcases hc with hc | hc
  · exact hspace c (hbefore c hc)
  rcases isWhiteSpace_or_mem_of_spaced hspaced c hc with hc | ⟨l, hl, hc⟩
  · exact hspace c hc
  · exact htext c (mem_of_mem_lexemes hl c hc)

/-- A lexeme by itself is spaced. -/
lemma isSpaced_singleton (l : String) : IsSpaced [l] l :=
  ⟨[], l.toList ++ ([] ++ []), nofun, .cons nofun nofun .nil, by simp⟩

/-- A lexeme of a text is the only lexeme of the text that it is itself. -/
lemma lexemes_of_mem_lexemes {text l : String} (h : l ∈ lexemes text) : lexemes l = [l] :=
  lexemes_of_isSpaced (by simpa using ⟨text, h⟩) (isSpaced_singleton l)

/-- A text with lexemes is not blank. -/
lemma not_blank_of_lexemes {text : String} (h : lexemes text ≠ []) :
    text.toList.all isWhiteSpace = false := by
  by_contra hblank
  rw [Bool.not_eq_false, List.all_eq_true] at hblank
  exact h (lexemes_of_isSpaced nofun ⟨text.toList, [], hblank, .nil, by simp⟩)

end Formula
