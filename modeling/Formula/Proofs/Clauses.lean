import Formula.Clauses
import Formula.Proofs.Unicode.Space

/-!
# The format of a formula

A text has clauses if and only if it has them between its marks, and they keep clear of the marks that
end them; then it has them in one way only. Any other text lacks a part, and the first one that it
lacks is reported with the text before it (`ofText_format`). A formula that is written again from its
clauses has the same clauses.
-/

namespace Formula
open Formula.Unicode

namespace Clauses

/-- A text with given clauses between its marks. Anything may follow the closing brace. -/
def Encloses (text : List Char) (c : Clauses) : Prop :=
  ∃ rest, text =
    opening :: pipe :: (c.parameters.toList ++ pipe :: (c.body.toList ++ closing :: rest))

/-- Clauses that keep clear of the marks that end them, with a body that is not blank. -/
structure IsClear (c : Clauses) : Prop where
  pipe_parameters : pipe ∉ c.parameters.toList
  closing_parameters : closing ∉ c.parameters.toList
  closing_body : closing ∉ c.body.toList
  body_not_blank : c.body.toList.all isWhiteSpace = false

/-- A text is a formula up to some place, and there the next part is missing. -/
inductive Lacks : (seen rest : List Char) → ErrorKind → Prop where
  | bracket {rest} :
    rest.head? ≠ some opening →
    Lacks [] rest .missingBracket
  | firstPipe {rest} :
    rest.head? ≠ some pipe →
    Lacks [opening] rest .missingPipe
  | secondPipe {parameters rest} :
    pipe ∉ parameters → closing ∉ parameters →
    (∀ a ∈ rest.head?, a = closing) →
    Lacks (opening :: pipe :: parameters) rest .missingPipe
  | body {parameters body rest} :
    pipe ∉ parameters → closing ∉ parameters →
    closing ∉ body → body.all isWhiteSpace = true →
    (∀ a ∈ rest.head?, a = closing) →
    Lacks (opening :: pipe :: (parameters ++ [pipe])) (body ++ rest) .missingExpr
  | brace {parameters body} :
    pipe ∉ parameters → closing ∉ parameters →
    closing ∉ body → body.all isWhiteSpace = false →
    Lacks (opening :: pipe :: (parameters ++ pipe :: body)) [] .missingExpr

/-- The formula of some clauses. -/
def toText (c : Clauses) : String :=
  "\x7b|" ++ c.parameters ++ "|" ++ c.body ++ "\x7d"

variable {text seen rest l : List Char} {c : Clauses} {kind : ErrorKind}

/-- An expected character is left out. -/
lemma expect_cons (a : Char) : expect a kind seen (a :: rest) = .ok rest := by
  simp [expect]

/-- Where another character than the expected one comes next, or none, the text before it is reported.
-/
lemma expect_of_head?_ne {a : Char} (h : rest.head? ≠ some a) :
    expect a kind seen rest = .error (.after kind (String.ofList seen)) := by
  cases rest with
  | nil => rfl
  | cons b rest =>
    have hb : b ≠ a := by simpa using h
    simp [expect, hb]

/-- A run ends before the first character that is not of its class. -/
lemma takeWhile_append {p : Char → Bool} (hl : ∀ a ∈ l, p a = true)
    (hrest : ∀ a ∈ rest.head?, p a = false) : (l ++ rest).takeWhile p = l := by
  rw [List.takeWhile_append_of_pos hl]
  cases rest with
  | nil => simp
  | cons a rest => simp [hrest a rfl]

/-- Every text starts with a run of a class that is as long as can be. -/
lemma exists_run (p : Char → Bool) (text : List Char) :
    ∃ l rest, text = l ++ rest ∧ (∀ a ∈ l, p a = true) ∧ ∀ a ∈ rest.head?, p a = false := by
  refine ⟨text.takeWhile p, text.dropWhile p, List.takeWhile_append_dropWhile.symm, ?_, ?_⟩
  · intro a ha
    exact List.mem_takeWhile_imp ha
  · intro a ha
    have hhead := List.head?_dropWhile_not p text
    rw [ha] at hhead
    simpa using hhead

/-- The parameters of a text end at a pipe or a closing brace. -/
lemma takeWhile_parameters (hpipe : pipe ∉ l) (hclosing : closing ∉ l) (rest : List Char)
    (hrest : ∀ a ∈ rest.head?, a = pipe ∨ a = closing) :
    (l ++ rest).takeWhile (fun a => a != pipe && a != closing) = l := by
  refine takeWhile_append (fun a ha => ?_) fun a ha => ?_
  · simp only [Bool.and_eq_true, bne_iff_ne]
    exact ⟨fun he => hpipe (he ▸ ha), fun he => hclosing (he ▸ ha)⟩
  · rcases hrest a ha with rfl | rfl
    · decide
    · decide

/-- The body of a text ends at a closing brace. -/
lemma takeWhile_body (hclosing : closing ∉ l) (rest : List Char)
    (hrest : ∀ a ∈ rest.head?, a = closing) : (l ++ rest).takeWhile (· != closing) = l := by
  refine takeWhile_append (fun a ha => ?_) fun a ha => ?_
  · rw [bne_iff_ne]
    exact fun he => hclosing (he ▸ ha)
  · rw [hrest a ha]
    decide

/-- A text with clauses that keep clear of their marks is split into them. -/
lemma split_of_encloses (h : Encloses text c) (hc : c.IsClear) : split text = .ok c := by
  obtain ⟨rest, rfl⟩ := h
  have hparameters := takeWhile_parameters hc.pipe_parameters hc.closing_parameters
    (pipe :: (c.body.toList ++ closing :: rest)) (by simp)
  have hbody := takeWhile_body hc.closing_body (closing :: rest) (by simp)
  simp [split, expect_cons, hparameters, hbody, hc.body_not_blank, bind, Except.bind, pure,
    Except.pure]

/-- A text that lacks a part is not split, and the text before that part is reported. -/
lemma split_of_lacks (h : Lacks seen rest kind) :
    split (seen ++ rest) = .error (.after kind (String.ofList seen)) := by
  cases h with
  | bracket hrest => simp [split, expect_of_head?_ne hrest, bind, Except.bind]
  | firstPipe hrest => simp [split, expect_cons, expect_of_head?_ne hrest, bind, Except.bind]
  | secondPipe hpipe hclosing hrest =>
    have hparameters := takeWhile_parameters hpipe hclosing rest fun a ha => .inr (hrest a ha)
    have hne : rest.head? ≠ some pipe := fun h => absurd (hrest _ h) (by decide)
    simp [split, expect_cons, hparameters, expect_of_head?_ne hne, bind, Except.bind]
  | @body parameters body rest hpipe hclosing hbody hblank hrest =>
    have hparameters := takeWhile_parameters hpipe hclosing (pipe :: (body ++ rest)) (by simp)
    have hbody := takeWhile_body hbody rest hrest
    simp [split, expect_cons, hparameters, hbody, hblank, bind, Except.bind, throw, throwThe,
      MonadExceptOf.throw]
  | @brace parameters body hpipe hclosing hbody hblank =>
    have hparameters := takeWhile_parameters hpipe hclosing (pipe :: body) (by simp)
    have hbody := takeWhile_body hbody [] nofun
    rw [List.append_nil] at hbody
    have hne : ([] : List Char).head? ≠ some closing := nofun
    simp [split, expect_cons, hparameters, hbody, hblank, expect_of_head?_ne hne, bind, Except.bind]

/-- A text has clauses between its marks, or it lacks a part. -/
lemma encloses_or_lacks (text : List Char) :
    (∃ c, Encloses text c ∧ c.IsClear) ∨
      ∃ seen rest kind, text = seen ++ rest ∧ Lacks seen rest kind := by
  -- The marks are looked for from left to right, with a run of other characters before two of them.
  by_cases hopening : text.head? = some opening
  case neg => exact .inr ⟨[], text, _, rfl, .bracket hopening⟩
  obtain ⟨text, rfl⟩ := List.head?_eq_some_iff.1 hopening
  by_cases hfirst : text.head? = some pipe
  case neg => exact .inr ⟨[opening], text, _, rfl, .firstPipe hfirst⟩
  obtain ⟨text, rfl⟩ := List.head?_eq_some_iff.1 hfirst
  obtain ⟨parameters, text, rfl, hparameters, hend⟩ :=
    exists_run (fun a => a != pipe && a != closing) text
  have hpipe : pipe ∉ parameters := fun h => absurd (hparameters _ h) (by decide)
  have hclosing : closing ∉ parameters := fun h => absurd (hparameters _ h) (by decide)
  by_cases hsecond : text.head? = some pipe
  case neg =>
    refine .inr ⟨_, text, _, rfl, .secondPipe hpipe hclosing fun a ha => ?_⟩
    have hne : a ≠ pipe := fun he => hsecond (he ▸ ha)
    simpa [hne] using hend a ha
  obtain ⟨text, rfl⟩ := List.head?_eq_some_iff.1 hsecond
  obtain ⟨body, text, rfl, hbody, hend⟩ := exists_run (· != closing) text
  have hclosing' : closing ∉ body := fun h => absurd (hbody _ h) (by decide)
  have hbrace : ∀ a ∈ text.head?, a = closing := fun a ha => by simpa using hend a ha
  cases hblank : body.all isWhiteSpace with
  | true =>
    exact .inr ⟨opening :: pipe :: (parameters ++ [pipe]), body ++ text, _, by simp,
      .body hpipe hclosing hclosing' hblank hbrace⟩
  | false =>
    cases text with
    | nil =>
      exact .inr ⟨opening :: pipe :: (parameters ++ pipe :: body), [], _, by simp,
        .brace hpipe hclosing hclosing' hblank⟩
    | cons a text =>
      obtain rfl := hbrace a rfl
      exact .inl ⟨⟨String.ofList parameters, String.ofList body⟩, ⟨text, by simp⟩,
        by simpa using hpipe, by simpa using hclosing, by simpa using hclosing',
        by simpa using hblank⟩

/-- A text is split into the clauses between its marks. -/
lemma split_eq_ok_iff : split text = .ok c ↔ Encloses text c ∧ c.IsClear := by
  refine ⟨?_, ?_⟩
  · intro h
    rcases encloses_or_lacks text with ⟨c', hencloses, hclear⟩ | ⟨seen, rest, kind, rfl, hlacks⟩
    · cases h.symm.trans (split_of_encloses hencloses hclear)
      exact ⟨hencloses, hclear⟩
    · cases h.symm.trans (split_of_lacks hlacks)
  · intro h
    exact split_of_encloses h.1 h.2

/-- The first part that a text lacks is reported with the text before it. -/
lemma split_eq_error_iff {d : Diagnostic} :
    split text = .error d ↔
      ∃ seen rest kind, text = seen ++ rest ∧ Lacks seen rest kind ∧
        d = .after kind (String.ofList seen) := by
  refine ⟨?_, ?_⟩
  · intro h
    rcases encloses_or_lacks text with ⟨c', hencloses, hclear⟩ | ⟨seen, rest, kind, rfl, hlacks⟩
    · cases h.symm.trans (split_of_encloses hencloses hclear)
    · cases h.symm.trans (split_of_lacks hlacks)
      exact ⟨seen, rest, kind, rfl, hlacks, rfl⟩
  · rintro ⟨seen, rest, kind, rfl, hlacks, rfl⟩
    exact split_of_lacks hlacks

/-- The characters of the formula of some clauses. -/
lemma toList_toText (c : Clauses) :
    c.toText.toList =
      opening :: (pipe :: (c.parameters.toList ++ pipe :: c.body.toList) ++ [closing]) := by
  simp [toText, opening, pipe, closing]

/-- The formula of some clauses encloses them. -/
lemma encloses_toText (c : Clauses) : Encloses c.toText.toList c :=
  ⟨[], by simp [toList_toText]⟩

/-- The formula of clauses in lower case is in lower case, and there is nothing to trim. -/
lemma lowerCase_trim_toText (hparameters : ∀ a ∈ c.parameters.toList, IsLower a)
    (hbody : ∀ a ∈ c.body.toList, IsLower a) :
    lowerCase (trim c.toText.toList) = c.toText.toList := by
  rw [toList_toText, trim_of_ends (by decide) (by decide), ← toList_toText]
  have hmarks : IsLower opening ∧ IsLower pipe ∧ IsLower closing := by decide +kernel
  refine lowerCase_of_isLower fun a ha => ?_
  rw [toList_toText] at ha
  simp only [List.cons_append, List.append_assoc, List.mem_cons, List.mem_append, List.not_mem_nil,
    or_false] at ha
  rcases ha with rfl | rfl | ha | rfl | ha | rfl
  · exact hmarks.1
  · exact hmarks.2.1
  · exact hparameters a ha
  · exact hmarks.2.1
  · exact hbody a ha
  · exact hmarks.2.2

/-- A text has the clauses that it encloses once it is trimmed and in lower case. -/
lemma ofText_eq_ok_iff {text : String} :
    ofText text = .ok c ↔ Encloses (lowerCase (trim text.toList)) c ∧ c.IsClear :=
  split_eq_ok_iff

/-- The clauses of a text are in lower case. -/
lemma isLower_of_ofText {text : String} (h : ofText text = .ok c) :
    (∀ a ∈ c.parameters.toList, IsLower a) ∧ ∀ a ∈ c.body.toList, IsLower a := by
  obtain ⟨⟨rest, htext⟩, -⟩ := ofText_eq_ok_iff.1 h
  have hlower {a : Char} (ha : a ∈ lowerCase (trim text.toList)) : IsLower a :=
    isLower_of_mem_lowerCase ha
  rw [htext] at hlower
  exact ⟨fun a ha => hlower (by simp [ha]), fun a ha => hlower (by simp [ha])⟩

/-- Clauses in lower case that keep clear of their marks are those of their formula. -/
lemma ofText_toText (hparameters : ∀ a ∈ c.parameters.toList, IsLower a)
    (hbody : ∀ a ∈ c.body.toList, IsLower a) (hclear : c.IsClear) : ofText c.toText = .ok c := by
  rw [ofText_eq_ok_iff, lowerCase_trim_toText hparameters hbody]
  exact ⟨encloses_toText c, hclear⟩

/-- The format of a formula, for a text once it is trimmed and in lower case. It has clauses if and only
if it encloses them and they keep clear of their marks, which it does for one pair of clauses at most.
Otherwise the first part that it lacks decides the failure, whose detail is the text before that part.
The formula of the clauses has the same clauses. -/
theorem ofText_format (text : String) :
    let t := lowerCase (trim text.toList)
    (∀ c, ofText text = .ok c ↔ Encloses t c ∧ c.IsClear) ∧
    (∀ c c', Encloses t c ∧ c.IsClear → Encloses t c' ∧ c'.IsClear → c = c') ∧
    (∀ d, ofText text = .error d ↔
      ∃ seen rest kind, t = seen ++ rest ∧ Lacks seen rest kind ∧
        d = .after kind (String.ofList seen)) ∧
    ∀ c, ofText text = .ok c → ofText c.toText = .ok c := by
  refine ⟨fun c => ofText_eq_ok_iff, ?_, fun d => split_eq_error_iff, ?_⟩
  · intro c c' h h'
    cases (ofText_eq_ok_iff.2 h).symm.trans (ofText_eq_ok_iff.2 h')
    rfl
  · intro c h
    obtain ⟨hparameters, hbody⟩ := isLower_of_ofText h
    exact ofText_toText hparameters hbody (ofText_eq_ok_iff.1 h).2

-- The parameters end at the first pipe and the body at the first closing brace.
example : (ofText " \x7b|A\x7bb|x || Y \x7d rest\x7d").toOption = some ⟨"a\x7bb", "x || y "⟩ := by
  decide +kernel

end Clauses

end Formula
