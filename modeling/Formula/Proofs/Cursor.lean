import Formula.Cursor
import Formula.Proofs.Lexeme.Kind

/-!
# What cursors remember

A history lists the moves of a cursor, the latest first. A cursor remembers one position and one
number about all the put-backs of its history; that is enough to refuse a put-back exactly when as
many as are granted in a row, the latest ones, were all made where the cursor stands
(`Remembers`, `cursor_history`). Reads in between and refused put-backs do not matter.
-/

namespace Formula.Cursor

/-- The moves of a cursor: to read a token, to put one back, and to start over on another text. -/
inductive Move where
  | next
  | putBack
  | reset (text : String)
  deriving DecidableEq, Repr

/-- What a cursor answers to its moves. -/
inductive Reply where
  | token (t : Token)
  | granted
  | refused (d : Diagnostic)
  | reset
  deriving DecidableEq, Repr

/-- The answer to a move, and the cursor after it. -/
def perform (c : Cursor) : Move → Reply × Cursor
  | .next => (.token c.next.1, c.next.2)
  | .putBack =>
    match c.putBack with
    | (.ok (), c') => (.granted, c')
    | (.error d, c') => (.refused d, c')
  | .reset text => (.reset, .ofText text)

/-- The cursor after a history. -/
def after (c : Cursor) : List Move → Cursor
  | [] => c
  | move :: earlier => ((c.after earlier).perform move).2

/-- The answers to the moves of a history, the latest first. -/
def replies (c : Cursor) : List Move → List Reply
  | [] => []
  | move :: earlier => ((c.after earlier).perform move).1 :: c.replies earlier

/-- The lexemes that are read after a history: those of the latest text that was started over on. -/
def latestLexemes (lexemes : List String) : List Move → List String
  | [] => lexemes
  | .reset text :: _ => Formula.lexemes text
  | _ :: earlier => latestLexemes lexemes earlier

/-- The positions at which a history puts tokens back since it last started over, the latest first.
Put-backs that are refused are among them. -/
def putBacks (c : Cursor) : List Move → List Nat
  | [] => []
  | .next :: earlier => c.putBacks earlier
  | .putBack :: earlier => (c.after earlier).position :: c.putBacks earlier
  | .reset _ :: _ => []

/-- Whether a put-back is refused. -/
def Refuses (c : Cursor) : Prop :=
  c.putBackAt = some c.position ∧ maxPutBacks ≤ c.putBackCount

instance (c : Cursor) : Decidable c.Refuses :=
  inferInstanceAs (Decidable (_ ∧ _))

/-- What a cursor remembers of its history: the position of the latest put-back, and how many of the
latest put-backs were made there. -/
structure Remembers (start : Cursor) (history : List Move) (c : Cursor) : Prop where
  lexemes_eq : c.lexemes = latestLexemes start.lexemes history
  position_le : c.position ≤ c.lexemes.length + 1
  putBackAt_eq : c.putBackAt = (start.putBacks history).head?
  putBackCount_eq : ∀ p, c.putBackAt = some p →
    c.putBackCount = ((start.putBacks history).takeWhile (· == p)).length

section Moves

variable {c : Cursor}

/-- A put-back that is refused counts, and leaves the cursor where it is. -/
lemma perform_putBack_of_refuses (h : c.Refuses) :
    c.perform .putBack =
      (.refused ⟨.putBack, c.detail .putBack⟩, { c with putBackCount := c.putBackCount + 1 }) := by
  obtain ⟨hat, hcount⟩ := h
  have hlt : maxPutBacks < c.putBackCount + 1 := Nat.lt_succ_of_le hcount
  simp only [perform, putBack, hat, beq_self_eq_true, Bool.true_and, if_true, decide_eq_true hlt,
    detail]

/-- A put-back that is granted goes one token back, and counts from 1 at a new position. -/
lemma perform_putBack_of_not_refuses (h : ¬c.Refuses) :
    c.perform .putBack =
      (.granted,
        { c with
          position := c.position - 1
          putBackAt := some c.position
          putBackCount := if c.putBackAt = some c.position then c.putBackCount + 1 else 1 }) := by
  by_cases hat : c.putBackAt = some c.position
  · have hlt : ¬maxPutBacks < c.putBackCount + 1 := fun hlt => h ⟨hat, Nat.le_of_lt_succ hlt⟩
    simp only [perform, putBack, hat, beq_self_eq_true, Bool.true_and, if_true,
      decide_eq_false hlt, Bool.false_eq_true, if_false]
  · have hbeq : (c.putBackAt == some c.position) = false := beq_eq_false_iff_ne.2 hat
    simp only [perform, putBack, hbeq, Bool.false_and, Bool.false_eq_true, if_false, hat]

/-- Which put-backs are refused, and with what diagnostic. -/
lemma perform_putBack_eq_refused_iff {d : Diagnostic} :
    (c.perform .putBack).1 = .refused d ↔ c.Refuses ∧ d = ⟨.putBack, c.detail .putBack⟩ := by
  by_cases h : c.Refuses
  · rw [perform_putBack_of_refuses h, Reply.refused.injEq]
    exact ⟨fun hd => ⟨h, hd.symm⟩, fun hd => hd.2.symm⟩
  · rw [perform_putBack_of_not_refuses h]
    exact ⟨fun hd => (by cases hd), fun hd => absurd hd.1 h⟩

/-- A read at the end of the lexemes, and only there, answers that the end is reached. -/
lemma perform_next_eq_finished_iff :
    (c.perform .next).1 = .token .finished ↔ c.lexemes.length ≤ c.position := by
  constructor
  · intro h
    by_contra hlt
    rw [Nat.not_le] at hlt
    have htoken : Token.classify c.lexemes[c.position] = .finished := by
      simpa [perform, next, List.getElem?_eq_getElem hlt] using h
    exact Token.kind_classify_ne _ (congrArg Token.kind htoken)
  · intro h
    simp only [perform, next, List.getElem?_eq_none h]
    rfl

/-- A token that is put back right after it was read is read again, and the cursor stands then where
it stood after the first time. -/
lemma next_putBack_next (h : ((c.after [.next]).perform .putBack).1 = .granted) :
    ((c.after [.putBack, .next]).perform .next).1 = (c.perform .next).1 ∧
    (c.after [.next, .putBack, .next]).position = (c.after [.next]).position := by
  have hnot : ¬(c.after [.next]).Refuses := by
    intro hrefuses
    rw [perform_putBack_of_refuses hrefuses] at h
    cases h
  have hback := congrArg Prod.snd (perform_putBack_of_not_refuses hnot)
  have hlexemes : (c.after [.putBack, .next]).lexemes = c.lexemes := by
    rw [after, hback]
    rfl
  -- Past the end a read does not move the cursor, but there is no lexeme one token back either.
  have hposition : (c.after [.putBack, .next]).position = min c.position c.lexemes.length := by
    rw [after, hback]
    simp only [after, perform, next]
    omega
  have hread : c.lexemes[min c.position c.lexemes.length]? = c.lexemes[c.position]? := by
    rcases Nat.le_total c.position c.lexemes.length with hle | hle
    · rw [Nat.min_eq_left hle]
    · rw [Nat.min_eq_right hle, List.getElem?_eq_none hle, List.getElem?_eq_none (Nat.le_refl _)]
  constructor
  · simp only [perform, next, hlexemes, hposition, hread]
  · rw [after]
    simp only [perform, next, hlexemes, hposition]
    simp only [after, perform, next]
    omega

/-- A cursor at the end stays there, unless it puts a token back or starts over. -/
lemma ends_perform (hend : c.lexemes.length ≤ c.position) {move : Move}
    (hgranted : (c.perform move).1 ≠ .granted) (hreset : (c.perform move).1 ≠ .reset) :
    (c.perform move).2.lexemes.length ≤ (c.perform move).2.position := by
  cases move with
  | next =>
    simp only [perform, next]
    omega
  | putBack =>
    by_cases h : c.Refuses
    · rw [perform_putBack_of_refuses h]
      exact hend
    · rw [perform_putBack_of_not_refuses h] at hgranted
      exact absurd rfl hgranted
  | reset text => exact absurd rfl hreset

/-- A cursor at the end stays there for ever, and reads nothing but the token past the last one. -/
lemma ends_after (hend : c.lexemes.length ≤ c.position) {later : List Move}
    (hgranted : .granted ∉ c.replies later) (hreset : .reset ∉ c.replies later) :
    (c.after later).lexemes.length ≤ (c.after later).position ∧
    ∀ t, .token t ∈ c.replies later → t = .finished := by
  induction later with
  | nil => exact ⟨hend, fun t ht => by cases ht⟩
  | cons move earlier ih =>
    simp only [replies, List.mem_cons, not_or] at hgranted hreset ⊢
    obtain ⟨hat, htokens⟩ := ih hgranted.2 hreset.2
    refine ⟨ends_perform hat (Ne.symm hgranted.1) (Ne.symm hreset.1), ?_⟩
    rintro t (ht | ht)
    · cases move with
      | next =>
        rw [perform_next_eq_finished_iff.2 hat] at ht
        exact Reply.token.inj ht
      | putBack =>
        simp only [perform] at ht
        split at ht <;> cases ht
      | reset text => cases ht
    · exact htokens t ht

end Moves

/-- A list begins with repetitions of a position if that many come before any other position. -/
lemma replicate_prefix_iff {n p : Nat} {ps : List Nat} :
    List.replicate n p <+: ps ↔ n ≤ (ps.takeWhile (· == p)).length := by
  induction n generalizing ps with
  | zero => simp
  | succ n ih =>
    cases ps with
    | nil => simp [List.replicate_succ]
    | cons q ps =>
      rw [List.replicate_succ, List.cons_prefix_cons, ih, List.takeWhile_cons]
      by_cases h : q = p
      · simp [h]
      · simp [h, Ne.symm h]

namespace Remembers

variable {start : Cursor} {history : List Move} {c : Cursor}

/-- What a cursor remembers is enough to tell whether the latest put-backs were all made where it
stands. -/
lemma refuses_iff (h : Remembers start history c) :
    c.Refuses ↔ List.replicate maxPutBacks c.position <+: start.putBacks history := by
  constructor
  · rintro ⟨hat, hcount⟩
    rwa [replicate_prefix_iff, ← h.putBackCount_eq _ hat]
  · intro hprefix
    have hat : c.putBackAt = some c.position := by
      obtain ⟨rest, hrest⟩ := hprefix
      rw [h.putBackAt_eq, ← hrest]
      rfl
    refine ⟨hat, ?_⟩
    rwa [h.putBackCount_eq _ hat, ← replicate_prefix_iff]

/-- A cursor remembers a history with one more move. -/
lemma perform (h : Remembers start history (start.after history)) (move : Move) :
    Remembers start (move :: history) (start.after (move :: history)) := by
  cases move with
  | next => exact ⟨h.lexemes_eq, Nat.min_le_right _ _, h.putBackAt_eq, h.putBackCount_eq⟩
  | putBack =>
    -- One more put-back at the position of the latest ones makes their row longer.
    have hlonger (hat : (start.after history).putBackAt = some (start.after history).position) :
        (start.after history).putBackCount + 1 =
          ((start.putBacks (.putBack :: history)).takeWhile
            (· == (start.after history).position)).length := by
      rw [h.putBackCount_eq _ hat, putBacks, List.takeWhile_cons, if_pos (beq_self_eq_true _)]
      rfl
    rw [after]
    by_cases hrefuses : (start.after history).Refuses
    · rw [perform_putBack_of_refuses hrefuses]
      refine ⟨h.lexemes_eq, h.position_le, hrefuses.1, ?_⟩
      intro p hp
      obtain rfl : (start.after history).position = p := Option.some.inj (hrefuses.1.symm.trans hp)
      exact hlonger hrefuses.1
    · rw [perform_putBack_of_not_refuses hrefuses]
      refine ⟨h.lexemes_eq, Nat.le_trans (Nat.sub_le _ _) h.position_le, rfl, ?_⟩
      intro p hp
      obtain rfl : (start.after history).position = p := Option.some.inj hp
      by_cases hat : (start.after history).putBackAt = some (start.after history).position
      · simp only [if_pos hat, hlonger hat]
      · have hnil :
            (start.putBacks history).takeWhile (· == (start.after history).position) = [] := by
          rw [h.putBackAt_eq] at hat
          cases hputBacks : start.putBacks history with
          | nil => rfl
          | cons q earlier =>
            rw [hputBacks] at hat
            exact List.takeWhile_cons_of_neg fun hq => hat (congrArg some (beq_iff_eq.1 hq))
        simp only [if_neg hat, putBacks, List.takeWhile_cons, beq_self_eq_true, if_true, hnil]
        rfl
  | reset text => exact ⟨rfl, Nat.zero_le _, rfl, fun p hp => by cases hp⟩

end Remembers

/-- A cursor at the start of lexemes remembers every history. -/
lemma remembers_after (lexemes : List String) (history : List Move) :
    Remembers { lexemes := lexemes } history (after { lexemes := lexemes } history) := by
  induction history with
  | nil => exact ⟨rfl, Nat.zero_le _, rfl, fun p hp => by cases hp⟩
  | cons move earlier ih => exact ih.perform move

/-- After any reads, put-backs and new starts a cursor stands between the start and one place past
the end of the lexemes, which only new starts replace, and a detail holds the lexemes before it. A
read never fails; at the end, and only there, it answers that the end is reached, and so do all reads
to come as long as nothing is put back. A put-back fails if and only if the five put-backs before it,
refused ones included, were made where the cursor stands, and then the cursor stays there. A token
that is put back right after it was read is read again. -/
theorem cursor_history (lexemes : List String) (history : List Move) :
    let c : Cursor := after { lexemes := lexemes } history
    (c.lexemes = latestLexemes lexemes history ∧ c.position ≤ c.lexemes.length + 1) ∧
    (∀ kind, c.detail kind =
      String.join (c.lexemes.take (min c.position c.lexemes.length)) ++ kind.tag) ∧
    (c.perform .next).1 = .token ((c.lexemes[c.position]?.map .classify).getD .finished) ∧
    ((c.perform .next).1 = .token .finished ↔ c.lexemes.length ≤ c.position) ∧
    (c.lexemes.length ≤ c.position → ∀ later, .granted ∉ c.replies later →
      .reset ∉ c.replies later → ∀ t, .token t ∈ c.replies later → t = .finished) ∧
    (∀ d, (c.perform .putBack).1 = .refused d ↔
      List.replicate 5 c.position <+: putBacks { lexemes := lexemes } history ∧
        d = ⟨.putBack, c.detail .putBack⟩) ∧
    (∀ d, (c.perform .putBack).1 = .refused d → (c.perform .putBack).2.position = c.position) ∧
    (((c.after [.next]).perform .putBack).1 = .granted →
      ((c.after [.putBack, .next]).perform .next).1 = (c.perform .next).1 ∧
      (c.after [.next, .putBack, .next]).position = (c.after [.next]).position) := by
  intro c
  have h : Remembers _ history c := remembers_after lexemes history
  refine ⟨⟨h.lexemes_eq, h.position_le⟩, ?_, rfl, perform_next_eq_finished_iff, ?_, ?_, ?_,
    next_putBack_next⟩
  · intro kind
    rw [detail, ← List.take_eq_take_min]
  · intro hend later hgranted hreset
    exact (ends_after hend hgranted hreset).2
  · intro d
    rw [perform_putBack_eq_refused_iff, h.refuses_iff]
    rfl
  · intro d hrefused
    rw [perform_putBack_of_refuses (perform_putBack_eq_refused_iff.1 hrefused).1]

/-- At the start nothing is left to put back, but the put-backs are counted all the same. -/
example : replies { lexemes := ["a"] } (List.replicate 6 .putBack) =
    .refused ⟨.putBack, "<e13>"⟩ :: List.replicate 5 .granted := by
  decide +kernel

end Formula.Cursor
