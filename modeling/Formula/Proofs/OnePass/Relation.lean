import Formula.Proofs.Expr.Labels
import Formula.Proofs.Lexeme.Kind
import Formula.Proofs.OnePass.Compiler
import Formula.Proofs.Parser.Run

/-!
# Where the one-pass compiler stands

How a state of the one-pass compiler is related to the tokens that a parser has before it. `Stands`
says where the cursor is in the list of tokens, and that the token it stands at was not put back
before it was read; so a put-back is never refused (`Stands.run_followedBy`). `Wrote` says what was
written since another state. `Agrees` compares a run of a parser with a run of an action, and goes
through bind.
-/

namespace Formula

namespace OnePass

open Formula.Parser

namespace Action

variable {α β : Type} {s : State}

/-- The run of two actions one after another. -/
lemma run_bind (x : Action α) (f : α → Action β) (s : State) :
    (x >>= f).run s = x.run s >>= fun r => (f r.1).run r.2 :=
  rfl

/-- An action that looks at the state has it. -/
lemma run_state_bind (f : State → Action β) (s : State) : (state >>= f).run s = (f s).run s :=
  rfl

/-- An action that goes on has the state at the next token. -/
lemma run_advance_bind (f : Unit → Action β) (s : State) :
    (advance >>= f).run s = (f ()).run s.next :=
  rfl

/-- An action that counts a parenthesis has the state where it is counted. -/
lemma run_openParen_bind (f : Unit → Action β) (s : State) :
    (openParen >>= f).run s = (f ()).run s.openParen :=
  rfl

/-- An action that counts a condition has the state where it is counted. -/
lemma run_openCondition_bind (f : Unit → Action β) (s : State) :
    (openCondition >>= f).run s = (f ()).run s.openCondition :=
  rfl

/-- An action after a condition has the state where it is not counted any more. -/
lemma run_closeCondition_bind (f : Unit → Action β) (s : State) :
    (closeCondition >>= f).run s = (f ()).run s.closeCondition :=
  rfl

/-- An action that takes a label has its number. -/
lemma run_newLabel_bind (f : Nat → Action β) (s : State) :
    (newLabel >>= f).run s = (f s.labels).run (s.write [.label]) :=
  rfl

/-- An action that writes has the state with more steps. -/
lemma run_write_bind (f : Unit → Action β) (steps : List Step) (s : State) :
    (write steps >>= f).run s = (f ()).run (s.write steps) :=
  rfl

/-- A choice between actions is made before they run. -/
lemma run_ite {c : Prop} [Decidable c] {x y : Action α} {s : State} :
    (if c then x else y).run s = if c then x.run s else y.run s := by
  split <;> rfl

/-- Punctuation that is required is the current token, or it is a failure. -/
lemma run_require (text : String) (kind : ErrorKind) (s : State) :
    (require text kind).run s = if s.isAt text then .ok ((), s) else .error ⟨kind, s⟩ := by
  rw [require, run_state_bind]
  cases s.isAt text with
  | true => rfl
  | false => rfl

end Action

/-- The cursor of a state stands at the first of some tokens, which are the rest of the tokens of
some lexemes. The latest put-back was not behind that place, up to some slack. -/
structure Stands (lexemes : List String) (slack : Nat) (s : State) (ts : List Token) : Prop where
  lexemes_eq : s.cursor.lexemes = lexemes
  position_pos : 0 < s.cursor.position
  position_le : s.cursor.position ≤ lexemes.length + 1
  tokens_eq : ts = (lexemes.drop (s.cursor.position - 1)).map .classify
  current_eq : s.current = ts.headD .finished
  putBackAt_le : ∀ p ∈ s.cursor.putBackAt, p ≤ s.cursor.position + slack

namespace Stands

variable {L : List String} {slack : Nat} {s s' : State} {t : Token} {ts : List Token}

/-- Where the cursor stands does not depend on what was written and counted. -/
lemma congr (h : Stands L slack s ts) (hcursor : s'.cursor = s.cursor)
    (hcurrent : s'.current = s.current) : Stands L slack s' ts where
  lexemes_eq := hcursor ▸ h.lexemes_eq
  position_pos := hcursor ▸ h.position_pos
  position_le := hcursor ▸ h.position_le
  tokens_eq := hcursor ▸ h.tokens_eq
  current_eq := hcurrent ▸ h.current_eq
  putBackAt_le := hcursor ▸ h.putBackAt_le

/-- Writing steps does not move the cursor. -/
lemma write (h : Stands L slack s ts) (steps : List Step) : Stands L slack (s.write steps) ts :=
  h.congr rfl rfl

/-- More slack. -/
lemma weaken {slack' : Nat} (h : Stands L slack s ts) (hslack : slack ≤ slack') :
    Stands L slack' s ts where
  lexemes_eq := h.lexemes_eq
  position_pos := h.position_pos
  position_le := h.position_le
  tokens_eq := h.tokens_eq
  current_eq := h.current_eq
  putBackAt_le p hp := Nat.le_trans (h.putBackAt_le p hp) (Nat.add_le_add_left hslack _)

/-- The tokens from a place on are as many as the lexemes from there on. -/
lemma length_eq (h : Stands L slack s ts) : ts.length + s.cursor.position = L.length + 1 := by
  have hpos := h.position_pos
  have hle := h.position_le
  rw [h.tokens_eq, List.length_map, List.length_drop]
  omega

/-- Going on leaves the other tokens, and takes up the slack. -/
lemma next (h : Stands L slack s (t :: ts)) (hslack : slack ≤ 1) : Stands L 0 s.next ts := by
  have hpos := h.position_pos
  have hlength := h.length_eq
  rw [List.length_cons] at hlength
  have hposition : s.next.cursor.position = s.cursor.position + 1 := by
    simp only [State.next, Cursor.next, h.lexemes_eq]
    omega
  have htokens : ts = (L.drop s.cursor.position).map .classify := by
    have htail := congrArg List.tail h.tokens_eq
    rwa [← List.map_tail, List.tail_drop, Nat.sub_add_cancel hpos] at htail
  refine ⟨h.lexemes_eq, by omega, by omega, ?_, ?_, ?_⟩
  · rw [hposition, Nat.add_sub_cancel]
    exact htokens
  · rw [htokens, List.headD_eq_head?_getD, List.head?_map, List.head?_drop, ← h.lexemes_eq]
    rfl
  · intro p hp
    have := h.putBackAt_le p hp
    omega

/-- No lexeme is the token past the last one. -/
lemma kind_ne (h : Stands L slack s ts) (ht : t ∈ ts) : t.kind ≠ .finished := by
  rw [h.tokens_eq] at ht
  obtain ⟨l, -, rfl⟩ := List.mem_map.1 ht
  exact Token.kind_classify_ne l

/-- The current token is the first one. -/
lemma isDelimiter_eq (h : Stands L slack s ts) (text : String) :
    (ts.headD .finished).isDelimiter text = s.isAt text := by
  rw [State.isAt, h.current_eq]

/-- The current token is a given operator or punctuation if the tokens start with it. -/
lemma isAt_iff (h : Stands L slack s ts) {text : String} :
    s.isAt text = true ↔ ∃ rest, ts = .sign text :: rest := by
  rw [← h.isDelimiter_eq]
  exact Token.isDelimiter_headD_iff

end Stands

/-- A state in which steps were written after another one, with as many parentheses and conditions
open as there. -/
structure Wrote (s : State) (steps : List Step) (s' : State) : Prop where
  steps_eq : s'.steps = s.steps ++ steps
  openParens_eq : s'.openParens = s.openParens
  openConditions_eq : s'.openConditions = s.openConditions

/-- The labels that are taken after more steps. -/
lemma State.labels_write (s : State) (steps : List Step) :
    (s.write steps).labels = s.labels + steps.count .label := by
  rw [State.labels, State.write, List.count_append, State.labels]

/-- The scope that the counts of a state stand for. -/
def State.scope (allowed : Bool) (ps : Parameters) (s : State) : Scope :=
  ⟨ps, decide (0 < s.openParens), decide (0 < s.openConditions) && !allowed⟩

/-- The scope inside a parenthesis. -/
lemma State.scope_openParen (allowed : Bool) (ps : Parameters) (s : State) :
    s.openParen.scope allowed ps = (s.scope allowed ps).parens := by
  have hparens : decide (0 < s.openParens + 1) = true := decide_eq_true (Nat.succ_pos _)
  rw [State.scope, State.openParen, hparens]
  rfl

/-- The scope of a condition. -/
lemma State.scope_openCondition (allowed : Bool) (ps : Parameters) (s : State) :
    s.openParen.openCondition.scope allowed ps = (s.scope allowed ps).condition allowed := by
  have hparens : decide (0 < s.openParens + 1) = true := decide_eq_true (Nat.succ_pos _)
  have hconditions : decide (0 < s.openConditions + 1) = true := decide_eq_true (Nat.succ_pos _)
  rw [State.scope, State.openParen, State.openCondition, hparens, hconditions, Scope.condition,
    State.scope]
  cases allowed with
  | false => simp [Scope.parens]
  | true => simp [Scope.parens]

namespace Wrote

variable {s s' s'' : State} {steps steps' : List Step}

/-- No steps. -/
lemma refl (s : State) : Wrote s [] s :=
  ⟨(List.append_nil _).symm, rfl, rfl⟩

/-- Steps after steps. -/
lemma trans (h : Wrote s steps s') (h' : Wrote s' steps' s'') : Wrote s (steps ++ steps') s'' where
  steps_eq := by rw [h'.steps_eq, h.steps_eq, List.append_assoc]
  openParens_eq := h'.openParens_eq.trans h.openParens_eq
  openConditions_eq := h'.openConditions_eq.trans h.openConditions_eq

/-- More steps after the last ones. -/
lemma write (h : Wrote s steps s') (steps' : List Step) :
    Wrote s (steps ++ steps') (s'.write steps') :=
  h.trans ⟨rfl, rfl, rfl⟩

/-- Going on to the next token writes nothing. -/
lemma next (h : Wrote s steps s') : Wrote s steps s'.next :=
  ⟨h.steps_eq, h.openParens_eq, h.openConditions_eq⟩

/-- What is written from the next token on is written from here on. -/
lemma of_next (h : Wrote s.next steps s') : Wrote s steps s' :=
  ⟨h.steps_eq, h.openParens_eq, h.openConditions_eq⟩

/-- A parenthesis that opens before the steps and closes after them. -/
lemma closeParen (h : Wrote s.openParen steps s') : Wrote s steps s'.closeParen :=
  ⟨h.steps_eq, congrArg (· - 1) h.openParens_eq, h.openConditions_eq⟩

/-- A condition that starts before the steps and ends after them. -/
lemma closeCondition (h : Wrote s.openCondition steps s') : Wrote s steps s'.closeCondition :=
  ⟨h.steps_eq, h.openParens_eq, congrArg (· - 1) h.openConditions_eq⟩

/-- The labels that the steps take. -/
lemma labels_eq (h : Wrote s steps s') : s'.labels = s.labels + steps.count .label := by
  rw [State.labels, h.steps_eq, List.count_append]
  rfl

/-- The scope stays. -/
lemma scope_eq (h : Wrote s steps s') (allowed : Bool) (ps : Parameters) :
    s'.scope allowed ps = s.scope allowed ps := by
  rw [State.scope, State.scope, h.openParens_eq, h.openConditions_eq]

end Wrote

/-- A token that is put back was read just before, so it is not refused. -/
lemma Stands.run_followedBy {L : List String} {s : State} {t : Token} {ts : List Token}
    (h : Stands L 0 s (t :: ts)) {text : String} (htext : ∀ us, ts ≠ .sign text :: us) :
    ∃ s', (Action.followedBy text).run s = .ok (false, s') ∧ Stands L 1 s' (t :: ts) ∧
      Wrote s [] s' := by
  have hpos := h.position_pos
  have hlength := h.length_eq
  rw [List.length_cons] at hlength
  have hposition : s.next.cursor.position = s.cursor.position + 1 := by
    simp only [State.next, Cursor.next, h.lexemes_eq]
    omega
  have hat : ¬s.next.isAt text = true := by
    intro hat
    obtain ⟨us, hus⟩ := (h.next (Nat.zero_le _)).isAt_iff.1 hat
    exact htext us hus
  have hfresh : s.next.cursor.putBackAt ≠ some s.next.cursor.position := by
    intro heq
    have := h.putBackAt_le _ heq
    omega
  have hwrote (cursor : Cursor) : Wrote s [] { s with cursor := cursor } :=
    ⟨(List.append_nil _).symm, rfl, rfl⟩
  refine ⟨{ s with cursor := s.next.cursor.putBack.2 }, ?_, ?_, hwrote _⟩
  · simp only [Action.followedBy, if_neg hat, Cursor.putBack_of_ne hfresh]
  · rw [Cursor.putBack_of_ne hfresh, hposition]
    refine ⟨h.lexemes_eq, hpos, h.position_le, h.tokens_eq, h.current_eq, ?_⟩
    intro p hp
    cases hp
    exact Nat.le_refl _

/-- A run of a parser and a run of an action: both have a result, or both fail with the same kind at
the same token. -/
inductive Agrees {α : Type} (lexemes : List String) (R : α → List Token → State → Prop) :
    Except Failure (α × List Token) → Except Stop (Unit × State) → Prop where
  | ok {a rest s} :
    R a rest s →
    Agrees lexemes R (.ok (a, rest)) (.ok ((), s))
  | error {kind rest s} :
    Stands lexemes 1 s rest →
    Agrees lexemes R (.error ⟨kind, rest⟩) (.error ⟨kind, s⟩)

/-- An expression was read and its steps were written. -/
structure Written (lexemes : List String) (s : State) (e : Expr) (rest : List Token) (s' : State) :
    Prop where
  stands : Stands lexemes 0 s' rest
  wrote : Wrote s (e.steps s.labels).1 s'

/-- The labels that are taken after an expression. -/
lemma Written.labels_eq {L : List String} {s s' : State} {e : Expr} {rest : List Token}
    (h : Written L s e rest s') : s'.labels = (e.steps s.labels).2 :=
  h.wrote.labels_eq.trans (e.steps_snd _).symm

/-- An expression was read up to a closing parenthesis, at which the action still stands. -/
structure Closes (lexemes : List String) (s : State) (e : Expr) (rest : List Token) (s' : State) :
    Prop where
  stands : Stands lexemes 0 s' (.sign ")" :: rest)
  wrote : Wrote s (e.steps s.labels).1 s'

/-- An action writes the steps of what a parser reads, and it stops where the parser fails. -/
def Follows (allowed : Bool) (ps : Parameters) (slack : Nat) (p : Scope → Parser Expr)
    (x : Action Unit) : Prop :=
  ∀ {L s ts}, Stands L slack s ts →
    Agrees L (Written L s) ((p (s.scope allowed ps)).run ts) (x.run s)

section
variable {α β : Type} {L : List String} {R : α → List Token → State → Prop}
  {R' : β → List Token → State → Prop} {slack : Nat} {s s' : State} {ts : List Token}

/-- Runs that go on where other runs agree. -/
lemma Agrees.bind {y : Except Failure (α × List Token)} {z : Except Stop (Unit × State)}
    {f : α × List Token → Except Failure (β × List Token)}
    {g : Unit × State → Except Stop (Unit × State)} (h : Agrees L R y z)
    (hf : ∀ a rest s', y = .ok (a, rest) → R a rest s' → Agrees L R' (f (a, rest)) (g ((), s'))) :
    Agrees L R' (y >>= f) (z >>= g) := by
  cases h with
  | ok h => exact hf _ _ _ rfl h
  | error h => exact .error h

/-- A parser and an action that go on where others agree. -/
lemma Agrees.run_bind {p : Parser α} {f : α → Parser β} {x : Action Unit} {g : Unit → Action Unit}
    (h : Agrees L R (p.run ts) (x.run s))
    (hf : ∀ a rest s', R a rest s' → Agrees L R' ((f a).run rest) ((g ()).run s')) :
    Agrees L R' ((p >>= f).run ts) ((x >>= g).run s) := by
  rw [Parser.run_bind]
  exact h.bind fun a rest s' _ => hf a rest s'

/-- A parser whose value is changed, with another relation of the results. -/
lemma Agrees.map {p : Parser α} {z : Except Stop (Unit × State)} (h : Agrees L R (p.run ts) z)
    (f : α → β) (hR : ∀ a rest s', R a rest s' → R' (f a) rest s') :
    Agrees L R' ((do return f (← p)).run ts) z := by
  rw [Parser.run_bind]
  generalize p.run ts = y at h
  cases h with
  | ok h => exact .ok (hR _ _ _ h)
  | error h => exact .error h

/-- An action that goes on with the state where others agree. -/
lemma Agrees.andThen {y : Except Failure (α × List Token)} {z : Except Stop (Unit × State)}
    {R' : α → List Token → State → Prop} (h : Agrees L R y z) (g : State → State)
    (hR : ∀ a rest s', R a rest s' → R' a rest (g s')) :
    Agrees L R' y (z >>= fun r => .ok ((), g r.2)) := by
  cases h with
  | ok h => exact .ok (hR _ _ _ h)
  | error h => exact .error h

/-- Runs that agree in one way agree in another one. -/
lemma Agrees.imp {y : Except Failure (α × List Token)} {z : Except Stop (Unit × State)}
    {R' : α → List Token → State → Prop} (h : Agrees L R y z)
    (hR : ∀ a rest s', R a rest s' → R' a rest s') : Agrees L R' y z := by
  cases h with
  | ok h => exact .ok (hR _ _ _ h)
  | error h => exact .error h

/-- Punctuation is required of both. The parser goes past it. -/
lemma Stands.require (h : Stands L slack s ts) (hslack : slack ≤ 1) (text : String)
    (kind : ErrorKind) :
    Agrees L (fun _ rest s' => ts = .sign text :: rest ∧ s = s') ((Parser.expect text kind).run ts)
      ((Action.require text kind).run s) := by
  rw [Parser.expect, run_current_bind, h.isDelimiter_eq, Parser.run_ite, Action.run_require]
  split
  · next hat =>
    obtain ⟨rest, rfl⟩ := h.isAt_iff.1 hat
    exact .ok (a := ()) ⟨rfl, rfl⟩
  · exact .error (h.weaken hslack)

/-- The comma between two parts of a conditional. The parser goes past it. -/
lemma Stands.conditionalComma (h : Stands L slack s ts) (hslack : slack ≤ 1) :
    Agrees L (fun _ rest s' => ts = .sign "," :: rest ∧ s = s') (Parser.conditionalComma.run ts)
      (OnePass.conditionalComma.run s) := by
  rw [Parser.conditionalComma, run_current_bind, OnePass.conditionalComma, Action.run_state_bind,
    h.isDelimiter_eq, h.isDelimiter_eq]
  simp only [Parser.run_ite, Action.run_ite]
  split
  · next hat =>
    obtain ⟨rest, rfl⟩ := h.isAt_iff.1 hat
    exact .ok (a := ()) ⟨rfl, rfl⟩
  · split
    · exact .error (h.weaken hslack)
    · exact .error (h.weaken hslack)

/-- Both refuse some punctuation at the current token, and go on otherwise. -/
lemma Stands.refuse {p : Parser α} {x : Action Unit} (h : Stands L slack s ts) (hslack : slack ≤ 1)
    {text : String} {kind : ErrorKind} (hpx : Agrees L R (p.run ts) (x.run s)) :
    Agrees L R
      ((do if (← current).isDelimiter text then Parser.fail kind
           p : Parser α).run ts)
      ((do if (← Action.state).isAt text then Action.fail kind
           x : Action Unit).run s) := by
  rw [run_current_bind, Action.run_state_bind, h.isDelimiter_eq]
  split
  · exact .error (h.weaken hslack)
  · exact hpx

end

end OnePass

end Formula
