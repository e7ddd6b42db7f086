import Formula.Compile
import Formula.Cursor
import Mathlib.Tactic.Common

/-!
# Compiling in one pass

A compiler that needs no tree: it reads the tokens of a body through a cursor and writes steps as it
goes. It knows the current token only. Whether a parameter is assigned to shows in the token after
it, and if that is no equals sign the cursor goes one token back. Parentheses and conditions are
counted where they open and close. It comes to the same programs and failures as the compiler by
trees, as is shown elsewhere (`OnePass.compile_eq`).
-/

namespace Formula

/-- Putting back goes one token back and changes no lexemes. -/
lemma Cursor.putBack_of_ok {c c' : Cursor} (h : c.putBack = (.ok (), c')) :
    c'.lexemes = c.lexemes ∧ c'.position = c.position - 1 := by
  cases hrepeated : c.putBackAt == some c.position with
  | false =>
    simp only [putBack, hrepeated, Bool.false_and, Bool.false_eq_true, if_false] at h
    cases h
    exact ⟨rfl, rfl⟩
  | true =>
    simp only [putBack, hrepeated, Bool.true_and, if_true] at h
    split at h
    · cases h
    · cases h
      exact ⟨rfl, rfl⟩

/-- A token that was not just put back is put back. -/
lemma Cursor.putBack_of_ne {c : Cursor} (h : c.putBackAt ≠ some c.position) :
    c.putBack =
      (.ok (), { c with
        position := c.position - 1
        putBackAt := some c.position
        putBackCount := 1 }) := by
  have hrepeated : (c.putBackAt == some c.position) = false := beq_eq_false_iff_ne.2 h
  simp only [putBack, hrepeated, Bool.false_and, Bool.false_eq_true, if_false]

/-- The steps that an operator writes before its right operand. A logical operator takes a label. -/
def Infix.stepsBefore (label : Nat) : Infix → List Step
  | .logical op => [.push, .label, .branch op.skip label]
  | .binary _ => [.push]
  | .sequence => []

/-- The steps that an operator writes after its right operand. -/
def Infix.stepsAfter (label : Nat) : Infix → List Step
  | .logical op => [.post label, .short (.logical op)]
  | .binary op => [.short (.binary op)]
  | .sequence => []

namespace OnePass

/-- What the compiler keeps: the cursor and the token it stands at, how many parentheses and
conditions are open, and the steps written so far. -/
structure State where
  cursor : Cursor
  current : Token
  openParens : Nat := 0
  openConditions : Nat := 0
  steps : List Step
  deriving DecidableEq, Repr

/-- A failure: its kind and the state in which the compiler stops. -/
structure Stop where
  kind : ErrorKind
  state : State
  deriving DecidableEq, Repr

/-- A stop as it is reported. The cursor tells what was read. -/
def Stop.diagnostic (stop : Stop) : Diagnostic :=
  ⟨stop.kind, stop.state.cursor.detail stop.kind⟩

namespace State

/-- The number of labels that were taken. The next label has this number. -/
def labels (s : State) : Nat :=
  s.steps.count .label

/-- The state with more steps. -/
def write (s : State) (steps : List Step) : State :=
  { s with steps := s.steps ++ steps }

/-- The state at the next token. -/
def next (s : State) : State :=
  { s with current := s.cursor.next.1, cursor := s.cursor.next.2 }

/-- The state with one more open parenthesis. -/
def openParen (s : State) : State :=
  { s with openParens := s.openParens + 1 }

/-- The state with one open parenthesis less. -/
def closeParen (s : State) : State :=
  { s with openParens := s.openParens - 1 }

/-- The state with one more open condition. -/
def openCondition (s : State) : State :=
  { s with openConditions := s.openConditions + 1 }

/-- The state with one open condition less. -/
def closeCondition (s : State) : State :=
  { s with openConditions := s.openConditions - 1 }

/-- Whether the current token is the given operator or punctuation. -/
def isAt (s : State) (text : String) : Bool :=
  s.current.isDelimiter text

/-- What is left to read, the current token included. -/
def unread (s : State) : Nat :=
  s.cursor.lexemes.length - s.cursor.position + if s.current.kind = .finished then 0 else 1

/-- Going on leaves less to read, unless the end is reached. -/
lemma unread_next (s : State) :
    s.next.unread ≤ s.unread ∧ (s.current.kind ≠ .finished → s.next.unread < s.unread) := by
  have hend : s.cursor.lexemes.length ≤ s.cursor.position → s.next.current.kind = .finished := by
    intro h
    simp [next, Cursor.next, List.getElem?_eq_none h, Token.finished]
  have hposition :
    s.next.cursor.position = min (s.cursor.position + 1) (s.cursor.lexemes.length + 1) := rfl
  have hlexemes : s.next.cursor.lexemes = s.cursor.lexemes := rfl
  unfold unread
  rw [hposition, hlexemes]
  by_cases h : s.cursor.lexemes.length ≤ s.cursor.position
  · rw [if_pos (hend h)]
    refine ⟨by omega, fun hcurrent => ?_⟩
    rw [if_neg hcurrent]
    omega
  · refine ⟨by split <;> split <;> omega, fun hcurrent => ?_⟩
    rw [if_neg hcurrent]
    split <;> omega

end State

/-- Parts of the compiler. They never go back behind the token at which they start, so loops end. -/
structure Action (α : Type) where
  run : State → Except Stop (α × State)
  unread_le : ∀ {s a s'}, run s = .ok (a, s') → s'.unread ≤ s.unread

namespace Action

variable {α β : Type}

/-- The action that does nothing and has a given value. -/
def pure (a : α) : Action α where
  run s := .ok (a, s)
  unread_le h := by cases h; exact Nat.le_refl _

/-- One action after another; the value of the first chooses the second. -/
def bind (x : Action α) (f : α → Action β) : Action β where
  run s := x.run s >>= fun r => (f r.1).run r.2
  unread_le {s b s'} h := by
    cases hx : x.run s with
    | error stop =>
      rw [hx] at h
      cases h
    | ok r =>
      rw [hx] at h
      exact Nat.le_trans ((f r.1).unread_le h) (x.unread_le hx)

/-- Actions one after another. -/
instance : Monad Action where
  pure := Action.pure
  bind := Action.bind

/-- The state as it is. -/
def state : Action State where
  run s := .ok (s, s)
  unread_le h := by cases h; exact Nat.le_refl _

/-- Fail in the state as it is. -/
def fail (kind : ErrorKind) : Action α where
  run s := .error ⟨kind, s⟩
  unread_le h := by cases h

/-- Go on to the next token. -/
def advance : Action Unit where
  run s := .ok ((), s.next)
  unread_le {s _ _} h := by cases h; exact s.unread_next.1

/-- Write steps. -/
def write (steps : List Step) : Action Unit where
  run s := .ok ((), s.write steps)
  unread_le h := by cases h; exact Nat.le_refl _

/-- Take a new label. -/
def newLabel : Action Nat where
  run s := .ok (s.labels, s.write [.label])
  unread_le h := by cases h; exact Nat.le_refl _

/-- Count a parenthesis that opens. -/
def openParen : Action Unit where
  run s := .ok ((), s.openParen)
  unread_le h := by cases h; exact Nat.le_refl _

/-- Count a parenthesis that closes. -/
def closeParen : Action Unit where
  run s := .ok ((), s.closeParen)
  unread_le h := by cases h; exact Nat.le_refl _

/-- Count a condition that starts. -/
def openCondition : Action Unit where
  run s := .ok ((), s.openCondition)
  unread_le h := by cases h; exact Nat.le_refl _

/-- Count a condition that ends. -/
def closeCondition : Action Unit where
  run s := .ok ((), s.closeCondition)
  unread_le h := by cases h; exact Nat.le_refl _

/-- Whether the token after the current one is the given operator. If so the compiler stands at it;
if not it is put back, which the cursor may refuse. -/
def followedBy (text : String) : Action Bool where
  run s :=
    if s.next.isAt text then .ok (true, s.next)
    else
      match s.next.cursor.putBack with
      | (.error d, cursor) => .error ⟨d.kind, { s.next with cursor := cursor }⟩
      | (.ok (), cursor) => .ok (false, { s with cursor := cursor })
  unread_le {s a s'} h := by
    split at h
    · cases h
      exact s.unread_next.1
    · split at h
      · cases h
      · next hback =>
        obtain ⟨hlexemes, hposition⟩ := Cursor.putBack_of_ok hback
        cases h
        simp only [State.unread, State.next, Cursor.next] at hlexemes hposition ⊢
        rw [hlexemes, hposition]
        omega

/-- Go past the given punctuation, or fail. -/
def require (text : String) (kind : ErrorKind) : Action Unit := do
  if !(← state).isAt text then fail kind

end Action

open Formula.OnePass.Action Formula.Parser

/-- An operator is not the end, so it is left behind by going on. -/
lemma unread_next_of_operator? {level : Level} {s : State} {op : Infix}
    (h : operator? level s.current = some op) (steps : List Step) :
    (s.write steps).next.unread < s.unread := by
  refine (s.write steps).unread_next.2 ?_
  intro hfinished
  have hkind : s.current.kind = .finished := hfinished
  simp [operator?, hkind] at h

/-- Operands separated by the operators of a level, after a first operand. -/
def runChain (level : Level) (operand : Action Unit) (s : State) : Except Stop (Unit × State) :=
  match _hop : operator? level s.current with
  | none => .ok ((), s)
  | some op =>
    match _h : operand.run (s.write (op.stepsBefore s.labels)).next with
    | .error stop => .error stop
    | .ok (_, s') => runChain level operand (s'.write (op.stepsAfter s.labels))
termination_by s.unread
decreasing_by
  change s'.unread < s.unread
  exact Nat.lt_of_le_of_lt (operand.unread_le _h) (unread_next_of_operator? _hop _)

/-- What a chain leaves is not more than what it was given. -/
lemma unread_le_of_runChain {level : Level} {operand : Action Unit} {s s' : State} {a : Unit}
    (h : runChain level operand s = .ok (a, s')) : s'.unread ≤ s.unread := by
  fun_induction runChain level operand s with
  | case1 =>
    cases h
    exact Nat.le_refl _
  | case2 => cases h
  | case3 s op hop u s'' hr ih =>
    have hlt := Nat.lt_of_le_of_lt (operand.unread_le hr) (unread_next_of_operator? hop _)
    exact Nat.le_trans (ih h) (Nat.le_of_lt hlt)

/-- Further operands of a level after a first one. -/
def chainFrom (level : Level) (operand : Action Unit) : Action Unit where
  run := runChain level operand
  unread_le := unread_le_of_runChain

/-- Operands separated by the operators of a level. -/
def chain (level : Level) (operand : Action Unit) : Action Unit := do
  operand
  chainFrom level operand

/-- Operands joined by the operators of all levels; an equals sign may not follow. -/
def operation (operand : Action Unit) : Action Unit := do
  Level.operators.foldr chain operand
  if (← state).isAt "=" then fail .illegalAssignment

/-- What follows an argument: further arguments after a comma, or the closing parenthesis if no more
arguments are asked for. -/
def moreArguments (further : Action Unit) (asked : Nat) : Action Unit := do
  if (← state).isAt "," then
    advance
    further
  else if 0 < asked then fail .insufficientArgs
  else require ")" .missingParen

/-- The arguments of a function, of which some are still asked for, up to the closing parenthesis.
If there is one more argument, it is read before it is refused. -/
def arguments (argument : Action Unit) : (asked : Nat) → Action Unit
  | 0 => do
    argument
    fail .tooManyArgs
  | asked + 1 => do
    argument
    write [.push]
    moreArguments (arguments argument asked) asked

/-- A call from its name up to the closing parenthesis, at which the compiler stands then. -/
def call (argument : Action Unit) (f : Function) : Action Unit := do
  advance
  require "(" .missingParen
  openParen
  advance
  if (← state).isAt ")" then
    if 0 < f.arity then fail .insufficientArgs
  else arguments argument f.arity
  closeParen
  write [.short (.call f)]

/-- The comma between two parts of a conditional, at which the compiler stays. -/
def conditionalComma : Action Unit := do
  let s ← state
  if s.isAt "," then return
  else if s.isAt ")" then fail .insufficientArgs
  else fail .missingComma

/-- A conditional from its name up to the closing parenthesis, at which the compiler stands then. -/
def conditional (part : Action Unit) : Action Unit := do
  advance
  require "(" .missingParen
  openParen
  advance
  openCondition
  part
  closeCondition
  conditionalComma
  let onFalse ← newLabel
  write [.branch .ifFalse onFalse]
  advance
  part
  conditionalComma
  let done ← newLabel
  write [.branch .always done, .post onFalse]
  advance
  part
  if (← state).isAt "," then fail .tooManyArgs
  require ")" .missingParen
  write [.post done]
  closeParen

/-- An identifier: the catalogue is asked first, then the constants, then the parameters. -/
def identifier (ps : Parameters) (inner : Action Unit) (name : String) : Action Unit := do
  match Catalogue.callee? name with
  | some (.function f) => call inner f
  | some .conditional => conditional inner
  | none =>
    match Catalogue.constant? name with
    | some value => write [.loadConst value.toBits]
    | none =>
      match ps.slot? name with
      | some slot => write [.loadVar slot]
      | none => fail .unknownName
  advance

/-- Expressions between parentheses; the value is that of the last one. -/
def parenthesis (inner : Action Unit) : Action Unit := do
  openParen
  advance
  chain Level.comma inner
  require ")" .missingParen
  closeParen
  advance

/-- An operand without a prefix operator. -/
def atom (ps : Parameters) (inner : Action Unit) : Action Unit := do
  let s ← state
  match s.current.kind with
  | .delimiter =>
    if s.isAt "(" then parenthesis inner
    else if s.isAt ")" && s.openParens == 0 then fail .unbalancedParens
    else fail .missingArg
  | .finished => fail .missingArg
  | .unknown => fail .other
  | .identifier => identifier ps inner s.current.text
  | .number => do
    write [.loadConst (numberValue s.current.text.toList).toBits]
    advance
  | .hexNumber => do
    write [.loadConst (hexValue s.current.text.toList).toBits]
    advance

/-- The slot of the parameter that a token names. -/
def slot? (ps : Parameters) (t : Token) : Option Nat :=
  if t.kind = .identifier then ps.slot? t.text else none

/-- An assignment from its equals sign on. -/
def assignment (allowed : Bool) (slot : Nat) (value : Action Unit) : Action Unit := do
  if 0 < (← state).openConditions && !allowed then fail .conditionalAssignment
  advance
  value
  write [.storeVar slot]

mutual

/-- An expression with a given number of levels of nesting left. -/
def expression (allowed : Bool) (ps : Parameters) : (room : Nat) → Action Unit
  | 0 => fail .malformed
  | room + 1 => do
    match slot? ps (← state).current with
    | some slot =>
      if ← followedBy "=" then assignment allowed slot (expression allowed ps room)
      else operation (operand allowed ps room)
    | none => operation (operand allowed ps room)

/-- An operand with its prefix operators, with a given number of levels of nesting left. -/
def operand (allowed : Bool) (ps : Parameters) : (room : Nat) → Action Unit
  | 0 => fail .malformed
  | room + 1 => do
    let s ← state
    if s.isAt "+" then
      advance
      operand allowed ps room
    else
      match unaryOperator? s.current with
      | some op =>
        advance
        operand allowed ps room
        write [.short (.unary op)]
      | none => atom ps (expression allowed ps room)

end

/-- A whole body. -/
def body (allowed : Bool) (ps : Parameters) : Action Unit := do
  expression allowed ps maxNesting
  let t := (← state).current
  if t.kind ≠ .finished then fail (leftover t)

/-- The state at the first token of a body. -/
def start (ps : Parameters) (text : String) : State :=
  State.next
    { cursor := .ofText text
      current := .finished
      steps := [.header ps.size] }

/-- The state after a body. -/
def read (allowed : Bool) (ps : Parameters) (text : String) : Except Stop State :=
  (body allowed ps).run (start ps text) >>= fun r => .ok r.2

/-- The program of a formula. -/
def compile (text : String) (options : CompileOptions) : Except Diagnostic Program := do
  let clauses ← Clauses.ofText text
  let parameters ← Parameters.ofClause clauses.parameters
  let s ← (read options.allowConditionalAssignment parameters clauses.body).mapError Stop.diagnostic
  assemble options.optimize s.steps

end OnePass

end Formula
