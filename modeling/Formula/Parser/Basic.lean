import Formula.Diagnostic
import Formula.Expr.Basic
import Formula.Token

/-!
# Parsers

A parser reads an initial segment of a list of tokens. The tokens that it leaves, and those that are
left where it fails, are a final segment of the list; that is part of the type, so loops end because
the rest gets shorter, and a failure always has a place in the list.
-/

namespace Formula

/-- A failure to parse: its kind and the tokens from the current one on. -/
structure Failure where
  kind : ErrorKind
  rest : List Token
  deriving DecidableEq, Repr

/-- Parsers for values of a type. -/
structure Parser (α : Type) where
  run : List Token → Except Failure (α × List Token)
  suffix_of_ok : ∀ {ts a rest}, run ts = .ok (a, rest) → rest <:+ ts
  suffix_of_error : ∀ {ts f}, run ts = .error f → f.rest <:+ ts

namespace Parser

variable {α β : Type}

/-- The parser that reads nothing and has a given value. -/
def pure (a : α) : Parser α where
  run ts := .ok (a, ts)
  suffix_of_ok h := by cases h; exact List.suffix_refl _
  suffix_of_error h := by cases h

/-- One parser after another; the value of the first chooses the second. -/
def bind (p : Parser α) (f : α → Parser β) : Parser β where
  run ts :=
    match p.run ts with
    | .ok (a, rest) => (f a).run rest
    | .error e => .error e
  suffix_of_ok {ts b rest} h := by
    split at h
    · next a rest' hp => exact ((f a).suffix_of_ok h).trans (p.suffix_of_ok hp)
    · cases h
  suffix_of_error {ts e} h := by
    split at h
    · next a rest' hp => exact ((f a).suffix_of_error h).trans (p.suffix_of_ok hp)
    · next hp => cases h; exact p.suffix_of_error hp

/-- Parsers one after another. -/
instance : Monad Parser where
  pure := Parser.pure
  bind := Parser.bind

/-- The tokens that are still to be read. -/
def remaining : Parser (List Token) where
  run ts := .ok (ts, ts)
  suffix_of_ok h := by cases h; exact List.suffix_refl _
  suffix_of_error h := by cases h

/-- Go past the current token, if there is one. -/
def advance : Parser Unit where
  run ts := .ok ((), ts.tail)
  suffix_of_ok h := by cases h; exact List.tail_suffix _
  suffix_of_error h := by cases h

/-- Fail at the current token. -/
def fail (kind : ErrorKind) : Parser α where
  run ts := .error ⟨kind, ts⟩
  suffix_of_ok h := by cases h
  suffix_of_error h := by cases h; exact List.suffix_refl _

/-- The current token, which is `Token.finished` past the last one. -/
def current : Parser Token := do
  return (← remaining).headD .finished

/-- Go past the given punctuation, or fail. -/
def expect (text : String) (kind : ErrorKind) : Parser Unit := do
  if (← current).isDelimiter text then advance else fail kind

/-- The operator of a level that a token is. -/
def operator? (level : Level) (t : Token) : Option Infix :=
  if t.kind = .delimiter then level.lookup t.text else none

/-- Operands separated by the operators of a level, after a first operand. -/
def runChain (level : Level) (operand : Parser Expr) (left : Expr) (ts : List Token) :
    Except Failure (Expr × List Token) :=
  match ts with
  | [] => .ok (left, [])
  | t :: rest =>
    match operator? level t with
    | none => .ok (left, t :: rest)
    | some op =>
      match _h : operand.run rest with
      | .error f => .error f
      | .ok (right, rest') => runChain level operand (op.join left right) rest'
termination_by ts.length
decreasing_by
  have := (operand.suffix_of_ok _h).length_le
  simp only [List.length_cons]
  omega

/-- What a chain leaves is a final segment of what it was given. -/
theorem suffix_of_runChain_ok {level : Level} {operand : Parser Expr} {left : Expr}
    {ts : List Token} {e : Expr} {rest : List Token}
    (h : runChain level operand left ts = .ok (e, rest)) : rest <:+ ts := by
  fun_induction runChain level operand left ts with
  | case1 => cases h; exact List.suffix_refl _
  | case2 => cases h; exact List.suffix_refl _
  | case3 => cases h
  | case4 left t ts op _ right rest' hr ih =>
    exact (ih h).trans ((operand.suffix_of_ok hr).trans (List.suffix_cons _ _))

/-- Where a chain fails, a final segment of what it was given is left. -/
theorem suffix_of_runChain_error {level : Level} {operand : Parser Expr} {left : Expr}
    {ts : List Token} {f : Failure} (h : runChain level operand left ts = .error f) :
    f.rest <:+ ts := by
  fun_induction runChain level operand left ts with
  | case1 => cases h
  | case2 => cases h
  | case3 left t ts op _ f' hf =>
    cases h
    exact (operand.suffix_of_error hf).trans (List.suffix_cons _ _)
  | case4 left t ts op _ right rest' hr ih =>
    exact (ih h).trans ((operand.suffix_of_ok hr).trans (List.suffix_cons _ _))

/-- Further operands of a level after a first one, grouped from the left. -/
def chainFrom (level : Level) (operand : Parser Expr) (left : Expr) : Parser Expr where
  run := runChain level operand left
  suffix_of_ok := suffix_of_runChain_ok
  suffix_of_error := suffix_of_runChain_error

/-- Operands separated by the operators of a level, grouped from the left. -/
def chain (level : Level) (operand : Parser Expr) : Parser Expr := do
  chainFrom level operand (← operand)

end Parser

end Formula
