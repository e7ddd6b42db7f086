import Formula.Diagnostic
import Formula.Unicode.Case
import Formula.Unicode.Space

/-!
# The clauses of a formula

A formula is written between braces: its parameters between two pipes, and its body after them. The
text is trimmed and put into lower case first. The parts are looked for from left to right, and the
first one that is missing decides the failure; what follows the closing brace is ignored. The body
may contain pipes.
-/

namespace Formula

/-- The parameter clause and the body of a formula, in lower case. -/
structure Clauses where
  parameters : String
  body : String
  deriving DecidableEq, Repr

namespace Clauses

/-- The opening brace of a formula. -/
def opening : Char := '\x7b'

/-- The closing brace of a formula. -/
def closing : Char := '\x7d'

/-- The mark on both sides of the parameters. -/
def pipe : Char := '|'

/-- A text without the given first character; `seen` is what was read before, for the failure. -/
def expect (c : Char) (kind : ErrorKind) (seen : List Char) : List Char → Except Diagnostic (List Char)
  | d :: rest => if d = c then .ok rest else .error (.after kind (String.ofList seen))
  | [] => .error (.after kind (String.ofList seen))

/-- The clauses of a text that is trimmed and in lower case. -/
def split (text : List Char) : Except Diagnostic Clauses := do
  let rest ← expect opening .missingBracket [] text
  let rest ← expect pipe .missingPipe [opening] rest
  let parameters := rest.takeWhile fun c => c != pipe && c != closing
  let seen := opening :: pipe :: parameters
  let rest ← expect pipe .missingPipe seen (rest.drop parameters.length)
  let body := rest.takeWhile (· != closing)
  if body.all Unicode.isWhiteSpace then
    throw (.after .missingExpr (String.ofList (seen ++ [pipe])))
  let _ ← expect closing .missingExpr (seen ++ pipe :: body) (rest.drop body.length)
  return ⟨String.ofList parameters, String.ofList body⟩

/-- The clauses of a formula. -/
def ofText (text : String) : Except Diagnostic Clauses :=
  split (Unicode.lowerCase (Unicode.trim text.toList))

end Clauses

end Formula
