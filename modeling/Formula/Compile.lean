import Formula.Clauses
import Formula.Expr.Code
import Formula.Parser.Expression

/-!
# Compiling formulas

A formula is compiled in four stages: its clauses, its parameters, the expression of its body, and
the program. The first stage that fails decides the diagnostic.
-/

namespace Formula

/-- Choices for a compilation: whether loads and pushes are fused, and whether the condition of a
conditional may assign. -/
structure CompileOptions where
  optimize : Bool := true
  allowConditionalAssignment : Bool := false
  deriving DecidableEq, Repr

/-- The program of a formula. -/
def compile (text : String) (options : CompileOptions) : Except Diagnostic Program := do
  let clauses ← Clauses.ofText text
  let parameters ← Parameters.ofClause clauses.parameters
  let e ← parseBody options.allowConditionalAssignment parameters clauses.body
  e.compile options.optimize parameters.size

end Formula
