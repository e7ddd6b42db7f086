/-!
# Diagnostics

Everything that can go wrong while a formula is compiled or run. Each kind has a number and a fixed
description; a diagnostic adds a detail, which for most failures of the compiler is the source read
so far followed by the tag of the kind.
-/

namespace Formula

/-- The kinds of failure; `none` stands for success. -/
inductive ErrorKind where
  | none
  | malformed
  | missingBracket
  | missingPipe
  | missingParen
  | missingComma
  | missingArg
  | unknownName
  | missingParam
  | missingExpr
  | reservedWord
  | tooManyArgs
  | unbalancedParens
  | putBack
  | unsupportedOperator
  | noCode
  | illegalCode
  | insufficientArgs
  | stackOverflow
  | divideByZero
  | argNotNumber
  | illegalAssignment
  | conditionalAssignment
  | stackMemoryLeak
  | other
  deriving DecidableEq, Repr, Inhabited

namespace ErrorKind

/-- Every kind, in the order of the numbers. -/
def all : List ErrorKind :=
  [.none, .malformed, .missingBracket, .missingPipe, .missingParen, .missingComma, .missingArg,
   .unknownName, .missingParam, .missingExpr, .reservedWord, .tooManyArgs, .unbalancedParens,
   .putBack, .unsupportedOperator, .noCode, .illegalCode, .insufficientArgs, .stackOverflow,
   .divideByZero, .argNotNumber, .illegalAssignment, .conditionalAssignment, .stackMemoryLeak,
   .other]

/-- The number of a kind; numbers that no kind has are held in reserve. -/
def code : ErrorKind → Int
  | .none => 0
  | .malformed => 1
  | .missingBracket => 2
  | .missingPipe => 3
  | .missingParen => 4
  | .missingComma => 5
  | .missingArg => 6
  | .unknownName => 7
  | .missingParam => 8
  | .missingExpr => 9
  | .reservedWord => 10
  | .tooManyArgs => 11
  | .unbalancedParens => 12
  | .putBack => 13
  | .unsupportedOperator => 14
  | .noCode => 20
  | .illegalCode => 21
  | .insufficientArgs => 22
  | .stackOverflow => 23
  | .divideByZero => 24
  | .argNotNumber => 25
  | .illegalAssignment => 26
  | .conditionalAssignment => 27
  | .stackMemoryLeak => 28
  | .other => 33

/-- The sentence that names a kind to a reader. -/
def description : ErrorKind → String
  | .none => "None"
  | .malformed => "Syntax Error"
  | .missingBracket => "\x7b\x7d bracket not found"
  | .missingPipe => "|| pipe not found"
  | .missingParen => "Missing parenthesis"
  | .missingComma => "Missing comma"
  | .missingArg => "Missing argument"
  | .unknownName => "Unknown parameter"
  | .missingParam => "Missing parameter"
  | .missingExpr => "Missing expression"
  | .reservedWord => "Reserved word"
  | .tooManyArgs => "Too many arguments"
  | .unbalancedParens => "Unbalanced parens"
  | .putBack => "Internal parser error"
  | .unsupportedOperator => "Unsupported operator"
  | .noCode => "No code to execute"
  | .illegalCode => "Illegal instruction"
  | .insufficientArgs => "Insufficient arguments"
  | .stackOverflow => "Stack overflow"
  | .divideByZero => "Divide by zero"
  | .argNotNumber => "Not a number"
  | .illegalAssignment => "Illegal Assignment"
  | .conditionalAssignment => "Assignment in conditional not permitted"
  | .stackMemoryLeak => "Stack Memory Leak"
  | .other => "Other error"

/-- The kind with a given number. -/
def ofCode? (code : Int) : Option ErrorKind :=
  all.find? fun kind => kind.code == code

/-- The mark `<e12>` that closes the detail of a failure of kind 12. -/
def tag (kind : ErrorKind) : String :=
  s!"<e{kind.code}>"

end ErrorKind

/-- A failure as it is reported: its kind and the detail that locates it. -/
structure Diagnostic where
  kind : ErrorKind
  detail : String
  deriving DecidableEq, Repr

namespace Diagnostic

/-- A failure whose detail is the text seen so far, closed by the tag of the kind. -/
def after (kind : ErrorKind) (seen : String) : Diagnostic :=
  ⟨kind, seen ++ kind.tag⟩

/-- The failure of a parameter that takes the name of a constant; the detail is the name. -/
def reserved (word : String) : Diagnostic :=
  ⟨.reservedWord, word⟩

/-- The line for a failure in the given phase of the work. -/
def line (phase : String) (d : Diagnostic) : String :=
  s!"{phase} error e{d.kind.code}: {d.kind.description}: {d.detail}"

/-- The line for a formula that does not compile. -/
def compileLine (d : Diagnostic) : String :=
  d.line "compile"

/-- The line for a program that fails while it runs. -/
def runtimeLine (d : Diagnostic) : String :=
  d.line "runtime"

end Diagnostic

end Formula
