import Formula.Arithmetic
import Formula.Assembler
import Formula.Catalogue
import Formula.Clauses
import Formula.CommandLine
import Formula.Compile
import Formula.Cursor
import Formula.Decimal.Digits
import Formula.Decimal.Exact
import Formula.Decimal.Fixed
import Formula.Decimal.Reading
import Formula.Decimal.Rounding
import Formula.Decimal.Shortest
import Formula.Diagnostic
import Formula.Expr.Basic
import Formula.Expr.Code
import Formula.Lexeme
import Formula.Machine
import Formula.Machine.Fault
import Formula.Main
import Formula.Opcode
import Formula.Operator
import Formula.Parameters
import Formula.Parser.Basic
import Formula.Parser.Expression
import Formula.Program
import Formula.Program.Codec
import Formula.Program.Listing
import Formula.Program.StackDepth
import Formula.Program.Statistics
import Formula.Program.Varint
import Formula.Program.Walk
import Formula.Proofs.Grammar
import Formula.Proofs.Parser.Run
import Formula.Session
import Formula.Text.Column
import Formula.Text.Quoted
import Formula.Token
import Formula.Token.Dump
import Formula.Unicode.Case
import Formula.Unicode.Letter
import Formula.Unicode.Mark
import Formula.Unicode.Printable
import Formula.Unicode.Range
import Formula.Unicode.Space
import Formula.Unicode.Word
import Formula.Word
import Formula.Proofs.Parser.Soundness
import Formula.Proofs.Parser.Completeness
import Formula.Proofs.Assembler.Block
import Formula.Proofs.Expr.Assembly
import Formula.Proofs.Expr.Evaluation
import Formula.Proofs.Machine.Run
import Formula.Proofs.Machine.Simulation
import Formula.Proofs.Program.Depth
import Formula.Proofs.Compile
import Formula.Proofs.Machine.Execution
import Formula.Proofs.Correctness
import Formula.Proofs.Machine.Containment
import Formula.Proofs.Program.Tiling
import Formula.Proofs.Program.Walk
import Formula.Proofs.Program.StackDepth
import Formula.Proofs.Expr.Layout
import Formula.Proofs.WellFormed
import Formula.Proofs.History
import Formula.Proofs.Lexeme.Coverage
import Formula.Proofs.Lexeme.Kind
import Formula.Proofs.Lexeme.Punctuation
import Formula.Proofs.Except
import Formula.Proofs.Program.Codec
import Formula.Proofs.Machine.Enlargement
import Formula.Proofs.Machine.Effect
import Formula.Proofs.Machine.Height
import Formula.Proofs.Machine.StraightLine
import Formula.Proofs.LongJump
import Formula.Proofs.StackBound
import Formula.Proofs.Parser.Place
import Formula.Proofs.Parser.Gate
import Formula.Proofs.Parser.Arguments
import Formula.Proofs.Arity
import Formula.Proofs.ConditionalAssignment
import Formula.Proofs.Parameters
import Formula.Proofs.OnePass.Compiler
import Formula.Proofs.ErrorLocation
import Formula.Proofs.InternalErrors
import Formula.Proofs.Parentheses
import Formula.Proofs.Unicode.Range
import Formula.Proofs.Unicode.Case
import Formula.Proofs.Unicode.Space
import Formula.Proofs.Clauses
import Formula.Proofs.ParameterList
import Formula.Proofs.Lexeme.First
import Formula.Proofs.Lexeme.Spacing
import Formula.Proofs.Spacing
import Formula.Proofs.Lexeme.Spelling
import Formula.Proofs.Parser.Replacement
import Formula.Proofs.Spelling
import Formula.Proofs.Decimal.Exact
import Formula.Proofs.Decimal.Nearest
import Formula.Proofs.Decimal.Natural
import Formula.Proofs.Decimal.Fixed
import Formula.Proofs.Word
import Formula.Proofs.Machine.Integers
import Formula.Proofs.Program.Statistics
import Formula.Proofs.Program.Listing
import Formula.Proofs.Assembler.Places
import Formula.Proofs.Assembler.Buffer
import Formula.Proofs.Assembler.Resolution
import Formula.Proofs.Cursor
