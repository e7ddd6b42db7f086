import Formula.Compile
import Formula.Machine
import Formula.Program.Listing

/-!
# Sessions

A session holds one formula at a time: its text, its program if it compiled, the outcome of the
latest operation, and the settings for the operations to come.
-/

namespace Formula

/-- A session. `kind` and `detail` are the outcome of the latest compilation or evaluation; the kind
`none` and no detail stand for success. -/
structure Session where
  text : String := ""
  program : Option Program := none
  kind : ErrorKind := .none
  detail : String := ""
  options : CompileOptions := {}
  config : MachineConfig := {}
  deriving DecidableEq, Repr

namespace Session

/-- The session with a new outcome. -/
def record (s : Session) (kind : ErrorKind) (detail : String) : Session :=
  { s with kind := kind, detail := detail }

/-- The session with a diagnostic as its outcome. -/
def recordDiagnostic (s : Session) (d : Diagnostic) : Session :=
  s.record d.kind d.detail

/-- Settle whether the next compilation fuses loads and pushes. -/
def setOptimize (s : Session) (on : Bool) : Session :=
  { s with options := { s.options with optimize := on } }

/-- Settle whether the next compilation accepts assignments in conditions. -/
def setAllowConditionalAssignment (s : Session) (on : Bool) : Session :=
  { s with options := { s.options with allowConditionalAssignment := on } }

/-- Settle the sizes of the machine for the evaluations to come. -/
def setConfig (s : Session) (config : MachineConfig) : Session :=
  { s with config := config }

/-- Compile a text. It replaces the text and the program that the session had; if it does not
compile, there is no program. -/
def compile (s : Session) (text : String) : Except Diagnostic Unit × Session :=
  let s := { s.record .none "" with text := text, program := none }
  match Formula.compile text s.options with
  | .ok p => (.ok (), { s with program := some p })
  | .error d => (.error d, s.recordDiagnostic d)

/-- Run the program on arguments without a change to the session. -/
def tryEval (s : Session) (args : List Float) : Except Fault Execution :=
  match s.program with
  | some p => p.execute s.config args
  | none => .error .noCode

/-- Run the program on arguments. A fault is recorded and yields 0; operands that were left on the
stack are recorded, and the value stands. -/
def eval (s : Session) (args : List Float) : Float × Session :=
  let s := s.record .none ""
  match s.tryEval args with
  | .ok ⟨value, none⟩ => (value, s)
  | .ok ⟨value, some r⟩ => (value, s.recordDiagnostic r.leakDiagnostic)
  | .error f => (0, s.recordDiagnostic f.diagnostic)

/-- The plain listing of the program. -/
def listing (s : Session) : List String :=
  (s.program.getD {}).listing

end Session

end Formula
