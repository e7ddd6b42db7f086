import Formula.Session
import Mathlib.Tactic.Common

/-!
# What sessions remember

A history lists the operations on a session, the latest first. What a session holds after a history
can be told from the history alone: `Describes` says how, with no reference to the sessions in
between. The outcome is that of the latest compilation or evaluation; everything else depends on the
compilations and settings only, so that neither evaluations nor failures leave traces in later
answers (`session_history`).
-/

namespace Formula

/-- The operations on a session. -/
inductive Operation where
  | compile (text : String)
  | eval (args : List Float)
  | tryEval (args : List Float)
  | listing
  | setOptimize (on : Bool)
  | setAllowConditionalAssignment (on : Bool)
  | setConfig (config : MachineConfig)
  deriving DecidableEq, Repr

/-- What the operations answer; settings are just done. -/
inductive Answer where
  | compiled (result : Except Diagnostic Unit)
  | value (x : Float)
  | execution (result : Except Fault Execution)
  | lines (lines : List String)
  | done

namespace Operation

/-- Whether an operation compiles or settles something for the operations to come. -/
def prepares : Operation → Bool
  | .eval _ | .tryEval _ | .listing => false
  | _ => true

/-- The text that an operation compiles. -/
def text? : Operation → Option String
  | .compile text => some text
  | _ => none

/-- What an operation settles about fusing loads and pushes. -/
def optimize? : Operation → Option Bool
  | .setOptimize on => some on
  | _ => none

/-- What an operation settles about assignments in conditions. -/
def allowConditionalAssignment? : Operation → Option Bool
  | .setAllowConditionalAssignment on => some on
  | _ => none

/-- The sizes of the machine that an operation settles. -/
def config? : Operation → Option MachineConfig
  | .setConfig config => some config
  | _ => none

end Operation

namespace Session

/-- The answer to an operation, and the session after it. -/
def perform (s : Session) : Operation → Answer × Session
  | .compile text => (.compiled (s.compile text).1, (s.compile text).2)
  | .eval args => (.value (s.eval args).1, (s.eval args).2)
  | .tryEval args => (.execution (s.tryEval args), s)
  | .listing => (.lines s.listing, s)
  | .setOptimize on => (.done, s.setOptimize on)
  | .setAllowConditionalAssignment on => (.done, s.setAllowConditionalAssignment on)
  | .setConfig config => (.done, s.setConfig config)

/-- The session after a history. -/
def after (s : Session) : List Operation → Session
  | [] => s
  | op :: earlier => ((s.after earlier).perform op).2

/-- The answers to the operations of a history, the latest first. -/
def answers (s : Session) : List Operation → List Answer
  | [] => []
  | op :: earlier => ((s.after earlier).perform op).1 :: s.answers earlier

end Session

namespace History

variable {α : Type} (initial : CompileOptions)

/-- What the latest operation yields that yields something. It may depend on the operations before
it. -/
def latest? (f : List Operation → Operation → Option α) : List Operation → Option α
  | [] => none
  | op :: earlier => (f earlier op).or (latest? f earlier)

/-- The options after a history: each is the latest one that was set. -/
def options (history : List Operation) : CompileOptions where
  optimize := (latest? (fun _ op => op.optimize?) history).getD initial.optimize
  allowConditionalAssignment :=
    (latest? (fun _ op => op.allowConditionalAssignment?) history).getD
      initial.allowConditionalAssignment

/-- The sizes of the machine after a history: the latest ones that were set. -/
def config (history : List Operation) : MachineConfig :=
  (latest? (fun _ op => op.config?) history).getD {}

/-- The text after a history: the latest one that was compiled. -/
def text (history : List Operation) : String :=
  (latest? (fun _ op => op.text?) history).getD ""

/-- The result of a compilation, with the options that were in force. -/
def compiled? (earlier : List Operation) (op : Operation) : Option (Except Diagnostic Program) :=
  op.text?.map fun text => Formula.compile text (options initial earlier)

/-- The program after a history: that of the latest compilation, if it succeeded. -/
def program (history : List Operation) : Option Program :=
  (latest? (compiled? initial) history).bind Except.toOption

/-- What a run of the program leads to after a history. -/
def execution (history : List Operation) (args : List Float) : Except Fault Execution :=
  match program initial history with
  | some p => p.execute (config history) args
  | none => .error .noCode

/-- The value of an execution; it is 0 for a failed one. -/
def value : Except Fault Execution → Float
  | .ok e => e.value
  | .error _ => 0

/-- The diagnostic of an execution: that of its fault, or that of operands that were left on the
stack. -/
def diagnostic? : Except Fault Execution → Option Diagnostic
  | .ok e => e.leak.map Registers.leakDiagnostic
  | .error f => some f.diagnostic

/-- The diagnostic of a compilation. -/
def failure? : Except Diagnostic Program → Option Diagnostic
  | .ok _ => none
  | .error d => some d

/-- The diagnostic of a compilation or an evaluation, or `none` if all went well. -/
def outcome? (earlier : List Operation) : Operation → Option (Option Diagnostic)
  | .compile text => some (failure? (Formula.compile text (options initial earlier)))
  | .eval args => some (diagnostic? (execution initial earlier args))
  | _ => none

/-- The outcome after a history: that of the latest compilation or evaluation. -/
def outcome (history : List Operation) : Option Diagnostic :=
  (latest? (outcome? initial) history).join

/-- The answer to an operation after a history. -/
def answer (earlier : List Operation) : Operation → Answer
  | .compile text => .compiled ((Formula.compile text (options initial earlier)).map fun _ => ())
  | .eval args => .value (value (execution initial earlier args))
  | .tryEval args => .execution (execution initial earlier args)
  | .listing => .lines ((program initial earlier).getD {}).listing
  | _ => .done

/-- The answers to the operations of a history, the latest first. -/
def answers : List Operation → List Answer
  | [] => []
  | op :: earlier => answer initial earlier op :: answers earlier

/-- How an outcome is recorded: success has the kind `none` and no detail. -/
def report : Option Diagnostic → ErrorKind × String
  | none => (.none, "")
  | some d => (d.kind, d.detail)

/-- What a session holds is what a history says. -/
structure Describes (history : List Operation) (s : Session) : Prop where
  text_eq : s.text = text history
  program_eq : s.program = program initial history
  options_eq : s.options = options initial history
  config_eq : s.config = config history
  outcome_eq : (s.kind, s.detail) = report (outcome initial history)

end History

namespace Session
open History

/-- A compilation replaces the text, the program and the outcome. -/
lemma compile_eq (s : Session) (text : String) :
    s.compile text =
      ((Formula.compile text s.options).map fun _ => (),
        { s with
          text := text
          program := (Formula.compile text s.options).toOption
          kind := (report (failure? (Formula.compile text s.options))).1
          detail := (report (failure? (Formula.compile text s.options))).2 }) := by
  unfold compile
  cases hcompile : Formula.compile text s.options with
  | ok p =>
    simp only [record, hcompile]
    rfl
  | error d =>
    simp only [record, hcompile]
    rfl

/-- An evaluation replaces the outcome only. -/
lemma eval_eq (s : Session) (args : List Float) :
    s.eval args =
      (value (s.tryEval args),
        { s with
          kind := (report (diagnostic? (s.tryEval args))).1
          detail := (report (diagnostic? (s.tryEval args))).2 }) := by
  have hrecord : (s.record .none "").tryEval args = s.tryEval args := rfl
  unfold eval
  simp only [hrecord]
  cases hrun : s.tryEval args with
  | ok e =>
    obtain ⟨x, leak⟩ := e
    cases leak with
    | none => rfl
    | some r => rfl
  | error f => rfl

end Session

namespace History

variable {initial} {history : List Operation} {s : Session}

namespace Describes

/-- A history tells what a run of the program leads to. -/
lemma tryEval_eq (h : Describes initial history s) (args : List Float) :
    s.tryEval args = execution initial history args := by
  rw [Session.tryEval, h.program_eq, h.config_eq]
  rfl

/-- A history tells what an operation answers. -/
lemma answer_eq (h : Describes initial history s) (op : Operation) :
    (s.perform op).1 = answer initial history op := by
  cases op with
  | compile text =>
    rw [Session.perform, s.compile_eq text, h.options_eq]
    rfl
  | eval args =>
    rw [Session.perform, s.eval_eq args, h.tryEval_eq]
    rfl
  | tryEval args => exact congrArg Answer.execution (h.tryEval_eq args)
  | listing =>
    rw [Session.perform, Session.listing, h.program_eq]
    rfl
  | setOptimize => rfl
  | setAllowConditionalAssignment => rfl
  | setConfig => rfl

/-- If a history describes a session, the history with one more operation describes the session
after it. -/
lemma perform (h : Describes initial history s) (op : Operation) :
    Describes initial (op :: history) (s.perform op).2 := by
  cases op with
  | compile text =>
    rw [Session.perform, s.compile_eq text, h.options_eq]
    exact ⟨rfl, rfl, rfl, h.config_eq, rfl⟩
  | eval args =>
    rw [Session.perform, s.eval_eq args, h.tryEval_eq]
    exact ⟨h.text_eq, h.program_eq, h.options_eq, h.config_eq, rfl⟩
  | tryEval args => exact ⟨h.text_eq, h.program_eq, h.options_eq, h.config_eq, h.outcome_eq⟩
  | listing => exact ⟨h.text_eq, h.program_eq, h.options_eq, h.config_eq, h.outcome_eq⟩
  | setOptimize on =>
    -- The other option keeps the value that the earlier history gives it.
    refine ⟨h.text_eq, h.program_eq, ?_, h.config_eq, h.outcome_eq⟩
    simp only [Session.perform, Session.setOptimize, h.options_eq]
    rfl
  | setAllowConditionalAssignment on =>
    refine ⟨h.text_eq, h.program_eq, ?_, h.config_eq, h.outcome_eq⟩
    simp only [Session.perform, Session.setAllowConditionalAssignment, h.options_eq]
    rfl
  | setConfig config => exact ⟨h.text_eq, h.program_eq, h.options_eq, rfl, h.outcome_eq⟩

end Describes

/-- Every history describes the session after it. -/
lemma describes_after (initial : CompileOptions) (history : List Operation) :
    Describes initial history (Session.after { options := initial } history) := by
  induction history with
  | nil => exact ⟨rfl, rfl, rfl, rfl, rfl⟩
  | cons op earlier ih => exact ih.perform op

/-- Every history tells the answers to its operations. -/
lemma answers_after (initial : CompileOptions) (history : List Operation) :
    Session.answers { options := initial } history = answers initial history := by
  induction history with
  | nil => rfl
  | cons op earlier ih =>
    rw [Session.answers, answers, ih, (describes_after initial earlier).answer_eq op]

/-- The latest of what only preparations yield is the same without the other operations. -/
lemma latest?_filter_prepares {α : Type} {f : List Operation → Operation → Option α}
    (hnone : ∀ earlier op, op.prepares = false → f earlier op = none)
    (hfilter : ∀ earlier op, f (earlier.filter Operation.prepares) op = f earlier op)
    (history : List Operation) :
    latest? f (history.filter Operation.prepares) = latest? f history := by
  induction history with
  | nil => rfl
  | cons op earlier ih =>
    cases hop : op.prepares with
    | false =>
      rw [List.filter_cons_of_neg (by simp [hop]), ih, latest?, hnone earlier op hop, Option.none_or]
    | true => rw [List.filter_cons_of_pos hop, latest?, latest?, ih, hfilter]

/-- The options depend on preparations only. -/
lemma options_filter_prepares (history : List Operation) :
    options initial (history.filter Operation.prepares) = options initial history := by
  unfold options
  rw [latest?_filter_prepares ?_ fun _ _ => rfl, latest?_filter_prepares ?_ fun _ _ => rfl]
  · intro _ op hop
    cases op with
    | setAllowConditionalAssignment => cases hop
    | _ => rfl
  · intro _ op hop
    cases op with
    | setOptimize => cases hop
    | _ => rfl

lemma config_filter_prepares (history : List Operation) :
    config (history.filter Operation.prepares) = config history := by
  unfold config
  rw [latest?_filter_prepares ?_ fun _ _ => rfl]
  intro _ op hop
  cases op with
  | setConfig => cases hop
  | _ => rfl

lemma program_filter_prepares (history : List Operation) :
    program initial (history.filter Operation.prepares) = program initial history := by
  unfold program
  rw [latest?_filter_prepares]
  · intro _ op hop
    cases op with
    | compile => cases hop
    | _ => rfl
  · intro earlier op
    simp only [compiled?, options_filter_prepares]

/-- Answers depend on preparations only. -/
lemma answer_filter_prepares (history : List Operation) (op : Operation) :
    answer initial (history.filter Operation.prepares) op = answer initial history op := by
  cases op with
  | _ =>
    simp only [answer, execution, options_filter_prepares, config_filter_prepares,
      program_filter_prepares]

end History

open History

/-- After any operations on a session, it holds what their history says, and each operation answered
what the history up to it says. Operations other than compilations and settings never change a later
answer, and neither a listing nor a run on trial changes the session. -/
theorem session_history (initial : CompileOptions) (history : List Operation) :
    Describes initial history (Session.after { options := initial } history) ∧
    Session.answers { options := initial } history = answers initial history ∧
    (∀ op, ((Session.after { options := initial } history).perform op).1 =
      ((Session.after { options := initial } (history.filter Operation.prepares)).perform op).1) ∧
    (∀ args, Session.after { options := initial } (.tryEval args :: history) =
      Session.after { options := initial } history) ∧
    Session.after { options := initial } (.listing :: history) =
      Session.after { options := initial } history := by
  refine ⟨describes_after initial history, answers_after initial history, ?_, fun _ => rfl, rfl⟩
  intro op
  rw [(describes_after initial history).answer_eq, (describes_after initial _).answer_eq,
    answer_filter_prepares]

end Formula
