import Formula.Program.Statistics
import Formula.Session
import Formula.Token.Dump

/-!
# The command line

A call names one formula, the values of its parameters, and what to show on the way to its value.
`Request.parse?` reads a call; `Request.respond` says what is printed and how the call ends.
-/

namespace Formula

/-- The switches of a call. -/
inductive Switch where
  | tokens
  | noColour
  | plainTokens
  | listing
  | statistics
  | noOptimize
  | allowConditionalAssignment
  deriving DecidableEq, Repr

/-- The switch with a given long name. -/
def Switch.ofName? : String → Option Switch
  | "tokens" => some .tokens
  | "no-color" => some .noColour
  | "pretty" => some .plainTokens
  | "bc" => some .listing
  | "stats" => some .statistics
  | "no-opt" => some .noOptimize
  | "allow-conditional-assignment" => some .allowConditionalAssignment
  | _ => none

/-- What a call asks for: the text of the formula, once it was read, the values of the parameters, and
the switches that were set. -/
structure Request where
  text : Option String := none
  args : List Float := []
  switches : List Switch := []
  deriving DecidableEq, Repr

namespace Request

/-- Set a switch; none may be set twice. -/
def set? (r : Request) (s : Switch) : Option Request :=
  if r.switches.contains s then none else some { r with switches := s :: r.switches }

/-- Add the numbers of a list separated by commas. -/
def addValues? (r : Request) (list : List Char) : Option Request :=
  (((String.ofList list).splitOn ",").mapM fun value => Decimal.read? value.toList).map fun values =>
    { r with args := r.args ++ values }

/-- Take a word as the text of the formula; there is only one. -/
def addText? (r : Request) (word : String) : Option Request :=
  if r.text.isSome then none else some { r with text := some word }

/-- Whether the characters after a minus sign form a number: digits with at most one point, not in
front, and at most one exponent mark, neither in front nor at the end. An exponent has no sign. -/
def looksNumeric (text : List Char) : Bool :=
  let mantissa := text.takeWhile fun c => !Decimal.isExponentMark c
  let tail := text.dropWhile fun c => !Decimal.isExponentMark c
  mantissa.all (fun c => Decimal.isDigit c || c == '.')
    && mantissa.count '.' ≤ 1 && mantissa.head? != some '.'
    && (tail.isEmpty || (!mantissa.isEmpty && 1 < tail.length && (tail.drop 1).all Decimal.isDigit))

/-- Whether a word can be the value of an option: a word that starts with a minus sign has to be a
number or the sign alone. -/
def isValue (word : List Char) : Bool :=
  match word with
  | ['-'] => true
  | '-' :: rest => looksNumeric rest
  | _ => true

/-- Read the words that follow the mark `--`. -/
def addTexts? (r : Request) (words : List String) : Option Request :=
  words.foldlM addText? r

/-- What a word of a call is. -/
inductive Word where
  | endOfOptions
  | switch (s : Switch)
  | values (list : List Char)
  | valuesFollow
  | text
  | unknown
  deriving DecidableEq, Repr

/-- What a word is. An option takes its values after an equals sign, after its letter, or from the next
word. -/
def Word.classify (word : List Char) : Word :=
  match word with
  | ['-', '-'] => .endOfOptions
  | '-' :: '-' :: option =>
    let name := String.ofList (option.takeWhile (· != '='))
    let value := option.dropWhile (· != '=')
    if name = "args" then
      match value with
      | [] => .valuesFollow
      | _ :: list => .values list
    else
      match Switch.ofName? name, value with
      | some s, [] => .switch s
      | _, _ => .unknown
  | ['-', 'a'] => .valuesFollow
  | '-' :: 'a' :: '=' :: list => .values list
  | '-' :: 'a' :: list => .values list
  | '-' :: _ :: _ => .unknown
  | _ => .text

/-- Read the words of a call. -/
def parseWords? (r : Request) : List String → Option Request
  | [] => some r
  | word :: rest =>
    match Word.classify word.toList with
    | .endOfOptions => r.addTexts? rest
    | .switch s => do parseWords? (← r.set? s) rest
    | .values list => do parseWords? (← r.addValues? list) rest
    | .valuesFollow =>
      match rest with
      | [] => none
      | list :: rest =>
        if isValue list.toList then do parseWords? (← r.addValues? list.toList) rest else none
    | .text => do parseWords? (← r.addText? word) rest
    | .unknown => none

end Request

/-- How a call ends: its exit status and the lines on both outputs. -/
structure Response where
  status : Nat
  output : List String
  errors : List String
  deriving DecidableEq, Repr

namespace Response

/-- The lines of an output as one text. -/
def join (lines : List String) : String :=
  String.join (lines.map (· ++ "\n"))

/-- The two lines for a failure. -/
def failureLines (phase : String) (kind : ErrorKind) (detail : String) : List String :=
  [s!"{phase} error e{kind.code}: {kind.description}", s!"  detail: {detail}"]

end Response

namespace Request

/-- Whether a switch is set. -/
def has (r : Request) (s : Switch) : Bool :=
  r.switches.contains s

/-- The tokens of both clauses. -/
def respondTokens (r : Request) (text : String) : Response :=
  match Clauses.ofText text with
  | .error d => ⟨1, [], Response.failureLines "Compile" d.kind d.detail⟩
  | .ok clauses =>
    let style : DumpStyle := ⟨!r.has .noColour, !r.has .plainTokens⟩
    ⟨0, "-- params --" :: style.lines (lexemes clauses.parameters)
      ++ "-- body --" :: style.lines (lexemes clauses.body), []⟩

/-- What is shown about a program before it runs. -/
def reports (r : Request) (p : Program) : List String :=
  (if r.has .listing then p.markedListing ++ [""] else [])
    ++ (if r.has .statistics then p.statistics ++ [""] else [])

/-- The value of the formula, after the reports that were asked for. -/
def respondValue (r : Request) (text : String) : Response :=
  let options : CompileOptions := ⟨!r.has .noOptimize, r.has .allowConditionalAssignment⟩
  match Session.compile { options := options } text with
  | (.error d, _) => ⟨1, [], Response.failureLines "Compile" d.kind d.detail⟩
  | (.ok (), s) =>
    let before := (s.program.map r.reports).getD []
    let (value, s) := s.eval r.args
    let valueLine := Decimal.shortestText value
    match s.kind with
    | .none => ⟨0, before ++ [valueLine], []⟩
    | .stackMemoryLeak =>
      ⟨0, before ++ [valueLine], [s!"Warning: {s.kind.description} ({s.detail})"]⟩
    | kind => ⟨1, before, Response.failureLines "Runtime" kind s.detail⟩

/-- The answer to a call for the given formula. -/
def respond (r : Request) (text : String) : Response :=
  if r.has .tokens then r.respondTokens text else r.respondValue text

end Request

namespace CommandLine

/-- The answer to a call, or nothing if the words are not a call. -/
def respond? (words : List String) : Option Response := do
  let r ← Request.parseWords? {} words
  let text ← r.text
  return r.respond text

/-- The line for words that are not a call. -/
def usage : String :=
  "usage: formula TEXT [-a VALUES] [--tokens] [--no-color] [--pretty] [--bc] [--stats] [--no-opt] "
    ++ "[--allow-conditional-assignment]"

end CommandLine

end Formula
