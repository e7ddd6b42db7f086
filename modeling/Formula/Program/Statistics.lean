import Formula.Catalogue
import Formula.Decimal.Fixed
import Formula.Program.Walk
import Formula.Text.Column

/-!
# Statistics of a program

The sizes of a program, and its most frequent instructions by name. Names with equal counts stand in
alphabetical order, so the lines depend on the program alone.
-/

namespace Formula

namespace Program

/-- The names of the instructions of a program, in order and with repetitions. -/
def instructionNames (p : Program) : List String :=
  p.walk.instructions.map fun i => Catalogue.nameOf i.op

/-- The order of the lines: higher counts first, then by name. -/
def frequencyBefore (a b : String × Nat) : Bool :=
  b.2 < a.2 || (a.2 == b.2 && a.1 ≤ b.1)

/-- Each name of a list with the number of its occurrences, the most frequent first. -/
def frequencies (names : List String) : List (String × Nat) :=
  (names.eraseDups.map fun name => (name, names.count name)).mergeSort frequencyBefore

/-- The line for a name that makes up `count` of `total` instructions. -/
def frequencyLine (total : Nat) (name : String) (count : Nat) : String :=
  let percent := Float.ofNat count / Float.ofNat (max total 1) * 100
  let percentText := Text.padLeft ' ' 5 (String.ofList (Decimal.placesText percent 1))
  let countText := Text.padLeft ' ' 4 (toString count)
  s!"  {Text.padRight 14 name} {countText} ({percentText}%)"

/-- The sizes of a program, and the lines of its ten most frequent names. -/
def statistics (p : Program) : List String :=
  let names := p.instructionNames
  [s!"Words:         {p.code.size}",
   s!"Constants:     {p.constants.size}",
   s!"Instructions:  {names.length}",
   "Op frequency:"]
    ++ ((frequencies names).take 10).map fun (name, count) => frequencyLine names.length name count

end Program

end Formula
