import Formula.Text.Column
import Formula.Text.Quoted
import Formula.Token

/-!
# Token dumps

One line for each lexeme: its number, the name of its kind, and the lexeme, either as it is or
between quotes. The part after the number may be coloured by kind for a terminal.
-/

namespace Formula

namespace TokenKind

/-- The name of a kind in a dump. -/
def label : TokenKind → String
  | .delimiter => "DELIM"
  | .identifier => "IDENT"
  | .number => "NUMBER"
  | .hexNumber => "HEX"
  | .unknown => "UNKNOWN"
  | .finished => "END"

/-- The terminal sequence that switches to the colour of a kind. -/
def colour : TokenKind → String
  | .delimiter => "\x1b[35m"
  | .identifier => "\x1b[33m"
  | .number => "\x1b[36m"
  | .hexNumber => "\x1b[36m"
  | .unknown => "\x1b[31m"
  | .finished => "\x1b[2m"

end TokenKind

/-- How a dump is written. -/
structure DumpStyle where
  colour : Bool := true
  quoted : Bool := true

namespace DumpStyle

/-- The line for the lexeme with a given number. -/
def line (style : DumpStyle) (index : Nat) (lexeme : String) : String :=
  let t := Token.classify lexeme
  let start := if style.colour then t.kind.colour else ""
  let stop := if style.colour then "\x1b[0m" else ""
  let text := if style.quoted then Text.quoted t.text else t.text
  let number := Text.padLeft '0' 2 (toString index)
  s!"[{number}] {start}{Text.padRight 8 t.kind.label} {text}{stop}"

/-- The lines for a list of lexemes. -/
def lines (style : DumpStyle) (lexemes : List String) : List String :=
  lexemes.mapIdx style.line

end DumpStyle

end Formula
