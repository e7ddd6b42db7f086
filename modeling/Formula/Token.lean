import Formula.Lexeme

/-!
# Tokens

A token is a lexeme with its kind. Any text can be classified: one that no rule covers is of unknown
kind. The token past the last lexeme is `Token.finished`, which no lexeme is classified as.
-/

namespace Formula
open Formula.Unicode Formula.Lexeme

/-- The kinds of tokens. -/
inductive TokenKind where
  | delimiter
  | identifier
  | number
  | hexNumber
  | unknown
  | finished
  deriving DecidableEq, Repr

/-- A lexeme with its kind. -/
structure Token where
  kind : TokenKind
  text : String
  deriving DecidableEq, Repr

namespace TokenKind

/-- An operator, a parenthesis or the comma. -/
def isDelimiter : List Char → Bool
  | [c] => isParen c || signs.contains c
  | [a, b] => pairs.contains (a, b)
  | _ => false

/-- The mark `0x` and at least one digit, point or small letter. -/
def isHexNumber : List Char → Bool
  | '0' :: 'x' :: rest => !rest.isEmpty && rest.all isHexChar
  | _ => false

/-- Digits and points, at least one digit among them. -/
def isNumber (text : List Char) : Bool :=
  text.all isNumberChar && text.any isDecimalDigit

/-- One or more word characters. -/
def isIdentifier (text : List Char) : Bool :=
  !text.isEmpty && text.all isWord

/-- The kind of a text; the first class that holds it decides. -/
def ofText (text : List Char) : TokenKind :=
  if isDelimiter text then .delimiter
  else if isHexNumber text then .hexNumber
  else if isNumber text then .number
  else if isIdentifier text then .identifier
  else .unknown

end TokenKind

namespace Token

/-- The token past the last lexeme. -/
def finished : Token :=
  ⟨.finished, ""⟩

/-- The token of a lexeme. -/
def classify (lexeme : String) : Token :=
  ⟨.ofText lexeme.toList, lexeme⟩

/-- Whether a token is the given operator or punctuation. -/
def isDelimiter (t : Token) (text : String) : Bool :=
  t.kind == .delimiter && t.text == text

/-- A token as it is shown to a reader. -/
def display (t : Token) : String :=
  if t.kind = .finished then "<end>" else t.text

end Token

/-- The tokens of a text in order. -/
def tokens (text : String) : List Token :=
  (lexemes text).map .classify

end Formula
