import Formula.Diagnostic
import Formula.Token

/-!
# Cursors

A cursor walks over lexemes, and a token that was read can be put back. To keep a reader from going
back and forth for ever, only so many put-backs are granted one after another at the same position;
refused ones count as well.
-/

namespace Formula

/-- A walk over lexemes. The position counts the tokens read and runs one past the number of lexemes
once the end has been read. `putBackAt` is the position of the latest put-back, and `putBackCount`
the number of put-backs at it in a row. -/
structure Cursor where
  lexemes : List String
  position : Nat := 0
  putBackAt : Option Nat := none
  putBackCount : Nat := 0
  deriving DecidableEq, Repr

namespace Cursor

/-- The number of put-backs granted in a row at one position. -/
def maxPutBacks : Nat := 5

/-- A cursor at the start of the lexemes of a text. -/
def ofText (text : String) : Cursor :=
  { lexemes := Formula.lexemes text }

/-- The token at the position, and the cursor past it. -/
def next (c : Cursor) : Token × Cursor :=
  ((c.lexemes[c.position]?.map .classify).getD .finished,
   { c with position := min (c.position + 1) (c.lexemes.length + 1) })

/-- The lexemes read so far without a gap, closed by the tag of a kind. -/
def detail (c : Cursor) (kind : ErrorKind) : String :=
  String.join (c.lexemes.take c.position) ++ kind.tag

/-- The cursor one token back, or a failure that leaves the position. -/
def putBack (c : Cursor) : Except Diagnostic Unit × Cursor :=
  let repeated := c.putBackAt == some c.position
  let c' := { c with
    putBackAt := some c.position
    putBackCount := if repeated then c.putBackCount + 1 else 1 }
  if repeated && maxPutBacks < c'.putBackCount then
    (.error ⟨.putBack, c.detail .putBack⟩, c')
  else
    (.ok (), { c' with position := c.position - 1 })

end Cursor

end Formula
