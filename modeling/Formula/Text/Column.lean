/-!
# Columns

Texts filled up to a width. A text that is wider stays as it is.
-/

namespace Formula.Text

/-- A text with blanks after it, up to the given width. -/
def padRight (width : Nat) (text : String) : String :=
  text ++ String.ofList (List.replicate (width - text.length) ' ')

/-- A text with copies of a character before it, up to the given width. -/
def padLeft (fill : Char) (width : Nat) (text : String) : String :=
  String.ofList (List.replicate (width - text.length) fill) ++ text

/-- A text without the blanks at its end. -/
def trimEnd (text : String) : String :=
  String.ofList (text.toList.reverse.dropWhile (· == ' ')).reverse

end Formula.Text
