import Formula.Proofs.Unicode.Case
import Formula.Unicode.Space
import Formula.Unicode.Word
import Mathlib.Data.List.TakeWhile

/-!
# White space

White space is in no word, and it has no case. A text between two characters that are none keeps them
when it is trimmed.
-/

namespace Formula.Unicode

variable {c d : Char} {text : List Char}

/-- White space is in no word. -/
lemma isWord_of_isWhiteSpace (h : isWhiteSpace c = true) : isWord c = false :=
  of_inRanges (p := fun c => isWord c = false) (by decide +kernel) h

/-- White space has no case. -/
lemma isLower_of_isWhiteSpace (h : isWhiteSpace c = true) : IsLower c :=
  of_inRanges (by decide +kernel) h

/-- A text between two characters that are no white space is trimmed already. -/
lemma trim_of_ends (hc : isWhiteSpace c = false) (hd : isWhiteSpace d = false) :
    trim (c :: (text ++ [d])) = c :: (text ++ [d]) := by
  simp [trim, hc, hd]

end Formula.Unicode
