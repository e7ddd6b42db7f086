import Formula.Catalogue
import Formula.Proofs.Parser.Run

/-!
# Places in a body

Where a token of a body stands, told from the tokens before it and without a parser: which
parentheses are open there, and which of them are of a conditional that is still before its first
comma. A token is in a condition if there is such a parenthesis around it, at any distance.
-/

namespace Formula

/-- A place in a list of tokens: whether the token before it is a name of the conditional, and for
every parenthesis that is open there, the innermost first, whether it is that of a conditional whose
first comma is still to come. -/
structure Place where
  named : Bool
  conditions : List Bool
  deriving DecidableEq, Repr

namespace Place

/-- The place before the first token. -/
def start : Place :=
  ⟨false, []⟩

/-- The open parentheses after an operator or punctuation. -/
def conditionsAfter (n : Place) (text : String) : List Bool :=
  if text = "(" then n.named :: n.conditions
  else if text = ")" then n.conditions.tail
  else if text = "," then n.conditions.modifyHead fun _ => false
  else n.conditions

/-- The place after one more token. -/
def next (n : Place) (t : Token) : Place :=
  match t.kind with
  | .delimiter => ⟨false, n.conditionsAfter t.text⟩
  | .identifier => ⟨Catalogue.callee? t.text == some .conditional, n.conditions⟩
  | _ => ⟨false, n.conditions⟩

/-- The place after more tokens. -/
def after (n : Place) (ts : List Token) : Place :=
  ts.foldl next n

/-- Whether a place is in the condition of a conditional. -/
def inCondition (n : Place) : Bool :=
  n.conditions.any id

/-- The tokens between two places, if no equals sign among them is in a condition. -/
inductive Passes : Place → List Token → Place → Prop where
  | nil {n} :
    Passes n [] n
  | cons {n m t ts} :
    (t = .sign "=" → n.inCondition = false) →
    Passes (n.next t) ts m →
    Passes n (t :: ts) m

variable {n m k : Place} {us vs : List Token}

/-- The place after an operator. -/
lemma next_operator {text : String} (h : text ∉ ["(", ")", ","]) :
    n.next (.sign text) = ⟨false, n.conditions⟩ := by
  simp only [List.mem_cons, List.not_mem_nil, or_false, not_or] at h
  obtain ⟨hopen, hclose, hcomma⟩ := h
  simp [next, conditionsAfter, hopen, hclose, hcomma]

/-- A name neither starts nor ends a condition. -/
lemma inCondition_after_word (n : Place) (us : List Token) (name : String) :
    (n.after (us ++ [.word name])).inCondition = (n.after us).inCondition := by
  rw [after, List.foldl_append]
  rfl

/-- The tokens between two places, and those from there to a third. -/
lemma Passes.append (hu : Passes n us m) (hv : Passes m vs k) : Passes n (us ++ vs) k := by
  induction hu with
  | nil => exact hv
  | cons ht _ ih => exact .cons ht (ih hv)

/-- The place after the tokens between two places and further ones. -/
lemma Passes.after_append (h : Passes n us m) (vs : List Token) :
    n.after (us ++ vs) = m.after vs := by
  induction h with
  | nil => rfl
  | cons _ _ ih => exact ih

/-- No equals sign between the places is in a condition. -/
lemma Passes.inCondition_eq_false (h : Passes n (us ++ .sign "=" :: vs) m) :
    (n.after us).inCondition = false := by
  induction us generalizing n with
  | nil =>
    cases h with
    | cons ht _ => exact ht rfl
  | cons t us ih =>
    cases h with
    | cons _ h => exact ih h

end Place

end Formula
