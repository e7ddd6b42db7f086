import Formula.Catalogue
import Formula.Diagnostic
import Formula.Token

/-!
# Parameters

The parameter clause lists names separated by commas. The position of a name is its slot in the
memory of the machine; a name that is listed twice means its first slot.
-/

namespace Formula

/-- The declared parameters, in the order of their slots. -/
structure Parameters where
  names : List String
  deriving DecidableEq, Repr

namespace Parameters

/-- The number of parameters. -/
def size (ps : Parameters) : Nat :=
  ps.names.length

/-- The first slot with a given name. -/
def slot? (ps : Parameters) (name : String) : Option Nat :=
  ps.names.idxOf? name

mutual

/-- The names of a clause where a name is expected; `seen` holds the lexemes read so far. Only at the
start of the clause may it end here. -/
def namesFrom (seen : List String) (atStart : Bool) : List Token → Except Diagnostic (List String)
  | [] => if atStart then .ok [] else .error (.after .missingParam (String.join seen))
  | t :: rest =>
    match t.kind with
    | .identifier =>
      if Catalogue.isReserved t.text then .error (.reserved t.text)
      else (t.text :: ·) <$> namesAfter (seen ++ [t.text]) rest
    | .delimiter =>
      let kind := if t.text = "," then .missingParam else .missingComma
      .error (.after kind (String.join (seen ++ [t.text])))
    | _ => .error (.after .missingParam (String.join (seen ++ [t.text])))

/-- The names of a clause after a name, where only a comma may follow. -/
def namesAfter (seen : List String) : List Token → Except Diagnostic (List String)
  | [] => .ok []
  | t :: rest =>
    match t.kind with
    | .identifier => .error (.after .missingComma (String.join (seen ++ [t.text])))
    | .delimiter =>
      if t.text = "," then namesFrom (seen ++ [t.text]) false rest
      else .error (.after .missingComma (String.join (seen ++ [t.text])))
    | _ => .error (.after .missingParam (String.join (seen ++ [t.text])))

end

/-- The parameters that a clause declares. -/
def ofClause (clause : String) : Except Diagnostic Parameters :=
  Parameters.mk <$> namesFrom [] true (tokens clause)

end Parameters

end Formula
