import Formula.Proofs.Lexeme.Punctuation
import Formula.Proofs.Parser.Completeness

/-!
# The number of arguments

A call is accepted if it has as many arguments as its function asks for, and the kind of the failure
tells whether there are too few or too many (`Counts`). Nothing is asked of the arguments but that
parsers read them, so the count does not depend on what they are. The arguments that are still to come
are `Token.behind`; each piece of a parser takes some of them, and the claim about it is the one about
the remaining pieces and the remaining arguments.
-/

namespace Formula
namespace Parser

/-- Tokens that a parser reads as one expression, where punctuation ends it. -/
structure Readable (p : Parser Expr) (ts : List Token) : Prop where
  run : ∃ e, ∀ rest, Category.expression.Stops rest → p.run (ts ++ rest) = .ok (e, rest)
  ne_close : ∀ rest us, ts ++ rest ≠ .sign ")" :: us

/-- What a parser of `n` arguments comes to where `arity` of them are asked for. -/
structure Counts (n arity : Nat) (x : Except Failure (Expr × List Token)) : Prop where
  enough : n = arity → ∃ e, x = .ok (e, [])
  tooFew : n < arity → ∃ rest, x = .error ⟨.insufficientArgs, rest⟩
  tooMany : arity < n → ∃ rest, x = .error ⟨.tooManyArgs, rest⟩

namespace Counts

variable {n arity : Nat} {x : Except Failure (Expr × List Token)}

/-- One more argument that is asked for and is there. -/
lemma succ (h : Counts n arity x) : Counts (n + 1) (arity + 1) x where
  enough heq := h.enough (Nat.succ.inj heq)
  tooFew hlt := h.tooFew (Nat.lt_of_succ_lt_succ hlt)
  tooMany hlt := h.tooMany (Nat.lt_of_succ_lt_succ hlt)

/-- All that are asked for are there, and no other. -/
lemma done (e : Expr) : Counts 0 0 (.ok (e, [])) where
  enough _ := ⟨e, rfl⟩
  tooFew := nofun
  tooMany := nofun

/-- Some are missing. -/
lemma missing (rest : List Token) : Counts 0 (n + 1) (.error ⟨.insufficientArgs, rest⟩) where
  enough := nofun
  tooFew _ := ⟨rest, rfl⟩
  tooMany := nofun

/-- There is one more than are asked for. -/
lemma surplus (rest : List Token) : Counts (n + 1) 0 (.error ⟨.tooManyArgs, rest⟩) where
  enough := nofun
  tooFew := nofun
  tooMany _ := ⟨rest, rfl⟩

/-- It is a failure, or everything is read. -/
lemma rest_eq_nil (h : Counts n arity x) {e : Expr} {rest : List Token} (hx : x = .ok (e, rest)) :
    rest = [] := by
  rcases Nat.lt_trichotomy n arity with hlt | heq | hlt
  · obtain ⟨rest', h⟩ := h.tooFew hlt
    cases h.symm.trans hx
  · obtain ⟨e', h⟩ := h.enough heq
    cases h.symm.trans hx
    rfl
  · obtain ⟨rest', h⟩ := h.tooMany hlt
    cases h.symm.trans hx

end Counts

section Pieces

variable {p branch condition : Parser Expr} {m : Expr → Parser Expr} {comma : Parser Unit}
  {ts us : List Token} {tss : List (List Token)} {n : Nat}

/-- Whatever comes behind an argument ends it. -/
lemma stops_behind (tss : List (List Token)) : Category.expression.Stops (Token.behind tss) := by
  cases tss with
  | nil => exact Category.stops_close []
  | cons ts tss => exact Category.stops_comma _

/-- The comma and the argument that come next. -/
lemma behind_cons (ts : List Token) (tss : List (List Token)) :
    Token.behind (ts :: tss) = .sign "," :: (ts ++ Token.behind tss) := by
  simp [Token.behind]

/-- An argument is read. -/
lemma counts_argument {arity : Nat} (hts : Readable p ts)
    (hm : ∀ e, Counts n arity ((m e).run (Token.behind tss))) :
    Counts n arity ((p >>= m).run (ts ++ Token.behind tss)) := by
  obtain ⟨e, he⟩ := hts.run
  rw [run_bind_of_ok (he _ (stops_behind tss))]
  exact hm e

/-- A parser that goes past a comma, and misses an argument at a closing parenthesis. -/
structure GoesPastComma (comma : Parser Unit) : Prop where
  run_comma : ∀ ts, comma.run (.sign "," :: ts) = .ok ((), ts)
  run_close : ∀ ts, comma.run (.sign ")" :: ts) = .error ⟨.insufficientArgs, .sign ")" :: ts⟩

/-- The comma between two arguments of a function, and the one between two parts of a conditional. -/
lemma goesPastComma_separator : GoesPastComma separator where
  run_comma _ := rfl
  run_close _ := rfl

lemma goesPastComma_conditionalComma : GoesPastComma conditionalComma where
  run_comma _ := rfl
  run_close _ := rfl

/-- An argument is asked for behind another one. -/
lemma counts_next (hcomma : GoesPastComma comma) (htss : ∀ ts ∈ tss, Readable p ts)
    (hm : ∀ e tss', (∀ ts ∈ tss', Readable p ts) →
      Counts tss'.length n ((m e).run (Token.behind tss'))) :
    Counts tss.length (n + 1) ((comma >>= fun _ => p >>= m).run (Token.behind tss)) := by
  cases tss with
  | nil =>
    have hrun : (comma >>= fun _ => p >>= m).run (Token.behind []) =
        .error ⟨.insufficientArgs, [.sign ")"]⟩ := run_bind_of_error (hcomma.run_close [])
    rw [hrun]
    exact .missing _
  | cons ts tss =>
    obtain ⟨hts, htss⟩ := List.forall_mem_cons.1 htss
    rw [behind_cons, run_bind_of_ok (hcomma.run_comma _)]
    exact (counts_argument hts fun e => hm e tss htss).succ

/-- The end of the arguments of a function. One more argument is read before the failure. -/
lemma counts_closeArguments (htss : ∀ ts ∈ tss, Readable p ts) (e : Expr) :
    Counts tss.length 0
      ((closeArguments p >>= fun _ => (return e : Parser Expr)).run (Token.behind tss)) := by
  cases tss with
  | nil =>
    have hclose : (closeArguments p).run (Token.behind []) = .ok ((), []) :=
      run_closeArguments_iff.2 rfl
    rw [run_bind_of_ok hclose]
    exact .done e
  | cons ts tss =>
    obtain ⟨⟨a, ha⟩, -⟩ := htss ts List.mem_cons_self
    have hclose : (closeArguments p).run (.sign "," :: (ts ++ Token.behind tss)) =
        .error ⟨.tooManyArgs, Token.behind tss⟩ := by
      change (p >>= fun _ => fail .tooManyArgs).run (ts ++ Token.behind tss) = _
      rw [run_bind_of_ok (ha _ (stops_behind tss))]
      rfl
    rw [behind_cons, run_bind_of_error hclose]
    exact .surplus _

/-- The arguments of a function. -/
lemma counts_arguments (hts : Readable p ts) (htss : ∀ ts ∈ tss, Readable p ts) (f : Function) :
    Counts (tss.length + 1) f.arity ((arguments p f).run (ts ++ Token.behind tss)) := by
  cases f with
  | one f =>
    refine (counts_argument hts fun a => ?_).succ
    exact counts_closeArguments htss _
  | two f =>
    refine (counts_argument hts fun a => ?_).succ
    refine counts_next goesPastComma_separator htss fun b tss₂ htss₂ => ?_
    exact counts_closeArguments htss₂ _
  | numberFormat =>
    refine (counts_argument hts fun a => ?_).succ
    refine counts_next goesPastComma_separator htss fun b tss₂ htss₂ => ?_
    refine counts_next goesPastComma_separator htss₂ fun c tss₃ htss₃ => ?_
    exact counts_closeArguments htss₃ _

/-- A call of a function. -/
lemma counts_call (htss : ∀ ts ∈ tss, Readable p ts) (f : Function) :
    Counts tss.length f.arity ((call p f).run (.sign "(" :: Token.enclosed tss)) := by
  rw [call, run_bind_of_ok (run_expect_iff (u := ()).2 rfl)]
  cases tss with
  | nil =>
    cases f with
    | _ => exact .missing _
  | cons ts tss =>
    obtain ⟨hts, htss⟩ := List.forall_mem_cons.1 htss
    rw [Token.enclosed, run_refuse_of_ne (hts.ne_close (Token.behind tss))]
    exact counts_arguments hts htss f

/-- The end of a conditional. -/
lemma counts_endConditional (e : Expr) (tss : List (List Token)) :
    Counts tss.length 0
      ((do
        if (← current).isDelimiter "," then fail .tooManyArgs
        expect ")" .missingParen
        return e : Parser Expr).run (Token.behind tss)) := by
  cases tss with
  | nil => exact .done e
  | cons ts tss => exact .surplus _

/-- A conditional with at least one part. -/
lemma counts_conditional (hts : Readable condition ts) (htss : ∀ ts ∈ tss, Readable branch ts) :
    Counts (tss.length + 1) 3
      ((conditional condition branch).run (.sign "(" :: Token.enclosed (ts :: tss))) := by
  rw [conditional, run_bind_of_ok (run_expect_iff (u := ()).2 rfl)]
  refine (counts_argument hts fun c => ?_).succ
  refine counts_next goesPastComma_conditionalComma htss fun yes tss₂ htss₂ => ?_
  refine counts_next goesPastComma_conditionalComma htss₂ fun no tss₃ _ => ?_
  exact counts_endConditional _ tss₃

end Pieces

end Parser
end Formula
