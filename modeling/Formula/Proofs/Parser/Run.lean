import Formula.Parser.Expression
import Mathlib.Tactic.Common

/-!
# Runs of parsers

When a parser succeeds, and with what: one equivalence for each building block of the parsers, and
from them one for each construct of the grammar that is not a loop. Where the first tokens decide what
a parser does, an equation tells its failures as well. The tokens of names and of punctuation have
short forms here, since every statement about a construct spells its tokens out.
-/

namespace Formula

/-- The token of an operator or of punctuation. -/
abbrev Token.sign (text : String) : Token := ⟨.delimiter, text⟩

/-- The token of a name. -/
abbrev Token.word (name : String) : Token := ⟨.identifier, name⟩

/-- Only its own token is a given operator or punctuation. -/
lemma Token.isDelimiter_iff {t : Token} {text : String} :
    t.isDelimiter text = true ↔ t = .sign text := by
  cases t
  simp [Token.isDelimiter]

/-- The token past the last one is no operator. -/
lemma Token.isDelimiter_finished (text : String) : Token.finished.isDelimiter text = false := by
  simp [Token.finished, Token.isDelimiter]

/-- The current token is a given operator or punctuation only if the tokens start with it. -/
lemma Token.isDelimiter_headD_iff {ts : List Token} {text : String} :
    (ts.headD .finished).isDelimiter text = true ↔ ∃ rest, ts = .sign text :: rest := by
  cases ts with
  | nil => simp [Token.isDelimiter_finished]
  | cons t ts => simp [Token.isDelimiter_iff]

namespace Parser

variable {α β : Type}

/-- A parser that reads nothing leaves everything. -/
lemma run_pure_iff {a b : α} {ts rest : List Token} :
    (Pure.pure a : Parser α).run ts = .ok (b, rest) ↔ b = a ∧ rest = ts := by
  refine ⟨?_, ?_⟩
  · intro h
    cases h
    exact ⟨rfl, rfl⟩
  · intro h
    obtain ⟨rfl, rfl⟩ := h
    rfl

/-- The run of two parsers one after another. -/
lemma run_bind (p : Parser α) (f : α → Parser β) (ts : List Token) :
    (p >>= f).run ts = p.run ts >>= fun r => (f r.1).run r.2 := by
  change (Parser.bind p f).run ts = _
  unfold Parser.bind
  cases h : p.run ts with
  | error e =>
    simp only [h]
    rfl
  | ok r =>
    simp only [h]
    rfl

/-- Two parsers in a row succeed when the second succeeds on what the first leaves. -/
lemma run_bind_iff {p : Parser α} {f : α → Parser β} {ts rest : List Token} {b : β} :
    (p >>= f).run ts = .ok (b, rest) ↔
      ∃ a mid, p.run ts = .ok (a, mid) ∧ (f a).run mid = .ok (b, rest) := by
  rw [run_bind]
  cases p.run ts with
  | ok r =>
    obtain ⟨a, mid⟩ := r
    simp [Bind.bind, Except.bind]
  | error e => simp [Bind.bind, Except.bind]

/-- Two parsers in a row fail where the first one does, or the second on what the first leaves. -/
lemma run_bind_error_iff {p : Parser α} {f : α → Parser β} {ts : List Token} {g : Failure} :
    (p >>= f).run ts = .error g ↔
      p.run ts = .error g ∨ ∃ a mid, p.run ts = .ok (a, mid) ∧ (f a).run mid = .error g := by
  rw [run_bind]
  cases p.run ts with
  | ok r =>
    obtain ⟨a, mid⟩ := r
    simp [Bind.bind, Except.bind]
  | error e => simp [Bind.bind, Except.bind]

/-- A parser whose value is changed fails where it does. -/
lemma run_map_error_iff {p : Parser α} {f : α → β} {ts : List Token} {g : Failure} :
    (f <$> p).run ts = .error g ↔ p.run ts = .error g := by
  refine run_bind_error_iff.trans (or_iff_left ?_)
  rintro ⟨a, mid, -, h⟩
  cases h

/-- A parser that looks at what remains has it. -/
lemma run_remaining_bind (f : List Token → Parser β) (ts : List Token) :
    (remaining >>= f).run ts = (f ts).run ts :=
  rfl

/-- A parser that looks at the current token has it. -/
lemma run_current_bind (f : Token → Parser β) (ts : List Token) :
    (current >>= f).run ts = (f (ts.headD .finished)).run ts :=
  rfl

/-- After a success of the first of two parsers, the second decides. -/
lemma run_bind_of_ok {p : Parser α} {f : α → Parser β} {ts mid : List Token} {a : α}
    (h : p.run ts = .ok (a, mid)) : (p >>= f).run ts = (f a).run mid := by
  rw [run_bind, h]
  rfl

/-- The failure of the first of two parsers is that of both. -/
lemma run_bind_of_error {p : Parser α} {f : α → Parser β} {ts : List Token} {e : Failure}
    (h : p.run ts = .error e) : (p >>= f).run ts = .error e := by
  rw [run_bind, h]
  rfl

/-- A choice between parsers is made before they run. -/
lemma run_ite {c : Prop} [Decidable c] {p q : Parser α} {ts : List Token} :
    (if c then p else q).run ts = if c then p.run ts else q.run ts := by
  split <;> rfl

/-- A failing parser does not succeed. -/
lemma run_fail_iff {kind : ErrorKind} {a : α} {ts rest : List Token} :
    (fail kind : Parser α).run ts = .ok (a, rest) ↔ False := by
  simp [fail]

/-- Looking at what remains reads nothing. -/
lemma run_remaining_iff {us ts rest : List Token} :
    remaining.run ts = .ok (us, rest) ↔ us = ts ∧ rest = ts := by
  simp [remaining, eq_comm]

/-- Looking at the current token reads nothing. -/
lemma run_current_iff {t : Token} {ts rest : List Token} :
    current.run ts = .ok (t, rest) ↔ t = ts.headD .finished ∧ rest = ts := by
  simp only [current, run_bind_iff, run_pure_iff, run_remaining_iff]
  refine ⟨?_, ?_⟩
  · intro h
    obtain ⟨_, _, ⟨rfl, rfl⟩, rfl, rfl⟩ := h
    exact ⟨rfl, rfl⟩
  · intro h
    obtain ⟨rfl, rfl⟩ := h
    exact ⟨_, _, ⟨rfl, rfl⟩, rfl, rfl⟩

/-- Going on leaves all tokens but the current one. -/
lemma run_advance_iff {u : Unit} {ts rest : List Token} :
    advance.run ts = .ok (u, rest) ↔ rest = ts.tail := by
  simp [advance, eq_comm]

/-- Expected punctuation has to be the current token. -/
lemma run_expect_iff {text : String} {kind : ErrorKind} {u : Unit} {ts rest : List Token} :
    (expect text kind).run ts = .ok (u, rest) ↔ ts = .sign text :: rest := by
  simp only [expect, run_bind_iff, run_current_iff]
  refine ⟨?_, ?_⟩
  · intro h
    obtain ⟨t, mid, ⟨rfl, rfl⟩, h⟩ := h
    split at h
    · next ht =>
      obtain ⟨ts, rfl⟩ := Token.isDelimiter_headD_iff.1 ht
      rw [run_advance_iff.1 h, List.tail_cons]
    · exact (run_fail_iff.1 h).elim
  · rintro rfl
    exact ⟨_, _, ⟨rfl, rfl⟩, by simp [Token.isDelimiter_iff, advance]⟩

/-- A parser that refuses some punctuation at the current token goes on where it is not there. -/
lemma run_refuse_of_ne {text : String} {kind : ErrorKind} {p : Parser α} {ts : List Token}
    (h : ∀ us, ts ≠ .sign text :: us) :
    (do
      if (← current).isDelimiter text then fail kind
      p : Parser α).run ts = p.run ts := by
  have ht : ¬(ts.headD .finished).isDelimiter text = true := by
    intro ht
    obtain ⟨us, hus⟩ := Token.isDelimiter_headD_iff.1 ht
    exact h us hus
  rw [run_current_bind, if_neg ht]

/-- A parser that refuses some punctuation at the current token. -/
lemma run_refuse_iff {text : String} {kind : ErrorKind} {p : Parser α} {a : α}
    {ts rest : List Token} :
    (do
      if (← current).isDelimiter text then fail kind
      p : Parser α).run ts = .ok (a, rest) ↔
      (∀ us, ts ≠ .sign text :: us) ∧ p.run ts = .ok (a, rest) := by
  by_cases hs : ∃ us, ts = .sign text :: us
  · obtain ⟨us, rfl⟩ := hs
    rw [run_current_bind, if_pos (Token.isDelimiter_headD_iff.2 ⟨us, rfl⟩)]
    simp [run_bind_iff, run_fail_iff]
  · have hne := not_exists.1 hs
    rw [run_refuse_of_ne hne]
    exact (and_iff_right hne).symm

/-- The operator of a token is that of its text, if the token is punctuation. -/
lemma operator?_eq_some_iff {level : Level} {t : Token} {op : Infix} :
    operator? level t = some op ↔ ∃ text, t = .sign text ∧ level.lookup text = some op := by
  obtain ⟨kind, text⟩ := t
  cases kind <;> simp [operator?]

/-- A chain ends where no operator of its level follows. -/
lemma runChain_of_operator?_eq_none {level : Level} {p : Parser Expr} {e : Expr} {ts : List Token}
    (h : ∀ t us, ts = t :: us → operator? level t = none) :
    runChain level p e ts = .ok (e, ts) := by
  cases ts with
  | nil => simp [runChain]
  | cons t us =>
    unfold runChain
    rw [h t us rfl]

/-- A chain past an operator of its level reads an operand and goes on with its loop. -/
lemma runChain_eq_bind {level : Level} {p : Parser Expr} {left : Expr} {text : String} {op : Infix}
    {ts : List Token} (hop : level.lookup text = some op) :
    runChain level p left (.sign text :: ts) =
      p.run ts >>= fun r => runChain level p (op.join left r.1) r.2 := by
  conv => left; unfold runChain
  rw [operator?_eq_some_iff.2 ⟨text, rfl, hop⟩]
  simp only
  split
  · next f hf =>
    rw [hf]
    rfl
  · next right rest hr =>
    rw [hr]
    rfl

/-- A chain goes on past an operator of its level and the operand after it. -/
lemma runChain_of_lookup {level : Level} {p : Parser Expr} {left right : Expr} {text : String}
    {op : Infix} {ts rest : List Token} (hop : level.lookup text = some op)
    (h : p.run ts = .ok (right, rest)) :
    runChain level p left (.sign text :: ts) = runChain level p (op.join left right) rest := by
  rw [runChain_eq_bind hop, h]
  rfl

/-- The end of the arguments is a closing parenthesis and no further argument. -/
lemma run_closeArguments_iff {argument : Parser Expr} {u : Unit} {ts rest : List Token} :
    (closeArguments argument).run ts = .ok (u, rest) ↔ ts = .sign ")" :: rest := by
  simp only [closeArguments, run_bind_iff, run_current_iff]
  refine ⟨?_, ?_⟩
  · intro h
    obtain ⟨t, mid, ⟨rfl, rfl⟩, h⟩ := h
    split at h
    · simp [run_bind_iff, run_fail_iff] at h
    · exact run_expect_iff.1 h
  · rintro rfl
    refine ⟨_, _, ⟨rfl, rfl⟩, ?_⟩
    rw [if_neg (by simp [Token.isDelimiter_iff])]
    exact run_expect_iff.2 rfl

/-- The comma between two parts of a conditional. -/
lemma run_conditionalComma_iff {u : Unit} {ts rest : List Token} :
    conditionalComma.run ts = .ok (u, rest) ↔ ts = .sign "," :: rest := by
  simp only [conditionalComma, run_bind_iff, run_current_iff]
  refine ⟨?_, ?_⟩
  · intro h
    obtain ⟨t, mid, ⟨rfl, rfl⟩, h⟩ := h
    split at h
    · next ht =>
      obtain ⟨ts, rfl⟩ := Token.isDelimiter_headD_iff.1 ht
      rw [run_advance_iff.1 h, List.tail_cons]
    · split at h
      · exact (run_fail_iff.1 h).elim
      · exact (run_fail_iff.1 h).elim
  · rintro rfl
    exact ⟨_, _, ⟨rfl, rfl⟩, by simp [Token.isDelimiter_iff, advance]⟩

/-- A call is a parenthesis with at least one argument. -/
lemma run_call_iff {argument : Parser Expr} {f : Function} {e : Expr} {ts rest : List Token} :
    (call argument f).run ts = .ok (e, rest) ↔
      ∃ us, ts = .sign "(" :: us ∧ (∀ vs, us ≠ .sign ")" :: vs) ∧
        (arguments argument f).run us = .ok (e, rest) := by
  rw [call, run_bind_iff]
  simp only [run_expect_iff]
  refine ⟨?_, ?_⟩
  · intro h
    obtain ⟨_, us, rfl, h⟩ := h
    exact ⟨us, rfl, run_refuse_iff.1 h⟩
  · intro h
    obtain ⟨us, rfl, h⟩ := h
    exact ⟨(), us, rfl, run_refuse_iff.2 h⟩

/-- One argument. -/
lemma run_arguments_one_iff {argument : Parser Expr} {f : Function1} {e : Expr}
    {ts rest : List Token} :
    (arguments argument (.one f)).run ts = .ok (e, rest) ↔
      ∃ a, argument.run ts = .ok (a, .sign ")" :: rest) ∧ e = .call1 f a := by
  simp only [arguments, run_bind_iff, run_closeArguments_iff, run_pure_iff]
  refine ⟨?_, ?_⟩
  · intro h
    obtain ⟨a, mid, ha, _, _, rfl, rfl, rfl⟩ := h
    exact ⟨a, ha, rfl⟩
  · intro h
    obtain ⟨a, ha, rfl⟩ := h
    exact ⟨a, _, ha, (), _, rfl, rfl, rfl⟩

/-- Two arguments. -/
lemma run_arguments_two_iff {argument : Parser Expr} {f : Function2} {e : Expr}
    {ts rest : List Token} :
    (arguments argument (.two f)).run ts = .ok (e, rest) ↔
      ∃ a b us, argument.run ts = .ok (a, .sign "," :: us) ∧
        argument.run us = .ok (b, .sign ")" :: rest) ∧ e = .call2 f a b := by
  simp only [arguments, separator, run_bind_iff, run_expect_iff, run_closeArguments_iff,
    run_pure_iff]
  refine ⟨?_, ?_⟩
  · intro h
    obtain ⟨a, _, ha, _, us, rfl, b, _, hb, _, _, rfl, rfl, rfl⟩ := h
    exact ⟨a, b, us, ha, hb, rfl⟩
  · intro h
    obtain ⟨a, b, us, ha, hb, rfl⟩ := h
    exact ⟨a, _, ha, (), us, rfl, b, _, hb, (), _, rfl, rfl, rfl⟩

/-- Three arguments. -/
lemma run_arguments_numberFormat_iff {argument : Parser Expr} {e : Expr} {ts rest : List Token} :
    (arguments argument .numberFormat).run ts = .ok (e, rest) ↔
      ∃ a b c us vs, argument.run ts = .ok (a, .sign "," :: us) ∧
        argument.run us = .ok (b, .sign "," :: vs) ∧
        argument.run vs = .ok (c, .sign ")" :: rest) ∧ e = .numberFormat a b c := by
  simp only [arguments, separator, run_bind_iff, run_expect_iff, run_closeArguments_iff,
    run_pure_iff]
  refine ⟨?_, ?_⟩
  · intro h
    obtain ⟨a, _, ha, _, us, rfl, b, _, hb, _, vs, rfl, c, _, hc, _, _, rfl, rfl, rfl⟩ := h
    exact ⟨a, b, c, us, vs, ha, hb, hc, rfl⟩
  · intro h
    obtain ⟨a, b, c, us, vs, ha, hb, hc, rfl⟩ := h
    exact ⟨a, _, ha, (), us, rfl, b, _, hb, (), vs, rfl, c, _, hc, (), _, rfl, rfl, rfl⟩

/-- A conditional is a parenthesis with three parts. -/
lemma run_conditional_iff {condition branch : Parser Expr} {e : Expr} {ts rest : List Token} :
    (conditional condition branch).run ts = .ok (e, rest) ↔
      ∃ c yes no us vs ws, ts = .sign "(" :: us ∧ condition.run us = .ok (c, .sign "," :: vs) ∧
        branch.run vs = .ok (yes, .sign "," :: ws) ∧
        branch.run ws = .ok (no, .sign ")" :: rest) ∧ e = .conditional c yes no := by
  refine ⟨?_, ?_⟩
  · intro h
    simp only [conditional, run_bind_iff, run_expect_iff, run_conditionalComma_iff] at h
    obtain ⟨_, us, rfl, c, _, hc, _, vs, rfl, yes, _, hyes, _, ws, rfl, no, mid, hno, h⟩ := h
    obtain ⟨-, h⟩ := run_refuse_iff.1 (run_bind_iff.2 h)
    simp only [run_bind_iff, run_expect_iff, run_pure_iff] at h
    obtain ⟨_, _, rfl, rfl, rfl⟩ := h
    exact ⟨c, yes, no, us, vs, ws, rfl, hc, hyes, hno, rfl⟩
  · intro h
    obtain ⟨c, yes, no, us, vs, ws, rfl, hc, hyes, hno, rfl⟩ := h
    have hend : (do
        if (← current).isDelimiter "," then fail .tooManyArgs
        expect ")" .missingParen
        return Expr.conditional c yes no : Parser Expr).run (.sign ")" :: rest) =
          .ok (.conditional c yes no, rest) := by
      apply run_refuse_iff.2
      refine ⟨by simp, ?_⟩
      exact run_bind_iff.2 ⟨(), rest, run_expect_iff.2 rfl, rfl⟩
    simp only [conditional, run_bind_iff, run_expect_iff, run_conditionalComma_iff]
    exact ⟨(), us, rfl, c, _, hc, (), vs, rfl, yes, _, hyes, (), ws, rfl, no, _, hno,
      run_bind_iff.1 hend⟩

/-- Expressions between parentheses. -/
lemma run_parenthesis_iff {inner : Parser Expr} {e : Expr} {ts rest : List Token} :
    (parenthesis inner).run ts = .ok (e, rest) ↔
      (chain Level.comma inner).run ts.tail = .ok (e, .sign ")" :: rest) := by
  simp only [parenthesis, run_bind_iff, run_advance_iff, run_expect_iff, run_pure_iff]
  refine ⟨?_, ?_⟩
  · intro h
    obtain ⟨_, _, rfl, a, _, h, _, _, rfl, rfl, rfl⟩ := h
    exact h
  · intro h
    exact ⟨(), _, rfl, e, _, h, (), _, rfl, rfl, rfl⟩

/-- Operands joined by the operators of all levels are not followed by an equals sign. -/
lemma run_operation_iff {operand : Parser Expr} {e : Expr} {ts rest : List Token} :
    (operation operand).run ts = .ok (e, rest) ↔
      (Level.operators.foldr chain operand).run ts = .ok (e, rest) ∧
        ∀ us, rest ≠ .sign "=" :: us := by
  rw [operation, run_bind_iff]
  refine ⟨?_, ?_⟩
  · intro h
    obtain ⟨a, mid, ha, h⟩ := h
    obtain ⟨hne, h⟩ := run_refuse_iff.1 h
    obtain ⟨rfl, rfl⟩ := run_pure_iff.1 h
    exact ⟨ha, hne⟩
  · intro h
    obtain ⟨h, hne⟩ := h
    exact ⟨e, rest, h, run_refuse_iff.2 ⟨hne, run_pure_iff.2 ⟨rfl, rfl⟩⟩⟩

/-- Punctuation as an atom opens a parenthesis, or it is a failure. -/
lemma run_atom_sign {s : Scope} {condition inner : Parser Expr} {text : String}
    {ts : List Token} :
    (atom s condition inner).run (.sign text :: ts) =
      if text = "(" then (parenthesis inner).run (.sign text :: ts)
      else if text = ")" ∧ ¬s.inParens then .error ⟨.unbalancedParens, .sign text :: ts⟩
      else .error ⟨.missingArg, .sign text :: ts⟩ := by
  change (if text = "(" then parenthesis inner
    else if text = ")" ∧ ¬s.inParens then fail .unbalancedParens
    else fail .missingArg).run (.sign text :: ts) = _
  simp only [run_ite]
  rfl

/-- Punctuation is an atom only if it opens a parenthesis. -/
lemma run_atom_sign_iff {s : Scope} {condition inner : Parser Expr} {text : String} {e : Expr}
    {ts rest : List Token} :
    (atom s condition inner).run (.sign text :: ts) = .ok (e, rest) ↔
      text = "(" ∧ (chain Level.comma inner).run ts = .ok (e, .sign ")" :: rest) := by
  rw [run_atom_sign]
  split
  · next htext => simp [htext, run_parenthesis_iff]
  · next htext =>
    split
    · simp [htext]
    · simp [htext]

/-- A name as an atom. -/
lemma run_atom_word {s : Scope} {condition inner : Parser Expr} {name : String}
    {ts : List Token} :
    (atom s condition inner).run (.word name :: ts) =
      (identifier s condition inner name).run (.word name :: ts) :=
  rfl

/-- A number as an atom. -/
lemma run_atom_number {s : Scope} {condition inner : Parser Expr} {text : String}
    {ts : List Token} :
    (atom s condition inner).run (⟨.number, text⟩ :: ts) =
      .ok (.const (numberValue text.toList), ts) :=
  rfl

/-- A hexadecimal number as an atom. -/
lemma run_atom_hexNumber {s : Scope} {condition inner : Parser Expr} {text : String}
    {ts : List Token} :
    (atom s condition inner).run (⟨.hexNumber, text⟩ :: ts) =
      .ok (.const (hexValue text.toList), ts) :=
  rfl

/-- What is no lexeme of a formula is no atom. -/
lemma run_atom_unknown_iff {s : Scope} {condition inner : Parser Expr} {text : String} {e : Expr}
    {ts rest : List Token} :
    (atom s condition inner).run (⟨.unknown, text⟩ :: ts) = .ok (e, rest) ↔ False :=
  run_fail_iff

/-- The token past the last one is no atom. -/
lemma run_atom_finished_iff {s : Scope} {condition inner : Parser Expr} {text : String} {e : Expr}
    {ts rest : List Token} :
    (atom s condition inner).run (⟨.finished, text⟩ :: ts) = .ok (e, rest) ↔ False :=
  run_fail_iff

/-- Nothing is no atom. -/
lemma run_atom_nil_iff {s : Scope} {condition inner : Parser Expr} {e : Expr}
    {rest : List Token} :
    (atom s condition inner).run [] = .ok (e, rest) ↔ False :=
  run_fail_iff

/-- A name of the catalogue is a call. -/
lemma run_identifier_function {s : Scope} {condition inner : Parser Expr} {name : String}
    {f : Function} {t : Token} {ts : List Token}
    (h : Catalogue.callee? name = some (.function f)) :
    (identifier s condition inner name).run (t :: ts) = (call inner f).run ts := by
  rw [identifier, h]
  rfl

/-- The names of the conditional. -/
lemma run_identifier_conditional {s : Scope} {condition inner : Parser Expr} {name : String}
    {t : Token} {ts : List Token} (h : Catalogue.callee? name = some .conditional) :
    (identifier s condition inner name).run (t :: ts) = (conditional condition inner).run ts := by
  rw [identifier, h]
  rfl

/-- The names of constants. -/
lemma run_identifier_constant {s : Scope} {condition inner : Parser Expr} {name : String}
    {value : Float} {t : Token} {ts : List Token} (h : Catalogue.callee? name = none)
    (hvalue : Catalogue.constant? name = some value) :
    (identifier s condition inner name).run (t :: ts) = .ok (.const value, ts) := by
  rw [identifier, h, hvalue]
  rfl

/-- The names of parameters. -/
lemma run_identifier_param {s : Scope} {condition inner : Parser Expr} {name : String}
    {slot : Nat} {t : Token} {ts : List Token} (h : Catalogue.callee? name = none)
    (hconst : Catalogue.constant? name = none) (hslot : s.parameters.slot? name = some slot) :
    (identifier s condition inner name).run (t :: ts) = .ok (.param slot, ts) := by
  rw [identifier, h, hconst, hslot]
  rfl

/-- Other names have no meaning. -/
lemma run_identifier_unknown_iff {s : Scope} {condition inner : Parser Expr} {name : String}
    {ts rest : List Token} {e : Expr} (h : Catalogue.callee? name = none)
    (hconst : Catalogue.constant? name = none) (hslot : s.parameters.slot? name = none) :
    (identifier s condition inner name).run ts = .ok (e, rest) ↔ False := by
  rw [identifier, h, hconst, hslot]
  exact run_fail_iff

/-- The parameter that is assigned is the first token, and an equals sign follows it. -/
lemma assigned?_eq_some_iff {s : Scope} {ts : List Token} {slot : Nat} :
    assigned? s ts = some slot ↔
      ∃ name us, ts = .word name :: .sign "=" :: us ∧ s.parameters.slot? name = some slot := by
  refine ⟨?_, ?_⟩
  · intro h
    unfold assigned? at h
    split at h
    · next t eq us =>
      split at h
      · next hk =>
        obtain ⟨kind, text⟩ := t
        obtain ⟨rfl, heq⟩ := hk
        exact ⟨text, us, by rw [Token.isDelimiter_iff.1 heq], h⟩
      · cases h
    · cases h
  · intro h
    obtain ⟨name, us, rfl, h⟩ := h
    simpa [assigned?, Token.isDelimiter_iff] using h

/-- An expression where no assignment starts. -/
lemma run_expression_of_none {allowed : Bool} {room : Nat} {s : Scope} {ts : List Token}
    (h : assigned? s ts = none) :
    (expression allowed (room + 1) s).run ts = (operation (operand allowed room s)).run ts := by
  rw [expression, run_remaining_bind, h]

/-- An expression that assigns to a parameter. -/
lemma run_expression_of_some {allowed : Bool} {room : Nat} {s : Scope} {name : String} {slot : Nat}
    {ts : List Token} (h : s.parameters.slot? name = some slot) :
    (expression allowed (room + 1) s).run (.word name :: .sign "=" :: ts) =
      if s.noAssignment then .error ⟨.conditionalAssignment, .sign "=" :: ts⟩
      else (Expr.assign slot <$> expression allowed room s).run ts := by
  rw [expression, run_remaining_bind, assigned?_eq_some_iff.2 ⟨name, ts, rfl, h⟩]
  cases s.noAssignment with
  | true => rfl
  | false => rfl

/-- An expression is an assignment where one starts, and operands with operators elsewhere. -/
lemma run_expression_iff {allowed : Bool} {room : Nat} {s : Scope} {e : Expr}
    {ts rest : List Token} :
    (expression allowed (room + 1) s).run ts = .ok (e, rest) ↔
      (∃ name us slot v, ts = .word name :: .sign "=" :: us ∧
        s.parameters.slot? name = some slot ∧ s.noAssignment = false ∧
        (expression allowed room s).run us = .ok (v, rest) ∧ e = .assign slot v) ∨
      (assigned? s ts = none ∧ (operation (operand allowed room s)).run ts = .ok (e, rest)) := by
  cases hassigned : assigned? s ts with
  | none =>
    rw [run_expression_of_none hassigned]
    refine ⟨fun h => .inr ⟨rfl, h⟩, ?_⟩
    rintro (⟨name, us, slot, v, rfl, hname, -⟩ | ⟨-, h⟩)
    · cases (assigned?_eq_some_iff.2 ⟨name, us, rfl, hname⟩).symm.trans hassigned
    · exact h
  | some slot =>
    obtain ⟨name, us, rfl, hname⟩ := assigned?_eq_some_iff.1 hassigned
    rw [run_expression_of_some hname]
    refine ⟨?_, ?_⟩
    · intro h
      split at h
      · cases h
      · next hno =>
        obtain ⟨v, _, hv, h⟩ := run_bind_iff.1 h
        obtain ⟨rfl, rfl⟩ := run_pure_iff.1 h
        exact .inl ⟨name, us, slot, v, rfl, hname, by simpa using hno, hv, rfl⟩
    · rintro (⟨name', us', slot', v, hts, hname', hno, hv, rfl⟩ | ⟨h, -⟩)
      · cases hts
        cases hname.symm.trans hname'
        rw [if_neg (by simp [hno])]
        exact run_bind_iff.2 ⟨v, rest, hv, run_pure_iff.2 ⟨rfl, rfl⟩⟩
      · cases h

/-- The prefix operator of a token is that of its text, if the token is punctuation. -/
lemma unaryOperator?_eq_some_iff {t : Token} {op : UnaryOp} :
    unaryOperator? t = some op ↔ ∃ text, t = .sign text ∧ UnaryOp.ofSign? text = some op := by
  obtain ⟨kind, text⟩ := t
  cases kind <;> simp [unaryOperator?]

/-- A plus sign in front of an operand is ignored. -/
lemma run_operand_plus {allowed : Bool} {room : Nat} {s : Scope} {ts : List Token} :
    (operand allowed (room + 1) s).run (.sign "+" :: ts) = (operand allowed room s).run ts :=
  rfl

/-- An operand with a prefix operator. -/
lemma run_operand_prefixed {allowed : Bool} {room : Nat} {s : Scope} {text : String} {op : UnaryOp}
    {ts : List Token} (h : UnaryOp.ofSign? text = some op) :
    (operand allowed (room + 1) s).run (.sign text :: ts) =
      (Expr.unary op <$> operand allowed room s).run ts := by
  have hplus : ¬(Token.sign text).isDelimiter "+" = true := by
    intro ht
    cases Token.isDelimiter_iff.1 ht
    simp [UnaryOp.ofSign?] at h
  rw [operand, run_current_bind, List.headD_cons, if_neg hplus,
    unaryOperator?_eq_some_iff.2 ⟨text, rfl, h⟩]
  rfl

/-- An operand without a prefix operator. -/
lemma run_operand_of_none {allowed : Bool} {room : Nat} {s : Scope} {ts : List Token}
    (hplus : ∀ us, ts ≠ .sign "+" :: us) (hnone : unaryOperator? (ts.headD .finished) = none) :
    (operand allowed (room + 1) s).run ts =
      (atom s (expression allowed room (s.condition allowed))
        (expression allowed room s.parens)).run ts := by
  have hhead : ¬(ts.headD .finished).isDelimiter "+" = true := by
    intro ht
    obtain ⟨us, hus⟩ := Token.isDelimiter_headD_iff.1 ht
    exact hplus us hus
  rw [operand, run_current_bind, if_neg hhead, hnone]

/-- An operand is a prefix operator with its operand, or an atom. -/
lemma run_operand_iff {allowed : Bool} {room : Nat} {s : Scope} {e : Expr}
    {ts rest : List Token} :
    (operand allowed (room + 1) s).run ts = .ok (e, rest) ↔
      (∃ us, ts = .sign "+" :: us ∧ (operand allowed room s).run us = .ok (e, rest)) ∨
      (∃ text op us v, ts = .sign text :: us ∧ UnaryOp.ofSign? text = some op ∧
        (operand allowed room s).run us = .ok (v, rest) ∧ e = .unary op v) ∨
      ((∀ us, ts ≠ .sign "+" :: us) ∧ unaryOperator? (ts.headD .finished) = none ∧
        (atom s (expression allowed room (s.condition allowed))
          (expression allowed room s.parens)).run ts = .ok (e, rest)) := by
  refine ⟨?_, ?_⟩
  · intro h
    by_cases hplus : ∃ us, ts = .sign "+" :: us
    · obtain ⟨us, rfl⟩ := hplus
      rw [run_operand_plus] at h
      exact .inl ⟨us, rfl, h⟩
    · cases hop : unaryOperator? (ts.headD .finished) with
      | some op =>
        obtain ⟨text, htext, hsign⟩ := unaryOperator?_eq_some_iff.1 hop
        obtain ⟨us, rfl⟩ := Token.isDelimiter_headD_iff.1 (Token.isDelimiter_iff.2 htext)
        rw [run_operand_prefixed hsign] at h
        obtain ⟨v, _, hv, h⟩ := run_bind_iff.1 h
        obtain ⟨rfl, rfl⟩ := run_pure_iff.1 h
        exact .inr (.inl ⟨text, op, us, v, rfl, hsign, hv, rfl⟩)
      | none =>
        rw [run_operand_of_none (not_exists.1 hplus) hop] at h
        exact .inr (.inr ⟨not_exists.1 hplus, rfl, h⟩)
  · intro h
    rcases h with ⟨us, rfl, h⟩ | ⟨text, op, us, v, rfl, hsign, hv, rfl⟩ | ⟨hplus, hnone, h⟩
    · rwa [run_operand_plus]
    · rw [run_operand_prefixed hsign]
      exact run_bind_iff.2 ⟨v, rest, hv, rfl⟩
    · rwa [run_operand_of_none hplus hnone]

end Parser

end Formula
