import Formula.Proofs.Parser.Run

/-!
# What a parser has looked at

A parser decides nothing by a token that it has not come to. `Alike` compares the runs over two
lists of tokens that start with the same ones: as long as the first run is among those, the second
is in step with it. The only exception is a parser that has no level of nesting left: whether an
equals sign follows a name has been asked for by then. `Local` has a lemma for each building block
and each construct; the place where it takes an argument is an expression, since it looks at two
tokens.
-/

namespace Formula.Parser

variable {α β : Type} {v w : List Token}

/-- A run is past what the lists have in common, where `v` is left, or it has failed for want of a
level of nesting. -/
def Past (v : List Token) : Except Failure (α × List Token) → Prop
  | .ok (_, rest) => rest <:+ v
  | .error f => f.kind = .malformed ∨ f.rest <:+ v

/-- Two runs over lists that start alike and go on with `v` and with `w`. -/
inductive Alike (v w : List Token) :
    Except Failure (α × List Token) → Except Failure (α × List Token) → Prop where
  | ok {a t us} :
    Alike v w (.ok (a, t :: us ++ v)) (.ok (a, t :: us ++ w))
  | error {kind t us} :
    Alike v w (.error ⟨kind, t :: us ++ v⟩) (.error ⟨kind, t :: us ++ w⟩)
  | past {x y} :
    Past v x →
    Alike v w x y

/-- A parser whose runs are in step as long as they read the same tokens. -/
def Local (p : Parser α) : Prop :=
  ∀ us v w, Alike v w (p.run (us ++ v)) (p.run (us ++ w))

/-- A run that starts past the common tokens stays there. -/
lemma past_run (p : Parser α) {ts : List Token} (h : ts <:+ v) : Past v (p.run ts) := by
  cases hx : p.run ts with
  | ok r => exact (p.suffix_of_ok hx).trans h
  | error f => exact .inr ((p.suffix_of_error hx).trans h)

/-- What follows a run that is past the common tokens is past them. -/
lemma Past.bind {x : Except Failure (α × List Token)} (h : Past v x) (f : α → Parser β) :
    Past v (x >>= fun r => (f r.1).run r.2) := by
  cases x with
  | ok r => exact past_run (f r.1) h
  | error f => exact h

/-- Two parsers one after another are past the common tokens where the first one is. -/
lemma Past.run_bind {p : Parser α} {ts : List Token} (h : Past v (p.run ts)) (f : α → Parser β) :
    Past v ((p >>= f).run ts) := by
  rw [Parser.run_bind]
  exact h.bind f

/-- Runs that go on where runs in step end. -/
lemma Alike.bind {x y : Except Failure (α × List Token)} {f : α → Parser β} (h : Alike v w x y)
    (hf : ∀ a, Local (f a)) :
    Alike v w (x >>= fun r => (f r.1).run r.2) (y >>= fun r => (f r.1).run r.2) := by
  cases h with
  | ok => exact hf _ _ v w
  | error => exact .error
  | past h => exact .past (h.bind f)

/-- Parsers one after another. -/
lemma Local.bind {p : Parser α} {f : α → Parser β} (hp : Local p) (hf : ∀ a, Local (f a)) :
    Local (p >>= f) := by
  intro us v w
  rw [run_bind, run_bind]
  exact (hp us v w).bind hf

/-- It is enough to look at lists that have a token in common. -/
lemma Local.of_cons {p : Parser α}
    (h : ∀ t us v w, Alike v w (p.run (t :: us ++ v)) (p.run (t :: us ++ w))) : Local p := by
  intro us v w
  cases us with
  | nil => exact .past (past_run p (List.suffix_refl v))
  | cons t us => exact h t us v w

/-- A parser that reads nothing. -/
lemma Local.pure (a : α) : Local (Pure.pure a : Parser α) :=
  .of_cons fun _ _ _ _ => .ok

/-- A failing parser. -/
lemma Local.fail (kind : ErrorKind) : Local (Parser.fail kind : Parser α) :=
  .of_cons fun _ _ _ _ => .error

/-- A parser after the current token. -/
lemma Local.advance {p : Parser α} (hp : Local p) :
    Local (do Parser.advance; p) :=
  .of_cons fun _ us v w => hp us v w

/-- A parser that is chosen by the current token. -/
lemma Local.current {f : Token → Parser α} (hf : ∀ t, Local (f t)) :
    Local (Parser.current >>= f) :=
  .of_cons fun t us v w => hf t (t :: us) v w

/-- A choice between parsers. -/
lemma Local.ite {c : Prop} [Decidable c] {p q : Parser α} (hp : Local p) (hq : Local q) :
    Local (if c then p else q) := by
  split
  · exact hp
  · exact hq

/-- A parser whose value is changed. -/
lemma Local.map {p : Parser α} (hp : Local p) (f : α → β) : Local (f <$> p) :=
  hp.bind fun a => .pure (f a)

/-- Expected punctuation. -/
lemma Local.expect (text : String) (kind : ErrorKind) : Local (Parser.expect text kind) :=
  .current fun _ => .ite (Local.advance (.pure ())) (.fail kind)

/-- A parser that refuses some punctuation at the current token. -/
lemma Local.refuse {text : String} {kind : ErrorKind} {p : Parser α} (hp : Local p) :
    Local (do
      if (← Parser.current).isDelimiter text then Parser.fail kind
      p) :=
  .current fun _ => .ite (Local.bind (.fail kind) fun _ => hp) hp

section
variable {argument condition branch inner operand : Parser Expr} {s : Scope}

/-- The end of the arguments, or one argument too many. -/
lemma Local.closeArguments (h : Local argument) : Local (Parser.closeArguments argument) :=
  .current fun _ => .ite (Local.advance (h.bind fun _ => .fail _)) (.expect ")" _)

/-- The arguments of a function. -/
lemma Local.arguments (h : Local argument) (f : Function) :
    Local (Parser.arguments argument f) := by
  have hseparator : Local Parser.separator := .expect "," .insufficientArgs
  cases f with
  | one f => exact h.bind fun a => (closeArguments h).bind fun _ => .pure _
  | two f =>
    exact h.bind fun a => hseparator.bind fun _ => h.bind fun b =>
      (closeArguments h).bind fun _ => .pure _
  | numberFormat =>
    exact h.bind fun a => hseparator.bind fun _ => h.bind fun b => hseparator.bind fun _ =>
      h.bind fun c => (closeArguments h).bind fun _ => .pure _

/-- A call, after the name of the function. -/
lemma Local.call (h : Local argument) (f : Function) : Local (Parser.call argument f) :=
  (Local.expect "(" _).bind fun _ => (arguments h f).refuse

/-- A conditional, after its name. -/
lemma Local.conditional (hc : Local condition) (hb : Local branch) :
    Local (Parser.conditional condition branch) := by
  have hcomma : Local conditionalComma :=
    .current fun _ => .ite (Local.advance (.pure ())) (.ite (.fail _) (.fail _))
  refine (Local.expect "(" _).bind fun _ => hc.bind fun c => hcomma.bind fun _ => ?_
  refine hb.bind fun yes => hcomma.bind fun _ => hb.bind fun no => Local.refuse ?_
  exact (Local.expect ")" _).bind fun _ => .pure _

/-- A name. -/
lemma Local.identifier (hc : Local condition) (hi : Local inner) (name : String) :
    Local (Parser.identifier s condition inner name) := by
  unfold Parser.identifier
  split
  · exact (call hi _).advance
  · exact (conditional hc hi).advance
  · split
    · exact (Local.pure _).advance
    · split
      · exact (Local.pure _).advance
      · exact .fail _

/-- The loop of a chain. -/
lemma Local.chainFrom (h : Local operand) (level : Level) (left : Expr) :
    Local (Parser.chainFrom level operand left) := by
  intro us v w
  change Alike v w (runChain level operand left (us ++ v)) (runChain level operand left (us ++ w))
  induction hlength : us.length using Nat.strongRecOn generalizing left us with
  | ind length ih =>
    cases us with
    | nil => exact .past (past_run (Parser.chainFrom level operand left) (List.suffix_refl v))
    | cons t us =>
      cases hop : operator? level t with
      | none =>
        have hnone (x : List Token) :
            ∀ t' us', t :: us ++ x = t' :: us' → operator? level t' = none := by
          rintro t' us' heq
          cases heq
          exact hop
        rw [runChain_of_operator?_eq_none (hnone v), runChain_of_operator?_eq_none (hnone w)]
        exact .ok
      | some op =>
        obtain ⟨text, rfl, hlookup⟩ := operator?_eq_some_iff.1 hop
        rw [List.cons_append, List.cons_append, runChain_eq_bind hlookup, runChain_eq_bind hlookup]
        have hoperand := h us v w
        generalize hx : operand.run (us ++ v) = x at hoperand
        generalize operand.run (us ++ w) = y at hoperand
        cases hoperand with
        | @ok right t us' =>
          have hle := (operand.suffix_of_ok hx).length_le
          simp only [List.length_append, List.length_cons] at hle hlength
          exact ih (t :: us').length (by simp only [List.length_cons]; omega) _ _ rfl
        | error => exact .error
        | past hpast =>
          exact .past (hpast.bind fun right => Parser.chainFrom level operand (op.join left right))

/-- Operands separated by the operators of a level. -/
lemma Local.chain (h : Local operand) (level : Level) : Local (Parser.chain level operand) :=
  h.bind fun left => chainFrom h level left

/-- Operands joined by the operators of all levels. -/
lemma Local.operation (h : Local operand) : Local (Parser.operation operand) := by
  have hchains (levels : List Level) : Local (levels.foldr Parser.chain operand) := by
    induction levels with
    | nil => exact h
    | cons level levels ih => exact ih.chain level
  exact (hchains _).bind fun e => (Local.pure e).refuse

/-- Expressions between parentheses. -/
lemma Local.parenthesis (h : Local inner) : Local (Parser.parenthesis inner) :=
  Local.advance ((h.chain Level.comma).bind fun e => (Local.expect ")" _).bind fun _ => .pure e)

/-- An operand without a prefix operator. -/
lemma Local.atom (hc : Local condition) (hi : Local inner) :
    Local (Parser.atom s condition inner) := by
  refine .current fun t => ?_
  split
  · exact .ite (parenthesis hi) (.ite (.fail _) (.fail _))
  · exact .fail _
  · exact .fail _
  · exact identifier hc hi _
  · exact (Local.pure _).advance
  · exact (Local.pure _).advance

/-- An operand that starts with the name of a parameter is past the name, unless it has no level of
nesting left. -/
lemma past_operand {allowed : Bool} {room : Nat} {name : String} {slot : Nat}
    (h : s.parameters.slot? name = some slot) :
    Past v ((Parser.operand allowed room s).run (.word name :: v)) := by
  cases room with
  | zero => exact .inl rfl
  | succ room =>
    change Past v ((Parser.identifier s (expression allowed room (s.condition allowed))
      (expression allowed room s.parens) name).run (.word name :: v))
    unfold Parser.identifier
    split
    · exact past_run (Parser.call _ _) (List.suffix_refl v)
    · exact past_run (Parser.conditional _ _) (List.suffix_refl v)
    · split
      · exact past_run (Pure.pure _) (List.suffix_refl v)
      · rw [h]
        exact past_run (Pure.pure _) (List.suffix_refl v)

/-- Operands joined by operators are past what their first operand is past. -/
lemma past_operation {ts : List Token} (h : Past v (operand.run ts)) :
    Past v ((Parser.operation operand).run ts) := by
  have hchains (levels : List Level) : Past v ((levels.foldr Parser.chain operand).run ts) := by
    induction levels with
    | nil => exact h
    | cons level levels ih => exact ih.run_bind _
  exact (hchains _).run_bind _

/-- An expression that starts with the name of a parameter is past the name, unless it has no level
of nesting left. -/
lemma past_expression {allowed : Bool} {room : Nat} {name : String} {slot : Nat}
    (h : s.parameters.slot? name = some slot) :
    Past v ((expression allowed (room + 1) s).run (.word name :: v)) := by
  cases hassigned : assigned? s (.word name :: v) with
  | none =>
    rw [run_expression_of_none hassigned]
    exact past_operation (past_operand h)
  | some slot =>
    obtain ⟨_, us, heq, -⟩ := assigned?_eq_some_iff.1 hassigned
    obtain ⟨-, rfl⟩ := List.cons.inj heq
    rw [run_expression_of_some h]
    split
    · exact .inr (List.suffix_refl _)
    · exact past_run (Expr.assign _ <$> expression allowed room s) (List.suffix_cons _ us)

/-- An expression with one more level of nesting left. -/
lemma Local.expression_succ {allowed : Bool} {room : Nat} (he : Local (expression allowed room s))
    (ho : Local (Parser.operand allowed room s)) : Local (expression allowed (room + 1) s) := by
  refine .of_cons fun t us v w => ?_
  have hoperation := operation ho (t :: us) v w
  cases us with
  | nil =>
    -- The next token is not a common one, so a name of a parameter is looked at beyond them.
    by_cases hname : ∃ name slot, t = .word name ∧ s.parameters.slot? name = some slot
    · obtain ⟨name, slot, rfl, hslot⟩ := hname
      exact .past (past_expression hslot)
    · have hnone (x : List Token) : assigned? s (t :: x) = none := by
        cases hassigned : assigned? s (t :: x) with
        | none => rfl
        | some slot =>
          obtain ⟨name, us, heq, hslot⟩ := assigned?_eq_some_iff.1 hassigned
          exact absurd ⟨name, slot, (List.cons.inj heq).1, hslot⟩ hname
      rw [List.singleton_append, List.singleton_append] at hoperation ⊢
      rwa [run_expression_of_none (hnone v), run_expression_of_none (hnone w)]
  | cons u us =>
    have hassigned (x : List Token) : assigned? s (t :: u :: us ++ x) = assigned? s [t, u] := rfl
    cases htwo : assigned? s [t, u] with
    | none =>
      rwa [run_expression_of_none ((hassigned v).trans htwo),
        run_expression_of_none ((hassigned w).trans htwo)]
    | some slot =>
      obtain ⟨name, _, heq, hslot⟩ := assigned?_eq_some_iff.1 htwo
      cases heq
      simp only [List.cons_append]
      rw [run_expression_of_some hslot, run_expression_of_some hslot]
      split
      · change Alike v w (.error ⟨_, .sign "=" :: us ++ v⟩) (.error ⟨_, .sign "=" :: us ++ w⟩)
        exact .error
      · exact he.map (Expr.assign slot) us v w

/-- An operand with one more level of nesting left. -/
lemma Local.operand_succ {allowed : Bool} {room : Nat}
    (he : ∀ s, Local (expression allowed room s)) (ho : Local (Parser.operand allowed room s)) :
    Local (Parser.operand allowed (room + 1) s) := by
  rw [Parser.operand]
  refine .current fun t => .ite ho.advance ?_
  split
  · exact (ho.map _).advance
  · exact atom (he _) (he _)

end

/-- Expressions and operands, whatever number of levels of nesting they have left. -/
lemma local_of_room (allowed : Bool) (room : Nat) :
    (∀ s, Local (expression allowed room s)) ∧ ∀ s, Local (operand allowed room s) := by
  induction room with
  | zero => exact ⟨fun _ => .fail _, fun _ => .fail _⟩
  | succ room ih =>
    obtain ⟨he, ho⟩ := ih
    exact ⟨fun s => (he s).expression_succ (ho s), fun s => .operand_succ he (ho s)⟩

/-- A whole body. -/
lemma local_body (allowed : Bool) (ps : Parameters) : Local (body allowed ps) :=
  ((local_of_room allowed maxNesting).1 _).bind fun _ => .of_cons fun _ _ _ _ => .error

/-- A body that fails at some token fails there in the same way whatever comes after the token,
unless it has no level of nesting left or the token is of no use after a whole expression. -/
lemma run_body_of_error {allowed : Bool} {ps : Parameters} {kind : ErrorKind} {us : List Token}
    {t : Token} (h : (body allowed ps).run (us ++ t :: v) = .error ⟨kind, t :: v⟩)
    (hkind : kind ≠ .malformed) (w : List Token) :
    (body allowed ps).run (us ++ t :: w) = .error ⟨kind, t :: w⟩ := by
  have halike := local_body allowed ps (us ++ [t]) v w
  rw [List.append_assoc, List.append_assoc, List.singleton_append, List.singleton_append, h]
    at halike
  generalize hx : (Except.error ⟨kind, t :: v⟩ : Except Failure (Expr × List Token)) = x at halike
  generalize (body allowed ps).run (us ++ t :: w) = y at halike
  cases halike with
  | ok => cases hx
  | error =>
    simp only [Except.error.injEq, Failure.mk.injEq, List.cons_append, List.cons.injEq,
      List.self_eq_append_left] at hx
    obtain ⟨rfl, rfl, rfl⟩ := hx
    rfl
  | past hpast =>
    subst hx
    rcases hpast with hmalformed | hsuffix
    · exact absurd hmalformed hkind
    · have hle := hsuffix.length_le
      rw [List.length_cons] at hle
      omega

end Formula.Parser
