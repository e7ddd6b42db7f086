import Formula.Proofs.Compile
import Formula.Proofs.OnePass.Relation

/-!
# Agreement of the one-pass compiler

The compiler that works in one pass and the parser of bodies stand at the same token all the way.
Where the parser has an expression the action has written its steps (`Follows`), and where the
parser fails the action stops at the same token with the same kind. There is one lemma for each
construct. From the one for bodies it follows that the compilers agree (`compile_eq`), diagnostics
included.
-/

namespace Formula

/-- Every function has an argument. -/
lemma Function.arity_pos (f : Function) : 0 < f.arity := by
  cases f with
  | one => exact Nat.zero_lt_one
  | two => exact Nat.zero_lt_two
  | numberFormat => exact Nat.zero_lt_succ 2

/-- The steps of two operands joined. -/
lemma Infix.steps_join (op : Infix) (l r : Expr) (next : Nat) :
    ((op.join l r).steps next).1 =
      (l.steps next).1 ++ op.stepsBefore (l.steps next).2 ++
        (r.steps ((l.steps next).2 + (op.stepsBefore (l.steps next).2).count .label)).1 ++
          op.stepsAfter (l.steps next).2 := by
  cases op <;> simp [join, Expr.steps, stepsBefore, stepsAfter]

namespace OnePass

open Formula.Parser

/-- A loop ends where no operator of its level follows. -/
lemma runChain_of_operator?_eq_none {level : Level} {x : Action Unit} {s : State}
    (h : operator? level s.current = none) : runChain level x s = .ok ((), s) := by
  unfold runChain
  split
  · rfl
  · next op hop => cases h.symm.trans hop

/-- A loop goes on past an operator of its level. -/
lemma runChain_eq_bind {level : Level} {x : Action Unit} {s : State} {op : Infix}
    (h : operator? level s.current = some op) :
    runChain level x s =
      x.run (s.write (op.stepsBefore s.labels)).next >>= fun r =>
        runChain level x (r.2.write (op.stepsAfter s.labels)) := by
  conv => left; unfold runChain
  split
  · next hnone => cases h.symm.trans hnone
  · next op' hop =>
    cases h.symm.trans hop
    split
    · next stop hstop =>
      rw [hstop]
      rfl
    · next s' hs' =>
      rw [hs']
      rfl

section
variable {allowed : Bool} {ps : Parameters} {slack : Nat} {p : Scope → Parser Expr}
  {x : Action Unit} {L : List String} {s s₀ : State} {ts : List Token}

/-- The loop of a chain, when the steps of the expression so far are written. -/
lemma Follows.runChain (h : Follows allowed ps slack p x) (level : Level) {left : Expr}
    (hs : Stands L 0 s ts) (hleft : Wrote s₀ (left.steps s₀.labels).1 s) :
    Agrees L (Written L s₀) (Parser.runChain level (p (s₀.scope allowed ps)) left ts)
      (OnePass.runChain level x s) := by
  induction hlength : ts.length using Nat.strongRecOn generalizing left s ts with
  | ind length ih =>
    cases hop : operator? level s.current with
    | none =>
      have hnone : ∀ t us, ts = t :: us → operator? level t = none := by
        rintro t us rfl
        rwa [hs.current_eq] at hop
      rw [Parser.runChain_of_operator?_eq_none hnone, runChain_of_operator?_eq_none hop]
      exact .ok ⟨hs, hleft⟩
    | some op =>
      obtain ⟨text, htext, hlookup⟩ := operator?_eq_some_iff.1 hop
      rw [hs.current_eq] at htext
      obtain ⟨us, rfl⟩ := Token.isDelimiter_headD_iff.1 (Token.isDelimiter_iff.2 htext)
      rw [Parser.runChain_eq_bind hlookup, runChain_eq_bind hop]
      have hbefore := (hleft.write (op.stepsBefore s.labels)).next
      have hnext : Stands L 0 (s.write (op.stepsBefore s.labels)).next us :=
        (hs.congr rfl rfl : Stands L 0 (s.write (op.stepsBefore s.labels)) _).next (Nat.zero_le 1)
      have hoperand := h (hnext.weaken (Nat.zero_le _))
      rw [hbefore.scope_eq] at hoperand
      refine hoperand.bind fun right rest s' hrun hright => ?_
      have hlength' := ((p _).suffix_of_ok hrun).length_le
      rw [List.length_cons] at hlength
      refine ih rest.length (by omega) (hright.stands.congr rfl rfl) ?_ rfl
      -- The labels of the right operand are numbered on from those of the left one.
      have hlabels : s.labels = (left.steps s₀.labels).2 :=
        hleft.labels_eq.trans (left.steps_snd _).symm
      have hright' := hright.wrote
      rw [hbefore.labels_eq, List.count_append, ← Nat.add_assoc, ← left.steps_snd, ← hlabels]
        at hright'
      rw [op.steps_join, ← hlabels]
      exact (hbefore.trans hright').write _

/-- Operands separated by the operators of a level. -/
lemma Follows.chain (h : Follows allowed ps slack p x) (level : Level) :
    Follows allowed ps slack (fun sc => Parser.chain level (p sc)) (OnePass.chain level x) := by
  intro L s ts hs
  refine (h hs).run_bind fun left rest s' hleft => ?_
  exact h.runChain level hleft.stands hleft.wrote

/-- Operands joined by the operators of all levels. -/
lemma Follows.operation (h : Follows allowed ps slack p x) :
    Follows allowed ps slack (fun sc => Parser.operation (p sc)) (OnePass.operation x) := by
  have hchains (levels : List Level) :
      Follows allowed ps slack (fun sc => levels.foldr Parser.chain (p sc))
        (levels.foldr OnePass.chain x) := by
    induction levels with
    | nil => exact h
    | cons level levels ih => exact ih.chain level
  intro L s ts hs
  refine (hchains _ hs).run_bind fun e rest s' he => ?_
  exact he.stands.refuse (Nat.zero_le 1) (.ok he)

/-- An argument and the push after it. -/
lemma Follows.argument {R : Expr → List Token → State → Prop} {f : Expr → Parser Expr} {asked : Nat}
    (h : Follows allowed ps 0 p x) (hs : Stands L 0 s ts)
    (hf : ∀ a rest s', Stands L 0 s' rest → Wrote s ((a.steps s.labels).1 ++ [.push]) s' →
      Agrees L R ((f a).run rest) ((moreArguments (OnePass.arguments x asked) asked).run s')) :
    Agrees L R ((p (s.scope allowed ps) >>= f).run ts) ((OnePass.arguments x (asked + 1)).run s) :=
  (h hs).run_bind fun a rest _ ha =>
    hf a rest _ (ha.stands.congr rfl rfl) (ha.wrote.write [.push])

/-- The comma before an argument that is still asked for. -/
lemma Follows.nextArgument {R : Expr → List Token → State → Prop} {f : Unit → Parser Expr}
    {further : Action Unit} {asked : Nat} (hs : Stands L 0 s ts)
    (hf : ∀ rest, Stands L 0 s.next rest → Agrees L R ((f ()).run rest) (further.run s.next)) :
    Agrees L R ((Parser.separator >>= f).run ts) ((moreArguments further (asked + 1)).run s) := by
  rw [moreArguments, Action.run_state_bind, Parser.separator, Parser.run_bind, Parser.expect,
    run_current_bind, hs.isDelimiter_eq, Parser.run_ite, Action.run_ite]
  split
  · next hat =>
    obtain ⟨rest, rfl⟩ := hs.isAt_iff.1 hat
    exact hf rest (hs.next (Nat.zero_le 1))
  · exact .error (hs.weaken (Nat.zero_le 1))

/-- What follows the last argument that is asked for. -/
lemma Follows.lastArgument {R : Expr → List Token → State → Prop} (h : Follows allowed ps 0 p x)
    (hs : Stands L 0 s ts) {e : Expr} (hR : ∀ rest, Stands L 0 s (.sign ")" :: rest) → R e rest s) :
    Agrees L R
      ((do
        Parser.closeArguments (p (s.scope allowed ps))
        return e).run ts)
      ((moreArguments (OnePass.arguments x 0) 0).run s) := by
  refine Agrees.map (R := fun _ rest s' => ts = .sign ")" :: rest ∧ s = s') ?_ (fun _ => e) ?_
  · rw [moreArguments, Action.run_state_bind, Parser.closeArguments, run_current_bind,
      hs.isDelimiter_eq, Parser.run_ite, Action.run_ite]
    split
    · next hat =>
      obtain ⟨rest, rfl⟩ := hs.isAt_iff.1 hat
      have hnext := h (hs.next (Nat.zero_le 1))
      exact hnext.run_bind (f := fun _ => Parser.fail .tooManyArgs)
        (g := fun _ => Action.fail .tooManyArgs)
        fun _ _ _ ha => .error (ha.stands.weaken (Nat.zero_le 1))
    · exact hs.require (Nat.zero_le 1) ")" .missingParen
  · rintro _ rest _ ⟨rfl, rfl⟩
    exact hR rest hs

/-- The arguments of a function. The parser goes past the closing parenthesis. -/
lemma Follows.arguments (h : Follows allowed ps 0 p x) (f : Function) (hs : Stands L 0 s ts) :
    Agrees L (fun e rest s' => Closes L s e rest (s'.write [.short (.call f)]))
      ((Parser.arguments (p (s.scope allowed ps)) f).run ts)
      ((OnePass.arguments x f.arity).run s) := by
  cases f with
  | one f =>
    refine h.argument hs fun a rest s₁ hs₁ hw₁ => ?_
    rw [← hw₁.scope_eq]
    refine h.lastArgument hs₁ fun rest hrest => ⟨hrest.congr rfl rfl, ?_⟩
    simpa [Expr.steps] using hw₁.write [.short (.call (.one f))]
  | two f =>
    refine h.argument hs fun a rest s₁ hs₁ hw₁ => Follows.nextArgument hs₁ fun rest hs₂ => ?_
    have hw₂ := hw₁.next
    rw [← hw₂.scope_eq]
    refine h.argument hs₂ fun b rest s₃ hs₃ hw₃ => ?_
    rw [← hw₃.scope_eq]
    refine h.lastArgument hs₃ fun rest hrest => ⟨hrest.congr rfl rfl, ?_⟩
    have hw₄ := (hw₂.trans hw₃).write [.short (.call (.two f))]
    simpa [Expr.steps, hw₂.labels_eq, a.steps_snd] using hw₄
  | numberFormat =>
    refine h.argument hs fun a rest s₁ hs₁ hw₁ => Follows.nextArgument hs₁ fun rest hs₂ => ?_
    have hw₂ := hw₁.next
    rw [← hw₂.scope_eq]
    refine h.argument hs₂ fun b rest s₃ hs₃ hw₃ => Follows.nextArgument hs₃ fun rest hs₄ => ?_
    have hw₄ := hw₃.next
    rw [← hw₄.scope_eq]
    refine h.argument hs₄ fun c rest s₅ hs₅ hw₅ => ?_
    rw [← hw₅.scope_eq]
    refine h.lastArgument hs₅ fun rest hrest => ⟨hrest.congr rfl rfl, ?_⟩
    have hw₆ := ((hw₂.trans hw₄).trans hw₅).write [.short (.call .numberFormat)]
    simpa [Expr.steps, hw₂.labels_eq, hw₄.labels_eq, a.steps_snd, b.steps_snd] using hw₆

/-- A call. The parser starts after the name of the function, at which the action stands. -/
lemma Follows.call {t : Token} (h : Follows allowed ps 0 p x) (f : Function)
    (hs : Stands L slack s (t :: ts)) (hslack : slack ≤ 1) :
    Agrees L (Closes L s) ((Parser.call (p (s.scope allowed ps).parens) f).run ts)
      ((OnePass.call x f).run s) := by
  have hname := hs.next hslack
  rw [Parser.call, OnePass.call, Action.run_advance_bind]
  refine (hname.require (Nat.zero_le 1) "(" .missingParen).run_bind ?_
  rintro _ rest _ ⟨rfl, rfl⟩
  have hfirst : Stands L 0 s.next.openParen.next rest :=
    (hname.congr rfl rfl : Stands L 0 s.next.openParen _).next (Nat.zero_le 1)
  have hscope : s.next.openParen.next.scope allowed ps = (s.scope allowed ps).parens :=
    State.scope_openParen allowed ps s
  rw [← hscope, run_current_bind, hfirst.isDelimiter_eq, Action.run_openParen_bind,
    Action.run_advance_bind, Action.run_state_bind]
  by_cases hat : s.next.openParen.next.isAt ")" = true
  · rw [if_pos hat, if_pos hat, if_pos f.arity_pos]
    exact .error (hfirst.weaken (Nat.zero_le 1))
  · rw [if_neg hat, if_neg hat]
    refine (h.arguments f hfirst).andThen (fun s' => s'.closeParen.write [.short (.call f)]) ?_
    intro e rest s' he
    have hwrote : Wrote s.openParen.next _ _ := he.wrote.of_next
    exact ⟨he.stands.congr rfl rfl, hwrote.of_next.closeParen⟩

/-- A part after a comma, when steps were written since some state. -/
lemma Follows.part {t : Token} {steps : List Step} (h : Follows allowed ps 0 p x)
    (hs : Stands L 0 s (t :: ts)) (hw : Wrote s₀ steps s) :
    Agrees L
      (fun e rest s' => Stands L 0 s' rest ∧ Wrote s₀ (steps ++ (e.steps s.labels).1) s' ∧
        s'.labels = (e.steps s.labels).2)
      ((p (s₀.scope allowed ps)).run ts) (x.run s.next) := by
  have hpart := h (hs.next (Nat.zero_le 1))
  rw [hw.next.scope_eq] at hpart
  exact hpart.imp fun e rest s' he => ⟨he.stands, hw.next.trans he.wrote, he.labels_eq⟩

/-- A conditional. The parser starts after its name, at which the action stands. -/
lemma Follows.conditional {t : Token} (h : Follows allowed ps 0 p x)
    (hs : Stands L slack s (t :: ts)) (hslack : slack ≤ 1) :
    Agrees L (Closes L s)
      ((Parser.conditional (p ((s.scope allowed ps).condition allowed))
        (p (s.scope allowed ps).parens)).run ts)
      ((OnePass.conditional x).run s) := by
  have hname := hs.next hslack
  rw [Parser.conditional, OnePass.conditional, Action.run_advance_bind]
  refine (hname.require (Nat.zero_le 1) "(" .missingParen).run_bind ?_
  rintro _ rest _ ⟨rfl, rfl⟩
  have hfirst : Stands L 0 s.next.openParen.next rest :=
    (hname.congr rfl rfl : Stands L 0 s.next.openParen _).next (Nat.zero_le 1)
  rw [Action.run_openParen_bind, Action.run_advance_bind, Action.run_openCondition_bind]
  have hcondition := h (hfirst.congr rfl rfl : Stands L 0 s.next.openParen.next.openCondition rest)
  have hscope : s.next.openParen.next.openCondition.scope allowed ps =
    (s.scope allowed ps).condition allowed := State.scope_openCondition allowed ps s
  rw [hscope] at hcondition
  refine hcondition.run_bind fun c rest₁ s₁ hc => ?_
  rw [Action.run_closeCondition_bind]
  have hs₁ : Stands L 0 s₁.closeCondition rest₁ := hc.stands.congr rfl rfl
  refine (hs₁.conditionalComma (Nat.zero_le 1)).run_bind ?_
  rintro _ rest₂ _ ⟨rfl, rfl⟩
  have hwc : Wrote s.openParen.next (c.steps s.labels).1 s₁.closeCondition :=
    hc.wrote.closeCondition.of_next
  rw [Action.run_newLabel_bind, Action.run_write_bind, Action.run_advance_bind,
    ← State.scope_openParen]
  refine (h.part ((hs₁.write _).write _) ((hwc.of_next.write _).write _)).run_bind ?_
  rintro yes rest₂ s₂ ⟨hs₂, hwy, hlabels₂⟩
  refine (hs₂.conditionalComma (Nat.zero_le 1)).run_bind ?_
  rintro _ rest₂ _ ⟨rfl, rfl⟩
  rw [Action.run_newLabel_bind, Action.run_write_bind, Action.run_advance_bind]
  refine (h.part ((hs₂.write _).write _) ((hwy.write _).write _)).run_bind ?_
  rintro no rest₃ s₃ ⟨hs₃, hwn, -⟩
  refine hs₃.refuse (Nat.zero_le 1) ?_
  refine (hs₃.require (Nat.zero_le 1) ")" .missingParen).run_bind ?_
  rintro _ rest₃ _ ⟨rfl, rfl⟩
  refine .ok ⟨hs₃.congr rfl rfl, ?_⟩
  have hw := (hwn.write [.post s₂.labels]).closeParen
  have hlabels₁ : s₁.closeCondition.labels = (c.steps s.labels).2 := hc.labels_eq
  simpa [Expr.steps, State.labels_write, hlabels₁, hlabels₂] using hw

/-- An atom that ends at the current token. -/
lemma Stands.leaf {t : Token} {e : Expr} {step : Step} (hs : Stands L slack s (t :: ts))
    (hslack : slack ≤ 1) (he : (e.steps s.labels).1 = [step]) :
    Agrees L (Written L s) (.ok (e, ts)) (.ok ((), (s.write [step]).next)) :=
  .ok ⟨(hs.write [step]).next hslack, he ▸ ((Wrote.refl s).write [step]).next⟩

/-- A name. -/
lemma Follows.identifier {name : String} (h : Follows allowed ps 0 p x)
    (hs : Stands L slack s (.word name :: ts)) (hslack : slack ≤ 1) :
    Agrees L (Written L s)
      ((Parser.identifier (s.scope allowed ps) (p ((s.scope allowed ps).condition allowed))
        (p (s.scope allowed ps).parens) name).run (.word name :: ts))
      ((OnePass.identifier ps x name).run s) := by
  have hclosed (e : Expr) (rest : List Token) (s' : State) (he : Closes L s e rest s') :
      Written L s e rest s'.next := ⟨he.stands.next (Nat.zero_le 1), he.wrote.next⟩
  unfold OnePass.identifier
  cases hcallee : Catalogue.callee? name with
  | some callee =>
    cases callee with
    | function f =>
      rw [run_identifier_function hcallee]
      exact (h.call f hs hslack).andThen State.next hclosed
    | conditional =>
      rw [run_identifier_conditional hcallee]
      exact (h.conditional hs hslack).andThen State.next hclosed
  | none =>
    cases hconst : Catalogue.constant? name with
    | some value =>
      rw [run_identifier_constant hcallee hconst]
      exact hs.leaf hslack rfl
    | none =>
      cases hslot : ps.slot? name with
      | some slot =>
        rw [run_identifier_param hcallee hconst hslot]
        exact hs.leaf hslack rfl
      | none =>
        have hunknown : (s.scope allowed ps).parameters.slot? name = none := hslot
        simp only [Parser.identifier, hcallee, hconst, hunknown]
        exact .error (hs.weaken hslack)

/-- Expressions between parentheses. -/
lemma Follows.parenthesis (h : Follows allowed ps 0 p x)
    (hs : Stands L slack s (.sign "(" :: ts)) (hslack : slack ≤ 1) :
    Agrees L (Written L s)
      ((Parser.parenthesis (p (s.scope allowed ps).parens)).run (.sign "(" :: ts))
      ((OnePass.parenthesis x).run s) := by
  have hfirst : Stands L 0 s.openParen.next ts :=
    (hs.congr rfl rfl : Stands L slack s.openParen _).next hslack
  have hchain := h.chain Level.comma hfirst
  have hscope : s.openParen.next.scope allowed ps = (s.scope allowed ps).parens :=
    State.scope_openParen allowed ps s
  rw [hscope] at hchain
  rw [OnePass.parenthesis, Action.run_openParen_bind, Action.run_advance_bind]
  refine hchain.run_bind fun e rest s' he => ?_
  refine (he.stands.require (Nat.zero_le 1) ")" .missingParen).run_bind ?_
  rintro _ rest _ ⟨rfl, rfl⟩
  have hclose : Stands L 0 s'.closeParen (.sign ")" :: rest) := he.stands.congr rfl rfl
  exact .ok ⟨hclose.next (Nat.zero_le 1), he.wrote.of_next.closeParen.next⟩

/-- An operand without a prefix operator. -/
lemma Follows.atom (h : Follows allowed ps 0 p x) (hslack : slack ≤ 1) :
    Follows allowed ps slack (fun sc => Parser.atom sc (p (sc.condition allowed)) (p sc.parens))
      (OnePass.atom ps x) := by
  intro L s ts hs
  rw [OnePass.atom, Action.run_state_bind]
  cases ts with
  | nil =>
    rw [hs.current_eq]
    exact .error (hs.weaken hslack)
  | cons t ts =>
    have hcurrent : s.current = t := hs.current_eq
    rw [hcurrent]
    obtain ⟨kind, text⟩ := t
    cases kind with
    | delimiter =>
      have hat (sign : String) : s.isAt sign = true ↔ text = sign := by
        rw [State.isAt, hcurrent, Token.isDelimiter_iff]
        simp
      have hclose : (s.isAt ")" && s.openParens == 0) = true ↔
          text = ")" ∧ ¬(s.scope allowed ps).inParens = true := by
        rw [Bool.and_eq_true, hat]
        simp [State.scope]
      simp only [run_atom_sign, Action.run_ite, hat, hclose]
      split
      · next htext =>
        subst htext
        exact h.parenthesis hs hslack
      · split
        · exact .error (hs.weaken hslack)
        · exact .error (hs.weaken hslack)
    | identifier => exact h.identifier hs hslack
    | number => exact hs.leaf hslack rfl
    | hexNumber => exact hs.leaf hslack rfl
    | unknown => exact .error (hs.weaken hslack)
    | finished => exact .error (hs.weaken hslack)

/-- The parameter that is assigned shows in the current token and the one after it. -/
lemma slot?_eq_some_iff {t : Token} {slot : Nat} :
    slot? ps t = some slot ↔ ∃ name, t = .word name ∧ ps.slot? name = some slot := by
  obtain ⟨kind, text⟩ := t
  cases kind <;> simp [slot?]

/-- An expression after one token, of which one step makes another expression. -/
lemma Follows.wrap {slack' : Nat} {t : Token} {f : Expr → Expr} {step : Step}
    (h : Follows allowed ps slack p x) (hs : Stands L slack' s (t :: ts)) (hslack : slack' ≤ 1)
    (hf : ∀ e next, ((f e).steps next).1 = (e.steps next).1 ++ [step]) :
    Agrees L (Written L s) ((f <$> p (s.scope allowed ps)).run ts)
      ((do
        Action.advance
        x
        Action.write [step] : Action Unit).run s) := by
  have hpart := h ((hs.next hslack).weaken (Nat.zero_le slack))
  have hwritten : Agrees L (fun e => Written L s (f e)) ((p (s.scope allowed ps)).run ts)
      (x.run s.next >>= fun r => .ok ((), r.2.write [step])) := by
    refine hpart.andThen (State.write · [step]) fun e rest s' he => ⟨he.stands.write _, ?_⟩
    rw [hf]
    exact he.wrote.of_next.write _
  exact hwritten.map f fun _ _ _ he => he

/-- An assignment, from its equals sign on. -/
lemma Follows.assignment (h : Follows allowed ps 0 p x) (hs : Stands L 0 s (.sign "=" :: ts))
    (slot : Nat) :
    Agrees L (Written L s)
      (if (s.scope allowed ps).noAssignment then .error ⟨.conditionalAssignment, .sign "=" :: ts⟩
        else (Expr.assign slot <$> p (s.scope allowed ps)).run ts)
      ((OnePass.assignment allowed slot x).run s) := by
  have hforbids : (decide (0 < s.openConditions) && !allowed) =
    (s.scope allowed ps).noAssignment := rfl
  rw [OnePass.assignment, Action.run_state_bind, hforbids]
  cases (s.scope allowed ps).noAssignment with
  | true => exact .error (hs.weaken (Nat.zero_le 1))
  | false =>
    exact h.wrap hs (Nat.zero_le 1) fun _ _ => rfl

/-- An expression with one more level of nesting left. -/
lemma Follows.expression_succ {room : Nat}
    (he : Follows allowed ps 0 (Parser.expression allowed room)
      (OnePass.expression allowed ps room))
    (ho : Follows allowed ps 1 (Parser.operand allowed room) (OnePass.operand allowed ps room)) :
    Follows allowed ps 0 (Parser.expression allowed (room + 1))
      (OnePass.expression allowed ps (room + 1)) := by
  intro L s ts hs
  rw [OnePass.expression, Action.run_state_bind]
  cases hslot : slot? ps s.current with
  | none =>
    have hassigned : assigned? (s.scope allowed ps) ts = none := by
      cases hassigned : assigned? (s.scope allowed ps) ts with
      | none => rfl
      | some slot =>
        obtain ⟨name, us, rfl, hname⟩ := assigned?_eq_some_iff.1 hassigned
        have hsome := slot?_eq_some_iff.2 ⟨name, hs.current_eq, hname⟩
        cases hsome.symm.trans hslot
    rw [run_expression_of_none hassigned]
    exact ho.operation (hs.weaken (Nat.zero_le 1))
  | some slot =>
    obtain ⟨name, hname, hslot⟩ := slot?_eq_some_iff.1 hslot
    obtain ⟨us, rfl⟩ : ∃ us, ts = .word name :: us := by
      rw [hs.current_eq] at hname
      cases ts with
      | nil => cases hname
      | cons t us => exact ⟨us, congrArg (· :: us) hname⟩
    have hnext := hs.next (Nat.zero_le 1)
    by_cases heq : ∃ vs, us = .sign "=" :: vs
    · obtain ⟨vs, rfl⟩ := heq
      have hscope : (s.scope allowed ps).parameters.slot? name = some slot := hslot
      have hfollowed : (Action.followedBy "=").run s = .ok (true, s.next) :=
        if_pos (hnext.isAt_iff.2 ⟨vs, rfl⟩)
      rw [run_expression_of_some hscope, Action.run_bind, hfollowed]
      exact (he.assignment hnext slot).imp fun e rest s' he => ⟨he.stands, he.wrote.of_next⟩
    · obtain ⟨s', hfollowed, hs', hw⟩ := hs.run_followedBy (not_exists.1 heq)
      have hassigned : assigned? (s.scope allowed ps) (.word name :: us) = none := by
        cases hassigned : assigned? (s.scope allowed ps) (.word name :: us) with
        | none => rfl
        | some slot =>
          obtain ⟨_, vs, hts, -⟩ := assigned?_eq_some_iff.1 hassigned
          exact absurd ⟨vs, (List.cons.inj hts).2⟩ heq
      rw [run_expression_of_none hassigned, Action.run_bind, hfollowed, ← hw.scope_eq]
      refine (ho.operation hs').imp fun e rest s'' he => ⟨he.stands, ?_⟩
      have hwrote := hw.trans he.wrote
      rwa [List.nil_append, hw.labels_eq] at hwrote

/-- An operand with one more level of nesting left. -/
lemma Follows.operand_succ {room : Nat}
    (he : Follows allowed ps 0 (Parser.expression allowed room)
      (OnePass.expression allowed ps room))
    (ho : Follows allowed ps 1 (Parser.operand allowed room) (OnePass.operand allowed ps room)) :
    Follows allowed ps 1 (Parser.operand allowed (room + 1))
      (OnePass.operand allowed ps (room + 1)) := by
  intro L s ts hs
  rw [Parser.operand, run_current_bind, OnePass.operand, Action.run_state_bind, hs.isDelimiter_eq,
    ← hs.current_eq, Parser.run_ite, Action.run_ite]
  split
  · next hplus =>
    obtain ⟨us, rfl⟩ := hs.isAt_iff.1 hplus
    have hoperand := ho ((hs.next (Nat.le_refl 1)).weaken (Nat.zero_le 1))
    exact hoperand.imp fun e rest s' he => ⟨he.stands, he.wrote.of_next⟩
  · cases hop : unaryOperator? s.current with
    | none => exact he.atom (Nat.le_refl 1) hs
    | some op =>
      obtain ⟨text, htext, -⟩ := unaryOperator?_eq_some_iff.1 hop
      rw [hs.current_eq] at htext
      obtain ⟨us, rfl⟩ := Token.isDelimiter_headD_iff.1 (Token.isDelimiter_iff.2 htext)
      exact ho.wrap hs (Nat.le_refl 1) fun _ _ => rfl

/-- Expressions and operands, whatever number of levels of nesting they have left. An operand may
start at a token that was put back. -/
lemma follows_of_room (allowed : Bool) (ps : Parameters) (room : Nat) :
    Follows allowed ps 0 (Parser.expression allowed room) (OnePass.expression allowed ps room) ∧
      Follows allowed ps 1 (Parser.operand allowed room) (OnePass.operand allowed ps room) := by
  induction room with
  | zero =>
    exact ⟨fun hs => .error (hs.weaken (Nat.zero_le 1)), fun hs => .error hs⟩
  | succ room ih =>
    obtain ⟨he, ho⟩ := ih
    exact ⟨he.expression_succ ho, he.operand_succ ho⟩

/-- The first token of a body is the current one at the start. -/
lemma stands_start (ps : Parameters) (text : String) :
    Stands (lexemes text) 0 (start ps text) (tokens text) := by
  have hposition : (start ps text).cursor.position = 1 := by
    simp [start, State.next, Cursor.next, Cursor.ofText]
  refine ⟨rfl, by rw [hposition]; exact Nat.one_pos, by rw [hposition]; omega, ?_, ?_, nofun⟩
  · rw [hposition]
    rfl
  · rw [tokens, List.headD_eq_head?_getD, List.head?_map, List.head?_eq_getElem?]
    rfl

/-- A body is read as the parser reads it: the steps of its expression are written, or the compiler
stops where the parser fails. -/
lemma agrees_body (allowed : Bool) (ps : Parameters) (text : String) :
    Agrees (lexemes text) (Written (lexemes text) (start ps text))
      ((Parser.body allowed ps).run (tokens text)) ((body allowed ps).run (start ps text)) := by
  have hexpression := (follows_of_room allowed ps maxNesting).1 (stands_start ps text)
  refine hexpression.run_bind fun e rest s' he => ?_
  rw [run_remaining_bind, Action.run_state_bind]
  cases rest with
  | nil =>
    have hcurrent : s'.current = .finished := he.stands.current_eq
    rw [hcurrent]
    exact .ok he
  | cons t ts =>
    have hcurrent : s'.current = t := he.stands.current_eq
    rw [hcurrent, if_pos (he.stands.kind_ne (List.mem_cons_self ..))]
    exact .error (he.stands.weaken (Nat.zero_le 1))

/-- Where the parser reads a body, its steps are written after the header. -/
lemma read_of_ok {text : String} {e : Expr} {rest : List Token}
    (h : (Parser.body allowed ps).run (tokens text) = .ok (e, rest)) :
    ∃ s, read allowed ps text = .ok s ∧ s.steps = .header ps.size :: (e.steps 0).1 := by
  have hbody := agrees_body allowed ps text
  rw [h] at hbody
  unfold read
  generalize (body allowed ps).run (start ps text) = y at hbody
  cases hbody with
  | ok he => exact ⟨_, rfl, he.wrote.steps_eq⟩

/-- Where the parser fails, the compiler stops at the same token with the same kind. -/
lemma read_of_error {text : String} {f : Failure}
    (h : (Parser.body allowed ps).run (tokens text) = .error f) :
    ∃ s, read allowed ps text = .error ⟨f.kind, s⟩ ∧ Stands (lexemes text) 1 s f.rest := by
  have hbody := agrees_body allowed ps text
  rw [h] at hbody
  unfold read
  generalize (body allowed ps).run (start ps text) = y at hbody
  cases hbody with
  | error hs => exact ⟨_, rfl, hs⟩

/-- What was read up to the current token is what the cursor has read. -/
lemma Stands.detail_eq {text : String} {rest : List Token} (h : Stands (lexemes text) slack s rest)
    (kind : ErrorKind) :
    s.cursor.detail kind = consumed (tokens text) rest ++ kind.tag := by
  have hlength : (tokens text).length + 1 - rest.length = s.cursor.position := by
    have := h.length_eq
    rw [tokens, List.length_map]
    omega
  have htexts (ls : List String) : (ls.map Token.classify).map (·.text) = ls := by
    rw [List.map_map]
    exact List.map_id _
  rw [Cursor.detail, consumed, hlength, tokens, ← List.map_take, htexts, h.lexemes_eq]

end

/-- Both compilers have the same programs and the same failures. -/
theorem compile_eq (text : String) (options : CompileOptions) :
    compile text options = Formula.compile text options := by
  unfold compile Formula.compile
  cases Clauses.ofText text with
  | error d => rfl
  | ok clauses =>
  simp only [Bind.bind, Except.bind]
  cases Parameters.ofClause clauses.parameters with
  | error d => rfl
  | ok ps =>
  simp only [parseBody]
  cases hbody : (Parser.body options.allowConditionalAssignment ps).run (tokens clauses.body) with
  | ok r =>
    obtain ⟨s, hs, hsteps⟩ := read_of_ok hbody
    simp only [hs, Except.mapError, hsteps, Expr.compile]
  | error f =>
    obtain ⟨s, hs, hstands⟩ := read_of_error hbody
    simp only [hs, Except.mapError, Stop.diagnostic, hstands.detail_eq, Diagnostic.after]

end OnePass

end Formula
