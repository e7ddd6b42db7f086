import Formula.Proofs.Parser.Place

/-!
# Parsers with and without assignments in conditions

The strict parsers refuse an assignment in the condition of a conditional, and the lenient ones accept
it; there is no other difference. `Gate` compares a strict with a lenient parser on all tokens, and
has one lemma for each building block and each construct. It knows the place where the parsers start,
so what is said of a refusal is that its place is in a condition, and what is said of a success is
that it leads to a place, past no assignment in a condition.
-/

namespace Formula

/-- The operators of the levels are no punctuation and no equals sign. -/
lemma Level.sign_of_lookup {level : Level} {text : String} {op : Infix}
    (hlevel : level ∈ Level.operators) (hop : level.lookup text = some op) :
    text ∉ ["(", ")", ","] ∧ text ≠ "=" := by
  obtain ⟨l₁, l₂, hsplit, -⟩ := List.lookup_eq_some_iff.1 hop
  have hall : ∀ level ∈ Level.operators, ∀ sign ∈ level.map (·.1),
      sign ∉ ["(", ")", ","] ∧ sign ≠ "=" := by
    decide
  exact hall level hlevel text (by simp [hsplit])

/-- The prefix operators are no punctuation and no equals sign. -/
lemma UnaryOp.sign_of_ofSign? {text : String} {op : UnaryOp} (h : UnaryOp.ofSign? text = some op) :
    text ∉ ["(", ")", ","] ∧ text ≠ "=" := by
  unfold UnaryOp.ofSign? at h
  split at h
  · decide
  · decide
  · decide
  · cases h

namespace Parser

/-- A run that refuses an assignment to a declared parameter at a place in a condition. It stops at
the equals sign. -/
def Refused {α : Type} (ps : Parameters) (n : Place) (ts : List Token)
    (x : Except Failure (α × List Token)) : Prop :=
  ∃ us name vs, ts = us ++ .word name :: .sign "=" :: vs ∧ (ps.slot? name).isSome = true ∧
    (n.after us).inCondition = true ∧ x = .error ⟨.conditionalAssignment, .sign "=" :: vs⟩

/-- The run of a strict parser and that of a lenient one over the same tokens, from one place to
another. -/
structure Gated {α : Type} (ps : Parameters) (n m : Place) (ts : List Token)
    (strict lenient : Except Failure (α × List Token)) : Prop where
  same_or_refused : strict = lenient ∨ Refused ps n ts strict
  passes : ∀ {a rest}, strict = .ok (a, rest) → ∃ us, ts = us ++ rest ∧ n.Passes us m
  kind_ne : ∀ {f}, lenient = .error f → f.kind ≠ .conditionalAssignment

/-- A strict parser and a lenient one, from one place to another. -/
def Gate {α : Type} (ps : Parameters) (n m : Place) (strict lenient : Parser α) : Prop :=
  ∀ ts, Gated ps n m ts (strict.run ts) (lenient.run ts)

/-- A strict parser and a lenient one for phrases inside given parentheses. A phrase ends where it
starts, and no name of a conditional stands before it. -/
abbrev PhraseGate {α : Type} (ps : Parameters) (cs : List Bool) (strict lenient : Parser α) : Prop :=
  Gate ps ⟨false, cs⟩ ⟨false, cs⟩ strict lenient

variable {α β : Type} {ps : Parameters} {n m k : Place} {cs : List Bool}

namespace Gated

variable {ts : List Token} {x y : Except Failure (α × List Token)}
  {f g : α × List Token → Except Failure (β × List Token)}

/-- Runs that succeed where they are. -/
lemma ok (a : α) (ts : List Token) : Gated ps n n ts (.ok (a, ts)) (.ok (a, ts)) where
  same_or_refused := .inl rfl
  passes h := by
    cases h
    exact ⟨[], rfl, .nil⟩
  kind_ne h := by cases h

/-- Runs that fail in the same way, which is no refusal. -/
lemma error {f : Failure} (hf : f.kind ≠ .conditionalAssignment) :
    Gated ps n m ts (.error f : Except Failure (α × List Token)) (.error f) where
  same_or_refused := .inl rfl
  passes h := by cases h
  kind_ne h := by
    cases h
    exact hf

/-- Runs after a token that both go past. -/
lemma cons {t : Token} (ht : t = .sign "=" → n.inCondition = false)
    (h : Gated ps (n.next t) m ts x y) : Gated ps n m (t :: ts) x y where
  same_or_refused := by
    rcases h.same_or_refused with hxy | ⟨us, name, vs, rfl, hname, hin, hx⟩
    · exact .inl hxy
    · exact .inr ⟨t :: us, name, vs, rfl, hname, hin, hx⟩
  passes hx := by
    obtain ⟨us, rfl, hus⟩ := h.passes hx
    exact ⟨t :: us, rfl, .cons ht hus⟩
  kind_ne := h.kind_ne

/-- Runs that go on where other runs end. -/
lemma bind (h : Gated ps n m ts x y)
    (hf : ∀ a rest, x = .ok (a, rest) ∨ y = .ok (a, rest) →
      Gated ps m k rest (f (a, rest)) (g (a, rest))) :
    Gated ps n k ts (x >>= f) (y >>= g) where
  same_or_refused := by
    rcases h.same_or_refused with rfl | ⟨us, name, vs, hts, hname, hin, rfl⟩
    · cases hx : x with
      | error e => exact .inl rfl
      | ok r =>
        obtain ⟨a, rest⟩ := r
        obtain ⟨us, rfl, hus⟩ := h.passes hx
        rcases (hf a rest (.inl hx)).same_or_refused with hfg | ⟨vs, name, ws, rfl, hname, hin, hfa⟩
        · exact .inl hfg
        · refine .inr ⟨us ++ vs, name, ws, by simp, hname, ?_, hfa⟩
          rwa [hus.after_append]
    · exact .inr ⟨us, name, vs, hts, hname, hin, rfl⟩
  passes {b rest'} hx := by
    cases x with
    | error e => cases hx
    | ok r =>
      obtain ⟨a, rest⟩ := r
      obtain ⟨us, rfl, hus⟩ := h.passes rfl
      obtain ⟨vs, rfl, hvs⟩ := (hf a rest (.inl rfl)).passes hx
      exact ⟨us ++ vs, by simp, hus.append hvs⟩
  kind_ne {e} hy := by
    cases y with
    | error e' =>
      cases hy
      exact h.kind_ne rfl
    | ok r =>
      obtain ⟨a, rest⟩ := r
      exact (hf a rest (.inr rfl)).kind_ne hy

end Gated

/-- The scope of a condition, where the strict parsers forbid assignments. -/
lemma condition_strict (ps : Parameters) (b : Bool) (cs : List Bool) :
    Scope.condition ⟨ps, b, cs.any id⟩ false = ⟨ps, true, (true :: cs).any id⟩ := by
  simp [Scope.condition, Scope.parens]

namespace Gate

variable {p q p' q' : Parser α} {f g : α → Parser β} {text : String} {kind : ErrorKind}

/-- Parsers that read nothing. -/
lemma pure (a : α) : Gate ps n n (Pure.pure a) (Pure.pure a) :=
  fun ts => .ok a ts

/-- Parsers that fail, with another kind of failure than a refusal. -/
lemma fail (hkind : kind ≠ .conditionalAssignment) :
    Gate ps n m (Parser.fail kind : Parser α) (Parser.fail kind) :=
  fun _ => .error hkind

/-- Parsers one after another. -/
lemma bind (h : Gate ps n m p q) (hf : ∀ a, Gate ps m k (f a) (g a)) :
    Gate ps n k (p >>= f) (q >>= g) := by
  intro ts
  rw [run_bind, run_bind]
  exact (h ts).bind fun a rest _ => hf a rest

/-- Parsers whose values are changed. -/
lemma map (h : Gate ps n m p q) (f : α → β) : Gate ps n m (f <$> p) (f <$> q) :=
  h.bind (f := fun a => Pure.pure (f a)) fun a => pure (f a)

/-- Parsers that go past some punctuation if it is the current token, and do something else
otherwise. -/
lemma look (htext : text ≠ "=") (h : Gate ps (n.next (.sign text)) m p q)
    (h' : Gate ps n m p' q') :
    Gate ps n m
      (do if (← current).isDelimiter text then do advance; p else p')
      (do if (← current).isDelimiter text then do advance; q else q') := by
  intro ts
  rw [run_current_bind, run_current_bind]
  split
  · next hcurrent =>
    obtain ⟨rest, rfl⟩ := Token.isDelimiter_headD_iff.1 hcurrent
    exact .cons (fun ht => absurd (congrArg Token.text ht) htext) (h rest)
  · exact h' ts

/-- Parsers that refuse some punctuation at the current token. -/
lemma refuse (hkind : kind ≠ .conditionalAssignment) (h : Gate ps n m p q) :
    Gate ps n m
      (do if (← current).isDelimiter text then Parser.fail kind
          p)
      (do if (← current).isDelimiter text then Parser.fail kind
          q) := by
  intro ts
  rw [run_current_bind, run_current_bind]
  split
  · exact .error hkind
  · exact h ts

/-- Expected punctuation. -/
lemma expect (htext : text ≠ "=") (hkind : kind ≠ .conditionalAssignment)
    (hm : n.next (.sign text) = m) :
    Gate ps n m (Parser.expect text kind) (Parser.expect text kind) := by
  subst hm
  exact look htext (pure ()) (fail hkind)

/-- An opening parenthesis. -/
lemma opening {b : Bool} :
    Gate ps ⟨b, cs⟩ ⟨false, b :: cs⟩ (Parser.expect "(" .missingParen)
      (Parser.expect "(" .missingParen) :=
  expect (by decide) (by decide) rfl

/-- A closing parenthesis. -/
lemma closing {c : Bool} :
    Gate ps ⟨false, c :: cs⟩ ⟨false, cs⟩ (Parser.expect ")" .missingParen)
      (Parser.expect ")" .missingParen) :=
  expect (by decide) (by decide) rfl

/-- The comma between two arguments. -/
lemma separator : PhraseGate ps (false :: cs) Parser.separator Parser.separator :=
  expect (by decide) (by decide) rfl

/-- The comma between two parts of a conditional. The first one ends the condition. -/
lemma conditionalComma {c : Bool} :
    Gate ps ⟨false, c :: cs⟩ ⟨false, false :: cs⟩ Parser.conditionalComma
      Parser.conditionalComma := by
  intro ts
  rw [Parser.conditionalComma, run_current_bind]
  split
  · next hcurrent =>
    obtain ⟨rest, rfl⟩ := Token.isDelimiter_headD_iff.1 hcurrent
    exact .cons (by simp) (.ok () rest)
  · split
    · exact .error (by simp)
    · exact .error (by simp)

section
variable {argument argument' condition condition' branch branch' : Parser Expr}

/-- The end of the arguments, or one argument too many. -/
lemma closeArguments (h : PhraseGate ps (false :: cs) argument argument') :
    Gate ps ⟨false, false :: cs⟩ ⟨false, cs⟩ (Parser.closeArguments argument)
      (Parser.closeArguments argument') := by
  apply look (by decide)
  · exact h.bind fun _ => fail (by decide)
  · exact closing

/-- The arguments of a function. -/
lemma arguments (h : PhraseGate ps (false :: cs) argument argument') (f : Function) :
    Gate ps ⟨false, false :: cs⟩ ⟨false, cs⟩ (Parser.arguments argument f)
      (Parser.arguments argument' f) := by
  cases f with
  | one f => exact h.bind fun a => (closeArguments h).bind fun _ => pure _
  | two f =>
    exact h.bind fun a => separator.bind fun _ => h.bind fun b =>
      (closeArguments h).bind fun _ => pure _
  | numberFormat =>
    exact h.bind fun a => separator.bind fun _ => h.bind fun b => separator.bind fun _ =>
      h.bind fun c => (closeArguments h).bind fun _ => pure _

/-- A call, after the name of the function. -/
lemma call (h : PhraseGate ps (false :: cs) argument argument') (f : Function) :
    PhraseGate ps cs (Parser.call argument f) (Parser.call argument' f) := by
  apply opening.bind
  intro _
  exact refuse (by decide) (arguments h f)

/-- A conditional, after its name. Its condition is read in a condition, and its branches are read
where the conditional is. -/
lemma conditional (hc : PhraseGate ps (true :: cs) condition condition')
    (hb : PhraseGate ps (false :: cs) branch branch') :
    Gate ps ⟨true, cs⟩ ⟨false, cs⟩ (Parser.conditional condition branch)
      (Parser.conditional condition' branch') := by
  apply opening.bind
  intro _
  refine hc.bind fun c => conditionalComma.bind fun _ => ?_
  refine hb.bind fun yes => conditionalComma.bind fun _ => ?_
  refine hb.bind fun no => ?_
  exact refuse (by decide) (closing.bind fun _ => pure _)

/-- The loop of a chain whose operators stay at the place. -/
lemma chainFrom {level : Level} {operand operand' : Parser Expr}
    (hlevel : ∀ text op, level.lookup text = some op → n.next (.sign text) = n ∧ text ≠ "=")
    (h : Gate ps n n operand operand') (left : Expr) :
    Gate ps n n (Parser.chainFrom level operand left) (Parser.chainFrom level operand' left) := by
  intro ts
  change Gated ps n n ts (runChain level operand left ts) (runChain level operand' left ts)
  induction hlength : ts.length using Nat.strongRecOn generalizing left ts with
  | ind length ih =>
    by_cases hop : ∃ text op us, ts = .sign text :: us ∧ level.lookup text = some op
    · obtain ⟨text, op, us, rfl, hlookup⟩ := hop
      obtain ⟨hnext, htext⟩ := hlevel text op hlookup
      rw [runChain_eq_bind hlookup, runChain_eq_bind hlookup]
      refine .cons (fun ht => absurd (congrArg Token.text ht) htext) ?_
      rw [hnext]
      refine (h us).bind fun right rest hrest => ih rest.length ?_ _ rest rfl
      -- What an operand leaves is shorter than what stood before its operator.
      have hsuffix : rest <:+ us := by
        rcases hrest with hrest | hrest
        · exact operand.suffix_of_ok hrest
        · exact operand'.suffix_of_ok hrest
      have hle := hsuffix.length_le
      rw [List.length_cons] at hlength
      omega
    · have hnone : ∀ t us, ts = t :: us → operator? level t = none := by
        rintro t us rfl
        cases ht : operator? level t with
        | none => rfl
        | some op =>
          obtain ⟨text, rfl, hlookup⟩ := operator?_eq_some_iff.1 ht
          exact absurd ⟨text, op, us, rfl, hlookup⟩ hop
      rw [runChain_of_operator?_eq_none hnone, runChain_of_operator?_eq_none hnone]
      exact .ok left ts

/-- A chain whose operators stay at the place. -/
lemma chain {level : Level} {operand operand' : Parser Expr}
    (hlevel : ∀ text op, level.lookup text = some op → n.next (.sign text) = n ∧ text ≠ "=")
    (h : Gate ps n n operand operand') :
    Gate ps n n (Parser.chain level operand) (Parser.chain level operand') :=
  h.bind fun left => chainFrom hlevel h left

/-- Operands joined by the operators of all levels. -/
lemma operation {operand operand' : Parser Expr} (h : PhraseGate ps cs operand operand') :
    PhraseGate ps cs (Parser.operation operand) (Parser.operation operand') := by
  have hchains (levels : List Level) (hlevels : levels ⊆ Level.operators) :
      PhraseGate ps cs (levels.foldr Parser.chain operand)
        (levels.foldr Parser.chain operand') := by
    induction levels with
    | nil => exact h
    | cons level levels ih =>
      obtain ⟨hlevel, hlevels⟩ := List.cons_subset.1 hlevels
      refine chain (fun text op hop => ?_) (ih hlevels)
      obtain ⟨hsign, heq⟩ := Level.sign_of_lookup hlevel hop
      exact ⟨Place.next_operator hsign, heq⟩
  exact (hchains _ (List.Subset.refl _)).bind fun e => refuse (by decide) (pure e)

/-- Expressions between parentheses. Their commas end no condition. -/
lemma parenthesis {inner inner' : Parser Expr}
    (h : PhraseGate ps (false :: cs) inner inner') (ts : List Token) :
    Gated ps ⟨false, cs⟩ ⟨false, cs⟩ (.sign "(" :: ts)
      ((Parser.parenthesis inner).run (.sign "(" :: ts))
      ((Parser.parenthesis inner').run (.sign "(" :: ts)) := by
  have hcomma (text : String) (op : Infix) (hop : Level.comma.lookup text = some op) :
      Place.next ⟨false, false :: cs⟩ (.sign text) = ⟨false, false :: cs⟩ ∧ text ≠ "=" := by
    obtain ⟨l₁, l₂, hsplit, -⟩ := List.lookup_eq_some_iff.1 hop
    have hmem : (text, op) ∈ Level.comma := by simp [hsplit]
    obtain ⟨rfl, -⟩ := Prod.mk.inj (List.mem_singleton.1 hmem)
    exact ⟨rfl, by decide⟩
  exact .cons (by simp) (((chain hcomma h).bind fun e => closing.bind fun _ => pure e) ts)

end

section
variable {b : Bool} {s s' : Scope} {condition condition' inner inner' : Parser Expr}

/-- A name. Only what follows a name of the conditional is read in a condition. -/
lemma identifier (hs : s.parameters = s'.parameters)
    (hc : PhraseGate ps (true :: cs) condition condition')
    (hi : PhraseGate ps (false :: cs) inner inner') (name : String) (ts : List Token) :
    Gated ps ⟨false, cs⟩ ⟨false, cs⟩ (.word name :: ts)
      ((Parser.identifier s condition inner name).run (.word name :: ts))
      ((Parser.identifier s' condition' inner' name).run (.word name :: ts)) := by
  have hword : Place.next ⟨false, cs⟩ (.word name) =
    ⟨Catalogue.callee? name == some .conditional, cs⟩ := rfl
  cases hcallee : Catalogue.callee? name with
  | some callee =>
    refine .cons (by simp) ?_
    rw [hword, hcallee]
    cases callee with
    | function f =>
      rw [run_identifier_function hcallee, run_identifier_function hcallee]
      exact call hi f ts
    | conditional =>
      rw [run_identifier_conditional hcallee, run_identifier_conditional hcallee]
      exact conditional hc hi ts
  | none =>
    rw [hcallee] at hword
    cases hconst : Catalogue.constant? name with
    | some value =>
      rw [run_identifier_constant hcallee hconst, run_identifier_constant hcallee hconst]
      exact .cons (by simp) (hword ▸ .ok (Expr.const value) ts)
    | none =>
      cases hslot : s.parameters.slot? name with
      | some slot =>
        rw [run_identifier_param hcallee hconst hslot,
          run_identifier_param hcallee hconst (hs ▸ hslot)]
        exact .cons (by simp) (hword ▸ .ok (Expr.param slot) ts)
      | none =>
        simp only [Parser.identifier, hcallee, hconst, hslot, ← hs]
        exact .error (by simp)

/-- An operand without a prefix operator. -/
lemma atom (hs : s.parameters = s'.parameters) (hparens : s.inParens = s'.inParens)
    (hc : PhraseGate ps (true :: cs) condition condition')
    (hi : PhraseGate ps (false :: cs) inner inner') :
    PhraseGate ps cs (Parser.atom s condition inner) (Parser.atom s' condition' inner') := by
  intro ts
  cases ts with
  | nil => exact .error (by simp)
  | cons t ts =>
    obtain ⟨kind, text⟩ := t
    cases kind with
    | delimiter =>
      rw [run_atom_sign, run_atom_sign, hparens]
      split
      · next htext =>
        subst htext
        exact parenthesis hi ts
      · split
        · exact .error (by simp)
        · exact .error (by simp)
    | identifier => exact identifier hs hc hi text ts
    | number => exact .cons (by simp) (.ok _ ts)
    | hexNumber => exact .cons (by simp) (.ok _ ts)
    | unknown => exact .error (by simp)
    | finished => exact .error (by simp)

end

section
variable {b : Bool} {room : Nat}

/-- An expression with one more level of nesting left. Where the place is in a condition, the strict
parser stops at the equals sign of an assignment. -/
lemma expression_succ
    (he : PhraseGate ps cs (Parser.expression false room ⟨ps, b, cs.any id⟩)
      (Parser.expression true room ⟨ps, b, false⟩))
    (ho : PhraseGate ps cs (Parser.operand false room ⟨ps, b, cs.any id⟩)
      (Parser.operand true room ⟨ps, b, false⟩)) :
    PhraseGate ps cs (Parser.expression false (room + 1) ⟨ps, b, cs.any id⟩)
      (Parser.expression true (room + 1) ⟨ps, b, false⟩) := by
  intro ts
  cases hassigned : assigned? ⟨ps, b, false⟩ ts with
  | none =>
    have hstrict : assigned? ⟨ps, b, cs.any id⟩ ts = none := hassigned
    rw [run_expression_of_none hstrict, run_expression_of_none hassigned]
    exact operation ho ts
  | some slot =>
    obtain ⟨name, us, rfl, hname⟩ := assigned?_eq_some_iff.1 hassigned
    have hstrict : (Scope.mk ps b (cs.any id)).parameters.slot? name = some slot := hname
    have hvalue := he.map (Expr.assign slot) us
    rw [run_expression_of_some hstrict, run_expression_of_some hname]
    cases hin : cs.any id with
    | true =>
      rw [if_pos rfl, if_neg Bool.false_ne_true]
      exact {
        same_or_refused := .inr ⟨[], name, us, rfl, Option.isSome_of_eq_some hname, hin, rfl⟩
        passes := nofun
        kind_ne := hvalue.kind_ne }
    | false =>
      rw [if_neg Bool.false_ne_true, if_neg Bool.false_ne_true]
      rw [hin] at hvalue
      exact .cons (by simp) (.cons (fun _ => hin) hvalue)

/-- An operand with one more level of nesting left. -/
lemma operand_succ
    (he : ∀ cs, PhraseGate ps cs (Parser.expression false room ⟨ps, true, cs.any id⟩)
      (Parser.expression true room ⟨ps, true, false⟩))
    (ho : PhraseGate ps cs (Parser.operand false room ⟨ps, b, cs.any id⟩)
      (Parser.operand true room ⟨ps, b, false⟩)) :
    PhraseGate ps cs (Parser.operand false (room + 1) ⟨ps, b, cs.any id⟩)
      (Parser.operand true (room + 1) ⟨ps, b, false⟩) := by
  intro ts
  rw [Parser.operand, Parser.operand, run_current_bind, run_current_bind]
  split
  · next hplus =>
    obtain ⟨us, rfl⟩ := Token.isDelimiter_headD_iff.1 hplus
    exact .cons (by simp) (ho us)
  · split
    · next op hop =>
      obtain ⟨text, htext, hsign⟩ := unaryOperator?_eq_some_iff.1 hop
      obtain ⟨us, rfl⟩ := Token.isDelimiter_headD_iff.1 (Token.isDelimiter_iff.2 htext)
      obtain ⟨hsign, heq⟩ := UnaryOp.sign_of_ofSign? hsign
      refine .cons (fun ht => absurd (congrArg Token.text ht) heq) ?_
      rw [Place.next_operator hsign]
      exact ho.map (Expr.unary op) us
    · have hcondition := he (true :: cs)
      rw [← condition_strict ps b cs] at hcondition
      exact atom rfl rfl hcondition (he (false :: cs)) ts

end

end Gate

/-- Expressions and operands, whatever number of levels of nesting they have left. The strict parsers
forbid assignments at the places that are in a condition, and the lenient ones nowhere. -/
lemma gate_of_room (ps : Parameters) (room : Nat) :
    (∀ b cs, PhraseGate ps cs (expression false room ⟨ps, b, cs.any id⟩)
      (expression true room ⟨ps, b, false⟩)) ∧
    (∀ b cs, PhraseGate ps cs (operand false room ⟨ps, b, cs.any id⟩)
      (operand true room ⟨ps, b, false⟩)) := by
  induction room with
  | zero => exact ⟨fun b cs => Gate.fail (by simp), fun b cs => Gate.fail (by simp)⟩
  | succ room ih =>
    obtain ⟨ihe, iho⟩ := ih
    exact ⟨fun b cs => Gate.expression_succ (ihe b cs) (iho b cs),
      fun b cs => Gate.operand_succ (ihe true) (iho b cs)⟩

end Parser

end Formula
