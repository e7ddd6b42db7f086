import Formula.Proofs.Parser.Gate

/-!
# Parentheses that a parser counts

Which parentheses are open at a place is known from the tokens before it. `Nests` says how many
there are, and that none closes which is not open. A parser knows no more than whether there is one.
`Tracks` says how a parser changes the number, and of a failure what its kind says about the number
and about the token there. There is one lemma for each building block and each construct; a phrase
leaves the number as it is.
-/

namespace Formula

/-- The number of open parentheses before some tokens and after them, where none closes that is not
open. -/
inductive Nests : Nat → List Token → Nat → Prop where
  | nil {n} :
    Nests n [] n
  | opening {n m ts} :
    Nests (n + 1) ts m →
    Nests n (.sign "(" :: ts) m
  | closing {n m ts} :
    Nests n ts m →
    Nests (n + 1) (.sign ")" :: ts) m
  | other {n m t ts} :
    t ≠ .sign "(" →
    t ≠ .sign ")" →
    Nests n ts m →
    Nests n (t :: ts) m

namespace Nests

variable {n m k : Nat} {us vs : List Token}

/-- Tokens after tokens. -/
lemma append (h : Nests n us m) (h' : Nests m vs k) : Nests n (us ++ vs) k := by
  induction h with
  | nil => exact h'
  | opening _ ih => exact .opening (ih h')
  | closing _ ih => exact .closing (ih h')
  | other hopen hclose _ ih => exact .other hopen hclose (ih h')

/-- The number changes by the difference of the counts. -/
lemma count_eq (h : Nests n us m) : n + us.count (.sign "(") = m + us.count (.sign ")") := by
  induction h with
  | nil => rfl
  | opening _ ih =>
    simp only [List.count_cons_self, List.count_cons_of_ne (by decide : Token.sign "(" ≠ .sign ")")]
    omega
  | closing _ ih =>
    simp only [List.count_cons_self, List.count_cons_of_ne (by decide : Token.sign ")" ≠ .sign "(")]
    omega
  | other hopen hclose _ ih =>
    rwa [List.count_cons_of_ne hopen, List.count_cons_of_ne hclose]

/-- A place between the tokens. -/
lemma exists_of_append (h : Nests n (us ++ vs) m) : ∃ k, Nests n us k ∧ Nests k vs m := by
  induction us generalizing n with
  | nil => exact ⟨n, .nil, h⟩
  | cons t us ih =>
    cases h with
    | opening h =>
      obtain ⟨k, hus, hvs⟩ := ih h
      exact ⟨k, .opening hus, hvs⟩
    | closing h =>
      obtain ⟨k, hus, hvs⟩ := ih h
      exact ⟨k, .closing hus, hvs⟩
    | other hopen hclose h =>
      obtain ⟨k, hus, hvs⟩ := ih h
      exact ⟨k, .other hopen hclose hus, hvs⟩

/-- The tokens after one that is no parenthesis. -/
lemma of_cons {t : Token} (h : Nests n (t :: us) m) (hopen : t ≠ .sign "(")
    (hclose : t ≠ .sign ")") : Nests n us m := by
  cases h with
  | opening _ => exact absurd rfl hopen
  | closing _ => exact absurd rfl hclose
  | other _ _ h => exact h

/-- Nowhere between the tokens more parentheses were closed than opened. -/
lemma prefix_le (h : Nests n us m) (hvs : vs <+: us) :
    vs.count (.sign ")") ≤ n + vs.count (.sign "(") := by
  obtain ⟨ws, rfl⟩ := hvs
  obtain ⟨k, hus, -⟩ := h.exists_of_append
  have := hus.count_eq
  omega

/-- What is left of balanced tokens after balanced ones is balanced. -/
lemma of_append (h : Nests 0 (us ++ vs) 0) (hus : Nests 0 us 0) : Nests 0 vs 0 := by
  obtain ⟨k, hk, hvs⟩ := h.exists_of_append
  have hcount := hus.count_eq
  have hcount' := hk.count_eq
  obtain rfl : k = 0 := by omega
  exact hvs

end Nests

/-- No operator of a level is a parenthesis. -/
def Level.NoParens (level : Level) : Prop :=
  ∀ text op, level.lookup text = some op → text ≠ "(" ∧ text ≠ ")"

/-- The levels of operators. -/
lemma Level.noParens_of_mem {level : Level} (h : level ∈ operators) : level.NoParens := by
  intro text op hop
  obtain ⟨hsign, -⟩ := sign_of_lookup h hop
  simp only [List.mem_cons, not_or] at hsign
  exact ⟨hsign.1, hsign.2.1⟩

/-- The level of the comma. -/
lemma Level.noParens_comma : comma.NoParens := by
  intro text op hop
  obtain ⟨l₁, l₂, hsplit, -⟩ := List.lookup_eq_some_iff.1 hop
  have hmem : (text, op) ∈ comma := by simp [hsplit]
  obtain ⟨rfl, -⟩ := Prod.mk.inj (List.mem_singleton.1 hmem)
  decide

/-- A failure at a token that is no operand. -/
def Failure.WantsOperand (f : Failure) : Prop :=
  f.kind = .missingArg ∨ f.kind = .unbalancedParens

/-- What the kind of a failure says about the number of open parentheses at the current token, and
about the token. `low` is a number that is open around the whole phrase. -/
structure Failure.Fits (low n : Nat) (f : Failure) : Prop where
  unbalanced : f.kind = .unbalancedParens → n = 0 ∧ ∃ vs, f.rest = .sign ")" :: vs
  low_le : f.WantsOperand → low ≤ n
  unknown : f.kind = .other → ∃ text vs, f.rest = ⟨.unknown, text⟩ :: vs
  kind_ne : f.kind ≠ .putBack

/-- The kinds of failure that say nothing about parentheses or the current token. -/
abbrev ErrorKind.Unspecific (kind : ErrorKind) : Prop :=
  kind ∉ [.unbalancedParens, .missingArg, .other, .putBack]

/-- A failure of a kind that says nothing. -/
lemma Failure.fits_of_unspecific {f : Failure} (h : f.kind.Unspecific) (low n : Nat) :
    f.Fits low n := by
  simp only [ErrorKind.Unspecific, List.mem_cons, List.not_mem_nil, or_false, not_or] at h
  obtain ⟨hunbalanced, hmissing, hother, hputBack⟩ := h
  exact ⟨fun h => absurd h hunbalanced, fun h => (h.elim hmissing hunbalanced).elim,
    fun h => absurd h hother, hputBack⟩

/-- A failure at a closing parenthesis where none is open. -/
lemma Failure.fits_unbalanced (vs : List Token) :
    Failure.Fits 0 0 ⟨.unbalancedParens, .sign ")" :: vs⟩ :=
  ⟨fun _ => ⟨rfl, vs, rfl⟩, fun _ => Nat.le_refl 0, nofun, nofun⟩

/-- A failure at a token of unknown kind. -/
lemma Failure.fits_unknown (low n : Nat) (text : String) (vs : List Token) :
    Failure.Fits low n ⟨.other, ⟨.unknown, text⟩ :: vs⟩ :=
  ⟨nofun, by simp [WantsOperand], fun _ => ⟨text, vs, rfl⟩, nofun⟩

namespace Parser

variable {α β : Type} {low low' n m k : Nat}

/-- A run that starts where some parentheses are open and ends where others are. -/
structure Tracked (low n m : Nat) (ts : List Token) (x : Except Failure (α × List Token)) :
    Prop where
  ok : ∀ {a rest}, x = .ok (a, rest) → ∃ us, ts = us ++ rest ∧ Nests n us m
  error : ∀ {f}, x = .error f → ∃ us k, ts = us ++ f.rest ∧ Nests n us k ∧ f.Fits low k

/-- A parser from a number of open parentheses to another one. -/
def Tracks (low n m : Nat) (p : Parser α) : Prop :=
  ∀ ts, Tracked low n m ts (p.run ts)

namespace Tracked

variable {t : Token} {ts : List Token} {x : Except Failure (α × List Token)}
  {f : α × List Token → Except Failure (β × List Token)}

/-- A run that succeeds where it is. -/
lemma ok_self (a : α) (ts : List Token) : Tracked low n n ts (.ok (a, ts)) where
  ok h := by
    cases h
    exact ⟨[], rfl, .nil⟩
  error h := by cases h

/-- A run that fails where it is. -/
lemma error_self {f : Failure} (hts : f.rest = ts) (hf : f.Fits low n) :
    Tracked low n m ts (.error f : Except Failure (α × List Token)) where
  ok h := by cases h
  error h := by
    cases h
    exact ⟨[], n, hts.symm, .nil, hf⟩

/-- A run after some tokens that it goes past. -/
lemma append {us : List Token} (hus : Nests n us k) (h : Tracked low k m ts x) :
    Tracked low n m (us ++ ts) x where
  ok hx := by
    obtain ⟨vs, rfl, hvs⟩ := h.ok hx
    exact ⟨us ++ vs, by simp, hus.append hvs⟩
  error hx := by
    obtain ⟨vs, k', hts, hvs, hf⟩ := h.error hx
    exact ⟨us ++ vs, k', by simp [hts], hus.append hvs, hf⟩

/-- A run after a token that is no parenthesis. -/
lemma cons (hopen : t ≠ .sign "(") (hclose : t ≠ .sign ")") (h : Tracked low n m ts x) :
    Tracked low n m (t :: ts) x := by
  have htoken : Nests n [t] n := .other hopen hclose .nil
  exact h.append htoken

/-- Fewer parentheses that are open around the phrase. -/
lemma mono (h : Tracked low n m ts x) (hlow : low' ≤ low) : Tracked low' n m ts x where
  ok := h.ok
  error hx := by
    obtain ⟨us, k, hts, hus, hf⟩ := h.error hx
    exact ⟨us, k, hts, hus, hf.unbalanced, fun hkind => Nat.le_trans hlow (hf.low_le hkind),
      hf.unknown, hf.kind_ne⟩

/-- A run that goes on where another one ends. -/
lemma bind (h : Tracked low n m ts x) (hf : ∀ a rest, Tracked low m k rest (f (a, rest))) :
    Tracked low n k ts (x >>= f) := by
  cases x with
  | error e =>
    refine ⟨nofun, fun {f'} hx => h.error ?_⟩
    cases hx
    rfl
  | ok r =>
    obtain ⟨a, rest⟩ := r
    obtain ⟨us, rfl, hus⟩ := h.ok rfl
    exact (hf a rest).append hus

end Tracked

namespace Tracks

variable {p q : Parser α} {f : α → Parser β} {text : String} {kind : ErrorKind}

/-- A parser that reads nothing. -/
lemma pure (a : α) : Tracks low n n (Pure.pure a : Parser α) :=
  fun ts => .ok_self a ts

/-- A parser that fails, with a kind of failure that says nothing. -/
lemma fail (hkind : kind.Unspecific) : Tracks low n m (Parser.fail kind : Parser α) :=
  fun _ => .error_self rfl (Failure.fits_of_unspecific hkind low n)

/-- Parsers one after another. -/
lemma bind (h : Tracks low n m p) (hf : ∀ a, Tracks low m k (f a)) :
    Tracks low n k (p >>= f) := by
  intro ts
  rw [run_bind]
  exact (h ts).bind fun a => hf a

/-- A parser whose value is changed. -/
lemma map (h : Tracks low n m p) (f : α → β) : Tracks low n m (f <$> p) :=
  h.bind fun a => pure (f a)

/-- A parser that goes past some punctuation if it is the current token, and does something else
otherwise. -/
lemma look {q : Parser α} (htext : Nests n [.sign text] k) (hp : Tracks low k m p)
    (hq : Tracks low n m q) :
    Tracks low n m (do if (← current).isDelimiter text then do advance; p else q) := by
  intro ts
  rw [run_current_bind]
  split
  · next hcurrent =>
    obtain ⟨rest, rfl⟩ := Token.isDelimiter_headD_iff.1 hcurrent
    exact .append htext (hp rest)
  · exact hq ts

/-- A parser that refuses some punctuation at the current token. -/
lemma refuse (hkind : kind.Unspecific) (hp : Tracks low n m p) :
    Tracks low n m (do
      if (← current).isDelimiter text then Parser.fail kind
      p) := by
  intro ts
  rw [run_current_bind]
  split
  · have hfail : Tracks low n n (Parser.fail kind : Parser PUnit) := fail hkind
    exact hfail.bind (fun _ => hp) ts
  · exact hp ts

/-- Expected punctuation. -/
lemma expect (htext : Nests n [.sign text] m) (hkind : kind.Unspecific) :
    Tracks low n m (Parser.expect text kind) :=
  look htext (pure ()) (fail hkind)

/-- An opening parenthesis. -/
lemma opening : Tracks low n (n + 1) (Parser.expect "(" .missingParen) :=
  expect (.opening .nil) (by decide)

/-- A closing parenthesis. -/
lemma closing : Tracks low (n + 1) n (Parser.expect ")" .missingParen) :=
  expect (.closing .nil) (by decide)

/-- The comma between two arguments. -/
lemma separator : Tracks low n n Parser.separator :=
  expect (.other (by decide) (by decide) .nil) (by decide)

/-- The comma between two parts of a conditional. -/
lemma conditionalComma : Tracks low n n Parser.conditionalComma := by
  intro ts
  rw [Parser.conditionalComma, run_current_bind]
  split
  · next hcurrent =>
    obtain ⟨rest, rfl⟩ := Token.isDelimiter_headD_iff.1 hcurrent
    exact .cons (by decide) (by decide) (.ok_self () rest)
  · split
    · exact fail (by decide) ts
    · exact fail (by decide) ts

section
variable {argument condition branch inner operand : Parser Expr} {s : Scope}

/-- The end of the arguments, or one argument too many. -/
lemma closeArguments (h : Tracks low (n + 1) (n + 1) argument) :
    Tracks low (n + 1) n (Parser.closeArguments argument) :=
  look (.other (by decide) (by decide) .nil) (h.bind fun _ => fail (by decide)) closing

/-- The arguments of a function. -/
lemma arguments (h : Tracks low (n + 1) (n + 1) argument) (f : Function) :
    Tracks low (n + 1) n (Parser.arguments argument f) := by
  cases f with
  | one f => exact h.bind fun a => (closeArguments h).bind fun _ => pure _
  | two f =>
    exact h.bind fun a => separator.bind fun _ => h.bind fun b =>
      (closeArguments h).bind fun _ => pure _
  | numberFormat =>
    exact h.bind fun a => separator.bind fun _ => h.bind fun b => separator.bind fun _ =>
      h.bind fun c => (closeArguments h).bind fun _ => pure _

/-- A call, after the name of the function. -/
lemma call (h : Tracks (n + 1) (n + 1) (n + 1) argument) (f : Function) :
    Tracks (n + 1) n n (Parser.call argument f) :=
  opening.bind fun _ => refuse (by decide) (arguments h f)

/-- A conditional, after its name. -/
lemma conditional (hc : Tracks (n + 1) (n + 1) (n + 1) condition)
    (hb : Tracks (n + 1) (n + 1) (n + 1) branch) :
    Tracks (n + 1) n n (Parser.conditional condition branch) := by
  refine opening.bind fun _ => hc.bind fun c => conditionalComma.bind fun _ => ?_
  refine hb.bind fun yes => conditionalComma.bind fun _ => hb.bind fun no => ?_
  exact refuse (by decide) (closing.bind fun _ => pure _)

/-- The loop of a chain whose operators are no parentheses. -/
lemma chainFrom {level : Level} (hlevel : level.NoParens) (h : Tracks low n n operand)
    (left : Expr) : Tracks low n n (Parser.chainFrom level operand left) := by
  intro ts
  have hne {t : Token} {op : Infix} (hop : operator? level t = some op) :
      t ≠ .sign "(" ∧ t ≠ .sign ")" := by
    obtain ⟨text, rfl, hlookup⟩ := operator?_eq_some_iff.1 hop
    simpa using hlevel text op hlookup
  change Tracked low n n ts (runChain level operand left ts)
  fun_induction runChain level operand left ts with
  | case1 left => exact .ok_self left []
  | case2 left t ts _ => exact .ok_self left (t :: ts)
  | case3 left t ts op hop f hf =>
    obtain ⟨hopen, hclose⟩ := hne hop
    exact .cons hopen hclose (hf ▸ h ts)
  | case4 left t ts op hop right rest hr ih =>
    obtain ⟨hopen, hclose⟩ := hne hop
    obtain ⟨us, rfl, hus⟩ := (h ts).ok hr
    exact .cons hopen hclose (ih.append hus)

/-- A chain whose operators are no parentheses. -/
lemma chain {level : Level} (hlevel : level.NoParens) (h : Tracks low n n operand) :
    Tracks low n n (Parser.chain level operand) :=
  h.bind fun left => chainFrom hlevel h left

/-- Operands joined by the operators of all levels. -/
lemma operation (h : Tracks low n n operand) : Tracks low n n (Parser.operation operand) := by
  have hchains (levels : List Level) (hlevels : levels ⊆ Level.operators) :
      Tracks low n n (levels.foldr Parser.chain operand) := by
    induction levels with
    | nil => exact h
    | cons level levels ih =>
      obtain ⟨hlevel, hlevels⟩ := List.cons_subset.1 hlevels
      exact chain (Level.noParens_of_mem hlevel) (ih hlevels)
  exact (hchains _ (List.Subset.refl _)).bind fun e => refuse (by decide) (pure e)

/-- Expressions between parentheses. -/
lemma parenthesis (h : Tracks (n + 1) (n + 1) (n + 1) inner) (ts : List Token) :
    Tracked (n + 1) n n (.sign "(" :: ts) ((Parser.parenthesis inner).run (.sign "(" :: ts)) := by
  have hchain := chain Level.noParens_comma h
  have hopening : Nests n [.sign "("] (n + 1) := .opening .nil
  exact .append hopening ((hchain.bind fun e => closing.bind fun _ => pure e) ts)

/-- A name. -/
lemma identifier (hc : Tracks (n + 1) (n + 1) (n + 1) condition)
    (hi : Tracks (n + 1) (n + 1) (n + 1) inner) (name : String) (ts : List Token) :
    Tracked (n + 1) n n (.word name :: ts)
      ((Parser.identifier s condition inner name).run (.word name :: ts)) := by
  unfold Parser.identifier
  split
  · exact .cons (by simp) (by simp) (call hi _ ts)
  · exact .cons (by simp) (by simp) (conditional hc hi ts)
  · split
    · exact .cons (by simp) (by simp) (.ok_self _ ts)
    · split
      · exact .cons (by simp) (by simp) (.ok_self _ ts)
      · exact fail (by decide) _

/-- An operand without a prefix operator. Only the token itself can be a closing parenthesis that is
not open. -/
lemma atom (hs : s.inParens = decide (0 < n)) (hc : Tracks (n + 1) (n + 1) (n + 1) condition)
    (hi : Tracks (n + 1) (n + 1) (n + 1) inner) :
    Tracks n n n (Parser.atom s condition inner) := by
  intro ts
  have hmissing (us : List Token) : Failure.Fits n n ⟨.missingArg, us⟩ :=
    ⟨by simp, fun _ => Nat.le_refl n, by simp, by simp⟩
  cases ts with
  | nil => exact .error_self rfl (hmissing [])
  | cons t ts =>
    obtain ⟨kind, text⟩ := t
    cases kind with
    | delimiter =>
      rw [run_atom_sign]
      split
      · next htext =>
        subst htext
        exact (parenthesis hi ts).mono (Nat.le_succ n)
      · split
        · next hclose =>
          obtain ⟨rfl, hparens⟩ := hclose
          obtain rfl : n = 0 := by simpa [hs] using hparens
          exact .error_self rfl (Failure.fits_unbalanced ts)
        · exact .error_self rfl (hmissing _)
    | identifier => exact (identifier hc hi text ts).mono (Nat.le_succ n)
    | number => exact .cons (by simp) (by simp) (.ok_self _ ts)
    | hexNumber => exact .cons (by simp) (by simp) (.ok_self _ ts)
    | unknown => exact .error_self rfl (Failure.fits_unknown n n text ts)
    | finished => exact .error_self rfl (hmissing _)

/-- An expression with one more level of nesting left. -/
lemma expression_succ {allowed : Bool} {room : Nat} (he : Tracks n n n (expression allowed room s))
    (ho : Tracks n n n (Parser.operand allowed room s)) :
    Tracks n n n (expression allowed (room + 1) s) := by
  intro ts
  cases hassigned : assigned? s ts with
  | none =>
    rw [run_expression_of_none hassigned]
    exact operation ho ts
  | some slot =>
    obtain ⟨name, us, rfl, hslot⟩ := assigned?_eq_some_iff.1 hassigned
    rw [run_expression_of_some hslot]
    split
    · exact .cons (by simp) (by simp) (fail (by decide) _)
    · exact .cons (by simp) (by simp) (.cons (by simp) (by simp) (he.map (Expr.assign slot) us))

/-- An operand with one more level of nesting left. -/
lemma operand_succ {allowed : Bool} {room : Nat} (hs : s.inParens = decide (0 < n))
    (he : ∀ s, s.inParens = true → Tracks (n + 1) (n + 1) (n + 1) (expression allowed room s))
    (ho : Tracks n n n (Parser.operand allowed room s)) :
    Tracks n n n (Parser.operand allowed (room + 1) s) := by
  intro ts
  rw [Parser.operand, run_current_bind]
  split
  · next hplus =>
    obtain ⟨us, rfl⟩ := Token.isDelimiter_headD_iff.1 hplus
    exact .cons (by decide) (by decide) (ho us)
  · split
    · next op hop =>
      obtain ⟨text, htext, hsign⟩ := unaryOperator?_eq_some_iff.1 hop
      obtain ⟨us, rfl⟩ := Token.isDelimiter_headD_iff.1 (Token.isDelimiter_iff.2 htext)
      obtain ⟨hsign, -⟩ := UnaryOp.sign_of_ofSign? hsign
      simp only [List.mem_cons, not_or] at hsign
      exact .cons (by simpa using hsign.1) (by simpa using hsign.2.1) (ho.map (Expr.unary op) us)
    · exact atom hs (he _ rfl) (he _ rfl) ts

end

end Tracks

/-- Expressions and operands, whatever number of levels of nesting they have left. The scope says
whether a parenthesis is open. -/
lemma tracks_of_room (allowed : Bool) (room : Nat) :
    (∀ s n, s.inParens = decide (0 < n) → Tracks n n n (expression allowed room s)) ∧
      ∀ s n, s.inParens = decide (0 < n) → Tracks n n n (operand allowed room s) := by
  induction room with
  | zero => exact ⟨fun _ _ _ => Tracks.fail (by decide), fun _ _ _ => Tracks.fail (by decide)⟩
  | succ room ih =>
    obtain ⟨he, ho⟩ := ih
    refine ⟨fun s n hs => (he s n hs).expression_succ (ho s n hs), fun s n hs => ?_⟩
    refine Tracks.operand_succ hs (fun s' hs' => he s' (n + 1) ?_) (ho s n hs)
    simp [hs']

/-- A whole body. A token that is left over closes a parenthesis that is not open, or it is of
unknown kind, or the failure says nothing. -/
lemma tracks_body (allowed : Bool) (ps : Parameters) : Tracks 0 0 0 (body allowed ps) := by
  refine ((tracks_of_room allowed maxNesting).1 { parameters := ps } 0 rfl).bind fun e ts => ?_
  rw [run_remaining_bind]
  cases ts with
  | nil => exact .ok_self e []
  | cons t ts =>
    refine .error_self rfl ?_
    obtain ⟨kind, text⟩ := t
    cases kind with
    | delimiter =>
      by_cases hclose : text = ")"
      · subst hclose
        exact Failure.fits_unbalanced ts
      · have hkind : leftover (.sign text) = .unsupportedOperator := if_neg hclose
        rw [hkind]
        exact Failure.fits_of_unspecific (by decide : ErrorKind.unsupportedOperator.Unspecific) 0 0
    | unknown => exact Failure.fits_unknown 0 0 text ts
    | _ => exact Failure.fits_of_unspecific (by decide : ErrorKind.malformed.Unspecific) 0 0

end Parser

end Formula
