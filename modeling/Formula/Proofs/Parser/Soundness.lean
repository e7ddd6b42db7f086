import Formula.Proofs.Grammar

/-!
# What parsers accept

Every success of a parser has a derivation behind it, whose reading has the tree that the parser
returns and stays within the limits that the parser was given. The loop of a chain is followed by
its own recursion, with the derivation of what was read so far as the invariant; the two mutually
recursive parsers are followed by the levels of nesting that they have left.
-/

namespace Formula.Parser

/-- A parser for a category succeeds only on derivations within the given limits. -/
def Sound (ps : Parameters) (c : Category) (limits : Reading → Prop) (p : Parser Expr) : Prop :=
  ∀ ⦃ts e rest⦄, p.run ts = .ok (e, rest) →
    ∃ us r, ts = us ++ rest ∧ Derives ps c us r ∧ r.tree = e ∧ limits r

variable {ps : Parameters} {c : Category} {allowed forbids : Bool} {room : Nat}

/-- The loop of a chain extends the derivation of what was read before. -/
lemma runChain_sound {level : Level} {p : Parser Expr}
    (hp : Sound ps c (·.Admitted allowed room forbids) p) {left : Expr} {seen ts : List Token}
    {r : Reading} {e : Expr} {rest : List Token} (hr : Derives ps (.chain level c) seen r)
    (htree : r.tree = left) (hadm : r.Admitted allowed room forbids)
    (h : runChain level p left ts = .ok (e, rest)) :
    ∃ us s, ts = us ++ rest ∧ Derives ps (.chain level c) (seen ++ us) s ∧ s.tree = e ∧
      s.Admitted allowed room forbids := by
  -- The loop ends at the end of the tokens or before a token that is no operator of the level; it
  -- fails with an operand, or it goes on after one.
  fun_induction runChain level p left ts generalizing seen r with
  | case1 left =>
    cases h
    exact ⟨[], r, rfl, by simpa using hr, htree, hadm⟩
  | case2 left t ts hop =>
    cases h
    exact ⟨[], r, rfl, by simpa using hr, htree, hadm⟩
  | case3 => cases h
  | case4 left t ts op hop right ts' hright ih =>
    obtain ⟨us, s, rfl, hs, rfl, hsadm⟩ := hp hright
    obtain ⟨text, rfl, hlookup⟩ := operator?_eq_some_iff.1 hop
    have hmore : Derives ps (.chain level c) (seen ++ .sign text :: us) (r.join op.join s) :=
      .more hr hlookup hs
    obtain ⟨vs, s', rfl, hs', htree', hadm'⟩ :=
      ih hmore (by rw [← htree]; rfl) (Reading.admitted_join_iff.2 ⟨hadm, hsadm⟩) h
    exact ⟨.sign text :: us ++ vs, s', by simp, by simpa using hs', htree', hadm'⟩

/-- A chain is sound if its operands are. -/
lemma Sound.chain {level : Level} {p : Parser Expr}
    (hp : Sound ps c (·.Admitted allowed room forbids) p) :
    Sound ps (.chain level c) (·.Admitted allowed room forbids) (chain level p) := by
  intro ts e rest h
  obtain ⟨left, mid, hleft, hloop⟩ := run_bind_iff.1 h
  obtain ⟨us, r, rfl, hr, htree, hadm⟩ := hp hleft
  obtain ⟨vs, s, rfl, hs, hstree, hsadm⟩ := runChain_sound hp (.single hr) htree hadm hloop
  exact ⟨us ++ vs, s, by simp, hs, hstree, hsadm⟩

/-- The levels of operators over sound operands are sound. -/
lemma Sound.operation {p : Parser Expr}
    (hp : Sound ps .operand (·.Admitted allowed room forbids) p) :
    Sound ps .operation (·.Admitted allowed room forbids) (operation p) := by
  intro ts e rest h
  have hchain (levels : List Level) :
      Sound ps (levels.foldr .chain .operand) (·.Admitted allowed room forbids)
        (levels.foldr Parser.chain p) := by
    induction levels with
    | nil => exact hp
    | cons level levels ih => exact ih.chain
  exact hchain _ (run_operation_iff.1 h).1

/-- The arguments of a function, with the closing parenthesis. -/
lemma Sound.call {branch : Parser Expr} {name : String} {f : Function}
    (hf : Catalogue.callee? name = some (.function f))
    (hb : Sound ps .expression (·.Admitted allowed room forbids) branch) {ts rest : List Token}
    {e : Expr} (h : (call branch f).run ts = .ok (e, rest)) :
    ∃ us r, ts = us ++ rest ∧ Derives ps .atom (.word name :: us) r ∧ r.tree = e ∧
      r.Admitted allowed room forbids := by
  obtain ⟨us, rfl, -, h⟩ := run_call_iff.1 h
  cases f with
  | one f =>
    obtain ⟨a, ha, rfl⟩ := run_arguments_one_iff.1 h
    obtain ⟨as, ra, rfl, hra, rfl, hadm⟩ := hb ha
    exact ⟨.sign "(" :: (as ++ [.sign ")"]), _, by simp, .call1 hf hra, rfl,
      Reading.admitted_map_iff.2 hadm⟩
  | two f =>
    obtain ⟨a, b, _, ha, hb', rfl⟩ := run_arguments_two_iff.1 h
    obtain ⟨as, ra, rfl, hra, rfl, hadma⟩ := hb ha
    obtain ⟨bs, rb, rfl, hrb, rfl, hadmb⟩ := hb hb'
    exact ⟨.sign "(" :: (as ++ .sign "," :: (bs ++ [.sign ")"])), _, by simp, .call2 hf hra hrb,
      rfl, Reading.admitted_join_iff.2 ⟨hadma, hadmb⟩⟩
  | numberFormat =>
    obtain ⟨a, b, c, _, _, ha, hb', hc, rfl⟩ := run_arguments_numberFormat_iff.1 h
    obtain ⟨as, ra, rfl, hra, rfl, hadma⟩ := hb ha
    obtain ⟨bs, rb, rfl, hrb, rfl, hadmb⟩ := hb hb'
    obtain ⟨cs, rc, rfl, hrc, rfl, hadmc⟩ := hb hc
    exact ⟨.sign "(" :: (as ++ .sign "," :: (bs ++ .sign "," :: (cs ++ [.sign ")"]))), _, by simp,
      .numberFormat hf hra hrb hrc, rfl, Reading.admitted_join3_iff.2 ⟨hadma, hadmb, hadmc⟩⟩

/-- The parts of a conditional, with the closing parenthesis. -/
lemma Sound.conditional {condition branch : Parser Expr} {name : String}
    (hname : Catalogue.callee? name = some .conditional)
    (hc : Sound ps .expression (·.Admitted allowed room (forbids || !allowed)) condition)
    (hb : Sound ps .expression (·.Admitted allowed room forbids) branch) {ts rest : List Token}
    {e : Expr} (h : (conditional condition branch).run ts = .ok (e, rest)) :
    ∃ us r, ts = us ++ rest ∧ Derives ps .atom (.word name :: us) r ∧ r.tree = e ∧
      r.Admitted allowed room forbids := by
  obtain ⟨c, yes, no, _, _, _, rfl, hcr, hyes, hno, rfl⟩ := run_conditional_iff.1 h
  obtain ⟨cs, rc, rfl, hrc, rfl, hadmc⟩ := hc hcr
  obtain ⟨ys, ry, rfl, hry, rfl, hadmy⟩ := hb hyes
  obtain ⟨ns, rn, rfl, hrn, rfl, hadmn⟩ := hb hno
  exact ⟨.sign "(" :: (cs ++ .sign "," :: (ys ++ .sign "," :: (ns ++ [.sign ")"]))), _, by simp,
    .conditional hname hrc hry hrn, rfl,
    Reading.admitted_conditional_iff.2 ⟨hadmc, hadmy, hadmn⟩⟩

/-- A name is sound if what may stand in parentheses after it is. -/
lemma Sound.identifier {s : Scope} {condition inner : Parser Expr} {name : String}
    (hc : Sound s.parameters .expression (·.Admitted allowed room (forbids || !allowed)) condition)
    (hi : Sound s.parameters .expression (·.Admitted allowed room forbids) inner)
    {ts rest : List Token} {e : Expr}
    (h : (identifier s condition inner name).run (.word name :: ts) = .ok (e, rest)) :
    ∃ us r, .word name :: ts = us ++ rest ∧ Derives s.parameters .atom us r ∧ r.tree = e ∧
      r.Admitted allowed room forbids := by
  cases hcallee : Catalogue.callee? name with
  | some callee =>
    cases callee with
    | function f =>
      rw [run_identifier_function hcallee] at h
      obtain ⟨us, r, rfl, hr⟩ := Sound.call hcallee hi h
      exact ⟨_, r, rfl, hr⟩
    | conditional =>
      rw [run_identifier_conditional hcallee] at h
      obtain ⟨us, r, rfl, hr⟩ := Sound.conditional hcallee hc hi h
      exact ⟨_, r, rfl, hr⟩
  | none =>
    cases hconst : Catalogue.constant? name with
    | some value =>
      rw [run_identifier_constant hcallee hconst] at h
      cases h
      exact ⟨[.word name], _, rfl, .constant hconst, rfl, Reading.admitted_leaf _⟩
    | none =>
      cases hslot : s.parameters.slot? name with
      | some slot =>
        rw [run_identifier_param hcallee hconst hslot] at h
        cases h
        exact ⟨[.word name], _, rfl, .param hcallee hconst hslot, rfl, Reading.admitted_leaf _⟩
      | none => exact ((run_identifier_unknown_iff hcallee hconst hslot).1 h).elim

/-- An atom is sound if what may stand in its parentheses is. -/
lemma Sound.atom {s : Scope} {condition inner : Parser Expr}
    (hc : Sound s.parameters .expression (·.Admitted allowed room (forbids || !allowed)) condition)
    (hi : Sound s.parameters .expression (·.Admitted allowed room forbids) inner) :
    Sound s.parameters .atom (·.Admitted allowed room forbids) (atom s condition inner) := by
  intro ts e rest h
  cases ts with
  | nil => exact (run_atom_nil_iff.1 h).elim
  | cons t ts =>
    obtain ⟨kind, text⟩ := t
    cases kind with
    | delimiter =>
      obtain ⟨rfl, hchain⟩ := run_atom_sign_iff.1 h
      obtain ⟨us, r, rfl, hr, htree, hadm⟩ := hi.chain hchain
      exact ⟨.sign "(" :: (us ++ [.sign ")"]), r, by simp, .parenthesis hr, htree, hadm⟩
    | identifier =>
      rw [run_atom_word] at h
      exact Sound.identifier hc hi h
    | number =>
      rw [run_atom_number] at h
      cases h
      exact ⟨[⟨.number, text⟩], _, rfl, .number, rfl, Reading.admitted_leaf _⟩
    | hexNumber =>
      rw [run_atom_hexNumber] at h
      cases h
      exact ⟨[⟨.hexNumber, text⟩], _, rfl, .hexNumber, rfl, Reading.admitted_leaf _⟩
    | unknown => exact (run_atom_unknown_iff.1 h).elim
    | finished => exact (run_atom_finished_iff.1 h).elim

/-- Expressions and operands are sound, whatever number of levels of nesting they have left. -/
lemma sound_of_room (allowed : Bool) (room : Nat) :
    (∀ s : Scope, Sound s.parameters .expression (·.Admitted allowed room s.noAssignment)
      (expression allowed room s)) ∧
    (∀ s : Scope, Sound s.parameters .operand (·.Admitted allowed room s.noAssignment)
      (operand allowed room s)) := by
  -- Each of the two calls the other one with a level less, so neither can be followed alone.
  induction room with
  | zero =>
    refine ⟨?_, ?_⟩
    · intro s ts e rest h
      exact (run_fail_iff.1 h).elim
    · intro s ts e rest h
      exact (run_fail_iff.1 h).elim
  | succ room ih =>
    obtain ⟨ihe, iho⟩ := ih
    refine ⟨?_, ?_⟩
    · intro s ts e rest h
      rcases run_expression_iff.1 h with ⟨name, us, slot, v, rfl, hslot, hno, hv, rfl⟩ | ⟨-, h⟩
      · obtain ⟨vs, r, rfl, hr, rfl, hadm⟩ := ihe s hv
        exact ⟨.word name :: .sign "=" :: vs, (r.assign slot).nest, rfl, .assign hslot hr, rfl,
          Reading.admitted_nest_iff.2 (Reading.admitted_assign_iff.2 ⟨hno, hadm⟩)⟩
      · obtain ⟨us, r, rfl, hr, rfl, hadm⟩ := Sound.operation (iho s) h
        exact ⟨us, r.nest, rfl, .operation hr, rfl, Reading.admitted_nest_iff.2 hadm⟩
    · intro s ts e rest h
      rcases run_operand_iff.1 h with
        ⟨us, rfl, h⟩ | ⟨text, op, us, v, rfl, hsign, hv, rfl⟩ | ⟨-, -, h⟩
      · obtain ⟨vs, r, rfl, hr, rfl, hadm⟩ := iho s h
        exact ⟨.sign "+" :: vs, r.nest, rfl, .plus hr, rfl, Reading.admitted_nest_iff.2 hadm⟩
      · obtain ⟨vs, r, rfl, hr, rfl, hadm⟩ := iho s hv
        exact ⟨.sign text :: vs, (r.map (.unary op)).nest, rfl, .prefixed hsign hr, rfl,
          Reading.admitted_nest_iff.2 (Reading.admitted_map_iff.2 hadm)⟩
      · obtain ⟨us, r, rfl, hr, rfl, hadm⟩ :=
          Sound.atom (s := s) (ihe (s.condition allowed)) (ihe s.parens) h
        exact ⟨us, r.nest, rfl, .atom hr, rfl, Reading.admitted_nest_iff.2 hadm⟩

/-- What is read as an expression is one, within the limits of its place. -/
theorem expression_sound {s : Scope} {ts rest : List Token} {e : Expr}
    (h : (expression allowed room s).run ts = .ok (e, rest)) :
    ∃ us r, ts = us ++ rest ∧ Derives s.parameters .expression us r ∧ r.tree = e ∧
      r.Admitted allowed room s.noAssignment :=
  (sound_of_room allowed room).1 s h

end Formula.Parser
