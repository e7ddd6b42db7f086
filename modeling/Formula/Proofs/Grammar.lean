import Formula.Proofs.Parser.Run

/-!
# The grammar of bodies

Which lists of tokens are expressions, said by rules and without a parser. A derivation comes with a
reading: the tree that it stands for, and what the limits of a formula ask about it, namely how many
levels of nesting are open at the same time and where it assigns. `Reading.Admitted` states these
limits, and its lemmas say how each rule passes them on to its parts.
-/

namespace Formula

/-- The phrases of a body. A chain has operands of one category, separated by the operators of a
level. -/
inductive Category where
  | expression
  | chain (level : Level) (operand : Category)
  | operand
  | atom

/-- Operands joined by the operators of all levels, the loosest outermost. -/
def Category.operation : Category :=
  Level.operators.foldr .chain .operand

/-- The expressions of a parenthesis. -/
def Category.sequence : Category :=
  .chain Level.comma .expression

/-- What a derivation says about its tokens: the tree, the greatest number of levels of nesting that
are open at the same time, whether there is an assignment, and whether there is one in the condition
of a conditional. -/
structure Reading where
  tree : Expr
  levels : Nat
  assigns : Bool
  conditionAssigns : Bool

namespace Reading

/-- A phrase without parts. -/
def leaf (e : Expr) : Reading :=
  ⟨e, 0, false, false⟩

/-- The same tokens as a level of nesting of their own. -/
def nest (r : Reading) : Reading :=
  { r with levels := r.levels + 1 }

/-- A phrase with one part. -/
def map (f : Expr → Expr) (r : Reading) : Reading :=
  { r with tree := f r.tree }

/-- A phrase with two parts. -/
def join (f : Expr → Expr → Expr) (r s : Reading) : Reading :=
  ⟨f r.tree s.tree, max r.levels s.levels, r.assigns || s.assigns,
    r.conditionAssigns || s.conditionAssigns⟩

/-- An assignment. -/
def assign (slot : Nat) (r : Reading) : Reading :=
  { r.map (.assign slot) with assigns := true }

/-- A phrase with three parts. -/
def join3 (f : Expr → Expr → Expr → Expr) (r s t : Reading) : Reading :=
  ⟨f r.tree s.tree t.tree, max r.levels (max s.levels t.levels),
    r.assigns || s.assigns || t.assigns,
    r.conditionAssigns || s.conditionAssigns || t.conditionAssigns⟩

/-- A conditional; what its condition assigns is assigned in a condition. -/
def conditional (c yes no : Reading) : Reading :=
  { join3 .conditional c yes no with
    conditionAssigns :=
      c.assigns || c.conditionAssigns || yes.conditionAssigns || no.conditionAssigns }

/-- The limits of a place: the levels of nesting that it has left, that nothing is assigned if it
`forbids` so, and that conditions do not assign unless they are `allowed` to. -/
structure Admitted (allowed : Bool) (room : Nat) (forbids : Bool) (r : Reading) : Prop where
  levels_le : r.levels ≤ room
  assigns_eq : forbids = true → r.assigns = false
  conditionAssigns_eq : allowed = false → r.conditionAssigns = false

variable {allowed forbids : Bool} {room : Nat} {r s t c yes no : Reading}

/-- A phrase without parts is within all limits. -/
lemma admitted_leaf (e : Expr) : (leaf e).Admitted allowed room forbids :=
  ⟨Nat.zero_le _, fun _ => rfl, fun _ => rfl⟩

/-- A level of nesting takes one level of the room. -/
lemma admitted_nest_iff :
    r.nest.Admitted allowed (room + 1) forbids ↔ r.Admitted allowed room forbids := by
  refine ⟨?_, ?_⟩
  · intro h
    exact ⟨Nat.le_of_succ_le_succ h.levels_le, h.assigns_eq, h.conditionAssigns_eq⟩
  · intro h
    exact ⟨Nat.succ_le_succ h.levels_le, h.assigns_eq, h.conditionAssigns_eq⟩

/-- Without room there is no level of nesting. -/
lemma not_admitted_nest_zero : ¬r.nest.Admitted allowed 0 forbids :=
  fun h => Nat.not_succ_le_zero _ h.levels_le

/-- The limits do not look at the tree. -/
lemma admitted_map_iff {f : Expr → Expr} :
    (r.map f).Admitted allowed room forbids ↔ r.Admitted allowed room forbids :=
  ⟨fun h => ⟨h.levels_le, h.assigns_eq, h.conditionAssigns_eq⟩,
    fun h => ⟨h.levels_le, h.assigns_eq, h.conditionAssigns_eq⟩⟩

/-- A phrase of two parts is within the limits if both parts are. -/
lemma admitted_join_iff {f : Expr → Expr → Expr} :
    (r.join f s).Admitted allowed room forbids ↔
      r.Admitted allowed room forbids ∧ s.Admitted allowed room forbids := by
  refine ⟨?_, ?_⟩
  · intro h
    obtain ⟨hl, ha, hc⟩ := h
    simp only [join, Nat.max_le, Bool.or_eq_false_iff] at hl ha hc
    exact ⟨⟨hl.1, fun h => (ha h).1, fun h => (hc h).1⟩,
      ⟨hl.2, fun h => (ha h).2, fun h => (hc h).2⟩⟩
  · intro h
    obtain ⟨hr, hs⟩ := h
    refine ⟨Nat.max_le.2 ⟨hr.levels_le, hs.levels_le⟩, fun h => ?_, fun h => ?_⟩
    · simp [join, hr.assigns_eq h, hs.assigns_eq h]
    · simp [join, hr.conditionAssigns_eq h, hs.conditionAssigns_eq h]

/-- A phrase of three parts is within the limits if all parts are. -/
lemma admitted_join3_iff {f : Expr → Expr → Expr → Expr} :
    (r.join3 f s t).Admitted allowed room forbids ↔
      r.Admitted allowed room forbids ∧ s.Admitted allowed room forbids ∧
        t.Admitted allowed room forbids := by
  refine ⟨?_, ?_⟩
  · intro h
    obtain ⟨hl, ha, hc⟩ := h
    simp only [join3, Nat.max_le, Bool.or_eq_false_iff] at hl ha hc
    exact ⟨⟨hl.1, fun h => (ha h).1.1, fun h => (hc h).1.1⟩,
      ⟨hl.2.1, fun h => (ha h).1.2, fun h => (hc h).1.2⟩,
      ⟨hl.2.2, fun h => (ha h).2, fun h => (hc h).2⟩⟩
  · intro h
    obtain ⟨hr, hs, ht⟩ := h
    refine ⟨Nat.max_le.2 ⟨hr.levels_le, Nat.max_le.2 ⟨hs.levels_le, ht.levels_le⟩⟩,
      fun h => ?_, fun h => ?_⟩
    · simp [join3, hr.assigns_eq h, hs.assigns_eq h, ht.assigns_eq h]
    · simp [join3, hr.conditionAssigns_eq h, hs.conditionAssigns_eq h, ht.conditionAssigns_eq h]

/-- An assignment is within the limits if nothing forbids it and its value is. -/
lemma admitted_assign_iff {slot : Nat} :
    (r.assign slot).Admitted allowed room forbids ↔
      forbids = false ∧ r.Admitted allowed room forbids := by
  refine ⟨?_, ?_⟩
  · intro h
    obtain ⟨hl, ha, hc⟩ := h
    have hf : forbids = false := by
      cases forbids with
      | false => rfl
      | true => exact absurd (ha rfl) (by simp [assign])
    exact ⟨hf, hl, by simp [hf], hc⟩
  · intro h
    obtain ⟨rfl, h⟩ := h
    exact ⟨h.levels_le, nofun, h.conditionAssigns_eq⟩

/-- A conditional is within the limits if its parts are; assignments in its condition are forbidden
where they are forbidden around it, and everywhere unless conditions are allowed to assign. -/
lemma admitted_conditional_iff :
    (c.conditional yes no).Admitted allowed room forbids ↔
      c.Admitted allowed room (forbids || !allowed) ∧ yes.Admitted allowed room forbids ∧
        no.Admitted allowed room forbids := by
  refine ⟨?_, ?_⟩
  · intro h
    obtain ⟨hl, ha, hc⟩ := h
    simp only [conditional, join3, Nat.max_le, Bool.or_eq_false_iff] at hl ha hc
    refine ⟨⟨hl.1, fun h => ?_, fun h => (hc h).1.1.2⟩,
      ⟨hl.2.1, fun h => (ha h).1.2, fun h => (hc h).1.2⟩,
      ⟨hl.2.2, fun h => (ha h).2, fun h => (hc h).2⟩⟩
    rcases Bool.or_eq_true_iff.1 h with hf | hn
    · exact (ha hf).1.1
    · exact (hc (by simpa using hn)).1.1.1
  · intro h
    obtain ⟨hc, hyes, hno⟩ := h
    refine ⟨Nat.max_le.2 ⟨hc.levels_le, Nat.max_le.2 ⟨hyes.levels_le, hno.levels_le⟩⟩,
      fun h => ?_, fun h => ?_⟩
    · simp [conditional, join3, hc.assigns_eq (by simp [h]), hyes.assigns_eq h, hno.assigns_eq h]
    · simp [conditional, hc.assigns_eq (by simp [h]), hc.conditionAssigns_eq h,
        hyes.conditionAssigns_eq h, hno.conditionAssigns_eq h]

end Reading

/-- The rules of the grammar. Expressions and operands each open a level of nesting; a call has as
many arguments as its function asks for. -/
inductive Derives (ps : Parameters) : Category → List Token → Reading → Prop where
  | assign {name slot ts r} :
    ps.slot? name = some slot →
    Derives ps .expression ts r →
    Derives ps .expression (.word name :: .sign "=" :: ts) (r.assign slot).nest
  | operation {ts r} :
    Derives ps .operation ts r →
    Derives ps .expression ts r.nest
  | single {level c ts r} :
    Derives ps c ts r →
    Derives ps (.chain level c) ts r
  | more {level c text op ts us r s} :
    Derives ps (.chain level c) ts r →
    level.lookup text = some op →
    Derives ps c us s →
    Derives ps (.chain level c) (ts ++ .sign text :: us) (r.join op.join s)
  | plus {ts r} :
    Derives ps .operand ts r →
    Derives ps .operand (.sign "+" :: ts) r.nest
  | prefixed {text op ts r} :
    UnaryOp.ofSign? text = some op →
    Derives ps .operand ts r →
    Derives ps .operand (.sign text :: ts) (r.map (.unary op)).nest
  | atom {ts r} :
    Derives ps .atom ts r →
    Derives ps .operand ts r.nest
  | number {text} :
    Derives ps .atom [⟨.number, text⟩] (.leaf (.const (Parser.numberValue text.toList)))
  | hexNumber {text} :
    Derives ps .atom [⟨.hexNumber, text⟩] (.leaf (.const (Parser.hexValue text.toList)))
  | constant {name value} :
    Catalogue.constant? name = some value →
    Derives ps .atom [.word name] (.leaf (.const value))
  | param {name slot} :
    Catalogue.callee? name = none →
    Catalogue.constant? name = none →
    ps.slot? name = some slot →
    Derives ps .atom [.word name] (.leaf (.param slot))
  | parenthesis {ts r} :
    Derives ps .sequence ts r →
    Derives ps .atom (.sign "(" :: (ts ++ [.sign ")"])) r
  | call1 {name f as a} :
    Catalogue.callee? name = some (.function (.one f)) →
    Derives ps .expression as a →
    Derives ps .atom (.word name :: .sign "(" :: (as ++ [.sign ")"])) (a.map (.call1 f))
  | call2 {name f as bs a b} :
    Catalogue.callee? name = some (.function (.two f)) →
    Derives ps .expression as a →
    Derives ps .expression bs b →
    Derives ps .atom (.word name :: .sign "(" :: (as ++ .sign "," :: (bs ++ [.sign ")"])))
      (a.join (.call2 f) b)
  | numberFormat {name as bs cs a b c} :
    Catalogue.callee? name = some (.function .numberFormat) →
    Derives ps .expression as a →
    Derives ps .expression bs b →
    Derives ps .expression cs c →
    Derives ps .atom
      (.word name :: .sign "(" :: (as ++ .sign "," :: (bs ++ .sign "," :: (cs ++ [.sign ")"]))))
      (a.join3 .numberFormat b c)
  | conditional {name cs ys ns c yes no} :
    Catalogue.callee? name = some .conditional →
    Derives ps .expression cs c →
    Derives ps .expression ys yes →
    Derives ps .expression ns no →
    Derives ps .atom
      (.word name :: .sign "(" :: (cs ++ .sign "," :: (ys ++ .sign "," :: (ns ++ [.sign ")"]))))
      (c.conditional yes no)

end Formula
