import Formula.Proofs.Parser.Completeness
import Mathlib.Data.List.Chain
import Mathlib.Data.List.Forall2

/-!
# Tokens that the grammar does not tell apart

A phrase in which names are replaced by names of the same thing, and operators by signs of the same
operators, is a phrase with the same reading (`Derives.replace`). How signs can follow each other in a
phrase is told from its ends: of two in a row, the first closes a parenthesis or the second starts an
operand (`Derives.isChain`).
-/

namespace Formula

/-- The levels of all chains: the comma, and the operators. -/
def Level.all : List Level :=
  comma :: operators

/-- The levels of the chains that a category consists of, down to its first operand. -/
def Category.levels : Category → List Level
  | .chain level c => level :: c.levels
  | .expression | .operand | .atom => []

namespace Token

/-- The signs that the rules of the grammar ask for. -/
def marks : List String :=
  ["(", ")", ",", "=", "+"]

/-- Two names of the same thing. -/
structure SameName (ps : Parameters) (name name' : String) : Prop where
  callee?_eq : Catalogue.callee? name' = Catalogue.callee? name
  constant?_eq : Catalogue.constant? name' = Catalogue.constant? name
  slot?_eq : ps.slot? name' = ps.slot? name

/-- Two signs of the same operators. -/
structure SameSign (sign sign' : String) : Prop where
  ofSign?_eq : UnaryOp.ofSign? sign' = UnaryOp.ofSign? sign
  lookup_eq : ∀ level ∈ Level.all, level.lookup sign' = level.lookup sign

/-- A token, and one that can be put in its place. -/
inductive Like (ps : Parameters) : Token → Token → Prop where
  | same (t) : Like ps t t
  | word {name name'} : SameName ps name name' → Like ps (.word name) (.word name')
  | sign {sign sign'} : sign ∉ marks → SameSign sign sign' → Like ps (.sign sign) (.sign sign')

/-- A sign that an operand can start with. -/
def StartsOperand (sign : String) : Prop :=
  sign = "(" ∨ sign = "+" ∨ (UnaryOp.ofSign? sign).isSome = true

/-- Two tokens in a row: of two signs, the first closes a parenthesis or the second starts an operand. -/
def Precedes (t u : Token) : Prop :=
  ∀ sign sign', t = .sign sign → u = .sign sign' → sign = ")" ∨ StartsOperand sign'

variable {ps : Parameters} {ts us vs : List Token} {name sign : String}

/-- A list that goes with two lists one after the other has a part for each. -/
lemma exists_of_forall₂_append (h : List.Forall₂ (Like ps) (ts ++ us) vs) :
    ∃ ts' us', vs = ts' ++ us' ∧ List.Forall₂ (Like ps) ts ts' ∧ List.Forall₂ (Like ps) us us' := by
  induction ts generalizing vs with
  | nil => exact ⟨[], vs, rfl, .nil, h⟩
  | cons t ts ih =>
    obtain ⟨t', vs', ht, hvs, rfl⟩ := List.forall₂_cons_left_iff.1 h
    obtain ⟨ts', us', rfl, hts, hus⟩ := ih hvs
    exact ⟨t' :: ts', us', rfl, .cons ht hts, hus⟩

/-- In the place of a name is a name of the same thing. -/
lemma exists_of_forall₂_word (h : List.Forall₂ (Like ps) (.word name :: ts) vs) :
    ∃ name' ts', vs = .word name' :: ts' ∧ SameName ps name name' ∧
      List.Forall₂ (Like ps) ts ts' := by
  obtain ⟨t, ts', ht, hts, rfl⟩ := List.forall₂_cons_left_iff.1 h
  cases ht with
  | same => exact ⟨name, ts', rfl, ⟨rfl, rfl, rfl⟩, hts⟩
  | word hname => exact ⟨_, ts', rfl, hname, hts⟩

/-- In the place of a sign is a sign of the same operators. -/
lemma exists_of_forall₂_sign (h : List.Forall₂ (Like ps) (.sign sign :: ts) vs) :
    ∃ sign' ts', vs = .sign sign' :: ts' ∧ SameSign sign sign' ∧ List.Forall₂ (Like ps) ts ts' := by
  obtain ⟨t, ts', ht, hts, rfl⟩ := List.forall₂_cons_left_iff.1 h
  cases ht with
  | same => exact ⟨sign, ts', rfl, ⟨rfl, fun _ _ => rfl⟩, hts⟩
  | sign _ hsign => exact ⟨_, ts', rfl, hsign, hts⟩

/-- In the place of a sign that the rules ask for is the sign itself. -/
lemma exists_of_forall₂_mark (hsign : sign ∈ marks)
    (h : List.Forall₂ (Like ps) (.sign sign :: ts) vs) :
    ∃ ts', vs = .sign sign :: ts' ∧ List.Forall₂ (Like ps) ts ts' := by
  obtain ⟨t, ts', ht, hts, rfl⟩ := List.forall₂_cons_left_iff.1 h
  cases ht with
  | same => exact ⟨ts', rfl, hts⟩
  | sign hnot => exact absurd hsign hnot

/-- In the place of a name with a sign behind it that the rules ask for is a name of the same thing with
the sign behind it. -/
lemma exists_of_forall₂_named (hsign : sign ∈ marks)
    (h : List.Forall₂ (Like ps) (.word name :: .sign sign :: ts) vs) :
    ∃ name' ts', vs = .word name' :: .sign sign :: ts' ∧ SameName ps name name' ∧
      List.Forall₂ (Like ps) ts ts' := by
  obtain ⟨name', _, rfl, hname, hmark⟩ := exists_of_forall₂_word h
  obtain ⟨ts', rfl, hts⟩ := exists_of_forall₂_mark hsign hmark
  exact ⟨name', ts', rfl, hname, hts⟩

/-- In the place of a phrase with a sign behind it, where the rules ask for the sign, is a phrase with
the sign behind it. -/
lemma exists_of_forall₂_closed (hsign : sign ∈ marks)
    (h : List.Forall₂ (Like ps) (ts ++ .sign sign :: us) vs) :
    ∃ ts' us', vs = ts' ++ .sign sign :: us' ∧ List.Forall₂ (Like ps) ts ts' ∧
      List.Forall₂ (Like ps) us us' := by
  obtain ⟨ts', _, rfl, hts, h⟩ := exists_of_forall₂_append h
  obtain ⟨us', rfl, hus⟩ := exists_of_forall₂_mark hsign h
  exact ⟨ts', us', rfl, hts, hus⟩

/-- In the place of three arguments and the parenthesis behind them are three arguments and the
parenthesis. -/
lemma exists_of_forall₂_three {as bs cs : List Token}
    (h : List.Forall₂ (Like ps) (as ++ .sign "," :: (bs ++ .sign "," :: (cs ++ [.sign ")"]))) vs) :
    ∃ as' bs' cs', vs = as' ++ .sign "," :: (bs' ++ .sign "," :: (cs' ++ [.sign ")"])) ∧
      List.Forall₂ (Like ps) as as' ∧ List.Forall₂ (Like ps) bs bs' ∧
        List.Forall₂ (Like ps) cs cs' := by
  obtain ⟨as', _, rfl, has, hbehind⟩ := exists_of_forall₂_closed (by decide) h
  obtain ⟨bs', _, rfl, hbs, hlast⟩ := exists_of_forall₂_closed (by decide) hbehind
  obtain ⟨cs', _, rfl, hcs, hend⟩ := exists_of_forall₂_closed (by decide) hlast
  obtain rfl := List.forall₂_nil_left_iff.1 hend
  exact ⟨as', bs', cs', rfl, has, hbs, hcs⟩

/-- In the place of a single token of another kind than a name or a sign is the token itself. -/
lemma eq_singleton_of_forall₂ {t : Token} (hword : t.kind ≠ .identifier)
    (hsign : t.kind ≠ .delimiter) (h : List.Forall₂ (Like ps) [t] vs) : vs = [t] := by
  obtain ⟨t', ts', ht, hts, rfl⟩ := List.forall₂_cons_left_iff.1 h
  obtain rfl := List.forall₂_nil_left_iff.1 hts
  cases ht with
  | same => rfl
  | word => exact absurd rfl hword
  | sign => exact absurd rfl hsign

end Token

namespace Derives
open Formula.Token

variable {ps : Parameters} {c : Category} {ts us : List Token} {r : Reading} {t : Token}
  {sign : String}

/-- A phrase whose tokens are replaced is a phrase with the same reading. -/
lemma replace (h : Derives ps c ts r) (hc : c.levels ⊆ Level.all)
    (hus : List.Forall₂ (Like ps) ts us) : Derives ps c us r := by
  have hexpression : Category.expression.levels ⊆ Level.all := List.nil_subset _
  have hoperand : Category.operand.levels ⊆ Level.all := List.nil_subset _
  induction h generalizing us with
  | assign hslot _ ih =>
    obtain ⟨name', vs, rfl, hname, hvs⟩ := exists_of_forall₂_named (by decide) hus
    exact .assign (hname.slot?_eq.trans hslot) (ih hexpression hvs)
  | operation _ ih => exact .operation (ih (List.subset_cons_self _ _) hus)
  | single _ ih => exact .single (ih (List.cons_subset.1 hc).2 hus)
  | more _ hop _ ihl ihr =>
    obtain ⟨hlevel, hright⟩ := List.cons_subset.1 hc
    obtain ⟨ls, _, rfl, hls, hrest⟩ := exists_of_forall₂_append hus
    obtain ⟨sign', rs, rfl, hsign, hrs⟩ := exists_of_forall₂_sign hrest
    exact .more (ihl hc hls) ((hsign.lookup_eq _ hlevel).trans hop) (ihr hright hrs)
  | plus _ ih =>
    obtain ⟨vs, rfl, hvs⟩ := exists_of_forall₂_mark (by decide) hus
    exact .plus (ih hoperand hvs)
  | prefixed hop _ ih =>
    obtain ⟨sign', vs, rfl, hsign, hvs⟩ := exists_of_forall₂_sign hus
    exact .prefixed (hsign.ofSign?_eq.trans hop) (ih hoperand hvs)
  | atom _ ih => exact .atom (ih (List.nil_subset _) hus)
  | number =>
    obtain rfl := eq_singleton_of_forall₂ (by simp) (by simp) hus
    exact .number
  | hexNumber =>
    obtain rfl := eq_singleton_of_forall₂ (by simp) (by simp) hus
    exact .hexNumber
  | constant hvalue =>
    obtain ⟨name', _, rfl, hname, hend⟩ := exists_of_forall₂_word hus
    obtain rfl := List.forall₂_nil_left_iff.1 hend
    exact .constant (hname.constant?_eq.trans hvalue)
  | param hcallee hconstant hslot =>
    obtain ⟨name', _, rfl, hname, hend⟩ := exists_of_forall₂_word hus
    obtain rfl := List.forall₂_nil_left_iff.1 hend
    exact .param (hname.callee?_eq.trans hcallee) (hname.constant?_eq.trans hconstant)
      (hname.slot?_eq.trans hslot)
  | parenthesis _ ih =>
    obtain ⟨_, rfl, hinner⟩ := exists_of_forall₂_mark (by decide) hus
    obtain ⟨vs, _, rfl, hvs, hend⟩ := exists_of_forall₂_closed (by decide) hinner
    obtain rfl := List.forall₂_nil_left_iff.1 hend
    exact .parenthesis (ih (List.cons_subset.2 ⟨List.mem_cons_self, List.nil_subset _⟩) hvs)
  | call1 hf _ iha =>
    obtain ⟨name', _, rfl, hname, harguments⟩ := exists_of_forall₂_named (by decide) hus
    obtain ⟨as, _, rfl, has, hend⟩ := exists_of_forall₂_closed (by decide) harguments
    obtain rfl := List.forall₂_nil_left_iff.1 hend
    exact .call1 (hname.callee?_eq.trans hf) (iha hexpression has)
  | call2 hf _ _ iha ihb =>
    obtain ⟨name', _, rfl, hname, harguments⟩ := exists_of_forall₂_named (by decide) hus
    obtain ⟨as, _, rfl, has, hlast⟩ := exists_of_forall₂_closed (by decide) harguments
    obtain ⟨bs, _, rfl, hbs, hend⟩ := exists_of_forall₂_closed (by decide) hlast
    obtain rfl := List.forall₂_nil_left_iff.1 hend
    exact .call2 (hname.callee?_eq.trans hf) (iha hexpression has) (ihb hexpression hbs)
  | numberFormat hf _ _ _ iha ihb ihc =>
    obtain ⟨name', _, rfl, hname, harguments⟩ := exists_of_forall₂_named (by decide) hus
    obtain ⟨as, bs, cs, rfl, has, hbs, hcs⟩ := exists_of_forall₂_three harguments
    exact .numberFormat (hname.callee?_eq.trans hf) (iha hexpression has) (ihb hexpression hbs)
      (ihc hexpression hcs)
  | conditional hf _ _ _ ihc ihyes ihno =>
    obtain ⟨name', _, rfl, hname, harguments⟩ := exists_of_forall₂_named (by decide) hus
    obtain ⟨cs, ys, ns, rfl, hcs, hys, hns⟩ := exists_of_forall₂_three harguments
    exact .conditional (hname.callee?_eq.trans hf) (ihc hexpression hcs) (ihyes hexpression hys)
      (ihno hexpression hns)

/-- Where a phrase starts with a sign, an operand can start with it. -/
lemma startsOperand_of_head? (h : Derives ps c ts r) (hts : ts.head? = some (.sign sign)) :
    StartsOperand sign := by
  induction h with
  | operation _ ih => exact ih hts
  | single _ ih => exact ih hts
  | atom _ ih => exact ih hts
  | more hd _ _ ih =>
    rw [List.head?_append_of_ne_nil _ hd.ne_nil] at hts
    exact ih hts
  | plus =>
    cases hts
    exact .inr (.inl rfl)
  | prefixed hop =>
    cases hts
    exact .inr (.inr (by rw [hop]; rfl))
  | parenthesis =>
    cases hts
    exact .inl rfl
  | _ => cases hts

/-- Where a phrase ends with a sign, it closes a parenthesis. -/
lemma eq_close_of_getLast? (h : Derives ps c ts r) (hts : ts.getLast? = some (.sign sign)) :
    sign = ")" := by
  have hlast (us : List Token) {vs : List Token} (hvs : vs ≠ [])
      (h : (us ++ vs).getLast? = some (.sign sign)) : vs.getLast? = some (.sign sign) := by
    rwa [List.getLast?_append_of_ne_nil _ hvs] at h
  induction h with
  | @assign name _ ts _ _ hd ih => exact ih (hlast [.word name, .sign "="] hd.ne_nil hts)
  | operation _ ih => exact ih hts
  | single _ ih => exact ih hts
  | @more _ _ text _ ts us _ _ _ _ hd _ ih =>
    rw [List.append_cons] at hts
    exact ih (hlast _ hd.ne_nil hts)
  | plus hd ih => exact ih (hlast [.sign "+"] hd.ne_nil hts)
  | @prefixed text _ _ _ _ hd ih => exact ih (hlast [.sign text] hd.ne_nil hts)
  | atom _ ih => exact ih hts
  | number => cases hts
  | hexNumber => cases hts
  | constant => cases hts
  | param => cases hts
  | _ =>
    have hend : ")" = sign := by simpa [List.getLast?_cons, List.getLast?_append] using hts
    exact hend.symm

/-- A phrase may follow any token. -/
lemma isChain_cons (h : Derives ps c ts r) (t : Token) (hts : ts.IsChain Precedes) :
    (t :: ts).IsChain Precedes :=
  hts.cons fun _ hu _ _ _ hsign => .inr (h.startsOperand_of_head? (hsign ▸ hu))

/-- Any tokens may follow a phrase. -/
lemma isChain_append (h : Derives ps c ts r) (hts : ts.IsChain Precedes)
    (hus : us.IsChain Precedes) : (ts ++ us).IsChain Precedes :=
  hts.append hus fun _ ht _ _ _ _ hsign _ => .inl (h.eq_close_of_getLast? (hsign ▸ ht))

/-- A phrase may stand between any tokens. -/
lemma isChain_between (h : Derives ps c ts r) (t : Token) (hts : ts.IsChain Precedes)
    (hus : us.IsChain Precedes) : (t :: (ts ++ us)).IsChain Precedes := by
  have hlast : (t :: ts).getLast? = ts.getLast? := List.getLast?_cons_of_ne_nil h.ne_nil
  refine (h.isChain_cons t hts).append hus fun u hu _ _ _ _ hsign _ => .inl ?_
  exact h.eq_close_of_getLast? (hsign ▸ hlast ▸ hu)

/-- Of two signs in a row in a phrase, the first closes a parenthesis or the second starts an operand.
-/
lemma isChain (h : Derives ps c ts r) : ts.IsChain Precedes := by
  have hword (name : String) (t : Token) : Precedes (.word name) t := nofun
  induction h with
  | assign _ hd ih => exact .cons_cons (hword _ _) (hd.isChain_cons _ ih)
  | operation _ ih => exact ih
  | single _ ih => exact ih
  | more hl _ hr ihl ihr => exact hl.isChain_append ihl (hr.isChain_cons _ ihr)
  | plus hd ih => exact hd.isChain_cons _ ih
  | prefixed _ hd ih => exact hd.isChain_cons _ ih
  | atom _ ih => exact ih
  | number => exact .singleton _
  | hexNumber => exact .singleton _
  | constant => exact .singleton _
  | param => exact .singleton _
  | parenthesis hd ih => exact hd.isChain_between _ ih (.singleton _)
  | call1 _ ha iha => exact .cons_cons (hword _ _) (ha.isChain_between _ iha (.singleton _))
  | call2 _ ha hb iha ihb =>
    have hlast := hb.isChain_between (.sign ",") ihb (.singleton (.sign ")"))
    exact .cons_cons (hword _ _) (ha.isChain_between _ iha hlast)
  | numberFormat _ ha hb hc iha ihb ihc =>
    have hlast := hc.isChain_between (.sign ",") ihc (.singleton (.sign ")"))
    have hbehind := hb.isChain_between (.sign ",") ihb hlast
    exact .cons_cons (hword _ _) (ha.isChain_between _ iha hbehind)
  | conditional _ hc hyes hno ihc ihyes ihno =>
    have hlast := hno.isChain_between (.sign ",") ihno (.singleton (.sign ")"))
    have hbehind := hyes.isChain_between (.sign ",") ihyes hlast
    exact .cons_cons (hword _ _) (hc.isChain_between _ ihc hbehind)

end Derives

end Formula
