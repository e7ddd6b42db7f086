import Formula.Proofs.Compile
import Formula.Proofs.Parser.Parentheses

/-!
# A closing parenthesis that is not open

Where a parser misses an operand, and no parenthesis is open there, a number would be one, and would
make an expression of what was read (`Misses`). The other way round, a parser misses an operand if
the tokens end in the place of a number that ends an expression, and it refuses a closing
parenthesis there (`Derives.run_category_error`). A body refuses a closing parenthesis after a whole
expression as well, and nowhere else (`run_body_closing_iff`).
-/

namespace Formula

/-- Elements that go beyond the first one of a list start with it. -/
lemma exists_of_cons_eq_append {α : Type} {t : α} {ts us rest : List α} (h : t :: ts = us ++ rest)
    (hrest : rest <:+ ts) : ∃ vs, us = t :: vs ∧ ts = vs ++ rest := by
  obtain ⟨vs, rfl⟩ := hrest
  have hcons : t :: vs ++ rest = us ++ rest := h
  exact ⟨vs, (List.append_cancel_right hcons).symm, rfl⟩

/-- The last element of two lists is that of the second one, if there is any in it. -/
lemma exists_of_append_eq_concat {α : Type} {x : α} {ts us vs : List α} (h : ts ++ us = vs ++ [x])
    (hus : us ≠ []) : ∃ ws, vs = ts ++ ws ∧ us = ws ++ [x] := by
  obtain ⟨ws, y, rfl⟩ := (List.eq_nil_or_concat us).resolve_left hus
  rw [List.concat_eq_append, ← List.append_assoc] at h
  obtain ⟨rfl, hlast⟩ := List.append_inj' h rfl
  exact ⟨ws, rfl, by rw [List.concat_eq_append, hlast]⟩

namespace Parser

variable {ps : Parameters} {c : Category} {allowed forbids : Bool} {room : Nat}

/-- A parser for a category misses an operand, where no parenthesis is open, only if a number there
ends a derivation within the given limits. -/
def Misses (ps : Parameters) (c : Category) (limits : Reading → Prop) (p : Parser Expr) : Prop :=
  ∀ ⦃us f⦄, Nests 0 us 0 → f.WantsOperand → p.run (us ++ f.rest) = .error f →
    ∀ digits, ∃ r, Derives ps c (us ++ [⟨.number, digits⟩]) r ∧ limits r

/-- A phrase that is read inside balanced tokens leaves balanced ones. -/
lemma Sound.exists_balanced {p : Parser Expr}
    (hsound : Sound ps c (·.Admitted allowed room forbids) p) (htracks : Tracks 0 0 0 p)
    {us rest rest' : List Token} {e : Expr} (hus : Nests 0 us 0)
    (h : p.run (us ++ rest) = .ok (e, rest')) (hrest : rest <:+ rest') :
    ∃ vs ws r, us = vs ++ ws ∧ rest' = ws ++ rest ∧ Derives ps c vs r ∧
      r.Admitted allowed room forbids ∧ Nests 0 ws 0 := by
  obtain ⟨ws, rfl⟩ := hrest
  obtain ⟨vs, r, hvs, hr, -, hadm⟩ := hsound h
  rw [← List.append_assoc] at hvs
  obtain rfl := List.append_cancel_right hvs
  obtain ⟨vs', hvs', hnests⟩ := (htracks _).ok h
  rw [List.append_assoc] at hvs'
  obtain rfl := List.append_cancel_right hvs'
  exact ⟨vs, ws, r, rfl, rfl, hr, hadm, hus.of_append hnests⟩

/-- The loop of a chain whose operators are no parentheses. -/
lemma runChain_misses {level : Level} (hlevel : level.NoParens) {p : Parser Expr}
    (hsound : Sound ps c (·.Admitted allowed room forbids) p) (htracks : Tracks 0 0 0 p)
    (hp : Misses ps c (·.Admitted allowed room forbids) p) {left : Expr} {seen us : List Token}
    {r : Reading} {f : Failure} (hr : Derives ps (.chain level c) seen r)
    (hadm : r.Admitted allowed room forbids) (hus : Nests 0 us 0) (hf : f.WantsOperand)
    (h : runChain level p left (us ++ f.rest) = .error f) (digits : String) :
    ∃ s, Derives ps (.chain level c) (seen ++ us ++ [⟨.number, digits⟩]) s ∧
      s.Admitted allowed room forbids := by
  generalize hts : us ++ f.rest = ts at h
  fun_induction runChain level p left ts generalizing seen us r with
  | case1 => cases h
  | case2 => cases h
  | case3 left t ts op hop g hg =>
    cases h
    obtain ⟨us, rfl, rfl⟩ := exists_of_cons_eq_append hts.symm (p.suffix_of_error hg)
    obtain ⟨text, rfl, hlookup⟩ := operator?_eq_some_iff.1 hop
    obtain ⟨hopen, hclose⟩ := hlevel text op hlookup
    have htail := hus.of_cons (by simpa using hopen) (by simpa using hclose)
    obtain ⟨s, hs, hsadm⟩ := hp htail hf hg digits
    exact ⟨r.join op.join s, by simpa using hr.more hlookup hs,
      Reading.admitted_join_iff.2 ⟨hadm, hsadm⟩⟩
  | case4 left t ts op hop right rest hright ih =>
    have hrest : f.rest <:+ rest := suffix_of_runChain_error h
    obtain ⟨us, rfl, rfl⟩ :=
      exists_of_cons_eq_append hts.symm (hrest.trans (p.suffix_of_ok hright))
    obtain ⟨text, rfl, hlookup⟩ := operator?_eq_some_iff.1 hop
    obtain ⟨hopen, hclose⟩ := hlevel text op hlookup
    have htail := hus.of_cons (by simpa using hopen) (by simpa using hclose)
    obtain ⟨vs, ws, s, rfl, rfl, hs, hsadm, hws⟩ :=
      hsound.exists_balanced htracks htail hright hrest
    obtain ⟨s', hs', hadm'⟩ :=
      ih (hr.more hlookup hs) (Reading.admitted_join_iff.2 ⟨hadm, hsadm⟩) hws rfl h
    exact ⟨s', by simpa using hs', hadm'⟩

namespace Misses

section
variable {level : Level} {p condition inner : Parser Expr} {s : Scope}

/-- A chain whose operators are no parentheses. -/
lemma chain (hlevel : level.NoParens) (hsound : Sound ps c (·.Admitted allowed room forbids) p)
    (htracks : Tracks 0 0 0 p) (hp : Misses ps c (·.Admitted allowed room forbids) p) :
    Misses ps (.chain level c) (·.Admitted allowed room forbids) (Parser.chain level p) := by
  intro us f hus hf h digits
  rcases run_bind_error_iff.1 h with herror | ⟨left, rest, hleft, hloop⟩
  · obtain ⟨r, hr, hadm⟩ := hp hus hf herror digits
    exact ⟨r, .single hr, hadm⟩
  · obtain ⟨vs, ws, r, rfl, rfl, hr, hadm, hws⟩ :=
      hsound.exists_balanced htracks hus hleft (suffix_of_runChain_error hloop)
    exact runChain_misses hlevel hsound htracks hp (.single hr) hadm hws hf hloop digits

/-- Operands joined by the operators of all levels. -/
lemma operation (hsound : Sound ps .operand (·.Admitted allowed room forbids) p)
    (htracks : Tracks 0 0 0 p) (hp : Misses ps .operand (·.Admitted allowed room forbids) p) :
    Misses ps .operation (·.Admitted allowed room forbids) (Parser.operation p) := by
  have hchains (levels : List Level) (hlevels : levels ⊆ Level.operators) :
      Sound ps (levels.foldr .chain .operand) (·.Admitted allowed room forbids)
          (levels.foldr Parser.chain p) ∧
        Tracks 0 0 0 (levels.foldr Parser.chain p) ∧
        Misses ps (levels.foldr .chain .operand) (·.Admitted allowed room forbids)
          (levels.foldr Parser.chain p) := by
    induction levels with
    | nil => exact ⟨hsound, htracks, hp⟩
    | cons level levels ih =>
      obtain ⟨hlevel, hlevels⟩ := List.cons_subset.1 hlevels
      have hparens := Level.noParens_of_mem hlevel
      obtain ⟨ihs, iht, ihm⟩ := ih hlevels
      exact ⟨ihs.chain, iht.chain hparens, ihm.chain hparens ihs iht⟩
  intro us f hus hf h digits
  rcases run_bind_error_iff.1 h with herror | ⟨e, rest, -, hrefused⟩
  · exact (hchains _ (List.Subset.refl _)).2.2 hus hf herror digits
  · rw [run_current_bind] at hrefused
    split at hrefused
    · obtain rfl := Except.error.inj hrefused
      simp [Failure.WantsOperand] at hf
    · cases hrefused

/-- An operand without a prefix operator. Past the first token of an atom a parenthesis is open. -/
lemma atom (hc : Tracks 1 1 1 condition) (hi : Tracks 1 1 1 inner) :
    Misses s.parameters .atom (·.Admitted allowed room forbids)
      (Parser.atom s condition inner) := by
  intro us f hus hf h digits
  cases us with
  | nil => exact ⟨_, .number, Reading.admitted_leaf _⟩
  | cons t us =>
    exfalso
    -- A failure inside the atom would be at a place where all of `us` was read.
    have hinside {x : Except Failure (Expr × List Token)} (hx : Tracked 1 0 0 (t :: us ++ f.rest) x)
        (h : x = .error f) : False := by
      obtain ⟨vs, k, hvs, hk, hfits⟩ := hx.error h
      obtain rfl := List.append_cancel_right hvs
      have hcount := hus.count_eq
      have hcount' := hk.count_eq
      have hopen := hfits.low_le hf
      omega
    have hhere (h : f.rest = t :: us ++ f.rest) : False := by
      have hlength := congrArg List.length h
      simp only [List.length_append, List.length_cons] at hlength
      omega
    obtain ⟨kind, text⟩ := t
    rw [List.cons_append] at h
    cases kind with
    | delimiter =>
      by_cases hopen : text = "("
      · subst hopen
        exact hinside (Tracks.parenthesis hi _) h
      · rw [run_atom_sign, if_neg hopen] at h
        split at h
        · exact hhere (congrArg Failure.rest (Except.error.inj h)).symm
        · exact hhere (congrArg Failure.rest (Except.error.inj h)).symm
    | identifier => exact hinside (Tracks.identifier hc hi text _) h
    | number => cases h
    | hexNumber => cases h
    | unknown => exact hhere (congrArg Failure.rest (Except.error.inj h)).symm
    | finished => exact hhere (congrArg Failure.rest (Except.error.inj h)).symm

end

/-- An expression with one more level of nesting left. -/
lemma expression_succ {s : Scope} (hs : s.inParens = false)
    (he : Misses s.parameters .expression (·.Admitted allowed room s.noAssignment)
      (expression allowed room s))
    (ho : Misses s.parameters .operand (·.Admitted allowed room s.noAssignment)
      (operand allowed room s)) :
    Misses s.parameters .expression (·.Admitted allowed (room + 1) s.noAssignment)
      (expression allowed (room + 1) s) := by
  intro us f hus hf h digits
  cases hassigned : assigned? s (us ++ f.rest) with
  | none =>
    rw [run_expression_of_none hassigned] at h
    obtain ⟨r, hr, hadm⟩ := operation ((sound_of_room allowed room).2 s)
      ((tracks_of_room allowed room).2 s 0 hs) ho hus hf h digits
    exact ⟨r.nest, .operation hr, Reading.admitted_nest_iff.2 hadm⟩
  | some slot =>
    obtain ⟨name, ts, hts, hslot⟩ := assigned?_eq_some_iff.1 hassigned
    rw [hts, run_expression_of_some hslot] at h
    split at h
    · obtain rfl := Except.error.inj h
      simp [Failure.WantsOperand] at hf
    · next hno =>
      have hvalue := run_map_error_iff.1 h
      have hrest := (expression allowed room s).suffix_of_error hvalue
      obtain ⟨vs, rfl, hvs⟩ :=
        exists_of_cons_eq_append hts.symm (hrest.trans (List.suffix_cons _ _))
      obtain ⟨ws, rfl, rfl⟩ := exists_of_cons_eq_append hvs hrest
      have hws := (hus.of_cons (by simp) (by simp)).of_cons (by simp) (by simp)
      obtain ⟨r, hr, hadm⟩ := he hws hf hvalue digits
      exact ⟨(r.assign slot).nest, .assign hslot hr,
        Reading.admitted_nest_iff.2 (Reading.admitted_assign_iff.2 ⟨by simpa using hno, hadm⟩)⟩

/-- An operand with one more level of nesting left. -/
lemma operand_succ {s : Scope}
    (ho : Misses s.parameters .operand (·.Admitted allowed room s.noAssignment)
      (operand allowed room s)) :
    Misses s.parameters .operand (·.Admitted allowed (room + 1) s.noAssignment)
      (operand allowed (room + 1) s) := by
  intro us f hus hf h digits
  by_cases hplus : ∃ ts, us ++ f.rest = .sign "+" :: ts
  · obtain ⟨ts, hts⟩ := hplus
    rw [hts, run_operand_plus] at h
    obtain ⟨us, rfl, rfl⟩ :=
      exists_of_cons_eq_append hts.symm ((Parser.operand allowed room s).suffix_of_error h)
    obtain ⟨r, hr, hadm⟩ := ho (hus.of_cons (by decide) (by decide)) hf h digits
    exact ⟨r.nest, .plus hr, Reading.admitted_nest_iff.2 hadm⟩
  · cases hop : unaryOperator? ((us ++ f.rest).headD .finished) with
    | some op =>
      obtain ⟨text, htext, hsign⟩ := unaryOperator?_eq_some_iff.1 hop
      obtain ⟨ts, hts⟩ := Token.isDelimiter_headD_iff.1 (Token.isDelimiter_iff.2 htext)
      rw [hts, run_operand_prefixed hsign, run_map_error_iff] at h
      obtain ⟨us, rfl, rfl⟩ :=
        exists_of_cons_eq_append hts.symm ((Parser.operand allowed room s).suffix_of_error h)
      obtain ⟨hparens, -⟩ := UnaryOp.sign_of_ofSign? hsign
      simp only [List.mem_cons, not_or] at hparens
      have htail := hus.of_cons (by simpa using hparens.1) (by simpa using hparens.2.1)
      obtain ⟨r, hr, hadm⟩ := ho htail hf h digits
      exact ⟨(r.map (.unary op)).nest, .prefixed hsign hr,
        Reading.admitted_nest_iff.2 (Reading.admitted_map_iff.2 hadm)⟩
    | none =>
      rw [run_operand_of_none (not_exists.1 hplus) hop] at h
      obtain ⟨hte, -⟩ := tracks_of_room allowed room
      obtain ⟨r, hr, hadm⟩ := atom (hte _ 1 rfl) (hte _ 1 rfl) hus hf h digits
      exact ⟨r.nest, .atom hr, Reading.admitted_nest_iff.2 hadm⟩

end Misses

/-- Expressions and operands outside parentheses, whatever number of levels of nesting they have
left. -/
lemma misses_of_room (allowed : Bool) (room : Nat) :
    (∀ s, s.inParens = false →
      Misses s.parameters .expression (·.Admitted allowed room s.noAssignment)
        (expression allowed room s)) ∧
    (∀ s, s.inParens = false →
      Misses s.parameters .operand (·.Admitted allowed room s.noAssignment)
        (operand allowed room s)) := by
  induction room with
  | zero =>
    have hmalformed (ps : Parameters) (c : Category) (limits : Reading → Prop) :
        Misses ps c limits (fail .malformed) := by
      intro us f hus hf h
      have hkind : ErrorKind.malformed = f.kind := congrArg Failure.kind (Except.error.inj h)
      simp [Failure.WantsOperand, ← hkind] at hf
    exact ⟨fun s _ => hmalformed _ _ _, fun s _ => hmalformed _ _ _⟩
  | succ room ih =>
    obtain ⟨he, ho⟩ := ih
    exact ⟨fun s hs => (he s hs).expression_succ hs (ho s hs), fun s hs => (ho s hs).operand_succ⟩

end Parser

namespace Derives
open Formula.Parser

variable {ps : Parameters} {c : Category} {ts us vs : List Token} {r : Reading} {digits : String}

/-- Where a number ends a phrase, the end of the tokens or a closing parenthesis instead of it is
refused, as it is refused for an atom. -/
lemma run_category_error (h : Derives ps c ts r) (hts : ts = us ++ [⟨.number, digits⟩])
    (hsep : c.separated = true) {allowed : Bool} {room : Nat} {s : Scope}
    (hs : s.parameters = ps) (hadm : r.Admitted allowed room s.noAssignment) {f : Failure}
    (hrest : ∀ t vs, f.rest = t :: vs → t = .sign ")")
    (hatom : ∀ condition inner, (Parser.atom s condition inner).run f.rest = .error f) :
    (c.parser allowed room s).run (us ++ f.rest) = .error f := by
  -- The phrase ends in a number, so it is not in parentheses, and the scope is that of the place.
  induction h generalizing us room with
  | @assign name slot ts r hslot hd ih =>
    cases room with
    | zero => exact (Reading.not_admitted_nest_zero hadm).elim
    | succ room =>
      obtain ⟨hno, hadm⟩ := Reading.admitted_assign_iff.1 (Reading.admitted_nest_iff.1 hadm)
      have htokens : [.word name, .sign "="] ++ ts = us ++ [⟨.number, digits⟩] := hts
      obtain ⟨us, rfl, rfl⟩ := exists_of_append_eq_concat htokens hd.ne_nil
      change (expression allowed (room + 1) s).run
        (.word name :: .sign "=" :: (us ++ f.rest)) = _
      rw [run_expression_of_some (hs ▸ hslot), if_neg (by simp [hno])]
      exact run_map_error_iff.2 (ih rfl rfl hadm)
  | @operation ts r hd ih =>
    cases room with
    | zero => exact (Reading.not_admitted_nest_zero hadm).elim
    | succ room =>
      subst hts
      have hnone : assigned? s (us ++ f.rest) = none := by
        cases hassigned : assigned? s (us ++ f.rest) with
        | none => rfl
        | some slot =>
          obtain ⟨name, ws, heq, -⟩ := assigned?_eq_some_iff.1 hassigned
          -- A parenthesis is neither a name nor an equals sign, so both are before it.
          rcases us with - | ⟨t, - | ⟨u, us⟩⟩
          · simpa using hrest _ _ heq
          · simpa using hrest _ _ (List.cons.inj heq).2
          · simp only [List.cons_append, List.cons.injEq] at heq
            obtain ⟨rfl, rfl, -⟩ := heq
            have hend : [] = .sign "=" :: (us ++ [⟨.number, digits⟩]) :=
              hd.eq_sign_of_append (by decide) (List.append_nil _)
            cases hend
      have hoperation := ih rfl Category.separated_operation (Reading.admitted_nest_iff.1 hadm)
      change (expression allowed (room + 1) s).run (us ++ f.rest) = _
      rw [run_expression_of_none hnone]
      exact run_bind_of_error hoperation
  | @single level c ts r _ ih =>
    exact run_bind_of_error (ih hts (Bool.and_eq_true_iff.1 hsep).2 hadm)
  | @more level c text op ts ts' r t hd hop hd' ih₁ ih₂ =>
    obtain ⟨hadm₁, hadm₂⟩ := Reading.admitted_join_iff.1 hadm
    rw [List.append_cons] at hts
    obtain ⟨us, rfl, rfl⟩ := exists_of_append_eq_concat hts hd'.ne_nil
    have hstop : (Category.chain level c).unit.Stops (.sign text :: (us ++ f.rest)) :=
      Category.stops_sign_iff.2 (Category.endsBefore_of_lookup hsep hop)
    have hleft := hd.run_category hsep hs hadm₁ hstop
    have hright := ih₂ rfl (Bool.and_eq_true_iff.1 hsep).2 hadm₂
    rw [List.append_assoc, List.append_assoc, List.singleton_append, hleft]
    change runChain level (c.parser allowed room s) r.tree (.sign text :: (us ++ f.rest)) = _
    rw [runChain_eq_bind hop, hright]
    rfl
  | @plus ts r hd ih =>
    cases room with
    | zero => exact (Reading.not_admitted_nest_zero hadm).elim
    | succ room =>
      have htokens : [.sign "+"] ++ ts = us ++ [⟨.number, digits⟩] := hts
      obtain ⟨us, rfl, rfl⟩ := exists_of_append_eq_concat htokens hd.ne_nil
      exact run_operand_plus.trans (ih rfl rfl (Reading.admitted_nest_iff.1 hadm))
  | @prefixed text op ts r hop hd ih =>
    cases room with
    | zero => exact (Reading.not_admitted_nest_zero hadm).elim
    | succ room =>
      have htokens : [.sign text] ++ ts = us ++ [⟨.number, digits⟩] := hts
      obtain ⟨us, rfl, rfl⟩ := exists_of_append_eq_concat htokens hd.ne_nil
      have hadm := Reading.admitted_map_iff.1 (Reading.admitted_nest_iff.1 hadm)
      exact (run_operand_prefixed hop).trans (run_map_error_iff.2 (ih rfl rfl hadm))
  | @atom ts r hd ih =>
    cases room with
    | zero => exact (Reading.not_admitted_nest_zero hadm).elim
    | succ room =>
      subst hts
      have hhead : (∀ ws, us ++ f.rest ≠ .sign "+" :: ws) ∧
          unaryOperator? ((us ++ f.rest).headD .finished) = none := by
        cases us with
        | nil =>
          refine ⟨fun ws heq => by simpa using hrest _ _ heq, ?_⟩
          cases hf : f.rest with
          | nil => rfl
          | cons t vs =>
            rw [hrest t vs hf]
            rfl
        | cons t us =>
          obtain ⟨hplus, hnone⟩ := hd.atom_head []
          exact ⟨by simpa using hplus, hnone⟩
      refine (run_operand_of_none hhead.1 hhead.2).trans ?_
      exact ih rfl rfl (Reading.admitted_nest_iff.1 hadm)
  | number =>
    obtain rfl : us = [] := by simpa using congrArg List.length hts
    exact hatom _ _
  | _ =>
    have hlast := congrArg List.reverse hts
    simp at hlast

end Derives

namespace Parser

variable {allowed : Bool} {ps : Parameters} {us vs : List Token}

/-- A body fails where its expression does, or at a token that is left over. -/
lemma run_body_error_iff {ts : List Token} {f : Failure} :
    (body allowed ps).run ts = .error f ↔
      (expression allowed maxNesting { parameters := ps }).run ts = .error f ∨
        ∃ e t us, (expression allowed maxNesting { parameters := ps }).run ts = .ok (e, t :: us) ∧
          f = ⟨leftover t, t :: us⟩ := by
  refine run_bind_error_iff.trans (or_congr_right ⟨?_, ?_⟩)
  · rintro ⟨e, rest, he, h⟩
    cases rest with
    | nil => cases h
    | cons t us => exact ⟨e, t, us, he, (Except.error.inj h).symm⟩
  · rintro ⟨e, t, us, he, rfl⟩
    exact ⟨e, t :: us, he, rfl⟩

/-- A number where a body misses an operand ends an expression, if no parenthesis is open there. -/
lemma exists_of_run_body_error {f : Failure} (hus : Nests 0 us 0) (hf : f.WantsOperand)
    (h : (expression allowed maxNesting { parameters := ps }).run (us ++ f.rest) = .error f)
    (digits : String) :
    ∃ r, Derives ps .expression (us ++ [⟨.number, digits⟩]) r ∧
      r.Admitted allowed maxNesting false :=
  (misses_of_room allowed maxNesting).1 { parameters := ps } rfl hus hf h digits

/-- A body misses an operand at its end, where no parenthesis is open, if and only if a number there
makes an expression of it that is within the limits. -/
theorem run_body_missing_iff (digits : String) :
    (body allowed ps).run us = .error ⟨.missingArg, []⟩ ∧
        us.count (.sign "(") = us.count (.sign ")") ↔
      ∃ r, Derives ps .expression (us ++ [⟨.number, digits⟩]) r ∧
        r.Admitted allowed maxNesting false := by
  refine ⟨?_, ?_⟩
  · rintro ⟨h, hcount⟩
    obtain ⟨vs, k, hvs, hk, -⟩ := (tracks_body allowed ps _).error h
    rw [List.append_nil] at hvs
    subst hvs
    have hcount' := hk.count_eq
    obtain rfl : k = 0 := by omega
    rcases run_body_error_iff.1 h with herror | ⟨e, t, rest, -, hleft⟩
    · have hus : us ++ (⟨.missingArg, []⟩ : Failure).rest = us := List.append_nil us
      rw [← hus] at herror
      have hf : Failure.WantsOperand ⟨.missingArg, []⟩ := .inl rfl
      exact exists_of_run_body_error hk hf herror digits
    · cases (Failure.mk.inj hleft).2
  · rintro ⟨r, hr, hadm⟩
    have herror := hr.run_category_error (s := { parameters := ps }) (f := ⟨.missingArg, []⟩)
      rfl rfl rfl hadm nofun fun _ _ => rfl
    have hok := hr.run_expression (s := { parameters := ps }) hadm Category.stops_nil
    rw [List.append_nil] at herror hok
    refine ⟨run_body_error_iff.2 (.inl herror), ?_⟩
    obtain ⟨vs, hvs, hnests⟩ := ((tracks_of_room allowed maxNesting).1 _ 0 rfl _).ok hok
    rw [List.append_nil] at hvs
    subst hvs
    simpa using hnests.count_eq

/-- A body refuses a closing parenthesis as unbalanced if and only if it would miss an operand there,
with no parenthesis open, or the tokens before it are a whole expression within the limits. -/
theorem run_body_closing_iff :
    (body allowed ps).run (us ++ .sign ")" :: vs) = .error ⟨.unbalancedParens, .sign ")" :: vs⟩ ↔
      ((body allowed ps).run us = .error ⟨.missingArg, []⟩ ∧
          us.count (.sign "(") = us.count (.sign ")")) ∨
        ∃ r, Derives ps .expression us r ∧ r.Admitted allowed maxNesting false := by
  rw [run_body_missing_iff "0"]
  refine ⟨?_, ?_⟩
  · intro h
    obtain ⟨us', k, hus, hk, hfits⟩ := (tracks_body allowed ps _).error h
    obtain rfl := List.append_cancel_right hus
    obtain ⟨rfl, -⟩ := hfits.unbalanced rfl
    rcases run_body_error_iff.1 h with herror | ⟨e, t, rest, hok, hleft⟩
    · have hf : Failure.WantsOperand ⟨.unbalancedParens, .sign ")" :: vs⟩ := .inr rfl
      exact .inl (exists_of_run_body_error hk hf herror "0")
    · obtain ⟨-, hrest⟩ := Failure.mk.inj hleft
      obtain ⟨us', r, hus, hr, -, hadm⟩ := expression_sound hok
      rw [← hrest] at hus
      obtain rfl := List.append_cancel_right hus
      exact .inr ⟨r, hr, hadm⟩
  · rintro (⟨r, hr, hadm⟩ | ⟨r, hr, hadm⟩)
    · have herror := hr.run_category_error (s := { parameters := ps })
        (f := ⟨.unbalancedParens, .sign ")" :: vs⟩) rfl rfl rfl hadm (by simp) fun _ _ => rfl
      exact run_body_error_iff.2 (.inl herror)
    · have hok := hr.run_expression (s := { parameters := ps }) hadm (Category.stops_close vs)
      exact run_body_error_iff.2 (.inr ⟨_, _, _, hok, rfl⟩)

end Parser

end Formula
