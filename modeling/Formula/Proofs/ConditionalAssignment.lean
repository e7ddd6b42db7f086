import Formula.Proofs.Parser.Gate
import Formula.Proofs.Stages

/-!
# Allowing assignments in conditions

Whether the condition of a conditional may assign is a gate and nothing else: a compilation that
allows it has the result of one that does not, except that it accepts the assignments at which the
other one stops (`compile_gated`). Where an assignment is in a condition is told from the tokens
before it.
-/

namespace Formula

/-- A declared parameter stands before an equals sign in the body of a text, after some tokens. -/
def AssignsAfter (text : String) (us : List Token) (name : String) : Prop :=
  ∃ clauses parameters vs,
    Clauses.ofText text = .ok clauses ∧
    Parameters.ofClause clauses.parameters = .ok parameters ∧
    (parameters.slot? name).isSome = true ∧
    tokens clauses.body = us ++ .word name :: .sign "=" :: vs

/-- The body of a text assigns in the condition of a conditional. -/
def AssignsInCondition (text : String) : Prop :=
  ∃ us name, AssignsAfter text us name ∧ (Place.start.after us).inCondition = true

/-- Two compilations of a text, a strict one that refuses assignments in conditions and a lenient one
that accepts them. -/
structure GatedCompilation (text : String) (strict lenient : Except Diagnostic Program) : Prop where
  eq_of_ok : ∀ p, strict = .ok p → lenient = .ok p
  eq_of_error : ∀ d, strict = .error d → d.kind ≠ .conditionalAssignment → lenient = .error d
  kind_ne : ∀ d, lenient = .error d → d.kind ≠ .conditionalAssignment
  ok_iff : ∀ p, lenient = .ok p → ((∃ q, strict = .ok q) ↔ ¬AssignsInCondition text)
  refused : ∀ p, lenient = .ok p → AssignsInCondition text →
    ∃ d, strict = .error d ∧ d.kind = .conditionalAssignment
  inCondition : ∀ d, strict = .error d → d.kind = .conditionalAssignment →
    ∃ us name, AssignsAfter text us name ∧ (Place.start.after us).inCondition = true ∧
      d = .after .conditionalAssignment (String.join (us.map (·.text)) ++ name ++ "=")

namespace Expr

/-- Whether a tree assigns. -/
def assigns : Expr → Bool
  | .const _ | .param _ => false
  | .assign _ _ => true
  | .unary _ e | .call1 _ e => e.assigns
  | .binary _ l r | .logical _ l r | .sequence l r | .call2 _ l r => l.assigns || r.assigns
  | .conditional a b c | .numberFormat a b c => a.assigns || b.assigns || c.assigns

/-- Whether the condition of a conditional of a tree assigns. -/
def conditionAssigns : Expr → Bool
  | .const _ | .param _ => false
  | .assign _ e | .unary _ e | .call1 _ e => e.conditionAssigns
  | .binary _ l r | .logical _ l r | .sequence l r | .call2 _ l r =>
    l.conditionAssigns || r.conditionAssigns
  | .conditional c yes no =>
    c.assigns || c.conditionAssigns || yes.conditionAssigns || no.conditionAssigns
  | .numberFormat a b c => a.conditionAssigns || b.conditionAssigns || c.conditionAssigns

end Expr

/-- An operator assigns where its operands do. -/
lemma Infix.assigns_join (op : Infix) (l r : Expr) :
    (op.join l r).assigns = (l.assigns || r.assigns) ∧
      (op.join l r).conditionAssigns = (l.conditionAssigns || r.conditionAssigns) := by
  cases op with
  | logical op => exact ⟨rfl, rfl⟩
  | binary op => exact ⟨rfl, rfl⟩
  | sequence => exact ⟨rfl, rfl⟩

/-- The tree of a phrase assigns where the phrase does. -/
lemma Derives.assigns_eq {ps : Parameters} {c : Category} {ts : List Token} {r : Reading}
    (h : Derives ps c ts r) :
    r.tree.assigns = r.assigns ∧ r.tree.conditionAssigns = r.conditionAssigns := by
  induction h with
  | assign _ _ ih => exact ⟨rfl, ih.2⟩
  | @more _ _ _ op _ _ l r _ _ _ ihl ihr =>
    obtain ⟨hassigns, hconditions⟩ := op.assigns_join l.tree r.tree
    simp [Reading.join, hassigns, hconditions, ihl, ihr]
  | operation _ ih => exact ih
  | single _ ih => exact ih
  | plus _ ih => exact ih
  | prefixed _ _ ih => exact ih
  | atom _ ih => exact ih
  | number => exact ⟨rfl, rfl⟩
  | hexNumber => exact ⟨rfl, rfl⟩
  | constant => exact ⟨rfl, rfl⟩
  | param => exact ⟨rfl, rfl⟩
  | parenthesis _ ih => exact ih
  | call1 _ _ ih => exact ih
  | call2 _ _ _ iha ihb =>
    simp [Reading.join, Expr.assigns, Expr.conditionAssigns, iha, ihb]
  | numberFormat _ _ _ _ iha ihb ihc =>
    simp [Reading.join3, Expr.assigns, Expr.conditionAssigns, iha, ihb, ihc]
  | conditional _ _ _ _ ihc ihyes ihno =>
    simp [Reading.conditional, Reading.join3, Expr.assigns, Expr.conditionAssigns, ihc, ihyes, ihno]

/-- A stage of a compilation that does not stop at an assignment in a condition. -/
def NoRefusal {α : Type} (x : Except Diagnostic α) : Prop :=
  Meets (fun d : Diagnostic => d.kind ≠ .conditionalAssignment) (fun _ => True) x

/-- A stage that stops after some text with another kind of failure. -/
lemma NoRefusal.after {α : Type} {kind : ErrorKind} (hkind : kind ≠ .conditionalAssignment)
    (seen : String) : NoRefusal (.error (.after kind seen) : Except Diagnostic α) :=
  Meets.error hkind

/-- A stage whose kinds of failure are other ones. -/
lemma FailsWith.noRefusal {α : Type} {kinds : List ErrorKind} {x : Except Diagnostic α}
    (h : FailsWith kinds x) (hkinds : .conditionalAssignment ∉ kinds) : NoRefusal x := by
  refine Meets.mono h fun d hd heq => hkinds ?_
  rwa [← heq]

/-- No clause is looked for in a condition. -/
lemma Clauses.noRefusal_ofText (text : String) : NoRefusal (ofText text) :=
  (failsWith_ofText text).noRefusal (by decide)

/-- No clause of parameters is in a condition. -/
lemma Parameters.noRefusal_ofClause (clause : String) : NoRefusal (ofClause clause) :=
  (failsWith_ofClause clause).noRefusal (by decide)

namespace Parser

/-- No token is left over because of an assignment. -/
lemma leftover_ne (t : Token) : leftover t ≠ .conditionalAssignment := by
  unfold leftover
  split
  · split <;> simp
  · simp
  · simp

/-- Whole bodies. -/
lemma gate_body (ps : Parameters) :
    Gate ps .start .start (body false ps) (body true ps) := by
  refine ((gate_of_room ps maxNesting).1 false []).bind fun e ts => ?_
  cases ts with
  | nil => exact .ok e []
  | cons t ts => exact .error (leftover_ne t)

/-- What was read up to the equals sign of an assignment. -/
lemma consumed_assignment (us vs : List Token) (name : String) :
    consumed (us ++ .word name :: .sign "=" :: vs) (.sign "=" :: vs) =
      String.join (us.map (·.text)) ++ name ++ "=" := by
  have hlength : (us ++ Token.word name :: Token.sign "=" :: vs).length + 1 -
      (Token.sign "=" :: vs).length = us.length + 2 := by
    simp only [List.length_append, List.length_cons]
    omega
  rw [consumed, hlength, List.take_length_add_append]
  simp [String.append_assoc]

end Parser

/-- A body that is read strictly and leniently. -/
structure GatedBody (ps : Parameters) (text : String) : Prop where
  same_or_refused : parseBody false ps text = parseBody true ps text ∨
    ∃ us name vs, tokens text = us ++ .word name :: .sign "=" :: vs ∧
      (ps.slot? name).isSome = true ∧ (Place.start.after us).inCondition = true ∧
      parseBody false ps text =
        .error (.after .conditionalAssignment (String.join (us.map (·.text)) ++ name ++ "="))
  passes : ∀ e, parseBody false ps text = .ok e → Place.start.Passes (tokens text) .start
  noRefusal : NoRefusal (parseBody true ps text)

/-- Every body is read strictly and leniently in the same way, up to a refusal. -/
lemma parseBody_gated (ps : Parameters) (text : String) : GatedBody ps text := by
  have hgate := Parser.gate_body ps (tokens text)
  refine ⟨?_, ?_, ?_⟩
  · rcases hgate.same_or_refused with hsame | ⟨us, name, vs, hts, hname, hin, hrefused⟩
    · exact .inl (by simp only [parseBody, hsame])
    · refine .inr ⟨us, name, vs, hts, hname, hin, ?_⟩
      simp only [parseBody, hrefused]
      rw [hts, Parser.consumed_assignment]
  · intro e he
    obtain ⟨rest, hrun⟩ := parseBody_eq_ok_iff_run.1 he
    obtain ⟨rfl, -⟩ := Parser.run_body_iff.1 hrun
    obtain ⟨us, hts, hpasses⟩ := hgate.passes hrun
    rwa [hts, List.append_nil]
  · unfold parseBody
    dsimp only
    split
    · exact .ok trivial
    · next f hf => exact .after (hgate.kind_ne hf) _

namespace GatedCompilation

variable {text : String}

/-- Compilations that stop before the body, or in the same way in it. -/
lemma error {d : Diagnostic} (hd : d.kind ≠ .conditionalAssignment) :
    GatedCompilation text (.error d) (.error d) where
  eq_of_ok := nofun
  eq_of_error _ h _ := h
  kind_ne _ h := by
    cases h
    exact hd
  ok_iff := nofun
  refused := nofun
  inCondition _ h hkind := by
    cases h
    exact absurd hkind hd

/-- Compilations that have the same program, past no assignment in a condition. -/
lemma ok (p : Program) (h : ¬AssignsInCondition text) : GatedCompilation text (.ok p) (.ok p) where
  eq_of_ok _ h := h
  eq_of_error := nofun
  kind_ne := nofun
  ok_iff _ _ := ⟨fun _ => h, fun _ => ⟨p, rfl⟩⟩
  refused _ _ hassigns := absurd hassigns h
  inCondition := nofun

/-- Compilations of which the strict one refuses an assignment. -/
lemma refusal {lenient : Except Diagnostic Program} {us : List Token} {name : String}
    (hassigns : AssignsAfter text us name) (hin : (Place.start.after us).inCondition = true)
    (h : NoRefusal lenient) :
    GatedCompilation text
      (.error (.after .conditionalAssignment (String.join (us.map (·.text)) ++ name ++ "=")))
      lenient where
  eq_of_ok := nofun
  eq_of_error _ hd hkind := by
    cases hd
    exact absurd rfl hkind
  kind_ne _ hd := h.of_eq_error hd
  ok_iff _ _ := ⟨nofun, fun hnot => absurd ⟨us, name, hassigns, hin⟩ hnot⟩
  refused _ _ _ := ⟨_, rfl, rfl⟩
  inCondition _ hd _ := by
    cases hd
    exact ⟨us, name, hassigns, hin, rfl⟩

end GatedCompilation

/-- A text whose body is read past no assignment in a condition has none. -/
lemma not_assignsInCondition {text : String} {clauses : Clauses}
    (hclauses : Clauses.ofText text = .ok clauses)
    (hpasses : Place.start.Passes (tokens clauses.body) .start) : ¬AssignsInCondition text := by
  rintro ⟨us, name, ⟨clauses', _, vs, hclauses', -, -, hts⟩, hin⟩
  cases hclauses.symm.trans hclauses'
  rw [hts, List.append_cons] at hpasses
  have hout := hpasses.inCondition_eq_false
  rw [Place.inCondition_after_word, hin] at hout
  cases hout

/-- Allowing assignments in conditions is a gate. Compilations of a text that differ in nothing else
have the same program or the same failure, except that the strict one stops at an assignment in a
condition, and it does so at no other assignment. -/
theorem compile_gated (text : String) (optimize : Bool) :
    GatedCompilation text (compile text ⟨optimize, false⟩) (compile text ⟨optimize, true⟩) := by
  unfold compile
  cases hclauses : Clauses.ofText text with
  | error d => exact .error ((Clauses.noRefusal_ofText text).of_eq_error hclauses)
  | ok clauses =>
  simp only [bind, Except.bind]
  cases hparameters : Parameters.ofClause clauses.parameters with
  | error d =>
    exact .error ((Parameters.noRefusal_ofClause clauses.parameters).of_eq_error hparameters)
  | ok parameters =>
  have hgated := parseBody_gated parameters clauses.body
  simp only [Expr.compile_eq]
  cases hstrict : parseBody false parameters clauses.body with
  | ok e =>
    rcases hgated.same_or_refused with hsame | ⟨us, name, vs, -, -, -, hrefused⟩
    · rw [← hsame, hstrict]
      exact .ok _ (not_assignsInCondition hclauses (hgated.passes e hstrict))
    · cases hstrict.symm.trans hrefused
  | error d =>
    rcases hgated.same_or_refused with hsame | ⟨us, name, vs, hts, hname, hin, hrefused⟩
    · rw [← hsame, hstrict]
      exact .error (hgated.noRefusal.of_eq_error (hsame.symm.trans hstrict))
    · cases hstrict.symm.trans hrefused
      refine .refusal ⟨clauses, parameters, vs, hclauses, hparameters, hname, hts⟩ hin ?_
      exact hgated.noRefusal.bind fun e _ => .ok trivial

end Formula
