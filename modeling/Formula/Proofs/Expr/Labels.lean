import Formula.Expr.Code
import Formula.Proofs.Assembler.Block

/-!
# The labels of expressions

The steps of an expression take labels one after another. Each of them is branched to once, right
after it was taken, and posted once, after that (`Labelled.used_once`); no other labels are used.
This goes through append and around a jump, as the blocks of code do.
-/

namespace Formula

/-- Whether a step branches to a label or posts it. -/
def Step.Uses (label : Nat) : Step → Prop
  | .branch _ l => l = label
  | .post l => l = label
  | _ => False

/-- A label is branched to once in some steps, when it is the latest one that was taken, and posted
once, after that. `first` is the number of the first label that the steps take. -/
def UsedOnce (first : Nat) (steps : List Step) (label : Nat) : Prop :=
  ∃ before j middle after,
    steps = before ++ .branch j label :: (middle ++ .post label :: after) ∧
    label + 1 = first + before.count .label ∧
    ∀ step ∈ before ++ middle ++ after, ¬step.Uses label

/-- Steps that take the labels from `first` on and before `next`, and use each of them once and no
others. -/
structure Labelled (first : Nat) (steps : List Step) (next : Nat) : Prop where
  next_eq : next = first + steps.count .label
  range : ∀ step ∈ steps, ∀ label, step.Uses label → first ≤ label ∧ label < next
  used_once : ∀ label, first ≤ label → label < next → UsedOnce first steps label

namespace UsedOnce

variable {first label : Nat} {xs ys : List Step}

/-- Steps before others that do not use the label. -/
lemma append_left (h : UsedOnce first xs label) (hys : ∀ step ∈ ys, ¬step.Uses label) :
    UsedOnce first (xs ++ ys) label := by
  obtain ⟨before, j, middle, after, rfl, hcount, huses⟩ := h
  refine ⟨before, j, middle, after ++ ys, by simp, hcount, ?_⟩
  intro step hstep
  rw [← List.append_assoc] at hstep
  rcases List.mem_append.1 hstep with hstep | hstep
  · exact huses step hstep
  · exact hys step hstep

/-- Steps after others that do not use the label. -/
lemma append_right (h : UsedOnce (first + xs.count .label) ys label)
    (hxs : ∀ step ∈ xs, ¬step.Uses label) : UsedOnce first (xs ++ ys) label := by
  obtain ⟨before, j, middle, after, rfl, hcount, huses⟩ := h
  refine ⟨xs ++ before, j, middle, after, by simp, by rw [List.count_append]; omega, ?_⟩
  intro step hstep
  rw [List.append_assoc, List.append_assoc] at hstep
  rcases List.mem_append.1 hstep with hstep | hstep
  · exact hxs step hstep
  · exact huses step (by rwa [List.append_assoc])

end UsedOnce

namespace Labelled

variable {first mid next label : Nat} {xs ys : List Step} {step : Step}

/-- The labels of some steps are numbered upwards. -/
lemma le (h : Labelled first xs next) : first ≤ next := by
  have := h.next_eq
  omega

/-- Labels that were taken before are not used. -/
lemma not_uses_of_lt (h : Labelled first xs next) (hlabel : label < first) (hstep : step ∈ xs) :
    ¬step.Uses label := by
  intro huses
  have := h.range step hstep label huses
  omega

/-- Labels that are still free are not used. -/
lemma not_uses_of_le (h : Labelled first xs next) (hlabel : next ≤ label) (hstep : step ∈ xs) :
    ¬step.Uses label := by
  intro huses
  have := h.range step hstep label huses
  omega

/-- Steps that neither take nor use labels. -/
lemma plain (first : Nat) (hcount : xs.count .label = 0)
    (huses : ∀ step ∈ xs, ∀ label, ¬step.Uses label) : Labelled first xs first where
  next_eq := by rw [hcount, Nat.add_zero]
  range step hstep label h := absurd h (huses step hstep label)
  used_once label hle hlt := absurd hlt (Nat.not_lt_of_le hle)

/-- A push. -/
lemma push (first : Nat) : Labelled first [.push] first :=
  .plain first rfl (by simp [Step.Uses])

/-- A short instruction. -/
lemma short (first : Nat) (op : Opcode) : Labelled first [.short op] first :=
  .plain first rfl (by simp [Step.Uses])

/-- Steps after other steps. -/
lemma append (h : Labelled first xs mid) (h' : Labelled mid ys next) :
    Labelled first (xs ++ ys) next where
  next_eq := by
    rw [List.count_append, h'.next_eq, h.next_eq, Nat.add_assoc]
  range step hstep label huses := by
    have hle := h.le
    have hle' := h'.le
    rcases List.mem_append.1 hstep with hstep | hstep
    · have := h.range step hstep label huses
      omega
    · have := h'.range step hstep label huses
      omega
  used_once label hle hlt := by
    rcases Nat.lt_or_ge label mid with hlabel | hlabel
    · exact (h.used_once label hle hlabel).append_left fun _ => h'.not_uses_of_lt hlabel
    · have honce := h'.used_once label hlabel hlt
      rw [h.next_eq] at honce
      exact honce.append_right fun _ => h.not_uses_of_le hlabel

/-- Steps that are jumped over by a jump before them. -/
lemma skip (h : Labelled (first + 1) xs next) (j : Jump) :
    Labelled first ([.label, .branch j first] ++ xs ++ [.post first]) next where
  next_eq := by
    simp [h.next_eq]
    omega
  range step hstep label huses := by
    have hle := h.le
    have hxs := h.range step
    grind [Step.Uses]
  used_once label hle hlt := by
    rcases Nat.eq_or_lt_of_le hle with rfl | hlabel
    · have hxs (step : Step) : step ∈ xs → ¬step.Uses first := h.not_uses_of_lt (Nat.lt_succ_self _)
      exact ⟨[.label], j, xs, [], by simp, by simp, by grind [Step.Uses]⟩
    · have honce : UsedOnce (first + List.count Step.label [.label, .branch j first]) xs label :=
        h.used_once label hlabel hlt
      exact (honce.append_right (by grind [Step.Uses])).append_left (by grind [Step.Uses])

/-- Two blocks of steps of which one is jumped to over the other one, and jumped over in turn. -/
lemma choice (h : Labelled (first + 1) xs mid) (h' : Labelled (mid + 1) ys next) (j j' : Jump) :
    Labelled first
      ([.label, .branch j first] ++ xs ++ [.label, .branch j' mid, .post first] ++ ys ++
        [.post mid]) next where
  next_eq := by
    simp [h.next_eq, h'.next_eq]
    omega
  range step hstep label huses := by
    have hle := h.le
    have hle' := h'.le
    have hxs := h.range step
    have hys := h'.range step
    grind [Step.Uses]
  used_once label hle hlt := by
    have hmid := h.le
    have hcount := h.next_eq
    have hxs (step : Step) (hstep : step ∈ xs) := h.range step hstep label
    have hys (step : Step) (hstep : step ∈ ys) := h'.range step hstep label
    rcases Nat.eq_or_lt_of_le hle with rfl | hfirst
    · exact ⟨[.label], j, xs ++ [.label, .branch j' mid], ys ++ [.post mid], by simp, by simp,
        by grind [Step.Uses]⟩
    · rcases Nat.lt_trichotomy label mid with hlabel | rfl | hlabel
      · have honce : UsedOnce (first + List.count Step.label [.label, .branch j first]) xs label :=
          h.used_once label hfirst hlabel
        refine (((honce.append_right ?_).append_left ?_).append_left ?_).append_left ?_
        all_goals grind [Step.Uses]
      · have hbefore : label + 1 = first +
            List.count Step.label ([.label, .branch j first] ++ xs ++ [.label]) := by
          simp
          omega
        exact ⟨[.label, .branch j first] ++ xs ++ [.label], j', .post first :: ys, [], by simp,
          hbefore, by grind [Step.Uses]⟩
      · have hbefore : mid + 1 = first + List.count Step.label
            ([.label, .branch j first] ++ xs ++ [.label, .branch j' mid, .post first]) := by
          simp
          omega
        have honce := h'.used_once label hlabel hlt
        rw [hbefore] at honce
        exact (honce.append_right (by grind [Step.Uses])).append_left (by grind [Step.Uses])

end Labelled

/-- The steps of an expression use every label that they take once. -/
lemma Expr.labelled_steps (e : Expr) (next : Nat) :
    Labelled next (e.steps next).1 (e.steps next).2 := by
  induction e generalizing next with
  | const value => exact .plain next rfl (by simp [steps, Step.Uses])
  | param slot => exact .plain next rfl (by simp [steps, Step.Uses])
  | assign slot value ih => exact (ih next).append (.plain _ rfl (by simp [Step.Uses]))
  | unary op e ih => exact (ih next).append (.short _ _)
  | binary op l r ihl ihr =>
    have hleft := (ihl next).append (.push _)
    exact (hleft.append (ihr _)).append (.short _ _)
  | logical op l r ihl ihr =>
    have hleft := (ihl next).append (.push _)
    have hright := hleft.append ((ihr _).skip op.skip)
    simpa [steps] using hright.append (.short _ (.logical op))
  | sequence a b iha ihb => exact (iha next).append (ihb _)
  | conditional c t e ihc iht ihe =>
    simpa [steps] using (ihc next).append ((iht _).choice (ihe _) .ifFalse .always)
  | call1 f a ih =>
    have hargument := (ih next).append (.push _)
    simpa [steps] using hargument.append (.short _ (.call (.one f)))
  | call2 f a b iha ihb =>
    have hfirst := (iha next).append (.push _)
    have hsecond := (hfirst.append (ihb _)).append (.push _)
    simpa [steps] using hsecond.append (.short _ (.call (.two f)))
  | numberFormat a b c iha ihb ihc =>
    have hfirst := (iha next).append (.push _)
    have hsecond := (hfirst.append (ihb _)).append (.push _)
    have hthird := (hsecond.append (ihc _)).append (.push _)
    simpa [steps] using hthird.append (.short _ (.call .numberFormat))

/-- The number of the next free label is known from the steps. -/
lemma Expr.steps_snd (e : Expr) (next : Nat) :
    (e.steps next).2 = next + (e.steps next).1.count .label :=
  (e.labelled_steps next).next_eq

/-- The assembler has as many labels as were taken. -/
lemma Assembler.labels_size_run (a : Assembler) (steps : List Step) :
    (a.run steps).labels.size = a.labels.size + steps.count .label := by
  induction steps generalizing a with
  | nil => rfl
  | cons step steps ih =>
    rw [run_cons, ih]
    cases step with
    | label =>
      simp [step_label]
      omega
    | post label => simp
    | push => simp [labels_step_push]
    | _ => simp [step, long, write, addConstant]

end Formula
