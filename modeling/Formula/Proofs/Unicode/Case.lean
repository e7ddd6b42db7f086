import Formula.Proofs.Unicode.Range
import Formula.Unicode.Case
import Mathlib.Tactic.Common

/-!
# Texts in lower case

What the lower-case mapping yields is in lower case, and it leaves every text alone whose characters
are; so it does nothing to its result a second time, nor to any part of it. The table of capitals is
checked run by run: no form of one run is a capital of another one.
-/

namespace Formula.Unicode

/-- A character that the lower-case mapping leaves alone, wherever it stands. -/
def IsLower (c : Char) : Prop :=
  lowerChar c = [c] ∧ c ≠ '\u03A3'

instance (c : Char) : Decidable (IsLower c) :=
  inferInstanceAs (Decidable (_ ∧ _))

variable {c d : Char} {n : Nat} {before text : List Char}

/-- A text in lower case is its own lower-case form. -/
lemma lowerCaseAfter_of_isLower (h : ∀ c ∈ text, IsLower c) : lowerCaseAfter before text = text := by
  induction text generalizing before with
  | nil => rfl
  | cons c text ih =>
    obtain ⟨hchar, hsigma⟩ := h c List.mem_cons_self
    have hrest := @ih (c :: before) fun d hd => h d (List.mem_cons_of_mem c hd)
    simp [lowerCaseAfter, hsigma, hchar, hrest]

/-- A text in lower case is its own lower-case form. -/
lemma lowerCase_of_isLower (h : ∀ c ∈ text, IsLower c) : lowerCase text = text :=
  lowerCaseAfter_of_isLower h

namespace CaseRun

/-- The forms of a run and the capitals of another one are told apart: they lie in different ranges,
or they keep a distance that is no multiple of the steps. -/
def avoids (run other : CaseRun) : Bool :=
  run.lower + (run.last - run.first) < other.first || other.last < run.lower ||
    (other.first ≤ run.lower && (run.lower - other.first) % other.step != 0 &&
      (run.first == run.last || run.step % other.step == 0))

/-- The forms of a run are beyond ASCII, or a small letter of ASCII is its only form. The dotted capital
I is none of them. -/
def isSmall (run : CaseRun) : Bool :=
  (0x80 ≤ run.lower ||
      (run.first == run.last && 'a'.toNat ≤ run.lower && run.lower ≤ 'z'.toNat)) &&
    (run.lower + (run.last - run.first) < '\u0130'.toNat || '\u0130'.toNat < run.lower)

/-- The form of a capital of a run has the place in the range of forms that the capital has in its
own. -/
lemma lower?_eq_some_iff {run : CaseRun} {m : Nat} :
    run.lower? n = some m ↔
      run.first ≤ n ∧ n ≤ run.last ∧ run.step ∣ n - run.first ∧ m = run.lower + (n - run.first) := by
  simp only [lower?, Bool.and_eq_true, decide_eq_true_eq, beq_iff_eq, Option.ite_none_right_eq_some,
    Option.some.injEq, Nat.dvd_iff_mod_eq_zero, and_assoc]
  exact and_congr_right fun _ => and_congr_right fun _ => and_congr_right fun _ => eq_comm

/-- A run has no form for the forms of a run that avoids it. -/
lemma lower?_eq_none_of_avoids {run other : CaseRun} {m : Nat} (h : run.avoids other = true)
    (hm : run.lower? n = some m) : other.lower? m = none := by
  obtain ⟨hfirst, hlast, hstep, rfl⟩ := lower?_eq_some_iff.1 hm
  cases hother : other.lower? (run.lower + (n - run.first)) with
  | none => rfl
  | some k =>
    obtain ⟨hfirst', hlast', hstep', -⟩ := lower?_eq_some_iff.1 hother
    simp only [avoids, Bool.or_eq_true, Bool.and_eq_true, decide_eq_true_eq, bne_iff_ne,
      beq_iff_eq] at h
    rcases h with (hbelow | habove) | ⟨⟨hle, hmod⟩, hsteps⟩
    · omega
    · omega
    · -- The distance of the two starts would be a multiple of the step.
      have hdvd : other.step ∣ n - run.first := by
        rcases hsteps with hsingle | hsteps
        · simp [show n - run.first = 0 by omega]
        · exact Nat.dvd_trans (Nat.dvd_of_mod_eq_zero hsteps) hstep
      have hstart : other.step ∣ run.lower - other.first := by
        have hsum : run.lower + (n - run.first) - other.first =
            (run.lower - other.first) + (n - run.first) := by omega
        rw [hsum] at hstep'
        exact (Nat.dvd_add_left hdvd).1 hstep'
      exact absurd (Nat.mod_eq_zero_of_dvd hstart) hmod

end CaseRun

/-- The table has no form for its forms. -/
lemma findSome?_lower?_of_findSome? {m : Nat} (h : caseRuns.findSome? (·.lower? n) = some m) :
    caseRuns.findSome? (·.lower? m) = none := by
  have havoids : caseRuns.all (fun run => caseRuns.all run.avoids) = true := by decide +kernel
  obtain ⟨run, hrun, hm⟩ := List.exists_of_findSome?_eq_some h
  rw [List.findSome?_eq_none_iff]
  intro other hother
  exact CaseRun.lower?_eq_none_of_avoids
    (List.all_eq_true.1 (List.all_eq_true.1 havoids run hrun) other hother) hm

/-- A form of the table is beyond ASCII and no dotted capital I, or it is a small letter of ASCII. -/
lemma isSmall_of_findSome? {m : Nat} (h : caseRuns.findSome? (·.lower? n) = some m) :
    (0x80 ≤ m ∧ m ≠ '\u0130'.toNat) ∨ ('a'.toNat ≤ m ∧ m ≤ 'z'.toNat) := by
  have hall : caseRuns.all CaseRun.isSmall = true := by decide +kernel
  obtain ⟨run, hrun, hm⟩ := List.exists_of_findSome?_eq_some h
  obtain ⟨hfirst, hlast, -, rfl⟩ := CaseRun.lower?_eq_some_iff.1 hm
  have hsmall := List.all_eq_true.1 hall run hrun
  simp only [CaseRun.isSmall, Bool.or_eq_true, Bool.and_eq_true, decide_eq_true_eq,
    beq_iff_eq] at hsmall
  omega

/-- The characters of ASCII that are no capitals are in lower case. -/
lemma isLower_toLower_of_isAscii (h : isAscii c = true) : IsLower c.toLower := by
  have hall : ∀ n ∈ List.range 0x80, IsLower (Char.ofNat n).toLower := by decide +kernel
  have hc := hall c.toNat (List.mem_range.2 (of_decide_eq_true h))
  rwa [Char.ofNat_toNat] at hc

/-- A character beyond ASCII without a form is in lower case. -/
lemma isLower_of_findSome?_eq_none (hascii : isAscii c = false) (hdotted : c ≠ '\u0130')
    (h : caseRuns.findSome? (·.lower? c.toNat) = none) : IsLower c := by
  refine ⟨by simp [lowerChar, hascii, hdotted, h], ?_⟩
  rintro rfl
  revert h
  decide +kernel

/-- A form of the table is in lower case. -/
lemma isLower_ofNat {m : Nat} (h : caseRuns.findSome? (·.lower? n) = some m) :
    IsLower (Char.ofNat m) := by
  by_cases hvalid : m.isValidChar
  · have htoNat : (Char.ofNat m).toNat = m := by
      rw [Char.ofNat, dif_pos hvalid]
      rfl
    rcases isSmall_of_findSome? h with ⟨hbeyond, hdotted⟩ | hsmall
    · refine isLower_of_findSome?_eq_none ?_ ?_ ?_
      · simp [isAscii, htoNat, hbeyond]
      · rintro hc
        rw [hc] at htoNat
        exact hdotted htoNat.symm
      · rw [htoNat]
        exact findSome?_lower?_of_findSome? h
    · have hall : ∀ n ∈ List.range' 'a'.toNat 26, IsLower (Char.ofNat n) := by decide +kernel
      refine hall m (List.mem_range'_1.2 ⟨hsmall.1, ?_⟩)
      exact Nat.lt_succ_of_le hsmall.2
  · rw [Char.ofNat, dif_neg hvalid]
    decide +kernel

/-- The forms of a character are in lower case. -/
lemma isLower_of_mem_lowerChar (h : d ∈ lowerChar c) : IsLower d := by
  unfold lowerChar at h
  split at h
  · next hascii =>
    rw [List.mem_singleton.1 h]
    exact isLower_toLower_of_isAscii hascii
  next hascii =>
  split at h
  · revert d
    decide +kernel
  next hdotted =>
  split at h
  · next m hm =>
    rw [List.mem_singleton.1 h]
    exact isLower_ofNat hm
  · next hnone =>
    rw [List.mem_singleton.1 h]
    exact isLower_of_findSome?_eq_none (Bool.of_not_eq_true hascii) (by simpa using hdotted) hnone

/-- The lower-case form of a text is in lower case. -/
lemma isLower_of_mem_lowerCaseAfter (h : c ∈ lowerCaseAfter before text) : IsLower c := by
  induction text generalizing before with
  | nil => cases h
  | cons d text ih =>
    rw [lowerCaseAfter, List.mem_append] at h
    rcases h with h | h
    · -- A capital sigma has one of two forms, by its place.
      split at h
      · split at h
        · rw [List.mem_singleton.1 h]
          decide +kernel
        · rw [List.mem_singleton.1 h]
          decide +kernel
      · exact isLower_of_mem_lowerChar h
    · exact ih h

/-- The lower-case form of a text is in lower case. -/
lemma isLower_of_mem_lowerCase (h : c ∈ lowerCase text) : IsLower c :=
  isLower_of_mem_lowerCaseAfter h

end Formula.Unicode
