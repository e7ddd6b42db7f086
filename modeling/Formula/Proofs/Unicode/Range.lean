import Formula.Unicode.Range
import Mathlib.Data.List.Basic

/-!
# Statements about the characters of a list

A statement about the characters of a list, or about those of some ranges of code points, is decided by
going through them.
-/

namespace Formula.Unicode

-- The library goes through all characters where it is asked about those of a list.
instance decidableForallMem (l : List Char) (p : Char → Prop) [DecidablePred p] : Decidable (∀ c ∈ l, p c) :=
  List.decidableBAll p l

/-- What holds at every code point of some ranges holds of their characters. -/
lemma of_inRanges {p : Char → Prop} {ranges : List (Nat × Nat)} {c : Char}
    (hall : ∀ range ∈ ranges, ∀ n ∈ List.range' range.1 (range.2 + 1 - range.1), p (Char.ofNat n))
    (h : inRanges ranges c = true) : p c := by
  obtain ⟨range, hrange, hc⟩ := List.any_eq_true.1 h
  simp only [Bool.and_eq_true, decide_eq_true_eq] at hc
  have hmem : c.toNat ∈ List.range' range.1 (range.2 + 1 - range.1) := by
    rw [List.mem_range'_1]
    omega
  have hc := hall range hrange _ hmem
  rwa [Char.ofNat_toNat] at hc

end Formula.Unicode
