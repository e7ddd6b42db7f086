import Formula.Proofs.Decimal.Natural
import Formula.Word

/-!
# Words, integers and doubles

A double becomes a word by truncation toward zero, saturated at the ends of the range
(`Word.toInt_ofFloat`), and a word becomes the double of the same integer
(`Word.isInteger_toFloat`). Between the two, the operators of words are those of integers, wrapped
around where the result leaves the range.
-/

namespace Formula

/-- The integer that is left of a number without its fraction. -/
def truncate (x : ℚ) : ℤ :=
  if 0 ≤ x then ⌊x⌋ else ⌈x⌉

open Decimal in
/-- A double as an integer of 32 bits: without its fraction, or the end of the range that is nearest
to it. NaN counts as 0. -/
def saturate (x : Float) : ℤ :=
  match Exact.ofFloat x with
  | .nan => 0
  | .infinite negative => if negative then -2 ^ 31 else 2 ^ 31 - 1
  | .finite negative m e =>
    max (-2 ^ 31) (min (truncate ((if negative then -1 else 1) * (m * 2 ^ e))) (2 ^ 31 - 1))

open Decimal in
/-- A double stands for an integer. Zero has no sign. -/
structure IsInteger (x : Float) (n : ℤ) : Prop where
  value_eq : (Exact.ofFloat x).value? = some (n : ℚ)
  sign_eq : isNegative x = decide (n < 0)

/-- A number and its negative lose the same fraction. -/
lemma truncate_neg (x : ℚ) : truncate (-x) = -truncate x := by
  rcases lt_trichotomy x 0 with h | rfl | h
  · rw [truncate, truncate, if_pos (by linarith), if_neg (by linarith), Int.floor_neg]
  · rfl
  · rw [truncate, truncate, if_neg (by linarith), if_pos (by linarith), Int.ceil_neg]

/-- The quotient of integers without its fraction. -/
lemma truncate_div (a b : ℤ) : truncate (a / b) = a.tdiv b := by
  have hnat (m n : ℕ) : truncate (m / n) = (m : ℤ).tdiv n := by
    have hnonneg : (0 : ℚ) ≤ m / n := by positivity
    rw [truncate, if_pos hnonneg, Rat.floor_natCast_div_natCast]
    rfl
  obtain ⟨m, rfl | rfl⟩ := a.eq_nat_or_neg
  · obtain ⟨n, rfl | rfl⟩ := b.eq_nat_or_neg
    · exact hnat m n
    · rw [Int.tdiv_neg, ← hnat, ← truncate_neg, Int.cast_neg, div_neg]
      rfl
  · obtain ⟨n, rfl | rfl⟩ := b.eq_nat_or_neg
    · rw [Int.neg_tdiv, ← hnat, ← truncate_neg, Int.cast_neg, neg_div]
      rfl
    · rw [Int.neg_tdiv, Int.tdiv_neg, neg_neg, ← hnat, Int.cast_neg, Int.cast_neg, neg_div_neg_eq]
      rfl

namespace Decimal

/-- A magnitude without its fraction is a quotient. -/
lemma truncate_magnitude (m : ℕ) (e : ℤ) :
    truncate (m * 2 ^ e) = (numerator m e / denominator e : ℕ) := by
  have hnonneg : (0 : ℚ) ≤ m * 2 ^ e := by positivity
  rw [truncate, if_pos hnonneg, magnitude_eq, Rat.floor_natCast_div_natCast]
  rfl

/-- The exact value of the double of a natural number. -/
lemma ofFloat_double {n : ℕ} (hlt : n < 2 ^ 53) :
    ∃ m e, Exact.ofFloat (double n) = .finite false m e ∧ (m : ℚ) * 2 ^ e = n := by
  rcases Nat.eq_zero_or_pos n with rfl | hn
  · exact ⟨0, -1074, by decide +kernel, by simp⟩
  · refine ⟨n * 2 ^ (52 - n.log2), n.log2 - 52, ?_, ?_⟩
    · rw [Exact.ofFloat_eq, unpack_double hn hlt]
      rfl
    · have hlog : n.log2 < 53 := (Nat.log2_lt (Nat.ne_of_gt hn)).2 hlt
      have hexponent : (n.log2 : ℤ) - 52 = -(52 - n.log2 : ℕ) := by omega
      rw [hexponent, zpow_neg, zpow_natCast]
      push_cast
      field_simp

/-- The exact value of a double with the other sign. -/
lemma ofFloat_neg {x : Float} {negative : Bool} {m : ℕ} {e : ℤ}
    (h : Exact.ofFloat x = .finite negative m e) :
    Exact.ofFloat (-x) = .finite (!negative) m e := by
  rw [Exact.ofFloat_eq] at h
  rw [Exact.ofFloat_eq, unpack_neg]
  cases hu : x.toModel.unpack with
  | infinity s =>
    rw [hu] at h
    cases h
  | notANumber =>
    rw [hu] at h
    cases h
  | zero s =>
    rw [hu] at h
    cases h
    exact congrArg (Exact.finite · 0 (-1074)) (isMinus_neg s)
  | finite s m' e' hm =>
    rw [hu] at h
    cases h
    exact congrArg (Exact.finite · m e) (isMinus_neg s)

/-- A natural number with a sign stands for an integer, but for a negative zero. -/
lemma isInteger_signed (negative : Bool) (n : ℕ) (hlt : n < 2 ^ 53)
    (hzero : negative = true → n ≠ 0) :
    IsInteger (Rounding.signed negative n) (if negative then -n else n) := by
  obtain ⟨m, e, hexact, hvalue⟩ := ofFloat_double hlt
  cases negative with
  | false =>
    have hsigned : Exact.ofFloat (Rounding.signed false n) = .finite false m e := hexact
    refine ⟨?_, ?_⟩
    · simp [hsigned, Exact.value?, hvalue]
    · simp [isNegative, hsigned]
  | true =>
    have hsigned : Exact.ofFloat (Rounding.signed true n) = .finite true m e := ofFloat_neg hexact
    refine ⟨?_, ?_⟩
    · simp [hsigned, Exact.value?, hvalue]
    · have hpos := Nat.pos_of_ne_zero (hzero rfl)
      simp [isNegative, hsigned, hpos]

end Decimal

namespace Word
open Decimal

/-- The word of a double is its saturated integer part. -/
theorem toInt_ofFloat (x : Float) : (ofFloat x).toInt = saturate x := by
  have hword (n : ℤ) : (Int32.ofInt (clamp n)).toInt = max (-2 ^ 31) (min n (2 ^ 31 - 1)) := by
    refine Int32.toInt_ofInt_of_le ?_ ?_
    · simp only [clamp, Int.pow_eq]
      omega
    · simp only [clamp, Int.pow_eq]
      omega
  rw [ofFloat, hword, integerPart, saturate]
  cases Exact.ofFloat x with
  | nan => rfl
  | infinite negative =>
    cases negative with
    | false => rfl
    | true => rfl
  | finite negative m e =>
    cases negative with
    | false =>
      dsimp only
      rw [if_neg Bool.false_ne_true, if_neg Bool.false_ne_true, one_mul, truncate_magnitude]
    | true =>
      dsimp only
      rw [if_pos rfl, if_pos rfl, neg_one_mul, truncate_neg, truncate_magnitude]

/-- The remainder of words is what the quotient without its fraction leaves. -/
lemma toInt_mod (a b : Int32) :
    (a % b).toInt = a.toInt - b.toInt * truncate (a.toInt / b.toInt) := by
  rw [Int32.toInt_mod, truncate_div, Int.tmod_def]

/-- The number of places that a word stands for in a shift. -/
lemma toNat_smod (b : Int32) : (b.toBitVec.smod 32).toNat = (b.toInt % 32).toNat := by
  have hsmod : (b.toBitVec.smod 32).toInt = b.toInt % 32 := by
    rw [BitVec.toInt_smod, Int32.toInt_toBitVec]
    exact Int.fmod_eq_emod_of_nonneg _ (by decide)
  rw [BitVec.toInt_eq_toNat_cond] at hsmod
  split at hsmod
  · omega
  · omega

/-- A shift to the left multiplies by a power of two, up to a multiple of `2 ^ 32`. -/
lemma toInt_shiftLeft (a b : Int32) :
    (a <<< b).toInt = (a.toInt * 2 ^ (b.toInt % 32).toNat).bmod (2 ^ 32) := by
  rw [← Int32.toInt_toBitVec, Int32.toBitVec_shiftLeft, BitVec.shiftLeft_eq', toNat_smod,
    BitVec.toInt_shiftLeft, Nat.shiftLeft_eq, ← Int32.toInt_toBitVec a,
    BitVec.toInt_eq_toNat_bmod a.toBitVec, Int.bmod_mul_bmod]
  push_cast
  rfl

/-- A shift to the right divides by a power of two and rounds down. -/
lemma toInt_shiftRight (a b : Int32) :
    (a >>> b).toInt = ⌊(a.toInt / 2 ^ (b.toInt % 32).toNat : ℚ)⌋ := by
  have hfloor := Rat.floor_intCast_div_natCast a.toInt (2 ^ (b.toInt % 32).toNat)
  rw [← Int32.toInt_toBitVec, Int32.toBitVec_shiftRight, BitVec.toInt_sshiftRight', toNat_smod,
    Int32.toInt_toBitVec, Int.shiftRight_eq_div_pow]
  push_cast at hfloor ⊢
  exact hfloor.symm

/-- The complement of a word. -/
lemma toInt_complement (a : Int32) : (~~~a).toInt = -a.toInt - 1 := by
  have hlower := a.le_toInt
  have hupper := a.toInt_lt
  rw [Int32.toInt_not]
  exact Int.bmod_eq_of_le (by omega) (by omega)

/-- The double of a word stands for the integer of the word. -/
theorem isInteger_toFloat (w : Int32) : IsInteger (toFloat w) w.toInt := by
  have hlower := w.le_toInt
  have hupper := w.toInt_lt
  have hsign : decide (w < 0) = decide (w.toInt < 0) := decide_eq_decide.2 Int32.lt_iff_toInt_lt
  have hsigned := isInteger_signed (decide (w.toInt < 0)) w.toInt.natAbs (by omega) (by
    rw [decide_eq_true_iff]
    omega)
  have hvalue : (if decide (w.toInt < 0) = true then -(w.toInt.natAbs : ℤ) else w.toInt.natAbs) =
      w.toInt := by
    split
    · next hneg =>
      have := of_decide_eq_true hneg
      omega
    · next hneg =>
      have := mt decide_eq_true hneg
      omega
  rw [hvalue] at hsigned
  rwa [toFloat, hsign]

end Word

end Formula
