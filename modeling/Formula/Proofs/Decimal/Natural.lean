import Formula.Decimal.Fixed
import Formula.Proofs.Decimal.Nearest

/-!
# Natural numbers as doubles

Natural numbers below `2 ^ 53` are doubles (`unpack_double`), and the product of two of them is
exact if it is below `2 ^ 53` as well (`double_mul`). So are the powers of ten that numbers are
scaled by (`tenPow_eq`). A finite double divided by such a number is finite (`isFinite_div_double`).
-/

namespace Formula.Decimal
open Float.Model (Format UnpackedFloat totalExponent)
open Float.Model.UnpackedFloat

/-- The double of a natural number. -/
abbrev double (n : ℕ) : Float :=
  n.toUInt64.toFloat

variable {n : ℕ}

/-- The mantissa and the exponent of a natural number. -/
lemma canonical_nat (hn : 0 < n) (hlt : n < 2 ^ 53) :
    Canonical (n * 2 ^ (52 - n.log2)) (n.log2 - 52) := by
  have hlog : n.log2 < 53 := (Nat.log2_lt (Nat.ne_of_gt hn)).2 hlt
  have hbits : (n * 2 ^ (52 - n.log2)).log2 = 52 := by
    rw [log2_mul_two_pow hn]
    omega
  have hpos : n * 2 ^ (52 - n.log2) ≠ 0 := Nat.ne_of_gt (Nat.mul_pos hn (Nat.two_pow_pos _))
  obtain ⟨hfull, hbound⟩ := (Nat.log2_eq_iff hpos).1 hbits
  exact ⟨hbound, by omega, by omega, .inr hfull⟩

/-- A natural number is converted without rounding. -/
lemma ofUInt64_toUInt64 (hn : 0 < n) (hlt : n < 2 ^ 53) :
    ofUInt64 .binary64 n.toUInt64 = .finite .positive (n * 2 ^ (52 - n.log2)) (n.log2 - 52)
      (Nat.mul_pos hn (Nat.two_pow_pos _)) := by
  have hlog : n.log2 < 53 := (Nat.log2_lt (Nat.ne_of_gt hn)).2 hlt
  have htoNat : n.toUInt64.toNat = n := Nat.mod_eq_of_lt (by omega)
  have hcompare : compare (n : ℤ) 0 = .gt := Int.compare_eq_gt.2 (by omega)
  have hsurplus : (0 - Format.binary64.targetExponent (totalExponent n 0)).toNat = 52 - n.log2 := by
    rw [targetExponent_eq, totalExponent]
    omega
  unfold ofUInt64 ofNat ofInt UnpackedFloat.normalize
  rw [htoNat, hcompare]
  change roundWithAccuracy .binary64 .positive
    (n <<< (0 - Format.binary64.targetExponent (totalExponent n 0)).toNat)
    (0 - (0 - Format.binary64.targetExponent (totalExponent n 0)).toNat) .exact = _
  rw [hsurplus]
  refine roundWithAccuracy_exact (canonical_nat hn hlt) _ (by omega) ?_
  have hnone : ((n.log2 : ℤ) - 52 - (0 - (52 - n.log2 : ℕ))).toNat = 0 := by omega
  rw [hnone, Nat.shiftLeft_eq, Nat.pow_zero, Nat.mul_one]

/-- The double of a natural number, taken apart. -/
theorem unpack_double (hn : 0 < n) (hlt : n < 2 ^ 53) :
    (double n).toModel.unpack = .finite .positive (n * 2 ^ (52 - n.log2)) (n.log2 - 52)
      (Nat.mul_pos hn (Nat.two_pow_pos _)) := by
  change unpack .binary64 (pack .binary64 (ofUInt64 .binary64 n.toUInt64)) = _
  rw [ofUInt64_toUInt64 hn hlt]
  exact unpack_pack (canonical_nat hn hlt)

/-- Natural numbers are finite doubles. -/
lemma isFinite_double (hlt : n < 2 ^ 53) : (double n).isFinite = true := by
  change (double n).toModel.unpack.isFinite = true
  rcases Nat.eq_zero_or_pos n with rfl | hn
  · decide +kernel
  · rw [unpack_double hn hlt]
    rfl

/-- A product has as many bits as its factors, or one less. -/
lemma log2_add_le {a b : ℕ} (ha : 0 < a) (hb : 0 < b) : a.log2 + b.log2 ≤ (a * b).log2 := by
  rw [Nat.le_log2 (Nat.ne_of_gt (Nat.mul_pos ha hb)), Nat.pow_add]
  exact Nat.mul_le_mul (Nat.log2_self_le (Nat.ne_of_gt ha)) (Nat.log2_self_le (Nat.ne_of_gt hb))

/-- A product of natural numbers is exact. -/
theorem double_mul {a b : ℕ} (ha : 0 < a) (hb : 0 < b) (hlt : a * b < 2 ^ 53) :
    double a * double b = double (a * b) := by
  have hab : 0 < a * b := Nat.mul_pos ha hb
  have halt : a < 2 ^ 53 := Nat.lt_of_le_of_lt (Nat.le_mul_of_pos_right a hb) hlt
  have hblt : b < 2 ^ 53 := Nat.lt_of_le_of_lt (Nat.le_mul_of_pos_left b ha) hlt
  have hbits := log2_add_le ha hb
  have hlog : (a * b).log2 < 53 := (Nat.log2_lt (Nat.ne_of_gt hab)).2 hlt
  have hmul : mul .binary64 (double a).toModel.unpack (double b).toModel.unpack =
      ofUInt64 .binary64 (a * b).toUInt64 := by
    rw [unpack_double ha halt, unpack_double hb hblt, ofUInt64_toUInt64 hab hlt]
    refine roundWithAccuracy_exact (canonical_nat hab hlt) _ (by omega) ?_
    have hpow : 52 - a.log2 + (52 - b.log2) = 52 - (a * b).log2 +
        ((a * b).log2 - 52 - ((a.log2 : ℤ) - 52 + (b.log2 - 52))).toNat := by omega
    rw [Nat.mul_assoc (a * b), ← Nat.pow_add, ← hpow, Nat.pow_add]
    ring
  exact congrArg (fun u => Float.ofModel (Float.Model.pack u)) hmul

/-- One digit of a power: the base is multiplied in if the digit is one. -/
lemma exists_of_digit {a b n : ℕ} (ha : 0 < a) (hb : 0 < b) (hlt : a * b ^ n < 2 ^ 53)
    (hn : n ≠ 0) : ∃ c, 0 < c ∧
      (if n % 2 = 1 then double a * double b else double a) = double c ∧
      c * (b * b) ^ (n / 2) = a * b ^ n := by
  have hsquare : (b * b) ^ (n / 2) = b ^ (2 * (n / 2)) := by rw [Nat.pow_mul, Nat.pow_two]
  split
  · next hodd =>
    have hle : a * b ≤ a * b ^ n := Nat.mul_le_mul_left a (Nat.le_self_pow hn b)
    refine ⟨a * b, Nat.mul_pos ha hb, double_mul ha hb (by omega), ?_⟩
    have hdigits : n = 2 * (n / 2) + 1 := by omega
    rw [hsquare]
    conv_rhs => rw [hdigits, Nat.pow_succ', ← Nat.mul_assoc]
  · next heven =>
    have hdigits : n = 2 * (n / 2) := by omega
    refine ⟨a, ha, rfl, ?_⟩
    rw [hsquare, ← hdigits]

/-- Powers of a natural number are exact, as far as they are below the bound. -/
lemma powBySquaring_double (a b n : ℕ) (ha : 0 < a) (hb : 0 < b) (hlt : a * b ^ n < 2 ^ 53) :
    powBySquaring (double a) (double b) n = double (a * b ^ n) := by
  induction n using Nat.strong_induction_on generalizing a b with
  | h n ih =>
    rw [powBySquaring]
    split
    · next hzero => rw [hzero, Nat.pow_zero, Nat.mul_one]
    · next hn =>
      obtain ⟨c, hc, hdigit, hsplit⟩ := exists_of_digit ha hb hlt hn
      dsimp only
      rw [hdigit]
      split
      · next hlast => rw [← hsplit, hlast, Nat.pow_zero, Nat.mul_one]
      · next hmore =>
        have hsquare : b * b ≤ c * (b * b) ^ (n / 2) :=
          (Nat.le_self_pow hmore _).trans (Nat.le_mul_of_pos_left _ hc)
        rw [double_mul hb hb (by omega), ih (n / 2) (by omega) c (b * b) hc (Nat.mul_pos hb hb)
          (by omega), hsplit]

/-- The scales are exact powers of ten. -/
theorem tenPow_eq {places : ℕ} (h : places ≤ 15) : tenPow places = double (10 ^ places) := by
  have hone : (1 : Float) = double 1 := by decide +kernel
  have hten : (10 : Float) = double 10 := by decide +kernel
  have hpow : 10 ^ places ≤ 10 ^ 15 := Nat.pow_le_pow_right (by decide) h
  rw [tenPow, hone, hten, powBySquaring_double 1 10 places (by decide) (by decide) (by omega),
    Nat.one_mul]

/-- A finite double divided by a natural number is finite. -/
theorem isFinite_div_double {x : Float} (hx : x.isFinite = true) (hn : 0 < n) (hlt : n < 2 ^ 53) :
    (x / double n).isFinite = true := by
  change (unpack .binary64 (pack .binary64
    (div .binary64 x.toModel.unpack (double n).toModel.unpack))).isFinite = true
  rw [unpack_double hn hlt]
  rcases unpack_of_isFinite hx with ⟨s, hu⟩ | ⟨s, m, e, hm, hu, hcanonical⟩
  · rw [hu]
    change (unpack .binary64 (pack .binary64 (.zero (s / .positive)))).isFinite = true
    rw [unpack_pack (u := .zero _) trivial]
    rfl
  · rw [hu]
    have htarget := hcanonical.targetExponent_eq
    rw [targetExponent_eq] at htarget
    have hlog : n.log2 < 53 := (Nat.log2_lt (Nat.ne_of_gt hn)).2 hlt
    have htotal : totalExponent (n * 2 ^ (52 - n.log2)) (n.log2 - 52) = n.log2 + 1 := by
      rw [totalExponent, log2_mul_two_pow hn]
      omega
    -- The quotient has no greater exponent than the dividend.
    let f : ℤ := min (e - (n.log2 - 52)) (Format.binary64.targetExponent
      (totalExponent m e - totalExponent (n * 2 ^ (52 - n.log2)) (n.log2 - 52)))
    have hf : f ≤ e := by
      dsimp only [f]
      rw [htotal, targetExponent_eq]
      omega
    have hshift : (e - (n.log2 - 52) - f).toNat = (e - f).toNat + (52 - n.log2) := by omega
    refine isFinite_roundWithAccuracy (E := e) (M := m) (Approximates.of_quotient _ ?_)
      hcanonical hm hf ?_
    · exact Nat.mul_pos hn (Nat.two_pow_pos _)
    · change m <<< (e - (n.log2 - 52) - f).toNat ≤ _
      rw [hshift, Nat.shiftLeft_eq, Nat.pow_add, ← Nat.mul_assoc]
      exact Nat.mul_le_mul_left _ (Nat.le_mul_of_pos_left _ hn)

end Formula.Decimal
