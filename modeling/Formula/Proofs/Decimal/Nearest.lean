import Formula.Decimal.Rounding
import Formula.Proofs.Decimal.Exact

/-!
# Rounding to the nearest double

Arithmetic on doubles keeps of the bits that are left out only whether they are below, at or above
one half. This is enough to round like `Rounding.halfEven` (`Approximates.roundedMantissa_eq`).
-/

namespace Formula.Decimal
open Float.Model (Format UnpackedFloat totalExponent)
open Float.Model.UnpackedFloat

/-- A mantissa with its two further bits stands for a fraction: the mantissa is the integer part,
and the bits tell how the rest compares with one half. -/
def Approximates (em : ExtendedMantissa) (num den : ℕ) : Prop :=
  ∃ rest < den, num = em.mantissa * den + rest ∧ (em.roundBit ↔ den ≤ 2 * rest) ∧
    (em.stickyBit ↔ 2 * rest ≠ 0 ∧ 2 * rest ≠ den)

/-- A mantissa does not depend on how accurate it is. -/
@[simp]
lemma mantissa_ofMantissaAndAccuracy (m : ℕ) (accuracy : Accuracy) :
    (ExtendedMantissa.ofMantissaAndAccuracy m accuracy).mantissa = m := by
  cases accuracy with
  | exact => rfl
  | inexact o =>
    cases o with
    | _ => rfl

/-- A rounded fraction is not above a bound of the fraction. -/
lemma Rounding.quotient_le (mode : Rounding) {num den bound : ℕ} (h : num ≤ bound * den) :
    mode.quotient num den ≤ bound := by
  have hlower : num / den ≤ bound := Nat.div_le_of_le_mul (by rwa [Nat.mul_comm] at h)
  unfold quotient
  dsimp only
  split
  · next hup =>
    have hrest : num % den ≠ 0 := by
      intro hzero
      simp [hzero] at hup
    refine Nat.lt_of_le_of_ne hlower fun heq => ?_
    have hparts := Nat.div_add_mod num den
    rw [heq, Nat.mul_comm] at hparts
    omega
  · exact hlower

/-- A natural number is not changed by rounding. -/
lemma Rounding.quotient_mul (mode : Rounding) (n : ℕ) {den : ℕ} (hden : 0 < den) :
    mode.quotient (n * den) den = n := by
  simp [quotient, Nat.mul_div_cancel _ hden]

/-- A fraction that is rounded to the nearest natural number is at most one half away. -/
lemma Rounding.abs_halfEven_sub_le (num : ℕ) {den : ℕ} (hden : 0 < den) :
    |(halfEven.quotient num den : ℚ) - num / den| ≤ 1 / 2 := by
  have hpos : (0 : ℚ) < den := by exact_mod_cast hden
  have hparts : (num : ℚ) = den * (num / den : ℕ) + (num % den : ℕ) := by
    exact_mod_cast (Nat.div_add_mod num den).symm
  have hfraction : (num : ℚ) / den = (num / den : ℕ) + (num % den : ℕ) / den := by
    conv_lhs => rw [hparts]
    field_simp
  have hrest : (0 : ℚ) ≤ (num % den : ℕ) / den := by positivity
  have hlt : ((num % den : ℕ) : ℚ) / den < 1 := by
    rw [div_lt_one hpos]
    exact_mod_cast Nat.mod_lt num hden
  rw [hfraction, abs_le]
  unfold quotient goesUp
  dsimp only
  split
  · next hup =>
    have hhalf : den ≤ 2 * (num % den) := by
      simp only [Bool.and_eq_true, Bool.or_eq_true, decide_eq_true_eq, beq_iff_eq] at hup
      omega
    have hhalf : (1 : ℚ) / 2 ≤ (num % den : ℕ) / den := by
      rw [div_le_div_iff₀ two_pos hpos, one_mul, mul_comm]
      exact_mod_cast hhalf
    push_cast
    constructor
    · linarith
    · linarith
  · next hdown =>
    have hhalf : 2 * (num % den) ≤ den := by
      simp at hdown
      omega
    have hhalf : ((num % den : ℕ) : ℚ) / den ≤ 1 / 2 := by
      rw [div_le_div_iff₀ hpos two_pos, one_mul, mul_comm]
      exact_mod_cast hhalf
    constructor
    · linarith
    · linarith

namespace Approximates

variable {em : ExtendedMantissa} {num den : ℕ}

/-- A quotient whose rest was compared with one half. -/
lemma of_quotient (num : ℕ) (hden : 0 < den) :
    Approximates (.ofMantissaAndAccuracy (num / den) (accuracyOfFraction (num % den) den)) num
      den := by
  have hparts : num = num / den * den + num % den := (Nat.div_add_mod' num den).symm
  refine ⟨num % den, Nat.mod_lt _ hden, by rwa [mantissa_ofMantissaAndAccuracy], ?_⟩
  unfold accuracyOfFraction
  split
  · next hzero => simp [ExtendedMantissa.ofMantissaAndAccuracy, hzero, Nat.ne_of_gt hden]
  · next hrest =>
    cases hcompare : compare (2 * (num % den)) den with
    | lt =>
      have hbelow := Nat.compare_eq_lt.1 hcompare
      simp [ExtendedMantissa.ofMantissaAndAccuracy, hrest, hbelow, Nat.ne_of_lt hbelow]
    | eq =>
      have hhalf := Nat.compare_eq_eq.1 hcompare
      simp [ExtendedMantissa.ofMantissaAndAccuracy, hhalf]
    | gt =>
      have habove := Nat.compare_eq_gt.1 hcompare
      simp [ExtendedMantissa.ofMantissaAndAccuracy, hrest, Nat.le_of_lt habove,
        Nat.ne_of_gt habove]

/-- A natural number is a fraction without a rest. -/
lemma of_exact (m : ℕ) : Approximates (.ofMantissaAndAccuracy m .exact) m 1 :=
  ⟨0, Nat.one_pos, by simp [ExtendedMantissa.ofMantissaAndAccuracy]⟩

/-- Leaving out the lowest bit halves the fraction. -/
lemma shiftRightOne (h : Approximates em num den) :
    Approximates em.shiftRightOne num (2 * den) := by
  obtain ⟨rest, hlt, hnum, hround, hsticky⟩ := h
  have hparts := Nat.div_add_mod em.mantissa 2
  have hmul : em.mantissa * den = em.mantissa / 2 * (2 * den) + em.mantissa % 2 * den := by
    conv_lhs => rw [← hparts]
    ring
  have hbits : (em.roundBit || em.stickyBit) = true ↔ rest ≠ 0 := by
    rw [Bool.or_eq_true, hround, hsticky]
    omega
  have hbit : em.mantissa % 2 = 0 ∨ em.mantissa % 2 = 1 := Nat.mod_two_eq_zero_or_one _
  refine ⟨em.mantissa % 2 * den + rest, ?_, ?_, ?_, ?_⟩
  · rcases hbit with hbit | hbit
    · rw [hbit]
      omega
    · rw [hbit]
      omega
  · rw [hnum, hmul, Nat.add_assoc]
    rfl
  · rcases hbit with hbit | hbit
    · simp [ExtendedMantissa.shiftRightOne, hbit]
      omega
    · simp [ExtendedMantissa.shiftRightOne, hbit]
  · change (em.roundBit || em.stickyBit) = true ↔ _
    rw [hbits]
    rcases hbit with hbit | hbit
    · rw [hbit]
      omega
    · rw [hbit]
      omega

/-- Leaving out bits divides the fraction by a power of two. -/
lemma shiftRight (h : Approximates em num den) (n : ℕ) :
    Approximates (em >>> n) num (den * 2 ^ n) := by
  change Approximates (n.repeat ExtendedMantissa.shiftRightOne em) num (den * 2 ^ n)
  induction n with
  | zero => rwa [Nat.pow_zero, Nat.mul_one]
  | succ n ih =>
    rw [Nat.pow_succ', Nat.mul_left_comm]
    exact ih.shiftRightOne

/-- A mantissa is rounded as the fraction is that it stands for. -/
theorem roundedMantissa_eq (h : Approximates em num den) :
    em.roundedMantissa = Rounding.halfEven.quotient num den := by
  obtain ⟨rest, hlt, rfl, hround, hsticky⟩ := h
  have hlower : (em.mantissa * den + rest) / den = em.mantissa := by
    rw [Nat.mul_comm, Nat.mul_add_div (by omega), Nat.div_eq_of_lt hlt, Nat.add_zero]
  have hrest : (em.mantissa * den + rest) % den = rest := by
    rw [Nat.mul_comm, Nat.mul_add_mod, Nat.mod_eq_of_lt hlt]
  have hquotient : Rounding.halfEven.quotient (em.mantissa * den + rest) den =
      if den < 2 * rest ∨ 2 * rest = den ∧ em.mantissa % 2 = 1 then em.mantissa + 1
      else em.mantissa := by
    unfold Rounding.quotient Rounding.goesUp
    rw [hlower, hrest]
    refine if_congr ?_ rfl rfl
    simp
    omega
  rw [hquotient]
  obtain ⟨mantissa, roundBit, stickyBit⟩ := em
  cases roundBit with
  | false =>
    have hbelow : 2 * rest < den := Nat.lt_of_not_le fun h => Bool.false_ne_true (hround.2 h)
    rw [if_neg (by omega)]
    cases stickyBit with
    | false => rfl
    | true => rfl
  | true =>
    have habove : den ≤ 2 * rest := hround.1 rfl
    cases stickyBit with
    | false =>
      have hhalf : 2 * rest = den := by
        by_contra hne
        exact Bool.false_ne_true (hsticky.2 ⟨by omega, hne⟩)
      change mantissa + mantissa % 2 = _
      dsimp only
      split
      · omega
      · omega
    | true =>
      have hne := (hsticky.1 rfl).2
      rw [if_pos (by omega)]
      rfl

end Approximates

/-- The exponent that leaves a mantissa 53 bits, unless it is below the least exponent of doubles.
-/
lemma targetExponent_eq (total : ℤ) :
    Format.binary64.targetExponent total = max (total - 53) (-1074) :=
  rfl

/-- How many bits a mantissa has to give up. -/
def surplus (m : ℕ) (e : ℤ) : ℕ :=
  (Format.binary64.targetExponent (totalExponent m e) - e).toNat

/-- A mantissa of a double has the bits that its exponent leaves it. -/
lemma Canonical.targetExponent_eq {m : ℕ} {e : ℤ} (h : Canonical m e) :
    Format.binary64.targetExponent (totalExponent m e) = e := by
  have hlt : m.log2 < 53 := by
    rcases Nat.eq_zero_or_pos m with rfl | hpos
    · decide
    · exact (Nat.log2_lt (Nat.ne_of_gt hpos)).2 h.mantissa_lt
  rw [Decimal.targetExponent_eq, totalExponent]
  rcases h.full with rfl | hfull
  · omega
  · have hge : 52 ≤ m.log2 := (Nat.le_log2 (by omega)).2 hfull
    have := h.le_exponent
    omega

/-- A number that is shifted has as many more bits. -/
lemma log2_mul_two_pow {m : ℕ} (hm : 0 < m) (d : ℕ) : (m * 2 ^ d).log2 = m.log2 + d := by
  induction d with
  | zero => rw [Nat.pow_zero, Nat.mul_one, Nat.add_zero]
  | succ d ih =>
    have hpos : 0 < m * 2 ^ d := Nat.mul_pos hm (Nat.two_pow_pos d)
    rw [Nat.pow_succ', Nat.mul_left_comm, Nat.log2_two_mul (Nat.ne_of_gt hpos), ih, Nat.add_assoc]

/-- A greater number does not have fewer bits. -/
lemma log2_le_log2 {m n : ℕ} (h : m ≤ n) : m.log2 ≤ n.log2 := by
  rw [Nat.log2_eq_log_two, Nat.log2_eq_log_two]
  exact Nat.log_mono_right h

/-- A mantissa of a double has no bits to give up. -/
lemma Canonical.surplus_eq {m : ℕ} {e : ℤ} (h : Canonical m e) : surplus m e = 0 := by
  rw [surplus, h.targetExponent_eq, Int.sub_self]
  rfl

/-- A number that is not above a double does not need a greater exponent than the double. -/
lemma Canonical.add_surplus_le {m M : ℕ} {e E : ℤ} (h : Canonical M E) (hM : 0 < M) (he : e ≤ E)
    (hle : m ≤ M * 2 ^ (E - e).toNat) : e + surplus m e ≤ E := by
  have hlog : m.log2 ≤ M.log2 + (E - e).toNat := by
    rw [← log2_mul_two_pow hM]
    exact log2_le_log2 hle
  have htarget := h.targetExponent_eq
  rw [Decimal.targetExponent_eq, totalExponent] at htarget
  rw [surplus, Decimal.targetExponent_eq, totalExponent]
  omega

section Round

variable {s : Sign} {m num den M : ℕ} {e E : ℤ} {accuracy : Accuracy}

/-- A bound of a fraction is one of its mantissa. -/
lemma Approximates.mantissa_le {bound : ℕ}
    (h : Approximates (.ofMantissaAndAccuracy m accuracy) num den) (hle : num ≤ bound * den) :
    m ≤ bound := by
  obtain ⟨rest, hlt, hnum, -⟩ := h
  rw [mantissa_ofMantissaAndAccuracy] at hnum
  have hmul : m * den ≤ bound * den := by omega
  exact Nat.le_of_mul_le_mul_right hmul (by omega)

/-- Shifting a mantissa leaves out its lowest bits. -/
lemma mantissa_shiftRight (m k : ℕ) :
    (ExtendedMantissa.ofMantissaAndAccuracy m .exact >>> k).mantissa = m / 2 ^ k := by
  obtain ⟨rest, hlt, hm, -⟩ := (Approximates.of_exact m).shiftRight k
  rw [Nat.one_mul] at hlt hm
  exact (Nat.div_eq_of_lt_le (by omega) (by rw [Nat.succ_mul]; omega)).symm

/-- A number is shifted and rounded. As this may give it a further bit, it is shifted again. -/
lemma roundWithAccuracy_eq (h : Approximates (.ofMantissaAndAccuracy m accuracy) num den) :
    ∃ r f k, r = Rounding.halfEven.quotient num (den * 2 ^ surplus m e) ∧
      f = e + surplus m e ∧ k = surplus r f ∧
      roundWithAccuracy .binary64 s m e accuracy =
        if hr : r / 2 ^ k = 0 then .zero s
        else .finite s (r / 2 ^ k) (f + k) (Nat.pos_of_ne_zero hr) := by
  refine ⟨_, _, _, (h.shiftRight (surplus m e)).roundedMantissa_eq, rfl, rfl, ?_⟩
  simp only [← mantissa_shiftRight]
  rfl

/-- Rounding a number that doubles stand for gives its own mantissa and exponent. -/
theorem roundWithAccuracy_exact (hc : Canonical M E) (hM : 0 < M) (he : e ≤ E)
    (hm : m = M * 2 ^ (E - e).toNat) :
    roundWithAccuracy .binary64 s m e .exact = .finite s M E hM := by
  obtain ⟨r, f, k, hr, hf, hk, heq⟩ :=
    roundWithAccuracy_eq (s := s) (e := e) (Approximates.of_exact m)
  have htotal : totalExponent m e = totalExponent M E := by
    rw [hm, totalExponent, totalExponent, log2_mul_two_pow hM]
    omega
  have hsurplus : surplus m e = (E - e).toNat := by
    rw [surplus, htotal, hc.targetExponent_eq]
  have hrM : r = M := by
    rw [hr, hsurplus, Nat.one_mul, hm]
    exact Rounding.quotient_mul _ _ (Nat.two_pow_pos _)
  have hfE : f = E := by omega
  have hk0 : k = 0 := by rw [hk, hrM, hfE, hc.surplus_eq]
  subst hrM hfE hk0
  rw [heq]
  simp [Nat.ne_of_gt hM]

/-- Rounding a fraction that is not above a double does not give an infinity. -/
theorem isFinite_roundWithAccuracy (h : Approximates (.ofMantissaAndAccuracy m accuracy) num den)
    (hc : Canonical M E) (hM : 0 < M) (he : e ≤ E) (hle : num ≤ M * 2 ^ (E - e).toNat * den) :
    (unpack .binary64
      (pack .binary64 (roundWithAccuracy .binary64 s m e accuracy))).isFinite = true := by
  obtain ⟨r, f, k, hr, hf, hk, heq⟩ := roundWithAccuracy_eq (s := s) (e := e) h
  have hm : m ≤ M * 2 ^ (E - e).toNat := h.mantissa_le hle
  have hfirst : f ≤ E := by
    rw [hf]
    exact hc.add_surplus_le hM he hm
  have hrle : r ≤ M * 2 ^ (E - f).toNat := by
    rw [hr]
    refine Rounding.quotient_le _ (hle.trans (Nat.le_of_eq ?_))
    have hpow : (E - e).toNat = (E - f).toNat + surplus m e := by omega
    rw [hpow, Nat.pow_add]
    ring
  have hsecond : f + k ≤ E := by
    rw [hk]
    exact hc.add_surplus_le hM hfirst hrle
  rw [heq]
  split
  · rw [unpack_pack (u := .zero s) trivial]
    rfl
  · exact isFinite_unpack_pack (hsecond.trans hc.exponent_le)

end Round

end Formula.Decimal
