import Formula.Decimal.Exact
import Mathlib

/-!
# Doubles taken apart

Arithmetic on doubles takes them apart into sign, mantissa and exponent, computes, and packs the
result again. What `Exact` says of a double is what taking it apart shows (`Exact.ofFloat_eq`), and
a number that has the form of a double is the same after packing (`unpack_pack`). A double that was
taken apart always has this form (`representable_unpack`).
-/

namespace Formula.Decimal
open Float.Model (Format UnpackedFloat)
open Float.Model.UnpackedFloat

/-- Whether a sign is a minus sign. -/
def isMinus : Sign → Bool
  | .negative => true
  | .positive => false

/-- What a double stands for that was taken apart. -/
def Exact.ofUnpacked : UnpackedFloat → Exact
  | .notANumber => .nan
  | .infinity s => .infinite (isMinus s)
  | .zero s => .finite (isMinus s) 0 (-1074)
  | .finite s m e _ => .finite (isMinus s) m e

/-- The number that a finite double stands for. -/
def Exact.value? : Exact → Option ℚ
  | .finite negative m e => some ((if negative then -1 else 1) * (m * 2 ^ e))
  | _ => none

/-- A magnitude as a fraction. -/
lemma magnitude_eq (m : ℕ) (e : ℤ) :
    (m : ℚ) * 2 ^ e = (numerator m e : ℚ) / (denominator e : ℚ) := by
  unfold numerator denominator
  rcases Int.le_total 0 e with h | h
  · obtain ⟨k, rfl⟩ := Int.eq_ofNat_of_zero_le h
    simp
  · obtain ⟨k, hk⟩ := Int.eq_ofNat_of_zero_le (Int.neg_nonneg_of_nonpos h)
    obtain rfl : e = -k := by omega
    simp [div_eq_mul_inv]

/-- A mantissa and an exponent of a double: the mantissa has 53 bits, or the exponent is the least
one. -/
structure Canonical (m : ℕ) (e : ℤ) : Prop where
  mantissa_lt : m < 2 ^ 53
  le_exponent : -1074 ≤ e
  exponent_le : e ≤ 971
  full : e = -1074 ∨ 2 ^ 52 ≤ m

/-- A number taken apart is one of those that doubles stand for. -/
def Representable : UnpackedFloat → Prop
  | .finite _ m e _ => Canonical m e
  | _ => True

section Fields

variable (b : BitVec Format.binary64.numBits)

/-- The bits of the mantissa are the lowest ones. -/
lemma toNat_unpackMantissa : (unpackMantissa b).toNat = b.toNat % 2 ^ 52 := by
  simp [unpackMantissa_def]

/-- The bits of the exponent stand above those of the mantissa. -/
lemma toNat_unpackExponent : (unpackExponent b).toNat = b.toNat / 2 ^ 52 % 2 ^ 11 := by
  simp [unpackExponent_def, Nat.shiftRight_eq_div_pow]

/-- The sign is the highest bit. -/
lemma isMinus_unpackSign : isMinus (.ofBitVec (unpackSign b)) = decide (2 ^ 63 ≤ b.toNat) := by
  have hb : b.toNat < 2 ^ 64 := b.isLt
  have htoNat : (unpackSign b).toNat = b.toNat / 2 ^ 63 % 2 := by
    simp [unpackSign_def, Nat.shiftRight_eq_div_pow]
  unfold Sign.ofBitVec
  split
  · next h =>
    have hzero : (unpackSign b).toNat = 0 := congrArg BitVec.toNat h
    simp only [isMinus, Bool.false_eq, decide_eq_false_iff_not]
    omega
  · next h =>
    have hone : (unpackSign b).toNat ≠ 0 := fun hzero => h (BitVec.eq_of_toNat_eq hzero)
    simp only [isMinus, Bool.true_eq, decide_eq_true_eq]
    omega

/-- The hidden bit stands above the bits of the mantissa. -/
lemma toNat_hiddenBit {n : ℕ} (v : BitVec n) : (1#1 ++ v).toNat = 2 ^ n + v.toNat := by
  rw [BitVec.toNat_append, ← Nat.shiftLeft_add_eq_or_of_lt v.isLt]
  simp [Nat.shiftLeft_eq]

/-- A double taken apart, by its fields: the exponent is all ones, or it is zero, or neither. -/
lemma unpack_eq : unpack .binary64 b =
    if (unpackExponent b).toNat = 2047 then
      if (unpackMantissa b).toNat = 0 then .infinity (.ofBitVec (unpackSign b)) else .notANumber
    else if (unpackExponent b).toNat = 0 then
      if h : (unpackMantissa b).toNat = 0 then .zero (.ofBitVec (unpackSign b))
      else .finite (.ofBitVec (unpackSign b)) (unpackMantissa b).toNat (-1074)
        (Nat.pos_of_ne_zero h)
    else .finite (.ofBitVec (unpackSign b)) (2 ^ 52 + (unpackMantissa b).toNat)
      ((unpackExponent b).toNat - 1075) (Nat.add_pos_left (by decide) _) := by
  have htop : unpackExponent b = -1#_ ↔ (unpackExponent b).toNat = 2047 := by
    rw [← BitVec.toNat_inj]
    rfl
  have hlow : unpackExponent b = 0#_ ↔ (unpackExponent b).toNat = 0 := by
    rw [← BitVec.toNat_inj]
    rfl
  have hzero : unpackMantissa b = 0#_ ↔ (unpackMantissa b).toNat = 0 := by
    rw [← BitVec.toNat_inj]
    rfl
  fun_cases unpack Format.binary64 b with
  | case1 _ _ _ _ hexponent hmantissa => rw [if_pos (htop.1 hexponent), if_pos (hzero.1 hmantissa)]
  | case2 _ _ hexponent hmantissa => rw [if_pos (htop.1 hexponent), if_neg (mt hzero.2 hmantissa)]
  | case3 _ _ _ _ hexponent hsubnormal hmantissa =>
    rw [if_neg (mt htop.2 hexponent), if_pos (hlow.1 hsubnormal), dif_pos (hzero.1 hmantissa)]
  | case4 _ _ exponent _ _ hexponent hsubnormal hmantissa =>
    rw [if_neg (mt htop.2 hexponent), if_pos (hlow.1 hsubnormal), dif_neg (mt hzero.2 hmantissa)]
    have hexponent_eq : exponent = (unpackExponent b).toNat - 1075 := rfl
    rw [hlow.1 hsubnormal] at hexponent_eq
    rw [hexponent_eq]
    rfl
  | case5 mantissaVec _ _ _ _ hexponent hsubnormal =>
    rw [if_neg (mt htop.2 hexponent), if_neg (mt hlow.2 hsubnormal)]
    congr 1
    exact toNat_hiddenBit mantissaVec

/-- The bits of a double say what taking it apart shows. -/
lemma Exact.ofUnpacked_unpack :
    Exact.ofUnpacked (unpack .binary64 b) = .ofBits (.ofBitVec b) := by
  have htoNat : (UInt64.ofBitVec b).toNat = b.toNat := rfl
  rw [unpack_eq, Exact.ofBits]
  simp only [htoNat, Nat.pow_eq, ← toNat_unpackExponent, ← toNat_unpackMantissa,
    ← isMinus_unpackSign]
  split
  · split
    · rfl
    · rfl
  · split
    · next h =>
      split
      · next h' => rw [h']; rfl
      · rfl
    · rfl

/-- A double stands for a number that doubles stand for. -/
lemma representable_unpack : Representable (unpack .binary64 b) := by
  have hmantissa : (unpackMantissa b).toNat < 2 ^ 52 := (unpackMantissa b).isLt
  have hexponent : (unpackExponent b).toNat < 2 ^ 11 := (unpackExponent b).isLt
  rw [unpack_eq]
  split
  · split
    · trivial
    · trivial
  · split
    · split
      · trivial
      · exact ⟨by omega, by decide, by decide, .inl rfl⟩
    · exact ⟨by omega, by omega, by omega, .inr (Nat.le_add_right _ _)⟩

end Fields

/-- The exact value of a double is what taking it apart shows. -/
theorem Exact.ofFloat_eq (x : Float) : Exact.ofFloat x = .ofUnpacked x.toModel.unpack :=
  (ofUnpacked_unpack x.toBits.toBitVec).symm

/-- A finite double is a zero, or it has a mantissa and an exponent. -/
lemma unpack_of_isFinite {x : Float} (hx : x.isFinite = true) :
    (∃ s, x.toModel.unpack = .zero s) ∨
      ∃ s m e hm, x.toModel.unpack = .finite s m e hm ∧ Canonical m e := by
  have hrepresentable : Representable x.toModel.unpack := representable_unpack _
  change x.toModel.unpack.isFinite = true at hx
  cases hu : x.toModel.unpack with
  | infinity s =>
    rw [hu] at hx
    cases hx
  | notANumber =>
    rw [hu] at hx
    cases hx
  | zero s => exact .inl ⟨s, rfl⟩
  | finite s m e hm =>
    rw [hu] at hrepresentable
    exact .inr ⟨s, m, e, hm, rfl, hrepresentable⟩

section Pack

variable {s : Sign} {m : ℕ} {e : ℤ} {hm : 0 < m}

/-- The double whose fields are given, taken apart. -/
lemma unpack_packComponents (exponent : BitVec 11) (mantissa : BitVec 52) :
    unpack .binary64 (packComponents .binary64 s exponent mantissa) =
      if exponent.toNat = 2047 then
        if mantissa.toNat = 0 then .infinity s else .notANumber
      else if exponent.toNat = 0 then
        if h : mantissa.toNat = 0 then .zero s
        else .finite s mantissa.toNat (-1074) (Nat.pos_of_ne_zero h)
      else .finite s (2 ^ 52 + mantissa.toNat) (exponent.toNat - 1075)
        (Nat.add_pos_left (by decide) _) := by
  rw [unpack_eq]
  simp only [unpackExponent_packComponents, unpackMantissa_packComponents,
    unpackSign_packComponents, Sign.ofBitVec_toBitVec]

/-- A double whose exponent is not all ones is finite. -/
lemma isFinite_unpack_packComponents {exponent : BitVec 11} (h : exponent.toNat ≠ 2047)
    (mantissa : BitVec 52) :
    (unpack .binary64 (packComponents .binary64 s exponent mantissa)).isFinite = true := by
  rw [unpack_packComponents, if_neg h]
  split
  · split
    · rfl
    · rfl
  · rfl

/-- A mantissa has 53 bits if the highest one of them is set. -/
lemma log2_eq_iff_of_lt (hlt : m < 2 ^ 53) : m.log2 + 1 = 53 ↔ 2 ^ 52 ≤ m := by
  rw [Nat.succ_inj]
  constructor
  · intro h
    rw [← h]
    refine Nat.log2_self_le ?_
    rintro rfl
    cases h
  · intro h
    exact (Nat.log2_eq_iff (by omega)).2 ⟨h, hlt⟩

/-- A finite number whose exponent is not too great is packed without becoming an infinity. -/
lemma pack_finite (he : e ≤ 971) : pack .binary64 (.finite s m e hm) =
    if m.log2 + 1 = 53 then
      packComponents .binary64 s (BitVec.ofNat 11 (e + 1075).toNat) (BitVec.ofNat 52 m)
    else packComponents .binary64 s 0 (BitVec.ofNat 52 m) := by
  have hbiased : e + (1023 : ℕ) + (52 : ℕ) = e + 1075 := by omega
  have hfits : ¬2 ^ 11 ≤ (e + (1023 : ℕ) + (52 : ℕ)).toNat + 1 := by omega
  rw [← hbiased]
  exact if_neg hfits

/-- Packing a finite number that doubles stand for loses nothing. -/
lemma unpack_pack_finite (h : Canonical m e) :
    unpack .binary64 (pack .binary64 (.finite s m e hm)) = .finite s m e hm := by
  have hlt := h.mantissa_lt
  have hle := h.le_exponent
  have hge := h.exponent_le
  rw [pack_finite hge]
  split
  · next hnormal =>
    have hfull := (log2_eq_iff_of_lt hlt).1 hnormal
    have hexponent : (BitVec.ofNat 11 (e + 1075).toNat).toNat = (e + 1075).toNat :=
      Nat.mod_eq_of_lt (by omega)
    have hmantissa : (BitVec.ofNat 52 m).toNat = m - 2 ^ 52 := by
      rw [BitVec.toNat_ofNat, Nat.mod_eq_sub_mod hfull, Nat.mod_eq_of_lt (by omega)]
    rw [unpack_packComponents, if_neg (by omega), if_neg (by omega)]
    congr 1
    · omega
    · omega
  · next hsubnormal =>
    have hpartial := mt (log2_eq_iff_of_lt hlt).2 hsubnormal
    have hmantissa : (BitVec.ofNat 52 m).toNat = m := Nat.mod_eq_of_lt (by omega)
    rw [unpack_packComponents, if_neg (by decide), if_pos (by decide),
      dif_neg (by omega)]
    congr 1
    exact (h.full.resolve_right hpartial).symm

/-- Packing a number that doubles stand for loses nothing. -/
theorem unpack_pack {u : UnpackedFloat} (h : Representable u) :
    unpack .binary64 (pack .binary64 u) = u := by
  cases u with
  | infinity s => exact unpack_packComponents (-1#11) 0#52
  | notANumber => exact unpack_packComponents (-1#11) (1#52 <<< 51)
  | zero s => exact unpack_packComponents 0#11 0#52
  | finite s m e hm => exact unpack_pack_finite h

/-- A finite number stays finite when it is packed, unless its exponent is too great. -/
theorem isFinite_unpack_pack (he : e ≤ 971) :
    (unpack .binary64 (pack .binary64 (.finite s m e hm))).isFinite = true := by
  rw [pack_finite he]
  split
  · refine isFinite_unpack_packComponents ?_ _
    have hle : (BitVec.ofNat 11 (e + 1075).toNat).toNat ≤ (e + 1075).toNat := Nat.mod_le _ _
    omega
  · exact isFinite_unpack_packComponents (by decide) _

end Pack

/-- Without its sign a number that doubles stand for is one as well. -/
lemma Representable.abs {u : UnpackedFloat} (h : Representable u) : Representable u.abs := by
  cases u with
  | _ => exact h

/-- With the other sign a number that doubles stand for is one as well. -/
lemma Representable.neg {u : UnpackedFloat} (h : Representable u) : Representable u.neg := by
  cases u with
  | _ => exact h

/-- The other sign. -/
lemma isMinus_neg (s : Sign) : isMinus (-s) = !isMinus s := by
  cases s with
  | negative => rfl
  | positive => rfl

/-- The absolute value of a double, taken apart. -/
lemma unpack_abs (x : Float) : x.abs.toModel.unpack = x.toModel.unpack.abs :=
  unpack_pack (representable_unpack _).abs

/-- A double with the other sign, taken apart. -/
lemma unpack_neg (x : Float) : (-x).toModel.unpack = x.toModel.unpack.neg :=
  unpack_pack (representable_unpack _).neg

end Formula.Decimal
