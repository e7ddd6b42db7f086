import Formula.Arithmetic
import Formula.Decimal.Reading
import Formula.Proofs.Decimal.Natural

/-!
# Numbers in fixed point

A finite number stays finite when it is rounded to decimal places (`isFinite_roundPlaces`), so its
text consists of an integer part and as many places as wanted (`exists_fixedText`). Such a text is
read as the number that its digits stand for, however many zeros it starts with
(`FixedPoint.read?_text`). Formatting a number therefore does not depend on the width of its integer
part (`numberFormat_spec`).
-/

namespace Formula

namespace Decimal

/-- A row of digits. -/
def IsDigits (text : List Char) : Prop :=
  ∀ c ∈ text, isDigit c = true

/-- The digits of a number in fixed point: those of its integer part, and those of its fraction. -/
structure FixedPoint where
  whole : List Char
  fraction : List Char
  whole_ne : whole ≠ []
  whole_digits : IsDigits whole
  fraction_digits : IsDigits fraction

namespace FixedPoint

/-- The text of a number in fixed point; the point is left out if nothing follows it. -/
def text (t : FixedPoint) (negative : Bool) : List Char :=
  (if negative then ['-'] else []) ++ t.whole ++ if t.fraction = [] then [] else '.' :: t.fraction

/-- The natural number that is left without the point. -/
def number (t : FixedPoint) : ℕ :=
  ofDigits (t.whole ++ t.fraction)

/-- The nearest double to a number in fixed point. -/
def value (t : FixedPoint) (negative : Bool) : Float :=
  let magnitude := nearestDouble t.number (-t.fraction.length)
  if negative then -magnitude else magnitude

end FixedPoint

section Finite

variable {x : Float} {places : ℕ}

/-- The exact value of a finite double has a mantissa of 53 bits. -/
lemma exists_ofFloat_finite (hx : x.isFinite = true) :
    ∃ negative m e, Exact.ofFloat x = .finite negative m e ∧ m < 2 ^ 53 := by
  rw [Exact.ofFloat_eq]
  rcases unpack_of_isFinite hx with ⟨s, hu⟩ | ⟨s, m, e, hm, hu, hcanonical⟩
  · exact ⟨isMinus s, 0, -1074, by rw [hu]; rfl, by decide⟩
  · exact ⟨isMinus s, m, e, by rw [hu]; rfl, hcanonical.mantissa_lt⟩

/-- The other sign keeps a double finite. -/
lemma isFinite_neg (hx : x.isFinite = true) : (-x).isFinite = true := by
  change (-x).toModel.unpack.isFinite = true
  rw [unpack_neg]
  change x.toModel.unpack.isFinite = true at hx
  cases hu : x.toModel.unpack with
  | _ => rwa [hu] at hx

/-- The absolute value of a finite double is finite. -/
lemma isFinite_abs (hx : x.isFinite = true) : x.abs.isFinite = true := by
  change x.abs.toModel.unpack.isFinite = true
  rw [unpack_abs]
  change x.toModel.unpack.isFinite = true at hx
  cases hu : x.toModel.unpack with
  | _ => rwa [hu] at hx

/-- A finite double that is rounded to an integer stays finite. -/
lemma isFinite_integral (mode : Rounding) (hx : x.isFinite = true) :
    (Rounding.integral mode x).isFinite = true := by
  obtain ⟨negative, m, e, hexact, hm⟩ := exists_ofFloat_finite hx
  simp only [Rounding.integral, hexact]
  split
  · exact hx
  · next he =>
    have hnumerator : numerator m e = m := by
      have hnone : e.toNat = 0 := by omega
      rw [numerator, hnone]
      exact Nat.mul_one m
    have hle : mode.quotient (numerator m e) (denominator e) ≤ m := by
      refine mode.quotient_le ?_
      rw [hnumerator]
      exact Nat.le_mul_of_pos_right m (denominator_pos e)
    have hdouble := isFinite_double (Nat.lt_of_le_of_lt hle hm)
    cases negative with
    | false => exact hdouble
    | true => exact isFinite_neg hdouble

/-- A finite double that is rounded to decimal places stays finite. -/
theorem isFinite_roundPlaces (hx : x.isFinite = true) (hplaces : places ≤ 15) :
    (roundPlaces x places).isFinite = true := by
  have hpow : 10 ^ places ≤ 10 ^ 15 := Nat.pow_le_pow_right (by decide) hplaces
  simp only [roundPlaces, tenPow_eq hplaces]
  split
  · next hscaled =>
    have hrounded := isFinite_integral .halfUp hscaled
    exact isFinite_div_double hrounded (Nat.pow_pos (by decide)) (by omega)
  · exact hx

end Finite

section Digits

variable {whole rest : List Char}

/-- The digits of a number are digits. -/
lemma isDigits_digits (n : ℕ) : IsDigits (digits n) := by
  intro c hc
  have hdigit : c.isDigit = true := Nat.isDigit_of_mem_toDigits (by decide) (by decide) hc
  simpa [Char.isDigit, isDigit, Char.le_def] using hdigit

/-- A number is read from its digits. -/
lemma ofDigits_digits (n : ℕ) : ofDigits (digits n) = n :=
  Nat.ofDigitChars_toDigits (by decide) (by decide)

/-- Zeros in front of digits are digits. -/
lemma IsDigits.zeroPadded (h : IsDigits whole) (width : ℕ) :
    IsDigits (zeroPadded width whole) := by
  intro c hc
  rcases List.mem_append.1 hc with hzero | hc
  · rw [List.eq_of_mem_replicate hzero]
    rfl
  · exact h c hc

/-- A padded text has the width that is wanted, unless it is wider without padding. -/
lemma length_zeroPadded (width : ℕ) (text : List Char) :
    (zeroPadded width text).length = max width text.length := by
  simp only [zeroPadded, List.length_append, List.length_replicate]
  omega

/-- Zeros in front of digits do not count. -/
lemma ofDigits_zeroPadded_append (width : ℕ) (whole fraction : List Char) :
    ofDigits (zeroPadded width whole ++ fraction) = ofDigits (whole ++ fraction) := by
  have hzeros (k : ℕ) : ofDigits (List.replicate k '0') = 0 := by
    induction k with
    | zero => rfl
    | succ k ih => rw [List.replicate_succ', ofDigits, List.foldl_append, ← ofDigits, ih]; rfl
  rw [zeroPadded, List.append_assoc, ofDigits, List.foldl_append, ← ofDigits, hzeros]
  rfl

/-- Digits are read as far as they go. -/
lemma splitDigits_append (h : IsDigits whole) (hrest : ∀ c ∈ rest.head?, isDigit c = false) :
    splitDigits (whole ++ rest) = (whole, rest) := by
  rw [splitDigits, List.takeWhile_append_of_pos h, List.dropWhile_append_of_pos h]
  cases rest with
  | nil => simp
  | cons c rest => simp [hrest c rfl]

/-- Nothing follows a row of digits. -/
lemma IsDigits.splitDigits_eq (h : IsDigits whole) : splitDigits whole = (whole, []) := by
  have hsplit : splitDigits (whole ++ []) = (whole, []) := splitDigits_append h nofun
  rwa [List.append_nil] at hsplit

end Digits

namespace FixedPoint

/-- A number in fixed point with zeros in front of it, up to a width of its integer part. -/
def padded (t : FixedPoint) (width : ℕ) : FixedPoint where
  whole := zeroPadded width t.whole
  fraction := t.fraction
  whole_ne := by simp [zeroPadded, t.whole_ne]
  whole_digits := t.whole_digits.zeroPadded width
  fraction_digits := t.fraction_digits

/-- The zeros stand between the sign and the first digit. -/
lemma text_padded (t : FixedPoint) (width : ℕ) (negative : Bool) :
    (t.padded width).text negative = (if negative then ['-'] else []) ++
      (List.replicate (width - t.whole.length) '0' ++ t.text false) := by
  simp only [text, padded, zeroPadded, List.append_assoc]
  rfl

/-- Zeros in front of a number do not change it. -/
lemma value_padded (t : FixedPoint) (width : ℕ) (negative : Bool) :
    (t.padded width).value negative = t.value negative := by
  have hnumber : (t.padded width).number = t.number := ofDigits_zeroPadded_append _ _ _
  rw [value, hnumber]
  rfl

/-- The text of a number with decimal places is one in fixed point. -/
lemma exists_withPlaces (n places : ℕ) : ∃ t : FixedPoint,
    t.fraction.length = places ∧ t.number = n ∧ withPlaces n places = t.text false := by
  unfold withPlaces
  split
  · next hplaces =>
    let t : FixedPoint := ⟨digits n, [], Nat.toDigits_ne_nil, isDigits_digits n, nofun⟩
    refine ⟨t, hplaces.symm, ?_, ?_⟩
    · rw [number, List.append_nil, ofDigits_digits]
    · simp [t, text]
  · next hplaces =>
    have hdigits := (isDigits_digits n).zeroPadded (places + 1)
    have hlength := length_zeroPadded (places + 1) (digits n)
    have hnumber := ofDigits_zeroPadded_append (places + 1) (digits n) []
    rw [List.append_nil, List.append_nil, ofDigits_digits] at hnumber
    generalize zeroPadded (places + 1) (digits n) = all at hdigits hlength hnumber
    have hdrop : (all.drop (all.length - places)).length = places := by
      rw [List.length_drop]
      omega
    let t : FixedPoint :=
      { whole := all.take (all.length - places)
        fraction := all.drop (all.length - places)
        whole_ne := by
          refine List.ne_nil_of_length_pos ?_
          rw [List.length_take]
          omega
        whole_digits := fun c hc => hdigits c (List.mem_of_mem_take hc)
        fraction_digits := fun c hc => hdigits c (List.mem_of_mem_drop hc) }
    refine ⟨t, hdrop, ?_, ?_⟩
    · rw [number, List.take_append_drop, hnumber]
    · have hne : t.fraction ≠ [] := by
        refine List.ne_nil_of_length_pos ?_
        rw [hdrop]
        omega
      simp [t, text, hne]

/-- A text in fixed point without a sign is read as the number of its digits. -/
lemma readMagnitude?_text (t : FixedPoint) :
    readMagnitude? (t.text false) = some (nearestDouble t.number (-t.fraction.length)) := by
  have hne := t.whole_ne
  by_cases hnone : t.fraction = []
  · have hsplit := t.whole_digits.splitDigits_eq
    simp [readMagnitude?, text, number, hnone, hsplit, hne, readExponent?]
  · have hsplit : splitDigits (t.whole ++ '.' :: t.fraction) = (t.whole, '.' :: t.fraction) :=
      splitDigits_append t.whole_digits (by simp [isDigit])
    have hplaces := t.fraction_digits.splitDigits_eq
    simp [readMagnitude?, text, number, hnone, hsplit, hplaces, hne, readExponent?]

/-- No text in fixed point without a sign starts with one. -/
lemma splitSign_text (t : FixedPoint) (negative : Bool) :
    splitSign (t.text negative) = (negative, t.text false) := by
  cases negative with
  | true => rfl
  | false =>
    obtain ⟨c, rest, hwhole⟩ := List.exists_cons_of_ne_nil t.whole_ne
    have hc : isDigit c = true := t.whole_digits c (by simp [hwhole])
    have htext : ∃ rest, t.text false = c :: rest := ⟨_, by rw [text, hwhole]; rfl⟩
    obtain ⟨rest, htext⟩ := htext
    rw [htext]
    unfold splitSign
    split
    · next heq =>
      obtain ⟨rfl, -⟩ := List.cons.inj heq
      cases hc
    · next heq =>
      obtain ⟨rfl, -⟩ := List.cons.inj heq
      cases hc
    · rfl

/-- A text in fixed point is read as the number of its digits with its sign. -/
theorem read?_text (t : FixedPoint) (negative : Bool) :
    read? (t.text negative) = some (t.value negative) := by
  simp only [read?, t.splitSign_text, t.readMagnitude?_text]
  cases negative with
  | false => rfl
  | true => rfl

/-- The integer part ends at the point. -/
lemma takeWhile_text (t : FixedPoint) : (t.text false).takeWhile (· != '.') = t.whole := by
  have hpoint : ∀ c ∈ t.whole, (c != '.') = true := by
    intro c hc
    rw [bne_iff_ne]
    rintro rfl
    exact absurd (t.whole_digits _ hc) (by decide)
  change (t.whole ++ _).takeWhile _ = t.whole
  rw [List.takeWhile_append_of_pos hpoint]
  split
  · simp
  · simp

end FixedPoint

/-- A finite number in fixed point has its sign, as many digits in its integer part as wanted, or
more, and as many after the point as wanted. They are those of the rounded magnitude; only zeros in
front depend on the width. -/
theorem exists_fixedText {x : Float} {places : ℕ} (hx : x.isFinite = true) (hplaces : places ≤ 15) :
    ∃ t : FixedPoint, t.fraction.length = places ∧
      (∃ v, (Exact.ofFloat (roundPlaces x.abs places)).value? = some v ∧
        |(t.number : ℚ) - |v| * 10 ^ places| ≤ 1 / 2) ∧
      ∀ minInt, (fixedText x minInt places).toList = (t.padded minInt).text (x < 0) := by
  obtain ⟨negative, m, e, hexact, -⟩ :=
    exists_ofFloat_finite (isFinite_roundPlaces (isFinite_abs hx) hplaces)
  obtain ⟨t, hlength, hnumber, htext⟩ := FixedPoint.exists_withPlaces
    (Rounding.halfEven.quotient (numerator m e * Nat.pow 10 places) (denominator e)) places
  refine ⟨t, hlength, ⟨_, congrArg Exact.value? hexact, ?_⟩, ?_⟩
  · have hnearest := Rounding.abs_halfEven_sub_le (numerator m e * Nat.pow 10 places)
      (denominator_pos e)
    rw [← hnumber, Nat.pow_eq] at hnearest
    have hmagnitude : |(if negative then -1 else 1) * ((m : ℚ) * 2 ^ e)| = m * 2 ^ e := by
      have hnonneg : (0 : ℚ) ≤ m * 2 ^ e := by positivity
      cases negative with
      | false => simp [abs_of_nonneg hnonneg]
      | true => simp [abs_of_nonneg hnonneg]
    rw [hmagnitude, magnitude_eq, div_mul_eq_mul_div]
    push_cast at hnearest
    exact hnearest
  · intro minInt
    rw [t.text_padded]
    simp only [fixedText, placesText, hexact, htext, t.takeWhile_text]
    split
    · next hneg => simp [hneg]
    · next hneg => simp [hneg]

end Decimal

/-- The number of digits is limited. -/
lemma digitCount_le (x : Float) (limit : ℕ) : digitCount x limit ≤ limit := by
  unfold digitCount
  split
  · exact Nat.min_le_right _ _
  · exact Nat.le_refl limit
  · exact Nat.zero_le limit

open Decimal in
/-- A finite number in fixed point is an optional sign, which stands exactly before negative
numbers, an integer part of at least the wanted width, and the wanted number of places. The digits
are those of the rounded magnitude, and of a greater width there are only more zeros after the sign.
A number is always formatted as what its text is read as, and this does not depend on the width. -/
theorem numberFormat_spec {value : Float} (hvalue : value.isFinite = true) :
    (∀ places ≤ 15, ∃ t : FixedPoint, t.fraction.length = places ∧
      (∃ v, (Exact.ofFloat (roundPlaces value.abs places)).value? = some v ∧
        |(t.number : ℚ) - |v| * 10 ^ places| ≤ 1 / 2) ∧
      ∀ minInt, max 1 minInt ≤ (t.padded minInt).whole.length ∧
        (fixedText value minInt places).toList = (t.padded minInt).text (value < 0)) ∧
    (∀ intDigits places, read? (fixedText value (digitCount intDigits maxIntDigits)
      (digitCount places maxPlaces)).toList = some (numberFormat value intDigits places)) ∧
    ∀ width₁ width₂ places,
      numberFormat value width₁ places = numberFormat value width₂ places := by
  have hread (places : Float) : ∃ y, ∀ minInt,
      read? (fixedText value minInt (digitCount places maxPlaces)).toList = some y := by
    obtain ⟨t, -, -, htext⟩ := exists_fixedText hvalue (digitCount_le places maxPlaces)
    refine ⟨t.value (value < 0), fun minInt => ?_⟩
    rw [htext, FixedPoint.read?_text, t.value_padded]
  refine ⟨?shape, ?reads, ?independent⟩
  case shape =>
    intro places hplaces
    obtain ⟨t, hlength, hnearest, htext⟩ := exists_fixedText hvalue hplaces
    refine ⟨t, hlength, hnearest, fun minInt => ⟨?_, htext minInt⟩⟩
    have hpos := List.length_pos_iff.2 t.whole_ne
    have hwidth : (t.padded minInt).whole.length = max minInt t.whole.length :=
      length_zeroPadded minInt t.whole
    omega
  case reads =>
    intro intDigits places
    obtain ⟨y, hy⟩ := hread places
    simp only [numberFormat, if_pos hvalue, hy]
    rfl
  case independent =>
    intro width₁ width₂ places
    obtain ⟨y, hy⟩ := hread places
    simp only [numberFormat, if_pos hvalue, hy]

/-- A negative number with and without zeros in front of its digits. -/
theorem numberFormat_negative : Float.isFinite (-2.5) = true ∧
    Decimal.read? (Decimal.fixedText (-2.5) (digitCount 7 maxIntDigits)
      (digitCount 3 maxPlaces)).toList = some (numberFormat (-2.5) 7 3) ∧
    numberFormat (-2.5) 7 3 = numberFormat (-2.5) 0 3 := by
  have hfinite : Float.isFinite (-2.5) = true := by decide +kernel
  obtain ⟨-, hreads, hindependent⟩ := numberFormat_spec hfinite
  exact ⟨hfinite, hreads 7 3, hindependent 7 0 3⟩

example : Decimal.fixedText 3.14159 3 2 = "003.14" := by decide +kernel

end Formula
