import TileAtlas.Proofs.Number.Order

/-!
Contract: counts, and counts with a power of ten, as floats.

Owns:
- `measures_count`: counts of up to 53 bits are floats;
- `isRounded_quotient`: the quotient of two significands is rounded to the nearest
  word;
- `isRounded_product` and `isRounded_fraction`, counts that are multiplied or divided
  by a power of ten.

Does not own: decimal numerals, whose exponents may be out of reach.

## Two ways

A count of up to 53 bits and a power of up to `10 ^ 22` are floats, and their product
or quotient is rounded once.  Otherwise the exact product or quotient is rounded.
-/

namespace TileAtlas

namespace Binary

open Float.Model Float.Model.UnpackedFloat

/-! ## Counts -/

theorem decode_leading {significand field : Nat} (leading : 2 ^ 52 ≤ significand)
    (small : significand < 2 ^ 53) (finite : field < 2046) :
    decode double (field * 2 ^ 52 + significand) =
      .finite false significand (-1074 + field) := by
  have exponentField : (field * 2 ^ 52 + significand) / 2 ^ 52 % 2 ^ 11 = field + 1 := by omega
  have fraction : 2 ^ 52 + (field * 2 ^ 52 + significand) % 2 ^ 52 = significand := by omega
  rw [decode_double, exponentField, fraction, if_neg (by omega), if_neg (by omega),
    decide_eq_false (by omega)]
  congr 1
  push_cast
  omega

/-- Counts of up to 53 bits are floats. -/
theorem measures_count {number : Float} {count : Nat} (positive : 0 < count)
    (small : count < 2 ^ 53) (rounded : IsRounded (word number) (count : Rat)) :
    Measures number (count : Rat) := by
  have bits : count.log2 < 53 := (Nat.log2_lt positive.ne').mpr small
  obtain ⟨places, isPlaces⟩ : ∃ places, 52 - count.log2 = places := ⟨_, rfl⟩
  have shiftedPositive : 0 < count <<< places := by
    rw [Nat.shiftLeft_eq]
    positivity
  have leading : 2 ^ 52 ≤ count <<< places ∧ count <<< places < 2 ^ 53 :=
    (Nat.log2_eq_iff shiftedPositive.ne').mp (by rw [log2_shiftLeft positive]; omega)
  have exact : dyadic (count <<< places) (-1074 + (1074 - places : Nat)) = count := by
    have exponent : (-1074 + (1074 - places : Nat) : Int) = 0 - places := by omega
    rw [exponent, dyadic_shiftLeft, dyadic, zpow_zero, mul_one]
  have read := decode_leading leading.1 leading.2 (show 1074 - places < 2046 by omega)
  have sameWord := rounded.eq (exact ▸ isRounded_of_decode read)
  rw [← sameWord] at read
  exact exact ▸ measures_of_decode read

theorem isRounded_toFloat {count : Nat} (positive : 0 < count) (small : count < 2 ^ 64) :
    IsRounded (word count.toUInt64.toFloat) (count : Rat) := by
  have rounded := isRounded_normalize positive 0 .positive
  rw [dyadic, zpow_zero, mul_one] at rounded
  have kept : count.toUInt64.toNat = count := UInt64.toNat_ofNat_of_lt' small
  change IsRounded (UnpackedFloat.pack .binary64 (UnpackedFloat.normalize .binary64
    (count.toUInt64.toNat : Nat) 0 .positive)).toNat _
  rw [kept]
  exact rounded

/-! ## Quotients -/

/-- A fraction is known by where it lies beside a half. -/
theorem stands_accuracyOfFraction (quotient : Nat) {numerator denominator : Nat}
    (small : numerator < denominator) :
    Stands (.ofMantissaAndAccuracy quotient (accuracyOfFraction numerator denominator))
      (quotient + numerator / denominator) := by
  have positive : (0 : Rat) < denominator := by exact_mod_cast (Nat.zero_le _).trans_lt small
  have belowOne : (numerator : Rat) / denominator < 1 := by
    rw [div_lt_one positive]
    exact_mod_cast small
  unfold accuracyOfFraction
  split
  · next isZero =>
      rw [isZero, Nat.cast_zero, zero_div, add_zero]
      exact stands_ofMantissa quotient
  · next notZero =>
      have some : (0 : Rat) < numerator / denominator :=
        div_pos (by exact_mod_cast Nat.pos_of_ne_zero notZero) positive
      rcases lt_trichotomy (2 * numerator) denominator with less | half | more
      · rw [Nat.compare_eq_lt.mpr less]
        refine ⟨numerator / denominator, some.le, ?_, iff_of_true rfl some.ne', ?_⟩
        · rw [div_lt_div_iff₀ positive two_pos]
          exact_mod_cast (by omega : numerator * 2 < 1 * denominator)
        · simp [ExtendedMantissa.ofMantissaAndAccuracy]
      · rw [Nat.compare_eq_eq.mpr half]
        refine ⟨0, le_rfl, by norm_num, by simp [ExtendedMantissa.ofMantissaAndAccuracy], ?_⟩
        have isHalf : (numerator : Rat) / denominator = 1 / 2 := by
          rw [div_eq_div_iff positive.ne' two_ne_zero]
          exact_mod_cast (by omega : numerator * 2 = 1 * denominator)
        rw [isHalf]
        simp [ExtendedMantissa.ofMantissaAndAccuracy]
      · rw [Nat.compare_eq_gt.mpr more]
        have aboveHalf : 1 / 2 < (numerator : Rat) / denominator := by
          rw [div_lt_div_iff₀ two_pos positive]
          exact_mod_cast (by omega : 1 * denominator < numerator * 2)
        refine ⟨numerator / denominator - 1 / 2, by linarith, by linarith,
          iff_of_true rfl (sub_ne_zero.mpr aboveHalf.ne'), ?_⟩
        simp [ExtendedMantissa.ofMantissaAndAccuracy]

/-- Enough bits are put behind the dividend. -/
theorem isRounded_quotient {dividend divisor : Nat} (dividendPositive : 0 < dividend)
    (divisorPositive : 0 < divisor) (exponent divisorExponent : Int) :
    IsRounded (UnpackedFloat.pack .binary64 (UnpackedFloat.div .binary64
        (.finite .positive dividend exponent dividendPositive)
        (.finite .positive divisor divisorExponent divisorPositive))).toNat
      (dyadic dividend exponent / dyadic divisor divisorExponent) := by
  obtain ⟨target, isTarget⟩ : ∃ target : Int, min (exponent - divisorExponent)
      (max ((dividend.log2 + 1 : Nat) + exponent -
        ((divisor.log2 + 1 : Nat) + divisorExponent) - 53) (-1074)) = target := ⟨_, rfl⟩
  obtain ⟨places, isPlaces⟩ : ∃ places : Nat,
      (exponent - divisorExponent - target).toNat = places := ⟨_, rfl⟩
  have divided : dyadic dividend exponent / dyadic divisor divisorExponent / 2 ^ target =
      (dividend <<< places / divisor : Nat) + (dividend <<< places % divisor : Nat) / divisor := by
    have divisorNe : (divisor : Rat) ≠ 0 := by exact_mod_cast divisorPositive.ne'
    have isExponent : exponent = divisorExponent + target + places := by omega
    have whole : ((dividend <<< places : Nat) : Rat) = divisor * (dividend <<< places / divisor : Nat) +
        (dividend <<< places % divisor : Nat) := by
      exact_mod_cast (Nat.div_add_mod _ _).symm
    have weight := (two_zpow_pos divisorExponent).ne'
    have targetWeight := (two_zpow_pos target).ne'
    rw [← mul_div_cancel_left₀ ((dividend <<< places / divisor : Nat) : Rat) divisorNe, ← add_div,
      ← whole, dyadic, dyadic, isExponent, zpow_add₀ two_ne_zero, zpow_add₀ two_ne_zero,
      zpow_natCast, Nat.shiftLeft_eq]
    push_cast
    field_simp
  have enough : 52 ≤ (dividend <<< places / divisor).log2 ∨ target ≤ -1074 := by
    rcases le_or_gt target (-1074) with least | above
    · exact .inr least
    · have bits : divisor.log2 + 1 + 52 ≤ dividend.log2 + places := by omega
      have large : 2 ^ 52 ≤ dividend <<< places / divisor := by
        rw [Nat.le_div_iff_mul_le divisorPositive]
        calc 2 ^ 52 * divisor ≤ 2 ^ 52 * 2 ^ (divisor.log2 + 1) :=
              Nat.mul_le_mul_left _ Nat.lt_log2_self.le
          _ = 2 ^ (divisor.log2 + 1 + 52) := by rw [← pow_add, add_comm]
          _ ≤ 2 ^ (dividend.log2 + places) := Nat.pow_le_pow_right two_pos bits
          _ ≤ dividend <<< places := by
              rw [pow_add, Nat.shiftLeft_eq]
              exact Nat.mul_le_mul_right _ (Nat.log2_self_le dividendPositive.ne')
      exact .inl ((Nat.le_log2 (by omega)).mpr large)
  have stands := stands_accuracyOfFraction (dividend <<< places / divisor)
    (Nat.mod_lt (dividend <<< places) divisorPositive)
  rw [← divided] at stands
  obtain ⟨value, rounded, packed⟩ := isRounded_of_stands .positive stands enough
  have quotient : UnpackedFloat.div .binary64
      (.finite .positive dividend exponent dividendPositive)
      (.finite .positive divisor divisorExponent divisorPositive) =
        roundWithAccuracy .binary64 .positive (dividend <<< places / divisor) target
          (accuracyOfFraction (dividend <<< places % divisor) divisor) := by
    rw [← isPlaces, ← isTarget]
    rfl
  rw [quotient, packed, signWord_positive, zero_add]
  exact rounded

/-! ## Products and quotients of floats -/

theorem word_div (number divisor : Float) : word (number / divisor) =
    (UnpackedFloat.pack .binary64
      (UnpackedFloat.div .binary64 number.toModel.unpack divisor.toModel.unpack)).toNat := rfl

theorem Measures.isRounded_mul {number factor : Float} {exact factorExact : Rat}
    (measures : Measures number exact) (positive : 0 < exact)
    (factorMeasures : Measures factor factorExact) (factorPositive : 0 < factorExact) :
    IsRounded (word (number * factor)) (exact * factorExact) := by
  cases factorMeasures with
  | zero _ => exact absurd factorPositive (lt_irrefl _)
  | finite taken =>
      obtain ⟨value, rounded, product⟩ := isRounded_mul_finite measures positive taken
      rw [product, signWord_positive, zero_add]
      exact rounded

theorem Measures.isRounded_div {number divisor : Float} {exact divisorExact : Rat}
    (measures : Measures number exact) (positive : 0 < exact)
    (divisorMeasures : Measures divisor divisorExact) (divisorPositive : 0 < divisorExact) :
    IsRounded (word (number / divisor)) (exact / divisorExact) := by
  cases divisorMeasures with
  | zero _ => exact absurd divisorPositive (lt_irrefl _)
  | finite divisorTaken =>
      cases measures with
      | zero _ => exact absurd positive (lt_irrefl _)
      | finite taken =>
          rw [word_div, taken, divisorTaken]
          exact isRounded_quotient _ _ _ _

/-! ## Powers of ten -/

/-- The powers of ten that are floats, as a table has them. -/
theorem measures_power {exponent : Nat} (few : exponent < 23) :
    Measures Float.exactlyRepresentablePowersOfTen[exponent] (10 ^ exponent) := by
  have table : ∀ entry : Fin 23,
      decode double (word Float.exactlyRepresentablePowersOfTen[entry.val]) =
        .finite false (5 ^ entry.val <<< (52 - (5 ^ entry.val).log2))
          (entry.val - (52 - (5 ^ entry.val).log2 : Nat)) := by
    decide +kernel
  have measures := measures_of_decode (table ⟨exponent, few⟩)
  rw [dyadic_shiftLeft] at measures
  have power : dyadic (5 ^ exponent) exponent = 10 ^ exponent := by
    rw [dyadic, zpow_natCast]
    push_cast
    rw [← mul_pow]
    norm_num
  exact power ▸ measures

/-! ## Counts with a power of ten -/

variable {count exponent : Nat}

/-- The exact product is rounded. -/
theorem isRounded_exactProduct (positive : 0 < count) (looked : exponent ≤ 2 ^ 11) :
    IsRounded
      (UnpackedFloat.pack .binary64 (UnpackedFloat.ofScientific .binary64 count exponent)).toNat
      (count * 10 ^ exponent : Rat) := by
  have leading : 2 ^ 52 ≤ count <<< 53 * 10 ^ exponent := by
    rw [Nat.shiftLeft_eq]
    calc 2 ^ 52 ≤ 2 ^ 53 := by norm_num
      _ ≤ count * 2 ^ 53 := Nat.le_mul_of_pos_left _ positive
      _ ≤ count * 2 ^ 53 * 10 ^ exponent := Nat.le_mul_of_pos_right _ (Nat.pow_pos (by norm_num))
  have enough : 52 ≤ (count <<< 53 * 10 ^ exponent).log2 ∨ (-53 + 0 : Int) ≤ -1074 :=
    .inl ((Nat.le_log2 (by omega)).mpr leading)
  obtain ⟨value, rounded, packed⟩ := isRounded_roundWithAccuracy .positive enough
  have exact : dyadic (count <<< 53 * 10 ^ exponent) (-53 + 0) = count * 10 ^ exponent := by
    rw [dyadic, Nat.shiftLeft_eq]
    push_cast
    norm_num
    ring
  have scientific : UnpackedFloat.ofScientific .binary64 count exponent =
      roundWithAccuracy .binary64 .positive (count <<< 53 * 10 ^ exponent) (-53 + 0) .exact := by
    unfold UnpackedFloat.ofScientific
    rw [dif_neg positive.ne', if_neg (show ¬(exponent : Int) > 2 ^ 11 by omega),
      if_neg (show ¬(exponent : Int) < -(2 ^ 11 + count.log2) by omega),
      if_pos (Int.natCast_nonneg exponent)]
    rfl
  rw [scientific, packed, ← exact, signWord_positive, zero_add]
  exact rounded

/-- The exact quotient is rounded. -/
theorem isRounded_exactFraction (positive : 0 < count) (some : 0 < exponent)
    (looked : exponent ≤ 2 ^ 11 + count.log2) :
    IsRounded
      (UnpackedFloat.pack .binary64
        (UnpackedFloat.ofScientific .binary64 count (Int.negOfNat exponent))).toNat
      (count / 10 ^ exponent : Rat) := by
  have power : 0 < 10 ^ exponent := Nat.pow_pos (by norm_num)
  have scientific : UnpackedFloat.ofScientific .binary64 count (Int.negOfNat exponent) =
      UnpackedFloat.div .binary64 (.finite .positive count 0 positive)
        (.finite .positive (10 ^ exponent) 0 power) := by
    have kept : (- -(exponent : Int)).toNat = exponent := by omega
    have isOpposite : Int.negOfNat exponent = -exponent := Int.negOfNat_eq
    unfold UnpackedFloat.ofScientific
    rw [isOpposite, dif_neg positive.ne', if_neg (show ¬-(exponent : Int) > 2 ^ 11 by omega),
      if_neg (show ¬-(exponent : Int) < -(2 ^ 11 + count.log2) by omega),
      if_neg (show ¬0 ≤ -(exponent : Int) by omega)]
    simp only [kept]
  have rounded := isRounded_quotient positive power 0 0
  rw [dyadic, dyadic, zpow_zero, mul_one, mul_one] at rounded
  rw [scientific]
  exact_mod_cast rounded

/-- A count times a power of ten. -/
theorem isRounded_product (positive : 0 < count) (looked : exponent ≤ 2 ^ 11) :
    IsRounded (word (Float.ofScientific count false exponent)) (count * 10 ^ exponent : Rat) := by
  unfold Float.ofScientific
  split
  · next few =>
      have measures := measures_count positive few.1 (isRounded_toFloat positive (by omega))
      exact measures.isRounded_mul (by exact_mod_cast positive) (measures_power (by omega))
        (by positivity)
  · exact isRounded_exactProduct positive looked

/-- A count divided by a power of ten. -/
theorem isRounded_fraction (positive : 0 < count) (some : 0 < exponent)
    (looked : exponent ≤ 2 ^ 11 + count.log2) :
    IsRounded (word (Float.ofScientific count true exponent)) (count / 10 ^ exponent : Rat) := by
  unfold Float.ofScientific
  split
  · next few =>
      have measures := measures_count positive few.1 (isRounded_toFloat positive (by omega))
      exact measures.isRounded_div (by exact_mod_cast positive) (measures_power (by omega))
        (by positivity)
  · exact isRounded_exactFraction positive some looked

end Binary

end TileAtlas
