import TileAtlas.Proofs.Number.Rounding

/-!
Contract: operations on floats without a sign keep their order.

Owns:
- `Measures`, the exact number of a float that is finite and not negative, and
  `measures_or_isInfinite`, what other floats without a sign there are;
- sums and products of such floats, as the words of exact sums and products;
- `word_add_half_le` and `word_mul_le`: words are in the order of the operands.

Does not own: that a result is the exact one.
-/

namespace TileAtlas

namespace Binary

open Float.Model Float.Model.UnpackedFloat

/-- The word of a float. -/
def word (number : Float) : Nat := number.toBits.toNat

/-- The exact number of a float that is finite and not negative. -/
inductive Measures (number : Float) : Rat → Prop
  | zero (taken : number.toModel.unpack = .zero .positive) : Measures number 0
  | finite {significand : Nat} {exponent : Int} {positive : 0 < significand}
      (taken : number.toModel.unpack = .finite .positive significand exponent positive) :
      Measures number (dyadic significand exponent)

def IsInfinite (number : Float) : Prop := number.toModel.unpack = .infinity .positive

theorem decode_word (number : Float) :
    decode double (word number) = valueOf number.toModel.unpack := ofFloat_eq_valueOf number

/-- A value that is infinite or finite with the given sign. -/
def HasSign (value : Value) (negative : Bool) : Prop :=
  value = .infinite negative ∨ ∃ significand exponent, value = .finite negative significand exponent

/-- The sign of a float is the leading bit of its word. -/
theorem HasSign.eq_of_decode {value : Nat} {negative : Bool}
    (read : HasSign (decode double value) negative) : negative = decide (2 ^ 63 ≤ value) := by
  rw [decode_double] at read
  rcases read with read | ⟨_, _, read⟩ <;> split at read
  · split at read <;> cases read
    rfl
  · split at read <;> cases read
  · split at read <;> cases read
  · split at read <;> cases read <;> rfl

theorem decode_ne_nan {value : Nat} (small : value ≤ infinityWord) :
    decode double value ≠ .nan := by
  change value ≤ 2047 * 2 ^ 52 at small
  rw [decode_double]
  split
  · rw [if_pos (by omega)]
    exact nofun
  · split <;> exact nofun

theorem positive_of_word_le {number : Float} (small : word number ≤ infinityWord) {sign : Sign}
    (read : HasSign (valueOf number.toModel.unpack) (isNegative sign)) : sign = .positive := by
  rw [← decode_word] at read
  have clear := read.eq_of_decode
  change word number ≤ 2047 * 2 ^ 52 at small
  rw [decide_eq_false (by omega)] at clear
  cases sign with
  | positive => rfl
  | negative => cases clear

/-- Without a sign, and not above infinity, a word is that of a number. -/
theorem measures_or_isInfinite {number : Float} (small : word number ≤ infinityWord) :
    (∃ exact, Measures number exact) ∨ IsInfinite number := by
  cases taken : number.toModel.unpack with
  | notANumber =>
      refine absurd ?_ (decode_ne_nan small)
      rw [decode_word, taken]
      rfl
  | infinity sign =>
      obtain rfl := positive_of_word_le small (.inl (congrArg valueOf taken))
      exact .inr taken
  | zero sign =>
      obtain rfl := positive_of_word_le small (.inr ⟨_, _, congrArg valueOf taken⟩)
      exact .inl ⟨_, .zero taken⟩
  | finite sign significand exponent positive =>
      obtain rfl := positive_of_word_le small (.inr ⟨_, _, congrArg valueOf taken⟩)
      exact .inl ⟨_, .finite taken⟩

/-- A float is what its exact number is rounded to. -/
theorem Measures.isRounded {number : Float} {exact : Rat} (measures : Measures number exact) :
    IsRounded (word number) exact := by
  cases measures with
  | zero taken =>
      have zero : dyadic 0 double.leastExponent = 0 := by simp [dyadic]
      rw [← zero]
      exact isRounded_of_decode ((decode_word number).trans (congrArg valueOf taken))
  | finite taken =>
      exact isRounded_of_decode ((decode_word number).trans (congrArg valueOf taken))

theorem Measures.nonneg {number : Float} {exact : Rat} (measures : Measures number exact) :
    0 ≤ exact := by
  cases measures with
  | zero taken => exact le_rfl
  | finite taken => exact mul_nonneg (Nat.cast_nonneg _) (two_zpow_pos _).le

theorem unpack_eq_of_word_eq {number other : Float} (same : word number = word other) :
    number.toModel.unpack = other.toModel.unpack := by
  have sameBits : number.toBits.toBitVec = other.toBits.toBitVec := BitVec.eq_of_toNat_eq same
  exact congrArg (UnpackedFloat.unpack .binary64) sameBits

theorem Measures.eq {number other : Float} {exact otherExact : Rat}
    (measures : Measures number exact) (otherMeasures : Measures other otherExact)
    (same : number.toModel.unpack = other.toModel.unpack) : exact = otherExact := by
  cases measures with
  | zero taken =>
      cases otherMeasures with
      | zero otherTaken => rfl
      | finite otherTaken => exact nomatch taken.symm.trans (same.trans otherTaken)
  | finite taken =>
      cases otherMeasures with
      | zero otherTaken => exact nomatch taken.symm.trans (same.trans otherTaken)
      | finite otherTaken =>
          cases taken.symm.trans (same.trans otherTaken)
          rfl

/-- Larger words stand for larger numbers. -/
theorem Measures.le {number other : Float} {exact otherExact : Rat}
    (measures : Measures number exact) (otherMeasures : Measures other otherExact)
    (ordered : word number ≤ word other) : exact ≤ otherExact := by
  by_contra greater
  have reverse := otherMeasures.isRounded.le measures.isRounded (not_le.mp greater).le
  have same := unpack_eq_of_word_eq (le_antisymm ordered reverse)
  exact greater (measures.eq otherMeasures same).le

theorem IsInfinite.word_eq {number : Float} (infinite : IsInfinite number) :
    word number = infinityWord := by
  have read := (decode_word number).trans (congrArg valueOf infinite)
  have unsigned : false = decide (2 ^ 63 ≤ word number) := HasSign.eq_of_decode (.inl read)
  have small : ¬2 ^ 63 ≤ word number := of_decide_eq_false unsigned.symm
  change word number = 2047 * 2 ^ 52
  rw [decode_double] at read
  split at read
  · split at read
    · omega
    · cases read
  · split at read <;> cases read

/-- Nothing without a sign lies behind infinity. -/
theorem IsInfinite.of_le {number other : Float} (infinite : IsInfinite number)
    (ordered : word number ≤ word other) (small : word other ≤ infinityWord) :
    IsInfinite other := by
  have same : word number = word other := le_antisymm ordered (infinite.word_eq ▸ small)
  exact (unpack_eq_of_word_eq same).symm.trans infinite

theorem Measures.not_isInfinite {number : Float} {exact : Rat} (measures : Measures number exact) :
    ¬IsInfinite number := by
  intro infinite
  cases measures <;> next taken => exact nomatch taken.symm.trans infinite

theorem measures_of_decode {number : Float} {significand : Nat} {exponent : Int}
    (read : decode double (word number) = .finite false significand exponent) :
    Measures number (dyadic significand exponent) := by
  rw [decode_word] at read
  cases taken : number.toModel.unpack with
  | notANumber => rw [taken] at read; cases read
  | infinity sign => rw [taken] at read; cases read
  | zero sign =>
      rw [taken] at read
      cases sign with
      | negative => cases read
      | positive =>
          cases read
          have zero : dyadic 0 double.leastExponent = 0 := by simp [dyadic]
          rw [zero]
          exact .zero taken
  | finite sign digits place positive =>
      rw [taken] at read
      cases sign with
      | negative => cases read
      | positive =>
          cases read
          exact .finite taken

/-! ## Sums and products -/

theorem unpack_half :
    (0.5 : Float).toModel.unpack = .finite .positive (2 ^ 52) (-53) (by decide) := rfl

theorem word_add (number other : Float) : word (number + other) =
    (UnpackedFloat.pack .binary64
      (UnpackedFloat.add .binary64 number.toModel.unpack other.toModel.unpack)).toNat := rfl

theorem word_mul (number other : Float) : word (number * other) =
    (UnpackedFloat.pack .binary64
      (UnpackedFloat.mul .binary64 number.toModel.unpack other.toModel.unpack)).toNat := rfl

theorem isRounded_normalize {mantissa : Nat} (positive : 0 < mantissa) (exponent : Int)
    (zeroSign : Sign) :
    IsRounded (UnpackedFloat.pack .binary64
      (UnpackedFloat.normalize .binary64 mantissa exponent zeroSign)).toNat
        (dyadic mantissa exponent) := by
  have rounds : UnpackedFloat.normalize .binary64 mantissa exponent zeroSign =
      UnpackedFloat.round .binary64 .positive mantissa exponent := by
    have greater : compare (mantissa : Int) 0 = .gt := Int.compare_eq_gt.mpr (by omega)
    unfold UnpackedFloat.normalize
    rw [greater, Int.toNat_natCast]
  obtain ⟨word, isRounded, packed⟩ := isRounded_round .positive positive exponent
  rw [rounds, packed]
  simpa [signWord, isNegative] using isRounded

theorem isRounded_add_finite {significand other : Nat} {exponent otherExponent : Int}
    (positive : 0 < significand) (otherPositive : 0 < other) :
    IsRounded (UnpackedFloat.pack .binary64 (UnpackedFloat.add .binary64
        (.finite .positive significand exponent positive)
        (.finite .positive other otherExponent otherPositive))).toNat
      (dyadic significand exponent + dyadic other otherExponent) := by
  obtain ⟨least, isLeast⟩ : ∃ least, min exponent otherExponent = least := ⟨_, rfl⟩
  obtain ⟨places, isPlaces⟩ : ∃ places : Nat, (exponent - least).toNat = places := ⟨_, rfl⟩
  obtain ⟨otherPlaces, isOtherPlaces⟩ : ∃ places : Nat, (otherExponent - least).toNat = places :=
    ⟨_, rfl⟩
  have sum : UnpackedFloat.add .binary64 (.finite .positive significand exponent positive)
      (.finite .positive other otherExponent otherPositive) =
        UnpackedFloat.normalize .binary64
          ((significand <<< places : Nat) + (other <<< otherPlaces : Nat)) least .positive := by
    unfold UnpackedFloat.add decreaseExponent
    simp only [isLeast, isPlaces, isOtherPlaces]
    rfl
  have shift {places : Nat} {start : Int} (above : least ≤ start)
      (isPlaces : (start - least).toNat = places) (digits : Nat) :
      dyadic (digits <<< places) least = dyadic digits start := by
    have least_eq : least = start - places := by omega
    rw [least_eq, dyadic_shiftLeft]
  have exact : dyadic significand exponent + dyadic other otherExponent =
      dyadic (significand <<< places + other <<< otherPlaces) least := by
    rw [← shift (by omega) isPlaces, ← shift (by omega) isOtherPlaces, dyadic, dyadic, dyadic,
      ← add_mul, Nat.cast_add]
  rw [sum, exact]
  exact isRounded_normalize (by rw [Nat.shiftLeft_eq]; positivity) _ _

theorem dyadic_half : dyadic (2 ^ 52) (-53) = 1 / 2 := by
  rw [dyadic]
  norm_num

theorem isRounded_add_half {number : Float} {exact : Rat} (measures : Measures number exact) :
    IsRounded (word (number + 0.5)) (exact + 1 / 2) := by
  rw [word_add, unpack_half]
  cases measures with
  | zero taken =>
      rw [taken, zero_add, ← dyadic_half]
      exact (Measures.finite unpack_half).isRounded
  | finite taken =>
      rw [taken, ← dyadic_half]
      exact isRounded_add_finite _ _

theorem significand_ge_of_unpack {number : Float} {sign : Sign} {significand : Nat} {exponent : Int}
    {positive : 0 < significand}
    (taken : number.toModel.unpack = .finite sign significand exponent positive)
    (above : -1074 < exponent) : 2 ^ 52 ≤ significand :=
  significand_ge ((decode_word number).trans (congrArg valueOf taken)) above

theorem signs_mul (sign : Sign) : Sign.positive * sign = sign := by cases sign <;> rfl

theorem isRounded_mul_finite {number factor : Float} {exact : Rat}
    (measures : Measures number exact) (positive : 0 < exact) {significand : Nat} {exponent : Int}
    {isPositive : 0 < significand} {sign : Sign}
    (taken : factor.toModel.unpack = .finite sign significand exponent isPositive) :
    ∃ value, IsRounded value (exact * dyadic significand exponent) ∧
      word (number * factor) = signWord sign + value := by
  cases measures with
  | zero _ => exact absurd positive (lt_irrefl _)
  | @finite digits place digitsPositive numberTaken =>
      have productPositive : 0 < digits * significand := Nat.mul_pos digitsPositive isPositive
      -- one leading bit is enough, and two least exponents make a lesser one
      have enough : 52 ≤ (digits * significand).log2 ∨ place + exponent ≤ -1074 := by
        by_cases above : -1074 < place ∨ -1074 < exponent
        · refine .inl ((Nat.le_log2 productPositive.ne').mpr ?_)
          rcases above with above | above
          · exact (significand_ge_of_unpack numberTaken above).trans
              (Nat.le_mul_of_pos_right digits isPositive)
          · exact (significand_ge_of_unpack taken above).trans
              (Nat.le_mul_of_pos_left significand digitsPositive)
        · exact .inr (by omega)
      obtain ⟨value, isRounded, packed⟩ := isRounded_roundWithAccuracy sign enough
      have product : dyadic digits place * dyadic significand exponent =
          dyadic (digits * significand) (place + exponent) := by
        rw [dyadic, dyadic, dyadic, zpow_add₀ (by norm_num), Nat.cast_mul]
        ring
      refine ⟨value, product ▸ isRounded, ?_⟩
      rw [word_mul, numberTaken, taken, ← packed]
      change (UnpackedFloat.pack .binary64 (roundWithAccuracy .binary64 (Sign.positive * sign)
        (digits * significand) (place + exponent) .exact)).toNat = _
      rw [signs_mul]

/-! ## Positive numbers -/

/-- A float without a sign that is not zero. -/
structure IsPositive (number : Float) : Prop where
  notZero : 0 < word number
  notMissing : word number ≤ infinityWord

theorem Measures.pos {number : Float} {exact : Rat} (measures : Measures number exact)
    (isPositive : IsPositive number) : 0 < exact := by
  cases measures with
  | zero taken =>
      have isZero : word number = word 0.0 := (Measures.zero taken).isRounded.eq
        (Measures.zero unpack_zero).isRounded
      exact absurd isPositive.notZero (by rw [isZero]; decide)
  | @finite significand exponent positive taken =>
      exact mul_pos (Nat.cast_pos.mpr positive) (two_zpow_pos exponent)

/-- An infinite factor makes an infinite product. -/
theorem word_mul_infinity {number factor : Float} (isPositive : IsPositive number) {sign : Sign}
    (taken : factor.toModel.unpack = .infinity sign) :
    word (number * factor) = signWord sign + infinityWord := by
  have product : UnpackedFloat.mul .binary64 number.toModel.unpack (.infinity sign) =
      .infinity sign := by
    rcases measures_or_isInfinite isPositive.notMissing with ⟨exact, measures⟩ | infinite
    · have positive := measures.pos isPositive
      cases measures with
      | zero numberTaken => exact absurd positive (lt_irrefl _)
      | finite numberTaken =>
          rw [numberTaken]
          exact congrArg UnpackedFloat.infinity (signs_mul sign)
    · rw [infinite]
      exact congrArg UnpackedFloat.infinity (signs_mul sign)
  rw [word_mul, taken, product, toNat_pack_infinity]

theorem IsInfinite.word_mul {number factor : Float} (infinite : IsInfinite number) {sign : Sign}
    {significand : Nat} {exponent : Int} {positive : 0 < significand}
    (taken : factor.toModel.unpack = .finite sign significand exponent positive) :
    word (number * factor) = signWord sign + infinityWord := by
  have product : UnpackedFloat.mul .binary64 (.infinity .positive)
      (.finite sign significand exponent positive) = .infinity sign :=
    congrArg UnpackedFloat.infinity (signs_mul sign)
  rw [Binary.word_mul, taken, infinite, product, toNat_pack_infinity]

theorem Measures.word_mul_zero {number factor : Float} {exact : Rat}
    (measures : Measures number exact) {sign : Sign}
    (taken : factor.toModel.unpack = .zero sign) : word (number * factor) = signWord sign := by
  have product : UnpackedFloat.mul .binary64 number.toModel.unpack (.zero sign) = .zero sign := by
    cases measures with
    | zero numberTaken =>
        rw [numberTaken]
        exact congrArg UnpackedFloat.zero (signs_mul sign)
    | finite numberTaken =>
        rw [numberTaken]
        exact congrArg UnpackedFloat.zero (signs_mul sign)
  rw [word_mul, taken, product, toNat_pack_zero]

/-- Products with a positive factor keep their order. -/
theorem word_mul_le {number other factor : Float} (isPositive : IsPositive number)
    (ordered : word number ≤ word other) (small : word other ≤ infinityWord) {significand : Nat}
    {exponent : Int} {positive : 0 < significand}
    (taken : factor.toModel.unpack = .finite .positive significand exponent positive) :
    word (number * factor) ≤ word (other * factor) ∧ word (other * factor) ≤ infinityWord := by
  have otherPositive : IsPositive other := ⟨isPositive.notZero.trans_le ordered, small⟩
  have unsigned (value : Nat) : signWord .positive + value = value := Nat.zero_add value
  rcases measures_or_isInfinite small with ⟨otherExact, otherMeasures⟩ | otherInfinite
  · obtain ⟨otherValue, otherRounded, otherProduct⟩ :=
      isRounded_mul_finite otherMeasures (otherMeasures.pos otherPositive) taken
    rw [otherProduct, unsigned]
    refine ⟨?_, otherRounded.le_infinityWord⟩
    rcases measures_or_isInfinite isPositive.notMissing with ⟨exact, measures⟩ | infinite
    · obtain ⟨value, rounded, product⟩ :=
        isRounded_mul_finite measures (measures.pos isPositive) taken
      rw [product, unsigned]
      refine rounded.le otherRounded ?_
      have factorPositive : 0 ≤ dyadic significand exponent :=
        mul_nonneg (Nat.cast_nonneg _) (two_zpow_pos _).le
      exact mul_le_mul_of_nonneg_right (measures.le otherMeasures ordered) factorPositive
    · exact absurd (infinite.of_le ordered small) otherMeasures.not_isInfinite
  · rw [otherInfinite.word_mul taken, unsigned]
    refine ⟨?_, le_rfl⟩
    rcases measures_or_isInfinite isPositive.notMissing with ⟨exact, measures⟩ | infinite
    · obtain ⟨value, rounded, product⟩ :=
        isRounded_mul_finite measures (measures.pos isPositive) taken
      rw [product, unsigned]
      exact rounded.le_infinityWord
    · rw [infinite.word_mul taken, unsigned]

theorem IsInfinite.word_add_half {number : Float} (infinite : IsInfinite number) :
    word (number + 0.5) = infinityWord := by
  rw [word_add, infinite, unpack_half]
  exact (toNat_pack_infinity .positive).trans (Nat.zero_add _)

theorem isPositive_add_half {number : Float} (small : word number ≤ infinityWord) :
    IsPositive (number + 0.5) := by
  rcases measures_or_isInfinite small with ⟨exact, measures⟩ | infinite
  · have rounded := isRounded_add_half measures
    have aboveHalf : word 0.5 ≤ word (number + 0.5) := by
      refine (Measures.finite unpack_half).isRounded.le rounded ?_
      rw [dyadic_half]
      linarith [measures.nonneg]
    have half : 0 < word 0.5 := by decide
    exact ⟨half.trans_le aboveHalf, rounded.le_infinityWord⟩
  · exact ⟨by rw [infinite.word_add_half]; decide, infinite.word_add_half.le⟩

/-- The middles of pixels are in the order of the pixels. -/
theorem word_add_half_le {number other : Float} (ordered : word number ≤ word other)
    (small : word other ≤ infinityWord) : word (number + 0.5) ≤ word (other + 0.5) := by
  rcases measures_or_isInfinite small with ⟨otherExact, otherMeasures⟩ | otherInfinite
  · rcases measures_or_isInfinite (ordered.trans small) with ⟨exact, measures⟩ | infinite
    · refine (isRounded_add_half measures).le (isRounded_add_half otherMeasures) ?_
      linarith [measures.le otherMeasures ordered]
    · exact absurd (infinite.of_le ordered small) otherMeasures.not_isInfinite
  · rw [otherInfinite.word_add_half]
    exact (isPositive_add_half (ordered.trans small)).notMissing

end Binary

end TileAtlas
