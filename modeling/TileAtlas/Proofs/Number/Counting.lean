import TileAtlas.Proofs.Number.Scientific
import TileAtlas.Raster.Sampling

/-!
Contract: counts that are made floats and back.

Owns:
- `truncateToCount_le_of_word_le`: larger words count no less;
- `isRounded_ofNat`: a count becomes the float that is nearest to it;
- `truncateToCount_position_le` and `nearestSource_le`: the positions along a row
  are counted in order, whatever the row is scaled by.

Does not own: which pixel is the nearest one.
-/

namespace TileAtlas

namespace Binary

open Float.Model Float.Model.UnpackedFloat

/-! ## Integer parts -/

theorem integerPart_eq_floor (significand : Nat) (exponent : Int) :
    Value.integerPart significand exponent = ⌊dyadic significand exponent⌋₊ := by
  unfold Value.integerPart dyadic
  split
  · next whole =>
      obtain ⟨places, rfl⟩ := Int.eq_ofNat_of_zero_le whole
      rw [Int.toNat_natCast, Nat.shiftLeft_eq, zpow_natCast]
      norm_cast
  · next fraction =>
      obtain ⟨places, isPlaces⟩ : ∃ places : Nat, (-exponent).toNat = places := ⟨_, rfl⟩
      have exponent_eq : exponent = -(places : Int) := by omega
      rw [isPlaces, exponent_eq, zpow_neg, zpow_natCast, ← div_eq_mul_inv,
        Nat.shiftRight_eq_div_pow]
      have floored := Nat.floor_div_eq_div (K := Rat) significand (2 ^ places)
      push_cast at floored
      exact floored.symm

/-- Below zero are the infinity and the finite numbers with a sign. -/
theorem lt_zero_iff {number : Float} : number < 0.0 ↔
    number.toModel.unpack = .infinity .negative ∨ ∃ significand exponent positive,
      number.toModel.unpack = .finite .negative significand exponent positive := by
  rw [lt_iff_unpack, unpack_zero]
  cases number.toModel.unpack with
  | notANumber => simp [UnpackedFloat.lt, UnpackedFloat.compare]
  | zero sign => simp [UnpackedFloat.lt, UnpackedFloat.compare]
  | infinity sign => cases sign <;> simp [UnpackedFloat.lt, UnpackedFloat.compare]
  | finite sign significand exponent positive =>
      cases sign <;> simp [UnpackedFloat.lt, UnpackedFloat.compare, positive]

theorem truncateToCount_eq {number : Float} (notBelow : ¬number < 0.0) :
    Scalar.truncateToCount number =
      ((valueOf number.toModel.unpack).floor.saturate 0 word64Max 0).toNat := by
  rw [← ofFloat_eq_valueOf]
  change ((if number < 0.0 then _ else (ofFloat number).floor).saturate 0 word64Max 0).toNat = _
  rw [if_neg notBelow]

theorem Measures.truncateToCount_eq {number : Float} {exact : Rat}
    (measures : Measures number exact) :
    Scalar.truncateToCount number = min ⌊exact⌋₊ word64Max := by
  have notBelow : ¬number < 0.0 := by
    rw [lt_zero_iff]
    cases measures <;> next taken => simp [taken]
  rw [Binary.truncateToCount_eq notBelow]
  cases measures with
  | zero taken =>
      rw [taken, Nat.floor_zero, Nat.zero_min]
      rfl
  | @finite significand exponent positive taken =>
      rw [taken, ← integerPart_eq_floor]
      change (max 0 (min ((Value.integerPart significand exponent : Nat) : Int)
        word64Max)).toNat = _
      omega

theorem IsInfinite.truncateToCount_eq {number : Float} (infinite : IsInfinite number) :
    Scalar.truncateToCount number = word64Max := by
  have notBelow : ¬number < 0.0 := by
    rw [lt_zero_iff, infinite]
    simp
  rw [Binary.truncateToCount_eq notBelow, infinite]
  rfl

/-- Larger words count no less. -/
theorem truncateToCount_le_of_word_le {number other : Float} (ordered : word number ≤ word other)
    (small : word other ≤ infinityWord) :
    Scalar.truncateToCount number ≤ Scalar.truncateToCount other := by
  rcases measures_or_isInfinite (ordered.trans small) with ⟨exact, measures⟩ | infinite
  · rw [measures.truncateToCount_eq]
    rcases measures_or_isInfinite small with ⟨otherExact, otherMeasures⟩ | otherInfinite
    · rw [otherMeasures.truncateToCount_eq]
      exact min_le_min_right _ (Nat.floor_mono (measures.le otherMeasures ordered))
    · rw [otherInfinite.truncateToCount_eq]
      exact min_le_right _ _
  · rw [infinite.truncateToCount_eq, (infinite.of_le ordered small).truncateToCount_eq]

/-- What is packed without a sign has no sign bit. -/
theorem toNat_pack_lt {unpacked : UnpackedFloat} (unsigned : HasSign (valueOf unpacked) false) :
    (UnpackedFloat.pack .binary64 unpacked).toNat < 2 ^ 63 := by
  have components (exponent : BitVec 11) (mantissa : BitVec 52) :
      (packComponents .binary64 .positive exponent mantissa).toNat < 2 ^ 63 := by
    have exponentLt := exponent.isLt
    have mantissaLt := mantissa.isLt
    rw [toNat_packComponents]
    change 0 + _ + _ < _
    omega
  cases unpacked with
  | notANumber => rcases unsigned with missing | ⟨_, _, missing⟩ <;> cases missing
  | infinity sign =>
      cases sign with
      | positive => exact components _ _
      | negative => rcases unsigned with signed | ⟨_, _, signed⟩ <;> cases signed
  | zero sign =>
      cases sign with
      | positive => exact components _ _
      | negative => rcases unsigned with signed | ⟨_, _, signed⟩ <;> cases signed
  | finite sign significand exponent positive =>
      cases sign with
      | positive =>
          unfold UnpackedFloat.pack
          dsimp only
          split
          · exact components _ _
          · split <;> exact components _ _
      | negative => rcases unsigned with signed | ⟨_, _, signed⟩ <;> cases signed

/-- The opposite of what has no sign counts nothing. -/
theorem saturate_neg_floor {value : Nat} (unsigned : value < 2 ^ 63) :
    (decode double value).floor.neg.saturate 0 word64Max 0 = 0 := by
  have clear : decide (2 ^ 63 ≤ value) = false := decide_eq_false (by omega)
  rw [decode_double, clear]
  split
  · split <;> rfl
  · split
    · change max 0 (min (-((Value.integerPart _ _ : Nat) : Int)) word64Max) = 0
      omega
    · change max 0 (min (-((Value.integerPart _ _ : Nat) : Int)) word64Max) = 0
      omega

theorem truncateToCount_of_lt_zero {number : Float} (below : number < 0.0) :
    Scalar.truncateToCount number = 0 := by
  have unsigned : word (-number) < 2 ^ 63 := by
    change (UnpackedFloat.pack .binary64 number.toModel.unpack.neg).toNat < 2 ^ 63
    refine toNat_pack_lt ?_
    rcases lt_zero_iff.mp below with taken | ⟨_, _, _, taken⟩
    · rw [taken]
      exact .inl rfl
    · rw [taken]
      exact .inr ⟨_, _, rfl⟩
  change ((if number < 0.0 then (ofFloat (-number)).floor.neg else _).saturate 0 word64Max
    0).toNat = 0
  rw [if_pos below]
  exact congrArg Int.toNat (saturate_neg_floor unsigned)

theorem truncateToCount_of_missing {number : Float}
    (missing : number.toModel.unpack = .notANumber) : Scalar.truncateToCount number = 0 := by
  have notBelow : ¬number < 0.0 := by
    rw [lt_zero_iff, missing]
    simp
  rw [truncateToCount_eq notBelow, missing]
  rfl

/-- Numbers with a sign count nothing. -/
theorem truncateToCount_of_signed {number : Float} (signed : 2 ^ 63 ≤ word number) :
    Scalar.truncateToCount number = 0 := by
  have isSigned {negative : Bool} (read : HasSign (valueOf number.toModel.unpack) negative) :
      negative = true := by
    rw [← decode_word] at read
    rw [read.eq_of_decode, decide_eq_true signed]
  by_cases below : number < 0.0
  · exact truncateToCount_of_lt_zero below
  · cases taken : number.toModel.unpack with
    | notANumber => exact truncateToCount_of_missing taken
    | zero sign =>
        rw [truncateToCount_eq below, taken]
        cases sign <;> decide
    | infinity sign =>
        have negative := isSigned (.inl (congrArg valueOf taken))
        cases sign with
        | positive => cases negative
        | negative => exact absurd (lt_zero_iff.mpr (.inl taken)) below
    | finite sign significand exponent positive =>
        have negative := isSigned (.inr ⟨_, _, congrArg valueOf taken⟩)
        cases sign with
        | positive => cases negative
        | negative => exact absurd (lt_zero_iff.mpr (.inr ⟨_, _, _, taken⟩)) below

theorem unpack_of_pack_missing {number : Float}
    (packed : word number = (UnpackedFloat.pack .binary64 .notANumber).toNat) :
    number.toModel.unpack = .notANumber := by
  have read := (decode_word number).symm
  rw [packed] at read
  cases taken : number.toModel.unpack with
  | notANumber => rfl
  | infinity sign => rw [taken] at read; cases read
  | zero sign => rw [taken] at read; cases read
  | finite sign significand exponent positive => rw [taken] at read; cases read

/-- A product with nothing, or with no number, counts nothing. -/
theorem truncateToCount_mul_of_void {number factor : Float} (small : word number ≤ infinityWord)
    (void : factor.toModel.unpack = .notANumber ∨ ∃ sign, factor.toModel.unpack = .zero sign) :
    Scalar.truncateToCount (number * factor) = 0 := by
  rcases void with missing | ⟨sign, isZero⟩
  · refine truncateToCount_of_missing (unpack_of_pack_missing ?_)
    rw [word_mul, missing]
    cases number.toModel.unpack <;> rfl
  · rcases measures_or_isInfinite small with ⟨exact, measures⟩ | infinite
    · have product := measures.word_mul_zero isZero
      cases sign with
      | negative => exact truncateToCount_of_signed product.ge
      | positive =>
          have same : word (number * factor) = word 0.0 := by
            rw [product]
            decide
          have taken := (unpack_eq_of_word_eq same).trans unpack_zero
          rw [(Measures.zero taken).truncateToCount_eq, Nat.floor_zero, Nat.zero_min]
    · refine truncateToCount_of_missing (unpack_of_pack_missing ?_)
      rw [word_mul, isZero, infinite]
      rfl

theorem truncateToCount_mul_le {number other : Float} (factor : Float)
    (isPositive : IsPositive number) (ordered : word number ≤ word other)
    (small : word other ≤ infinityWord) :
    Scalar.truncateToCount (number * factor) ≤ Scalar.truncateToCount (other * factor) := by
  have otherPositive : IsPositive other := ⟨isPositive.notZero.trans_le ordered, small⟩
  cases taken : factor.toModel.unpack with
  | notANumber =>
      rw [truncateToCount_mul_of_void isPositive.notMissing (.inl taken)]
      exact Nat.zero_le _
  | zero sign =>
      rw [truncateToCount_mul_of_void isPositive.notMissing (.inr ⟨sign, taken⟩)]
      exact Nat.zero_le _
  | infinity sign =>
      have product := word_mul_infinity isPositive taken
      have otherProduct := word_mul_infinity otherPositive taken
      cases sign with
      | negative =>
          rw [truncateToCount_of_signed (by rw [product]; exact Nat.le_add_right _ _)]
          exact Nat.zero_le _
      | positive =>
          refine truncateToCount_le_of_word_le (product.trans otherProduct.symm).le ?_
          rw [otherProduct]
          exact (Nat.zero_add _).le
  | finite sign significand exponent positive =>
      cases sign with
      | negative =>
          have signed : 2 ^ 63 ≤ word (number * factor) := by
            rcases measures_or_isInfinite isPositive.notMissing with ⟨exact, measures⟩ | infinite
            · obtain ⟨value, -, product⟩ :=
                isRounded_mul_finite measures (measures.pos isPositive) taken
              rw [product]
              exact Nat.le_add_right _ _
            · rw [infinite.word_mul taken]
              exact Nat.le_add_right _ _
          rw [truncateToCount_of_signed signed]
          exact Nat.zero_le _
      | positive =>
          obtain ⟨products, productSmall⟩ := word_mul_le isPositive ordered small taken
          exact truncateToCount_le_of_word_le products productSmall

/-! ## Counts as floats -/

/-- A count becomes the float that is nearest to it. -/
theorem isRounded_ofNat (count : Nat) : IsRounded (word (Float.ofNat count)) (count : Rat) := by
  rcases Nat.eq_zero_or_pos count with rfl | positive
  · exact (Measures.zero rfl).isRounded
  · have rounded := isRounded_product positive (Nat.zero_le (2 ^ 11))
    rw [pow_zero, mul_one] at rounded
    exact rounded

/-- Positions along a row that is scaled by whatever factor are counted in order. -/
theorem truncateToCount_position_le (factor : Float) {first second : Nat}
    (ordered : first ≤ second) :
    Scalar.truncateToCount ((Scalar.ofNat first + 0.5) * factor) ≤
      Scalar.truncateToCount ((Scalar.ofNat second + 0.5) * factor) := by
  have rounded := isRounded_ofNat first
  have otherRounded := isRounded_ofNat second
  have counts : word (Float.ofNat first) ≤ word (Float.ofNat second) :=
    rounded.le otherRounded (by exact_mod_cast ordered)
  exact truncateToCount_mul_le factor (isPositive_add_half rounded.le_infinityWord)
    (word_add_half_le counts otherRounded.le_infinityWord)
    (isPositive_add_half otherRounded.le_infinityWord).notMissing

end Binary

/-- A later output pixel looks no further back than an earlier one. -/
theorem nearestSource_le (outLength offset length : Nat) {first second : Nat}
    (ordered : first ≤ second) :
    nearestSource Float first outLength offset length ≤
      nearestSource Float second outLength offset length := by
  have positions := Binary.truncateToCount_position_le
    (Scalar.ofNat length / Scalar.ofNat outLength) ordered
  exact Nat.add_le_add_left (min_le_min_right (length - 1) positions) offset

end TileAtlas
