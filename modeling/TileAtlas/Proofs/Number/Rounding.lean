import TileAtlas.Proofs.Number.Double

/-!
Contract: what is rounded to the nearest 64-bit float keeps its order.

Owns:
- `IsNearest`, the nearest integer of an exact number with its ties;
- `IsRounded`, the word of an exact number, and `IsRounded.le`, its monotony;
- `Stands` and `isRounded_of_stands`: the mantissas of the float model, with what is
  known of the bits behind them, round to the nearest word.

Does not own: the operations.  Each of them rounds an exact result.
-/

namespace TileAtlas

namespace Binary

open Float.Model Float.Model.UnpackedFloat

/-- The exact number of a significand and an exponent. -/
def dyadic (significand : Nat) (exponent : Int) : Rat := significand * 2 ^ exponent

theorem two_zpow_pos (exponent : Int) : (0 : Rat) < 2 ^ exponent := zpow_pos (by norm_num) exponent

theorem dyadic_shiftLeft (significand places : Nat) (exponent : Int) :
    dyadic (significand <<< places) (exponent - places) = dyadic significand exponent := by
  rw [dyadic, dyadic, zpow_sub₀ (by norm_num), Nat.shiftLeft_eq]
  push_cast
  rw [zpow_natCast]
  field_simp

/-! ## Nearest integers -/

/-- No integer is nearer, and a half goes to the even one. -/
structure IsNearest (rounded : Nat) (exact : Rat) : Prop where
  above : (rounded : Rat) ≤ exact + 1 / 2
  below : exact ≤ rounded + 1 / 2
  tie : (rounded : Rat) = exact + 1 / 2 ∨ exact = rounded + 1 / 2 → Even rounded

theorem IsNearest.self (count : Nat) : IsNearest count (count : Rat) where
  above := by linarith
  below := by linarith
  tie := by rintro (same | same) <;> linarith

/-- Two numbers would have to lie on one half between two even neighbours. -/
theorem IsNearest.le {rounded other : Nat} {exact larger : Rat} (nearest : IsNearest rounded exact)
    (otherNearest : IsNearest other larger) (ordered : exact ≤ larger) : rounded ≤ other := by
  by_contra less
  have apart : (other : Rat) + 1 ≤ rounded := by exact_mod_cast not_le.mp less
  have upper := nearest.above
  have lower := otherNearest.below
  have even := nearest.tie (.inl (by linarith))
  have otherEven := otherNearest.tie (.inr (by linarith))
  have neighbours : rounded = other + 1 := by
    have : (rounded : Rat) = other + 1 := by linarith
    exact_mod_cast this
  rw [neighbours, Nat.even_add_one] at even
  exact even otherEven

/-! ## Words -/

/-- The word of infinity: all finite numbers have smaller words. -/
def infinityWord : Nat := double.infinityWord

/-- The word without a sign that an exact number is rounded to.  `place` is the
exponent of the last bit that is kept. -/
def IsRounded (word : Nat) (exact : Rat) : Prop :=
  ∃ (place : Int) (rounded : Nat), -1074 ≤ place ∧ exact < 2 ^ (place + 53) ∧
    (place = -1074 ∨ (2 : Rat) ^ (place + 52) ≤ exact) ∧
      IsNearest rounded (exact / 2 ^ place) ∧
        word = min ((place + 1074).toNat * 2 ^ 52 + rounded) infinityWord

theorem IsRounded.le_infinityWord {word : Nat} {exact : Rat} (rounds : IsRounded word exact) :
    word ≤ infinityWord := by
  obtain ⟨_, _, -, -, -, -, rfl⟩ := rounds
  exact Nat.min_le_right _ _

theorem div_place_lt {exact : Rat} {place : Int} (small : exact < 2 ^ (place + 53)) :
    exact / 2 ^ place < ((2 ^ 53 : Nat) : Rat) := by
  rw [div_lt_iff₀ (two_zpow_pos place)]
  rw [zpow_add₀ (by norm_num)] at small
  norm_num at small ⊢
  linarith

theorem le_div_place {exact : Rat} {place : Int} (large : (2 : Rat) ^ (place + 52) ≤ exact) :
    ((2 ^ 52 : Nat) : Rat) ≤ exact / 2 ^ place := by
  rw [le_div_iff₀ (two_zpow_pos place)]
  rw [zpow_add₀ (by norm_num)] at large
  norm_num at large ⊢
  linarith

/-- Larger numbers have larger words. -/
theorem IsRounded.le {word other : Nat} {exact larger : Rat} (rounds : IsRounded word exact)
    (otherRounds : IsRounded other larger) (ordered : exact ≤ larger) : word ≤ other := by
  obtain ⟨place, rounded, least, small, large, nearest, rfl⟩ := rounds
  obtain ⟨otherPlace, otherRounded, otherLeast, otherSmall, otherLarge, otherNearest, rfl⟩ :=
    otherRounds
  refine min_le_min_right infinityWord ?_
  rcases lt_trichotomy place otherPlace with below | rfl | above
  · -- the larger number keeps fewer places, and its leading bit makes up for them
    have atMost : rounded ≤ 2 ^ 53 := nearest.le (.self _) (div_place_lt small).le
    have atLeast : 2 ^ 52 ≤ otherRounded :=
      (IsNearest.self _).le otherNearest (le_div_place (otherLarge.resolve_left (by omega)))
    omega
  · have scaled : exact / 2 ^ place ≤ larger / 2 ^ place :=
      div_le_div_of_nonneg_right ordered (two_zpow_pos place).le
    have := nearest.le otherNearest scaled
    omega
  · have leading : (2 : Rat) ^ (place + 52) ≤ exact := large.resolve_left (by omega)
    have powers : (2 : Rat) ^ (otherPlace + 53) ≤ 2 ^ (place + 52) :=
      zpow_le_zpow_right₀ (by norm_num) (by omega)
    linarith

/-- A word is the only one of its number. -/
theorem IsRounded.eq {word other : Nat} {exact : Rat} (rounds : IsRounded word exact)
    (otherRounds : IsRounded other exact) : word = other :=
  le_antisymm (rounds.le otherRounds le_rfl) (otherRounds.le rounds le_rfl)

/-- The word of a finite number is the one that its number is rounded to. -/
theorem isRounded_of_decode {word significand : Nat} {exponent : Int}
    (read : decode double word = .finite false significand exponent) :
    IsRounded word (dyadic significand exponent) := by
  have below : word < 2 ^ 63 ∧ significand < 2 ^ 53 ∧ -1074 ≤ exponent ∧
      (exponent = -1074 ∨ 2 ^ 52 ≤ significand) ∧
        word = (exponent + 1074).toNat * 2 ^ 52 + significand ∧ word < infinityWord := by
    rw [decode_double] at read
    change _ ∧ _ ∧ _ ∧ _ ∧ _ ∧ word < 2047 * 2 ^ 52
    split at read
    · split at read <;> cases read
    · split at read
      · simp only [Value.finite.injEq, decide_eq_false_iff_not] at read
        omega
      · simp only [Value.finite.injEq, decide_eq_false_iff_not] at read
        omega
  obtain ⟨-, small, least, leading, isWord, finite⟩ := below
  have significand_eq : dyadic significand exponent / 2 ^ exponent = significand := by
    rw [dyadic, mul_div_assoc, div_self (two_zpow_pos exponent).ne', mul_one]
  refine ⟨exponent, significand, least, ?_, leading.imp_right fun leading => ?_, ?_, ?_⟩
  · rw [dyadic, zpow_add₀ (by norm_num), mul_comm]
    refine mul_lt_mul_of_pos_left ?_ (two_zpow_pos exponent)
    exact_mod_cast small
  · rw [dyadic, zpow_add₀ (by norm_num), mul_comm]
    refine mul_le_mul_of_nonneg_right ?_ (two_zpow_pos exponent).le
    exact_mod_cast leading
  · rw [significand_eq]
    exact .self significand
  · rw [← isWord, min_eq_left finite.le]

/-! ## Mantissas of the float model -/

/-- An extended mantissa stands for a number: its round bit counts a half, and its
sticky bit says whether there is something left. -/
def Stands (mantissa : ExtendedMantissa) (exact : Rat) : Prop :=
  ∃ rest : Rat, 0 ≤ rest ∧ rest < 1 / 2 ∧ (mantissa.stickyBit = true ↔ rest ≠ 0) ∧
    exact = mantissa.mantissa + (if mantissa.roundBit then 1 / 2 else 0) + rest

theorem stands_ofMantissa (mantissa : Nat) :
    Stands (.ofMantissaAndAccuracy mantissa .exact) mantissa :=
  ⟨0, le_rfl, by norm_num, by simp [ExtendedMantissa.ofMantissaAndAccuracy], by
    simp [ExtendedMantissa.ofMantissaAndAccuracy]⟩

theorem Stands.shiftRightOne {mantissa : ExtendedMantissa} {exact : Rat}
    (stands : Stands mantissa exact) : Stands mantissa.shiftRightOne (exact / 2) := by
  obtain ⟨rest, notNegative, small, sticky, rfl⟩ := stands
  obtain ⟨mantissa, roundBit, stickyBit⟩ := mantissa
  have halves : ((mantissa : Nat) : Rat) = 2 * (mantissa / 2 : Nat) + (mantissa % 2 : Nat) := by
    exact_mod_cast (Nat.div_add_mod mantissa 2).symm
  refine ⟨(if roundBit then 1 / 4 else 0) + rest / 2, ?_, ?_, ?_, ?_⟩
  · split <;> linarith
  · split <;> linarith
  · change (roundBit || stickyBit) = true ↔ _
    rw [Bool.or_eq_true, sticky]
    cases roundBit with
    | false => simp
    | true => exact iff_of_true (.inl rfl) (by norm_num; linarith)
  · change ((mantissa : Rat) + (if roundBit then 1 / 2 else 0) + rest) / 2 =
      ((mantissa / 2 : Nat) : Rat) + (if mantissa % 2 != 0 then 1 / 2 else 0) +
        ((if roundBit then 1 / 4 else 0) + rest / 2)
    rw [halves]
    rcases Nat.mod_two_eq_zero_or_one mantissa with even | odd
    · rw [even]
      cases roundBit <;> norm_num <;> ring
    · rw [odd]
      cases roundBit <;> norm_num <;> ring

theorem Stands.shiftRight {mantissa : ExtendedMantissa} {exact : Rat}
    (stands : Stands mantissa exact) (places : Nat) :
    Stands (mantissa >>> places) (exact / 2 ^ places) := by
  induction places with
  | zero =>
      rw [pow_zero, div_one]
      exact stands
  | succ places inductionHypothesis =>
      rw [pow_succ, ← div_div]
      exact inductionHypothesis.shiftRightOne

theorem Stands.isNearest {mantissa : ExtendedMantissa} {exact : Rat}
    (stands : Stands mantissa exact) : IsNearest mantissa.roundedMantissa exact := by
  obtain ⟨rest, notNegative, small, sticky, rfl⟩ := stands
  obtain ⟨mantissa, roundBit, stickyBit⟩ := mantissa
  cases stickyBit with
  | false =>
      obtain rfl : rest = 0 := by simpa using sticky
      cases roundBit with
      | false =>
          change IsNearest mantissa ((mantissa : Rat) + 0 + 0)
          rw [add_zero, add_zero]
          exact .self mantissa
      | true =>
          -- a half between two integers goes to the even one
          change IsNearest (mantissa + mantissa % 2) ((mantissa : Rat) + 1 / 2 + 0)
          rcases Nat.mod_two_eq_zero_or_one mantissa with even | odd
          · rw [even]
            refine ⟨?_, ?_, fun _ => Nat.even_iff.mpr even⟩ <;> push_cast <;> linarith
          · rw [odd]
            refine ⟨?_, ?_, fun _ => (Nat.odd_iff.mpr odd).add_one⟩ <;> push_cast <;> linarith
  | true =>
      have positive : 0 < rest := lt_of_le_of_ne notNegative (sticky.mp rfl).symm
      cases roundBit with
      | false =>
          change IsNearest mantissa ((mantissa : Rat) + 0 + rest)
          exact ⟨by linarith, by linarith, by rintro (same | same) <;> linarith⟩
      | true =>
          change IsNearest (mantissa + 1) ((mantissa : Rat) + 1 / 2 + rest)
          refine ⟨?_, ?_, ?_⟩ <;> push_cast
          · linarith
          · linarith
          · rintro (same | same) <;> linarith

/-! ## Packed words -/

/-- The weight of the sign bit in a word. -/
def signWord (sign : Sign) : Nat := if isNegative sign then 2 ^ 63 else 0

@[simp] theorem signWord_positive : signWord .positive = 0 := rfl

theorem toNat_packComponents (sign : Sign) (exponent : BitVec 11) (mantissa : BitVec 52) :
    (packComponents .binary64 sign exponent mantissa).toNat =
      signWord sign + exponent.toNat * 2 ^ 52 + mantissa.toNat := by
  change (sign.toBitVec ++ exponent ++ mantissa).toNat = _
  rw [BitVec.toNat_append, BitVec.toNat_append, ← Nat.shiftLeft_add_eq_or_of_lt exponent.isLt,
    ← Nat.shiftLeft_add_eq_or_of_lt mantissa.isLt, Nat.shiftLeft_eq, Nat.shiftLeft_eq]
  cases sign <;> simp [signWord, isNegative, Sign.toBitVec]
  omega

theorem toNat_pack_infinity (sign : Sign) :
    (UnpackedFloat.pack .binary64 (.infinity sign)).toNat = signWord sign + infinityWord :=
  toNat_packComponents sign _ _

theorem toNat_pack_zero (sign : Sign) :
    (UnpackedFloat.pack .binary64 (.zero sign)).toNat = signWord sign :=
  toNat_packComponents sign _ _

/-- A mantissa with its leading bit, or with the least exponent, is written as it is. -/
theorem toNat_pack_finite {sign : Sign} {mantissa : Nat} {exponent : Int} (positive : 0 < mantissa)
    (small : mantissa < 2 ^ 53) (least : -1074 ≤ exponent)
    (leading : exponent = -1074 ∨ 2 ^ 52 ≤ mantissa) :
    (UnpackedFloat.pack .binary64 (.finite sign mantissa exponent positive)).toNat =
      signWord sign + min ((exponent + 1074).toNat * 2 ^ 52 + mantissa) infinityWord := by
  have infinite : infinityWord = 2047 * 2 ^ 52 := rfl
  change (if 2 ^ 11 ≤ (exponent + 1023 + 52).toNat + 1 then packedInfinity .binary64 sign
    else if mantissa.log2 + 1 = 53 then
      packComponents .binary64 sign (BitVec.ofNat 11 (exponent + 1023 + 52).toNat)
        (BitVec.ofNat 52 mantissa)
    else packComponents .binary64 sign 0#11 (BitVec.ofNat 52 mantissa)).toNat = _
  have isLeading : mantissa.log2 + 1 = 53 ↔ 2 ^ 52 ≤ mantissa := by
    have inRange : mantissa.log2 = 52 ↔ 2 ^ 52 ≤ mantissa ∧ mantissa < 2 ^ 53 :=
      Nat.log2_eq_iff positive.ne'
    omega
  split
  · next tooLarge =>
      rw [min_eq_right (by omega)]
      exact toNat_pack_infinity sign
  · next fits =>
      rw [min_eq_left (by omega)]
      split
      · next hasLeading =>
          rw [isLeading] at hasLeading
          rw [toNat_packComponents, BitVec.toNat_ofNat, BitVec.toNat_ofNat]
          omega
      · next noLeading =>
          rw [isLeading] at noLeading
          rw [toNat_packComponents, BitVec.toNat_ofNat, BitVec.toNat_ofNat]
          omega

theorem two_pow_log2_le {mantissa : Nat} (positive : 0 < mantissa) (exponent : Int) :
    (2 : Rat) ^ (mantissa.log2 + exponent) ≤ dyadic mantissa exponent := by
  rw [dyadic, zpow_add₀ (by norm_num), zpow_natCast]
  refine mul_le_mul_of_nonneg_right ?_ (two_zpow_pos exponent).le
  exact_mod_cast Nat.log2_self_le positive.ne'

theorem lt_two_pow_log2 (mantissa : Nat) (exponent : Int) :
    dyadic mantissa exponent < (2 : Rat) ^ (mantissa.log2 + 1 + exponent) := by
  rw [dyadic, zpow_add₀ (by norm_num)]
  refine mul_lt_mul_of_pos_right ?_ (two_zpow_pos exponent)
  exact_mod_cast Nat.lt_log2_self

theorem shiftToTargetExponent_eq (mantissa : Nat) (exponent : Int) (accuracy : Accuracy) :
    shiftToTargetExponent .binary64 mantissa exponent accuracy =
      (ExtendedMantissa.ofMantissaAndAccuracy mantissa accuracy >>>
          (max (mantissa.log2 + exponent - 52) (-1074) - exponent).toNat,
        exponent + (max (mantissa.log2 + exponent - 52) (-1074) - exponent).toNat) := by
  have target : Format.binary64.targetExponent (totalExponent mantissa exponent) =
      max (mantissa.log2 + exponent - 52) (-1074) := by
    change max ((mantissa.log2 : Int) + 1 + exponent - 53) (-1074) = _
    omega
  unfold shiftToTargetExponent
  rw [target]
  rfl

/-- After the first rounding only a carry into one more bit is left to shift away. -/
theorem shiftToTargetExponent_rounded {rounded : Nat} {place : Int} (least : -1074 ≤ place)
    (small : rounded ≤ 2 ^ 53) (leading : place = -1074 ∨ 2 ^ 52 ≤ rounded) :
    ∃ mantissa exponent,
      (shiftToTargetExponent .binary64 rounded place .exact).1.mantissa = mantissa ∧
      (shiftToTargetExponent .binary64 rounded place .exact).2 = exponent ∧
      mantissa < 2 ^ 53 ∧ -1074 ≤ exponent ∧ (exponent = -1074 ∨ 2 ^ 52 ≤ mantissa) ∧
      (exponent + 1074).toNat * 2 ^ 52 + mantissa = (place + 1074).toNat * 2 ^ 52 + rounded := by
  rw [shiftToTargetExponent_eq]
  by_cases carried : rounded = 2 ^ 53
  · subst carried
    have one : (max (((2 ^ 53).log2 : Nat) + place - 52) (-1074) - place).toNat = 1 := by
      rw [Nat.log2_two_pow]
      omega
    rw [one]
    refine ⟨2 ^ 52, place + 1, rfl, rfl, ?_⟩
    omega
  · have bits : rounded.log2 ≤ 52 := by
      by_cases blank : rounded = 0
      · simp [blank]
      · have := (Nat.log2_lt blank).mpr (show rounded < 2 ^ 53 by omega)
        omega
    have none : (max ((rounded.log2 : Int) + place - 52) (-1074) - place).toNat = 0 := by omega
    rw [none]
    refine ⟨rounded, place, rfl, by simp, ?_⟩
    omega

/-- A mantissa is the integer part of what it stands for. -/
theorem Stands.mantissa_le {mantissa : ExtendedMantissa} {exact : Rat}
    (stands : Stands mantissa exact) :
    (mantissa.mantissa : Rat) ≤ exact ∧ exact < mantissa.mantissa + 1 := by
  obtain ⟨rest, notNegative, small, -, rfl⟩ := stands
  split <;> constructor <;> linarith

/-- The mantissas of the float model round to the nearest word, if they have bits
enough. -/
theorem isRounded_of_stands (sign : Sign) {mantissa : Nat} {exponent : Int} {accuracy : Accuracy}
    {exact : Rat}
    (stands : Stands (.ofMantissaAndAccuracy mantissa accuracy) (exact / 2 ^ exponent))
    (enough : 52 ≤ mantissa.log2 ∨ exponent ≤ -1074) :
    ∃ word, IsRounded word exact ∧
      (UnpackedFloat.pack .binary64
        (roundWithAccuracy .binary64 sign mantissa exponent accuracy)).toNat =
          signWord sign + word := by
  have isMantissa : (ExtendedMantissa.ofMantissaAndAccuracy mantissa accuracy).mantissa =
      mantissa := by
    unfold ExtendedMantissa.ofMantissaAndAccuracy
    split <;> rfl
  obtain ⟨lower, upper⟩ := stands.mantissa_le
  rw [isMantissa] at lower upper
  have unscaled : exact / 2 ^ exponent * 2 ^ exponent = exact :=
    div_mul_cancel₀ _ (two_zpow_pos exponent).ne'
  -- the exponent of the last bit that is kept
  obtain ⟨place, isPlace⟩ : ∃ place : Int, max (mantissa.log2 + exponent - 52) (-1074) = place :=
    ⟨_, rfl⟩
  have least : -1074 ≤ place := by omega
  have small : exact < 2 ^ (place + 53) := by
    calc exact < ((mantissa : Rat) + 1) * 2 ^ exponent := by
          rw [← unscaled]
          exact mul_lt_mul_of_pos_right upper (two_zpow_pos exponent)
      _ ≤ 2 ^ (mantissa.log2 + 1) * 2 ^ exponent := by
          refine mul_le_mul_of_nonneg_right ?_ (two_zpow_pos exponent).le
          exact_mod_cast Nat.lt_log2_self
      _ = 2 ^ ((mantissa.log2 : Int) + 1 + exponent) := by
          rw [zpow_add₀ (by norm_num) _ exponent]
          rfl
      _ ≤ 2 ^ (place + 53) := zpow_le_zpow_right₀ (by norm_num) (by omega)
  have large : place = -1074 ∨ (2 : Rat) ^ (place + 52) ≤ exact := by
    by_cases isLeast : place = -1074
    · exact .inl isLeast
    · have positive : 0 < mantissa := by
        rcases Nat.eq_zero_or_pos mantissa with rfl | positive
        · simp only [Nat.log2_zero] at isPlace enough
          omega
        · exact positive
      refine .inr ?_
      calc (2 : Rat) ^ (place + 52) ≤ 2 ^ (mantissa.log2 + exponent) :=
            zpow_le_zpow_right₀ (by norm_num) (by omega)
        _ ≤ mantissa * 2 ^ exponent := two_pow_log2_le positive exponent
        _ ≤ exact := by
            rw [← unscaled]
            exact mul_le_mul_of_nonneg_right lower (two_zpow_pos exponent).le
  obtain ⟨places, isPlaces⟩ : ∃ places : Nat, (place - exponent).toNat = places := ⟨_, rfl⟩
  have shifted : exponent + places = place := by omega
  have nearest : IsNearest
      (ExtendedMantissa.ofMantissaAndAccuracy mantissa accuracy >>> places).roundedMantissa
      (exact / 2 ^ place) := by
    have scaled : exact / 2 ^ place = exact / 2 ^ exponent / 2 ^ places := by
      rw [← shifted, zpow_add₀ (by norm_num), zpow_natCast, div_div]
    rw [scaled]
    exact (stands.shiftRight places).isNearest
  generalize isRounded : (ExtendedMantissa.ofMantissaAndAccuracy mantissa accuracy >>>
    places).roundedMantissa = rounded at nearest
  have atMost : rounded ≤ 2 ^ 53 := nearest.le (.self _) (div_place_lt small).le
  have leading : place = -1074 ∨ 2 ^ 52 ≤ rounded :=
    large.imp_right fun large => (IsNearest.self _).le nearest (le_div_place large)
  obtain ⟨last, lastExponent, isLast, isExponent, lastSmall, lastLeast, lastLeading, same⟩ :=
    shiftToTargetExponent_rounded least atMost leading
  refine ⟨_, ⟨place, rounded, least, small, large, nearest, rfl⟩, ?_⟩
  unfold roundWithAccuracy
  rw [shiftToTargetExponent_eq, isPlace, isPlaces, shifted]
  simp only [isRounded, isLast, isExponent]
  rw [← same]
  split
  · next isZero =>
      rw [toNat_pack_zero, min_eq_left] <;> omega
  · next notZero => exact toNat_pack_finite (by omega) lastSmall lastLeast lastLeading

/-- An exact mantissa that has bits enough. -/
theorem isRounded_roundWithAccuracy (sign : Sign) {mantissa : Nat} {exponent : Int}
    (enough : 52 ≤ mantissa.log2 ∨ exponent ≤ -1074) :
    ∃ word, IsRounded word (dyadic mantissa exponent) ∧
      (UnpackedFloat.pack .binary64
        (roundWithAccuracy .binary64 sign mantissa exponent .exact)).toNat =
          signWord sign + word := by
  refine isRounded_of_stands sign ?_ enough
  rw [dyadic, mul_div_cancel_right₀ _ (two_zpow_pos exponent).ne']
  exact stands_ofMantissa mantissa

theorem log2_shiftLeft {mantissa : Nat} (positive : 0 < mantissa) (places : Nat) :
    (mantissa <<< places).log2 = mantissa.log2 + places := by
  have shiftedPositive : 0 < mantissa <<< places := by
    rw [Nat.shiftLeft_eq]
    positivity
  rw [Nat.log2_eq_iff shiftedPositive.ne', Nat.shiftLeft_eq, Nat.pow_add, Nat.add_right_comm,
    Nat.pow_add _ (mantissa.log2 + 1)]
  exact ⟨Nat.mul_le_mul_right _ (Nat.log2_self_le positive.ne'),
    Nat.mul_lt_mul_of_pos_right Nat.lt_log2_self (Nat.two_pow_pos places)⟩

/-- A mantissa is given the bits that rounding wants first. -/
theorem isRounded_round (sign : Sign) {mantissa : Nat} (positive : 0 < mantissa) (exponent : Int) :
    ∃ word, IsRounded word (dyadic mantissa exponent) ∧
      (UnpackedFloat.pack .binary64 (UnpackedFloat.round .binary64 sign mantissa exponent)).toNat =
        signWord sign + word := by
  obtain ⟨places, isPlaces⟩ : ∃ places : Nat,
      (exponent - Format.binary64.targetExponent (totalExponent mantissa exponent)).toNat =
        places := ⟨_, rfl⟩
  have target : Format.binary64.targetExponent (totalExponent mantissa exponent) =
      max ((mantissa.log2 : Int) + 1 + exponent - 53) (-1074) := rfl
  have widened := log2_shiftLeft positive places
  have enough : 52 ≤ (mantissa <<< places).log2 ∨ exponent - places ≤ -1074 := by
    rw [widened]
    omega
  have rounds := isRounded_roundWithAccuracy sign enough
  rw [dyadic_shiftLeft] at rounds
  unfold UnpackedFloat.round decreaseExponent
  simp only [isPlaces]
  exact rounds

end Binary

end TileAtlas
