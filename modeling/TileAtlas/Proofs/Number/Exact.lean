import Mathlib.Data.Rat.Floor
import Mathlib.Tactic.Linarith
import TileAtlas.Number.Exact

/-!
Contract: the derived operations of `Scalar` on exact rational numbers.

Owns:
- counts, magnitudes, minima and maxima, which are those of the order;
- `truncate`, and the 64-bit integers and counts that come from it;
- floors and ceilings as 64-bit integers;
- `floorToPixel_clampToPixels`: positions and their pixels are clamped alike.

Does not own: any geometry.
-/

namespace TileAtlas.Scalar

theorem larger_rat (left right : Rat) : larger left right = max left right := by
  have isNumber : isNumber left = true := decide_eq_true (le_refl left)
  unfold larger
  rw [if_pos isNumber]
  by_cases less : left < right
  · rw [if_pos less, max_eq_right less.le]
  · rw [if_neg less, max_eq_left (not_lt.mp less)]

theorem ofNat_rat (count : Nat) : (ofNat count : Rat) = count := rfl

theorem abs_rat (value : Rat) : abs value = |value| := by
  by_cases negative : value < 0
  · rw [abs_of_neg negative]
    exact if_pos negative
  · rw [abs_of_nonneg (not_lt.mp negative)]
    exact if_neg negative

theorem truncate_of_nonneg {value : Rat} (nonneg : 0 ≤ value) :
    truncate value = .integer ⌊value⌋ := by
  have notBelow : ¬ value < (0.0 : Rat) := by
    norm_num
    exact nonneg
  unfold truncate
  rw [if_neg notBelow]
  rfl

theorem truncate_of_neg {value : Rat} (negative : value < 0) :
    truncate value = .integer (-⌊-value⌋) := by
  have below : value < (0.0 : Rat) := by
    norm_num
    exact negative
  unfold truncate
  rw [if_pos below]
  rfl

theorem truncateToInt64_of_nonneg {value : Rat} (nonneg : 0 ≤ value) :
    truncateToInt64 value = min ⌊value⌋ int64Max := by
  have floorNonneg : 0 ≤ ⌊value⌋ := Int.floor_nonneg.mpr nonneg
  unfold truncateToInt64
  rw [truncate_of_nonneg nonneg]
  show max int64Min (min ⌊value⌋ int64Max) = min ⌊value⌋ int64Max
  unfold int64Min int64Max
  omega

/-- The integer part of a number is not above the pixel of a position that the
number does not exceed. -/
theorem truncateToInt64_le_floor {value position : Rat} (nonneg : 0 ≤ position)
    (atMost : value ≤ position) : truncateToInt64 value ≤ ⌊position⌋ := by
  have floorNonneg : 0 ≤ ⌊position⌋ := Int.floor_nonneg.mpr nonneg
  by_cases negative : value < 0
  · have ceilingAtMost : -⌊-value⌋ ≤ 0 := by
      have : 0 ≤ ⌊-value⌋ := Int.floor_nonneg.mpr (by linarith)
      omega
    unfold truncateToInt64
    rw [truncate_of_neg negative]
    show max int64Min (min (-⌊-value⌋) int64Max) ≤ ⌊position⌋
    unfold int64Min int64Max
    omega
  · have floors : ⌊value⌋ ≤ ⌊position⌋ := Int.floor_le_floor atMost
    rw [truncateToInt64_of_nonneg (not_lt.mp negative)]
    omega

theorem floorToInt64_rat (value : Rat) :
    floorToInt64 value = max int64Min (min ⌊value⌋ int64Max) := rfl

theorem ceilToInt64_rat (value : Rat) :
    ceilToInt64 value = max int64Min (min ⌈value⌉ int64Max) := by
  have ceiling : -⌊-value⌋ = ⌈value⌉ := by rw [Int.floor_neg, neg_neg]
  rw [← ceiling]
  rfl

theorem truncateToCount_of_nonneg {value : Rat} (nonneg : 0 ≤ value) :
    truncateToCount value = min ⌊value⌋.toNat word64Max := by
  have floorNonneg : 0 ≤ ⌊value⌋ := Int.floor_nonneg.mpr nonneg
  unfold truncateToCount
  rw [truncate_of_nonneg nonneg]
  show (max 0 (min ⌊value⌋ word64Max)).toNat = min ⌊value⌋.toNat word64Max
  omega

/-- Pixel counts are positive. -/
theorem one_le_pixelCount_rat (value : Rat) : 1 ≤ pixelCount value := by
  unfold pixelCount
  by_cases large : (1.0 : Rat) ≤ value
  · have atLeastOne : 1 ≤ value := by
      norm_num at large
      exact large
    have floorAtLeastOne : 1 ≤ ⌊value⌋ := Int.le_floor.mpr (by exact_mod_cast atLeastOne)
    rw [if_pos large, truncateToCount_of_nonneg (by linarith)]
    unfold word64Max
    omega
  · rw [if_neg large]

/-! ## Pixels -/

theorem floorToPixel_rat (value : Rat) :
    floorToPixel value = max int64Min (min ⌊value⌋ int64Max) := rfl

theorem clamp_rat (value lower upper : Rat) :
    clamp value lower upper = min upper (max value lower) := by
  rw [min_def_lt, max_def_lt]
  rfl

/-- The pixel of a clamped position is the clamped pixel of the position. -/
theorem floorToPixel_clampToPixels (value : Rat) {count : Nat} (small : (count : Int) ≤ int64Max) :
    floorToPixel (clampToPixels value count) = min ((count - 1 : Nat) : Int) (max ⌊value⌋ 0) := by
  have isNumber : isNumber value = true := decide_eq_true (le_refl value)
  have zero : (0.0 : Rat) = 0 := by norm_num
  have last : (ofNat (count - 1) : Rat) = ((count - 1 : Nat) : Rat) := rfl
  unfold clampToPixels
  rw [if_pos isNumber, clamp_rat, zero, last, floorToPixel_rat, Int.floor_mono.map_min,
    Int.floor_mono.map_max, Int.floor_zero, Int.floor_natCast]
  unfold int64Max at *
  unfold int64Min
  omega

end TileAtlas.Scalar
