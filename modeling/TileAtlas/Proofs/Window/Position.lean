import Mathlib.Tactic.FieldSimp
import TileAtlas.Proofs.Geometry.Box
import TileAtlas.Proofs.Window
import TileAtlas.Raster.Sampling

/-!
Contract: positions in a window, in exact numbers.

Owns:
- `SourceWindow.Holds`, the positions of a window, and that a resolved window
  holds every position inside the raster that comes out of the needed extent;
- `abs_nearestSource_sub_le`, how far from a position its working pixel is
  filled.

A raster has at most `int64Max` pixels along each side here: windows of larger
ones are cut as if they ended there.
-/

namespace TileAtlas

namespace SourceWindow

/-! ## One axis -/

/-- A cut keeps every position that lies between its two ends and inside the
raster but not in its last pixel. -/
theorem cut_holds {least greatest position : Rat} {count : Nat} (above : least ≤ position)
    (below : position ≤ greatest) (nonneg : 0 ≤ position) (short : position < (count : Rat) - 1)
    (small : (count : Int) ≤ int64Max) :
    ((cut least greatest count).1.toNat : Rat) ≤ position ∧
      position < ((cut least greatest count).1.toNat : Rat) + (cut least greatest count).2.toNat := by
  have pixelNonneg : 0 ≤ ⌊position⌋ := Int.floor_nonneg.mpr nonneg
  have pixelShort : ⌊position⌋ < (count : Int) - 1 := Int.floor_lt.mpr (by push_cast; exact short)
  have startAtMost : Scalar.truncateToInt64 least ≤ ⌊position⌋ :=
    Scalar.truncateToInt64_le_floor nonneg above
  have finish : Scalar.truncateToInt64 greatest = min ⌊greatest⌋ int64Max :=
    Scalar.truncateToInt64_of_nonneg (nonneg.trans below)
  have finishAtLeast : ⌊position⌋ ≤ ⌊greatest⌋ := Int.floor_le_floor below
  have inCut : (cut least greatest count).1 ≤ ⌊position⌋ ∧
      ⌊position⌋ < (cut least greatest count).1 + (cut least greatest count).2 := by
    unfold cut saturateInt64
    simp only
    rw [finish]
    generalize Scalar.truncateToInt64 least = start at *
    unfold int64Max int64Min at *
    constructor
    · omega
    · split <;> omega
  obtain ⟨afterStart, beforeEnd⟩ := inCut
  have start := zero_le_cut least greatest count
  refine ⟨?_, ?_⟩
  · have : ((cut least greatest count).1.toNat : Int) ≤ ⌊position⌋ := by omega
    exact_mod_cast Int.le_floor.mp this
  · have : ⌊position⌋ <
        ((cut least greatest count).1.toNat : Int) + (cut least greatest count).2.toNat := by
      omega
    exact_mod_cast Int.floor_lt.mp this

/-! ## Both axes -/

/-- The position lies in a raster of this size, but not in its last column or
row. -/
structure IsInterior (sourceWidth sourceHeight : Nat) (position : Rat × Rat) : Prop where
  left : 0 ≤ position.1
  right : position.1 < (sourceWidth : Rat) - 1
  top : 0 ≤ position.2
  bottom : position.2 < (sourceHeight : Rat) - 1

/-- The position lies in the window. -/
structure Holds (window : SourceWindow Rat) (position : Rat × Rat) : Prop where
  left_le : (window.region.xOff : Rat) ≤ position.1
  lt_right : position.1 < (window.region.xOff : Rat) + window.region.width
  top_le : (window.region.yOff : Rat) ≤ position.2
  lt_bottom : position.2 < (window.region.yOff : Rat) + window.region.height

variable {source : GeoReference Rat} {sourceWidth sourceHeight : Nat} {quality : Rat}
  {destination : Affine Rat} {back : PointMap Rat} {tileWidth tileHeight : Nat}
  {window : SourceWindow Rat}

theorem holds_of_resolve
    (resolved : resolve source sourceWidth sourceHeight quality destination back tileWidth
      tileHeight = .window window)
    (smallWidth : (sourceWidth : Int) ≤ int64Max) (smallHeight : (sourceHeight : Int) ≤ int64Max)
    {needed : Extent Rat}
    (bordered : borderExtent destination back tileWidth tileHeight = some needed)
    {point : Rat × Rat} (inside : needed.contains point.1 point.2 = true)
    (interior : IsInterior sourceWidth sourceHeight (source.toPixel point.1 point.2)) :
    window.Holds (source.toPixel point.1 point.2) := by
  obtain ⟨_, pixels, sameBorder, covered, wide, high, rfl⟩ := resolve_eq_window resolved
  obtain rfl := Option.some.inj (bordered.symm.trans sameBorder)
  have corners : ∀ cornerX ∈ [needed.minX, needed.maxX], ∀ cornerY ∈ [needed.minY, needed.maxY],
      pixels.contains (source.inverse.apply cornerX cornerY).1
        (source.inverse.apply cornerX cornerY).2 = true := by
    intro cornerX memberX cornerY memberY
    have isCorner : source.inverse.apply cornerX cornerY ∈ cornerPixels source needed := by
      simp only [List.mem_cons, List.not_mem_nil, or_false] at memberX memberY
      rcases memberX with rfl | rfl <;> rcases memberY with rfl | rfl <;>
        simp [cornerPixels, GeoReference.toPixel]
    exact Extent.contains_of_cover covered isCorner
  obtain ⟨west, east, south, north⟩ :=
    Extent.contains_iff.mp (Affine.contains_apply inside corners)
  have inX := cut_holds west east interior.left interior.right smallWidth
  have inY := cut_holds south north interior.top interior.bottom smallHeight
  exact ⟨inX.1, inX.2, inY.1, inY.2⟩

end SourceWindow

/-! ## Nearest pixels -/

theorem nearestSource_rat {outIndex outLength : Nat} (offset : Nat) {length : Nat}
    (inside : outIndex < outLength) (positive : 0 < length) (small : length ≤ word64Max) :
    nearestSource Rat outIndex outLength offset length =
      offset + ⌊((outIndex : Rat) + 1 / 2) * (length / outLength)⌋.toNat := by
  have outPositive : (0 : Rat) < outLength := by exact_mod_cast Nat.zero_lt_of_lt inside
  have lengthPositive : (0 : Rat) < length := by exact_mod_cast positive
  have middleBelow : (outIndex : Rat) + 1 / 2 < outLength := by
    have : (outIndex : Rat) + 1 ≤ outLength := by exact_mod_cast inside
    linarith
  have nonneg : 0 ≤ ((outIndex : Rat) + 1 / 2) * (length / outLength) := by positivity
  have below : ((outIndex : Rat) + 1 / 2) * (length / outLength) < length := by
    calc ((outIndex : Rat) + 1 / 2) * (length / outLength)
        < outLength * (length / outLength) :=
          mul_lt_mul_of_pos_right middleBelow (by positivity)
      _ = length := mul_div_cancel₀ _ outPositive.ne'
  have floorBelow : ⌊((outIndex : Rat) + 1 / 2) * (length / outLength)⌋ < (length : Int) :=
    Int.floor_lt.mpr (by exact_mod_cast below)
  have count := Scalar.truncateToCount_of_nonneg nonneg
  have half : (0.5 : Rat) = 1 / 2 := by norm_num
  unfold nearestSource
  show offset + min (Scalar.truncateToCount (((outIndex : Rat) + 0.5) * (length / outLength)))
    (length - 1) = _
  rw [half, count]
  omega

theorem abs_floor_add_half_sub_le (value : Rat) : |(⌊value⌋ : Rat) + 1 / 2 - value| ≤ 1 / 2 := by
  have atMost := Int.floor_le value
  have above := Int.lt_floor_add_one value
  exact abs_le.mpr ⟨by linarith, by linarith⟩

/-- One axis of a read-back: a position of a window is looked up in the working
pixel that it falls into, and the middle of the raster pixel that filled this
working pixel is half a raster pixel and half a working pixel away at most. -/
theorem abs_nearestSource_sub_le {position scale : Rat} {offset length workLength : Nat}
    (scaled : scale = workLength / length) (positive : 0 < length) (workPositive : 0 < workLength)
    (small : length ≤ word64Max) (start : (offset : Rat) ≤ position)
    (finish : position < (offset : Rat) + length) :
    0 ≤ ⌊(position - offset) * scale⌋ ∧ ⌊(position - offset) * scale⌋ < workLength ∧
      |(nearestSource Rat ⌊(position - offset) * scale⌋.toNat workLength offset length : Rat) +
        1 / 2 - position| ≤ 1 / 2 + 1 / (2 * scale) := by
  have lengthPositive : (0 : Rat) < length := by exact_mod_cast positive
  have workLengthPositive : (0 : Rat) < workLength := by exact_mod_cast workPositive
  have scalePositive : 0 < scale := by
    rw [scaled]
    positivity
  have nonneg : 0 ≤ (position - offset) * scale := mul_nonneg (by linarith) scalePositive.le
  have below : (position - offset) * scale < workLength := by
    calc (position - offset) * scale
        < length * scale := mul_lt_mul_of_pos_right (by linarith) scalePositive
      _ = workLength := by
          rw [scaled]
          exact mul_div_cancel₀ _ lengthPositive.ne'
  obtain ⟨index, isFloor⟩ : ∃ index : Nat, ⌊(position - offset) * scale⌋ = index :=
    ⟨_, (Int.toNat_of_nonneg (Int.floor_nonneg.mpr nonneg)).symm⟩
  have indexBelow : index < workLength := by
    have : ⌊(position - offset) * scale⌋ < (workLength : Int) :=
      Int.floor_lt.mpr (by exact_mod_cast below)
    omega
  refine ⟨by omega, by omega, ?_⟩
  rw [isFloor, Int.toNat_natCast, nearestSource_rat offset indexBelow positive small]
  -- The middle of the working pixel, in raster pixels from the offset on.
  have middleNonneg : 0 ≤ ((index : Rat) + 1 / 2) * (length / workLength) := by positivity
  generalize filled : ((index : Rat) + 1 / 2) * (length / workLength) = middle at middleNonneg ⊢
  have filledFrom : ((⌊middle⌋.toNat : Nat) : Rat) = ⌊middle⌋ := by
    exact_mod_cast Int.toNat_of_nonneg (Int.floor_nonneg.mpr middleNonneg)
  have inRaster : |(⌊middle⌋ : Rat) + 1 / 2 - middle| ≤ 1 / 2 := abs_floor_add_half_sub_le middle
  have inBuffer : |(index : Rat) + 1 / 2 - (position - offset) * scale| ≤ 1 / 2 := by
    have near := abs_floor_add_half_sub_le ((position - offset) * scale)
    rw [isFloor] at near
    exact_mod_cast near
  have middleShift : middle - (position - offset) =
      ((index : Rat) + 1 / 2 - (position - offset) * scale) / scale := by
    rw [← filled, scaled]
    field_simp
  have atMiddle : |middle - (position - offset)| ≤ 1 / (2 * scale) := by
    rw [middleShift, abs_div, abs_of_pos scalePositive, ← div_div]
    exact div_le_div_of_nonneg_right inBuffer scalePositive.le
  push_cast
  rw [filledFrom]
  calc |(offset : Rat) + ⌊middle⌋ + 1 / 2 - position|
      = |((⌊middle⌋ : Rat) + 1 / 2 - middle) + (middle - (position - offset))| := by
        congr 1
        ring
    _ ≤ |(⌊middle⌋ : Rat) + 1 / 2 - middle| + |middle - (position - offset)| := abs_add_le _ _
    _ ≤ 1 / 2 + 1 / (2 * scale) := add_le_add inRaster atMiddle

end TileAtlas
