import Mathlib.Tactic.Ring
import TileAtlas.Geometry.Affine
import TileAtlas.Proofs.Geometry.Cover

/-!
Contract: boxes and affine maps in exact numbers.

Owns:
- `Extent.contains_of_cover`: the extent of a list of points holds each of them;
- `Extent.intersects_iff`, the overlap test as four strict inequalities;
- `Affine.contains_apply`: a box that holds the images of the four corners of
  another one holds the image of all of it, for rotated maps, too;
- `Affine.apply_ofExtent`: where the pixels of a north-up raster lie.
-/

namespace TileAtlas

theorem Extent.contains_of_cover {points : List (Rat × Rat)} {extent : Extent Rat}
    (covered : cover points = some extent) {point : Rat × Rat} (member : point ∈ points) :
    extent.contains point.1 point.2 = true :=
  (isSmallest_of_cover covered).holds point ⟨member, rfl, rfl⟩

theorem Extent.intersects_iff (extent other : Extent Rat) :
    extent.intersects other = true ↔
      (extent.minX < other.maxX ∧ other.minX < extent.maxX) ∧
        extent.minY < other.maxY ∧ other.minY < extent.maxY := by
  simp only [intersects, Bool.not_eq_true', Bool.or_eq_false_iff, decide_eq_false_iff_not, not_le]
  constructor
  · rintro ⟨⟨⟨west, east⟩, south⟩, north⟩
    exact ⟨⟨west, east⟩, north, south⟩
  · rintro ⟨⟨west, east⟩, north, south⟩
    exact ⟨⟨⟨west, east⟩, south⟩, north⟩

/-! ## Images of boxes -/

section Ends

variable {least greatest value slope start bound : Rat}

/-- A linear function on an interval is nowhere below both of its end values. -/
theorem le_linear_of_le_ends (above : least ≤ value) (below : value ≤ greatest)
    (atLeast : bound ≤ start + least * slope) (atGreatest : bound ≤ start + greatest * slope) :
    bound ≤ start + value * slope := by
  rcases le_total 0 slope with rising | falling
  · have : least * slope ≤ value * slope := mul_le_mul_of_nonneg_right above rising
    linarith
  · have : greatest * slope ≤ value * slope := mul_le_mul_of_nonpos_right below falling
    linarith

theorem linear_le_of_ends_le (above : least ≤ value) (below : value ≤ greatest)
    (atLeast : start + least * slope ≤ bound) (atGreatest : start + greatest * slope ≤ bound) :
    start + value * slope ≤ bound := by
  have reflected : -bound ≤ -start + value * -slope :=
    le_linear_of_le_ends above below (by linarith) (by linarith)
  linarith

end Ends

namespace Affine

theorem apply_eq_swapped (map : Affine Rat) (x y : Rat) :
    map.apply x y =
      (map.c0 + y * map.c2 + x * map.c1, map.c3 + y * map.c5 + x * map.c4) :=
  Prod.ext (add_right_comm _ _ _) (add_right_comm _ _ _)

/-- A box that holds the images of the corners of an extent holds the images of
all of its points. -/
theorem contains_apply {map : Affine Rat} {extent bounds : Extent Rat} {x y : Rat}
    (inside : extent.contains x y = true)
    (corners : ∀ cornerX ∈ [extent.minX, extent.maxX], ∀ cornerY ∈ [extent.minY, extent.maxY],
      bounds.contains (map.apply cornerX cornerY).1 (map.apply cornerX cornerY).2 = true) :
    bounds.contains (map.apply x y).1 (map.apply x y).2 = true := by
  obtain ⟨west, east, south, north⟩ := Extent.contains_iff.mp inside
  -- First along each of the two vertical sides, then between them.
  have sides : ∀ cornerX ∈ [extent.minX, extent.maxX],
      bounds.contains (map.apply cornerX y).1 (map.apply cornerX y).2 = true := by
    intro cornerX member
    obtain ⟨lowerWest, lowerEast, lowerSouth, lowerNorth⟩ :=
      Extent.contains_iff.mp (corners cornerX member extent.minY (by simp))
    obtain ⟨upperWest, upperEast, upperSouth, upperNorth⟩ :=
      Extent.contains_iff.mp (corners cornerX member extent.maxY (by simp))
    exact Extent.contains_iff.mpr
      ⟨le_linear_of_le_ends south north lowerWest upperWest,
        linear_le_of_ends_le south north lowerEast upperEast,
        le_linear_of_le_ends south north lowerSouth upperSouth,
        linear_le_of_ends_le south north lowerNorth upperNorth⟩
  have left := sides extent.minX (by simp)
  have right := sides extent.maxX (by simp)
  rw [apply_eq_swapped] at left right ⊢
  obtain ⟨leftWest, leftEast, leftSouth, leftNorth⟩ := Extent.contains_iff.mp left
  obtain ⟨rightWest, rightEast, rightSouth, rightNorth⟩ := Extent.contains_iff.mp right
  exact Extent.contains_iff.mpr
    ⟨le_linear_of_le_ends west east leftWest rightWest,
      linear_le_of_ends_le west east leftEast rightEast,
      le_linear_of_le_ends west east leftSouth rightSouth,
      linear_le_of_ends_le west east leftNorth rightNorth⟩

theorem apply_ofExtent {extent : Extent Rat} (wide : 0 ≤ extent.width) (high : 0 ≤ extent.height)
    (width height x y : Nat) :
    (ofExtent extent width height).apply (Scalar.ofNat x) (Scalar.ofNat y) =
      (extent.minX + extent.width / width * x, extent.maxY - extent.height / height * y) := by
  have zero : (0.0 : Rat) = 0 := by norm_num
  simp only [ofExtent, apply, Scalar.abs_rat, abs_of_nonneg wide, abs_of_nonneg high,
    Scalar.ofNat_rat, zero, Prod.mk.injEq]
  constructor <;> ring

end Affine

end TileAtlas
