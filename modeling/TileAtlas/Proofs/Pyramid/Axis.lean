import Mathlib.Tactic.FieldSimp
import Mathlib.Tactic.Positivity
import TileAtlas.Proofs.Number.Exact
import TileAtlas.Pyramid

/-!
Contract: one axis of a level, in exact numbers.

Owns:
- `HasPositiveSizes`, what a pyramid needs to have tiles at all;
- `tileCount` and `indexAt` as ceilings and floors, with their saturation;
- `mul_le_offset_iff` and `offset_lt_mul_iff`, what an index says about an offset;
- `tileExtent_eq_some_iff`: the extent of a tile, axis by axis.

A level is a row of tiles along each axis.  The row starts at the side that the
pyramid counts from, and its last tile reaches beyond the other side unless the
tiles fit.
-/

namespace TileAtlas

namespace Pyramid

/-- Positive extents, tiles and resolutions. -/
structure HasPositiveSizes (pyramid : Pyramid Rat) : Prop where
  width_pos : 0 < pyramid.extent.width
  height_pos : 0 < pyramid.extent.height
  tileWidth_pos : 0 < pyramid.tileWidth
  tileHeight_pos : 0 < pyramid.tileHeight
  resolution_pos : ∀ resolution ∈ pyramid.resolutions, 0 < resolution

theorem resolutionTolerance_rat : (resolutionTolerance : Rat) = 1 / 1000000000 := by
  unfold resolutionTolerance
  norm_num

theorem webMercator_hasPositiveSizes : (webMercator : Pyramid Rat).HasPositiveSizes :=
  ⟨by decide +kernel, by decide +kernel, by decide, by decide, by decide +kernel⟩

/-! ## Counts and indices -/

theorem tileCount_pos (span resolution : Rat) (tileSize : Nat) :
    0 < tileCount span resolution tileSize := by
  unfold tileCount toWord32 word32Max
  simp only
  omega

theorem tileCount_le (span resolution : Rat) (tileSize : Nat) :
    tileCount span resolution tileSize ≤ word32Max := by
  unfold tileCount toWord32
  exact Nat.min_le_right _ _

theorem tileCount_rat (span resolution : Rat) (tileSize : Nat) :
    (tileCount span resolution tileSize : Int) =
      min (max 1 ⌈(span - resolution / 100) / (resolution * tileSize)⌉) word32Max := by
  have hundredth : (0.01 : Rat) * resolution = resolution / 100 := by
    norm_num
    ring
  unfold tileCount toWord32
  simp only [Scalar.ofNat_rat, hundredth, Scalar.ceilToInt64_rat]
  unfold word32Max int64Min int64Max
  omega

theorem indexAt_rat (offset unit : Rat) :
    (indexAt offset unit : Int) = max 0 (min ⌊offset / unit + resolutionTolerance⌋ word32Max) := by
  unfold indexAt toWord32
  rw [Scalar.floorToInt64_rat]
  unfold word32Max int64Min int64Max
  omega

section Reaching

variable {offset unit : Rat} {index : Nat} (unit_pos : 0 < unit)

include unit_pos

/-- An offset reaches a multiple of the unit, up to the tolerance. -/
theorem mul_le_offset_iff : index * unit ≤ offset + resolutionTolerance * unit ↔
    (index : Int) ≤ ⌊offset / unit + resolutionTolerance⌋ := by
  rw [Int.le_floor, ← sub_le_iff_le_add, ← sub_le_iff_le_add, le_div_iff₀ unit_pos, sub_mul]
  push_cast
  rfl

/-- An offset stays below the next multiple of the unit, tolerance included. -/
theorem offset_lt_mul_iff : offset + resolutionTolerance * unit < (index + 1) * unit ↔
    ⌊offset / unit + resolutionTolerance⌋ ≤ index := by
  rw [← Int.lt_add_one_iff, Int.floor_lt, ← lt_sub_iff_add_lt, ← lt_sub_iff_add_lt,
    div_lt_iff₀ unit_pos, sub_mul]
  push_cast
  rfl

theorem floor_offset_nonneg (nonneg : 0 ≤ offset) :
    0 ≤ ⌊offset / unit + resolutionTolerance⌋ := by
  have quotient_nonneg : 0 ≤ offset / unit := div_nonneg nonneg unit_pos.le
  refine Int.floor_nonneg.mpr ?_
  rw [resolutionTolerance_rat]
  linarith

/-- A length ends in some unit. -/
theorem exists_unit (nonneg : 0 ≤ offset) :
    ∃ index : Nat, index * unit ≤ offset ∧ offset < (index + 1) * unit := by
  refine ⟨⌊offset / unit⌋₊, ?_, ?_⟩
  · rw [← le_div_iff₀ unit_pos]
    exact Nat.floor_le (div_nonneg nonneg unit_pos.le)
  · rw [← div_lt_iff₀ unit_pos]
    exact Nat.lt_floor_add_one _

end Reaching

/-! ## Tiles -/

/-- Where the tile of an index begins on its axis. -/
theorem lowerBound_rat (countsDown : Bool) (least greatest unit : Rat) (index : Nat) :
    lowerBound countsDown least greatest unit index =
      if countsDown then greatest - (index + 1) * unit else least + index * unit := by
  unfold lowerBound
  simp only [Scalar.ofNat_rat, Nat.cast_add, Nat.cast_one]

section Levels

variable {pyramid : Pyramid Rat} {tile : TileIndex} {extent : Extent Rat} {z : Nat}

/-- The width of the tiles of a resolution. -/
def unitX (pyramid : Pyramid Rat) (resolution : Rat) : Rat := resolution * pyramid.tileWidth

/-- The height of the tiles of a resolution. -/
def unitY (pyramid : Pyramid Rat) (resolution : Rat) : Rat := resolution * pyramid.tileHeight

theorem HasPositiveSizes.of_resolution? (positive : pyramid.HasPositiveSizes) {resolution : Rat}
    (level : pyramid.resolution? z = some resolution) : 0 < resolution :=
  positive.resolution_pos resolution (List.mem_of_getElem? level)

theorem HasPositiveSizes.unitX_pos (positive : pyramid.HasPositiveSizes) {resolution : Rat}
    (level : pyramid.resolution? z = some resolution) : 0 < pyramid.unitX resolution :=
  mul_pos (positive.of_resolution? level) (Nat.cast_pos.mpr positive.tileWidth_pos)

theorem HasPositiveSizes.unitY_pos (positive : pyramid.HasPositiveSizes) {resolution : Rat}
    (level : pyramid.resolution? z = some resolution) : 0 < pyramid.unitY resolution :=
  mul_pos (positive.of_resolution? level) (Nat.cast_pos.mpr positive.tileHeight_pos)

theorem levelSize?_of_resolution? {resolution : Rat}
    (level : pyramid.resolution? z = some resolution) :
    pyramid.levelSize? z =
      some (tileCount pyramid.extent.width resolution pyramid.tileWidth,
        tileCount pyramid.extent.height resolution pyramid.tileHeight) := by
  rw [levelSize?, level, Option.map_some]

theorem exists_levelSize? {resolution : Rat} (level : pyramid.resolution? z = some resolution) :
    ∃ columns rows, pyramid.levelSize? z = some (columns, rows) ∧
      (0 < columns ∧ columns ≤ word32Max) ∧ 0 < rows ∧ rows ≤ word32Max :=
  ⟨_, _, levelSize?_of_resolution? level, ⟨tileCount_pos _ _ _, tileCount_le _ _ _⟩,
    tileCount_pos _ _ _, tileCount_le _ _ _⟩

/-- Where a tile begins along the first axis. -/
def startX (pyramid : Pyramid Rat) (resolution : Rat) (x : Nat) : Rat :=
  lowerBound pyramid.origin.countsFromRight pyramid.extent.minX pyramid.extent.maxX
    (pyramid.unitX resolution) x

/-- Where a tile begins along the second axis. -/
def startY (pyramid : Pyramid Rat) (resolution : Rat) (y : Nat) : Rat :=
  lowerBound pyramid.origin.countsFromTop pyramid.extent.minY pyramid.extent.maxY
    (pyramid.unitY resolution) y

/-- The extent of a tile, if the level has it. -/
def extentAt (pyramid : Pyramid Rat) (resolution : Rat) (x y : Nat) : Extent Rat where
  minX := pyramid.startX resolution x
  minY := pyramid.startY resolution y
  maxX := pyramid.startX resolution x + pyramid.unitX resolution
  maxY := pyramid.startY resolution y + pyramid.unitY resolution

theorem tileExtent_eq_some_iff {resolution : Rat} {columns rows x y : Nat}
    (level : pyramid.resolution? z = some resolution)
    (size : pyramid.levelSize? z = some (columns, rows)) :
    pyramid.tileExtent ⟨z, x, y⟩ = some extent ↔
      x < columns ∧ y < rows ∧ extent = pyramid.extentAt resolution x y := by
  rw [tileExtent, level, size]
  simp only [Option.bind_eq_bind, Option.bind_some]
  by_cases outside : columns ≤ x ∨ rows ≤ y
  · rw [if_pos outside]
    refine iff_of_false nofun ?_
    omega
  · obtain ⟨inX, inY⟩ := not_or.mp outside
    rw [if_neg outside, and_iff_right (not_le.mp inX), and_iff_right (not_le.mp inY)]
    exact Option.some_inj.trans eq_comm

theorem exists_tileExtent_iff {resolution : Rat} {columns rows x y : Nat}
    (level : pyramid.resolution? z = some resolution)
    (size : pyramid.levelSize? z = some (columns, rows)) (holds : Extent Rat → Prop) :
    (∃ extent, pyramid.tileExtent ⟨z, x, y⟩ = some extent ∧ holds extent) ↔
      (x < columns ∧ y < rows) ∧ holds (pyramid.extentAt resolution x y) := by
  simp only [tileExtent_eq_some_iff level size, and_assoc, exists_and_left, exists_eq_left]

/-- A tile of the pyramid has a level, lies within its counts, and begins on
each axis where its index says. -/
theorem tileExtent_eq_some (located : pyramid.tileExtent tile = some extent) :
    ∃ resolution columns rows, pyramid.resolution? tile.z = some resolution ∧
      pyramid.levelSize? tile.z = some (columns, rows) ∧ tile.x < columns ∧ tile.y < rows ∧
      extent.minX = lowerBound pyramid.origin.countsFromRight pyramid.extent.minX
        pyramid.extent.maxX (pyramid.unitX resolution) tile.x ∧
      extent.minY = lowerBound pyramid.origin.countsFromTop pyramid.extent.minY
        pyramid.extent.maxY (pyramid.unitY resolution) tile.y ∧
      extent.maxX = extent.minX + pyramid.unitX resolution ∧
      extent.maxY = extent.minY + pyramid.unitY resolution := by
  cases level : pyramid.resolution? tile.z with
  | none => simp [tileExtent, level] at located
  | some resolution =>
      have size := levelSize?_of_resolution? level
      obtain ⟨inX, inY, rfl⟩ := (tileExtent_eq_some_iff level size).mp located
      exact ⟨_, _, _, rfl, size, inX, inY, rfl, rfl, rfl, rfl⟩

end Levels

end Pyramid

end TileAtlas
