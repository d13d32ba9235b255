import TileAtlas.Proofs.Geometry.Box
import TileAtlas.Proofs.Pyramid.Limits

/-!
Contract: the tiles of a level as a division of the pyramid, in exact numbers.

Owns:
- `HasWordCounts`, levels whose counts of tiles are 32-bit words;
- one axis: the tiles of a row lie apart, each overlaps the pyramid, and
  together they cover it up to a hundredth of a pixel;
- `isDivided`, both axes.

The row of tiles begins at the side that the pyramid counts from.  What is left
uncovered lies along the other side: a hundredth of a pixel is no reason for one
more tile.
-/

namespace TileAtlas

namespace Pyramid

/-! ## Counts -/

section Counts

variable {span resolution : Rat} {tileSize index : Nat}

/-- The last tile begins within the span. -/
theorem mul_lt_of_lt_tileCount (span_pos : 0 < span) (resolution_pos : 0 < resolution)
    (tileSize_pos : 0 < tileSize) (inRange : index < tileCount span resolution tileSize) :
    index * (resolution * tileSize) < span := by
  have unit_pos : 0 < resolution * (tileSize : Rat) :=
    mul_pos resolution_pos (Nat.cast_pos.mpr tileSize_pos)
  have count := tileCount_rat span resolution tileSize
  rcases Nat.eq_zero_or_pos index with rfl | positive
  · simpa using span_pos
  · have belowCeiling : (index : Int) < ⌈(span - resolution / 100) / (resolution * tileSize)⌉ := by
      omega
    have below := Int.lt_ceil.mp belowCeiling
    rw [lt_div_iff₀ unit_pos, Int.cast_natCast] at below
    linarith

/-- As many tiles as counted are as long as the span, but for a hundredth of a
pixel. -/
theorem le_tileCount_mul (resolution_pos : 0 < resolution) (tileSize_pos : 0 < tileSize)
    (isWord : span - resolution / 100 ≤ word32Max * (resolution * tileSize)) :
    span - resolution / 100 ≤ tileCount span resolution tileSize * (resolution * tileSize) := by
  have unit_pos : 0 < resolution * (tileSize : Rat) :=
    mul_pos resolution_pos (Nat.cast_pos.mpr tileSize_pos)
  have count := tileCount_rat span resolution tileSize
  have ceilingAtMost :
      ⌈(span - resolution / 100) / (resolution * tileSize)⌉ ≤ (word32Max : Int) := by
    rw [Int.ceil_le, div_le_iff₀ unit_pos, Int.cast_natCast]
    exact isWord
  have atMost : ⌈(span - resolution / 100) / (resolution * tileSize)⌉ ≤
      (tileCount span resolution tileSize : Int) := by
    omega
  rw [Int.ceil_le, div_le_iff₀ unit_pos, Int.cast_natCast] at atMost
  exact atMost

end Counts

/-! ## One axis -/

section Axis

variable {countsDown : Bool} {least greatest unit position margin : Rat}
  {count index first second : Nat}

/-- Of two tiles of a row, one ends before the other begins. -/
theorem lowerBound_apart (unit_pos : 0 < unit) (differ : first ≠ second) :
    lowerBound countsDown least greatest unit first + unit ≤
        lowerBound countsDown least greatest unit second ∨
      lowerBound countsDown least greatest unit second + unit ≤
        lowerBound countsDown least greatest unit first := by
  have steps {low high : Nat} (below : low < high) : (low + 1) * unit ≤ high * unit :=
    mul_le_mul_of_nonneg_right (by exact_mod_cast below) unit_pos.le
  simp only [lowerBound_rat]
  rcases Nat.lt_or_gt_of_ne differ with below | above
  · have := steps below
    cases countsDown with
    | false =>
        left
        simp only [Bool.false_eq_true, if_false]
        linarith
    | true =>
        right
        simp only [if_true]
        linarith
  · have := steps above
    cases countsDown with
    | false =>
        right
        simp only [Bool.false_eq_true, if_false]
        linarith
    | true =>
        left
        simp only [if_true]
        linarith

/-- A tile that begins within the span overlaps it. -/
theorem overlaps_lowerBound (countsDown : Bool) (unit_pos : 0 < unit)
    (inSpan : index * unit < greatest - least) :
    Overlaps (lowerBound countsDown least greatest unit index) unit least greatest := by
  have nonneg : 0 ≤ (index : Rat) * unit := by positivity
  rw [lowerBound_rat, Overlaps]
  cases countsDown with
  | false =>
      simp only [Bool.false_eq_true, if_false]
      constructor <;> linarith
  | true =>
      simp only [if_true]
      constructor <;> linarith

/-- The distance of a position from the side opposite to where the row begins. -/
def distanceToFarSide (countsDown : Bool) (least greatest position : Rat) : Rat :=
  if countsDown then position - least else greatest - position

/-- A length that is shorter than a row of units ends in one of them. -/
theorem exists_index_of_lt {length : Rat} (unit_pos : 0 < unit) (nonneg : 0 ≤ length)
    (short : length < count * unit) :
    ∃ index < count, index * unit ≤ length ∧ length < (index + 1) * unit := by
  obtain ⟨index, reached, unreached⟩ := exists_unit unit_pos nonneg
  have inRow : (index : Rat) < count :=
    lt_of_mul_lt_mul_right (lt_of_le_of_lt reached short) unit_pos.le
  exact ⟨index, by exact_mod_cast inRow, reached, unreached⟩

/-- A position of the span lies in a tile, unless it is too near to the far
side. -/
theorem exists_lowerBound_holds (unit_pos : 0 < unit) (above : least ≤ position)
    (below : position ≤ greatest) (covered : greatest - least - margin ≤ count * unit)
    (away : margin < distanceToFarSide countsDown least greatest position) :
    ∃ index < count, lowerBound countsDown least greatest unit index ≤ position ∧
      position ≤ lowerBound countsDown least greatest unit index + unit := by
  cases countsDown with
  | false =>
      simp only [distanceToFarSide, Bool.false_eq_true, if_false] at away
      obtain ⟨index, inRow, atLeast, beforeNext⟩ :=
        exists_index_of_lt unit_pos (sub_nonneg.mpr above) (lt_of_lt_of_le (by linarith) covered)
      refine ⟨index, inRow, ?_⟩
      simp only [lowerBound_rat, Bool.false_eq_true, if_false]
      constructor <;> linarith
  | true =>
      simp only [distanceToFarSide, if_true] at away
      obtain ⟨index, inRow, atLeast, beforeNext⟩ :=
        exists_index_of_lt unit_pos (sub_nonneg.mpr below) (lt_of_lt_of_le (by linarith) covered)
      refine ⟨index, inRow, ?_⟩
      simp only [lowerBound_rat, if_true]
      constructor <;> linarith

end Axis

/-! ## Both axes -/

section Levels

variable {pyramid : Pyramid Rat} {z : Nat} {resolution : Rat}

/-- The least numbers of tiles that cover the pyramid, a hundredth of a pixel
not counted, are 32-bit words. -/
structure HasWordCounts (pyramid : Pyramid Rat) (resolution : Rat) : Prop where
  columns : pyramid.extent.width - resolution / 100 ≤ word32Max * pyramid.unitX resolution
  rows : pyramid.extent.height - resolution / 100 ≤ word32Max * pyramid.unitY resolution

/-- The point is more than a distance away from the two sides opposite the
corner. -/
def IsAwayFromFarSides (pyramid : Pyramid Rat) (distance x y : Rat) : Prop :=
  distance < distanceToFarSide pyramid.origin.countsFromRight pyramid.extent.minX
      pyramid.extent.maxX x ∧
    distance < distanceToFarSide pyramid.origin.countsFromTop pyramid.extent.minY
      pyramid.extent.maxY y

/-- The tiles of a level divide the pyramid. -/
structure IsDivided (pyramid : Pyramid Rat) (z : Nat) (resolution : Rat) : Prop where
  /-- Different tiles do not intersect. -/
  apart : ∀ first second : TileIndex, first.z = z → second.z = z → first ≠ second →
    ∀ extent other, pyramid.tileExtent first = some extent →
      pyramid.tileExtent second = some other → extent.intersects other = false
  /-- No tile lies outside the pyramid. -/
  touching : ∀ tile : TileIndex, tile.z = z → ∀ extent, pyramid.tileExtent tile = some extent →
    extent.intersects pyramid.extent = true
  /-- Every point of the pyramid that is more than a hundredth of a pixel away
  from the sides opposite the corner lies in a tile. -/
  covering : ∀ x y, pyramid.extent.contains x y = true →
    pyramid.IsAwayFromFarSides (resolution / 100) x y → ∃ tile extent, tile.z = z ∧
      pyramid.tileExtent tile = some extent ∧ extent.contains x y = true

theorem intersects_eq_false (positive : pyramid.HasPositiveSizes)
    (level : pyramid.resolution? z = some resolution) {first second : TileIndex}
    (firstLevel : first.z = z) (secondLevel : second.z = z) (differ : first ≠ second)
    {extent other : Extent Rat} (located : pyramid.tileExtent first = some extent)
    (otherLocated : pyramid.tileExtent second = some other) :
    extent.intersects other = false := by
  obtain ⟨firstZ, firstX, firstY⟩ := first
  obtain ⟨secondZ, secondX, secondY⟩ := second
  obtain rfl : z = firstZ := firstLevel.symm
  obtain rfl : z = secondZ := secondLevel.symm
  have size := levelSize?_of_resolution? level
  obtain ⟨-, -, rfl⟩ := (tileExtent_eq_some_iff level size).mp located
  obtain ⟨-, -, rfl⟩ := (tileExtent_eq_some_iff level size).mp otherLocated
  rw [← Bool.not_eq_true, Extent.intersects_iff]
  rintro ⟨⟨beforeX, afterX⟩, beforeY, afterY⟩
  have differs : firstX ≠ secondX ∨ firstY ≠ secondY := by
    by_contra same
    rw [not_or, not_ne_iff, not_ne_iff] at same
    obtain ⟨rfl, rfl⟩ := same
    exact differ rfl
  rcases differs with column | row
  · rcases lowerBound_apart (positive.unitX_pos level) column with apart | apart
    · exact absurd afterX (not_lt.mpr apart)
    · exact absurd beforeX (not_lt.mpr apart)
  · rcases lowerBound_apart (positive.unitY_pos level) row with apart | apart
    · exact absurd afterY (not_lt.mpr apart)
    · exact absurd beforeY (not_lt.mpr apart)

theorem intersects_extent (positive : pyramid.HasPositiveSizes) {tile : TileIndex}
    {extent : Extent Rat} (located : pyramid.tileExtent tile = some extent) :
    extent.intersects pyramid.extent = true := by
  obtain ⟨resolution, columns, rows, level, size, inX, inY, minX, minY, maxX, maxY⟩ :=
    tileExtent_eq_some located
  have counts := size.symm.trans (levelSize?_of_resolution? level)
  obtain ⟨rfl, rfl⟩ := Prod.mk.inj (Option.some.inj counts)
  have resolved := positive.of_resolution? level
  have overX := overlaps_lowerBound pyramid.origin.countsFromRight (positive.unitX_pos level)
    (mul_lt_of_lt_tileCount positive.width_pos resolved positive.tileWidth_pos inX)
  have overY := overlaps_lowerBound pyramid.origin.countsFromTop (positive.unitY_pos level)
    (mul_lt_of_lt_tileCount positive.height_pos resolved positive.tileHeight_pos inY)
  rw [Extent.intersects_iff, maxX, maxY, minX, minY]
  exact ⟨overX, overY⟩

theorem exists_tile_contains (positive : pyramid.HasPositiveSizes)
    (level : pyramid.resolution? z = some resolution) (counts : pyramid.HasWordCounts resolution)
    {x y : Rat} (inside : pyramid.extent.contains x y = true)
    (away : pyramid.IsAwayFromFarSides (resolution / 100) x y) :
    ∃ tile extent, tile.z = z ∧ pyramid.tileExtent tile = some extent ∧
      extent.contains x y = true := by
  have resolved := positive.of_resolution? level
  have size := levelSize?_of_resolution? level
  obtain ⟨west, east, south, north⟩ := Extent.contains_iff.mp inside
  obtain ⟨column, inX, afterX, beforeX⟩ := exists_lowerBound_holds (positive.unitX_pos level) west
    east (le_tileCount_mul resolved positive.tileWidth_pos counts.columns) away.1
  obtain ⟨row, inY, afterY, beforeY⟩ := exists_lowerBound_holds (positive.unitY_pos level) south
    north (le_tileCount_mul resolved positive.tileHeight_pos counts.rows) away.2
  refine ⟨⟨z, column, row⟩, pyramid.extentAt resolution column row, rfl,
    (tileExtent_eq_some_iff level size).mpr ⟨inX, inY, rfl⟩, ?_⟩
  exact Extent.contains_iff.mpr ⟨afterX, beforeX, afterY, beforeY⟩

end Levels

/-- The tiles of a level lie apart, each touches the pyramid, and they cover all
of it but a hundredth of a pixel along the sides opposite the corner. -/
theorem isDivided (pyramid : Pyramid Rat) (positive : pyramid.HasPositiveSizes) (z : Nat)
    (resolution : Rat) (level : pyramid.resolution? z = some resolution)
    (counts : pyramid.HasWordCounts resolution) : pyramid.IsDivided z resolution where
  apart := fun _ _ firstLevel secondLevel differ _ _ located otherLocated =>
    intersects_eq_false positive level firstLevel secondLevel differ located otherLocated
  touching := fun _ _ _ located => intersects_extent positive located
  covering := fun _ _ inside away => exists_tile_contains positive level counts inside away

/-- Less than four columns and less than three rows, counted from the upper
right corner. -/
def raggedLevel : Pyramid Rat where
  name := "ragged"
  srs := "EPSG:3857"
  extent := ⟨0, 0, 1000, 700⟩
  tileWidth := 256
  tileHeight := 256
  resolutions := [1]
  elevationBlock := standardBlock
  origin := .topRight

/-- Its last column and its last row reach out to the left and below. -/
theorem isDivided_raggedLevel :
    raggedLevel.HasPositiveSizes ∧ raggedLevel.resolution? 0 = some 1 ∧
      raggedLevel.HasWordCounts 1 ∧
      raggedLevel.tileExtent ⟨0, 3, 2⟩ = some ⟨-24, -68, 232, 188⟩ ∧
      raggedLevel.IsDivided 0 1 := by
  have positive : raggedLevel.HasPositiveSizes :=
    ⟨by decide +kernel, by decide +kernel, by decide, by decide, by decide +kernel⟩
  have counts : raggedLevel.HasWordCounts 1 := ⟨by decide +kernel, by decide +kernel⟩
  exact ⟨positive, rfl, counts, by decide +kernel, isDivided raggedLevel positive 0 1 rfl counts⟩

end Pyramid

end TileAtlas
