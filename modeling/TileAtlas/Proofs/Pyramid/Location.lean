import TileAtlas.Proofs.Pyramid.Axis

/-!
Contract: from the extent of a tile back to the tile, in exact numbers.

Owns:
- `levelFor_resolution`: a request at the resolution of a level finds the level;
- `foundIndex_eq_iff`, one axis: when the index comes back;
- `tileAt_tileExtent_iff`, and a pyramid in which a tile is not found.

## Two rows of tiles

The extent of a tile is laid out from the side that the pyramid counts from.
The search counts from the lower left corner and then turns the index around.
Both rows of tiles are the same when they begin on the same side or fit the
pyramid, and otherwise only the last tile is sure to be found.
-/

namespace TileAtlas

namespace Pyramid

/-- Each resolution exceeds the next one by more than the tolerance. -/
def IsGraded (pyramid : Pyramid Rat) : Prop :=
  pyramid.resolutions.IsChain fun coarser finer => finer * (1 + resolutionTolerance) < coarser

section Levels

variable {pyramid : Pyramid Rat} {z : Nat} {resolution : Rat}

theorem limit_lt_of_lt (positive : pyramid.HasPositiveSizes) (graded : pyramid.IsGraded)
    {before : Nat} (isBefore : before < z) (inRange : z < pyramid.resolutions.length) :
    pyramid.resolutions[z] * (1 + resolutionTolerance) < pyramid.resolutions[before] := by
  have steps := List.isChain_iff_getElem.mp graded
  induction z, isBefore using Nat.le_induction with
  | base => exact steps before inRange
  | succ z isBefore inductionHypothesis =>
      have inRange' : z < pyramid.resolutions.length := by omega
      have resolved := positive.resolution_pos _ (List.getElem_mem inRange')
      have less : pyramid.resolutions[z] ≤ pyramid.resolutions[z] * (1 + resolutionTolerance) := by
        rw [resolutionTolerance_rat]
        linarith
      calc pyramid.resolutions[z + 1] * (1 + resolutionTolerance)
          < pyramid.resolutions[z] := steps z inRange
        _ ≤ pyramid.resolutions[z] * (1 + resolutionTolerance) := less
        _ < pyramid.resolutions[before] := inductionHypothesis inRange'

theorem levelFor_resolution (positive : pyramid.HasPositiveSizes) (graded : pyramid.IsGraded)
    (level : pyramid.resolution? z = some resolution) :
    pyramid.levelFor resolution = some (z, resolution) := by
  obtain ⟨inRange, rfl⟩ := List.getElem?_eq_some_iff.mp level
  have one : (1.0 : Rat) = 1 := by norm_num
  have resolved := positive.of_resolution? level
  have found : pyramid.resolutions.zipIdx.find? (fun entry =>
      !decide (pyramid.resolutions[z] * (1 + resolutionTolerance) < entry.1)) =
        some (pyramid.resolutions[z], z) := by
    rw [List.find?_eq_some_iff_getElem]
    refine ⟨?_, z, by simpa using inRange, by simp, fun before isBefore => ?_⟩
    · rw [resolutionTolerance_rat]
      simp only [Bool.not_eq_true', decide_eq_false_iff_not, not_lt]
      linarith
    · simpa using limit_lt_of_lt positive graded isBefore inRange
  simp only [levelFor, one, found, Option.map_some]

theorem requestedResolution_of_units {extent : Extent Rat} {width height : Nat}
    (wide : 0 < width) (high : 0 < height) (isWide : extent.width = resolution * width)
    (isHigh : extent.height = resolution * height) :
    requestedResolution extent width height = resolution := by
  have width_ne : (width : Rat) ≠ 0 := Nat.cast_ne_zero.mpr wide.ne'
  have height_ne : (height : Rat) ≠ 0 := Nat.cast_ne_zero.mpr high.ne'
  unfold requestedResolution
  rw [Scalar.larger_rat, Scalar.ofNat_rat, Scalar.ofNat_rat, Nat.max_eq_left wide,
    Nat.max_eq_left high, isWide, isHigh, mul_div_cancel_right₀ _ width_ne,
    mul_div_cancel_right₀ _ height_ne, max_self]

end Levels

/-! ## One axis -/

/-- The index of the tile at the lower bound of a tile, both counted from the
same side. -/
def foundIndex (countsDown : Bool) (least greatest unit : Rat) (count index : Nat) : Nat :=
  let found := indexAt (lowerBound countsDown least greatest unit index - least) unit
  if countsDown then oppositeIndex count found else found

/-- The tile is the last one, or all tiles end within the tolerance of the far
side.  Beyond the greatest count of tiles, only the first one is found. -/
def ComesBack (span unit : Rat) (count index : Nat) : Prop :=
  (index + 1 = count ∨ count * unit ≤ span + resolutionTolerance * unit) ∧
    (index = 0 ∨ span + resolutionTolerance * unit < (count + 1) * unit)

theorem foundIndex_up {least greatest unit : Rat} {count index : Nat} (unit_pos : 0 < unit)
    (inRange : index < word32Max) : foundIndex false least greatest unit count index = index := by
  have offset : lowerBound false least greatest unit index - least = index * unit := by
    rw [lowerBound_rat]
    simp
  have floored : ⌊(index : Rat) * unit / unit + resolutionTolerance⌋ = index := by
    rw [mul_div_cancel_right₀ _ unit_pos.ne', resolutionTolerance_rat, Int.floor_eq_iff]
    constructor <;> push_cast <;> linarith
  have found := indexAt_rat (index * unit) unit
  rw [floored] at found
  simp only [foundIndex, offset, Bool.false_eq_true, if_false]
  omega

theorem foundIndex_down_eq_iff {least greatest unit : Rat} {count index : Nat}
    (unit_pos : 0 < unit) (spanned : least < greatest) (inRange : index < count)
    (counted : count ≤ word32Max) :
    foundIndex true least greatest unit count index = index ↔
      ComesBack (greatest - least) unit count index := by
  have offset : (lowerBound true least greatest unit index - least) / unit + resolutionTolerance =
      (greatest - least) / unit + resolutionTolerance - ((index + 1 : Nat) : Int) := by
    rw [lowerBound_rat]
    push_cast
    field_simp
    simp only [if_true]
    ring
  have found := indexAt_rat (lowerBound true least greatest unit index - least) unit
  rw [offset, Int.floor_sub_intCast] at found
  have covered_nonneg := floor_offset_nonneg unit_pos (sub_pos.mpr spanned).le
  -- both conditions say where the last whole tile ends
  unfold ComesBack
  rw [mul_le_offset_iff unit_pos, offset_lt_mul_iff unit_pos]
  simp only [foundIndex, if_true, oppositeIndex]
  generalize ⌊(greatest - least) / unit + resolutionTolerance⌋ = covered at *
  unfold word32Max at *
  omega

theorem foundIndex_eq_iff (countsDown : Bool) {least greatest unit : Rat} {count index : Nat}
    (unit_pos : 0 < unit) (spanned : least < greatest) (inRange : index < count)
    (counted : count ≤ word32Max) :
    foundIndex countsDown least greatest unit count index = index ↔
      (countsDown = true → ComesBack (greatest - least) unit count index) := by
  cases countsDown with
  | false => simpa using foundIndex_up unit_pos (Nat.lt_of_lt_of_le inRange counted)
  | true => simpa using foundIndex_down_eq_iff unit_pos spanned inRange counted

/-! ## Tiles -/

section Tiles

variable {pyramid : Pyramid Rat} {tile : TileIndex} {extent : Extent Rat} {resolution : Rat}
  {columns rows : Nat}

theorem tileAt_tileExtent (positive : pyramid.HasPositiveSizes) (graded : pyramid.IsGraded)
    (level : pyramid.resolution? tile.z = some resolution)
    (size : pyramid.levelSize? tile.z = some (columns, rows))
    (located : pyramid.tileExtent tile = some extent) :
    pyramid.tileAt extent pyramid.tileWidth pyramid.tileHeight =
      ⟨tile.z,
        foundIndex pyramid.origin.countsFromRight pyramid.extent.minX pyramid.extent.maxX
          (pyramid.unitX resolution) columns tile.x,
        foundIndex pyramid.origin.countsFromTop pyramid.extent.minY pyramid.extent.maxY
          (pyramid.unitY resolution) rows tile.y⟩ := by
  obtain ⟨_, _, _, sameLevel, sameSize, -, -, minX, minY, maxX, maxY⟩ :=
    tileExtent_eq_some located
  obtain rfl := Option.some.inj (level.symm.trans sameLevel)
  obtain ⟨rfl, rfl⟩ := Prod.mk.inj (Option.some.inj (size.symm.trans sameSize))
  have requested :
      requestedResolution extent pyramid.tileWidth pyramid.tileHeight = resolution := by
    refine requestedResolution_of_units positive.tileWidth_pos positive.tileHeight_pos ?_ ?_
    · rw [Extent.width, maxX, add_sub_cancel_left, unitX]
    · rw [Extent.height, maxY, add_sub_cancel_left, unitY]
  have unitX_eq : resolution * Scalar.ofNat pyramid.tileWidth = pyramid.unitX resolution := rfl
  have unitY_eq : resolution * Scalar.ofNat pyramid.tileHeight = pyramid.unitY resolution := rfl
  simp only [tileAt, tileForExtent, requested, levelFor_resolution positive graded level, size,
    minX, minY, unitX_eq, unitY_eq, foundIndex]
  cases pyramid.origin.countsFromRight <;> cases pyramid.origin.countsFromTop <;> rfl

end Tiles

/-- The extent of a tile leads back to the tile exactly when on each axis that
is counted from the far side the index comes back. -/
theorem tileAt_tileExtent_iff (pyramid : Pyramid Rat) (positive : pyramid.HasPositiveSizes)
    (graded : pyramid.IsGraded) (tile : TileIndex) (extent : Extent Rat)
    (located : pyramid.tileExtent tile = some extent) :
    ∃ resolution columns rows, pyramid.resolution? tile.z = some resolution ∧
      pyramid.levelSize? tile.z = some (columns, rows) ∧
      (pyramid.tileAt extent pyramid.tileWidth pyramid.tileHeight = tile ↔
        (pyramid.origin.countsFromRight = true →
          ComesBack pyramid.extent.width (pyramid.unitX resolution) columns tile.x) ∧
        (pyramid.origin.countsFromTop = true →
          ComesBack pyramid.extent.height (pyramid.unitY resolution) rows tile.y)) := by
  obtain ⟨resolution, columns, rows, level, size, inX, inY, -⟩ := tileExtent_eq_some located
  have counts := size.symm.trans (levelSize?_of_resolution? level)
  obtain ⟨isColumns, isRows⟩ := Prod.mk.inj (Option.some.inj counts)
  have foundX := foundIndex_eq_iff pyramid.origin.countsFromRight
    (positive.unitX_pos level) (sub_pos.mp positive.width_pos) inX (isColumns ▸ tileCount_le _ _ _)
  have foundY := foundIndex_eq_iff pyramid.origin.countsFromTop
    (positive.unitY_pos level) (sub_pos.mp positive.height_pos) inY (isRows ▸ tileCount_le _ _ _)
  refine ⟨resolution, columns, rows, level, size, ?_⟩
  rw [tileAt_tileExtent positive graded level size located, Extent.width, Extent.height, ← foundX,
    ← foundY]
  cases tile
  simp

/-- One and a half rows of tiles, counted from the top. -/
def halfRow : Pyramid Rat where
  name := "half"
  srs := "EPSG:3857"
  extent := ⟨0, 0, 256, 384⟩
  tileWidth := 256
  tileHeight := 256
  resolutions := [1]
  elevationBlock := standardBlock
  origin := .topLeft

theorem halfRow_hasPositiveSizes : halfRow.HasPositiveSizes where
  width_pos := by decide +kernel
  height_pos := by decide +kernel
  tileWidth_pos := by decide
  tileHeight_pos := by decide
  resolution_pos := by decide +kernel

theorem halfRow_isGraded : halfRow.IsGraded := List.isChain_singleton 1

/-- The last row is found, although it reaches out of the pyramid. -/
theorem tileAt_tileExtent_lastRow :
    halfRow.HasPositiveSizes ∧ halfRow.IsGraded ∧
      halfRow.tileExtent ⟨0, 0, 1⟩ = some ⟨0, -128, 256, 128⟩ ∧
      halfRow.tileAt ⟨0, -128, 256, 128⟩ 256 256 = ⟨0, 0, 1⟩ := by
  have located : halfRow.tileExtent ⟨0, 0, 1⟩ = some ⟨0, -128, 256, 128⟩ := by decide +kernel
  obtain ⟨resolution, columns, rows, level, size, found⟩ := tileAt_tileExtent_iff halfRow
    halfRow_hasPositiveSizes halfRow_isGraded ⟨0, 0, 1⟩ ⟨0, -128, 256, 128⟩ located
  have counts : halfRow.levelSize? 0 = some (1, 2) := by decide +kernel
  obtain ⟨rfl, rfl⟩ := Prod.mk.inj (Option.some.inj (counts.symm.trans size))
  obtain rfl := Option.some.inj ((show halfRow.resolution? 0 = some 1 from rfl).symm.trans level)
  refine ⟨halfRow_hasPositiveSizes, halfRow_isGraded, located, found.mpr ⟨nofun, fun _ => ?_⟩⟩
  exact ⟨.inl rfl, .inr (by decide +kernel)⟩

/-- The first row is not: the search begins at the lower left corner, where the
last one reaches out. -/
theorem not_forall_tileAt_tileExtent :
    ¬∀ pyramid : Pyramid Rat, pyramid.HasPositiveSizes → pyramid.IsGraded →
      ∀ tile extent, pyramid.tileExtent tile = some extent →
        pyramid.tileAt extent pyramid.tileWidth pyramid.tileHeight = tile := by
  intro claimed
  have found := claimed halfRow halfRow_hasPositiveSizes halfRow_isGraded ⟨0, 0, 0⟩
    ⟨0, 128, 256, 384⟩ (by decide +kernel)
  exact absurd found (by decide +kernel)

end Pyramid

end TileAtlas
