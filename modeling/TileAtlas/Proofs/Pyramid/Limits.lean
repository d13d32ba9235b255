import TileAtlas.Proofs.Geometry.Box
import TileAtlas.Proofs.Pyramid.Axis

/-!
Contract: the tiles that an extent touches, in exact numbers.

Owns:
- `mem_listed_iff`, one axis: the indices between two offsets are those of the
  intervals of a row that begins at the lower end;
- `forall_overlap_iff`: two intervals of one length that overlap the same others
  are the same;
- `listsTouched_iff`, and a pyramid in which the wrong tile is listed.

An interval that only touches another does not overlap it.
-/

namespace TileAtlas

/-- Whether a tile is listed. -/
def TileLimits.Contains (limits : TileLimits) (x y : Nat) : Prop :=
  (limits.minX ≤ x ∧ x < limits.maxX) ∧ limits.minY ≤ y ∧ y < limits.maxY

namespace Pyramid

/-! ## One axis -/

/-- An interval of a length has more than an end in common with `low .. high`. -/
def Overlaps (start length low high : Rat) : Prop := start < high ∧ low < start + length

theorem forall_overlap_iff {start other length : Rat} (positive : 0 < length) :
    (∀ low high, low < high → (Overlaps start length low high ↔ Overlaps other length low high)) ↔
      start = other := by
  constructor
  · intro same
    rcases lt_trichotomy start other with less | equal | greater
    · have overlaps := (same start other less).mp ⟨less, by linarith⟩
      exact absurd overlaps.1 (lt_irrefl other)
    · exact equal
    · have overlaps := (same other start greater).mpr ⟨greater, by linarith⟩
      exact absurd overlaps.1 (lt_irrefl start)
  · rintro rfl low high -
    rfl

/-- An index counted from the lower end of a row. -/
def upwardIndex (countsDown : Bool) (count index : Nat) : Nat :=
  if countsDown then oppositeIndex count index else index

/-- The indices that are listed along one axis. -/
def listed (countsDown : Bool) (least unit low high : Rat) (count : Nat) : Nat × Nat :=
  let upward := indexRange low high least unit count
  if countsDown then oppositeRange count upward else upward

section Axis

variable {countsDown : Bool} {least greatest unit low high : Rat} {count index : Nat}

theorem mem_indexRange_iff (unit_pos : 0 < unit) (inRange : index < count)
    (counted : count ≤ word32Max) :
    ((indexRange low high least unit count).1 ≤ index ∧
        index < (indexRange low high least unit count).2) ↔
      Overlaps (least + index * unit) unit low high := by
  have fromFloor : (indexRange low high least unit count).1 ≤ index ↔
      ⌊(low - least) / unit⌋ < (index : Int) + 1 := by
    simp only [indexRange, clampToCount, Scalar.floorToInt64_rat]
    unfold word32Max at counted
    unfold int64Min int64Max
    omega
  have toCeiling : index < (indexRange low high least unit count).2 ↔
      (index : Int) < ⌈(high - least) / unit⌉ := by
    simp only [indexRange, clampToCount, Scalar.ceilToInt64_rat]
    unfold word32Max at counted
    unfold int64Min int64Max
    omega
  rw [fromFloor, toCeiling, Int.floor_lt, Int.lt_ceil, div_lt_iff₀ unit_pos, lt_div_iff₀ unit_pos,
    Overlaps]
  push_cast
  constructor
  · rintro ⟨lower, upper⟩
    exact ⟨by linarith, by linarith⟩
  · rintro ⟨upper, lower⟩
    exact ⟨by linarith, by linarith⟩

theorem mem_listed_iff (unit_pos : 0 < unit) (inRange : index < count)
    (counted : count ≤ word32Max) :
    ((listed countsDown least unit low high count).1 ≤ index ∧
        index < (listed countsDown least unit low high count).2) ↔
      Overlaps (least + upwardIndex countsDown count index * unit) unit low high := by
  cases countsDown with
  | false => exact mem_indexRange_iff unit_pos inRange counted
  | true =>
      have opposite : oppositeIndex count index < count := by
        unfold oppositeIndex
        omega
      simp only [upwardIndex, listed, if_true]
      rw [← mem_indexRange_iff unit_pos opposite counted]
      unfold oppositeRange oppositeIndex
      omega

theorem listed_le : (listed countsDown least unit low high count).2 ≤ count := by
  cases countsDown with
  | false => exact Nat.min_le_right _ _
  | true => exact Nat.sub_le _ _

/-- A row of tiles that begins at the upper end is one that begins at the lower
end only if it fits. -/
theorem lowerBound_eq_iff (inRange : index < count) :
    lowerBound countsDown least greatest unit index =
        least + upwardIndex countsDown count index * unit ↔
      (countsDown = true → count * unit = greatest - least) := by
  rw [lowerBound_rat]
  cases countsDown with
  | false => simp [upwardIndex]
  | true =>
      have opposite : ((oppositeIndex count index : Nat) : Rat) = count - 1 - index := by
        rw [oppositeIndex, Nat.cast_sub (by omega), Nat.cast_sub (by omega), Nat.cast_one]
      simp only [upwardIndex, if_true, opposite, forall_const]
      constructor <;> intro same <;> linarith

/-- Every listing takes in an interval that is wide enough. -/
theorem exists_overlaps (start other : Rat) (positive : 0 < unit) :
    ∃ low high, low < high ∧ Overlaps start unit low high ∧ Overlaps other unit low high := by
  refine ⟨min start other, max start other + unit, ?_, ⟨?_, ?_⟩, ?_, ?_⟩
  · linarith [min_le_left start other, le_max_left start other]
  · linarith [le_max_left start other]
  · linarith [min_le_left start other]
  · linarith [le_max_right start other]
  · linarith [min_le_right start other]

end Axis

/-! ## Tiles -/

/-- The limits of an extent contain exactly the tiles that the extent overlaps. -/
def ListsTouched (pyramid : Pyramid Rat) (z : Nat) : Prop :=
  ∀ extent : Extent Rat, extent.minX < extent.maxX → extent.minY < extent.maxY →
    ∃ limits, pyramid.tileLimits extent z = some limits ∧
      ∀ x y, (∃ tileExtent, pyramid.tileExtent ⟨z, x, y⟩ = some tileExtent ∧
        tileExtent.intersects extent = true) ↔ limits.Contains x y

section Tiles

variable {pyramid : Pyramid Rat} {z : Nat} {resolution : Rat} {columns rows : Nat}

theorem tileLimits_eq (level : pyramid.resolution? z = some resolution)
    (size : pyramid.levelSize? z = some (columns, rows)) (extent : Extent Rat) :
    pyramid.tileLimits extent z =
      let x := listed pyramid.origin.countsFromRight pyramid.extent.minX (pyramid.unitX resolution)
        extent.minX extent.maxX columns
      let y := listed pyramid.origin.countsFromTop pyramid.extent.minY (pyramid.unitY resolution)
        extent.minY extent.maxY rows
      some ⟨x.1, y.1, x.2, y.2⟩ := by
  rw [tileLimits, level, size]
  rfl

theorem exists_touched_iff (level : pyramid.resolution? z = some resolution)
    (size : pyramid.levelSize? z = some (columns, rows)) (extent : Extent Rat) (x y : Nat) :
    (∃ tileExtent, pyramid.tileExtent ⟨z, x, y⟩ = some tileExtent ∧
        tileExtent.intersects extent = true) ↔
      (x < columns ∧ y < rows) ∧
        Overlaps (pyramid.startX resolution x) (pyramid.unitX resolution) extent.minX extent.maxX ∧
        Overlaps (pyramid.startY resolution y) (pyramid.unitY resolution)
          extent.minY extent.maxY := by
  rw [exists_tileExtent_iff level size, Extent.intersects_iff]
  exact Iff.rfl

end Tiles

/-- A level lists the tiles that an extent touches exactly when along each axis
the tiles are counted from the lower end or fit. -/
theorem listsTouched_iff (pyramid : Pyramid Rat) (positive : pyramid.HasPositiveSizes) (z : Nat)
    (resolution : Rat) (columns rows : Nat) (level : pyramid.resolution? z = some resolution)
    (size : pyramid.levelSize? z = some (columns, rows)) :
    pyramid.ListsTouched z ↔
      (pyramid.origin.countsFromRight = true →
        columns * pyramid.unitX resolution = pyramid.extent.width) ∧
      (pyramid.origin.countsFromTop = true →
        rows * pyramid.unitY resolution = pyramid.extent.height) := by
  have unitX_pos := positive.unitX_pos level
  have unitY_pos := positive.unitY_pos level
  have counts := size.symm.trans (levelSize?_of_resolution? level)
  obtain ⟨isColumns, isRows⟩ := Prod.mk.inj (Option.some.inj counts)
  have countedX : columns ≤ word32Max := isColumns ▸ tileCount_le _ _ _
  have countedY : rows ≤ word32Max := isRows ▸ tileCount_le _ _ _
  have someX : 0 < columns := isColumns ▸ tileCount_pos _ _ _
  have someY : 0 < rows := isRows ▸ tileCount_pos _ _ _
  constructor
  · intro lists
    have firstTile : ∀ extent : Extent Rat, extent.minX < extent.maxX → extent.minY < extent.maxY →
        (Overlaps (pyramid.startX resolution 0) (pyramid.unitX resolution) extent.minX extent.maxX ∧
            Overlaps (pyramid.startY resolution 0) (pyramid.unitY resolution) extent.minY
              extent.maxY ↔
          Overlaps (pyramid.extent.minX + upwardIndex pyramid.origin.countsFromRight columns 0 *
              pyramid.unitX resolution) (pyramid.unitX resolution) extent.minX extent.maxX ∧
            Overlaps (pyramid.extent.minY + upwardIndex pyramid.origin.countsFromTop rows 0 *
              pyramid.unitY resolution) (pyramid.unitY resolution) extent.minY extent.maxY) := by
      intro extent orderedX orderedY
      obtain ⟨limits, limited, exactly⟩ := lists extent orderedX orderedY
      obtain rfl := Option.some.inj ((tileLimits_eq level size extent).symm.trans limited)
      have same := exactly 0 0
      rw [exists_touched_iff level size, and_iff_right ⟨someX, someY⟩, TileLimits.Contains,
        mem_listed_iff unitX_pos someX countedX, mem_listed_iff unitY_pos someY countedY] at same
      exact same
    -- within a strip that is wide along one axis, the tiles tell themselves apart along the other
    refine ⟨(lowerBound_eq_iff someX).mp ((forall_overlap_iff unitX_pos).mp ?_),
      (lowerBound_eq_iff someY).mp ((forall_overlap_iff unitY_pos).mp ?_)⟩
    · intro low high ordered
      obtain ⟨bottom, top, strip, touched, isListed⟩ := exists_overlaps
        (pyramid.startY resolution 0) (pyramid.extent.minY +
          upwardIndex pyramid.origin.countsFromTop rows 0 * pyramid.unitY resolution) unitY_pos
      have same := firstTile ⟨low, bottom, high, top⟩ ordered strip
      rw [and_iff_left touched, and_iff_left isListed] at same
      exact same
    · intro low high ordered
      obtain ⟨left, right, strip, touched, isListed⟩ := exists_overlaps
        (pyramid.startX resolution 0) (pyramid.extent.minX +
          upwardIndex pyramid.origin.countsFromRight columns 0 * pyramid.unitX resolution) unitX_pos
      have same := firstTile ⟨left, low, right, high⟩ strip ordered
      rw [and_iff_right touched, and_iff_right isListed] at same
      exact same
  · rintro ⟨fitsX, fitsY⟩ extent - -
    refine ⟨_, tileLimits_eq level size extent, fun x y => ?_⟩
    rw [exists_touched_iff level size, TileLimits.Contains]
    by_cases inside : x < columns ∧ y < rows
    · rw [mem_listed_iff unitX_pos inside.1 countedX, mem_listed_iff unitY_pos inside.2 countedY,
        ← (lowerBound_eq_iff inside.1).mpr fitsX, ← (lowerBound_eq_iff inside.2).mpr fitsY]
      exact and_iff_right inside
    · refine iff_of_false (fun touched => inside touched.1) ?_
      rintro ⟨⟨-, inX⟩, -, inY⟩
      exact inside ⟨Nat.lt_of_lt_of_le inX listed_le, Nat.lt_of_lt_of_le inY listed_le⟩

/-- The four tiles of level 1 fit the Web Mercator square. -/
theorem listsTouched_webMercator :
    (webMercator : Pyramid Rat).HasPositiveSizes ∧
      (webMercator : Pyramid Rat).resolution? 1 = some (halfEarth / 256) ∧
      (webMercator : Pyramid Rat).levelSize? 1 = some (2, 2) ∧
      (webMercator : Pyramid Rat).ListsTouched 1 := by
  have positive := webMercator_hasPositiveSizes
  have level : (webMercator : Pyramid Rat).resolution? 1 = some (halfEarth / 256) := by
    decide +kernel
  have size : (webMercator : Pyramid Rat).levelSize? 1 = some (2, 2) := by decide +kernel
  refine ⟨positive, level, size, (listsTouched_iff webMercator positive 1 _ 2 2 level size).mpr ?_⟩
  exact ⟨fun _ => by decide +kernel, fun _ => by decide +kernel⟩

/-- One and a half columns of tiles, counted from the right. -/
def halfColumn : Pyramid Rat where
  name := "half"
  srs := "EPSG:3857"
  extent := ⟨0, 0, 384, 256⟩
  tileWidth := 256
  tileHeight := 256
  resolutions := [1]
  elevationBlock := standardBlock
  origin := .bottomRight

/-- An extent in the first tile alone, for which the second one is listed. -/
theorem not_forall_listsTouched :
    ¬∀ pyramid : Pyramid Rat, pyramid.HasPositiveSizes →
      ∀ z, (pyramid.resolution? z).isSome = true → pyramid.ListsTouched z := by
  intro claimed
  have positive : halfColumn.HasPositiveSizes :=
    ⟨by decide +kernel, by decide +kernel, by decide, by decide, by decide +kernel⟩
  obtain ⟨limits, limited, exactly⟩ := claimed halfColumn positive 0 rfl ⟨130, 0, 140, 256⟩
    (by decide +kernel) (by decide +kernel)
  have second : halfColumn.tileLimits ⟨130, 0, 140, 256⟩ 0 = some ⟨1, 0, 2, 1⟩ := by decide +kernel
  obtain rfl := Option.some.inj (second.symm.trans limited)
  have first := (exactly 0 0).mp ⟨⟨128, 0, 384, 256⟩, by decide +kernel, by decide +kernel⟩
  exact absurd first.1.1 (by decide)

end Pyramid

end TileAtlas
