import TileAtlas.Proofs.Geometry.Box
import TileAtlas.Proofs.Pyramid.Limits
import TileAtlas.Tileset

/-!
Contract: the tile that a map request is resolved to, in exact numbers.

Owns:
- `IsCoarsestFor` and `levelFor_spec`: the level of a request;
- `Lookup`, one axis of a request, and `holds_found_iff`, when the tile that is
  found there holds the corner of the request;
- `resolve_map_iff`, and a request for which another tile is found.

## Tiles and cells

The lower left corner of a request lies in a tile.  It also lies in a cell of
another row, which begins at the lower left corner of the pyramid and has cells
of as many pixels as the request.  The number of the cell is what is found, so
both rows have to number the corner alike.  They do so when the request is as
large as a tile, the row of tiles begins at the lower end or fits, and the
corner lies short of the end of the last tile.
-/

namespace TileAtlas

namespace Pyramid

/-! ## Levels -/

/-- Each resolution is finer than the one before. -/
def IsDecreasing (pyramid : Pyramid Rat) : Prop :=
  pyramid.resolutions.Pairwise fun coarser finer => finer < coarser

theorem webMercator_isDecreasing : (webMercator : Pyramid Rat).IsDecreasing := by
  unfold IsDecreasing
  decide +kernel

/-- The coarsest level that is not coarser than a request, up to the
tolerance. -/
structure IsCoarsestFor (pyramid : Pyramid Rat) (requested : Rat) (z : Nat) (resolution : Rat) :
    Prop where
  level : pyramid.resolution? z = some resolution
  fine : resolution ≤ requested * (1 + resolutionTolerance)
  coarsest : ∀ other ∈ pyramid.resolutions, other ≤ requested * (1 + resolutionTolerance) →
    other ≤ resolution

theorem levelFor_spec {pyramid : Pyramid Rat} {requested : Rat}
    (decreasing : pyramid.IsDecreasing)
    (matched : ∃ resolution ∈ pyramid.resolutions,
      resolution ≤ requested * (1 + resolutionTolerance)) :
    ∃ z resolution, pyramid.levelFor requested = some (z, resolution) ∧
      pyramid.IsCoarsestFor requested z resolution := by
  have one : (1.0 : Rat) = 1 := by norm_num
  obtain ⟨fineEnough, member, fine⟩ := matched
  cases found : pyramid.resolutions.zipIdx.find? (fun entry =>
      !decide (requested * (1 + resolutionTolerance) < entry.1)) with
  | none =>
      obtain ⟨index, inRange, rfl⟩ := List.getElem_of_mem member
      have refused : requested * (1 + resolutionTolerance) < pyramid.resolutions[index] := by
        simpa using List.find?_eq_none.mp found (pyramid.resolutions[index], index)
          (List.mk_mem_zipIdx_iff_getElem?.mpr (List.getElem?_eq_getElem inRange))
      exact absurd refused (not_lt.mpr fine)
  | some entry =>
      obtain ⟨accepted, z, inRange, isEntry, before⟩ := List.find?_eq_some_iff_getElem.mp found
      rw [List.length_zipIdx] at inRange
      rw [List.getElem_zipIdx] at isEntry
      subst isEntry
      refine ⟨z, pyramid.resolutions[z], ?_, List.getElem?_eq_getElem inRange, ?_, ?_⟩
      · simp only [levelFor, one, found, Option.map_some, Nat.zero_add]
      · simpa using accepted
      · intro other otherMember otherFine
        obtain ⟨index, inList, rfl⟩ := List.getElem_of_mem otherMember
        rcases Nat.lt_or_ge index z with earlier | later
        · have refused : requested * (1 + resolutionTolerance) < pyramid.resolutions[index] := by
            simpa using before index earlier
          exact absurd refused (not_lt.mpr otherFine)
        · rcases Nat.eq_or_lt_of_le later with rfl | after
          · exact le_refl _
          · exact (List.pairwise_iff_getElem.mp decreasing z index inRange inList after).le

/-! ## One axis -/

/-- One axis of a request: the row of tiles along it, the cells that a position
is looked up by, and the corner of the request. -/
structure Lookup where
  /-- The row of tiles begins at the upper end. -/
  countsDown : Bool
  /-- The length of the pyramid. -/
  span : Rat
  /-- The length of a tile. -/
  unit : Rat
  /-- The number of tiles. -/
  count : Nat
  /-- The length of as many pixels as the request has. -/
  cell : Rat
  /-- By how much the corner may lie outside of a tile that holds it. -/
  slack : Rat
  /-- From the lower end of the pyramid to the corner. -/
  offset : Rat

namespace Lookup

variable (lookup : Lookup)

/-- The axis from `least` to `greatest` of a level with `count` tiles of
`tileSize` pixels, for a request of `pixels` with its corner at `position`. -/
def ofAxis (countsDown : Bool) (least greatest resolution : Rat) (tileSize count pixels : Nat)
    (position : Rat) : Lookup where
  countsDown := countsDown
  span := greatest - least
  unit := resolution * tileSize
  count := count
  cell := resolution * pixels
  slack := resolutionTolerance * (resolution * tileSize) + resolution / 100
  offset := position - least

/-- The index that is found. -/
def found : Nat :=
  let counted := indexAt lookup.offset lookup.cell
  if lookup.countsDown then oppositeIndex lookup.count counted else counted

/-- Where a tile begins, from the lower end of the pyramid. -/
def start (index : Nat) : Rat :=
  lowerBound lookup.countsDown 0 lookup.span lookup.unit index

/-- The index is one of a tile, and the tile holds the corner, half-open and up
to the slack. -/
def Holds (index : Nat) : Prop :=
  index < lookup.count ∧ lookup.start index - lookup.slack ≤ lookup.offset ∧
    lookup.offset < lookup.start index + lookup.unit + lookup.slack

/-- What is left of the pyramid below all tiles; less than nothing if they reach
out of it. -/
def base : Rat := if lookup.countsDown then lookup.span - lookup.count * lookup.unit else 0

/-- The corner lies in cell `number`, up to the tolerance.  A row that begins at
the upper end takes the last number for all cells behind it. -/
def IsInCell (number : Nat) : Prop :=
  number * lookup.cell ≤ lookup.offset + resolutionTolerance * lookup.cell ∧
    (lookup.offset + resolutionTolerance * lookup.cell < (number + 1) * lookup.cell ∨
      lookup.countsDown = true ∧ number + 1 = lookup.count)

/-- The corner lies in tile `number`, counted from the lower end, up to the
slack. -/
def IsInTile (number : Nat) : Prop :=
  lookup.base + number * lookup.unit - lookup.slack ≤ lookup.offset ∧
    lookup.offset < lookup.base + (number + 1) * lookup.unit + lookup.slack

/-- The tile and the cell of the corner have the same number. -/
def Agrees : Prop := ∃ number < lookup.count, lookup.IsInCell number ∧ lookup.IsInTile number

/-- The request is as long as a tile.  The tiles fit the pyramid, up to the
slack, if they begin at the upper end.  Otherwise the corner does not reach the
end of the last tile. -/
structure IsRegular (margin : Rat) : Prop where
  own : lookup.cell = lookup.unit
  fits : lookup.countsDown = true → -lookup.slack ≤ lookup.base ∧ lookup.base ≤ margin
  short : lookup.countsDown = false →
    lookup.offset + resolutionTolerance * lookup.unit < lookup.count * lookup.unit

section Laws

variable {lookup} {number : Nat}

theorem holds_ofAxis_iff (countsDown : Bool) (least greatest resolution : Rat)
    (tileSize count pixels : Nat) (position : Rat) (index : Nat) :
    (ofAxis countsDown least greatest resolution tileSize count pixels position).Holds index ↔
      index < count ∧
        lowerBound countsDown least greatest (resolution * tileSize) index -
            (resolutionTolerance * (resolution * tileSize) + resolution / 100) ≤ position ∧
          position < lowerBound countsDown least greatest (resolution * tileSize) index +
            resolution * tileSize +
              (resolutionTolerance * (resolution * tileSize) + resolution / 100) := by
  have shifted : lowerBound countsDown least greatest (resolution * tileSize) index =
      least + lowerBound countsDown 0 (greatest - least) (resolution * tileSize) index := by
    simp only [lowerBound_rat]
    split <;> ring
  rw [shifted]
  unfold Holds start ofAxis
  refine and_congr_right fun _ => and_congr ?_ ?_
  · rw [le_sub_iff_add_le, add_comm, add_sub_assoc]
  · rw [sub_lt_iff_lt_add', add_assoc, add_assoc, add_assoc]

theorem start_eq_base_add (inRow : number < lookup.count) :
    lookup.start number =
      lookup.base + upwardIndex lookup.countsDown lookup.count number * lookup.unit := by
  unfold start base upwardIndex
  rw [lowerBound_rat]
  cases lookup.countsDown with
  | false => simp
  | true =>
      have opposite : ((oppositeIndex lookup.count number : Nat) : Rat) =
          lookup.count - 1 - number := by
        rw [oppositeIndex, Nat.cast_sub (by omega), Nat.cast_sub (by omega), Nat.cast_one]
      simp only [if_true, opposite]
      ring

/-- The number of the cell is the index that is found, counted from the lower
end. -/
theorem isInCell_iff (cell_pos : 0 < lookup.cell) (nonneg : 0 ≤ lookup.offset)
    (counted : lookup.count ≤ word32Max) (inRow : number < lookup.count) :
    lookup.IsInCell number ↔
      lookup.found < lookup.count ∧
        upwardIndex lookup.countsDown lookup.count lookup.found = number := by
  have found := indexAt_rat lookup.offset lookup.cell
  have quotient_nonneg := floor_offset_nonneg cell_pos nonneg
  unfold IsInCell Lookup.found upwardIndex oppositeIndex
  rw [mul_le_offset_iff cell_pos, offset_lt_mul_iff cell_pos]
  generalize indexAt lookup.offset lookup.cell = index at found ⊢
  generalize ⌊lookup.offset / lookup.cell + resolutionTolerance⌋ = quotient at *
  unfold word32Max at counted found
  cases lookup.countsDown with
  | false =>
      simp only [Bool.false_eq_true, if_false, false_and, or_false]
      omega
  | true =>
      simp only [if_true, true_and]
      omega

theorem holds_found_iff (cell_pos : 0 < lookup.cell) (nonneg : 0 ≤ lookup.offset)
    (counted : lookup.count ≤ word32Max) :
    lookup.Holds lookup.found ↔ lookup.Agrees := by
  have upward_lt {index : Nat} (inRow : index < lookup.count) :
      upwardIndex lookup.countsDown lookup.count index < lookup.count := by
    unfold upwardIndex oppositeIndex
    split <;> omega
  have sameTile {index : Nat} (inRow : index < lookup.count) :
      lookup.Holds index ↔
        lookup.IsInTile (upwardIndex lookup.countsDown lookup.count index) := by
    unfold Holds IsInTile
    rw [and_iff_right inRow, start_eq_base_add inRow, add_one_mul, ← add_assoc]
  constructor
  · intro holds
    have inRow := holds.1
    exact ⟨_, upward_lt inRow,
      (isInCell_iff cell_pos nonneg counted (upward_lt inRow)).mpr ⟨inRow, rfl⟩,
      (sameTile inRow).mp holds⟩
  · rintro ⟨number, inRow, inCell, inTile⟩
    obtain ⟨foundInRow, rfl⟩ := (isInCell_iff cell_pos nonneg counted inRow).mp inCell
    exact (sameTile foundInRow).mpr inTile

/-! ### Requests as large as a tile -/

section Own

variable {margin : Rat} (own : lookup.cell = lookup.unit) (unit_pos : 0 < lookup.unit)
  (slack_eq : lookup.slack = resolutionTolerance * lookup.unit + margin)

include own slack_eq

theorem agrees_of_lt (inRow : number < lookup.count) (baseAbove : -lookup.slack ≤ lookup.base)
    (baseBelow : lookup.base ≤ margin)
    (begun : number * lookup.unit ≤ lookup.offset + resolutionTolerance * lookup.unit)
    (unfinished : lookup.offset + resolutionTolerance * lookup.unit < (number + 1) * lookup.unit)
    (tolerated : 0 < resolutionTolerance * lookup.unit) : lookup.Agrees := by
  refine ⟨number, inRow, ⟨?_, .inl ?_⟩, ?_, ?_⟩
  · rw [own]
    exact begun
  · rw [own]
    exact unfinished
  · linarith
  · linarith

include unit_pos

/-- A corner at the upper end of the pyramid lies in the last tile, even if its
cell lies behind it. -/
theorem agrees_of_le (countsDown : lookup.countsDown = true) (someTile : 0 < lookup.count)
    (behind : lookup.count ≤ number) (inside : lookup.offset ≤ lookup.span)
    (baseBelow : lookup.base ≤ margin) (margin_nonneg : 0 ≤ margin)
    (begun : number * lookup.unit ≤ lookup.offset + resolutionTolerance * lookup.unit)
    (tolerated : 0 < resolutionTolerance * lookup.unit) : lookup.Agrees := by
  have base_eq : lookup.base + lookup.count * lookup.unit = lookup.span := by
    unfold base
    rw [countsDown, if_pos rfl, sub_add_cancel]
  have countReached : lookup.count * lookup.unit ≤ number * lookup.unit :=
    mul_le_mul_of_nonneg_right (by exact_mod_cast behind) unit_pos.le
  have lastNumber : ((lookup.count - 1 : Nat) : Rat) = lookup.count - 1 := by
    rw [Nat.cast_sub (by omega), Nat.cast_one]
  refine ⟨lookup.count - 1, by omega, ⟨?_, .inr ⟨countsDown, by omega⟩⟩, ?_, ?_⟩
  · rw [own, lastNumber]
    linarith
  · rw [lastNumber]
    linarith
  · rw [lastNumber]
    linarith

end Own

theorem IsRegular.agrees {margin : Rat} (regular : lookup.IsRegular margin)
    (unit_pos : 0 < lookup.unit) (nonneg : 0 ≤ lookup.offset) (inside : lookup.offset ≤ lookup.span)
    (someTile : 0 < lookup.count) (margin_nonneg : 0 ≤ margin)
    (slack_eq : lookup.slack = resolutionTolerance * lookup.unit + margin) : lookup.Agrees := by
  have tolerated : 0 < resolutionTolerance * lookup.unit := by
    rw [resolutionTolerance_rat]
    positivity
  obtain ⟨own, fits, short⟩ := regular
  obtain ⟨number, begun, unfinished⟩ := exists_unit unit_pos (add_nonneg nonneg tolerated.le)
  cases direction : lookup.countsDown with
  | false =>
      have base_eq : lookup.base = 0 := by
        unfold base
        rw [direction]
        rfl
      have inRow : number < lookup.count := by
        have : (number : Rat) * lookup.unit < lookup.count * lookup.unit :=
          lt_of_le_of_lt begun (short direction)
        exact_mod_cast lt_of_mul_lt_mul_right this unit_pos.le
      exact agrees_of_lt own slack_eq inRow (by linarith) (by linarith) begun unfinished tolerated
  | true =>
      obtain ⟨baseAbove, baseBelow⟩ := fits direction
      rcases Nat.lt_or_ge number lookup.count with inRow | behind
      · exact agrees_of_lt own slack_eq inRow baseAbove baseBelow begun unfinished tolerated
      · exact agrees_of_le own unit_pos slack_eq direction someTile behind inside baseBelow
          margin_nonneg begun tolerated

end Laws

end Lookup

/-! ## Both axes -/

section Requests

variable (pyramid : Pyramid Rat)

/-- The first axis of a request of `width` pixels with its corner at `x`. -/
def lookupX (resolution : Rat) (columns width : Nat) (x : Rat) : Lookup :=
  .ofAxis pyramid.origin.countsFromRight pyramid.extent.minX pyramid.extent.maxX resolution
    pyramid.tileWidth columns width x

/-- The second axis of a request of `height` pixels with its corner at `y`. -/
def lookupY (resolution : Rat) (rows height : Nat) (y : Rat) : Lookup :=
  .ofAxis pyramid.origin.countsFromTop pyramid.extent.minY pyramid.extent.maxY resolution
    pyramid.tileHeight rows height y

/-- The tile is one of the pyramid, and its extent, half-open, holds the point
up to the tolerance and the margin of the number of tiles. -/
def HoldsPoint (resolution : Rat) (tile : TileIndex) (x y : Rat) : Prop :=
  ∃ extent, pyramid.tileExtent tile = some extent ∧
    (extent.minX - (resolutionTolerance * extent.width + resolution / 100) ≤ x ∧
      x < extent.maxX + (resolutionTolerance * extent.width + resolution / 100)) ∧
    extent.minY - (resolutionTolerance * extent.height + resolution / 100) ≤ y ∧
      y < extent.maxY + (resolutionTolerance * extent.height + resolution / 100)

variable {pyramid} {z columns rows : Nat} {resolution : Rat}

theorem tileAt_eq_found {extent : Extent Rat} {width height : Nat}
    (level : pyramid.levelFor (requestedResolution extent width height) = some (z, resolution))
    (size : pyramid.levelSize? z = some (columns, rows)) :
    pyramid.tileAt extent width height =
      ⟨z, (pyramid.lookupX resolution columns width extent.minX).found,
        (pyramid.lookupY resolution rows height extent.minY).found⟩ := by
  unfold tileAt tileForExtent lookupX lookupY Lookup.found Lookup.ofAxis
  cases pyramid.origin.countsFromRight <;> cases pyramid.origin.countsFromTop <;>
    simp only [level, size] <;> rfl

theorem holdsPoint_iff (level : pyramid.resolution? z = some resolution)
    (size : pyramid.levelSize? z = some (columns, rows)) (width height column row : Nat)
    (x y : Rat) :
    pyramid.HoldsPoint resolution ⟨z, column, row⟩ x y ↔
      (pyramid.lookupX resolution columns width x).Holds column ∧
        (pyramid.lookupY resolution rows height y).Holds row := by
  rw [lookupX, lookupY, Lookup.holds_ofAxis_iff, Lookup.holds_ofAxis_iff]
  unfold HoldsPoint
  rw [exists_tileExtent_iff level size]
  simp only [Extent.width, Extent.height, extentAt, add_sub_cancel_left]
  exact and_and_and_comm

end Requests

theorem webMercator_resolution? :
    (webMercator : Pyramid Rat).resolution? 3 = some (halfEarth / 1024) := by
  decide +kernel

/-- A request of one unit beside the middle of the Web Mercator square. -/
def besideMiddle : Extent Rat := ⟨1, 1, 1 + halfEarth / 4, 1 + halfEarth / 4⟩

/-- A tileset resolves a map request to the tile of its pyramid.  The tile is of
the coarsest level that is not coarser than the request.  It holds the lower
left corner of the request exactly when along each axis the tile and the cell of
the corner have the same number, as they do on regular axes. -/
theorem resolve_map_iff (pyramid : Pyramid Rat) (positive : pyramid.HasPositiveSizes)
    (decreasing : pyramid.IsDecreasing) (extent : Extent Rat) (width height : Nat)
    (wide : 0 < width) (high : 0 < height)
    (inside : pyramid.extent.contains extent.minX extent.minY = true ∧
      pyramid.extent.contains extent.maxX extent.maxY = true)
    (matched : ∃ resolution ∈ pyramid.resolutions,
      resolution ≤ requestedResolution extent width height * (1 + resolutionTolerance)) :
    (∀ (tileset : Tileset) (request : Extent Float) (width height : Nat),
      let tile := tileset.pyramid.tileAt request width height
      tileset.resolve (.map request width height) =
        .ok (tileset.coordinate tile.z tile.x tile.y)) ∧
    ∃ z resolution columns rows,
      pyramid.IsCoarsestFor (requestedResolution extent width height) z resolution ∧
      pyramid.levelSize? z = some (columns, rows) ∧
      (pyramid.tileAt extent width height).z = z ∧
      (pyramid.HoldsPoint resolution (pyramid.tileAt extent width height)
          extent.minX extent.minY ↔
        (pyramid.lookupX resolution columns width extent.minX).Agrees ∧
          (pyramid.lookupY resolution rows height extent.minY).Agrees) ∧
      ((pyramid.lookupX resolution columns width extent.minX).IsRegular (resolution / 100) →
        (pyramid.lookupY resolution rows height extent.minY).IsRegular (resolution / 100) →
        pyramid.HoldsPoint resolution (pyramid.tileAt extent width height)
          extent.minX extent.minY) := by
  refine ⟨fun _ _ _ _ => rfl, ?_⟩
  obtain ⟨z, resolution, found, coarsest⟩ := levelFor_spec decreasing matched
  have level := coarsest.level
  have resolved := positive.of_resolution? level
  obtain ⟨columns, rows, size, ⟨someX, countedX⟩, someY, countedY⟩ := exists_levelSize? level
  obtain ⟨west, east, south, north⟩ := Extent.contains_iff.mp inside.1
  have isAt := tileAt_eq_found found size
  have cellX_pos : 0 < resolution * width := mul_pos resolved (Nat.cast_pos.mpr wide)
  have cellY_pos : 0 < resolution * height := mul_pos resolved (Nat.cast_pos.mpr high)
  have holds_iff : pyramid.HoldsPoint resolution (pyramid.tileAt extent width height)
        extent.minX extent.minY ↔
      (pyramid.lookupX resolution columns width extent.minX).Agrees ∧
        (pyramid.lookupY resolution rows height extent.minY).Agrees := by
    rw [isAt, holdsPoint_iff level size width height]
    exact and_congr (Lookup.holds_found_iff cellX_pos (sub_nonneg.mpr west) countedX)
      (Lookup.holds_found_iff cellY_pos (sub_nonneg.mpr south) countedY)
  refine ⟨z, resolution, columns, rows, coarsest, size, by rw [isAt], holds_iff, ?_⟩
  intro regularX regularY
  have margin_nonneg : 0 ≤ resolution / 100 := div_nonneg resolved.le (by norm_num)
  have agreesX := regularX.agrees (positive.unitX_pos level) (sub_nonneg.mpr west)
    (sub_le_sub_right east _) someX margin_nonneg rfl
  have agreesY := regularY.agrees (positive.unitY_pos level) (sub_nonneg.mpr south)
    (sub_le_sub_right north _) someY margin_nonneg rfl
  exact holds_iff.mpr ⟨agreesX, agreesY⟩

/-- As large as a tile, and off the tiles, it is resolved to the tile to the upper
right of the middle, which holds its corner. -/
theorem resolve_map_besideMiddle :
    (webMercator : Pyramid Rat).HasPositiveSizes ∧ (webMercator : Pyramid Rat).IsDecreasing ∧
      (webMercator : Pyramid Rat).tileAt besideMiddle 256 256 = ⟨3, 4, 3⟩ ∧
      (webMercator : Pyramid Rat).HoldsPoint (halfEarth / 1024)
        ((webMercator : Pyramid Rat).tileAt besideMiddle 256 256) 1 1 := by
  have positive := webMercator_hasPositiveSizes
  have isTile : (webMercator : Pyramid Rat).tileAt besideMiddle 256 256 = ⟨3, 4, 3⟩ := by
    decide +kernel
  obtain ⟨-, z, resolution, columns, rows, coarsest, size, sameLevel, -, holds⟩ :=
    resolve_map_iff webMercator positive webMercator_isDecreasing besideMiddle 256 256 (by decide)
      (by decide) ⟨by decide +kernel, by decide +kernel⟩
      ⟨halfEarth / 1024, by decide +kernel, by decide +kernel⟩
  rw [isTile] at sameLevel
  subst sameLevel
  obtain rfl := Option.some.inj (webMercator_resolution?.symm.trans coarsest.level)
  have counts : (webMercator : Pyramid Rat).levelSize? 3 = some (8, 8) := by decide +kernel
  obtain ⟨rfl, rfl⟩ := Prod.mk.inj (Option.some.inj (counts.symm.trans size))
  refine ⟨positive, webMercator_isDecreasing, isTile, holds ?_ ?_⟩
  · exact ⟨rfl, nofun, fun _ => by decide +kernel⟩
  · exact ⟨rfl, fun _ => by decide +kernel, nofun⟩

/-- A request of twice as many pixels as a tile, over the upper right quarter of
the Web Mercator square.  The tile that is found lies in another quarter. -/
theorem not_forall_holdsPoint_tileAt :
    ¬∀ pyramid : Pyramid Rat, pyramid.HasPositiveSizes → pyramid.IsDecreasing →
      ∀ (extent : Extent Rat) (width height : Nat), 0 < width → 0 < height →
        pyramid.extent.contains extent.minX extent.minY = true →
        pyramid.extent.contains extent.maxX extent.maxY = true →
        (∃ resolution ∈ pyramid.resolutions,
          resolution ≤ requestedResolution extent width height * (1 + resolutionTolerance)) →
        ∃ z resolution,
          pyramid.IsCoarsestFor (requestedResolution extent width height) z resolution ∧
          (pyramid.tileAt extent width height).z = z ∧
          pyramid.HoldsPoint resolution (pyramid.tileAt extent width height)
            extent.minX extent.minY := by
  intro claimed
  have positive := webMercator_hasPositiveSizes
  obtain ⟨z, resolution, coarsest, sameLevel, extent, located, ⟨-, before⟩, -⟩ :=
    claimed webMercator positive webMercator_isDecreasing
      ⟨halfEarth / 2, halfEarth / 2, halfEarth, halfEarth⟩ 512 512 (by decide) (by decide)
      (by decide +kernel) (by decide +kernel)
      ⟨halfEarth / 1024, by decide +kernel, by decide +kernel⟩
  have found : (webMercator : Pyramid Rat).tileAt
      ⟨halfEarth / 2, halfEarth / 2, halfEarth, halfEarth⟩ 512 512 = ⟨3, 3, 4⟩ := by decide +kernel
  rw [found] at sameLevel located
  subst sameLevel
  obtain rfl := Option.some.inj (webMercator_resolution?.symm.trans coarsest.level)
  have another : (webMercator : Pyramid Rat).tileExtent ⟨3, 3, 4⟩ =
      some ⟨-halfEarth / 4, -halfEarth / 4, 0, 0⟩ := by decide +kernel
  obtain rfl := Option.some.inj (another.symm.trans located)
  exact absurd before (by decide +kernel)

end Pyramid

end TileAtlas
