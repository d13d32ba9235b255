import TileAtlas.Proofs.Geometry.Reference
import TileAtlas.Window

/-!
Contract: the extent of a border, and the tiles that miss a raster.

Owns:
- `IsBorderImage`, the finite images of the pixel corners along a border, and
  that `borderExtent` is the smallest extent that holds them;
- `Extent.IsClearOf`, extents that have borders in common at most, and
  `isClearOf_iff`: the overlap test tells them;
- `resolve_eq_noOverlap` and `isClearOf_of_resolve`: a tile in the raster's own
  reference system resolves to nothing just when it is clear of the raster's
  bounds.

Borders are bounded in floats, too.  Where a tile lies takes exact numbers: in
floats the last pixel of a tile need not end on its far side.
-/

namespace TileAtlas

/-! ## Points of a border -/

section Border

variable {α : Type} [Scalar α]

/-- The pixel corners along the four sides of a rectangle. -/
inductive IsBorderPixel (width height : Nat) : α × α → Prop
  | top {step : Nat} : step ≤ width → IsBorderPixel width height (Scalar.ofNat step, 0.0)
  | bottom {step : Nat} :
      step ≤ width → IsBorderPixel width height (Scalar.ofNat step, Scalar.ofNat height)
  | left {step : Nat} : step ≤ height → IsBorderPixel width height (0.0, Scalar.ofNat step)
  | right {step : Nat} :
      step ≤ height → IsBorderPixel width height (Scalar.ofNat width, Scalar.ofNat step)

/-- A point that a border pixel is taken to, finite on both axes. -/
def IsBorderImage (map : Affine α) (transform : PointMap α) (width height : Nat)
    (image : α × α) : Prop :=
  Extent.IsFinitePoint image ∧ ∃ pixel, IsBorderPixel width height pixel ∧
    transform (map.apply pixel.1 pixel.2).1 (map.apply pixel.1 pixel.2).2 = some image

variable {width height : Nat}

theorem mem_borderPixels {pixel : α × α} :
    pixel ∈ borderPixels width height ↔ IsBorderPixel width height pixel := by
  unfold borderPixels
  simp only [List.mem_append, List.mem_flatMap, List.mem_range, Nat.lt_succ_iff, List.mem_cons,
    List.not_mem_nil, or_false]
  constructor
  · rintro (⟨step, short, rfl | rfl⟩ | ⟨step, short, rfl | rfl⟩)
    · exact .top short
    · exact .bottom short
    · exact .left short
    · exact .right short
  · intro isBorder
    cases isBorder with
    | top short => exact .inl ⟨_, short, .inl rfl⟩
    | bottom short => exact .inl ⟨_, short, .inr rfl⟩
    | left short => exact .inr ⟨_, short, .inl rfl⟩
    | right short => exact .inr ⟨_, short, .inr rfl⟩

theorem length_borderPixels :
    (borderPixels width height : List (α × α)).length = 2 * (width + 1) + 2 * (height + 1) := by
  unfold borderPixels
  simp only [List.length_append, List.length_flatMap, List.length_cons, List.length_nil,
    List.map_const', List.length_range, List.sum_replicate, smul_eq_mul]
  omega

theorem isBorderImage_iff {map : Affine α} {transform : PointMap α} {image : α × α} :
    IsBorderImage map transform width height image ↔
      image ∈ borderImages map transform width height ∧ Extent.IsFinitePoint image := by
  unfold IsBorderImage borderImages
  rw [List.mem_filterMap, and_comm]
  simp only [mem_borderPixels]

variable [OrderedScalar α] (map : Affine α) (transform : PointMap α)

theorem isSome_borderExtent_iff :
    (borderExtent map transform width height).isSome ↔
      ∃ image, IsBorderImage map transform width height image := by
  unfold borderExtent
  rw [Extent.isSome_cover_iff]
  exact exists_congr fun image => isBorderImage_iff.symm

theorem isSmallest_of_borderExtent {extent : Extent α}
    (covered : borderExtent map transform width height = some extent) :
    extent.IsSmallest (IsBorderImage map transform width height) :=
  (Extent.isSmallest_of_cover covered).congr fun _ => isBorderImage_iff.symm

end Border

/-! ## Overlap -/

namespace Extent

/-- No point of the other extent lies inside this one: if the two have anything
in common, it lies on the border of this one. -/
def IsClearOf (extent other : Extent Rat) : Prop :=
  ∀ x y, other.contains x y = true →
    ¬((extent.minX < x ∧ x < extent.maxX) ∧ extent.minY < y ∧ y < extent.maxY)

/-- An open interval and a closed one have a number in common. -/
theorem exists_common_iff {start finish least greatest : Rat} (proper : start < finish)
    (ordered : least ≤ greatest) :
    (∃ value, (least ≤ value ∧ value ≤ greatest) ∧ start < value ∧ value < finish) ↔
      start < greatest ∧ least < finish := by
  constructor
  · rintro ⟨value, ⟨above, below⟩, after, before⟩
    exact ⟨after.trans_le below, above.trans_lt before⟩
  · rintro ⟨startsBefore, endsAfter⟩
    -- The middle of what they have in common.
    have lower : max start least ≤ min finish greatest :=
      max_le (le_min proper.le startsBefore.le) (le_min endsAfter.le ordered)
    refine ⟨(max start least + min finish greatest) / 2, ⟨?_, ?_⟩, ?_, ?_⟩
    · linarith [le_max_right start least]
    · linarith [min_le_right finish greatest]
    · linarith [le_max_left start least, lt_min proper startsBefore]
    · linarith [min_le_left finish greatest, max_lt proper endsAfter]

theorem isClearOf_iff {extent other : Extent Rat} (wide : extent.minX < extent.maxX)
    (high : extent.minY < extent.maxY) (otherWide : other.minX ≤ other.maxX)
    (otherHigh : other.minY ≤ other.maxY) :
    extent.IsClearOf other ↔ ¬extent.intersects other = true := by
  have common : (∃ x y, other.contains x y = true ∧
      (extent.minX < x ∧ x < extent.maxX) ∧ extent.minY < y ∧ y < extent.maxY) ↔
        extent.intersects other = true := by
    rw [intersects_iff, ← exists_common_iff wide otherWide, ← exists_common_iff high otherHigh]
    simp only [contains_iff]
    constructor
    · rintro ⟨x, y, ⟨west, east, south, north⟩, insideX, insideY⟩
      exact ⟨⟨x, ⟨west, east⟩, insideX⟩, y, ⟨south, north⟩, insideY⟩
    · rintro ⟨⟨x, ⟨west, east⟩, insideX⟩, y, ⟨south, north⟩, insideY⟩
      exact ⟨x, y, ⟨west, east, south, north⟩, insideX, insideY⟩
  rw [← common]
  unfold IsClearOf
  push Not
  rfl

theorem IsWithin.intersects {extent larger other : Extent Rat} (within : extent.IsWithin larger)
    (overlaps : extent.intersects other = true) : larger.intersects other = true := by
  rw [intersects_iff] at overlaps ⊢
  obtain ⟨⟨west, east⟩, south, north⟩ := overlaps
  exact ⟨⟨within.west.trans_lt west, east.trans_le within.east⟩,
    within.south.trans_lt south, north.trans_le within.north⟩

end Extent

theorem Affine.worldBounds_ordered (map : Affine Rat) (width height : Nat) :
    (map.worldBounds width height).minX ≤ (map.worldBounds width height).maxX ∧
      (map.worldBounds width height).minY ≤ (map.worldBounds width height).maxY := by
  have start := (map.isSmallest_corners width height).holds _ List.mem_cons_self
  obtain ⟨west, east, south, north⟩ := Extent.contains_iff.mp start
  exact ⟨west.trans east, south.trans north⟩

/-! ## Tiles in the raster's reference system -/

/-- Both sides of the transform are one reference system. -/
def PointMap.identity {α : Type} : PointMap α := fun x y => some (x, y)

section Tile

variable {tile : Extent Rat} {tileWidth tileHeight : Nat}

/-- A step of a division stays short of the whole, also where nothing is
divided. -/
theorem div_mul_le_whole {whole : Rat} (nonneg : 0 ≤ whole) {count step : Nat}
    (short : step ≤ count) : whole / count * step ≤ whole := by
  rw [div_mul_eq_mul_div]
  refine div_le_of_le_mul₀ (Nat.cast_nonneg count) nonneg ?_
  exact mul_le_mul_of_nonneg_left (by exact_mod_cast short) nonneg

theorem contains_borderImage (wide : 0 ≤ tile.width) (high : 0 ≤ tile.height)
    {pixel : Rat × Rat} (isBorder : IsBorderPixel tileWidth tileHeight pixel) :
    let world := (Affine.ofExtent tile tileWidth tileHeight).apply pixel.1 pixel.2
    tile.contains world.1 world.2 = true := by
  have grid {x y : Nat} (shortX : x ≤ tileWidth) (shortY : y ≤ tileHeight) :
      let world := (Affine.ofExtent tile tileWidth tileHeight).apply
        (Scalar.ofNat x) (Scalar.ofNat y)
      tile.contains world.1 world.2 = true := by
    rw [Affine.apply_ofExtent wide high]
    have east := div_mul_le_whole wide shortX
    have south := div_mul_le_whole high shortY
    have west : 0 ≤ tile.width / tileWidth * x := by positivity
    have north : 0 ≤ tile.height / tileHeight * y := by positivity
    unfold Extent.width Extent.height at *
    refine Extent.contains_iff.mpr ⟨?_, ?_, ?_, ?_⟩ <;> dsimp only <;> linarith
  have zero : (0.0 : Rat) = Scalar.ofNat 0 := by norm_num [Scalar.ofNat_rat]
  cases isBorder with
  | top short => rw [zero]; exact grid short (Nat.zero_le _)
  | bottom short => exact grid short le_rfl
  | left short => rw [zero]; exact grid (Nat.zero_le _) short
  | right short => exact grid le_rfl short

variable {needed : Extent Rat}

/-- Nothing outside the tile is asked for. -/
theorem isWithin_of_borderExtent (wide : 0 ≤ tile.width) (high : 0 ≤ tile.height)
    (covered : borderExtent (Affine.ofExtent tile tileWidth tileHeight) PointMap.identity
      tileWidth tileHeight = some needed) :
    needed.IsWithin tile := by
  refine (isSmallest_of_borderExtent _ _ covered).within tile ?_
  rintro image ⟨-, pixel, isBorder, isImage⟩
  obtain rfl := Option.some.inj isImage
  exact contains_borderImage wide high isBorder

/-- A tile that has pixels is asked for up to its far corners. -/
theorem within_of_borderExtent (wide : 0 ≤ tile.width) (high : 0 ≤ tile.height)
    (columns : 0 < tileWidth) (rows : 0 < tileHeight)
    (covered : borderExtent (Affine.ofExtent tile tileWidth tileHeight) PointMap.identity
      tileWidth tileHeight = some needed) :
    tile.IsWithin needed := by
  have holds := (isSmallest_of_borderExtent _ _ covered).holds
  have positiveColumns : (tileWidth : Rat) ≠ 0 := by exact_mod_cast columns.ne'
  have positiveRows : (tileHeight : Rat) ≠ 0 := by exact_mod_cast rows.ne'
  have northWest : (Affine.ofExtent tile tileWidth tileHeight).apply
      (Scalar.ofNat 0) (Scalar.ofNat 0) = (tile.minX, tile.maxY) := by
    rw [Affine.apply_ofExtent wide high]
    simp
  have southEast : (Affine.ofExtent tile tileWidth tileHeight).apply
      (Scalar.ofNat tileWidth) (Scalar.ofNat tileHeight) = (tile.maxX, tile.minY) := by
    rw [Affine.apply_ofExtent wide high, div_mul_cancel₀ _ positiveColumns,
      div_mul_cancel₀ _ positiveRows]
    simp [Extent.width, Extent.height]
  have zero : (0.0 : Rat) = Scalar.ofNat 0 := by norm_num [Scalar.ofNat_rat]
  obtain ⟨west, -, -, north⟩ := Extent.contains_iff.mp
    (holds (tile.minX, tile.maxY) ⟨⟨rfl, rfl⟩, _, .top (Nat.zero_le _),
      congrArg some (by rw [zero]; exact northWest)⟩)
  obtain ⟨-, east, south, -⟩ := Extent.contains_iff.mp
    (holds (tile.maxX, tile.minY) ⟨⟨rfl, rfl⟩, _, .bottom le_rfl, congrArg some southEast⟩)
  exact ⟨west, east, south, north⟩

theorem exists_borderExtent (map : Affine Rat) :
    ∃ needed, borderExtent map PointMap.identity tileWidth tileHeight = some needed := by
  rw [← Option.isSome_iff_exists, isSome_borderExtent_iff]
  exact ⟨_, ⟨rfl, rfl⟩, _, .top (Nat.zero_le _), rfl⟩

variable {source : GeoReference Rat} {sourceWidth sourceHeight : Nat} {quality : Rat}

/-- A raster and a tile that overlap have a window, or at least the attempt at
one. -/
theorem resolve_eq_noOverlap_iff {destination : Affine Rat} {back : PointMap Rat}
    (covered : borderExtent destination back tileWidth tileHeight = some needed) :
    SourceWindow.resolve source sourceWidth sourceHeight quality destination back tileWidth
        tileHeight = .noOverlap ↔
      ¬needed.intersects (source.forward.worldBounds sourceWidth sourceHeight) = true := by
  unfold SourceWindow.resolve
  rw [covered]
  show (if needed.intersects (source.forward.worldBounds sourceWidth sourceHeight) = true then _
    else _) = _ ↔ _
  by_cases overlaps :
      needed.intersects (source.forward.worldBounds sourceWidth sourceHeight) = true
  · rw [if_pos overlaps]
    refine iff_of_false ?_ (not_not_intro overlaps)
    unfold SourceWindow.forExtent
    split
    · exact nofun
    · dsimp only
      split <;> exact nofun
  · rw [if_neg overlaps]
    exact iff_of_true rfl overlaps

/-- A tile that is clear of the raster resolves to nothing, whatever its size in
pixels. -/
theorem resolve_eq_noOverlap (wide : tile.minX < tile.maxX) (high : tile.minY < tile.maxY)
    (clear : tile.IsClearOf (source.forward.worldBounds sourceWidth sourceHeight)) :
    SourceWindow.resolve source sourceWidth sourceHeight quality
      (Affine.ofExtent tile tileWidth tileHeight) PointMap.identity tileWidth tileHeight =
        .noOverlap := by
  obtain ⟨needed, covered⟩ := exists_borderExtent (Affine.ofExtent tile tileWidth tileHeight)
  have bounds := source.forward.worldBounds_ordered sourceWidth sourceHeight
  have within : needed.IsWithin tile :=
    isWithin_of_borderExtent (sub_nonneg.mpr wide.le) (sub_nonneg.mpr high.le) covered
  apply (resolve_eq_noOverlap_iff covered).mpr
  intro overlaps
  exact (Extent.isClearOf_iff wide high bounds.1 bounds.2).mp clear (within.intersects overlaps)

/-- Of the tiles that have pixels, no others resolve to nothing. -/
theorem isClearOf_of_resolve (wide : tile.minX < tile.maxX) (high : tile.minY < tile.maxY)
    (columns : 0 < tileWidth) (rows : 0 < tileHeight)
    (missed : SourceWindow.resolve source sourceWidth sourceHeight quality
      (Affine.ofExtent tile tileWidth tileHeight) PointMap.identity tileWidth tileHeight =
        .noOverlap) :
    tile.IsClearOf (source.forward.worldBounds sourceWidth sourceHeight) := by
  obtain ⟨needed, covered⟩ := exists_borderExtent (Affine.ofExtent tile tileWidth tileHeight)
  have bounds := source.forward.worldBounds_ordered sourceWidth sourceHeight
  have within : tile.IsWithin needed :=
    within_of_borderExtent (sub_nonneg.mpr wide.le) (sub_nonneg.mpr high.le) columns rows covered
  apply (Extent.isClearOf_iff wide high bounds.1 bounds.2).mpr
  intro overlaps
  exact (resolve_eq_noOverlap_iff covered).mp missed (within.intersects overlaps)

end Tile

/-! ## Both together -/

/-- What the extent of a border is: there is one just when a border pixel has a
finite image, it is then the smallest for all of these, and a scan that begins
with a box turned inside out finds the same. -/
structure HasTightBorder (map : Affine Float) (transform : PointMap Float) (width height : Nat) :
    Prop where
  count : (borderPixels width height : List (Float × Float)).length =
    2 * (width + 1) + 2 * (height + 1)
  isSome_iff : (borderExtent map transform width height).isSome ↔
    ∃ image, IsBorderImage map transform width height image
  smallest : ∀ extent, borderExtent map transform width height = some extent →
    extent.IsSmallest (IsBorderImage map transform width height)
  scanned : borderExtent map transform width height =
    Extent.scan (borderImages map transform width height)

/-- Borders are bounded tightly, and the overlap test built on them misses no
tile that has more than its border in common with the raster. -/
theorem hasTightBorder_and_resolves_clear_tiles :
    (∀ map transform width height, HasTightBorder map transform width height) ∧
      ∀ (source : GeoReference Rat) (sourceWidth sourceHeight : Nat) (quality : Rat)
        (tile : Extent Rat) (tileWidth tileHeight : Nat),
        tile.minX < tile.maxX → tile.minY < tile.maxY →
          (tile.IsClearOf (source.forward.worldBounds sourceWidth sourceHeight) →
            SourceWindow.resolve source sourceWidth sourceHeight quality
              (Affine.ofExtent tile tileWidth tileHeight) PointMap.identity tileWidth tileHeight =
                .noOverlap) ∧
          (0 < tileWidth → 0 < tileHeight →
            SourceWindow.resolve source sourceWidth sourceHeight quality
              (Affine.ofExtent tile tileWidth tileHeight) PointMap.identity tileWidth tileHeight =
                .noOverlap →
            tile.IsClearOf (source.forward.worldBounds sourceWidth sourceHeight)) := by
  constructor
  · intro map transform width height
    exact ⟨length_borderPixels, isSome_borderExtent_iff map transform,
      fun _ => isSmallest_of_borderExtent map transform, Extent.cover_eq_scan _⟩
  · intro source sourceWidth sourceHeight quality tile tileWidth tileHeight wide high
    exact ⟨resolve_eq_noOverlap wide high, isClearOf_of_resolve wide high⟩

/-- A tile that touches the east side of the bounds of a turned raster. -/
theorem resolves_clear_tiles_turnedRaster :
    let source : GeoReference Rat :=
      ⟨⟨0, 3, -4, 0, 4, 3⟩, ⟨0, 3 / 25, 4 / 25, 0, -4 / 25, 3 / 25⟩⟩
    let tile : Extent Rat := ⟨6, 2, 8, 5⟩
    (tile.minX < tile.maxX ∧ tile.minY < tile.maxY) ∧
      (source.forward.worldBounds 2 1 = ⟨-4, 0, 6, 11⟩ ∧
        tile.IsClearOf (source.forward.worldBounds 2 1)) ∧
      SourceWindow.resolve source 2 1 2 (Affine.ofExtent tile 4 4) PointMap.identity 4 4 =
        .noOverlap := by
  intro source tile
  have proper : tile.minX < tile.maxX ∧ tile.minY < tile.maxY := by decide +kernel
  have bounds : source.forward.worldBounds 2 1 = ⟨-4, 0, 6, 11⟩ := by decide +kernel
  have clear : tile.IsClearOf (source.forward.worldBounds 2 1) := by
    rw [bounds]
    intro x y inside strictly
    exact absurd strictly.1.1 (not_lt.mpr (Extent.contains_iff.mp inside).2.1)
  exact ⟨proper, ⟨bounds, clear⟩,
    (hasTightBorder_and_resolves_clear_tiles.2 source 2 1 2 tile 4 4 proper.1 proper.2).1 clear⟩

end TileAtlas
