import TileAtlas.Number.Exact
import TileAtlas.Proofs.Render.Sampling
import TileAtlas.Proofs.Window.Position

/-!
Contract: a tile pixel shows the raster pixel under it.

Owns:
- `floorToPixel_clamped`: a position of a window falls into the cell that its
  distance from the window's offset says;
- `IsBuffered`, what bounds the buffer of a window that was read;
- `renderPixel_shows_nearby`, for one tile pixel;
- `render_shows_nearest`, for windows and whole renders, and a raster that is
  too large for it.

## The five roundings

The corners of the needed extent become a box of raster positions, the box
becomes a window of whole pixels, the window a buffer of whole cells, a position
falls into a cell, and the cell was filled from a pixel.  The first two only
have to keep the position inside.  The last two each move it by half a pixel at
most, one of the raster and one of the buffer.
-/

namespace TileAtlas

/-- The length of a buffer that can be reserved is not less than its width or
its height. -/
theorem sizes_le_int64Max [Allocator] {width height bands : Nat} {type : PixelType}
    (wide : 0 < width) (high : 0 < height) (banded : 0 < bands)
    (reserved : (bufferLength width height bands type).isOk = true) :
    (width : Int) ≤ int64Max ∧ (height : Int) ≤ int64Max := by
  have sized : 0 < type.size := by cases type <;> decide
  have fits : ((width * height * bands * type.size : Nat) : Int) ≤ int64Max := by
    unfold bufferLength at reserved
    simp only at reserved
    split at reserved
    · cases reserved
    · split at reserved
      · next granted => exact Allocator.grants_le _ granted
      · cases reserved
  have perPixel : width * height ≤ width * height * bands * type.size :=
    (Nat.le_mul_of_pos_right _ banded).trans (Nat.le_mul_of_pos_right _ sized)
  have perRow := (Nat.le_mul_of_pos_right width high).trans perPixel
  have perColumn := (Nat.le_mul_of_pos_left height wide).trans perPixel
  exact ⟨(Int.ofNat_le.mpr perRow).trans fits, (Int.ofNat_le.mpr perColumn).trans fits⟩

namespace SourceWindow

variable {source : GeoReference Rat} {sourceWidth sourceHeight : Nat} {quality : Rat}
  {destination : Affine Rat} {back : PointMap Rat} {tileWidth tileHeight : Nat}
  {window : SourceWindow Rat}

/-- The scales of a resolved window are those of its buffer. -/
theorem scale_of_resolve
    (resolved : resolve source sourceWidth sourceHeight quality destination back tileWidth
      tileHeight = .window window) :
    window.scaleX = (window.workWidth : Rat) / window.region.width ∧
      window.scaleY = (window.workHeight : Rat) / window.region.height := by
  obtain ⟨_, _, -, -, -, -, rfl⟩ := resolve_eq_window resolved
  exact ⟨rfl, rfl⟩

end SourceWindow

/-- The position lies in the raster or at most half a pixel beside it. -/
structure IsNear (info : DatasetInfo Rat) (position : Rat × Rat) : Prop where
  left : -1 / 2 ≤ position.1
  right : position.1 ≤ info.width + 1 / 2
  top : -1 / 2 ≤ position.2
  bottom : position.2 ≤ info.height + 1 / 2

theorem isNearRaster_iff {info : DatasetInfo Rat} {position : Rat × Rat} :
    isNearRaster info position.1 position.2 = true ↔ IsNear info position := by
  have half : (0.5 : Rat) = 1 / 2 := by norm_num
  have width : (Scalar.ofNat info.width : Rat) = info.width := rfl
  have height : (Scalar.ofNat info.height : Rat) = info.height := rfl
  unfold isNearRaster
  simp only [Bool.and_eq_true, decide_eq_true_eq, and_assoc, half, width, height]
  constructor
  · rintro ⟨left, right, top, bottom⟩
    exact ⟨by linarith, right, by linarith, bottom⟩
  · rintro ⟨left, right, top, bottom⟩
    exact ⟨by linarith, right, by linarith, bottom⟩

theorem isNearRaster_of_isInterior {info : DatasetInfo Rat} {position : Rat × Rat}
    (interior : SourceWindow.IsInterior info.width info.height position) :
    isNearRaster info position.1 position.2 = true := by
  obtain ⟨left, right, top, bottom⟩ := interior
  exact isNearRaster_iff.mpr
    ⟨by linarith, by linarith, by linarith, by linarith⟩

theorem workingPosition_of_isInterior {info : DatasetInfo Rat} {source : GeoReference Rat}
    {point : Rat × Rat} (window : SourceWindow Rat)
    (interior : SourceWindow.IsInterior info.width info.height
      (source.toPixel point.1 point.2)) :
    workingPosition info source window point =
      (Scalar.clampToPixels
          (((source.toPixel point.1 point.2).1 - Scalar.ofNat window.region.xOff) * window.scaleX)
          window.workWidth,
        Scalar.clampToPixels
          (((source.toPixel point.1 point.2).2 - Scalar.ofNat window.region.yOff) * window.scaleY)
          window.workHeight) :=
  if_pos (isNearRaster_of_isInterior interior)

/-- One axis of the working position. -/
theorem floorToPixel_clamped {position scale : Rat} {offset workLength : Nat}
    (small : (workLength : Int) ≤ int64Max) (nonneg : 0 ≤ ⌊(position - offset) * scale⌋)
    (below : ⌊(position - offset) * scale⌋ < workLength) :
    Scalar.floorToPixel
        (Scalar.clampToPixels ((position - Scalar.ofNat offset) * scale) workLength) =
      (⌊(position - offset) * scale⌋.toNat : Int) := by
  have cast : (Scalar.ofNat offset : Rat) = offset := rfl
  rw [Scalar.floorToPixel_clampToPixels _ small, cast]
  omega

section Renders

variable {raster : MemoryRaster Rat} {frame : TileFrame Rat} {options : RenderOptions Rat}
  {places : RenderPlaces Rat} {maps : RenderMaps Rat} {window : SourceWindow Rat} {x y : Nat}
  {point : Rat × Rat}

/-- The buffer of a window that was read, with what bounds it. -/
structure IsBuffered [Allocator] (raster : MemoryRaster Rat) (window : SourceWindow Rat)
    (type : PixelType) (data : ByteArray) : Prop where
  inside : window.IsInside raster.info.width raster.info.height
  answered : raster.read ⟨window.region, window.workWidth, window.workHeight, type⟩ = .ok data
  smallWidth : (window.workWidth : Int) ≤ int64Max
  smallHeight : (window.workHeight : Int) ≤ int64Max
  scaleX : window.scaleX = (window.workWidth : Rat) / window.region.width
  scaleY : window.scaleY = (window.workHeight : Rat) / window.region.height

theorem isBuffered_of_resolve [Allocator] {type : PixelType} {data : ByteArray}
    (resolved : SourceWindow.resolve places.source raster.info.width raster.info.height
      options.quality places.destination.forward maps.back frame.width frame.height =
        .window window)
    (typed : readType raster.info frame.mode = .ok type)
    (answered : raster.read ⟨window.region, window.workWidth, window.workHeight, type⟩ = .ok data) :
    IsBuffered raster window type data := by
  have inside := SourceWindow.isInside_of_resolve Scalar.one_le_pixelCount_rat resolved
  obtain ⟨scaleX, scaleY⟩ := SourceWindow.scale_of_resolve resolved
  obtain ⟨-, reserved, -⟩ := MemoryRaster.read_eq_ok answered
  have banded : 0 < raster.info.bands := by
    rcases readType_eq_ok typed with single | ⟨colored, -⟩ <;> omega
  obtain ⟨smallWidth, smallHeight⟩ := sizes_le_int64Max inside.one_le_workWidth
    inside.one_le_workHeight banded reserved
  exact ⟨inside, answered, smallWidth, smallHeight, scaleX, scaleY⟩

/-- The raster pixel lies inside the raster, with its middle near the position. -/
structure IsNearby (info : DatasetInfo Rat) (window : SourceWindow Rat) (position : Rat × Rat)
    (sourceX sourceY : Nat) : Prop where
  inX : sourceX < info.width
  inY : sourceY < info.height
  nearX : |(sourceX : Rat) + 1 / 2 - position.1| ≤ 1 / 2 + 1 / (2 * window.scaleX)
  nearY : |(sourceY : Rat) + 1 / 2 - position.2| ≤ 1 / 2 + 1 / (2 * window.scaleY)

/-- A tile pixel whose position lies in the window shows a raster pixel near the
position. -/
theorem renderPixel_shows_nearby [Allocator] {type : PixelType} {data : ByteArray}
    (complete : raster.IsComplete) (smallWidth : (raster.info.width : Int) ≤ int64Max)
    (smallHeight : (raster.info.height : Int) ≤ int64Max)
    (nearest : options.resampling = .nearest ∨ raster.info.bands = 1)
    (resolved : SourceWindow.resolve places.source raster.info.width raster.info.height
      options.quality places.destination.forward maps.back frame.width frame.height =
        .window window)
    (typed : readType raster.info frame.mode = .ok type)
    (answered : raster.read ⟨window.region, window.workWidth, window.workHeight, type⟩ = .ok data)
    (mapped : sourcePoint? frame places maps x y = some point)
    (interior : SourceWindow.IsInterior raster.info.width raster.info.height
      (places.source.toPixel point.1 point.2))
    (held : window.Holds (places.source.toPixel point.1 point.2)) :
    ∃ sourceX sourceY,
      IsNearby raster.info window (places.source.toPixel point.1 point.2) sourceX sourceY ∧
        renderPixel raster.info frame options places maps window
            (WorkingBuffer.ofBytes raster.info window type data) x y =
          shownPixel raster.info.noData type frame.mode
            (raster.pixelSamples sourceX sourceY) := by
  obtain ⟨⟨wide, high, endX, endY, workWide, workHigh⟩, -, smallWork, smallWorkHeight, scaledX,
    scaledY⟩ := isBuffered_of_resolve resolved typed answered
  have word : (word64Max : Int) = 18446744073709551615 := rfl
  unfold int64Max at smallWidth smallHeight
  obtain ⟨columnNonneg, columnBelow, nearX⟩ := abs_nearestSource_sub_le scaledX wide workWide
    (by omega) held.left_le held.lt_right
  obtain ⟨rowNonneg, rowBelow, nearY⟩ := abs_nearestSource_sub_le scaledY high workHigh
    (by omega) held.top_le held.lt_bottom
  have inX := fun column =>
    nearestSource_lt (α := Rat) column window.workWidth window.region.xOff wide
  have inY := fun row =>
    nearestSource_lt (α := Rat) row window.workHeight window.region.yOff high
  refine ⟨_, _, ⟨Nat.lt_of_lt_of_le (inX _) (by omega), Nat.lt_of_lt_of_le (inY _) (by omega),
    nearX, nearY⟩, ?_⟩
  unfold renderPixel
  rw [mapped]
  simp only
  rw [workingPosition_of_isInterior window interior]
  apply WorkingBuffer.sample_eq_shownPixel complete typed answered nearest
    (floorToPixel_clamped smallWork columnNonneg columnBelow)
    (floorToPixel_clamped smallWorkHeight rowNonneg rowBelow)
  · omega
  · omega

end Renders

/-- In exact numbers, for rasters of at most `int64Max` pixels along each side:
a resolved window holds the raster position of every point of the needed extent
that lies inside the raster, and a tile pixel with such a point shows a raster
pixel whose middle is half a raster pixel and half a working pixel away from the
position at most. -/
theorem render_shows_nearest [Allocator] :
    (∀ (source : GeoReference Rat) (sourceWidth sourceHeight : Nat) (quality : Rat)
        (destination : Affine Rat) (back : PointMap Rat) (tileWidth tileHeight : Nat)
        (window : SourceWindow Rat) (needed : Extent Rat) (point : Rat × Rat),
      (sourceWidth : Int) ≤ int64Max → (sourceHeight : Int) ≤ int64Max →
        SourceWindow.resolve source sourceWidth sourceHeight quality destination back tileWidth
          tileHeight = .window window →
        borderExtent destination back tileWidth tileHeight = some needed →
        needed.contains point.1 point.2 = true →
        SourceWindow.IsInterior sourceWidth sourceHeight (source.toPixel point.1 point.2) →
          window.Holds (source.toPixel point.1 point.2)) ∧
      ∀ (raster : MemoryRaster Rat) (frame : TileFrame Rat) (options : RenderOptions Rat)
        (places : RenderPlaces Rat) (maps : RenderMaps Rat) (window : SourceWindow Rat)
        (needed : Extent Rat) (tile : RasterTile Rat) (x y : Nat) (point : Rat × Rat),
      raster.IsComplete →
        (raster.info.width : Int) ≤ int64Max → (raster.info.height : Int) ≤ int64Max →
        (options.resampling = .nearest ∨ raster.info.bands = 1) →
        frame.places raster.info = .ok places →
        SourceWindow.resolve places.source raster.info.width raster.info.height options.quality
          places.destination.forward maps.back frame.width frame.height = .window window →
        borderExtent places.destination.forward maps.back frame.width frame.height =
          some needed →
        renderFrame raster.toDataset frame options maps = .ok tile →
        x < frame.width → y < frame.height →
        sourcePoint? frame places maps x y = some point →
        needed.contains point.1 point.2 = true →
        SourceWindow.IsInterior raster.info.width raster.info.height
          (places.source.toPixel point.1 point.2) →
          ∃ type sourceX sourceY, readType raster.info frame.mode = .ok type ∧
            IsNearby raster.info window (places.source.toPixel point.1 point.2) sourceX sourceY ∧
            tile.pixel? x y = some (shownPixel raster.info.noData type frame.mode
              (raster.pixelSamples sourceX sourceY)) := by
  refine ⟨?_, ?_⟩
  · intro source sourceWidth sourceHeight quality destination back tileWidth tileHeight window
      needed point smallWidth smallHeight resolved bordered inside interior
    exact SourceWindow.holds_of_resolve resolved smallWidth smallHeight bordered inside interior
  · intro raster frame options places maps window needed tile x y point complete smallWidth
      smallHeight nearest placed resolved bordered rendered inX inY mapped inside interior
    have held : window.Holds (places.source.toPixel point.1 point.2) :=
      SourceWindow.holds_of_resolve resolved smallWidth smallHeight bordered inside interior
    obtain ⟨type, data, typed, answered, rfl⟩ :=
      renderFrame_eq_ok raster.toDataset placed resolved rendered
    obtain ⟨sourceX, sourceY, nearby, shown⟩ := renderPixel_shows_nearby complete smallWidth
      smallHeight nearest resolved typed answered mapped interior held
    refine ⟨type, sourceX, sourceY, typed, nearby, ?_⟩
    have inTile : x < frame.width ∧ y < frame.height := ⟨inX, inY⟩
    unfold RasterTile.pixel?
    rw [if_pos inTile]
    exact (pixel?_renderPixels inX inY).trans (congrArg some shown)

/-- A raster whose rows and columns run diagonally through the world. -/
def diagonalRaster : MemoryRaster Rat where
  info := ⟨4, 4, 1, .byte, none, ⟨0, 1, 1, 0, 1, -1⟩, none⟩
  samples := Array.ofFn fun index : Fin 16 => Sample.ofFloat (Float.ofNat index)

/-- Four tile pixels in the middle of the raster. -/
def middleFrame : TileFrame Rat := ⟨⟨2, -1, 4, 1⟩, 2, 2, .image, none, none⟩

section DiagonalRaster

open scoped Allocator

/-- The lower right tile pixel shows the middle of a raster pixel. -/
theorem render_shows_nearest_diagonalRaster :
    ∃ window tile type sourceX sourceY,
      renderFrame diagonalRaster.toDataset middleFrame .standard
          ⟨fun x y => some (x, y), fun x y => some (x, y)⟩ = .ok tile ∧
        IsNearby diagonalRaster.info window (3 / 2, 3 / 2) sourceX sourceY ∧
        tile.pixel? 1 1 = some (shownPixel none type .image
          (diagonalRaster.pixelSamples sourceX sourceY)) := by
  have answers : (renderFrame diagonalRaster.toDataset middleFrame .standard
      ⟨fun x y => some (x, y), fun x y => some (x, y)⟩).isOk = true := by
    decide +kernel
  cases rendered : renderFrame diagonalRaster.toDataset middleFrame .standard
      ⟨fun x y => some (x, y), fun x y => some (x, y)⟩ with
  | error error =>
      rw [rendered] at answers
      cases answers
  | ok tile =>
      have shows := render_shows_nearest.2 diagonalRaster middleFrame .standard
        ⟨⟨⟨0, 1, 1, 0, 1, -1⟩, ⟨0, 1 / 2, 1 / 2, 0, 1 / 2, -1 / 2⟩⟩,
          ⟨⟨2, 1, 0, 1, 0, -1⟩, ⟨-2, 1, 0, 1, 0, -1⟩⟩⟩
        ⟨fun x y => some (x, y), fun x y => some (x, y)⟩ ⟨⟨0, 0, 3, 3⟩, 4, 4, 4 / 3, 4 / 3⟩
        ⟨2, -1, 4, 1⟩ tile 1 1 (3, 0) (Array.size_ofFn) (by decide) (by decide) (.inl rfl)
        (by decide +kernel) (by decide +kernel) (by decide +kernel) rendered (by decide)
        (by decide) (by decide +kernel) (by decide +kernel)
        ⟨by decide +kernel, by decide +kernel, by decide +kernel, by decide +kernel⟩
      obtain ⟨type, sourceX, sourceY, -, nearby, shown⟩ := shows
      have position : (GeoReference.toPixel ⟨⟨0, 1, 1, 0, 1, -1⟩,
          ⟨0, 1 / 2, 1 / 2, 0, 1 / 2, -1 / 2⟩⟩ 3 0 : Rat × Rat) = (3 / 2, 3 / 2) := by
        decide +kernel
      rw [position] at nearby
      exact ⟨_, tile, type, sourceX, sourceY, rfl, nearby, shown⟩

end DiagonalRaster

/-- A window does not hold all of these positions in larger rasters: this one is
cut as if the raster ended at `int64Max`. -/
theorem not_holds_beyond_int64Max :
    ¬ ∀ (source : GeoReference Rat) (sourceWidth sourceHeight : Nat) (quality : Rat)
        (destination : Affine Rat) (back : PointMap Rat) (tileWidth tileHeight : Nat)
        (window : SourceWindow Rat) (needed : Extent Rat) (x y : Nat) (point : Rat × Rat),
      SourceWindow.resolve source sourceWidth sourceHeight quality destination back tileWidth
          tileHeight = .window window →
        borderExtent destination back tileWidth tileHeight = some needed →
        x < tileWidth → y < tileHeight →
        back (destination.apply x y).1 (destination.apply x y).2 = some point →
        needed.contains point.1 point.2 = true →
        SourceWindow.IsInterior sourceWidth sourceHeight (source.toPixel point.1 point.2) →
          window.Holds (source.toPixel point.1 point.2) := by
  intro claimed
  have held := claimed ⟨⟨0, 1, 0, 0, 0, -1⟩, ⟨0, 1, 0, 0, 0, -1⟩⟩ 13835058055282163712 4 2
    ⟨0, 2305843009213693952, 0, 0, 0, -1⟩ (fun x y => some (x, y)) 5 1
    ⟨⟨0, 0, 9223372036854775806, 2⟩, 10, 1, 10 / 9223372036854775806, 1 / 2⟩
    ⟨0, -1, 11529215046068469760, 0⟩ 4 0 (9223372036854775808, 0) (by decide +kernel)
    (by decide +kernel) (by decide) (by decide) (by decide +kernel) (by decide +kernel)
    ⟨by decide +kernel, by decide +kernel, by decide +kernel, by decide +kernel⟩
  exact absurd held.lt_right (by decide +kernel)

end TileAtlas
