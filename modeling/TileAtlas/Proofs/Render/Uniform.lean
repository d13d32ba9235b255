import TileAtlas.Proofs.Render.Registration

/-!
Contract: a raster of one value gives tiles of one value.

Owns:
- `MemoryRaster.filled_eq_ok`: every pixel of a filled raster has the samples
  that it was filled with;
- `exists_floorToPixel_clamped` and `floorToPixel_outside`: near the raster a
  position always falls into the buffer, and elsewhere never;
- `render_filled`, for whole renders.

## Holes and spills

Half a pixel beside the raster is the line.  Up to it positions are clamped into
the buffer, wherever the window lies, so no hole is left inside the raster.
Beyond it they are not, and since the window lies inside the raster, the buffer
ends before: nothing is spilled.
-/

namespace TileAtlas

/-! ## Filled rasters -/

namespace MemoryRaster

variable {α : Type} {raster : MemoryRaster α} {info : DatasetInfo α} {pixel : Array Float}

theorem filled_eq_ok (made : filled info pixel = .ok raster) :
    raster.info = info ∧ raster.IsComplete ∧ ∀ x y, x < info.width → y < info.height →
      raster.pixelSamples x y = pixel.toList.map Sample.ofFloat := by
  obtain ⟨bands, -, rfl⟩ := filled_eq_ok_iff.mp made
  refine ⟨rfl, Array.size_map.trans (size_repeated bands), fun x y inX inY => ?_⟩
  have inPixels : y * info.width + x < info.width * info.height := rowMajor_lt inX inY
  have length : pixel.toList.length = info.bands := bands
  have row := slice_flatten_replicate pixel.toList inPixels
  rw [length] at row
  unfold pixelSamples pixelStart
  simp only [Array.toList_extract, Array.toList_map, List.extract_eq_take_drop]
  rw [Nat.add_sub_cancel_left, ← List.map_drop, ← List.map_take, row]

end MemoryRaster

/-! ## Positions and cells -/

/-- A clamped position falls into the buffer. -/
theorem exists_floorToPixel_clamped (position : Rat) {workLength : Nat} (some : 0 < workLength)
    (small : (workLength : Int) ≤ int64Max) : ∃ cell < workLength,
      Scalar.floorToPixel (Scalar.clampToPixels position workLength) = (cell : Int) := by
  have clamped := Scalar.floorToPixel_clampToPixels position small
  refine ⟨(min ((workLength - 1 : Nat) : Int) (max ⌊position⌋ 0)).toNat, by omega, ?_⟩
  rw [clamped]
  omega

/-- Along one axis, a position that is more than half a pixel beside the raster
does not fall into the buffer. -/
theorem floorToPixel_outside {position scale : Rat} {offset length sourceLength workLength : Nat}
    (scaled : scale = (workLength : Rat) / length) (wide : 1 ≤ length) (workWide : 1 ≤ workLength)
    (ends : offset + length ≤ sourceLength - 1) (small : (workLength : Int) ≤ int64Max)
    (beside : position < -1 / 2 ∨ (sourceLength : Rat) + 1 / 2 < position) :
    Scalar.floorToPixel ((position - Scalar.ofNat offset) * scale) < 0 ∨
      (workLength : Int) ≤ Scalar.floorToPixel ((position - Scalar.ofNat offset) * scale) := by
  have cast : (Scalar.ofNat offset : Rat) = offset := rfl
  have length_pos : (0 : Rat) < length := by exact_mod_cast wide
  have work_pos : (0 : Rat) < workLength := by exact_mod_cast workWide
  have offset_nonneg : (0 : Rat) ≤ offset := Nat.cast_nonneg offset
  have scale_pos : 0 < scale := scaled ▸ div_pos work_pos length_pos
  rw [cast, Scalar.floorToPixel_rat]
  unfold int64Min int64Max at *
  rcases beside with before | behind
  · have negative : ⌊(position - offset) * scale⌋ < 0 := by
      refine Int.floor_lt.mpr ?_
      push_cast
      exact mul_neg_of_neg_of_pos (by linarith) scale_pos
    omega
  · have reached : (workLength : Int) ≤ ⌊(position - offset) * scale⌋ := by
      have endsBefore : (offset : Rat) + length ≤ sourceLength := by
        exact_mod_cast ends.trans (Nat.sub_le _ _)
      have beyond : (length : Rat) ≤ position - offset := by linarith
      refine Int.le_floor.mpr ?_
      calc ((workLength : Int) : Rat) = length * scale := by
            rw [scaled, mul_div_cancel₀ _ length_pos.ne']
            rfl
        _ ≤ (position - offset) * scale := mul_le_mul_of_nonneg_right beyond scale_pos.le
    omega

theorem WorkingBuffer.sample_eq_transparent {raster : MemoryRaster Rat} {window : SourceWindow Rat}
    {type : PixelType} {data : ByteArray} {mode : RenderMode} {resampling : Resampling}
    {x y : Rat} (nearest : resampling = .nearest ∨ raster.info.bands = 1)
    (outside : pixelIndex? (Scalar.floorToPixel x) (Scalar.floorToPixel y) window.workWidth
      window.workHeight = none) :
    (ofBytes raster.info window type data).sample mode resampling x y = .transparent := by
  unfold ofBytes sample
  by_cases single : raster.info.bands = 1
  · rw [if_pos single]
    cases mode with
    | elevation =>
        simp only [NumericBuffer.packedElevation, NumericBuffer.heightSample?,
          NumericBuffer.sample?, outside]
        rfl
    | image =>
        simp only [NumericBuffer.color, NumericBuffer.value?, NumericBuffer.sample?, outside]
        rfl
  · obtain rfl := nearest.resolve_right single
    rw [if_neg single]
    simp only [Imagery.sample, outside]

/-! ## Tile pixels -/

/-- The tile pixel has a point in the raster's reference system.  The point
passes the test of the valid extent, if there is one, and its position is near
the raster. -/
def IsReached (info : DatasetInfo Rat) (frame : TileFrame Rat) (places : RenderPlaces Rat)
    (maps : RenderMaps Rat) (x y : Nat) : Prop :=
  ∃ point,
    maps.back (places.destination.toWorld x y).1 (places.destination.toWorld x y).2 = some point ∧
      (∀ valid, frame.validExtent = some valid → ∃ position,
        maps.toGeographic point.1 point.2 = some position ∧
          valid.contains position.1 position.2 = true) ∧
      IsNear info (places.source.toPixel point.1 point.2)

section Renders

variable [Allocator] {raster : MemoryRaster Rat} {frame : TileFrame Rat}
  {options : RenderOptions Rat} {places : RenderPlaces Rat} {maps : RenderMaps Rat}
  {window : SourceWindow Rat} {type : PixelType} {data : ByteArray} {x y : Nat}

/-- A tile pixel that is reached shows some pixel of the raster. -/
theorem renderPixel_of_reached (complete : raster.IsComplete)
    (nearest : options.resampling = .nearest ∨ raster.info.bands = 1)
    (typed : readType raster.info frame.mode = .ok type)
    (buffered : IsBuffered raster window type data)
    (reached : IsReached raster.info frame places maps x y) :
    ∃ sourceX sourceY, sourceX < raster.info.width ∧ sourceY < raster.info.height ∧
      renderPixel raster.info frame options places maps window
          (WorkingBuffer.ofBytes raster.info window type data) x y =
        shownPixel raster.info.noData type frame.mode (raster.pixelSamples sourceX sourceY) := by
  obtain ⟨point, mapped, valid, near⟩ := reached
  have sampled : sourcePoint? frame places maps x y = some point :=
    sourcePoint?_eq_some_iff.mpr ⟨mapped, valid⟩
  have isNear : isNearRaster raster.info (places.source.toPixel point.1 point.2).1
      (places.source.toPixel point.1 point.2).2 = true :=
    isNearRaster_iff.mpr near
  obtain ⟨wide, high, withinX, withinY⟩ := buffered.inside.fits
  unfold renderPixel
  rw [sampled]
  simp only
  unfold workingPosition
  simp only
  rw [if_pos isNear]
  obtain ⟨column, inX, atColumn⟩ := exists_floorToPixel_clamped
    (window.toWorking (places.source.toPixel point.1 point.2).1
      (places.source.toPixel point.1 point.2).2).1
    buffered.inside.one_le_workWidth buffered.smallWidth
  obtain ⟨row, inY, atRow⟩ := exists_floorToPixel_clamped
    (window.toWorking (places.source.toPixel point.1 point.2).1
      (places.source.toPixel point.1 point.2).2).2
    buffered.inside.one_le_workHeight buffered.smallHeight
  refine ⟨_, _, ?_, ?_, WorkingBuffer.sample_eq_shownPixel complete typed buffered.answered nearest
    atColumn atRow inX inY⟩
  · exact Nat.lt_of_lt_of_le (nearestSource_lt _ _ _ wide) withinX
  · exact Nat.lt_of_lt_of_le (nearestSource_lt _ _ _ high) withinY

/-- A tile pixel that is not reached stays empty. -/
theorem renderPixel_of_not_reached
    (nearest : options.resampling = .nearest ∨ raster.info.bands = 1)
    (buffered : IsBuffered raster window type data)
    (notReached : ¬ IsReached raster.info frame places maps x y) :
    renderPixel raster.info frame options places maps window
      (WorkingBuffer.ofBytes raster.info window type data) x y = .transparent := by
  unfold renderPixel
  cases sampled : sourcePoint? frame places maps x y with
  | none => rfl
  | some point =>
      obtain ⟨mapped, valid⟩ := sourcePoint?_eq_some_iff.mp sampled
      have notNear : ¬ IsNear raster.info (places.source.toPixel point.1 point.2) :=
        fun near => notReached ⟨point, mapped, valid, near⟩
      have notNearRaster : ¬ isNearRaster raster.info (places.source.toPixel point.1 point.2).1
          (places.source.toPixel point.1 point.2).2 = true :=
        fun near => notNear (isNearRaster_iff.mp near)
      simp only
      unfold workingPosition
      simp only
      rw [if_neg notNearRaster]
      refine WorkingBuffer.sample_eq_transparent nearest (pixelIndex?_of_outside ?_)
      by_cases beside : (places.source.toPixel point.1 point.2).1 < -1 / 2 ∨
          (raster.info.width : Rat) + 1 / 2 < (places.source.toPixel point.1 point.2).1
      · exact .inl (floorToPixel_outside buffered.scaleX buffered.inside.one_le_width
          buffered.inside.one_le_workWidth buffered.inside.right_le buffered.smallWidth beside)
      · refine .inr (floorToPixel_outside buffered.scaleY buffered.inside.one_le_height
          buffered.inside.one_le_workHeight buffered.inside.bottom_le buffered.smallHeight ?_)
        rw [not_or, not_lt, not_lt] at beside
        by_contra between
        rw [not_or, not_lt, not_lt] at between
        exact notNear ⟨beside.1, beside.2, between.1, between.2⟩

end Renders

/-- In exact numbers: a render of a filled raster that has a window shows one
colour or height, that of the samples of the raster, at every tile pixel that is
reached, and nothing at all others. -/
theorem render_filled [Allocator] (info : DatasetInfo Rat) (pixel : Array Float)
    (raster : MemoryRaster Rat) (frame : TileFrame Rat) (options : RenderOptions Rat) (places : RenderPlaces Rat)
    (maps : RenderMaps Rat) (window : SourceWindow Rat) (tile : RasterTile Rat)
    (made : MemoryRaster.filled info pixel = .ok raster)
    (nearest : options.resampling = .nearest ∨ info.bands = 1)
    (placed : frame.places info = .ok places)
    (resolved : SourceWindow.resolve places.source info.width info.height options.quality
      places.destination.forward maps.back frame.width frame.height = .window window)
    (rendered : renderFrame raster.toDataset frame options maps = .ok tile) :
    ∃ type, readType info frame.mode = .ok type ∧
      ∀ x y, x < frame.width → y < frame.height →
        (IsReached info frame places maps x y →
          tile.pixel? x y = some (shownPixel info.noData type frame.mode
            (pixel.toList.map Sample.ofFloat))) ∧
        (¬ IsReached info frame places maps x y → tile.pixel? x y = some .transparent) := by
  obtain ⟨rfl, complete, samples⟩ := MemoryRaster.filled_eq_ok made
  obtain ⟨type, data, typed, answered, rfl⟩ :=
    renderFrame_eq_ok raster.toDataset placed resolved rendered
  have buffered : IsBuffered raster window type data :=
    isBuffered_of_resolve resolved typed answered
  refine ⟨type, typed, fun x y inX inY => ?_⟩
  have inTile : x < frame.width ∧ y < frame.height := ⟨inX, inY⟩
  unfold RasterTile.pixel?
  rw [if_pos inTile]
  refine ⟨fun reached => (pixel?_renderPixels inX inY).trans (congrArg some ?_),
    fun notReached => (pixel?_renderPixels inX inY).trans (congrArg some ?_)⟩
  · obtain ⟨sourceX, sourceY, sourceInX, sourceInY, isPixel⟩ :=
      renderPixel_of_reached complete nearest typed buffered reached
    rw [samples sourceX sourceY sourceInX sourceInY] at isPixel
    exact isPixel
  · exact renderPixel_of_not_reached nearest buffered notReached

/-- A north-up raster with pixels of one unit, all of them seven. -/
def sevens : MemoryRaster Rat where
  info := ⟨4, 4, 1, .byte, none, ⟨0, 1, 0, 0, 0, -1⟩, none⟩
  samples := (Array.replicate 16 7.0).map Sample.ofFloat

/-- Four tile pixels across the upper right corner of the raster. -/
def cornerFrame : TileFrame Rat := ⟨⟨2, -4, 8, 2⟩, 2, 2, .image, none, none⟩

section Sevens

open scoped Allocator

/-- The lower left tile pixel shows the seven, and the upper right one nothing. -/
theorem render_filled_sevens :
    ∃ tile, renderFrame sevens.toDataset cornerFrame .standard
        ⟨fun x y => some (x, y), fun x y => some (x, y)⟩ = .ok tile ∧
      tile.pixel? 0 1 = some (shownPixel none .byte .image [Sample.ofFloat 7.0]) ∧
      tile.pixel? 1 0 = some .transparent := by
  obtain ⟨tile, rendered⟩ := exists_eq_ok (show (renderFrame sevens.toDataset cornerFrame .standard
    ⟨fun x y => some (x, y), fun x y => some (x, y)⟩).isOk = true by decide +kernel)
  obtain ⟨type, typed, shows⟩ := render_filled sevens.info #[7.0] sevens cornerFrame .standard
    ⟨⟨⟨0, 1, 0, 0, 0, -1⟩, ⟨0, 1, 0, 0, 0, -1⟩⟩,
      ⟨⟨2, 3, 0, 2, 0, -3⟩, ⟨-2 / 3, 1 / 3, 0, 2 / 3, 0, -1 / 3⟩⟩⟩
    ⟨fun x y => some (x, y), fun x y => some (x, y)⟩ ⟨⟨2, 0, 1, 3⟩, 4, 12, 4, 4⟩ tile
    (MemoryRaster.filled_eq_ok_iff.mpr ⟨rfl, ⟨by decide, by decide⟩, rfl⟩) (.inl rfl)
    (by decide +kernel) (by decide +kernel) rendered
  obtain rfl := Except.ok.inj ((show readType sevens.info cornerFrame.mode = .ok .byte from
    rfl).symm.trans typed)
  refine ⟨tile, rendered, (shows 0 1 (by decide) (by decide)).1 ?_,
    (shows 1 0 (by decide) (by decide)).2 ?_⟩
  · exact ⟨(2, -1), by decide +kernel, nofun,
      ⟨by decide +kernel, by decide +kernel, by decide +kernel, by decide +kernel⟩⟩
  · rintro ⟨point, mapped, -, near⟩
    obtain rfl := Option.some.inj mapped
    exact absurd near.right (by decide +kernel)

end Sevens

end TileAtlas
