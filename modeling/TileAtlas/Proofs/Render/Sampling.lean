import TileAtlas.Proofs.Raster.Cells
import TileAtlas.Proofs.Render.Reads

/-!
Contract: what the pixels of a rendered tile show.

Owns:
- `shownPixel`, the tile pixel for the samples of one raster pixel, and
  `shownSample`, that of a single sample as it is stored;
- `WorkingBuffer.sample_eq_shownPixel`: a cell of a working buffer shows the
  raster pixel that it was filled from;
- `sourcePoint?_eq_some_iff`, when a tile pixel has a point in the raster;
- `renderFrame_eq_ok`, a render with a window taken apart.

Does not own: which raster pixel fills a cell, and which cell belongs to a tile
pixel.
-/

namespace TileAtlas

/-- The byte of a colour sample. -/
def channelByte (sample : Sample) : UInt8 := UInt8.ofNat (PixelType.byte.wordOf sample)

/-- The tile pixel for the samples of one raster pixel: the height or the
spectrum colour of a single number as its type stores it, and otherwise the
colour of three or four bytes. -/
def shownPixel (noData : Option Float) (type : PixelType) (mode : RenderMode) :
    List Sample → Rgba
  | [number] =>
      let stored := type.decode (type.encode number)
      match mode with
      | .elevation =>
          if NumericBuffer.isMissingHeight noData stored.value then .transparent
          else Rgba.ofWord stored.singleWord
      | .image =>
          if NumericBuffer.isMissingColor noData stored.value then .transparent
          else Rgba.spectrum stored.value
  | [red, green, blue] => ⟨channelByte red, channelByte green, channelByte blue, 255⟩
  | [red, green, blue, alpha] =>
      ⟨channelByte red, channelByte green, channelByte blue, channelByte alpha⟩
  | _ => .transparent

/-- The pixel of a stored sample: nothing, its height or its spectrum colour. -/
def shownSample (noData : Option Float) (mode : RenderMode) (sample : Sample) : Rgba :=
  match mode with
  | .elevation =>
      if NumericBuffer.isMissingHeight noData sample.value then .transparent
      else Rgba.ofWord sample.singleWord
  | .image =>
      if NumericBuffer.isMissingColor noData sample.value then .transparent
      else Rgba.spectrum sample.value

theorem shownPixel_singleton (noData : Option Float) (type : PixelType) (mode : RenderMode)
    (number : Sample) : shownPixel noData type mode [number] =
      shownSample noData mode (type.decode (type.encode number)) :=
  rfl

/-! ## Cells of a buffer -/

section Cells

variable {column row : Nat}

theorem NumericBuffer.sample?_eq_stored {buffer : NumericBuffer} {number : Sample}
    (inX : column < buffer.width) (inY : row < buffer.height)
    (cell : Bytes.slice? buffer.data ((row * buffer.width + column) * buffer.type.size)
      buffer.type.size = some (buffer.type.encode number)) :
    buffer.sample? column row = some (buffer.type.decode (buffer.type.encode number)) := by
  unfold sample?
  rw [pixelIndex?_of_inside inX inY]
  show (Bytes.slice? buffer.data _ _).map _ = _
  rw [cell]
  rfl

section Held

variable {buffer : NumericBuffer} {x y : Int} {sample : Sample}
  (held : buffer.sample? x y = some sample)

include held

theorem NumericBuffer.packedElevation_of_sample :
    buffer.packedElevation x y = shownSample buffer.noData .elevation sample := by
  unfold packedElevation heightSample? shownSample
  rw [held]
  simp only [Option.filter_some]
  cases isMissingHeight buffer.noData sample.value with
  | true => rfl
  | false => rfl

theorem NumericBuffer.color_of_sample :
    buffer.color x y = shownSample buffer.noData .image sample := by
  unfold color value? shownSample
  rw [held]
  rfl

end Held

/-- A cell of single numbers shows the number that it was filled with. -/
theorem NumericBuffer.shows {buffer : NumericBuffer} {number : Sample}
    (held : buffer.sample? column row = some (buffer.type.decode (buffer.type.encode number))) :
    buffer.packedElevation column row =
        shownPixel buffer.noData buffer.type .elevation [number] ∧
      buffer.color column row = shownPixel buffer.noData buffer.type .image [number] := by
  rw [shownPixel_singleton, shownPixel_singleton]
  exact ⟨packedElevation_of_sample held, color_of_sample held⟩

/-- A cell of colour bytes shows the colour that it was filled with. -/
theorem Imagery.shows {image : Imagery} {samples : List Sample} (noData : Option Float)
    (mode : RenderMode) (inX : column < image.width) (inY : row < image.height)
    (colored : image.bands = 3 ∨ image.bands = 4) (count : samples.length = image.bands)
    (cell : Bytes.slice? image.data ((row * image.width + column) * image.bands) image.bands =
      some (samples.flatMap PixelType.byte.encode)) :
    image.sample column row = shownPixel noData .byte mode samples := by
  unfold sample
  rw [pixelIndex?_of_inside inX inY]
  simp only
  rw [cell]
  rcases colored with three | four
  · obtain ⟨red, green, blue, rfl⟩ := List.length_eq_three.mp (count.trans three)
    rfl
  · match samples, count.trans four with
    | [red, green, blue, alpha], _ => rfl

end Cells

variable {α : Type}

theorem readType_eq_ok {info : DatasetInfo α} {mode : RenderMode} {type : PixelType}
    (typed : readType info mode = .ok type) :
    info.bands = 1 ∨ (info.bands = 3 ∨ info.bands = 4) ∧ type = .byte := by
  unfold readType at typed
  split at typed
  · next single => exact .inl single
  · split at typed
    · next colored =>
        cases typed
        exact .inr ⟨colored.1, rfl⟩
    · cases typed

variable [Scalar α]

/-- A cell of a window that was read shows the raster pixel nearest to it. -/
theorem WorkingBuffer.sample_eq_shownPixel [Allocator] {raster : MemoryRaster α}
    (complete : raster.IsComplete) {window : SourceWindow α} {type : PixelType}
    {data : ByteArray} {mode : RenderMode} {resampling : Resampling} {x y : α} {column row : Nat}
    (typed : readType raster.info mode = .ok type)
    (answered : raster.read ⟨window.region, window.workWidth, window.workHeight, type⟩ = .ok data)
    (nearest : resampling = .nearest ∨ raster.info.bands = 1)
    (atColumn : Scalar.floorToPixel x = column) (atRow : Scalar.floorToPixel y = row)
    (inX : column < window.workWidth) (inY : row < window.workHeight) :
    (ofBytes raster.info window type data).sample mode resampling x y =
      shownPixel raster.info.noData type mode
        (raster.pixelSamples
          (nearestSource α column window.workWidth window.region.xOff window.region.width)
          (nearestSource α row window.workHeight window.region.yOff window.region.height)) := by
  obtain ⟨⟨wide, high, withinX, withinY⟩, -, -⟩ := MemoryRaster.read_eq_ok answered
  have sourceInX := nearestSource_lt (α := α) column window.workWidth window.region.xOff wide
  have sourceInY := nearestSource_lt (α := α) row window.workHeight window.region.yOff high
  have count := MemoryRaster.length_pixelSamples complete (Nat.lt_of_lt_of_le sourceInX withinX)
    (Nat.lt_of_lt_of_le sourceInY withinY)
  have cell := raster.slice?_read complete answered inX inY
  simp only [MemoryRaster.pixelBytes] at cell
  generalize raster.pixelSamples _ _ = samples at count cell ⊢
  unfold ofBytes
  rcases readType_eq_ok typed with single | ⟨colored, rfl⟩
  · obtain ⟨number, rfl⟩ := List.length_eq_one_iff.mp (count.trans single)
    rw [single, Nat.one_mul, List.flatMap_singleton] at cell
    have held := @NumericBuffer.sample?_eq_stored column row
      ⟨data, window.workWidth, window.workHeight, type, raster.info.noData⟩ number inX inY cell
    have shows := NumericBuffer.shows held
    rw [if_pos single]
    unfold sample
    cases mode with
    | elevation =>
        simp only
        rw [atColumn, atRow]
        exact shows.1
    | image =>
        simp only
        rw [atColumn, atRow]
        exact shows.2
  · have notSingle : raster.info.bands ≠ 1 := by omega
    obtain rfl := nearest.resolve_right notSingle
    rw [if_neg notSingle]
    unfold sample
    simp only
    rw [atColumn, atRow]
    have perByte : raster.info.bands * PixelType.byte.size = raster.info.bands := Nat.mul_one _
    rw [perByte] at cell
    exact @Imagery.shows column row
      ⟨data, window.workWidth, window.workHeight, raster.info.bands⟩ samples raster.info.noData
      mode inX inY colored count cell

/-! ## Whole tiles -/

/-- A tile pixel has a point when the point has an image in the raster's
reference system and passes the test of the valid extent. -/
theorem sourcePoint?_eq_some_iff {frame : TileFrame α} {places : RenderPlaces α}
    {maps : RenderMaps α} {x y : Nat} {point : α × α} :
    sourcePoint? frame places maps x y = some point ↔
      maps.back (places.destination.toWorld (Scalar.ofNat x) (Scalar.ofNat y)).1
          (places.destination.toWorld (Scalar.ofNat x) (Scalar.ofNat y)).2 = some point ∧
        ∀ valid, frame.validExtent = some valid → ∃ position,
          maps.toGeographic point.1 point.2 = some position ∧
            valid.contains position.1 position.2 = true := by
  unfold sourcePoint?
  simp only [Option.bind_eq_bind]
  cases maps.back (places.destination.toWorld (Scalar.ofNat x) (Scalar.ofNat y)).1
      (places.destination.toWorld (Scalar.ofNat x) (Scalar.ofNat y)).2 with
  | none => simp
  | some image =>
      rw [Option.bind_some]
      cases frame.validExtent with
      | none => simp
      | some valid =>
          simp only [Option.some.injEq, forall_eq']
          constructor
          · intro kept
            obtain ⟨position, geographic, kept⟩ := Option.bind_eq_some_iff.mp kept
            split at kept
            · next inside =>
                obtain rfl := Option.some.inj kept
                exact ⟨rfl, position, geographic, inside⟩
            · cases kept
          · rintro ⟨rfl, position, geographic, inside⟩
            rw [geographic, Option.bind_some, if_pos inside]
            rfl

theorem pixel?_renderPixels {info : DatasetInfo α} {frame : TileFrame α}
    {options : RenderOptions α} {places : RenderPlaces α} {maps : RenderMaps α}
    {window : SourceWindow α} {buffer : WorkingBuffer} {x y : Nat} (inX : x < frame.width)
    (inY : y < frame.height) :
    (renderPixels info frame options places maps window buffer)[y * frame.width + x]? =
      some (renderPixel info frame options places maps window buffer x y) := by
  have inTile : y * frame.width + x < frame.width * frame.height := rowMajor_lt inX inY
  unfold renderPixels
  rw [Array.getElem?_ofFn, dif_pos inTile]
  simp only
  rw [rowMajor_mod y inX, rowMajor_div y inX]

/-- What a plan to read gives, if it is carried out. -/
theorem RenderPlan.carryOut_eq_ok [Allocator] {info : DatasetInfo α}
    {read : ReadRequest → Except Error ByteArray} {frame : TileFrame α} {options : RenderOptions α}
    {places : RenderPlaces α} {maps : RenderMaps α} {window : SourceWindow α} {type : PixelType}
    {tile : RasterTile α}
    (rendered : (RenderPlan.read window type).carryOut info read frame options places maps =
      .ok tile) :
    ∃ data, read ⟨window.region, window.workWidth, window.workHeight, type⟩ = .ok data ∧
      tile = {
        width := frame.width
        height := frame.height
        mode := frame.mode
        pixels := renderPixels info frame options places maps window
          (WorkingBuffer.ofBytes info window type data)
        subExtent := frame.subExtent } := by
  obtain ⟨data, answered, rendered⟩ := bind_eq_ok rendered
  obtain ⟨length, -, rendered⟩ := bind_eq_ok rendered
  split at rendered
  · cases rendered
    exact ⟨data, answered, rfl⟩
  · cases rendered

/-- A render that has a window reads it, and shows what it has read. -/
theorem renderFrame_eq_ok [Allocator] (dataset : Dataset α) {frame : TileFrame α}
    {options : RenderOptions α} {places : RenderPlaces α} {maps : RenderMaps α} {window : SourceWindow α} {tile : RasterTile α}
    (placed : frame.places dataset.info = .ok places)
    (resolved : SourceWindow.resolve places.source dataset.info.width dataset.info.height
      options.quality places.destination.forward maps.back frame.width frame.height =
        .window window)
    (rendered : renderFrame dataset frame options maps = .ok tile) :
    ∃ type data, readType dataset.info frame.mode = .ok type ∧
      dataset.read ⟨window.region, window.workWidth, window.workHeight, type⟩ = .ok data ∧
        tile = {
          width := frame.width
          height := frame.height
          mode := frame.mode
          pixels := renderPixels dataset.info frame options places maps window
            (WorkingBuffer.ofBytes dataset.info window type data)
          subExtent := frame.subExtent } := by
  unfold renderFrame at rendered
  rw [TileFrame.renderWith_eq, placed] at rendered
  change RenderPlan.make dataset.info frame options places maps >>= _ = _ at rendered
  obtain ⟨plan, made, rendered⟩ := bind_eq_ok rendered
  unfold RenderPlan.make at made
  rw [resolved] at made
  simp only at made
  cases typed : readType dataset.info frame.mode with
  | error error =>
      rw [typed] at made
      cases made
  | ok type =>
      rw [typed] at made
      cases made
      obtain ⟨data, answered, shown⟩ := RenderPlan.carryOut_eq_ok rendered
      exact ⟨type, data, rfl, answered, shown⟩

end TileAtlas
