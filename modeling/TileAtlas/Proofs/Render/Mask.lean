import TileAtlas.Proofs.Render.Sampling
import TileAtlas.Proofs.Tile

/-!
Contract: the valid extent of a request is a mask.

Owns:
- `TileFrame.within`, a frame with another valid extent, and
  `RenderPlan.make_within`: the plan does not look at it;
- `RasterTile.mask`, and `RenderPlan.carryOut_within`: a render with a valid
  extent is the render without, masked;
- `render_within`, for requests, all reference systems and 64-bit floats.
-/

namespace TileAtlas

/-! ## Masks -/

namespace RasterTile

variable {α : Type}

/-- Empty the pixels that are not kept. -/
def mask (keep : Nat → Nat → Bool) (tile : RasterTile α) : RasterTile α :=
  { tile with
    pixels := tile.pixels.mapIdx fun index pixel =>
      if keep (index % tile.width) (index / tile.width) then pixel else .transparent }

theorem pixel?_mask (keep : Nat → Nat → Bool) (tile : RasterTile α) (x y : Nat) :
    (tile.mask keep).pixel? x y =
      (tile.pixel? x y).map fun pixel => if keep x y then pixel else .transparent := by
  by_cases inTile : x < tile.width ∧ y < tile.height
  · have masked : (tile.mask keep).pixel? x y = (tile.mask keep).pixels[y * tile.width + x]? :=
      pixel?_of_lt inTile.1 inTile.2
    rw [masked, pixel?_of_lt inTile.1 inTile.2, mask, Array.getElem?_mapIdx,
      rowMajor_mod y inTile.1, rowMajor_div y inTile.1]
  · unfold pixel?
    rw [if_neg inTile]
    exact if_neg inTile

end RasterTile

namespace RenderPlan

variable {α : Type}

/-- What a plan leaves of a tile that was rendered without a valid extent: blank
tiles are not masked. -/
def masked (plan : RenderPlan α) (keep : Nat → Nat → Bool) (tile : RasterTile α) :
    RasterTile α :=
  match plan with
  | .blank => tile
  | .read _ _ => tile.mask keep

theorem pixel?_masked_of_keep (plan : RenderPlan α) {keep : Nat → Nat → Bool}
    (tile : RasterTile α) {x y : Nat} (kept : keep x y = true) :
    (plan.masked keep tile).pixel? x y = tile.pixel? x y := by
  cases plan with
  | blank => rfl
  | read window type =>
      show (tile.mask keep).pixel? x y = _
      rw [RasterTile.pixel?_mask, kept]
      exact Option.map_id'

end RenderPlan

/-! ## Renders through given maps -/

section Frames

variable {α : Type} [Scalar α]

/-- The frame with another valid extent. -/
def TileFrame.within (frame : TileFrame α) (valid : Option (Extent α)) : TileFrame α :=
  { frame with validExtent := valid }

/-- The raster's point under a tile pixel has an image in degrees that the extent
contains. -/
def isKept (places : RenderPlaces α) (maps : RenderMaps α) (valid : Extent α) (x y : Nat) : Bool :=
  let world := places.destination.toWorld (Scalar.ofNat x) (Scalar.ofNat y)
  ((maps.back world.1 world.2).bind fun point => maps.toGeographic point.1 point.2).any
    fun position => valid.contains position.1 position.2

variable {info : DatasetInfo α} {frame : TileFrame α} {options : RenderOptions α}
  {places : RenderPlaces α} {plain maps : RenderMaps α}

theorem isKept_of_contains {valid larger : Extent α}
    (enlarged : ∀ x y, valid.contains x y = true → larger.contains x y = true) {x y : Nat}
    (kept : isKept places maps valid x y = true) : isKept places maps larger x y = true := by
  unfold isKept at kept ⊢
  rw [Option.any_eq_true_iff_get] at kept ⊢
  obtain ⟨isSome, inside⟩ := kept
  exact ⟨isSome, enlarged _ _ inside⟩

/-- A plan looks at the map from the tile to the raster, and at nothing else that
a valid extent brings along. -/
theorem RenderPlan.make_within (same : maps.back = plain.back) (valid : Option (Extent α)) :
    make info (frame.within valid) options places maps =
      make info frame options places plain := by
  unfold make
  rw [same]
  rfl

theorem sourcePoint?_within (same : maps.back = plain.back) (valid : Extent α) (x y : Nat) :
    sourcePoint? (frame.within (some valid)) places maps x y =
      if isKept places maps valid x y then sourcePoint? (frame.within none) places plain x y
      else none := by
  unfold sourcePoint? isKept TileFrame.within
  rw [← same]
  simp only
  cases maps.back (places.destination.toWorld (Scalar.ofNat x) (Scalar.ofNat y)).1
      (places.destination.toWorld (Scalar.ofNat x) (Scalar.ofNat y)).2 with
  | none => rfl
  | some point =>
      simp only [Option.bind_eq_bind, Option.bind_some]
      cases maps.toGeographic point.1 point.2 with
      | none => rfl
      | some position => rfl

theorem renderPixel_within (same : maps.back = plain.back) (valid : Extent α)
    (window : SourceWindow α) (buffer : WorkingBuffer) (x y : Nat) :
    renderPixel info (frame.within (some valid)) options places maps window buffer x y =
      if isKept places maps valid x y then
        renderPixel info (frame.within none) options places plain window buffer x y
      else .transparent := by
  unfold renderPixel
  rw [sourcePoint?_within same]
  cases isKept places maps valid x y with
  | false => rfl
  | true => rfl

theorem renderPixels_within (same : maps.back = plain.back) (valid : Extent α)
    (window : SourceWindow α) (buffer : WorkingBuffer) :
    renderPixels info (frame.within (some valid)) options places maps window buffer =
      (renderPixels info (frame.within none) options places plain window buffer).mapIdx
        fun index pixel =>
          if isKept places maps valid (index % frame.width) (index / frame.width) then pixel
          else .transparent := by
  refine Array.ext ?_ fun index _ _ => ?_
  · simp only [renderPixels, Array.size_mapIdx, Array.size_ofFn]
    rfl
  · simp only [renderPixels, Array.getElem_mapIdx, Array.getElem_ofFn]
    exact renderPixel_within same valid window buffer _ _

/-- With a valid extent, the same reads are made and refused, and the tile is the
one without, masked. -/
theorem RenderPlan.carryOut_within [Allocator] (plan : RenderPlan α) (same : maps.back = plain.back)
    (valid : Extent α) (read : ReadRequest → Except Error ByteArray) :
    plan.carryOut info read (frame.within (some valid)) options places maps =
      (plan.carryOut info read (frame.within none) options places plain).map
        (plan.masked (isKept places maps valid)) := by
  cases plan with
  | blank =>
      simp only [carryOut, ofExcept_eq]
      show frame.blank options = (frame.blank options).map id
      cases frame.blank options <;> rfl
  | read window type =>
      simp only [carryOut, ofExcept_eq]
      cases read ⟨window.region, window.workWidth, window.workHeight, type⟩ with
      | error error => rfl
      | ok data =>
          have sameCount : RasterTile.byteCount (frame.within (some valid)).width
              (frame.within (some valid)).height =
                RasterTile.byteCount (frame.within none).width (frame.within none).height := rfl
          rw [sameCount]
          cases RasterTile.byteCount (frame.within none).width (frame.within none).height with
          | error error => rfl
          | ok length =>
              show (if Allocator.grants length then _ else _) =
                Except.map _ (if Allocator.grants length then _ else _)
              split
              · rw [renderPixels_within same]
                rfl
              · rfl

/-- A tile that was rendered has all its pixels. -/
theorem RenderPlan.exists_pixel_of_carryOut [Allocator] {plan : RenderPlan α}
    {read : ReadRequest → Except Error ByteArray} {tile : RasterTile α}
    (rendered : plan.carryOut info read frame options places maps = .ok tile) {x y : Nat}
    (inX : x < tile.width) (inY : y < tile.height) : ∃ pixel, tile.pixel? x y = some pixel := by
  have full : tile.pixels.size = tile.width * tile.height := by
    cases plan with
    | blank =>
        simp only [carryOut, ofExcept_eq] at rendered
        rw [TileFrame.eq_blankTile rendered]
        exact Array.size_replicate
    | read window type =>
        obtain ⟨data, -, rfl⟩ := RenderPlan.carryOut_eq_ok rendered
        exact Array.size_ofFn
  rw [RasterTile.pixel?_of_lt inX inY]
  exact ⟨_, Array.getElem?_eq_getElem (full ▸ rowMajor_lt inX inY)⟩

end Frames

/-! ## Requests -/

namespace TileRequest

variable {request : TileRequest} {info : DatasetInfo Float} {options : RenderOptions Float}

/-- The request with another valid extent. -/
def within (request : TileRequest) (valid : Option (Extent Float)) : TileRequest :=
  { request with validExtent := valid }

/-- The reads that a render makes, in their order. -/
def reads [Allocator] (request : TileRequest) (dataset : Dataset Float)
    (options : RenderOptions Float) : List ReadRequest :=
  (request.renderNoted dataset options (request.maps dataset.info)).2

/-- The maps from the tile's reference system to the raster's, and from there to
degrees. -/
def degreeMaps (request : TileRequest) (info : DatasetInfo Float) :
    Except Error (RenderMaps Float) := do
  let source ← request.sourceReference info
  let (_, back) ← Transformer.pair source request.srs
  let degrees ← SpatialReference.ofCode SpatialReference.wgs84Code
  let toDegrees ← Transformer.between source degrees .forward
  return ⟨back.map, toDegrees.map⟩

/-- The back-transformed point of a tile pixel has an image in degrees, and the
extent contains the image. -/
def keeps (request : TileRequest) (info : DatasetInfo Float) (valid : Extent Float) (x y : Nat) :
    Bool :=
  match request.places info, request.degreeMaps info with
  | .ok places, .ok maps => isKept places maps valid x y
  | _, _ => false

theorem back_eq_of_degreeMaps {plain maps : RenderMaps Float}
    (mapped : (request.within none).maps info = .ok plain)
    (degrees : request.degreeMaps info = .ok maps) : maps.back = plain.back := by
  obtain ⟨source, named, mapped⟩ := bind_eq_ok mapped
  obtain ⟨⟨forward, back⟩, paired, mapped⟩ := bind_eq_ok mapped
  cases mapped
  obtain ⟨sameSource, sameNamed, degrees⟩ := bind_eq_ok degrees
  obtain rfl := Except.ok.inj (named.symm.trans sameNamed)
  obtain ⟨sameBoth, samePaired, degrees⟩ := bind_eq_ok degrees
  obtain rfl := Except.ok.inj (paired.symm.trans samePaired)
  obtain ⟨_, -, degrees⟩ := bind_eq_ok degrees
  obtain ⟨_, -, degrees⟩ := bind_eq_ok degrees
  cases degrees
  rfl

theorem keeps_of_contains {valid larger : Extent Float}
    (enlarged : ∀ x y, valid.contains x y = true → larger.contains x y = true) {x y : Nat}
    (kept : request.keeps info valid x y = true) : request.keeps info larger x y = true := by
  unfold keeps at kept ⊢
  split at kept
  · exact isKept_of_contains enlarged kept
  · cases kept

/-- A render that succeeds took all steps up to carrying its plan out. -/
theorem render_eq_ok [Allocator] {dataset : Dataset Float} {tile : RasterTile Float}
    (rendered : request.render dataset options = .ok tile) :
    ∃ places maps plan, request.places dataset.info = .ok places ∧
      request.maps dataset.info = .ok maps ∧
      RenderPlan.make dataset.info request.toTileFrame options places maps = .ok plan ∧
      plan.carryOut dataset.info dataset.read request.toTileFrame options places maps =
        .ok tile := by
  unfold render at rendered
  rw [TileFrame.renderWith_eq] at rendered
  obtain ⟨places, placed, rendered⟩ := bind_eq_ok rendered
  obtain ⟨maps, mapped, rendered⟩ := bind_eq_ok rendered
  obtain ⟨plan, made, rendered⟩ := bind_eq_ok rendered
  exact ⟨places, maps, plan, placed, mapped, made, rendered⟩

/-- Requests that are rendered without a valid extent are rendered with each, if
their points have positions in degrees at all. -/
theorem render_within_some [Allocator] {dataset : Dataset Float} {plain : RasterTile Float}
    {maps : RenderMaps Float} (rendered : (request.within none).render dataset options = .ok plain)
    (degrees : request.degreeMaps dataset.info = .ok maps) :
    ∃ plan, (request.within none).plan dataset.info options = .ok plan ∧
      ∀ valid, (request.within (some valid)).plan dataset.info options = .ok plan ∧
        (request.within (some valid)).render dataset options =
          .ok (plan.masked (request.keeps dataset.info valid) plain) := by
  obtain ⟨places, plainMaps, plan, placed, mapped, made, rendered⟩ := render_eq_ok rendered
  have same := back_eq_of_degreeMaps mapped degrees
  have keeps_eq (valid : Extent Float) :
      request.keeps dataset.info valid = isKept places maps valid := by
    funext x y
    unfold keeps
    rw [degrees, show request.places dataset.info = .ok places from placed]
  have planned (valid : Extent Float) : RenderPlan.make dataset.info
      (request.within (some valid)).toTileFrame options places maps = .ok plan :=
    (RenderPlan.make_within same (some valid)).trans made
  have placedToo (valid : Extent Float) :
      (request.within (some valid)).places dataset.info = .ok places := placed
  have mappedToo (valid : Extent Float) :
      (request.within (some valid)).maps dataset.info = .ok maps := degrees
  refine ⟨plan, ?_, fun valid => ⟨?_, ?_⟩⟩
  · unfold TileRequest.plan
    rw [placed, mapped]
    exact made
  · unfold TileRequest.plan
    rw [placedToo, mappedToo]
    exact planned valid
  · unfold render
    rw [TileFrame.renderWith_eq, placedToo, mappedToo, keeps_eq]
    change RenderPlan.make _ _ _ _ _ >>= _ = _
    rw [planned]
    refine (plan.carryOut_within same valid dataset.read).trans ?_
    rw [show plan.carryOut dataset.info dataset.read (request.toTileFrame.within none) options
      places plainMaps = .ok plain from rendered]
    rfl

theorem reads_eq [Allocator] (request : TileRequest) (dataset : Dataset Float)
    (options : RenderOptions Float) :
    request.reads dataset options =
      ((request.plan dataset.info options).toOption.bind RenderPlan.request?).toList := by
  have sameMaps : (request.plan dataset.info options).toOption =
      request.plan? dataset.info options (request.maps dataset.info) := by
    unfold TileRequest.plan TileFrame.plan?
    cases request.places dataset.info with
    | error error => rfl
    | ok places =>
        cases request.maps dataset.info with
        | error error => rfl
        | ok maps => rfl
  rw [sameMaps, reads, TileFrame.renderNoted_eq]

end TileRequest

/-- A render with a valid extent makes the reads of the render without, and
gives a tile of the same size, mode and place.  A blank tile is the same.
Otherwise a pixel is kept if its point has a position in degrees in the extent,
and emptied if not.  A larger extent keeps the pixels that were kept, as they
were. -/
theorem render_within [Allocator] (dataset : Dataset Float) (options : RenderOptions Float)
    (request : TileRequest) (valid : Extent Float) (plain masked : RasterTile Float)
    (rendered : (request.within none).render dataset options = .ok plain)
    (renderedMasked : (request.within (some valid)).render dataset options = .ok masked) :
    (request.within (some valid)).reads dataset options =
        (request.within none).reads dataset options ∧
      (masked.width = plain.width ∧ masked.height = plain.height ∧ masked.mode = plain.mode ∧
        masked.subExtent = plain.subExtent) ∧
      (∃ plan, (request.within none).plan dataset.info options = .ok plan ∧
        (plan = .blank → masked = plain) ∧
        (plan ≠ .blank → ∀ x y, x < plain.width → y < plain.height →
          ∃ pixel, plain.pixel? x y = some pixel ∧
            masked.pixel? x y =
              some (if request.keeps dataset.info valid x y then pixel else .transparent))) ∧
      ∀ larger : Extent Float,
        (∀ x y, valid.contains x y = true → larger.contains x y = true) →
          ∃ wider, (request.within (some larger)).render dataset options = .ok wider ∧
            ∀ x y, request.keeps dataset.info valid x y = true →
              wider.pixel? x y = masked.pixel? x y := by
  obtain ⟨_, maps, _, -, degrees, -⟩ := TileRequest.render_eq_ok renderedMasked
  obtain ⟨plan, planned, each⟩ := TileRequest.render_within_some rendered degrees
  obtain rfl := Except.ok.inj ((each valid).2.symm.trans renderedMasked)
  refine ⟨?_, ?_, ⟨plan, planned, ?_, ?_⟩, ?_⟩
  · rw [TileRequest.reads_eq, TileRequest.reads_eq, (each valid).1, planned]
  · cases plan with
    | blank => exact ⟨rfl, rfl, rfl, rfl⟩
    | read window type => exact ⟨rfl, rfl, rfl, rfl⟩
  · rintro rfl
    rfl
  · intro notBlank x y inX inY
    obtain ⟨_, _, _, -, -, -, carriedOut⟩ := TileRequest.render_eq_ok rendered
    obtain ⟨pixel, shown⟩ := RenderPlan.exists_pixel_of_carryOut carriedOut inX inY
    refine ⟨pixel, shown, ?_⟩
    cases plan with
    | blank => exact absurd rfl notBlank
    | read window type =>
        show (plain.mask _).pixel? x y = _
        rw [RasterTile.pixel?_mask, shown]
        rfl
  · intro larger enlarged
    refine ⟨_, (each larger).2, fun x y kept => ?_⟩
    rw [plan.pixel?_masked_of_keep plain kept,
      plan.pixel?_masked_of_keep plain (TileRequest.keeps_of_contains enlarged kept)]

/-- A raster of four by four degrees. -/
def degreeRaster : MemoryRaster Float where
  info := ⟨4, 4, 1, .byte, none, ⟨0.0, 1.0, 0.0, 4.0, 0.0, -1.0⟩, some "EPSG:4326"⟩
  samples := Array.replicate 16 (Sample.ofFloat 7.0)

/-- Four tile pixels over all of the raster. -/
def degreeRequest : TileRequest where
  extent := ⟨0.0, 0.0, 4.0, 4.0⟩
  width := 2
  height := 2
  mode := .image
  validExtent := none
  subExtent := none
  srs := ⟨"EPSG:4326", some 4326, "+proj=longlat +datum=WGS84 +no_defs", true⟩
  sourceSrs := none

/-- It holds the corners of the left tile pixels alone. -/
def leftDegree : Extent Float := ⟨0.0, 0.0, 1.0, 4.0⟩

section LeftDegree

open scoped Allocator

theorem render_within_leftDegree :
    ∃ plain masked pixel,
      (degreeRequest.within none).render degreeRaster.toDataset .standard = .ok plain ∧
        (degreeRequest.within (some leftDegree)).render degreeRaster.toDataset .standard =
          .ok masked ∧
        plain.pixel? 0 0 = some pixel ∧ masked.pixel? 0 0 = some pixel ∧
        masked.pixel? 1 0 = some .transparent := by
  obtain ⟨plain, rendered⟩ := exists_eq_ok (show ((degreeRequest.within none).render
    degreeRaster.toDataset .standard).isOk = true by decide +kernel)
  obtain ⟨masked, renderedMasked⟩ := exists_eq_ok (show ((degreeRequest.within
    (some leftDegree)).render degreeRaster.toDataset .standard).isOk = true by decide +kernel)
  obtain ⟨-, -, ⟨plan, planned, -, shows⟩, -⟩ := render_within degreeRaster.toDataset .standard
    degreeRequest leftDegree plain masked rendered renderedMasked
  have notBlank : plan ≠ .blank := by
    rintro rfl
    have reads : ((degreeRequest.within none).plan degreeRaster.info .standard).toOption.bind
        RenderPlan.request? ≠ none := by
      decide +kernel
    exact reads (congrArg (fun plan => plan.toOption.bind RenderPlan.request?) planned)
  have size : plain.width = 2 ∧ plain.height = 2 := by
    have sized : ((degreeRequest.within none).render degreeRaster.toDataset .standard).toOption.map
        (fun tile => (tile.width, tile.height)) = some (2, 2) := by
      decide +kernel
    rw [rendered] at sized
    exact Prod.mk.inj (Option.some.inj sized)
  have keepsLeft : degreeRequest.keeps degreeRaster.toDataset.info leftDegree 0 0 = true := by
    decide +kernel
  have emptiesRight : degreeRequest.keeps degreeRaster.toDataset.info leftDegree 1 0 = false := by
    decide +kernel
  obtain ⟨kept, isPlain, isKept⟩ := shows notBlank 0 0 (by omega) (by omega)
  obtain ⟨_, -, isEmptied⟩ := shows notBlank 1 0 (by omega) (by omega)
  rw [keepsLeft, if_pos rfl] at isKept
  rw [emptiesRight] at isEmptied
  exact ⟨plain, masked, kept, rendered, renderedMasked, isPlain, isKept, isEmptied⟩

end LeftDegree

end TileAtlas
