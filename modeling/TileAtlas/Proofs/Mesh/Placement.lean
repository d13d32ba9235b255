import TileAtlas.Mesh.Surface
import TileAtlas.Proofs.Geometry.Box
import TileAtlas.Proofs.Pyramid.Axis
import TileAtlas.Proofs.Render.Sampling
import TileAtlas.Tileset

/-!
Contract: where a height is sampled and where its vertex is put, in exact
numbers.

Owns:
- `elevationFrame`, what is rendered for a tile of heights;
- `Pyramid.normalizedPoint`, a world position on the scale of the surface;
- `latticePoint_eq_sample_iff`: a vertex lies where its height was sampled for
  the first height only, and how far they are apart otherwise.

## Cells and posts

A frame of heights has as many cells as heights along each side, and a height is
sampled at the upper left corner of its cell.  A surface over the same extent
puts the first and the last height on its border, so that there is one step less
than there are cells.
-/

namespace TileAtlas

/-! ## Frames -/

section Frames

variable {α : Type} [Scalar α]

/-- The frame of a tile with `size × size` heights. -/
def elevationFrame (pyramid : Pyramid α) (extent : Extent α) (size : Nat)
    (validExtent : Option (Extent α)) : TileFrame α :=
  ⟨extent, size, size, .elevation, validExtent, some (pyramid.normalized extent)⟩

/-- Tilesets of heights ask for such frames. -/
theorem Tileset.request_eq_elevationFrame {tileset : Tileset} {tile : TileCoordinate}
    {request : TileRequest} (isElevation : tileset.settings.elevation = true)
    (requested : tileset.request tile = .ok request) :
    ∃ extent, tileset.pyramid.tileExtent ⟨tile.z, tile.x, tile.y⟩ = some extent ∧
      request.toTileFrame = elevationFrame tileset.pyramid extent tileset.pyramid.elevationBlock
        request.validExtent := by
  unfold Tileset.request at requested
  cases located : tileset.pyramid.tileExtent ⟨tile.z, tile.x, tile.y⟩ with
  | none =>
      simp only [located] at requested
      cases requested
  | some extent =>
      cases valid : tileset.settings.source.validExtent with
      | error fault =>
          simp only [located, valid] at requested
          cases requested
      | ok validExtent =>
          simp only [located, valid, isElevation, if_true] at requested
          cases requested
          exact ⟨extent, rfl, rfl⟩

theorem TileFrame.forward_of_places {frame : TileFrame α} {info : DatasetInfo α}
    {places : RenderPlaces α} (placed : frame.places info = .ok places) :
    places.destination.forward = Affine.ofExtent frame.extent frame.width frame.height := by
  unfold TileFrame.places at placed
  split at placed
  · cases placed
  · cases source : GeoReference.ofAffine info.geoTransform .source with
    | error fault =>
        rw [source] at placed
        cases placed
    | ok reference =>
        rw [source] at placed
        unfold GeoReference.ofAffine at placed
        cases inverse : (Affine.ofExtent frame.extent frame.width frame.height).inverse? with
        | none =>
            rw [inverse] at placed
            cases placed
        | some map =>
            rw [inverse] at placed
            cases placed
            rfl

/-- What is sampled for a pixel lies under its upper left corner. -/
theorem back_of_sourcePoint? {frame : TileFrame α} {places : RenderPlaces α} {maps : RenderMaps α}
    {x y : Nat} {point : α × α} (sampled : sourcePoint? frame places maps x y = some point) :
    maps.back (places.destination.toWorld (Scalar.ofNat x) (Scalar.ofNat y)).1
      (places.destination.toWorld (Scalar.ofNat x) (Scalar.ofNat y)).2 = some point :=
  (sourcePoint?_eq_some_iff.mp sampled).1

namespace Pyramid

/-- A world position on the scale on which a pyramid around zero spans
`-1 .. 1`. -/
def normalizedPoint (pyramid : Pyramid α) (point : α × α) : α × α :=
  (point.1 / Scalar.abs pyramid.extent.width * 2.0,
    point.2 / Scalar.abs pyramid.extent.height * 2.0)

/-- Where the height of a grid position is sampled, on the scale of the surface. -/
def samplePosition (pyramid : Pyramid α) (places : RenderPlaces α) (x y : Nat) : α × α :=
  pyramid.normalizedPoint (places.destination.toWorld (Scalar.ofNat x) (Scalar.ofNat y))

end Pyramid

end Frames

/-! ## One axis -/

/-- Posts on the border are further apart than cells by a share of a cell. -/
theorem post_eq_cell_add {size : Nat} (large : 2 ≤ size) (span : Rat) (index : Nat) :
    span * index / ((size - 1 : Nat) : Rat) =
      span / size * index + span / size * (index / (size - 1)) := by
  have size_ne : (size : Rat) ≠ 0 := Nat.cast_ne_zero.mpr (by omega)
  have steps_ne : ((size - 1 : Nat) : Rat) ≠ 0 := Nat.cast_ne_zero.mpr (by omega)
  have steps : ((size - 1 : Nat) : Rat) = size - 1 := Nat.cast_pred (by omega)
  rw [steps] at steps_ne ⊢
  field_simp
  ring

theorem share_eq_zero_iff {size : Nat} (large : 2 ≤ size) {cell : Rat} (cell_pos : 0 < cell)
    (index : Nat) : cell * (index / (size - 1)) = 0 ↔ index = 0 := by
  have steps_ne : ((size - 1 : Nat) : Rat) ≠ 0 := Nat.cast_ne_zero.mpr (by omega)
  rw [Nat.cast_pred (by omega)] at steps_ne
  rw [mul_eq_zero, or_iff_right cell_pos.ne', div_eq_zero_iff, or_iff_left steps_ne]
  exact Nat.cast_eq_zero

/-! ## Tiles -/

section Tiles

variable {pyramid : Pyramid Rat} {tile : TileIndex} {extent : Extent Rat}

theorem width_pos_of_tileExtent (positive : pyramid.HasPositiveSizes)
    (located : pyramid.tileExtent tile = some extent) : 0 < extent.width ∧ 0 < extent.height := by
  obtain ⟨resolution, _, _, level, -, -, -, -, -, maxX, maxY⟩ :=
    Pyramid.tileExtent_eq_some located
  constructor
  · rw [Extent.width, maxX, add_sub_cancel_left]
    exact positive.unitX_pos level
  · rw [Extent.height, maxY, add_sub_cancel_left]
    exact positive.unitY_pos level

theorem normalizedPoint_rat (positive : pyramid.HasPositiveSizes) (point : Rat × Rat) :
    pyramid.normalizedPoint point =
      (point.1 * (2 / pyramid.extent.width), point.2 * (2 / pyramid.extent.height)) := by
  have two : (2.0 : Rat) = 2 := by norm_num
  simp only [Pyramid.normalizedPoint, Scalar.abs_rat, abs_of_pos positive.width_pos,
    abs_of_pos positive.height_pos, two, Prod.mk.injEq]
  constructor <;> ring

theorem normalized_eq_corners : pyramid.normalized extent =
    ⟨(pyramid.normalizedPoint (extent.minX, extent.minY)).1,
      (pyramid.normalizedPoint (extent.minX, extent.minY)).2,
      (pyramid.normalizedPoint (extent.maxX, extent.maxY)).1,
      (pyramid.normalizedPoint (extent.maxX, extent.maxY)).2⟩ := rfl

theorem latticePoint_normalized (positive : pyramid.HasPositiveSizes) (size x y : Nat) :
    Mesh.latticePoint (pyramid.normalized extent) size x y =
      pyramid.normalizedPoint
        (extent.minX + extent.width * x / ((size - 1 : Nat) : Rat),
          extent.maxY - extent.height * y / ((size - 1 : Nat) : Rat)) := by
  rw [normalized_eq_corners]
  simp only [normalizedPoint_rat positive, Mesh.latticePoint, Extent.width, Extent.height,
    Scalar.ofNat_rat, Prod.mk.injEq]
  constructor <;> ring

theorem size_normalized (positive : pyramid.HasPositiveSizes) (extent : Extent Rat) :
    (pyramid.normalized extent).width = extent.width * (2 / pyramid.extent.width) ∧
      (pyramid.normalized extent).height = extent.height * (2 / pyramid.extent.height) := by
  rw [normalized_eq_corners]
  simp only [normalizedPoint_rat positive, Extent.width, Extent.height]
  constructor <;> ring

end Tiles

/-- Tilesets of heights render such frames, and a height is sampled under the upper
left corner of its cell.  Its vertex lies to the right and below, by as many steps'
share of a cell as there are steps up to it, so the two agree for the first height
only. -/
theorem latticePoint_eq_sample_iff (pyramid : Pyramid Rat) (positive : pyramid.HasPositiveSizes)
    (tile : TileIndex) (extent : Extent Rat) (located : pyramid.tileExtent tile = some extent)
    (size : Nat) (large : 2 ≤ size) (validExtent : Option (Extent Rat)) (info : DatasetInfo Rat)
    (places : RenderPlaces Rat)
    (placed : (elevationFrame pyramid extent size validExtent).places info = .ok places)
    (x y : Nat) :
    (∀ (tileset : Tileset) (index : TileCoordinate) (request : TileRequest),
      tileset.settings.elevation = true → tileset.request index = .ok request →
        ∃ square, tileset.pyramid.tileExtent ⟨index.z, index.x, index.y⟩ = some square ∧
          request.toTileFrame = elevationFrame tileset.pyramid square
            tileset.pyramid.elevationBlock request.validExtent) ∧
    (∀ maps point,
      sourcePoint? (elevationFrame pyramid extent size validExtent) places maps x y = some point →
        maps.back (places.destination.toWorld x y).1 (places.destination.toWorld x y).2 =
          some point) ∧
    Mesh.latticePoint (pyramid.normalized extent) size x y =
      ((pyramid.samplePosition places x y).1 +
          (pyramid.normalized extent).width / size * (x / (size - 1)),
        (pyramid.samplePosition places x y).2 -
          (pyramid.normalized extent).height / size * (y / (size - 1))) ∧
    (Mesh.latticePoint (pyramid.normalized extent) size x y = pyramid.samplePosition places x y ↔
      x = 0 ∧ y = 0) := by
  obtain ⟨wide, high⟩ := width_pos_of_tileExtent positive located
  obtain ⟨width, height⟩ := size_normalized positive extent
  have cell_pos : 0 < (size : Rat) := Nat.cast_pos.mpr (by omega)
  have cellX_pos : 0 < (pyramid.normalized extent).width / size := by
    rw [width]
    exact div_pos (mul_pos wide (div_pos two_pos positive.width_pos)) cell_pos
  have cellY_pos : 0 < (pyramid.normalized extent).height / size := by
    rw [height]
    exact div_pos (mul_pos high (div_pos two_pos positive.height_pos)) cell_pos
  have displaced : Mesh.latticePoint (pyramid.normalized extent) size x y =
      ((pyramid.samplePosition places x y).1 +
          (pyramid.normalized extent).width / size * (x / (size - 1)),
        (pyramid.samplePosition places x y).2 -
          (pyramid.normalized extent).height / size * (y / (size - 1))) := by
    rw [latticePoint_normalized positive, Pyramid.samplePosition, GeoReference.toWorld,
      TileFrame.forward_of_places placed]
    simp only [elevationFrame, Affine.apply_ofExtent wide.le high.le, normalizedPoint_rat positive,
      post_eq_cell_add large, width, height, Prod.mk.injEq]
    constructor <;> ring
  refine ⟨fun _ _ _ => Tileset.request_eq_elevationFrame,
    fun maps point sampled => back_of_sourcePoint? sampled, displaced, ?_⟩
  rw [displaced, Prod.ext_iff, add_eq_left, sub_eq_self, share_eq_zero_iff large cellX_pos,
    share_eq_zero_iff large cellY_pos]

/-! ## The Web Mercator square -/

/-- A pyramid over a Web Mercator extent around zero. -/
structure Pyramid.IsCentred (pyramid : Pyramid Rat) : Prop where
  positive : pyramid.HasPositiveSizes
  srs : pyramid.srs = "EPSG:3857"
  minX : pyramid.extent.minX = -pyramid.extent.maxX
  minY : pyramid.extent.minY = -pyramid.extent.maxY

theorem Pyramid.isCentred_webMercator : (webMercator : Pyramid Rat).IsCentred :=
  ⟨webMercator_hasPositiveSizes, rfl, by decide +kernel, by decide +kernel⟩

/-- A raster of four pixels over the Web Mercator square. -/
def squareRaster : DatasetInfo Rat where
  width := 2
  height := 2
  bands := 1
  pixelType := .float32
  noData := none
  geoTransform := Affine.ofExtent Extent.webMercator 2 2
  srs := some "EPSG:3857"

/-- The north-east tile of level 1. -/
def northEast : Extent Rat := ⟨0, 0, halfEarth, halfEarth⟩

theorem exists_places_northEast (size : Nat) (isSize : size = 2 ∨ size = 3) :
    ∃ places, (elevationFrame Pyramid.webMercator northEast size none).places squareRaster =
      .ok places := by
  have placed : ((elevationFrame Pyramid.webMercator northEast size none).places
      squareRaster).isOk = true := by
    rcases isSize with rfl | rfl
    · decide +kernel
    · decide +kernel
  cases result : (elevationFrame Pyramid.webMercator northEast size none).places squareRaster with
  | ok places => exact ⟨places, rfl⟩
  | error fault =>
      rw [result] at placed
      cases placed

/-- The middle vertex of nine lies half a cell away from where its height was
sampled, which is a sixth of the tile. -/
theorem latticePoint_eq_sample_iff_northEast :
    ∃ places, (elevationFrame Pyramid.webMercator northEast 3 none).places squareRaster =
        .ok places ∧
      Mesh.latticePoint (Pyramid.webMercator.normalized northEast) 3 1 1 =
        ((Pyramid.webMercator.samplePosition places 1 1).1 + 1 / 6,
          (Pyramid.webMercator.samplePosition places 1 1).2 - 1 / 6) := by
  obtain ⟨places, placed⟩ := exists_places_northEast 3 (.inr rfl)
  obtain ⟨-, -, displaced, -⟩ := latticePoint_eq_sample_iff Pyramid.webMercator
    Pyramid.isCentred_webMercator.positive ⟨1, 1, 0⟩ northEast (by decide +kernel) 3 (by decide)
    none squareRaster places placed 1 1
  refine ⟨places, placed, displaced.trans ?_⟩
  have sixthX : (Pyramid.webMercator.normalized northEast).width / (3 : Nat) *
      ((1 : Nat) / ((3 : Nat) - 1)) = (1 / 6 : Rat) := by decide +kernel
  have sixthY : (Pyramid.webMercator.normalized northEast).height / (3 : Nat) *
      ((1 : Nat) / ((3 : Nat) - 1)) = (1 / 6 : Rat) := by decide +kernel
  rw [sixthX, sixthY]

/-- Of four heights of a tile only the first one is where it was sampled. -/
theorem not_forall_latticePoint_eq_sample :
    ¬∀ pyramid : Pyramid Rat, pyramid.IsCentred → ∀ tile extent,
      pyramid.tileExtent tile = some extent → ∀ size, 2 ≤ size → ∀ validExtent info places,
        (elevationFrame pyramid extent size validExtent).places info = .ok places →
          ∀ x y, x < size → y < size →
            Mesh.latticePoint (pyramid.normalized extent) size x y =
              pyramid.samplePosition places x y := by
  intro claimed
  obtain ⟨places, placed⟩ := exists_places_northEast 2 (.inl rfl)
  have agreed := claimed Pyramid.webMercator Pyramid.isCentred_webMercator ⟨1, 1, 0⟩ northEast
    (by decide +kernel) 2 (by decide) none squareRaster places placed 1 0 (by decide) (by decide)
  rw [Pyramid.samplePosition, GeoReference.toWorld, TileFrame.forward_of_places placed] at agreed
  exact absurd agreed (by decide +kernel)

end TileAtlas
