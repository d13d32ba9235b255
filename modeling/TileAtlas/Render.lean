import TileAtlas.Raster.Dataset
import TileAtlas.Sample.Imagery
import TileAtlas.Sample.Numeric
import TileAtlas.Tile
import TileAtlas.Window

/-!
Contract: one tile out of one raster.

Owns:
- `TileRequest` and `RenderOptions`, what is asked for and how;
- `RenderPlan`, decided from the raster's information alone: a blank tile or a
  single read;
- `RenderPlan.carryOut`, the pixels of the tile from the bytes that were read,
  whatever reading is;
- `render`, the three together.

A tile that misses its raster is blank and no error.  A pixel stays empty when
its point has no image in the raster's reference system or lies outside the
valid extent.
-/

namespace TileAtlas

/-- How imagery is sampled. -/
inductive Resampling where
  | nearest
  | bilinear
deriving DecidableEq, Repr

namespace Resampling

def name : Resampling → String
  | .nearest => "nearest"
  | .bilinear => "bilinear"

def ofName? (name : String) : Option Resampling :=
  [nearest, bilinear].find? fun resampling => resampling.name = name

end Resampling

/-- How tiles are rendered. -/
structure RenderOptions (α : Type) where
  /-- Working pixels per tile pixel along the longer side. -/
  quality : α
  resampling : Resampling
  /-- The colour of image tiles that miss their raster. -/
  blankColor : Rgba
deriving DecidableEq

/-- The usual options: two working pixels per tile pixel, nearest samples, and
nothing where there is no raster. -/
def RenderOptions.standard {α : Type} [Scalar α] : RenderOptions α := ⟨2.0, .nearest, .transparent⟩

/-- What a tile shows, in its own reference system. -/
structure TileFrame (α : Type) where
  extent : Extent α
  width : Nat
  height : Nat
  mode : RenderMode
  /-- In degrees: raster points outside it stay empty. -/
  validExtent : Option (Extent α)
  /-- Where the tile lies in its grid. -/
  subExtent : Option (Extent α)

/-- A tile frame with its reference system. -/
structure TileRequest extends TileFrame Float where
  srs : SpatialReference
  /-- Taken in place of the raster's own reference system. -/
  sourceSrs : Option String

/-- The maps of points that a render needs. -/
structure RenderMaps (α : Type) where
  /-- From the tile's reference system to the raster's. -/
  back : PointMap α
  /-- From the raster's reference system to degrees. -/
  toGeographic : PointMap α

/-- The pixel placements of the raster and of the tile. -/
structure RenderPlaces (α : Type) where
  source : GeoReference α
  destination : GeoReference α
deriving DecidableEq

/-- What a render does: nothing, or one read with a window. -/
inductive RenderPlan (α : Type) where
  | blank
  | read (window : SourceWindow α) (type : PixelType)

variable {α : Type} [Scalar α]

namespace TileFrame

/-- The placements of the raster and of the tile; the raster's is checked
first. -/
def places (frame : TileFrame α) (info : DatasetInfo α) : Except Error (RenderPlaces α) := do
  if frame.width = 0 ∨ frame.height = 0 then
    throw (.config (.tileSize frame.width frame.height))
  let source ← GeoReference.ofAffine info.geoTransform .source
  let destination ←
    GeoReference.ofAffine (Affine.ofExtent frame.extent frame.width frame.height) .destination
  return ⟨source, destination⟩

def blank (frame : TileFrame α) (options : RenderOptions α) : Except Error (RasterTile α) :=
  match frame.mode with
  | .image => RasterTile.filled frame.width frame.height options.blankColor
  | .elevation => RasterTile.flat frame.width frame.height frame.subExtent

end TileFrame

/-- The type that samples are read as: single bands as they are, colour bands
of an image as bytes. -/
def readType (info : DatasetInfo α) (mode : RenderMode) : Except Error PixelType :=
  if info.bands = 1 then .ok info.pixelType
  else if (info.bands = 3 ∨ info.bands = 4) ∧ mode = .image then .ok .byte
  else .error (.unsupportedBandCount info.bands)

namespace RenderPlan

def make (info : DatasetInfo α) (frame : TileFrame α) (options : RenderOptions α)
    (places : RenderPlaces α) (maps : RenderMaps α) : Except Error (RenderPlan α) :=
  match SourceWindow.resolve places.source info.width info.height options.quality
      places.destination.forward maps.back frame.width frame.height with
  | .window window => (readType info frame.mode).map (.read window)
  | .noOverlap | .degenerate => .ok .blank

def request? : RenderPlan α → Option ReadRequest
  | .blank => none
  | .read window type => some ⟨window.region, window.workWidth, window.workHeight, type⟩

end RenderPlan

/-- The bytes that were read, as colours or as numbers. -/
inductive WorkingBuffer where
  | imagery (image : Imagery)
  | numeric (numbers : NumericBuffer)

namespace WorkingBuffer

def ofBytes (info : DatasetInfo α) (window : SourceWindow α) (type : PixelType)
    (data : ByteArray) : WorkingBuffer :=
  if info.bands = 1 then
    .numeric ⟨data, window.workWidth, window.workHeight, type, info.noData⟩
  else .imagery ⟨data, window.workWidth, window.workHeight, info.bands⟩

def sample (buffer : WorkingBuffer) (mode : RenderMode) (resampling : Resampling) (x y : α) :
    Rgba :=
  match buffer, mode, resampling with
  | .numeric numbers, .elevation, _ =>
      numbers.packedElevation (Scalar.floorToPixel x) (Scalar.floorToPixel y)
  | .numeric numbers, .image, _ => numbers.color (Scalar.floorToPixel x) (Scalar.floorToPixel y)
  | .imagery image, _, .nearest => image.sample (Scalar.floorToPixel x) (Scalar.floorToPixel y)
  | .imagery image, _, .bilinear => image.blend x y

end WorkingBuffer

/-- The raster's point under a tile pixel, unless the pixel stays empty. -/
def sourcePoint? (frame : TileFrame α) (places : RenderPlaces α) (maps : RenderMaps α)
    (x y : Nat) : Option (α × α) := do
  let world := places.destination.toWorld (Scalar.ofNat x) (Scalar.ofNat y)
  let point ← maps.back world.1 world.2
  match frame.validExtent with
  | none => return point
  | some valid =>
      let position ← maps.toGeographic point.1 point.2
      if valid.contains position.1 position.2 then return point else none

/-- The position lies in the raster or at most half a pixel beside it. -/
def isNearRaster (info : DatasetInfo α) (px py : α) : Bool :=
  decide (-0.5 ≤ px) && decide (px ≤ Scalar.ofNat info.width + 0.5) &&
    decide (-0.5 ≤ py) && decide (py ≤ Scalar.ofNat info.height + 0.5)

/-- The working position of a raster point.  Near the raster it is brought into
the working buffer. -/
def workingPosition (info : DatasetInfo α) (source : GeoReference α) (window : SourceWindow α)
    (point : α × α) : α × α :=
  let pixel := source.toPixel point.1 point.2
  let position := window.toWorking pixel.1 pixel.2
  if isNearRaster info pixel.1 pixel.2 then
    (Scalar.clampToPixels position.1 window.workWidth,
      Scalar.clampToPixels position.2 window.workHeight)
  else position

def renderPixel (info : DatasetInfo α) (frame : TileFrame α) (options : RenderOptions α)
    (places : RenderPlaces α) (maps : RenderMaps α) (window : SourceWindow α)
    (buffer : WorkingBuffer) (x y : Nat) : Rgba :=
  match sourcePoint? frame places maps x y with
  | none => .transparent
  | some point =>
      let position := workingPosition info places.source window point
      buffer.sample frame.mode options.resampling position.1 position.2

/-- All pixels of a tile, from the bytes of its window. -/
def renderPixels (info : DatasetInfo α) (frame : TileFrame α) (options : RenderOptions α)
    (places : RenderPlaces α) (maps : RenderMaps α) (window : SourceWindow α)
    (buffer : WorkingBuffer) : Array Rgba :=
  Array.ofFn fun index : Fin (frame.width * frame.height) =>
    renderPixel info frame options places maps window buffer (index % frame.width)
      (index / frame.width)

section Reads

variable {m : Type → Type} [Monad m] [MonadExceptOf Error m] [Allocator]

/-- Carry a plan out.  The raster is asked through `read`. -/
def RenderPlan.carryOut (plan : RenderPlan α) (info : DatasetInfo α)
    (read : ReadRequest → m ByteArray) (frame : TileFrame α) (options : RenderOptions α)
    (places : RenderPlaces α) (maps : RenderMaps α) : m (RasterTile α) :=
  match plan with
  | .blank => MonadExcept.ofExcept (frame.blank options)
  | .read window type => do
      let data ← read ⟨window.region, window.workWidth, window.workHeight, type⟩
      let length ← MonadExcept.ofExcept (RasterTile.byteCount frame.width frame.height)
      if Allocator.grants length then
        let buffer := WorkingBuffer.ofBytes info window type data
        return {
          width := frame.width
          height := frame.height
          mode := frame.mode
          pixels := renderPixels info frame options places maps window buffer
          subExtent := frame.subExtent }
      else throw (.allocation length)

/-- Render a frame, with the maps of points checked after its placements. -/
def TileFrame.renderWith (frame : TileFrame α) (info : DatasetInfo α)
    (read : ReadRequest → m ByteArray) (options : RenderOptions α)
    (maps : Except Error (RenderMaps α)) : m (RasterTile α) := do
  let places ← MonadExcept.ofExcept (frame.places info)
  let maps ← MonadExcept.ofExcept maps
  let plan ← MonadExcept.ofExcept (RenderPlan.make info frame options places maps)
  plan.carryOut info read frame options places maps

end Reads

/-- Render a frame through given maps of points. -/
def renderFrame [Allocator] (dataset : Dataset α) (frame : TileFrame α) (options : RenderOptions α)
    (maps : RenderMaps α) : Except Error (RasterTile α) :=
  frame.renderWith dataset.info dataset.read options (.ok maps)

namespace TileRequest

/-- The reference system that the raster is taken to have. -/
def sourceReference (request : TileRequest) (info : DatasetInfo Float) :
    Except Error SpatialReference :=
  match request.sourceSrs.or info.srs with
  | some text => SpatialReference.ofText text
  | none => .error (.spatialReference "" .absent)

/-- The maps of points between the raster, the tile and degrees. -/
def maps (request : TileRequest) (info : DatasetInfo Float) : Except Error (RenderMaps Float) := do
  let source ← request.sourceReference info
  let (_, back) ← Transformer.pair source request.srs
  let toGeographic ←
    match request.validExtent with
    | none => pure Transformer.identity
    | some _ => do
        let degrees ← SpatialReference.ofCode SpatialReference.wgs84Code
        Transformer.between source degrees .forward
  return ⟨back.map, toGeographic.map⟩

def plan (request : TileRequest) (info : DatasetInfo Float) (options : RenderOptions Float) :
    Except Error (RenderPlan Float) := do
  let places ← request.places info
  let maps ← request.maps info
  RenderPlan.make info request.toTileFrame options places maps

def render [Allocator] (request : TileRequest) (dataset : Dataset Float)
    (options : RenderOptions Float) : Except Error (RasterTile Float) :=
  request.renderWith dataset.info dataset.read options (request.maps dataset.info)

end TileRequest

end TileAtlas
