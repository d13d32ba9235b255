import TileAtlas.Geometry.Affine
import TileAtlas.Projection.Reference

/-!
Contract: which part of a raster a tile needs.

Owns:
- `borderExtent`, the extent that the border of a pixel rectangle covers in
  another reference system;
- `SourceWindow`, a window of a raster and the working buffer it is read into;
- `SourceWindow.resolve`, from a tile to its window.

The window stops one pixel short of the right and the lower border of the
raster; positions beyond it are read from its last pixels.
-/

namespace TileAtlas

/-- The pixels of a raster that a tile is made from, and the size of the buffer
they are spread over. -/
structure SourceWindow (α : Type) where
  region : PixelRegion
  workWidth : Nat
  workHeight : Nat
  /-- Working pixels per raster pixel. -/
  scaleX : α
  scaleY : α
deriving DecidableEq

/-- What a tile needs of a raster. -/
inductive WindowResolution (α : Type) where
  | window (window : SourceWindow α)
  /-- The tile lies elsewhere, or none of its border points has an image. -/
  | noOverlap
  /-- Nothing is left after cutting at the raster's borders. -/
  | degenerate
deriving DecidableEq

variable {α : Type} [Scalar α]

/-- The pixel corners along the border of a rectangle. -/
def borderPixels (width height : Nat) : List (α × α) :=
  let w : α := Scalar.ofNat width
  let h : α := Scalar.ofNat height
  let rows := (List.range (width + 1)).flatMap fun step =>
    [(Scalar.ofNat step, 0.0), (Scalar.ofNat step, h)]
  let columns := (List.range (height + 1)).flatMap fun step =>
    [(0.0, Scalar.ofNat step), (w, Scalar.ofNat step)]
  rows ++ columns

/-- The images of the border of a rectangle; points without one are left out. -/
def borderImages (map : Affine α) (transform : PointMap α) (width height : Nat) : List (α × α) :=
  (borderPixels width height).filterMap fun pixel =>
    let world := map.apply pixel.1 pixel.2
    transform world.1 world.2

/-- The extent of the border of a rectangle in another reference system, if any
of its points has a finite image. -/
def borderExtent (map : Affine α) (transform : PointMap α) (width height : Nat) :
    Option (Extent α) :=
  Extent.cover (borderImages map transform width height)

namespace SourceWindow

/-- A position in raster pixels as a position in the working buffer. -/
@[inline] def toWorking (window : SourceWindow α) (px py : α) : α × α :=
  ((px - Scalar.ofNat window.region.xOff) * window.scaleX,
    (py - Scalar.ofNat window.region.yOff) * window.scaleY)

/-- Offset and length along one axis for positions from `least` to `greatest`
in a raster of `count` pixels. -/
def cut (least greatest : α) (count : Nat) : Int × Int :=
  let size : Int := min count int64Max
  let offset := max 0 (min (Scalar.truncateToInt64 least) (max (size - 1) 0))
  let length := saturateInt64 (saturateInt64 (Scalar.truncateToInt64 greatest - offset) + 1)
  (offset, if size - 1 < saturateInt64 (offset + length) then size - 1 - offset else length)

def ofRegion (region : PixelRegion) (quality : α) (tileWidth tileHeight : Nat) : SourceWindow α :=
  let aspect : α := Scalar.ofNat region.width / Scalar.ofNat region.height
  let workWidth := Scalar.pixelCount (quality * Scalar.ofNat (max tileWidth tileHeight))
  let workHeight := Scalar.pixelCount ((Scalar.ofNat workWidth : α) / aspect)
  { region := region
    workWidth := workWidth
    workHeight := workHeight
    scaleX := Scalar.ofNat workWidth / Scalar.ofNat region.width
    scaleY := Scalar.ofNat workHeight / Scalar.ofNat region.height }

/-- The raster positions of the corners of an extent. -/
def cornerPixels (source : GeoReference α) (needed : Extent α) : List (α × α) :=
  [ source.toPixel needed.minX needed.maxY, source.toPixel needed.maxX needed.maxY,
    source.toPixel needed.minX needed.minY, source.toPixel needed.maxX needed.minY ]

/-- The window that holds an extent of the raster's reference system. -/
def forExtent (source : GeoReference α) (sourceWidth sourceHeight : Nat) (quality : α)
    (needed : Extent α) (tileWidth tileHeight : Nat) : WindowResolution α :=
  match Extent.cover (cornerPixels source needed) with
  | none => .degenerate
  | some pixels =>
      let (xOff, width) := cut pixels.minX pixels.maxX sourceWidth
      let (yOff, height) := cut pixels.minY pixels.maxY sourceHeight
      if width ≤ 0 ∨ height ≤ 0 then .degenerate
      else
        .window (ofRegion ⟨xOff.toNat, yOff.toNat, width.toNat, height.toNat⟩ quality
          tileWidth tileHeight)

/-- The window for a tile whose pixels lie in the world as `destination` says;
`back` leads from there to the raster's reference system. -/
def resolve (source : GeoReference α) (sourceWidth sourceHeight : Nat) (quality : α)
    (destination : Affine α) (back : PointMap α) (tileWidth tileHeight : Nat) :
    WindowResolution α :=
  match borderExtent destination back tileWidth tileHeight with
  | none => .noOverlap
  | some needed =>
      if needed.intersects (source.forward.worldBounds sourceWidth sourceHeight) then
        forExtent source sourceWidth sourceHeight quality needed tileWidth tileHeight
      else .noOverlap

end SourceWindow

end TileAtlas
