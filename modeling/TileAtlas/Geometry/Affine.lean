import TileAtlas.Geometry.Extent

/-!
Contract: affine maps from pixels to the world and back.

Owns:
- `Affine`, with `X = c0 + x c1 + y c2` and `Y = c3 + x c4 + y c5`;
- `Affine.inverse?`, refused for determinants below `Affine.leastDeterminant`;
- `GeoReference`, a map together with its inverse;
- `Affine.worldBounds`, the bounds of the four corners of a raster.
-/

namespace TileAtlas

/-- A pixel-to-world map by its six coefficients. -/
structure Affine (α : Type) where
  c0 : α
  c1 : α
  c2 : α
  c3 : α
  c4 : α
  c5 : α
deriving DecidableEq, Repr

namespace Affine

variable {α : Type} [Scalar α]

/-- Determinants smaller than this count as zero. -/
def leastDeterminant : α := 2.220446049250313e-16

/-- The north-up map of a `width × height` raster over an extent: pixel
`(0, 0)` is its upper left corner. -/
def ofExtent (extent : Extent α) (width height : Nat) : Affine α :=
  let pixelWidth := Scalar.abs extent.width / Scalar.ofNat width
  let pixelHeight := Scalar.abs extent.height / Scalar.ofNat height
  ⟨extent.minX, pixelWidth, 0.0, extent.maxY, 0.0, -pixelHeight⟩

/-- The map with the given pixel size that takes raster point `(i, j)` to
`(x, y)`. -/
def ofTiepoint (scaleX scaleY i j x y : α) : Affine α :=
  ⟨x - i * scaleX, scaleX, 0.0, y + j * scaleY, 0.0, -scaleY⟩

@[inline] def apply (map : Affine α) (x y : α) : α × α :=
  (map.c0 + x * map.c1 + y * map.c2, map.c3 + x * map.c4 + y * map.c5)

def determinant (map : Affine α) : α := map.c1 * map.c5 - map.c2 * map.c4

def inverse? (map : Affine α) : Option (Affine α) :=
  let determinant := map.determinant
  if Scalar.abs determinant < leastDeterminant then none
  else
    let reciprocal := 1.0 / determinant
    some
      { c0 := (map.c2 * map.c3 - map.c0 * map.c5) * reciprocal
        c1 := map.c5 * reciprocal
        c2 := -map.c2 * reciprocal
        c3 := (-map.c1 * map.c3 + map.c0 * map.c4) * reciprocal
        c4 := -map.c4 * reciprocal
        c5 := map.c1 * reciprocal }

/-- The corners of a `width × height` raster in the world. -/
def corners (map : Affine α) (width height : Nat) : List (α × α) :=
  let w : α := Scalar.ofNat width
  let h : α := Scalar.ofNat height
  [map.apply 0.0 0.0, map.apply w 0.0, map.apply 0.0 h, map.apply w h]

/-- The bounds of a `width × height` raster in the world. -/
def worldBounds (map : Affine α) (width height : Nat) : Extent α :=
  let start := map.apply 0.0 0.0
  (map.corners width height).foldl (fun bounds corner => bounds.stretch corner.1 corner.2)
    (Extent.ofPoint start.1 start.2)

end Affine

/-- A pixel-to-world map together with its inverse. -/
structure GeoReference (α : Type) where
  forward : Affine α
  inverse : Affine α
deriving DecidableEq

namespace GeoReference

variable {α : Type} [Scalar α]

def ofAffine (map : Affine α) (side : TransformSide) : Except Error (GeoReference α) :=
  match map.inverse? with
  | some inverse => .ok ⟨map, inverse⟩
  | none => .error (.singularTransform side)

@[inline] def toWorld (reference : GeoReference α) (x y : α) : α × α := reference.forward.apply x y

@[inline] def toPixel (reference : GeoReference α) (x y : α) : α × α := reference.inverse.apply x y

end GeoReference

end TileAtlas
