import TileAtlas.Geometry.Affine
import TileAtlas.Raster.Sampling

/-!
Contract: what a render needs to know of a raster.

Owns:
- `DatasetInfo`, the size, type, placement and missing value of a raster;
- `Dataset`, an information record together with a resampling read.
-/

namespace TileAtlas

/-- What is known of a raster without reading its samples. -/
structure DatasetInfo (α : Type) where
  width : Nat
  height : Nat
  bands : Nat
  pixelType : PixelType
  /-- The value that marks a missing sample. -/
  noData : Option Float
  /-- From pixels to the world. -/
  geoTransform : Affine α
  /-- The reference system, if it is known. -/
  srs : Option String

/-- The bounds of the whole raster in the world. -/
def DatasetInfo.worldBounds {α : Type} [Scalar α] (info : DatasetInfo α) : Extent α :=
  info.geoTransform.worldBounds info.width info.height

/-- One request to a raster: a window, the size it is spread over, and the type
of the samples. -/
structure ReadRequest where
  region : PixelRegion
  outWidth : Nat
  outHeight : Nat
  type : PixelType
deriving DecidableEq, Repr

/-- A raster that windows can be read from, pixel by pixel and within a pixel
band by band. -/
structure Dataset (α : Type) where
  info : DatasetInfo α
  read : ReadRequest → Except Error ByteArray

end TileAtlas
