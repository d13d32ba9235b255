import TileAtlas.Machine
import TileAtlas.Number.Scalar
import TileAtlas.Raster.PixelType

/-!
Contract: which source pixels a resampled window is made of.

Owns:
- `nearestSource`, the source index for an output index along one axis;
- `ReadPlan`, the sampled columns and rows of a window, and the checks that
  every reader makes before it starts.

Readers refuse the window first, then the output size, then a buffer that
cannot be reserved.
-/

namespace TileAtlas

/-- The source index nearest to the middle of output pixel `outIndex`, when
`length` pixels from `offset` on are spread over `outLength`. -/
def nearestSource (α : Type) [Scalar α] (outIndex outLength offset length : Nat) : Nat :=
  let ratio : α := Scalar.ofNat length / Scalar.ofNat outLength
  let source := Scalar.truncateToCount ((Scalar.ofNat outIndex + 0.5) * ratio)
  offset + min source (length - 1)

/-- The length of a buffer, refused when it is no 64-bit count or there is no
memory for it. -/
def bufferLength [Allocator] (width height bands : Nat) (type : PixelType) : Except Error Nat :=
  let length := width * height * bands * type.size
  let overflow :=
    word64Max < width * height ∨ word64Max < width * height * bands ∨ word64Max < length
  if overflow then .error (.allocation word64Max)
  else if Allocator.grants length then .ok length
  else .error (.allocation length)

/-- The sampled columns and rows of a window. -/
structure ReadPlan where
  columns : List Nat
  rows : List Nat
deriving DecidableEq, Repr

namespace ReadPlan

/-- The columns and rows of a window spread over `outWidth × outHeight`. -/
def ofRegion (α : Type) [Scalar α] (region : PixelRegion) (outWidth outHeight : Nat) :
    ReadPlan where
  columns := (List.range outWidth).map fun x =>
    nearestSource α x outWidth region.xOff region.width
  rows := (List.range outHeight).map fun y =>
    nearestSource α y outHeight region.yOff region.height

/-- Check a request to a `width × height` raster and plan it. -/
def check (α : Type) [Scalar α] [Allocator] (region : PixelRegion)
    (width height bands outWidth outHeight : Nat) (type : PixelType) : Except Error ReadPlan :=
  if ¬region.Fits width height then
    .error (.datasetRead (.windowOutside region width height))
  else if outWidth = 0 ∨ outHeight = 0 then
    .error (.datasetRead (.outputSize outWidth outHeight))
  else
    match bufferLength outWidth outHeight bands type with
    | .error error => .error error
    | .ok _ => .ok (ofRegion α region outWidth outHeight)

end ReadPlan

end TileAtlas
