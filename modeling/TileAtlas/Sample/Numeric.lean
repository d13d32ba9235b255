import TileAtlas.Raster.PixelType
import TileAtlas.Sample.Color

/-!
Contract: colours and heights out of a buffer of single numbers.

Owns:
- `NumericBuffer.value?`, the number of a pixel;
- `NumericBuffer.color`, transparent for missing samples;
- `NumericBuffer.elevation`, zero for missing samples;
- `NumericBuffer.packedElevation`, the same height as the bytes of a pixel.

A colour treats numbers very close to the missing value as missing; a height
treats all numbers up to it so.
-/

namespace TileAtlas

/-- A buffer of one sample per pixel. -/
structure NumericBuffer where
  data : ByteArray
  width : Nat
  height : Nat
  type : PixelType
  noData : Option Float

namespace NumericBuffer

/-- Samples nearer to the missing value than this are missing. -/
def tolerance : Float := 1.1920928955078125e-07

def sample? (buffer : NumericBuffer) (x y : Int) : Option Sample := do
  let index ← pixelIndex? x y buffer.width buffer.height
  buffer.type.sample? buffer.data index

def value? (buffer : NumericBuffer) (x y : Int) : Option Float :=
  (buffer.sample? x y).map Sample.value

def isMissingColor (noData : Option Float) (value : Float) : Bool :=
  match noData with
  | some missing => (value - missing).abs < tolerance
  | none => false

def isMissingHeight (noData : Option Float) (value : Float) : Bool :=
  match noData with
  | some missing => value ≤ missing
  | none => false

def color (buffer : NumericBuffer) (x y : Int) : Rgba :=
  match buffer.value? x y with
  | none => .transparent
  | some value =>
      if isMissingColor buffer.noData value then .transparent else Rgba.spectrum value

/-- The sample of a pixel that has a height of its own. -/
def heightSample? (buffer : NumericBuffer) (x y : Int) : Option Sample :=
  (buffer.sample? x y).filter fun sample => !isMissingHeight buffer.noData sample.value

def elevation (buffer : NumericBuffer) (x y : Int) : Float32 :=
  Binary.narrow (((buffer.heightSample? x y).map Sample.value).getD 0.0)

/-- The height of a pixel as its bytes: those of a height of zero are all zero. -/
def packedElevation (buffer : NumericBuffer) (x y : Int) : Rgba :=
  match buffer.heightSample? x y with
  | none => .transparent
  | some sample => Rgba.ofWord sample.singleWord

end NumericBuffer

end TileAtlas
