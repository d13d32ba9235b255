import TileAtlas.Sample.Color

/-!
Contract: colours out of a buffer of red, green, blue and perhaps alpha bytes.

Owns:
- `Imagery.sample`, the colour of one pixel;
- `Imagery.blend`, the colour at a position between pixels.

A buffer of three bands is opaque.  Positions outside the buffer are
transparent, but the strip one pixel before the first row and column still
blends, from the border pixels.
-/

namespace TileAtlas

/-- A buffer of byte imagery, pixel by pixel. -/
structure Imagery where
  data : ByteArray
  width : Nat
  height : Nat
  bands : Nat

namespace Imagery

def sample (image : Imagery) (x y : Int) : Rgba :=
  match pixelIndex? x y image.width image.height with
  | none => .transparent
  | some index =>
      match Bytes.slice? image.data (index * image.bands) image.bands with
      | some [red, green, blue] => ⟨red, green, blue, 255⟩
      | some [red, green, blue, alpha] => ⟨red, green, blue, alpha⟩
      | _ => .transparent

variable {α : Type} [Scalar α]

/-- The weighted mean of four bytes, a half going up; `u` and `v` are the
shares of the right and of the lower neighbours. -/
def mix (u v : α) (upperLeft upperRight lowerLeft lowerRight : UInt8) : UInt8 :=
  let share (byte : UInt8) : α := Scalar.ofNat byte.toNat
  let value :=
    share upperLeft * ((1.0 - u) * (1.0 - v)) + share upperRight * (u * (1.0 - v)) +
      share lowerLeft * ((1.0 - u) * v) + share lowerRight * (u * v) + 0.5
  UInt8.ofNat (Scalar.truncateToCount (Scalar.clamp value 0.0 255.0))

def clampIndex (index : Int) (count : Nat) : Int := max 0 (min index (count - 1))

def blend (image : Imagery) (x y : α) : Rgba :=
  let column := Scalar.floorToPixel x
  let row := Scalar.floorToPixel y
  let outside := (pixelIndex? (max column 0) (max row 0) image.width image.height).isNone
  if outside ∨ column < -1 ∨ row < -1 then .transparent
  else
    let u := x - Scalar.ofInt column
    let v := y - Scalar.ofInt row
    let left := clampIndex column image.width
    let right := clampIndex (column + 1) image.width
    let upper := clampIndex row image.height
    let lower := clampIndex (row + 1) image.height
    let upperLeft := image.sample left upper
    let upperRight := image.sample right upper
    let lowerLeft := image.sample left lower
    let lowerRight := image.sample right lower
    let channel (part : Rgba → UInt8) : UInt8 :=
      mix u v (part upperLeft) (part upperRight) (part lowerLeft) (part lowerRight)
    ⟨channel Rgba.red, channel Rgba.green, channel Rgba.blue, channel Rgba.alpha⟩

end Imagery

end TileAtlas
