import TileAtlas.Number.Binary
import TileAtlas.Number.Scalar
import TileAtlas.Raster.Bytes

/-!
Contract: the four bytes of a tile pixel.

Owns:
- `Rgba`, read either as a colour or as a packed height;
- `Rgba.ofHeight` and `Rgba.height`, the little-endian 32-bit float;
- `Rgba.spectrum`, the colour of a number on the scale of visible light.
-/

namespace TileAtlas

/-- The four bytes of a pixel. -/
structure Rgba where
  red : UInt8
  green : UInt8
  blue : UInt8
  alpha : UInt8
deriving DecidableEq, Repr, Inhabited

namespace Rgba

/-- Nothing at all: four zero bytes, which are also the height zero. -/
def transparent : Rgba := ⟨0, 0, 0, 0⟩

def toList (pixel : Rgba) : List UInt8 := [pixel.red, pixel.green, pixel.blue, pixel.alpha]

def ofList? : List UInt8 → Option Rgba
  | [red, green, blue, alpha] => some ⟨red, green, blue, alpha⟩
  | _ => none

/-- The pixel whose first byte is the least of a 32-bit word. -/
def ofWord (word : Nat) : Rgba :=
  ⟨UInt8.ofNat word, UInt8.ofNat (word / 256), UInt8.ofNat (word / 65536),
    UInt8.ofNat (word / 16777216)⟩

def word (pixel : Rgba) : Nat := Bytes.little pixel.toList

def ofHeight (height : Float32) : Rgba := ofWord height.toBits.toNat

def height (pixel : Rgba) : Float32 := Float32.ofBits (UInt32.ofNat pixel.word)

/-- The greatest number of the spectrum scale. -/
def spectrumEnd : Float := 8000.0

/-- The wavelength in nanometres of a number, brought into the scale first; a
missing number counts as zero. -/
def wavelength (value : Float) : Float :=
  let inside := if Scalar.isNumber value then Scalar.clamp value 0.0 spectrumEnd else 0.0
  380.0 + inside / spectrumEnd * 400.0

/-- Red, green and blue of a wavelength, each from zero to one. -/
def components (length : Float) : Float × Float × Float :=
  if length < 440.0 then (-(length - 440.0) / (440.0 - 380.0), 0.0, 1.0)
  else if length < 490.0 then (0.0, (length - 440.0) / (490.0 - 440.0), 1.0)
  else if length < 510.0 then (0.0, 1.0, -(length - 510.0) / (510.0 - 490.0))
  else if length < 580.0 then ((length - 510.0) / (580.0 - 510.0), 1.0, 0.0)
  else if length < 645.0 then (1.0, -(length - 645.0) / (645.0 - 580.0), 0.0)
  else (1.0, 0.0, 0.0)

/-- A share of full intensity as a byte, a half going up. -/
def channel (share : Float) : UInt8 :=
  UInt8.ofNat ((Binary.ofFloat (share * 255.0)).round.saturate 0 255 0).toNat

def spectrum (value : Float) : Rgba :=
  let (red, green, blue) := components (wavelength value)
  ⟨channel red, channel green, channel blue, 255⟩

end Rgba

end TileAtlas
