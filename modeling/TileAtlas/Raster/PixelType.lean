import TileAtlas.Raster.Bytes
import TileAtlas.Raster.Sample

/-!
Contract: sample types and their bytes.

Owns:
- `PixelType`, the eight sample encodings;
- `PixelType.encode` and `PixelType.decode`, little-endian;
- `PixelType.sample?` and `PixelType.write`, samples in a buffer;
- `PixelType.read?` and `PixelType.encodeAll`, the same for plain floats.

Integer types round half away from zero and saturate at their range; a missing
number is stored as zero.  The 32-bit float type takes the nearest value.
-/

namespace TileAtlas

/-- The encoding of a sample. -/
inductive PixelType where
  | byte
  | int8
  | uint16
  | int16
  | uint32
  | int32
  | float32
  | float64
deriving DecidableEq, Repr

namespace PixelType

def size : PixelType → Nat
  | .byte | .int8 => 1
  | .uint16 | .int16 => 2
  | .uint32 | .int32 | .float32 => 4
  | .float64 => 8

def name : PixelType → String
  | .byte => "Byte"
  | .int8 => "Int8"
  | .uint16 => "UInt16"
  | .int16 => "Int16"
  | .uint32 => "UInt32"
  | .int32 => "Int32"
  | .float32 => "Float32"
  | .float64 => "Float64"

def all : List PixelType := [byte, int8, uint16, int16, uint32, int32, float32, float64]

def ofName? (name : String) : Option PixelType := all.find? fun type => type.name = name

/-- How the bits of a sample are meant. -/
inductive Family where
  | unsigned
  | signed
  | floating
deriving DecidableEq, Repr

def family : PixelType → Family
  | .byte | .uint16 | .uint32 => .unsigned
  | .int8 | .int16 | .int32 => .signed
  | .float32 | .float64 => .floating

def modulus (type : PixelType) : Nat := 256 ^ type.size

def lowest (type : PixelType) : Int :=
  match type.family with
  | .signed => -(type.modulus / 2 : Nat)
  | _ => 0

def highest (type : PixelType) : Int :=
  match type.family with
  | .signed => (type.modulus / 2 : Nat) - 1
  | _ => type.modulus - 1

/-- The value as an integer of the type: nearest, a half going away from zero,
saturated, and zero for a missing number. -/
def integerOf (type : PixelType) (value : Float) : Int :=
  (Binary.ofFloat value).round.saturate type.lowest type.highest 0

def wordOf (type : PixelType) (sample : Sample) : Nat :=
  match type with
  | .float32 => sample.singleWord
  | .float64 => sample.word.toNat
  | _ => (type.integerOf sample.value % type.modulus).toNat

def sampleOf (type : PixelType) (word : Nat) : Sample :=
  match type with
  | .float32 => .ofSingleWord word
  | .float64 => ⟨UInt64.ofNat word⟩
  | _ =>
      .ofFloat
        (if type.highest < word then Float.ofInt (word - type.modulus) else Float.ofInt word)

/-- The 64-bit float type stores every sample as it is. -/
theorem sampleOf_wordOf_float64 (sample : Sample) :
    float64.sampleOf (float64.wordOf sample) = sample := by
  simp [wordOf, sampleOf]

def encode (type : PixelType) (sample : Sample) : List UInt8 :=
  Bytes.ofLittle type.size (type.wordOf sample)

/-- The sample of as many bytes as the type has. -/
def decode (type : PixelType) (row : List UInt8) : Sample := type.sampleOf (Bytes.little row)

/-- Sample `index` of a buffer, if the buffer reaches that far. -/
def sample? (type : PixelType) (buffer : ByteArray) (index : Nat) : Option Sample :=
  (Bytes.slice? buffer (index * type.size) type.size).map type.decode

def read? (type : PixelType) (buffer : ByteArray) (index : Nat) : Option Float :=
  (type.sample? buffer index).map Sample.value

def write (type : PixelType) (buffer : ByteArray) (sample : Sample) : ByteArray :=
  Bytes.append buffer (type.encode sample)

def encodeAll (type : PixelType) (values : List Float) : ByteArray :=
  (values.map Sample.ofFloat).foldl type.write ByteArray.empty

end PixelType

end TileAtlas
