import TileAtlas.Tile

/-!
Contract: the plain container of a square tile of heights.

Owns:
- `RawContainer.encode`, the mark `RAW0`, the grid size as a 32-bit word with
  the least byte first, and the bytes of the tile;
- `RawContainer.decode`, which accepts nothing else;
- `RawContainer.empty`, a container of one repeated pixel.

The container does not say where the tile lies.
-/

namespace TileAtlas.RawContainer

/-- The bytes that every container begins with. -/
def mark : List UInt8 := [0x52, 0x41, 0x57, 0x30]

variable {α : Type}

def encode (tile : RasterTile α) : Except Error (List UInt8) :=
  if ¬tile.isElevation then .error (.format (.notElevation .raw))
  else if tile.width ≠ tile.height then
    .error (.format (.notSquare .raw tile.width tile.height))
  else if word32Max < tile.width then .error (.format (.headerRange tile.width))
  else .ok (mark ++ Bytes.ofLittle 4 tile.width ++ tile.bytes)

/-- Group bytes into pixels; fewer than four at the end are left out. -/
def pixelsOf : List UInt8 → List Rgba
  | red :: green :: blue :: alpha :: rest => ⟨red, green, blue, alpha⟩ :: pixelsOf rest
  | _ => []

def decodeBody : List UInt8 → Except Error (RasterTile α)
  | b0 :: b1 :: b2 :: b3 :: payload =>
      let size := Bytes.little [b0, b1, b2, b3]
      let needed := size * size * 4
      if word64Max < needed then .error (.format (.payloadOverflow size))
      else if payload.length ≠ needed then
        .error (.format (.payloadLength payload.length size needed))
      else .ok ⟨size, size, .elevation, (pixelsOf payload).toArray, none⟩
  | _ => .error (.format .missingHeader)

def decode (bytes : List UInt8) : Except Error (RasterTile α) :=
  if bytes.take 4 = mark then decodeBody (bytes.drop 4) else .error (.format .missingHeader)

def empty (size : Nat) (pixel : Rgba) : Except Error (List UInt8) := do
  let tile : RasterTile Float ← RasterTile.flat size size none
  encode { tile with pixels := Array.replicate (size * size) pixel }

end TileAtlas.RawContainer
