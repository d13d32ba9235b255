import TileAtlas.Format.Raw
import TileAtlas.Format.Terrain

/-!
Contract: the ways to store a tile.

Owns: `TileFormat`, its names, and the dispatch to the two containers.
-/

namespace TileAtlas

/-- A way to store a tile. -/
inductive TileFormat where
  | raw
  | json
deriving DecidableEq, Repr

namespace TileFormat

/-- The name, which is also the file extension. -/
def name : TileFormat → String
  | .raw => "raw"
  | .json => "json"

def mimeType : TileFormat → String
  | .raw => "application/octet-stream"
  | .json => "application/json"

/-- The format of a name, in which the case of ASCII letters does not matter. -/
def ofText (text : String) : Except Error TileFormat :=
  let lower := String.ofList (text.toList.map Char.toLower)
  if lower = "raw" then .ok .raw
  else if lower = "json" then .ok .json
  else .error (.config (.unknownFormat lower))

def encode (format : TileFormat) (tile : RasterTile Float) : Except Error ByteArray :=
  match format with
  | .raw => (RawContainer.encode tile).map Bytes.ofList
  | .json => (TerrainDocument.encode tile).map Bytes.ofList

def decode {α : Type} (format : TileFormat) (bytes : ByteArray) : Except Error (RasterTile α) :=
  match format with
  | .raw => RawContainer.decode (Bytes.toList bytes)
  | .json => TerrainDocument.decode (Bytes.toList bytes)

/-- An empty tile of `size × size` pixels: raw tiles repeat a pixel, terrain is
flat. -/
def empty (format : TileFormat) (size : Nat) (pixel : Rgba) : Except Error ByteArray :=
  match format with
  | .raw => (RawContainer.empty size pixel).map Bytes.ofList
  | .json => (TerrainDocument.empty size).map Bytes.ofList

end TileFormat

end TileAtlas
