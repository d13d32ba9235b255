import TileAtlas.Settings.Basic

/-!
Contract: a configured tileset, as far as it does not depend on what was asked
before.

Owns:
- `Tileset`, settings together with their pyramid, reference system and keys;
- `TileAddress` and `Tileset.resolve`, how clients name tiles;
- `Tileset.tileKey` and `Tileset.request`, what a tile is stored under and how
  it is rendered.
-/

namespace TileAtlas

/-- How a client names a tile. -/
inductive TileAddress where
  /-- As the pyramid counts. -/
  | grid (z x y : Nat)
  /-- Columns and rows counted from the upper left corner. -/
  | fromTop (z x y : Nat)
  /-- A map of `width × height` pixels over an extent. -/
  | map (extent : Extent Float) (width height : Nat)

/-- A tileset. -/
structure Tileset where
  settings : TilesetSettings
  pyramid : Pyramid Float
  srs : SpatialReference
  layout : KeyLayout

namespace Tileset

/-- Set a tileset up.  The reference system is checked before the keys. -/
def ofSettings (settings : TilesetSettings) (pyramid : Pyramid Float) : Except Error Tileset := do
  let srs ← SpatialReference.ofText pyramid.srs
  let layout ← settings.cache.keyLayout
  return ⟨settings, pyramid, srs, layout⟩

def named (settings : Settings) (name : String) : Except Error Tileset := do
  let some tileset := settings.tileset? name | throw (.config (.unknownTileset name))
  let some pyramid := settings.pyramid? tileset.grid | throw (.config (.unknownGrid tileset.grid))
  ofSettings tileset pyramid

def coordinate (tileset : Tileset) (z x y : Nat) : TileCoordinate :=
  ⟨tileset.settings.name, tileset.pyramid.name, z, x, y, []⟩

/-- The fault of a tile that the pyramid does not have. -/
def outside (tileset : Tileset) (z x y : Nat) : Error :=
  .config (.tileOutsideGrid z x y tileset.pyramid.name)

def resolve (tileset : Tileset) : TileAddress → Except Error TileCoordinate
  | .grid z x y => .ok (tileset.coordinate z x y)
  | .fromTop z x y =>
      match tileset.pyramid.flip z x y with
      | some (column, row) => .ok (tileset.coordinate z column row)
      | none => .error (tileset.outside z x y)
  | .map extent width height =>
      let tile := tileset.pyramid.tileAt extent width height
      .ok (tileset.coordinate tile.z tile.x tile.y)

def tileKey (tileset : Tileset) (tile : TileCoordinate) : Except Error String :=
  tileset.layout.key tile tileset.pyramid (some tileset.settings.format.name)

/-- How a tile is rendered: heights come in square blocks and know their place
in the pyramid. -/
def request (tileset : Tileset) (tile : TileCoordinate) : Except Error TileRequest := do
  let pyramid := tileset.pyramid
  let some extent := pyramid.tileExtent ⟨tile.z, tile.x, tile.y⟩
    | throw (tileset.outside tile.z tile.x tile.y)
  let validExtent ← tileset.settings.source.validExtent
  let isElevation := tileset.settings.elevation
  return {
    extent := extent
    width := if isElevation then pyramid.elevationBlock else pyramid.tileWidth
    height := if isElevation then pyramid.elevationBlock else pyramid.tileHeight
    mode := if isElevation then .elevation else .image
    validExtent := validExtent
    subExtent := if isElevation then some (pyramid.normalized extent) else none
    srs := tileset.srs
    sourceSrs := tileset.settings.source.srs }

end Tileset

end TileAtlas
