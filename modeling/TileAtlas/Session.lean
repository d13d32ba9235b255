import TileAtlas.Cache.Disk
import TileAtlas.Json.Writer
import TileAtlas.Tiff.Raster
import TileAtlas.Tileset

/-!
Contract: answering for a tileset, one call after another.

Owns:
- `Session`, the open rasters, the stored tiles, the files, and what happened;
- `Tileset.getTile` and `Tileset.seed`, with and without looking at the store;
- `Tileset.layerSettings`, the description of a tileset for clients.

A raster is given back after a render only if the render succeeded.  Nothing is
stored unless it was rendered and encoded.
-/

namespace TileAtlas

/-- Where tiles are stored. -/
inductive TileStore where
  | memory (entries : RecencyStore)
  /-- Files; the number tells temporary files of this process from others. -/
  | disk (process : Nat)

/-- What happened in a session. -/
inductive SessionEvent where
  | opened (succeeded : Bool)
  | hit (key : String)
  | miss (key : String)
  | stored (key : String)
deriving DecidableEq, Repr

/-- The state between calls. -/
structure Session where
  /-- Open rasters that no render uses. -/
  idle : List (Dataset Float)
  store : TileStore
  files : FileTree
  /-- What happened, in order. -/
  events : List SessionEvent

/-- A call: its answer or error, and the session after it. -/
abbrev Call (β : Type) := ExceptT Error (StateM Session) β

/-- Take an answer or an error over into a call. -/
def Call.ofExcept {β : Type} (result : Except Error β) : Call β := ExceptT.mk (pure result)

abbrev RasterSource := FileTree → Except Error (Dataset Float)

namespace RasterSource

def file [Allocator] (path : String) : RasterSource := fun tree =>
  match tree.read (.ofText path) with
  | .ok content => (TiffRaster.ofFile path content).map ChunkedRaster.toDataset
  | .error fault => .error (.datasetOpen path fault.message)

end RasterSource

namespace Session

/-- How many rasters are kept open at most. -/
def mostIdle : Nat := 4

def note (event : SessionEvent) : Call Unit :=
  modify fun session => { session with events := session.events ++ [event] }

def checkOut (source : RasterSource) : Call (Dataset Float) := do
  let session ← get
  match session.idle with
  | raster :: rest =>
      set { session with idle := rest }
      return raster
  | [] =>
      match source session.files with
      | .ok raster =>
          note (.opened true)
          return raster
      | .error error =>
          note (.opened false)
          throw error

def checkIn (raster : Dataset Float) : Call Unit :=
  modify fun session =>
    if session.idle.length < mostIdle then { session with idle := raster :: session.idle }
    else session

def lookUp (key : String) : Call (Option ByteArray) := do
  let session ← get
  let found ←
    match session.store with
    | .memory entries => do
        let (found, used) := entries.get key
        set { session with store := .memory used }
        pure found
    | .disk _ => Call.ofExcept (DiskStore.get session.files key)
  note (if found.isSome then .hit key else .miss key)
  return found

def keep (key : String) (data : ByteArray) : Call Unit := do
  let session ← get
  match session.store with
  | .memory entries => set { session with store := .memory (entries.put key data) }
  | .disk process =>
      let (result, files) := DiskStore.put .sound process session.files key data
      set { session with files := files }
      Call.ofExcept result
  note (.stored key)

end Session

/-- A tile as it is sent. -/
structure TileResponse where
  data : ByteArray
  mimeType : String

/-- The description of a tileset for clients. -/
structure LayerSettings where
  name : String
  kind : String
  format : String
  minLevel : Nat
  maxLevel : Nat
  /-- The tiles of the finest level that the raster touches. -/
  limits : TileLimits

namespace Tileset

variable [Allocator]

def render (tileset : Tileset) (source : RasterSource) (tile : TileCoordinate) :
    Call (RasterTile Float) := do
  let request ← Call.ofExcept (tileset.request tile)
  let raster ← Session.checkOut source
  let rendered ← Call.ofExcept (request.render raster tileset.settings.options)
  Session.checkIn raster
  return rendered

def store (tileset : Tileset) (source : RasterSource) (tile : TileCoordinate) (key : String) :
    Call ByteArray := do
  let rendered ← tileset.render source tile
  let bytes ← Call.ofExcept (tileset.settings.format.encode rendered)
  Session.keep key bytes
  return bytes

/-- The bytes of a tile, out of the store if it is there. -/
def getTile (tileset : Tileset) (source : RasterSource) (tile : TileCoordinate) :
    Call ByteArray := do
  let key ← Call.ofExcept (tileset.tileKey tile)
  match ← Session.lookUp key with
  | some bytes => return bytes
  | none => tileset.store source tile key

def seed (tileset : Tileset) (source : RasterSource) (tile : TileCoordinate) : Call ByteArray := do
  let key ← Call.ofExcept (tileset.tileKey tile)
  tileset.store source tile key

def serve (tileset : Tileset) (source : RasterSource) (address : TileAddress) :
    Call TileResponse := do
  let tile ← Call.ofExcept (tileset.resolve address)
  let data ← tileset.getTile source tile
  return ⟨data, tileset.settings.format.mimeType⟩

/-- The extent of a raster in the tileset's reference system, if it has one. -/
def footprint (tileset : Tileset) (info : DatasetInfo Float) :
    Except Error (Option (Extent Float)) :=
  match tileset.settings.source.srs.or info.srs with
  | none => .ok none
  | some text => do
      let source ← SpatialReference.ofText text
      let forward ← Transformer.between source tileset.srs .forward
      return borderExtent info.geoTransform forward.map info.width info.height

/-- Describe the tileset.  A raster without an extent touches the whole level. -/
def layerSettings (tileset : Tileset) (source : RasterSource) : Call LayerSettings := do
  let pyramid := tileset.pyramid
  let maxLevel := pyramid.levelCount - 1
  let raster ← Session.checkOut source
  Session.checkIn raster
  let extent ← Call.ofExcept (tileset.footprint raster.info)
  let touched := extent.bind fun extent => pyramid.tileLimits extent maxLevel
  let limits := (touched.or (pyramid.tileLimits pyramid.extent maxLevel)).getD ⟨0, 0, 0, 0⟩
  return {
    name := tileset.settings.name
    kind := if tileset.settings.elevation then "elevation" else "image"
    format := tileset.settings.format.name
    minLevel := 1
    maxLevel := maxLevel
    limits := limits }

/-- The session of a tileset with the store that its settings ask for. -/
def session (tileset : Tileset) (process : Nat) (files : FileTree) : Session where
  idle := []
  store := match tileset.settings.cache.kind with
    | .memory => .memory (RecencyStore.empty tileset.settings.cache.capacity)
    | .disk => .disk process
  files := files
  events := []

end Tileset

namespace LayerSettings

def toJson (settings : LayerSettings) : JsonValue :=
  .ofMembers
    [ ("name", .ofText settings.name),
      ("type", .ofText settings.kind),
      ("format", .ofText settings.format),
      ("minlod", .ofNat settings.minLevel),
      ("maxlod", .ofNat settings.maxLevel),
      ("extent", .array
        [ .ofNat settings.limits.minX, .ofNat settings.limits.minY,
          .ofNat settings.limits.maxX, .ofNat settings.limits.maxY ]) ]

/-- The description as a document over several lines. -/
def document (settings : LayerSettings) : String := settings.toJson.pretty

end LayerSettings

end TileAtlas
