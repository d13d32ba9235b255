import TileAtlas.Cache.Key
import TileAtlas.Cache.Recency
import TileAtlas.Format
import TileAtlas.Render

/-!
Contract: the settings of grids, sources, stores and tilesets.

Owns:
- `Settings` and its parts;
- `Settings.pyramid?` and `Settings.tileset?`, look-ups by name, in which
  configured pyramids come before the built-in ones;
- `CacheSettings.keyLayout`, the key layout that a store is set up for;
- `Settings.check`, which finds the first inconsistency.
-/

namespace TileAtlas

/-- Where tiles are stored. -/
inductive CacheKind where
  | disk
  | memory
deriving DecidableEq, Repr

/-- How keys are formed. -/
inductive LayoutKind where
  | tileCache
  | template
  | arcGis
deriving DecidableEq, Repr

/-- The settings of a store. -/
structure CacheSettings where
  kind : CacheKind
  layout : LayoutKind
  /-- What the keys of the fixed layouts begin with. -/
  base : Option String
  /-- The keys of the free layout. -/
  template : Option String
  /-- The bytes that a store in memory holds at most. -/
  capacity : Nat
deriving DecidableEq, Repr

/-- The settings of a raster. -/
structure SourceSettings where
  data : String
  /-- Taken in place of the raster's own reference system. -/
  srs : Option String
  /-- Four numbers in degrees: raster points outside stay empty. -/
  extent : Option String
deriving DecidableEq, Repr

/-- The settings of a tileset. -/
structure TilesetSettings where
  name : String
  grid : String
  format : TileFormat
  /-- Tiles of heights in place of images. -/
  elevation : Bool
  source : SourceSettings
  cache : CacheSettings
  options : RenderOptions Float

/-- All settings. -/
structure Settings where
  grids : List (Pyramid Float)
  tilesets : List TilesetSettings

namespace CacheKind

def name : CacheKind → String
  | .disk => "disk"
  | .memory => "memory"

def ofName? (name : String) : Option CacheKind := [disk, memory].find? fun kind => kind.name = name

end CacheKind

namespace LayoutKind

def name : LayoutKind → String
  | .tileCache => "tilecache"
  | .template => "template"
  | .arcGis => "arcgis"

def ofName? (name : String) : Option LayoutKind :=
  [tileCache, template, arcGis].find? fun layout => layout.name = name

end LayoutKind

namespace CacheSettings

/-- A store in memory with keys of the first layout. -/
def standard : CacheSettings := ⟨.memory, .tileCache, none, none, RecencyStore.standardCapacity⟩

/-- What keys begin with.  On disk it must not be empty. -/
def keyBase (settings : CacheSettings) : Except Error String :=
  match settings.base.getD "", settings.kind with
  | "", .memory => .ok ""
  | "", .disk => .error (.config .diskWithoutBase)
  | base, _ => .ok base

def keyLayout (settings : CacheSettings) : Except Error KeyLayout :=
  match settings.layout with
  | .tileCache => settings.keyBase.map .tileCache
  | .arcGis => settings.keyBase.map .arcGis
  | .template =>
      match settings.template.getD "" with
      | "" => .error (.config .missingTemplate)
      | template => .ok (.template template)

end CacheSettings

namespace SourceSettings

def validExtent (settings : SourceSettings) : Except Error (Option (Extent Float)) :=
  match settings.extent with
  | none => .ok none
  | some text =>
      match Extent.ofText text with
      | .ok extent => .ok (some extent)
      | .error fault => .error (.config fault)

end SourceSettings

namespace Settings

def pyramid? (settings : Settings) (name : String) : Option (Pyramid Float) :=
  (settings.grids ++ Pyramid.builtIn).find? fun pyramid => pyramid.name = name

def tileset? (settings : Settings) (name : String) : Option TilesetSettings :=
  settings.tilesets.find? fun tileset => tileset.name = name

/-- Check a tileset against the names of those before it. -/
def checkTileset (settings : Settings) (earlier : List String) (tileset : TilesetSettings) :
    Except Error Unit := do
  if earlier.contains tileset.name then throw (.config (.duplicateTileset tileset.name))
  if (settings.pyramid? tileset.grid).isNone then
    throw (.config (.gridReference tileset.name tileset.grid))
  let _ ← tileset.source.validExtent
  let _ ← tileset.cache.keyLayout

def checkTilesets (settings : Settings) (earlier : List String) :
    List TilesetSettings → Except Error Unit
  | [] => .ok ()
  | tileset :: rest => do
      settings.checkTileset earlier tileset
      settings.checkTilesets (tileset.name :: earlier) rest

/-- Names differ, grids are known, extents can be read, and stores have what
their layout needs. -/
def check (settings : Settings) : Except Error Unit := settings.checkTilesets [] settings.tilesets

end Settings

end TileAtlas
