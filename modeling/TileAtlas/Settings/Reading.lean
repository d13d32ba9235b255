import TileAtlas.Cache.FileTree
import TileAtlas.Settings.Basic
import TileAtlas.Toml.Document

/-!
Contract: settings out of TOML documents.

Owns:
- `Settings.ofDocument`, which reads and checks a document;
- `Settings.load`, the same for a file.

Unknown names do not matter.  A record may be written as a table or as an array
of its values in order; values that are left out take what is usual, where
anything is usual.  An integer may stand for a float.
-/

namespace TileAtlas

namespace TomlValue

def text? : TomlValue → Option String
  | .text content => some content
  | _ => none

def bool? : TomlValue → Option Bool
  | .bool value => some value
  | _ => none

def natural? (bound : Nat) : TomlValue → Option Nat
  | .integer value => if 0 ≤ value ∧ value ≤ bound then some value.toNat else none
  | _ => none

def number? : TomlValue → Option Float
  | .float value => some value
  | .integer value => some (Float.ofInt value)
  | _ => none

/-- The items of an array, tables under headers included. -/
def items? : TomlValue → Option (List TomlValue)
  | .array items => some items
  | .tables items => some (items.map (.table .opened))
  | _ => none

/-- A list whose items are all read in the same way. -/
def list? {β : Type} (item : TomlValue → Option β) (value : TomlValue) : Option (List β) := do
  (← value.items?).mapM item

def isEmpty : TomlValue → Bool
  | .array items => items.isEmpty
  | .tables items => items.isEmpty
  | .table _ members => members.isEmpty
  | _ => false

/-- One of several names: a text, or a table whose single member is empty. -/
def choice? {β : Type} (ofName? : String → Option β) : TomlValue → Option β
  | .text name => ofName? name
  | .table _ [(name, value)] => if value.isEmpty then ofName? name else none
  | _ => none

end TomlValue

/-- A record: named values, or values in order. -/
inductive TomlRecord where
  | named (members : TomlValue.Members)
  | ordered (items : List TomlValue)

namespace TomlRecord

/-- View a value as a record.  A date is one, but has no names of its own. -/
def ofValue? (value : TomlValue) : Option TomlRecord :=
  match value with
  | .table _ members => some (.named members)
  | .dateTime => some (.named [])
  | _ => value.items?.map .ordered

def member? (fields : TomlRecord) (place : Nat) (name : String) : Option TomlValue :=
  match fields with
  | .named members => members.lookup name
  | .ordered items => items[place]?

def required {β : Type} (fields : TomlRecord) (place : Nat) (name : String)
    (reading : TomlValue → Option β) : Option β := do
  reading (← fields.member? place name)

/-- Read a value, or take the usual one where it is left out. -/
def usual {β : Type} (fields : TomlRecord) (place : Nat) (name : String) (value : β)
    (reading : TomlValue → Option β) : Option β :=
  match fields.member? place name with
  | some given => reading given
  | none => some value

def optional {β : Type} (fields : TomlRecord) (place : Nat) (name : String)
    (reading : TomlValue → Option β) : Option (Option β) :=
  fields.usual place name none fun given => (reading given).map some

end TomlRecord

namespace Settings

def extent? (value : TomlValue) : Option (Extent Float) := do
  let fields ← TomlRecord.ofValue? value
  return {
    minX := ← fields.required 0 "minx" TomlValue.number?
    minY := ← fields.required 1 "miny" TomlValue.number?
    maxX := ← fields.required 2 "maxx" TomlValue.number?
    maxY := ← fields.required 3 "maxy" TomlValue.number? }

def grid? (value : TomlValue) : Option (Pyramid Float) := do
  let fields ← TomlRecord.ofValue? value
  return {
    name := ← fields.required 0 "name" TomlValue.text?
    srs := ← fields.required 1 "srs" TomlValue.text?
    extent := ← fields.required 2 "extent" extent?
    tileWidth := ← fields.required 3 "tile_width" (TomlValue.natural? word64Max)
    tileHeight := ← fields.required 4 "tile_height" (TomlValue.natural? word64Max)
    resolutions := ← fields.required 5 "resolutions" (TomlValue.list? TomlValue.number?)
    elevationBlock :=
      ← fields.usual 6 "elevation_block" Pyramid.standardBlock (TomlValue.natural? word64Max)
    origin := ← fields.usual 7 "origin" .bottomLeft (TomlValue.choice? Corner.ofName?) }

def source? (value : TomlValue) : Option SourceSettings := do
  let fields ← TomlRecord.ofValue? value
  return {
    data := ← fields.required 0 "data" TomlValue.text?
    srs := ← fields.optional 1 "srs" TomlValue.text?
    extent := ← fields.optional 2 "extent" TomlValue.text? }

def cache? (value : TomlValue) : Option CacheSettings := do
  let fields ← TomlRecord.ofValue? value
  return {
    kind := ← fields.usual 0 "kind" .memory (TomlValue.choice? CacheKind.ofName?)
    layout := ← fields.usual 1 "layout" .tileCache (TomlValue.choice? LayoutKind.ofName?)
    base := ← fields.optional 2 "base" TomlValue.text?
    template := ← fields.optional 3 "template" TomlValue.text?
    capacity :=
      ← fields.usual 4 "capacity_bytes" RecencyStore.standardCapacity
        (TomlValue.natural? word64Max) }

/-- Read a colour of at least four bytes; more of them do not matter. -/
def color? (value : TomlValue) : Option Rgba := do
  let bytes ← ((← value.items?).take 4).mapM (TomlValue.natural? 255)
  Rgba.ofList? (bytes.map UInt8.ofNat)

def formatOfName? : String → Option TileFormat
  | "raw" => some .raw
  | "json" => some .json
  | _ => none

def options? (value : TomlValue) : Option (RenderOptions Float) := do
  let fields ← TomlRecord.ofValue? value
  let usual : RenderOptions Float := .standard
  return {
    quality := ← fields.usual 0 "quality" usual.quality TomlValue.number?
    resampling :=
      ← fields.usual 1 "resampling" usual.resampling (TomlValue.choice? Resampling.ofName?)
    blankColor := ← fields.usual 2 "blank_color" usual.blankColor color? }

def readTileset? (value : TomlValue) : Option TilesetSettings := do
  let fields ← TomlRecord.ofValue? value
  return {
    name := ← fields.required 0 "name" TomlValue.text?
    grid := ← fields.usual 1 "grid" (Pyramid.webMercator : Pyramid Float).name TomlValue.text?
    format := ← fields.usual 2 "format" .raw (TomlValue.choice? formatOfName?)
    elevation := ← fields.usual 3 "elevation" false TomlValue.bool?
    source := ← fields.required 4 "source" source?
    cache := ← fields.usual 5 "cache" .standard cache?
    options := ← fields.usual 6 "options" .standard options? }

def ofMembers? (members : TomlValue.Members) : Option Settings := do
  let fields := TomlRecord.named members
  return {
    grids := ← fields.usual 0 "grids" [] (TomlValue.list? grid?)
    tilesets := ← fields.usual 1 "tilesets" [] (TomlValue.list? readTileset?) }

def ofDocument (text : String) : Except Error Settings :=
  match (TomlValue.ofDocument? text).bind ofMembers? with
  | none => .error (.config .malformedSettings)
  | some settings =>
      match settings.check with
      | .ok () => .ok settings
      | .error error => .error error

def load (tree : FileTree) (path : String) : Except Error Settings :=
  match tree.read (.ofText path) with
  | .error fault => .error (.io fault)
  | .ok content =>
      match String.fromUTF8? content with
      | some text => ofDocument text
      | none => .error (.io .notText)

end Settings

end TileAtlas
