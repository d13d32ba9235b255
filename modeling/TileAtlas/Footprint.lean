import TileAtlas.Number.Fixed
import TileAtlas.Tiff.Raster
import TileAtlas.Window

/-!
Contract: the extent of a raster file in another reference system, as a command.

Owns:
- `FootprintRequest` and its reading from command-line arguments;
- `Footprint.extent`, from the bytes of a file to its extent;
- `Footprint.line`, the line that is printed.
-/

namespace TileAtlas

/-- What to measure, and in which reference system. -/
structure FootprintRequest where
  file : String
  /-- Taken in place of the file's own reference system. -/
  srs : Option String
  target : String
deriving DecidableEq, Repr

/-- Why there is no extent. -/
inductive FootprintFault where
  | failed (error : Error)
  | noReference
  | noExtent

/-- What a command line asks for. -/
inductive FootprintCommand where
  | measure (request : FootprintRequest)
  | help
  | version
  | misuse (argument : String)
deriving DecidableEq, Repr

namespace FootprintFault

def message : FootprintFault → String
  | .failed error => error.message
  | .noReference => "dataset has no spatial reference, pass --srs"
  | .noExtent => "no border pixel could be transformed into the target reference system"

end FootprintFault

namespace FootprintRequest

/-- The arguments read so far. -/
structure Draft where
  file : Option String
  srs : Option String
  target : Option String

def Draft.set? (draft : Draft) (option value : String) : Option Draft :=
  match option, draft with
  | "file", ⟨none, srs, target⟩ => some ⟨some value, srs, target⟩
  | "srs", ⟨file, none, target⟩ => some ⟨file, some value, target⟩
  | "target", ⟨file, srs, none⟩ => some ⟨file, srs, some value⟩
  | _, _ => none

def optionOf? : String → Option String
  | "-f" | "--file" => some "file"
  | "-s" | "--srs" => some "srs"
  | "-t" | "--target" => some "target"
  | _ => none

def readArguments (draft : Draft) : List String → FootprintCommand
  | [] =>
      match draft.file with
      | some file => .measure ⟨file, draft.srs, draft.target.getD "EPSG:4326"⟩
      | none => .misuse "--file"
  | flag :: rest =>
      if flag = "-h" ∨ flag = "--help" then .help
      else if flag = "-V" ∨ flag = "--version" then .version
      else
        match optionOf? flag, rest with
        | some option, value :: rest =>
            match draft.set? option value with
            | some next => readArguments next rest
            | none => .misuse flag
        | _, _ => .misuse flag

def ofArguments (arguments : List String) : FootprintCommand :=
  readArguments ⟨none, none, none⟩ arguments

end FootprintRequest

namespace Footprint

private def lift {β : Type} : Except Error β → Except FootprintFault β
  | .ok value => .ok value
  | .error error => .error (.failed error)

/-- The extent of the file with the given bytes; a file that cannot be read has
none. -/
def extent (request : FootprintRequest) (content : Option ByteArray) :
    Except FootprintFault (Extent Float) := do
  let some bytes := content
    | throw (.failed (.datasetOpen request.file FileFault.notFound.message))
  let raster ← lift (TiffRaster.ofFile request.file bytes)
  let some sourceText := request.srs.or raster.info.srs | throw .noReference
  let source ← lift (SpatialReference.ofText sourceText)
  let target ← lift (SpatialReference.ofText request.target)
  let forward ← lift (Transformer.between source target .forward)
  match borderExtent raster.info.geoTransform forward.map raster.info.width raster.info.height with
  | some extent => return extent
  | none => throw .noExtent

def coordinate (value : Float) : String := Fixed.text 15 (Binary.ofFloat value)

def line (extent : Extent Float) : String :=
  "EXTENT: " ++ coordinate extent.minX ++ " " ++ coordinate extent.minY ++ " " ++
    coordinate extent.maxX ++ " " ++ coordinate extent.maxY

/-- How the command is used. -/
def usage : String :=
  "Compute the extent of a GeoTIFF dataset in a target reference system.\n\n" ++
    "Options:\n" ++
    "  -f, --file <GeoTIFF file>                   Dataset to measure\n" ++
    "  -s, --srs <EPSG code or PROJ string>        Reference system of the dataset, overriding " ++
    "the one it declares\n" ++
    "  -t, --target <EPSG code or PROJ string>     Reference system of the reported extent " ++
    "[default: EPSG:4326]\n" ++
    "  -h, --help                                  Print help\n" ++
    "  -V, --version                               Print version\n"

end Footprint

end TileAtlas
