import TileAtlas.Projection.Projector
import TileAtlas.Raster.Region

/-!
Contract: everything that can go wrong, as causes.

Owns:
- `Error`, one constructor for each kind of failure, with its cause;
- `Error.message`, the only place where a cause becomes words;
- `PointError`, the failure to transform a single point.

A tile outside its dataset is not an error: it is a blank tile.
-/

namespace TileAtlas

/-- Which affine transform has no inverse. -/
inductive TransformSide where
  | source
  | destination
deriving DecidableEq, Repr

/-- Which way a coordinate transform leads. -/
inductive Direction where
  | forward
  | backward
deriving DecidableEq, Repr

/-- Why a single point is not transformed. -/
inductive PointFault where
  | outsideMercator
  | notFinite
  | projection (fault : ProjectionFault)
deriving DecidableEq, Repr

/-- A point that has no image. -/
structure PointError (α : Type) where
  x : α
  y : α
  fault : PointFault

/-- Why a spatial reference is refused. -/
inductive ReferenceFault where
  | notAReference
  | unknownCode
  | absent
  | definition (fault : DefinitionFault)
deriving DecidableEq, Repr

/-- Why a dataset's samples cannot be decoded. -/
inductive SampleFault where
  | colourModel (description : String)
  | sampleFormat (bits format : Nat)
  | separatePlanes
deriving DecidableEq, Repr

/-- What is wrong with an image file. -/
inductive ImageFault where
  | truncated
  | notAnImage
  | missingTag (tag : Nat)
  | tagValue (tag : Nat)
  | unsupported
deriving DecidableEq, Repr

/-- Why a window of a dataset is not read. -/
inductive ReadFault where
  | windowOutside (region : PixelRegion) (width height : Nat)
  | outputSize (width height : Nat)
  | sampleCount (expected width height bands given : Nat)
  | fillBands (given bands : Nat)
  | pixelOutsideChunk (x y : Nat)
  | chunkRange (column row : Nat)
  | image (fault : ImageFault)
deriving DecidableEq, Repr

/-- The containers that elevation tiles are stored in. -/
inductive TileContainer where
  | raw
  | json
deriving DecidableEq, Repr

/-- Why a tile cannot be encoded or decoded. -/
inductive FormatFault where
  | notElevation (container : TileContainer)
  | notSquare (container : TileContainer) (width height : Nat)
  | headerRange (size : Nat)
  | missingHeader
  | payloadOverflow (size : Nat)
  | payloadLength (given size needed : Nat)
  | heightCount (expected width height given : Nat)
  | meshTooSmall (size : Nat)
  | meshHeights (expected size given : Nat)
  | malformedDocument
deriving DecidableEq, Repr

/-- Why a piece of text is no float literal. -/
inductive LiteralFault where
  | empty
  | malformed
deriving DecidableEq, Repr

/-- Why a setting or a request is refused. -/
inductive ConfigFault where
  | malformedSettings
  | extentLiteral (text : String) (fault : LiteralFault)
  | extentOrder (text : String)
  | extentCount (text : String) (given : Nat)
  | duplicateTileset (name : String)
  | gridReference (tileset grid : String)
  | diskWithoutBase
  | missingTemplate
  | unknownTileset (name : String)
  | unknownGrid (name : String)
  | unknownFormat (text : String)
  | tileSize (width height : Nat)
  | tileOutsideGrid (z x y : Nat) (grid : String)
  | levelOutsideGrid (z : Nat) (grid : String)
deriving DecidableEq, Repr

/-- Why a file operation fails. -/
inductive FileFault where
  | notFound
  | notADirectory
  | isADirectory
  | notEmpty
  | alreadyExists
  | nameTooLong
  | invalidName
  | notText
  | refused
deriving DecidableEq, Repr

/-- Everything that can go wrong with a render, a codec or a store. -/
inductive Error where
  | datasetOpen (path : String) (reason : String)
  | spatialReference (srs : String) (fault : ReferenceFault)
  | singularTransform (side : TransformSide)
  | transformCreation (direction : Direction) (srs : String) (fault : DefinitionFault)
  | unsupportedBandCount (bands : Nat)
  | unsupportedPixelType (fault : SampleFault)
  | allocation (bytes : Nat)
  | datasetRead (fault : ReadFault)
  | format (fault : FormatFault)
  | config (fault : ConfigFault)
  | io (fault : FileFault)
  /-- A count does not fit 64 bits.  Nothing handles this: the program stops. -/
  | overflow
deriving DecidableEq, Repr

def TransformSide.name : TransformSide → String
  | .source => "src"
  | .destination => "dst"

def Direction.name : Direction → String
  | .forward => "forward"
  | .backward => "backward"

def PointFault.message : PointFault → String
  | .outsideMercator => "latitude outside Mercator domain"
  | .notFinite => "non-finite result"
  | .projection fault => fault.message

def ReferenceFault.message : ReferenceFault → String
  | .notAReference => "expected EPSG:<code> or a PROJ.4 string"
  | .unknownCode => "not in the crs-definitions database"
  | .absent => "dataset has no spatial reference"
  | .definition fault => fault.message

def SampleFault.message : SampleFault → String
  | .colourModel description => "color type " ++ description
  | .sampleFormat bits format => s!"{bits}-bit samples of sample format {format}"
  | .separatePlanes => "band-separate planar layout"

def ImageFault.message : ImageFault → String
  | .truncated => "the file ends too early"
  | .notAnImage => "the file is no image of this kind"
  | .missingTag tag => s!"tag {tag} is missing"
  | .tagValue tag => s!"the value of tag {tag} does not fit"
  | .unsupported => "the image uses an unsupported feature"

def ReadFault.message : ReadFault → String
  | .windowOutside region width height =>
      s!"window {region.width}x{region.height}+{region.xOff}+{region.yOff} outside " ++
        s!"{width}x{height} raster"
  | .outputSize width height => s!"invalid output size {width}x{height}"
  | .sampleCount expected width height bands given =>
      s!"expected {expected} samples for {width}x{height}x{bands}, got {given}"
  | .fillBands given bands => s!"fill value has {given} bands, dataset has {bands}"
  | .pixelOutsideChunk x y => s!"pixel ({x}, {y}) outside decoded chunk"
  | .chunkRange column row => s!"chunk ({column}, {row}) out of range"
  | .image fault => fault.message

def TileContainer.name : TileContainer → String
  | .raw => "raw"
  | .json => "json"

/-- What the container holds, as it is called when a tile is not square. -/
def TileContainer.noun : TileContainer → String
  | .raw => "raw"
  | .json => "terrain"

def FormatFault.message : FormatFault → String
  | .notElevation container => "can't convert non elevation data to " ++ container.name
  | .notSquare container width height =>
      container.noun ++ s!" tiles must be square, got {width}x{height}"
  | .headerRange size => s!"grid size {size} does not fit the raw header"
  | .missingHeader => "missing RAW0 header"
  | .payloadOverflow size => s!"grid size {size} overflows"
  | .payloadLength given size needed =>
      s!"raw payload is {given} bytes, grid size {size} needs {needed}"
  | .heightCount expected width height given =>
      s!"expected {expected} heights for {width}x{height}, got {given}"
  | .meshTooSmall size => s!"grid size {size} is too small for a mesh"
  | .meshHeights expected size given =>
      s!"expected {expected} heights for grid size {size}, got {given}"
  | .malformedDocument => "malformed terrain document"

def LiteralFault.message : LiteralFault → String
  | .empty => "cannot parse float from empty string"
  | .malformed => "invalid float literal"

def quoted (text : String) : String := "\"" ++ text ++ "\""

def ConfigFault.message : ConfigFault → String
  | .malformedSettings => "malformed settings"
  | .extentLiteral text fault => "invalid extent " ++ quoted text ++ ": " ++ fault.message
  | .extentOrder text => "extent " ++ quoted text ++ " has min >= max"
  | .extentCount text given =>
      "extent " ++ quoted text ++ s!" must have 4 values, got {given}"
  | .duplicateTileset name => "duplicate tileset " ++ quoted name
  | .gridReference tileset grid =>
      "tileset " ++ quoted tileset ++ " references unknown grid " ++ quoted grid
  | .diskWithoutBase => "disk cache has no base directory or template"
  | .missingTemplate => "no template specified for cache"
  | .unknownTileset name => "unknown tileset " ++ quoted name
  | .unknownGrid name => "unknown grid " ++ quoted name
  | .unknownFormat text => "unknown image format " ++ quoted text
  | .tileSize width height => s!"tile size {width}x{height} must be positive"
  | .tileOutsideGrid z x y grid => s!"tile {z}/{x}/{y} is outside grid " ++ quoted grid
  | .levelOutsideGrid z grid => s!"tile level {z} is outside grid " ++ quoted grid

def FileFault.message : FileFault → String
  | .notFound => "no such file or directory"
  | .notADirectory => "not a directory"
  | .isADirectory => "is a directory"
  | .notEmpty => "directory not empty"
  | .alreadyExists => "file exists"
  | .nameTooLong => "file name too long"
  | .invalidName => "file name contains a NUL character"
  | .notText => "file does not contain valid text"
  | .refused => "operation refused"

def Error.message : Error → String
  | .datasetOpen path reason => "failed to open dataset " ++ path ++ ": " ++ reason
  | .spatialReference srs fault =>
      "failed to parse spatial reference " ++ srs ++ ": " ++ fault.message
  | .singularTransform side =>
      "can't create inverse of affine transformation (" ++ side.name ++ ")"
  | .transformCreation direction srs fault =>
      "can't create " ++ direction.name ++ " transformation: invalid projection " ++ srs ++
        ": " ++ fault.message
  | .unsupportedBandCount bands => s!"unsupported band count {bands} (expected 1, 3 or 4)"
  | .unsupportedPixelType fault => "unsupported pixel type: " ++ fault.message
  | .allocation bytes => s!"can't allocate {bytes} bytes"
  | .datasetRead fault => "dataset read failed: " ++ fault.message
  | .format fault => "format error: " ++ fault.message
  | .config fault => "configuration error: " ++ fault.message
  | .io fault => fault.message
  | .overflow => "attempt to multiply with overflow"

end TileAtlas
