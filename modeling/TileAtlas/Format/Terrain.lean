import TileAtlas.Json.Writer
import TileAtlas.Mesh.Surface
import TileAtlas.Tile

/-!
Contract: tiles of heights as terrain documents.

Owns:
- `TerrainDocument`, the eleven members of a document;
- `TerrainDocument.toJson` and `TerrainDocument.ofJson?`;
- `TerrainDocument.encode` and `TerrainDocument.decode` of tiles.

A document also carries the surface over the heights.  Reading checks all of
it and then keeps the heights alone.  In place of the object a document may be
an array of its members' values in order.
-/

namespace TileAtlas

/-- A terrain document. -/
structure TerrainDocument where
  version : String
  triangulation : String
  gridSize : Nat
  vertexSemantic : String
  /-- Position and texture place of each vertex, one after another. -/
  vertices : List Float
  indices : List Nat
  indexSemantic : String
  offset : Point3
  boundingBox : Box3
  curtainIndex : Nat
  heightMap : List Float32

namespace TerrainDocument

def vertexNumbers (vertex : SurfaceVertex) : List Float :=
  [vertex.position.x, vertex.position.y, vertex.position.z, vertex.u, vertex.v]

def ofSurface (surface : Surface) : TerrainDocument where
  version := "1.1"
  triangulation := "grid"
  gridSize := surface.gridSize
  vertexSemantic := "pt"
  vertices := surface.vertices.toList.flatMap vertexNumbers
  indices := surface.triangles.toList
  indexSemantic := "TRIANGLES"
  offset := surface.offset
  boundingBox := surface.bounds
  curtainIndex := surface.curtainIndex
  heightMap := surface.heights.toList

/-- The whole normalized square, where tiles without a place are put. -/
def wholeSquare : Extent Float := ⟨-1.0, -1.0, 1.0, 1.0⟩

def ofTile (tile : RasterTile Float) : Except Error TerrainDocument :=
  if ¬tile.isElevation then .error (.format (.notElevation .json))
  else if tile.width ≠ tile.height then
    .error (.format (.notSquare .json tile.width tile.height))
  else
    (Surface.ofHeights tile.heights tile.width (tile.subExtent.getD wholeSquare) true).map ofSurface

def pointToJson (point : Point3) : JsonValue :=
  .array [.ofFloat point.x, .ofFloat point.y, .ofFloat point.z]

def memberNames : List String :=
  [ "Version", "Triangulation", "GridSize", "VertexSemantic", "Vertices", "Indices",
    "IndexSemantic", "Offset", "BoundingBox", "CurtainIndex", "HeightMap" ]

def memberValues (document : TerrainDocument) : List JsonValue :=
  [ .ofText document.version,
    .ofText document.triangulation,
    .ofNat document.gridSize,
    .ofText document.vertexSemantic,
    .array (document.vertices.map .ofFloat),
    .array (document.indices.map .ofNat),
    .ofText document.indexSemantic,
    pointToJson document.offset,
    .array [pointToJson document.boundingBox.least, pointToJson document.boundingBox.greatest],
    .ofNat document.curtainIndex,
    .array (document.heightMap.map .ofFloat32) ]

def toJson (document : TerrainDocument) : JsonValue :=
  .ofMembers (memberNames.zip document.memberValues)

def text? : JsonValue → Option String
  | .text content => content
  | _ => none

def number? : JsonValue → Option Json.Number
  | .number numeral => numeral.number?
  | _ => none

def natural? (bound : Nat) (value : JsonValue) : Option Nat := do (← number? value).natural? bound

def float? (value : JsonValue) : Option Float := do return (← number? value).toFloat

def float32? (value : JsonValue) : Option Float32 := do return (← number? value).toFloat32

/-- An array of values that are all read in the same way. -/
def array? {β : Type} (item : JsonValue → Option β) : JsonValue → Option (List β)
  | .array items => items.mapM item
  | _ => none

def point? (value : JsonValue) : Option Point3 := do
  match ← array? float? value with
  | [x, y, z] => return ⟨x, y, z⟩
  | _ => none

def box? (value : JsonValue) : Option Box3 := do
  match ← array? point? value with
  | [least, greatest] => return ⟨least, greatest⟩
  | _ => none

def ofValues? : List JsonValue → Option TerrainDocument
  | [version, triangulation, gridSize, vertexSemantic, vertices, indices, indexSemantic, offset,
      boundingBox, curtainIndex, heightMap] => do
      return {
        version := ← text? version
        triangulation := ← text? triangulation
        gridSize := ← natural? word64Max gridSize
        vertexSemantic := ← text? vertexSemantic
        vertices := ← array? float? vertices
        indices := ← array? (natural? word32Max) indices
        indexSemantic := ← text? indexSemantic
        offset := ← point? offset
        boundingBox := ← box? boundingBox
        curtainIndex := ← natural? word64Max curtainIndex
        heightMap := ← array? float32? heightMap }
  | _ => none

def onlyMember? (members : List (Option String × JsonValue)) (name : String) : Option JsonValue :=
  match members.filter fun member => member.1 = some name with
  | [member] => some member.2
  | _ => none

/-- Read a document.  Members of other names do not matter, but every name has
to denote a text. -/
def ofJson? : JsonValue → Option TerrainDocument
  | .object members =>
      if members.all fun member => member.1.isSome then do
        ofValues? (← memberNames.mapM (onlyMember? members))
      else none
  | .array values => ofValues? values
  | _ => none

def encode (tile : RasterTile Float) : Except Error (List UInt8) :=
  (ofTile tile).map fun document => document.toJson.compact.toUTF8.data.toList

/-- Read the tile of a document.  It does not say where it lies. -/
def decode {α : Type} (bytes : List UInt8) : Except Error (RasterTile α) :=
  match (JsonValue.ofBytes? bytes).bind ofJson? with
  | some document =>
      RasterTile.ofHeights document.gridSize document.gridSize document.heightMap.toArray none
  | none => .error (.format .malformedDocument)

def empty (size : Nat) : Except Error (List UInt8) := do
  encode (← RasterTile.flat size size none)

end TerrainDocument

end TileAtlas
