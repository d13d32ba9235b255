import TileAtlas.Geometry.Extent
import TileAtlas.Geometry.Geodesy
import TileAtlas.Machine
import TileAtlas.Mesh.Topology
import TileAtlas.Number.Binary

/-!
Contract: the surface over a square field of heights.

Owns:
- `Mesh.latticePoint`, where a grid position lies in normalized Mercator;
- `Surface`, vertices, triangles, bounds and the field itself;
- `Surface.ofField`, which builds it, and `Surface.ofHeights`, which counts the
  heights first.

Vertices are kept relative to the first one.  Bounds are those of the grid
vertices alone, in which missing numbers do not take part.
-/

namespace TileAtlas

/-- How far the curtain hangs below the border, in metres. -/
def curtainDepth : Float := 500.0

/-- A point of the surface with its place in the texture. -/
structure SurfaceVertex where
  position : Point3
  u : Float
  v : Float

/-- An axis-aligned box. -/
structure Box3 where
  least : Point3
  greatest : Point3

/-- A surface with its curtain. -/
structure Surface where
  gridSize : Nat
  vertices : Array SurfaceVertex
  /-- Three vertices each. -/
  triangles : Array Nat
  /-- The earth-centred position of the first vertex. -/
  offset : Point3
  /-- The bounds of the grid vertices, the offset not subtracted. -/
  bounds : Box3
  lowest : Float
  highest : Float
  /-- The number of the first curtain vertex. -/
  curtainIndex : Nat
  heights : Array Float32

namespace Point3

/-- The lesser of two coordinates on each axis. -/
def smaller (left right : Point3) : Point3 :=
  ⟨Scalar.smaller left.x right.x, Scalar.smaller left.y right.y, Scalar.smaller left.z right.z⟩

/-- The greater of two coordinates on each axis. -/
def larger (left right : Point3) : Point3 :=
  ⟨Scalar.larger left.x right.x, Scalar.larger left.y right.y, Scalar.larger left.z right.z⟩

def relativeTo (point origin : Point3) : Point3 :=
  ⟨point.x - origin.x, point.y - origin.y, point.z - origin.z⟩

end Point3

namespace Mesh

/-- Where grid position `(x, y)` of a field lies in normalized Mercator. -/
def latticePoint {α : Type} [Scalar α] (place : Extent α) (size x y : Nat) : α × α :=
  let steps : α := Scalar.ofNat (size - 1)
  (place.minX + place.width * Scalar.ofNat x / steps,
    place.maxY - place.height * Scalar.ofNat y / steps)

def gridPositions (size : Nat) : List (Nat × Nat) :=
  (List.range size).flatMap fun y => (List.range size).map fun x => (x, y)

end Mesh

namespace Surface

def heightAt (heights : Array Float32) (size : Nat) (position : Nat × Nat) : Float :=
  Binary.widen (heights.getD (Mesh.gridVertex size position.1 position.2) (Float32.ofBits 0))

/-- The earth-centred point over a grid position. -/
def pointAt (place : Extent Float) (size : Nat) (position : Nat × Nat) (height : Float) : Point3 :=
  let lattice := Mesh.latticePoint place size position.1 position.2
  let degrees := Geodesy.ofMercator lattice.1 lattice.2
  Geodesy.toGeocentric ⟨degrees.1, degrees.2, height⟩

/-- The place of a grid position in the texture. -/
def textureAt (size : Nat) (position : Nat × Nat) : Float × Float :=
  let steps : Float := Scalar.ofNat (size - 1)
  (Scalar.ofNat position.1 / steps, Scalar.ofNat position.2 / steps)

private def infinity : Float := 1.0 / 0.0

def emptyBox : Box3 :=
  ⟨⟨infinity, infinity, infinity⟩, ⟨-infinity, -infinity, -infinity⟩⟩

def stretchBox (box : Box3) (point : Point3) : Box3 :=
  ⟨box.least.smaller point, box.greatest.larger point⟩

/-- The curtain positions with their lowered heights. -/
def curtainPoints (place : Extent Float) (size : Nat) (heights : Array Float32) : List Point3 :=
  (Mesh.curtainSources size).map fun position =>
    pointAt place size position (heightAt heights size position - curtainDepth)

/-- The surface over a `size × size` field that covers `place`. -/
def ofField (heights : Array Float32) (size : Nat) (place : Extent Float) (curtain : Bool) :
    Surface :=
  let positions := Mesh.gridPositions size
  let field := positions.map (heightAt heights size)
  let gridPoints := (positions.zip field).map fun entry =>
    pointAt place size entry.1 entry.2
  let points := gridPoints ++ (if curtain then curtainPoints place size heights else [])
  let sources := positions ++ (if curtain then Mesh.curtainSources size else [])
  let offset := points.headD ⟨0.0, 0.0, 0.0⟩
  let vertex (entry : Point3 × (Nat × Nat)) : SurfaceVertex :=
    let texture := textureAt size entry.2
    ⟨entry.1.relativeTo offset, texture.1, texture.2⟩
  { gridSize := size
    vertices := ((points.zip sources).map vertex).toArray
    triangles :=
      ((Mesh.gridTriangles size ++ (if curtain then Mesh.curtainTriangles size else [])).map
        Mesh.vertexWord).toArray
    offset := offset
    bounds := gridPoints.foldl stretchBox emptyBox
    lowest := field.foldl Scalar.smaller infinity
    highest := field.foldl Scalar.larger (-infinity)
    curtainIndex := size * size
    heights := heights }

/-- Build the surface over as many heights as a `size × size` field has. -/
def ofHeights (heights : Array Float32) (size : Nat) (place : Extent Float) (curtain : Bool) :
    Except Error Surface :=
  if size < 2 then .error (.format (.meshTooSmall size))
  else do
    let expected ← Count.times size size
    if heights.size = expected then return ofField heights size place curtain
    else throw (.format (.meshHeights expected size heights.size))

def triangleCount (surface : Surface) : Nat := surface.triangles.size / 3

end Surface

end TileAtlas
