import TileAtlas.Geometry.Extent

/-!
Contract: tiling pyramids over a fixed extent.

Owns:
- `Pyramid`, levels of equal tiles that are counted from one corner;
- the two pyramids that are always known;
- `Pyramid.tileExtent`, from a tile to its extent;
- `Pyramid.tileAt` and `Pyramid.tileLimits`, from extents to tiles;
- `Pyramid.flip`, from indices that count rows from the north.

Tile indices are 32-bit words.  A level that is no whole number of tiles has
one more tile on the sides opposite the corner.
-/

namespace TileAtlas

/-- The corner that tiles are counted from. -/
inductive Corner where
  | bottomLeft
  | topLeft
  | bottomRight
  | topRight
deriving DecidableEq, Repr

namespace Corner

def countsFromTop : Corner → Bool
  | .topLeft | .topRight => true
  | .bottomLeft | .bottomRight => false

def countsFromRight : Corner → Bool
  | .bottomRight | .topRight => true
  | .bottomLeft | .topLeft => false

def name : Corner → String
  | .bottomLeft => "bottom-left"
  | .topLeft => "top-left"
  | .bottomRight => "bottom-right"
  | .topRight => "top-right"

def all : List Corner := [bottomLeft, topLeft, bottomRight, topRight]

def ofName? (name : String) : Option Corner := all.find? fun corner => corner.name = name

end Corner

/-- A tile of a pyramid. -/
structure TileIndex where
  z : Nat
  x : Nat
  y : Nat
deriving DecidableEq, Repr

/-- Tiles of a level from the minima up to, but without, the maxima. -/
structure TileLimits where
  minX : Nat
  minY : Nat
  maxX : Nat
  maxY : Nat
deriving DecidableEq, Repr

/-- A tiling pyramid. -/
structure Pyramid (α : Type) where
  name : String
  /-- The reference system of the extent. -/
  srs : String
  extent : Extent α
  tileWidth : Nat
  tileHeight : Nat
  /-- Units per pixel, the coarsest level first. -/
  resolutions : List α
  /-- Heights per side of a tile of heights. -/
  elevationBlock : Nat
  origin : Corner

namespace Pyramid

variable {α : Type} [Scalar α]

/-- Heights per side where nothing else is said. -/
def standardBlock : Nat := 17

/-- The share of a resolution by which two count as equal. -/
def resolutionTolerance : α := 1e-9

/-- As many resolutions, each half of the one before. -/
def halving (resolution : α) : Nat → List α
  | 0 => []
  | levels + 1 => resolution :: halving (resolution / 2.0) levels

/-- Web Mercator with a single tile at its coarsest level. -/
def webMercator : Pyramid α where
  name := "GoogleMapsCompatible"
  srs := "EPSG:3857"
  extent := Extent.webMercator
  tileWidth := 256
  tileHeight := 256
  resolutions := halving (2.0 * halfEarth / 256.0) 19
  elevationBlock := standardBlock
  origin := .topLeft

/-- Longitude and latitude with two tiles at its coarsest level. -/
def wgs84 : Pyramid α where
  name := "WGS84"
  srs := "EPSG:4326"
  extent := ⟨-180.0, -90.0, 180.0, 90.0⟩
  tileWidth := 256
  tileHeight := 256
  resolutions := halving (180.0 / 256.0) 18
  elevationBlock := standardBlock
  origin := .bottomLeft

def builtIn : List (Pyramid α) := [webMercator, wgs84]

def levelCount (pyramid : Pyramid α) : Nat := pyramid.resolutions.length

def resolution? (pyramid : Pyramid α) (z : Nat) : Option α := pyramid.resolutions[z]?

/-- Bring an integer into the range of a 32-bit word. -/
def toWord32 (value : Int) : Nat := min value.toNat word32Max

/-- How many tiles it takes to cover a span, a hundredth of a pixel not
counted. -/
def tileCount (span resolution : α) (tileSize : Nat) : Nat :=
  let unit := resolution * Scalar.ofNat tileSize
  toWord32 (max 1 (Scalar.ceilToInt64 ((span - 0.01 * resolution) / unit)))

/-- The numbers of columns and rows of a level. -/
def levelSize? (pyramid : Pyramid α) (z : Nat) : Option (Nat × Nat) :=
  (pyramid.resolution? z).map fun resolution =>
    (tileCount pyramid.extent.width resolution pyramid.tileWidth,
      tileCount pyramid.extent.height resolution pyramid.tileHeight)

def lowerBound (countsDown : Bool) (least greatest span : α) (index : Nat) : α :=
  if countsDown then greatest - Scalar.ofNat (index + 1) * span
  else least + Scalar.ofNat index * span

/-- The extent of a tile, if it is one of the pyramid's. -/
def tileExtent (pyramid : Pyramid α) (tile : TileIndex) : Option (Extent α) := do
  let resolution ← pyramid.resolution? tile.z
  let (columns, rows) ← pyramid.levelSize? tile.z
  if columns ≤ tile.x ∨ rows ≤ tile.y then none
  else
    let spanX := resolution * Scalar.ofNat pyramid.tileWidth
    let spanY := resolution * Scalar.ofNat pyramid.tileHeight
    let minX := lowerBound pyramid.origin.countsFromRight pyramid.extent.minX pyramid.extent.maxX
      spanX tile.x
    let minY := lowerBound pyramid.origin.countsFromTop pyramid.extent.minY pyramid.extent.maxY
      spanY tile.y
    return ⟨minX, minY, minX + spanX, minY + spanY⟩

/-- The index of the tile that an offset falls on, up to the tolerance. -/
def indexAt (offset span : α) : Nat :=
  toWord32 (Scalar.floorToInt64 (offset / span + resolutionTolerance))

/-- The resolution that a request of `width × height` pixels asks for. -/
def requestedResolution (extent : Extent α) (width height : Nat) : α :=
  Scalar.larger (extent.width / Scalar.ofNat (max width 1))
    (extent.height / Scalar.ofNat (max height 1))

/-- The first level that is not coarser than a request, with its resolution. -/
def levelFor (pyramid : Pyramid α) (requested : α) : Option (Nat × α) :=
  let limit := requested * (1.0 + resolutionTolerance)
  (pyramid.resolutions.zipIdx.find? fun entry => !decide (limit < entry.1)).map fun entry =>
    (entry.2, entry.1)

/-- Count an index from the other end of `count` tiles. -/
def oppositeIndex (count index : Nat) : Nat := count - 1 - index

/-- The tile that a request of `width × height` pixels falls on, counted from
the lower left corner, or from the upper left one with `fromTop`.  A request
finer than all levels gets the very first tile. -/
def tileForExtent (pyramid : Pyramid α) (extent : Extent α) (width height : Nat) (fromTop : Bool) :
    TileIndex :=
  match pyramid.levelFor (requestedResolution extent width height) with
  | none => ⟨0, 0, 0⟩
  | some (z, resolution) =>
      let x := indexAt (extent.minX - pyramid.extent.minX) (resolution * Scalar.ofNat width)
      let y := indexAt (extent.minY - pyramid.extent.minY) (resolution * Scalar.ofNat height)
      let rows := match pyramid.levelSize? z with
        | some (_, rows) => rows
        | none => 1
      ⟨z, x, if fromTop then oppositeIndex rows y else y⟩

/-- The tile that a request falls on, counted from the pyramid's own corner. -/
def tileAt (pyramid : Pyramid α) (extent : Extent α) (width height : Nat) : TileIndex :=
  let tile := pyramid.tileForExtent extent width height pyramid.origin.countsFromTop
  match pyramid.origin.countsFromRight, pyramid.levelSize? tile.z with
  | true, some (columns, _) => { tile with x := oppositeIndex columns tile.x }
  | _, _ => tile

/-- An extent on the scale on which a pyramid around zero spans `-1 .. 1`. -/
def normalized (pyramid : Pyramid α) (extent : Extent α) : Extent α :=
  let spanX := Scalar.abs pyramid.extent.width
  let spanY := Scalar.abs pyramid.extent.height
  ⟨extent.minX / spanX * 2.0, extent.minY / spanY * 2.0,
    extent.maxX / spanX * 2.0, extent.maxY / spanY * 2.0⟩

def clampToCount (value : Int) (count : Nat) : Nat := min value.toNat count

/-- The indices between two offsets along one axis, counted upward. -/
def indexRange (least greatest start span : α) (count : Nat) : Nat × Nat :=
  (clampToCount (Scalar.floorToInt64 ((least - start) / span)) count,
    clampToCount (Scalar.ceilToInt64 ((greatest - start) / span)) count)

def oppositeRange (count : Nat) (range : Nat × Nat) : Nat × Nat :=
  (count - range.2, count - range.1)

/-- The tiles of a level that an extent touches. -/
def tileLimits (pyramid : Pyramid α) (extent : Extent α) (z : Nat) : Option TileLimits := do
  let resolution ← pyramid.resolution? z
  let (columns, rows) ← pyramid.levelSize? z
  let spanX := resolution * Scalar.ofNat pyramid.tileWidth
  let spanY := resolution * Scalar.ofNat pyramid.tileHeight
  let upwardX := indexRange extent.minX extent.maxX pyramid.extent.minX spanX columns
  let upwardY := indexRange extent.minY extent.maxY pyramid.extent.minY spanY rows
  let rangeX := if pyramid.origin.countsFromRight then oppositeRange columns upwardX else upwardX
  let rangeY := if pyramid.origin.countsFromTop then oppositeRange rows upwardY else upwardY
  return ⟨rangeX.1, rangeY.1, rangeX.2, rangeY.2⟩

/-- A column and a row counted from the upper left corner, as the pyramid
counts them. -/
def flip (pyramid : Pyramid α) (z x y : Nat) : Option (Nat × Nat) := do
  let (columns, rows) ← pyramid.levelSize? z
  if columns ≤ x ∨ rows ≤ y then none
  else
    return (if pyramid.origin.countsFromRight then columns - x - 1 else x,
      if pyramid.origin.countsFromTop then y else rows - y - 1)

end Pyramid

end TileAtlas
