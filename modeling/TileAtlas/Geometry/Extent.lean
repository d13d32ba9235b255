import TileAtlas.Error
import TileAtlas.Number.Scalar

/-!
Contract: axis-aligned extents.

Owns:
- `Extent`, its size, overlap and containment tests;
- `Extent.cover`, the smallest extent that holds all finite points of a list;
- the Web Mercator square and its subdivision into tiles;
- `Extent.ofText`, four numbers separated by blanks.

Two extents that only touch do not intersect; a point on the border is
contained.
-/

namespace TileAtlas

/-- An axis-aligned extent in some reference system. -/
structure Extent (α : Type) where
  minX : α
  minY : α
  maxX : α
  maxY : α
deriving DecidableEq, Repr

/-- Half the circumference of the earth in Web Mercator metres. -/
def halfEarth {α : Type} [Scalar α] : α := 20037508.342789244

namespace Extent

variable {α : Type} [Scalar α]

@[inline] def width (extent : Extent α) : α := extent.maxX - extent.minX

@[inline] def height (extent : Extent α) : α := extent.maxY - extent.minY

def intersects (extent other : Extent α) : Bool :=
  !(decide (other.maxX ≤ extent.minX) || decide (extent.maxX ≤ other.minX) ||
    decide (extent.maxY ≤ other.minY) || decide (other.maxY ≤ extent.minY))

@[inline] def contains (extent : Extent α) (x y : α) : Bool :=
  decide (extent.minX ≤ x) && decide (x ≤ extent.maxX) &&
    decide (extent.minY ≤ y) && decide (y ≤ extent.maxY)

def ofPoint (x y : α) : Extent α := ⟨x, y, x, y⟩

/-- The smallest extent that also holds the point. -/
def stretch (extent : Extent α) (x y : α) : Extent α :=
  { minX := Scalar.smaller extent.minX x
    minY := Scalar.smaller extent.minY y
    maxX := Scalar.larger extent.maxX x
    maxY := Scalar.larger extent.maxY y }

/-- Widen what is covered so far by a point; a point that is not finite on both
axes is skipped. -/
def addPoint (covered : Option (Extent α)) (point : α × α) : Option (Extent α) :=
  if Scalar.isFinite point.1 && Scalar.isFinite point.2 then
    match covered with
    | none => some (ofPoint point.1 point.2)
    | some extent => some (extent.stretch point.1 point.2)
  else covered

/-- The smallest extent that holds every finite point, if there is one. -/
def cover (points : List (α × α)) : Option (Extent α) := points.foldl addPoint none

def webMercator : Extent α := ⟨-halfEarth, -halfEarth, halfEarth, halfEarth⟩

/-- The number of tiles per axis at level `z` of the Web Mercator square, which has
to fit 32 bits. -/
def tilesPerAxis (z : Nat) : Except Error Nat :=
  if z < 32 then .ok (2 ^ z) else .error .overflow

/-- Tile `(x, y)` of level `z` of the Web Mercator square, rows counted from
the north. -/
def ofTile (z x y : Nat) : Except Error (Extent α) := do
  let tiles ← tilesPerAxis z
  let tileSize : α := 2.0 * halfEarth / Scalar.ofNat tiles
  let minX := -halfEarth + Scalar.ofNat x * tileSize
  let maxY := halfEarth - Scalar.ofNat y * tileSize
  return ⟨minX, maxY - tileSize, minX + tileSize, maxY⟩

def readNumbers (text : String) : Except ConfigFault (List Float) :=
  (Text.words text.toList).mapM fun word =>
    match Decimal.readFloat? word with
    | some number => .ok number
    | none => .error (.extentLiteral text (if word = [] then .empty else .malformed))

/-- Read `minX minY maxX maxY`.  A text is refused for its numbers first, then
for their count, then for a minimum that reaches its maximum. -/
def ofText (text : String) : Except ConfigFault (Extent Float) :=
  match readNumbers text with
  | .error fault => .error fault
  | .ok [minX, minY, maxX, maxY] =>
      if maxX ≤ minX ∨ maxY ≤ minY then .error (.extentOrder text)
      else .ok ⟨minX, minY, maxX, maxY⟩
  | .ok numbers => .error (.extentCount text numbers.length)

end Extent

end TileAtlas
