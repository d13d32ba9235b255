/-!
Contract: which way the coordinates of a system count.

Owns:
- `Coordinates`, a point of a system by its three coordinates;
- `AxisOrder`, the directions of the three axes as they are written;
- `AxisOrder.toStandard` and `AxisOrder.ofStandard`, to and from coordinates
  that count east, north and up.
-/

namespace TileAtlas

/-- A point of a system.  Unless said otherwise the coordinates count east, north
and up. -/
structure Coordinates where
  x : Float
  y : Float
  z : Float

/-- The direction of an axis. -/
inductive AxisDirection where
  | east
  | west
  | north
  | south
  | up
  | down
deriving DecidableEq, Repr

namespace AxisDirection

def ofLetter? : Char → Option AxisDirection
  | 'e' => some .east
  | 'w' => some .west
  | 'n' => some .north
  | 's' => some .south
  | 'u' => some .up
  | 'd' => some .down
  | _ => none

def value (point : Coordinates) : AxisDirection → Float
  | .east => point.x
  | .west => -point.x
  | .north => point.y
  | .south => -point.y
  | .up => point.z
  | .down => -point.z

/-- A point with another coordinate along a direction. -/
def setValue (point : Coordinates) (number : Float) : AxisDirection → Coordinates
  | .east => { point with x := number }
  | .west => { point with x := -number }
  | .north => { point with y := number }
  | .south => { point with y := -number }
  | .up => { point with z := number }
  | .down => { point with z := -number }

end AxisDirection

/-- The directions of the axes of a system. -/
structure AxisOrder where
  first : AxisDirection
  second : AxisDirection
  third : AxisDirection
deriving DecidableEq, Repr

namespace AxisOrder

def standard : AxisOrder := ⟨.east, .north, .up⟩

/-- Whether each of the three standard axes occurs, in either direction. -/
def coversAll (directions : List AxisDirection) : Bool :=
  directions.any (fun direction => direction = .east ∨ direction = .west) &&
    directions.any (fun direction => direction = .north ∨ direction = .south) &&
    directions.any (fun direction => direction = .up ∨ direction = .down)

/-- Read the letters of three directions, one along each axis. -/
def ofText? (text : String) : Option AxisOrder :=
  match text.toList.mapM AxisDirection.ofLetter? with
  | some [first, second, third] =>
      if coversAll [first, second, third] then some ⟨first, second, third⟩ else none
  | _ => none

/-- Coordinates along the axes to standard ones. -/
def toStandard (order : AxisOrder) (point : Coordinates) : Coordinates :=
  let first := order.first.setValue point point.x
  let second := order.second.setValue first point.y
  order.third.setValue second point.z

/-- Standard coordinates to coordinates along the axes. -/
def ofStandard (order : AxisOrder) (point : Coordinates) : Coordinates :=
  ⟨order.first.value point, order.second.value point, order.third.value point⟩

end AxisOrder

end TileAtlas
