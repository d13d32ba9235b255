import TileAtlas.Number.Whole

/-!
Contract: the triangles of a square grid of vertices with a curtain below its
border.

Owns:
- `vertexWord`, the word that a triangle names a vertex by;
- `gridTriangles`, two triangles for each cell;
- `curtainSources`, the border positions in the order of their curtain vertices;
- `borderLoop`, the closed clockwise walk along the border;
- `curtainVertex`, the curtain vertex below a border position;
- `curtainTriangles`, two triangles for each step of the walk.

Grid vertices are numbered row by row from the north-west corner.  The curtain
vertices follow: the four corners, then the inner positions of the north, east,
south and west edges.
-/

namespace TileAtlas.Mesh

/-- The number of the grid vertex at column `x` and row `y`. -/
def gridVertex (size x y : Nat) : Nat := y * size + x

/-- The 32-bit word that a triangle names a vertex by. -/
def vertexWord (vertex : Nat) : Nat := vertex % 2 ^ 32

/-- Two triangles for the cell whose north-west corner is `(x, y)`. -/
def cellTriangles (size x y : Nat) : List Nat :=
  let northWest := gridVertex size x y
  let northEast := gridVertex size (x + 1) y
  let southWest := gridVertex size x (y + 1)
  let southEast := gridVertex size (x + 1) (y + 1)
  [northWest, southWest, northEast, northEast, southWest, southEast]

/-- The triangles of all cells, row by row, three vertices each. -/
def gridTriangles (size : Nat) : List Nat :=
  (List.range (size - 1)).flatMap fun y =>
    (List.range (size - 1)).flatMap fun x => cellTriangles size x y

/-- The numbers strictly between zero and `last`. -/
def innerRange (last : Nat) : List Nat := (List.range (last - 1)).map (· + 1)

/-- The border positions in the order of their curtain vertices. -/
def curtainSources (size : Nat) : List (Nat × Nat) :=
  let last := size - 1
  [(0, 0), (last, 0), (last, last), (0, last)] ++
    (innerRange last).map (fun x => (x, 0)) ++
    (innerRange last).map (fun y => (last, y)) ++
    (innerRange last).reverse.map (fun x => (x, last)) ++
    (innerRange last).reverse.map (fun y => (0, y))

def countDown (last : Nat) : List Nat := ((List.range last).map (· + 1)).reverse

/-- The border positions walked clockwise from the north-west corner back to
it. -/
def borderLoop (size : Nat) : List (Nat × Nat) :=
  let last := size - 1
  (List.range last).map (fun x => (x, 0)) ++
    (List.range last).map (fun y => (last, y)) ++
    (countDown last).map (fun x => (x, last)) ++
    (countDown last).map (fun y => (0, y)) ++
    [(0, 0)]

/-- The curtain vertex below the border position `(x, y)`. -/
def curtainVertex (size x y : Nat) : Nat :=
  let last := size - 1
  let corners := size * size
  let edges := corners + 4
  let inner := last - 1
  if x = 0 ∧ y = 0 then corners
  else if x = last ∧ y = 0 then corners + 1
  else if x = last ∧ y = last then corners + 2
  else if x = 0 ∧ y = last then corners + 3
  else if y = 0 then edges + (x - 1)
  else if x = last then edges + inner + (y - 1)
  else if y = last then edges + 2 * inner + (last - 1 - x)
  else edges + 3 * inner + (last - 1 - y)

/-- Two triangles between a step of the border walk and the curtain below. -/
def stepTriangles (size : Nat) (start finish : Nat × Nat) : List Nat :=
  let upperStart := gridVertex size start.1 start.2
  let upperFinish := gridVertex size finish.1 finish.2
  let lowerStart := curtainVertex size start.1 start.2
  let lowerFinish := curtainVertex size finish.1 finish.2
  [upperStart, lowerStart, upperFinish, upperFinish, lowerStart, lowerFinish]

def walkTriangles (size : Nat) : List (Nat × Nat) → List Nat
  | start :: finish :: rest =>
      stepTriangles size start finish ++ walkTriangles size (finish :: rest)
  | _ => []

def curtainTriangles (size : Nat) : List Nat := walkTriangles size (borderLoop size)

def vertexCount (size : Nat) : Nat := size * size + 4 * (size - 1)

end TileAtlas.Mesh
