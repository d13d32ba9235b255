import TileAtlas.Geometry.Extent
import TileAtlas.Machine
import TileAtlas.Sample.Color

/-!
Contract: rendered tiles.

Owns:
- `RenderMode`, imagery or heights;
- `RasterTile`, rows of pixels and the place of the tile in its grid;
- the constructors of tiles and the access to their pixels.
-/

namespace TileAtlas

/-- What the pixels of a tile are. -/
inductive RenderMode where
  | image
  | elevation
deriving DecidableEq, Repr

def RenderMode.name : RenderMode → String
  | .image => "image"
  | .elevation => "elevation"

/-- A rendered tile. -/
structure RasterTile (α : Type) where
  width : Nat
  height : Nat
  mode : RenderMode
  /-- Row by row. -/
  pixels : Array Rgba
  /-- Where a tile of heights lies in its grid, as far as that is known. -/
  subExtent : Option (Extent α)
deriving DecidableEq

namespace RasterTile

variable {α : Type}

/-- How many bytes the pixels of a tile have. -/
def byteCount (width height : Nat) : Except Error Nat := do
  Count.times (← Count.times width height) 4

def filled (width height : Nat) (color : Rgba) : Except Error (RasterTile α) := do
  let _ ← byteCount width height
  return ⟨width, height, .image, Array.replicate (width * height) color, none⟩

def flat (width height : Nat) (subExtent : Option (Extent α)) : Except Error (RasterTile α) := do
  let _ ← byteCount width height
  return ⟨width, height, .elevation, Array.replicate (width * height) .transparent, subExtent⟩

/-- A tile of heights, one for each pixel. -/
def ofHeights (width height : Nat) (heights : Array Float32) (subExtent : Option (Extent α)) :
    Except Error (RasterTile α) := do
  let expected ← Count.times width height
  if heights.size = expected then
    return ⟨width, height, .elevation, heights.map Rgba.ofHeight, subExtent⟩
  else throw (.format (.heightCount expected width height heights.size))

def isElevation (tile : RasterTile α) : Bool := tile.mode = .elevation

def pixel? (tile : RasterTile α) (x y : Nat) : Option Rgba :=
  if x < tile.width ∧ y < tile.height then tile.pixels[y * tile.width + x]? else none

def elevation? (tile : RasterTile α) (x y : Nat) : Option Float32 :=
  (tile.pixel? x y).map Rgba.height

def heights (tile : RasterTile α) : Array Float32 := tile.pixels.map Rgba.height

def bytes (tile : RasterTile α) : List UInt8 := tile.pixels.toList.flatMap Rgba.toList

end RasterTile

end TileAtlas
