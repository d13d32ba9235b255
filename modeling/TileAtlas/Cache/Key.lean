import TileAtlas.Pyramid

/-!
Contract: the names that tiles are stored under.

Owns:
- `TileCoordinate`, a tile of a tileset with the values of its dimensions;
- `KeyLayout`, two fixed layouts of directories and a free template;
- `KeyLayout.key`, from the one to the other.

A dimension value is made one component of a path.  In a template the tokens
are replaced one after another in a fixed order.
-/

namespace TileAtlas

/-- A tile of a tileset. -/
structure TileCoordinate where
  tileset : String
  grid : String
  z : Nat
  x : Nat
  y : Nat
  /-- Names and values in the order of their declaration. -/
  dimensions : List (String × String)
deriving DecidableEq, Repr

/-- How keys are formed. -/
inductive KeyLayout where
  /-- `base/tileset/grid/…/z/y/x.ext`. -/
  | tileCache (base : String)
  /-- `base/tileset/grid/…/Lzz/Ryyyyyyyy/Cxxxxxxxx.ext` with hexadecimal rows
  and columns. -/
  | arcGis (base : String)
  | template (text : String)
deriving DecidableEq, Repr

namespace KeyLayout

/-- The file extension of tiles that have no format. -/
def plainExtension : String := "png"

/-- Put a mark in place of separators and dots. -/
def sanitize (value : List Char) : List Char :=
  value.map fun char => if char = '/' ∨ char = '.' then '#' else char

/-- Write zeros in front of a text of fewer than `width` characters. -/
def padZeros (width : Nat) (digits : List Char) : List Char :=
  List.replicate (width - digits.length) '0' ++ digits

def decimal (value : Nat) : List Char := Nat.toDigits 10 value

def hexadecimal (value : Nat) : List Char := Nat.toDigits 16 value

/-- Decimal digits with a sign in front of negative numbers. -/
def signedDecimal (value : Int) : List Char :=
  if value < 0 then '-' :: decimal value.natAbs else decimal value.natAbs

/-- The directories of a tile above its level: the dimension values come last,
the last declared one first. -/
def basePath (base : String) (tile : TileCoordinate) : List Char :=
  base.toList ++ '/' :: tile.tileset.toList ++ '/' :: tile.grid.toList ++
    tile.dimensions.reverse.flatMap fun dimension => '/' :: sanitize dimension.2.toList

/-- Replace every occurrence of a token, from left to right.  After a match the
token's remaining characters, counted by `skip`, are passed over. -/
def substituteFrom (token value : List Char) : Nat → List Char → List Char
  | _, [] => []
  | skip + 1, _ :: rest => substituteFrom token value skip rest
  | 0, char :: rest =>
      if (Text.dropStart? token (char :: rest)).isSome then
        value ++ substituteFrom token value (token.length - 1) rest
      else char :: substituteFrom token value 0 rest

/-- Replace every occurrence of a token that is not empty. -/
def substitute (token : String) (value text : List Char) : List Char :=
  substituteFrom token.toList value 0 text

/-- Replace an axis's token, or its inverted token where the plain one does not
occur.  The inverted value is computed only if it is needed. -/
def substituteAxis (plain inverted : String) (value : Nat) (invertedValue : Except Error Int)
    (text : List Char) : Except Error (List Char) :=
  if Text.holds plain.toList text then .ok (substitute plain (decimal value) text)
  else if Text.holds inverted.toList text then
    invertedValue.map fun other => substitute inverted (signedDecimal other) text
  else .ok text

/-- The dimensions as they stand in a template's key. -/
def dimensionText (dimensions : List (String × String)) : List Char :=
  dimensions.reverse.flatMap fun dimension =>
    '#' :: dimension.1.toList ++ '#' :: sanitize dimension.2.toList

variable {α : Type} [Scalar α]

/-- The level size, as inverted tokens need it. -/
def levelSize (tile : TileCoordinate) (pyramid : Pyramid α) : Except Error (Nat × Nat) :=
  match pyramid.levelSize? tile.z with
  | some size => .ok size
  | none => .error (.config (.levelOutsideGrid tile.z pyramid.name))

def templateKey (template : String) (tile : TileCoordinate) (pyramid : Pyramid α)
    (extension : String) : Except Error (List Char) := do
  let names :=
    substitute "\x7bext\x7d" extension.toList
      (substitute "\x7bgrid\x7d" tile.grid.toList
        (substitute "\x7btileset\x7d" tile.tileset.toList template.toList))
  let size := levelSize tile pyramid
  let columns ← substituteAxis "\x7bx\x7d" "\x7binv_x\x7d" tile.x
    (size.map fun size => (size.1 : Int) - tile.x - 1) names
  let rows ← substituteAxis "\x7by\x7d" "\x7binv_y\x7d" tile.y
    (size.map fun size => (size.2 : Int) - tile.y - 1) columns
  let levels ← substituteAxis "\x7bz\x7d" "\x7binv_z\x7d" tile.z
    (.ok ((pyramid.levelCount : Int) - tile.z - 1)) rows
  return if tile.dimensions = [] then levels
    else substitute "\x7bdim\x7d" (dimensionText tile.dimensions) levels

def key (layout : KeyLayout) (tile : TileCoordinate) (pyramid : Pyramid α)
    (extension : Option String) : Except Error String :=
  let ending := extension.getD plainExtension
  match layout with
  | .tileCache base =>
      .ok (String.ofList
        (basePath base tile ++ '/' :: decimal tile.z ++ '/' :: decimal tile.y ++
          '/' :: decimal tile.x ++ '.' :: ending.toList))
  | .arcGis base =>
      .ok (String.ofList
        (basePath base tile ++ '/' :: 'L' :: padZeros 2 (decimal tile.z) ++
          '/' :: 'R' :: padZeros 8 (hexadecimal tile.y) ++
          '/' :: 'C' :: padZeros 8 (hexadecimal tile.x) ++ '.' :: ending.toList))
  | .template text => (templateKey text tile pyramid ending).map String.ofList

end KeyLayout

end TileAtlas
