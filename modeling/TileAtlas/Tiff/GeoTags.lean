import TileAtlas.Geometry.Affine
import TileAtlas.Number.Decimal
import TileAtlas.Text.Blank
import TileAtlas.Tiff.Directory

/-!
Contract: the geographic tags of a TIFF image.

Owns:
- `GeoTags.transform`, from a matrix or from a pixel scale and a tie point;
- `GeoTags.codeOfKeys?`, the reference code in a key directory;
- `GeoTags.noData?`, the number that marks missing samples.

A broken transform makes the file unreadable.  A broken key directory or
missing-sample text only leaves its answer open.
-/

namespace TileAtlas.GeoTags

/-- A key whose value is left to the user to define. -/
def userDefined : Nat := 32767

/-- The key of a geographic system. -/
def geographicKey : Nat := 2048

/-- The key of a projected system. -/
def projectedKey : Nat := 3072

def transform (directory : Directory) : Except ImageFault (Affine Float) := do
  match ← directory.optional 34264 Field.doubles with
  | some (m0 :: m1 :: _ :: m3 :: m4 :: m5 :: _ :: m7 :: _) => return ⟨m3, m0, m1, m7, m4, m5⟩
  | _ =>
      let scale ← directory.optional 33550 Field.doubles
      let tiepoint ← directory.optional 33922 Field.doubles
      match scale, tiepoint with
      | some (scaleX :: scaleY :: _), some (i :: j :: _ :: x :: y :: _ :: _) =>
          return Affine.ofTiepoint scaleX scaleY i j x y
      | _, _ => return ⟨0.0, 1.0, 0.0, 0.0, 0.0, 1.0⟩

/-- The code among at most `count` keys of four numbers each: the first
projected one, else the last geographic one. -/
def scanKeys (geographic : Option Nat) : Nat → List Nat → Option Nat
  | 0, _ => geographic
  | count + 1, key :: location :: _ :: value :: rest =>
      if location ≠ 0 ∨ value = 0 ∨ value = userDefined then scanKeys geographic count rest
      else if key = projectedKey then some value
      else if key = geographicKey then scanKeys (some value) count rest
      else scanKeys geographic count rest
  | _ + 1, _ => geographic

/-- The reference code in a key directory, whose fourth number counts the keys
after it. -/
def codeOfKeys? : List Nat → Option Nat
  | _ :: _ :: _ :: count :: keys => scanKeys none count keys
  | _ => none

def reference? (directory : Directory) : Option String :=
  match directory.optional 34735 Field.shorts with
  | .ok (some keys) => (codeOfKeys? keys).map fun code => s!"EPSG:{code}"
  | _ => none

def noData? (directory : Directory) : Option Float :=
  match directory.optional 42113 Field.text with
  | .ok (some text) =>
      Decimal.readFloat?
        (Text.trimWhere (fun char => Text.isBlank char || char.toNat = 0) text.toList)
  | _ => none

end TileAtlas.GeoTags
