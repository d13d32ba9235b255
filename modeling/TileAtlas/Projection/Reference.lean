import TileAtlas.Error
import TileAtlas.Number.Scalar
import TileAtlas.Projection.Registry

/-!
Contract: spatial references as users write them, and transforms between them.

Owns:
- `SpatialReference`, read from `EPSG:<code>`, a bare code or a parameter
  string;
- `Transformer`, the identity, the two closed forms between Web Mercator and
  longitude/latitude, or a conversion by way of the projections;
- `PointMap`, what the rest of the library needs to know of a transform.

Codes are 16-bit numbers; their digits may follow a plus sign.
-/

namespace TileAtlas

/-- A transform of points: where a point goes, unless it has no image. -/
abbrev PointMap (α : Type) := α → α → Option (α × α)

/-- A spatial reference. -/
structure SpatialReference where
  /-- The reference as it is shown. -/
  label : String
  /-- The code, when it was named by one. -/
  code : Option Nat
  definition : String
  /-- Coordinates are longitudes and latitudes in degrees. -/
  isGeographic : Bool
deriving DecidableEq, Repr

namespace SpatialReference

/-- The code of longitude and latitude. -/
def wgs84Code : Nat := 4326

/-- The code of Web Mercator. -/
def webMercatorCode : Nat := 3857

private def ofParts (label : String) (code : Option Nat) (definition : String) :
    SpatialReference where
  label := label
  code := code
  definition := definition
  isGeographic :=
    Text.holds "+proj=longlat".toList definition.toList ||
      Text.holds "+proj=latlong".toList definition.toList

def labelOfCode (code : Nat) : String := s!"EPSG:{code}"

def ofCode (code : Nat) : Except Error SpatialReference :=
  match Registry.definition? code with
  | some definition => .ok (ofParts (labelOfCode code) (some code) definition)
  | none => .error (.spatialReference (labelOfCode code) .unknownCode)

def readCode? (text : List Char) : Option Nat :=
  let digits := match text with
    | '+' :: rest => rest
    | rest => rest
  if digits ≠ [] ∧ digits.all Char.isDigit then
    let code := Decimal.valueOfDigits digits
    if code < 2 ^ 16 then some code else none
  else none

/-- Read a reference.  A parameter string is checked in full at once. -/
def ofText (text : String) : Except Error SpatialReference :=
  let trimmed := Text.trim text
  match trimmed.toList with
  | '+' :: _ =>
      match CoordinateSystem.ofDefinition trimmed with
      | .ok _ => .ok (ofParts trimmed none trimmed)
      | .error fault => .error (.spatialReference text (.definition fault))
  | body =>
      let code :=
        ((Text.dropStart? "EPSG:".toList body).orElse fun _ =>
          Text.dropStart? "epsg:".toList body).getD body
      match readCode? code with
      | some code => ofCode code
      | none => .error (.spatialReference text .notAReference)

/-- Two references name the same system: codes decide where both have one, and
otherwise the definitions do. -/
def sameAs (left right : SpatialReference) : Bool :=
  match left.code, right.code with
  | some leftCode, some rightCode => leftCode == rightCode
  | _, _ => left.definition == right.definition

end SpatialReference

/-- A conversion between two systems, with the unit of angles on each side. -/
structure Conversion where
  source : Projector
  target : Projector
  sourceIsGeographic : Bool
  targetIsGeographic : Bool

/-- How points go from one reference to another. -/
inductive Transformer where
  | identity
  | mercatorToGeographic
  | geographicToMercator
  | conversion (route : Conversion)

namespace Transformer

/-- The projector of a reference; an error names `direction`. -/
def projector (direction : Direction) (reference : SpatialReference) :
    Except Error Projector :=
  match CoordinateSystem.ofDefinition reference.definition with
  | .ok system => .ok (Projector.ofSystem system)
  | .error fault => .error (.transformCreation direction reference.label fault)

/-- The transform from `source` to `target`; an error names `direction`. -/
def between (source target : SpatialReference) (direction : Direction) :
    Except Error Transformer :=
  if source.sameAs target then .ok .identity
  else if source.code = some SpatialReference.webMercatorCode ∧
      target.code = some SpatialReference.wgs84Code then .ok .mercatorToGeographic
  else if source.code = some SpatialReference.wgs84Code ∧
      target.code = some SpatialReference.webMercatorCode then .ok .geographicToMercator
  else do
    let sourceProjector ← projector direction source
    let targetProjector ← projector direction target
    return .conversion
      ⟨sourceProjector, targetProjector, source.isGeographic, target.isGeographic⟩

def pair (left right : SpatialReference) : Except Error (Transformer × Transformer) := do
  let forward ← between left right .forward
  let backward ← between right left .backward
  return (forward, backward)

def isIdentity : Transformer → Bool
  | .identity => true
  | _ => false

/-- Web Mercator metres to a longitude in degrees. -/
def longitudeOfMercator (x : Float) : Float := x * 180.0 / 20037508.342789244

/-- Web Mercator metres to a latitude in degrees. -/
def latitudeOfMercator (y : Float) : Float :=
  let scaled := y * Angle.pi / 20037508.342789244
  Angle.toDegrees (2.0 * scaled.exp.atan - Angle.pi / 2.0)

/-- A longitude in degrees to Web Mercator metres. -/
def mercatorOfLongitude (longitude : Float) : Float := longitude * 20037508.342789244 / 180.0

/-- A latitude in degrees to Web Mercator metres. -/
def mercatorOfLatitude (latitude : Float) : Float :=
  (Angle.pi / 4.0 + Angle.toRadians latitude / 2.0).tan.log *
    20037508.342789244 / Angle.pi

private def convert (route : Conversion) (x y : Float) :
    Except ProjectionFault (Float × Float) := do
  let (sourceX, sourceY) :=
    if route.sourceIsGeographic then
      (Angle.toRadians x, Angle.toRadians y)
    else (x, y)
  let image ← route.source.convert route.target ⟨sourceX, sourceY, 0.0⟩
  if route.targetIsGeographic then return (Angle.toDegrees image.x, Angle.toDegrees image.y)
  else return (image.x, image.y)

private def requireFinite (x y : Float) (image : Float × Float) :
    Except (PointError Float) (Float × Float) :=
  if image.1.isFinite && image.2.isFinite then .ok image else .error ⟨x, y, .notFinite⟩

/-- Transform a point.  Only the identity returns points that are not finite. -/
def apply (transformer : Transformer) (x y : Float) : Except (PointError Float) (Float × Float) :=
  match transformer with
  | .identity => .ok (x, y)
  | .mercatorToGeographic => requireFinite x y (longitudeOfMercator x, latitudeOfMercator y)
  | .geographicToMercator =>
      if 90.0 ≤ y.abs then .error ⟨x, y, .outsideMercator⟩
      else requireFinite x y (mercatorOfLongitude x, mercatorOfLatitude y)
  | .conversion route =>
      match convert route x y with
      | .ok image => requireFinite x y image
      | .error fault => .error ⟨x, y, .projection fault⟩

def map (transformer : Transformer) : PointMap Float := fun x y => (transformer.apply x y).toOption

end Transformer

end TileAtlas
