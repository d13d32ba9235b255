import TileAtlas.Projection.Definition
import TileAtlas.Projection.Mercator
import TileAtlas.Projection.TransverseMercator

/-!
Contract: from one coordinate system to another by way of longitude and
latitude.

Owns:
- `Projector`, a coordinate system with what its formulas need prepared;
- `Projector.toGeographic` and `Projector.fromGeographic` in radians;
- `Projector.convert`, the composition of both with the change of datum.

Longitude and latitude pass between two geographic systems of one datum without
any check: only a projection or a change of datum refuses points.  Prime
meridians count in the plane alone, and latitudes seen from the centre of the
earth in geographic systems alone.
-/

namespace TileAtlas

/-- Why a projection refuses a point. -/
inductive ProjectionFault where
  | beyondPole
  | beyondTurn
  | outsideProjection
  | outsideDatum
  | noFormulas
deriving DecidableEq, Repr

def ProjectionFault.message : ProjectionFault → String
  | .beyondPole => "the latitude lies beyond the pole"
  | .beyondTurn => "the longitude lies beyond all turns"
  | .outsideProjection => "the point has no image"
  | .outsideDatum => "the latitude lies beyond the pole of the datum"
  | .noFormulas => "the projection has no formulas here"

/-- A coordinate system ready to be computed with. -/
structure Projector where
  system : CoordinateSystem
  /-- The scale, as the latitude of true scale sets it. -/
  scale : Float
  series : TransverseMercator.Series

namespace Projector

/-- The scale of a system: the latitude of true scale takes its place where
one is given. -/
def trueScale (system : CoordinateSystem) : Float :=
  match system.trueScaleLatitude with
  | none => system.scale
  | some latitude =>
      let square := system.ellipsoid.eccentricitySquared
      let sine := latitude.sin
      if system.ellipsoid.isOblate then latitude.cos / (1.0 - square * sine * sine).sqrt
      else latitude.cos

def ofSystem (system : CoordinateSystem) : Projector where
  system := system
  scale := trueScale system
  series :=
    TransverseMercator.seriesFor system.ellipsoid.flattening system.scale system.originLatitude

/-- The cosine that an equidistant cylindrical projection shrinks longitudes
by. -/
def parallelCosine (system : CoordinateSystem) : Float :=
  (system.trueScaleLatitude.getD 0.0).cos

/-- The unit plane to longitude from the central meridian and latitude. -/
def unproject? (projector : Projector) (x y : Float) : Option (Float × Float) :=
  let system := projector.system
  match system.method with
  | .mercator => Mercator.inverse? system.ellipsoid.eccentricity projector.scale x y
  | .equidistantCylindrical => some (x / parallelCosine system, y + system.originLatitude)
  | .transverseMercator => TransverseMercator.inverse? projector.series x y
  | .geographic => some (x, y)
  | .nameOnly _ => none

/-- Longitude from the central meridian and latitude to the unit plane. -/
def project? (projector : Projector) (longitude latitude : Float) : Option (Float × Float) :=
  let system := projector.system
  match system.method with
  | .mercator => Mercator.forward? system.ellipsoid.eccentricity projector.scale longitude latitude
  | .equidistantCylindrical =>
      some (longitude * parallelCosine system, latitude - system.originLatitude)
  | .transverseMercator => TransverseMercator.forward? projector.series longitude latitude
  | .geographic => some (longitude, latitude)
  | .nameOnly _ => none

private def refusal (projector : Projector) : ProjectionFault :=
  match projector.system.method with
  | .nameOnly _ => .noFormulas
  | _ => .outsideProjection

/-- Bring a longitude into one turn, unless the system keeps turns. -/
def settleLongitude (projector : Projector) (longitude : Float) : Float :=
  if projector.system.keepsTurns then longitude else Angle.normalizeLongitude longitude

/-- Latitudes beyond a pole by more than this have no image. -/
def poleTolerance : Float := 1.0e-12

/-- A place with its longitude moved.  A move by zero changes nothing, not even
the sign of a zero. -/
def moveLongitude (shift : Float) (place : Coordinates) : Coordinates :=
  if shift == 0.0 then place else { place with x := place.x + shift }

/-- A point of the plane to longitude and latitude in radians.  Lengths are
multiplied by the inverse of the radius, which is infinite for the least ones. -/
def ofPlane (projector : Projector) (point : Coordinates) : Except ProjectionFault Coordinates :=
  let system := projector.system
  let perRadius := 1.0 / system.ellipsoid.semiMajor
  let unitX := (point.x * system.toMetre - system.falseEasting) * perRadius
  let unitY := (point.y * system.toMetre - system.falseNorthing) * perRadius
  match projector.unproject? unitX unitY with
  | none => .error (refusal projector)
  | some (longitude, latitude) =>
      .ok (moveLongitude system.primeMeridian
        ⟨projector.settleLongitude (longitude + system.centralMeridian), latitude, point.z⟩)

/-- Longitude and latitude in radians to a point of the plane. -/
def toPlane (projector : Projector) (place : Coordinates) : Except ProjectionFault Coordinates :=
  let system := projector.system
  let place := moveLongitude (-system.primeMeridian) place
  if poleTolerance < place.y.abs - Angle.quarterTurn then .error .beyondPole
  else if 10.0 < place.x.abs then .error .beyondTurn
  else
    match projector.project? (projector.settleLongitude (place.x - system.centralMeridian))
        place.y with
    | none => .error (refusal projector)
    | some (unitX, unitY) =>
        let perMetre := 1.0 / system.toMetre
        .ok ⟨(system.ellipsoid.semiMajor * unitX + system.falseEasting) * perMetre,
          (system.ellipsoid.semiMajor * unitY + system.falseNorthing) * perMetre, place.z⟩

/-- A latitude of a geographic system to the latitude on the ellipsoid.  One seen
from the centre of the earth is brought between the poles. -/
def toGeodeticLatitude (projector : Projector) (latitude : Float) : Float :=
  if projector.system.hasGeocentricLatitude then
    (latitude.tan / (1.0 - projector.system.ellipsoid.eccentricitySquared)).atan
  else latitude

/-- A latitude on the ellipsoid to the latitude of a geographic system. -/
def ofGeodeticLatitude (projector : Projector) (latitude : Float) : Float :=
  if projector.system.hasGeocentricLatitude then
    ((1.0 - projector.system.ellipsoid.eccentricitySquared) * latitude.tan).atan
  else latitude

/-- A point of the system to longitude, latitude and height from Greenwich. -/
def toGeographic (projector : Projector) (point : Coordinates) :
    Except ProjectionFault Coordinates :=
  let point := { point with z := point.z * projector.system.heightToMetre }
  if projector.system.method = .geographic then
    .ok { point with y := projector.toGeodeticLatitude point.y }
  else projector.ofPlane point

/-- Longitude, latitude and height from Greenwich to a point of the system. -/
def fromGeographic (projector : Projector) (place : Coordinates) :
    Except ProjectionFault Coordinates := do
  let point ←
    if projector.system.method = .geographic then
      pure { place with y := projector.ofGeodeticLatitude place.y }
    else projector.toPlane place
  return { point with z := point.z * (1.0 / projector.system.heightToMetre) }

/-- A point of one system to a point of another; angles are in radians. -/
def convert (source target : Projector) (point : Coordinates) :
    Except ProjectionFault Coordinates := do
  let place ← source.toGeographic (source.system.axes.toStandard point)
  let some shifted := source.system.datum.convert? target.system.datum place
    | throw .outsideDatum
  let image ← target.fromGeographic shifted
  return target.system.axes.ofStandard image

end Projector

end TileAtlas
