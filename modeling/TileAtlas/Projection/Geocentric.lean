import TileAtlas.Geometry.Geodesy
import TileAtlas.Projection.Axis
import TileAtlas.Projection.Ellipsoid

/-!
Contract: longitude, latitude and height on any ellipsoid, and earth-centred
coordinates.

Owns:
- `Ellipsoid.toGeocentric?`, which refuses latitudes beyond the pole by more
  than a thousandth;
- `Ellipsoid.ofGeocentric`, where the latitude is found by iteration until the
  sine of a step is at most `latitudeStep`.

Angles are in radians, lengths in metres.
-/

namespace TileAtlas.Ellipsoid

/-- Bring a latitude that rounding took beyond a pole back to it.  What is no
number has no place either. -/
def settleLatitude? (latitude : Float) : Option Float :=
  if latitude.abs ≤ Angle.quarterTurn then some latitude
  else if latitude.abs < 1.001 * Angle.quarterTurn then
    some (if latitude < 0.0 then -Angle.quarterTurn else Angle.quarterTurn)
  else none

/-- Longitude, latitude and height to earth-centred coordinates. -/
def toGeocentric? (ellipsoid : Ellipsoid) (place : Coordinates) : Option Point3 :=
  (settleLatitude? place.y).map fun latitude =>
    let square := ellipsoid.eccentricitySquared
    let longitude := if Angle.pi < place.x then place.x - 2.0 * Angle.pi else place.x
    let sine := latitude.sin
    let normal := ellipsoid.semiMajor / (1.0 - square * sine * sine).sqrt
    { x := (normal + place.z) * latitude.cos * longitude.cos
      y := (normal + place.z) * latitude.cos * longitude.sin
      z := (normal * (1.0 - square) + place.z) * sine }

/-- Lengths below this part of the semi-major axis are none. -/
def negligible : Float := 1.0e-12

/-- The last step of the iteration for a latitude. -/
def latitudeStep : Float := 1.0e-12

/-- A point of a meridian plane by its distance from the axis and its height
above the equator, with the sine and cosine of its direction from the centre. -/
structure MeridianPoint where
  axial : Float
  polar : Float
  sine : Float
  cosine : Float

/-- Refine the sine and cosine of a latitude; the result has the height too. -/
def refine (ellipsoid : Ellipsoid) (point : MeridianPoint) :
    Nat → Float → Float → Float × Float × Float
  | 0, sine, cosine => (sine, cosine, 0.0)
  | rounds + 1, sine, cosine =>
      let square := ellipsoid.eccentricitySquared
      let normal := ellipsoid.semiMajor / (1.0 - square * sine * sine).sqrt
      let height :=
        point.axial * cosine + point.polar * sine - normal * (1.0 - square * sine * sine)
      if normal + height == 0.0 then (0.0, 1.0, height)
      else
        let ratio := square * normal / (normal + height)
        let scale := 1.0 / (1.0 - ratio * (2.0 - ratio) * point.cosine * point.cosine).sqrt
        let nextCosine := point.cosine * (1.0 - ratio) * scale
        let nextSine := point.sine * scale
        let step := nextSine * cosine - nextCosine * sine
        if rounds = 0 ∨ !(latitudeStep * latitudeStep < step * step) then
          (nextSine, nextCosine, height)
        else refine ellipsoid point rounds nextSine nextCosine

/-- Earth-centred coordinates to longitude, latitude and height. -/
def ofGeocentric (ellipsoid : Ellipsoid) (point : Point3) : Coordinates :=
  let square := ellipsoid.eccentricitySquared
  let axial := (point.x * point.x + point.y * point.y).sqrt
  let distance := (point.x * point.x + point.y * point.y + point.z * point.z).sqrt
  let isOnAxis := axial / ellipsoid.semiMajor < negligible
  if isOnAxis && distance / ellipsoid.semiMajor < negligible then
    ⟨0.0, Angle.quarterTurn, -ellipsoid.semiMinor⟩
  else
    let longitude := if isOnAxis then 0.0 else point.y.atan2 point.x
    let toPole := point.z / distance
    let toEquator := axial / distance
    let scale := 1.0 / (1.0 - square * (2.0 - square) * toEquator * toEquator).sqrt
    let (sine, cosine, height) :=
      refine ellipsoid ⟨axial, point.z, toPole, toEquator⟩ 30 (toPole * scale)
        (toEquator * (1.0 - square) * scale)
    ⟨longitude, sine.atan2 cosine.abs, height⟩

end TileAtlas.Ellipsoid
