import TileAtlas.Projection.Angle

/-!
Contract: normalized Mercator, geodetic and geocentric positions on the
ellipsoid of 1984.

Owns the three conversions.  Normalized Mercator maps the Web Mercator square
onto `[-1, 1] × [-1, 1]`; geodetic angles are in degrees, heights in metres.
-/

namespace TileAtlas

/-- A position by longitude and latitude in degrees and height in metres. -/
structure Geodetic where
  longitude : Float
  latitude : Float
  height : Float

/-- A point in earth-centred cartesian coordinates. -/
structure Point3 where
  x : Float
  y : Float
  z : Float

namespace Geodesy

/-- The semi-major axis in metres. -/
def semiMajor : Float := 6378137.0

/-- The flattening. -/
def flattening : Float := 1.0 / 298.257223563

/-- The square of the first eccentricity. -/
def eccentricitySquared : Float := flattening * (2.0 - flattening)

/-- Normalized Mercator to longitude and latitude in degrees. -/
def ofMercator (x y : Float) : Float × Float :=
  (x * 180.0, Angle.toDegrees (y * Angle.pi).sinh.atan)

/-- Longitude and latitude in degrees to normalized Mercator. -/
def toMercator (longitude latitude : Float) : Float × Float :=
  (longitude / 180.0, (Angle.toRadians latitude).tan.asinh / Angle.pi)

/-- A geodetic position in earth-centred coordinates. -/
def toGeocentric (position : Geodetic) : Point3 :=
  let latitude := Angle.toRadians position.latitude
  let longitude := Angle.toRadians position.longitude
  let sinLatitude := latitude.sin
  let cosLatitude := latitude.cos
  let normal := semiMajor / (1.0 - eccentricitySquared * sinLatitude * sinLatitude).sqrt
  { x := (normal + position.height) * cosLatitude * longitude.cos
    y := (normal + position.height) * cosLatitude * longitude.sin
    z := (normal * (1.0 - eccentricitySquared) + position.height) * sinLatitude }

end Geodesy

end TileAtlas
