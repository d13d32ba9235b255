import TileAtlas.Projection.Angle

/-!
Contract: the Mercator projection on the unit sphere and on an ellipsoid of
unit equatorial radius.

Owns: both directions at scale `scale`.  On an ellipsoid the inverse latitude
is found by iteration until a step is at most `tolerance`; a point that has not
settled after `rounds` steps is refused.
-/

namespace TileAtlas.Mercator

/-- Latitudes this close to a pole have no image. -/
def poleTolerance : Float := 1.0e-10

/-- The last step of the iteration for a latitude. -/
def tolerance : Float := 1.0e-10

def areaTangent (x : Float) : Float := 0.5 * ((1.0 + x) / (1.0 - x)).log

/-- Longitude from the central meridian and latitude to the plane. -/
def forward? (eccentricity scale longitude latitude : Float) : Option (Float × Float) :=
  if (latitude.abs - Angle.quarterTurn).abs ≤ poleTolerance then none
  else
    let isometric := latitude.tan.asinh
    let correction :=
      if eccentricity == 0.0 then 0.0
      else eccentricity * areaTangent (eccentricity * latitude.sin)
    some (scale * longitude, scale * (isometric - correction))

/-- Iterate the latitude whose exponential of the negative isometric latitude
is `ts`. -/
def latitudeOf? (eccentricity ts : Float) : Nat → Float → Option Float
  | 0, _ => none
  | rounds + 1, latitude =>
      let con := eccentricity * latitude.sin
      let next :=
        Angle.quarterTurn - 2.0 * (ts * ((1.0 - con) / (1.0 + con)).pow (0.5 * eccentricity)).atan
      if (next - latitude).abs ≤ tolerance then some next
      else latitudeOf? eccentricity ts rounds next

/-- The plane to longitude from the central meridian and latitude. -/
def inverse? (eccentricity scale x y : Float) : Option (Float × Float) :=
  if eccentricity == 0.0 then some (x / scale, (y / scale).sinh.atan)
  else
    let ts := (-y / scale).exp
    (latitudeOf? eccentricity ts 15 (Angle.quarterTurn - 2.0 * ts.atan)).map fun latitude =>
      (x / scale, latitude)

end TileAtlas.Mercator
