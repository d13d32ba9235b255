/-!
Contract: the transverse Mercator projection of an ellipsoid on the unit
sphere's scale, by series of sixth order in the third flattening.

Owns:
- the four coefficient series and the meridian quadrant;
- `TransverseMercator.forward?` and `TransverseMercator.inverse?`.

Both directions refuse points further than `eastingLimit` from the central
meridian, where the series do not converge.
-/

namespace TileAtlas.TransverseMercator

/-- The greatest angle from the central meridian. -/
def eastingLimit : Float := 2.623395162778

/-- The series of one ellipsoid and scale. -/
structure Series where
  /-- Geodetic to Gaussian latitude. -/
  toGaussian : List Float
  /-- Gaussian to geodetic latitude. -/
  toGeodetic : List Float
  /-- Spherical to ellipsoidal northing and easting. -/
  toPlane : List Float
  /-- Ellipsoidal to spherical northing and easting. -/
  toSphere : List Float
  /-- The scaled meridian quadrant. -/
  quadrant : Float
  /-- The northing of the origin latitude. -/
  originNorthing : Float

/-- Evaluate a polynomial given by its coefficients from the constant on. -/
def horner (x : Float) (coefficients : List Float) : Float :=
  coefficients.foldr (fun coefficient sum => coefficient + x * sum) 0.0

/-- The `k`-th entry is a polynomial times the `k + 1`-st power of `n`. -/
def seriesOf (n : Float) (rows : List (List Float)) : List Float :=
  (rows.foldl
    (fun (power, entries) row => (power * n, entries ++ [power * horner n row]))
    (n, ([] : List Float))).2

/-- Add the sine series of twice a latitude to it. -/
def correctLatitude (series : List Float) (latitude : Float) : Float :=
  let twiceCos := 2.0 * (2.0 * latitude).cos
  let step : Float × Float → Float → Float × Float := fun (current, before) coefficient =>
    (twiceCos * current - before + coefficient, current)
  let (sum, _) := series.reverse.foldl step (0.0, 0.0)
  latitude + sum * (2.0 * latitude).sin

def sineSum (series : List Float) (angle : Float) : Float :=
  let twiceCos := 2.0 * angle.cos
  let step : Float × Float → Float → Float × Float := fun (current, before) coefficient =>
    (twiceCos * current - before + coefficient, current)
  angle.sin * (series.reverse.foldl step (0.0, 0.0)).1

/-- The sine series of the complex angle `real + imaginary i`. -/
def complexSineSum (series : List Float) (real imaginary : Float) : Float × Float :=
  let sine := real.sin
  let cosine := real.cos
  let hyperSine := imaginary.sinh
  let hyperCosine := imaginary.cosh
  let r := 2.0 * cosine * hyperCosine
  let i := -2.0 * sine * hyperSine
  let step : (Float × Float) × (Float × Float) → Float → (Float × Float) × (Float × Float) :=
    fun ((currentR, currentI), (beforeR, beforeI)) coefficient =>
      ((r * currentR - beforeR - i * currentI + coefficient,
        i * currentR - beforeI + r * currentI), (currentR, currentI))
  let ((sumR, sumI), _) := series.reverse.foldl step ((0.0, 0.0), (0.0, 0.0))
  let scaleR := sine * hyperCosine
  let scaleI := cosine * hyperSine
  (scaleR * sumR - scaleI * sumI, scaleR * sumI + scaleI * sumR)

def hypotenuse (x y : Float) : Float := (x * x + y * y).sqrt

private def gaussianRows : List (List Float) :=
  [ [-2.0, 2.0 / 3.0, 4.0 / 3.0, -82.0 / 45.0, 32.0 / 45.0, 4642.0 / 4725.0],
    [5.0 / 3.0, -16.0 / 15.0, -13.0 / 9.0, 904.0 / 315.0, -1522.0 / 945.0],
    [-26.0 / 15.0, 34.0 / 21.0, 8.0 / 5.0, -12686.0 / 2835.0],
    [1237.0 / 630.0, -12.0 / 5.0, -24832.0 / 14175.0],
    [-734.0 / 315.0, 109598.0 / 31185.0],
    [444337.0 / 155925.0] ]

private def geodeticRows : List (List Float) :=
  [ [2.0, -2.0 / 3.0, -2.0, 116.0 / 45.0, 26.0 / 45.0, -2854.0 / 675.0],
    [7.0 / 3.0, -8.0 / 5.0, -227.0 / 45.0, 2704.0 / 315.0, 2323.0 / 945.0],
    [56.0 / 15.0, -136.0 / 35.0, -1262.0 / 105.0, 73814.0 / 2835.0],
    [4279.0 / 630.0, -332.0 / 35.0, -399572.0 / 14175.0],
    [4174.0 / 315.0, -144838.0 / 6237.0],
    [601676.0 / 22275.0] ]

private def planeRows : List (List Float) :=
  [ [0.5, -2.0 / 3.0, 5.0 / 16.0, 41.0 / 180.0, -127.0 / 288.0, 7891.0 / 37800.0],
    [13.0 / 48.0, -3.0 / 5.0, 557.0 / 1440.0, 281.0 / 630.0, -1983433.0 / 1935360.0],
    [61.0 / 240.0, -103.0 / 140.0, 15061.0 / 26880.0, 167603.0 / 181440.0],
    [49561.0 / 161280.0, -179.0 / 168.0, 6601661.0 / 7257600.0],
    [34729.0 / 80640.0, -3418889.0 / 1995840.0],
    [212378941.0 / 319334400.0] ]

private def sphereRows : List (List Float) :=
  [ [-0.5, 2.0 / 3.0, -37.0 / 96.0, 1.0 / 360.0, 81.0 / 512.0, -96199.0 / 604800.0],
    [-1.0 / 48.0, -1.0 / 15.0, 437.0 / 1440.0, -46.0 / 105.0, 1118711.0 / 3870720.0],
    [-17.0 / 480.0, 37.0 / 840.0, 209.0 / 4480.0, -5569.0 / 90720.0],
    [-4397.0 / 161280.0, 11.0 / 504.0, 830251.0 / 7257600.0],
    [-4583.0 / 161280.0, 108847.0 / 3991680.0],
    [-20648693.0 / 638668800.0] ]

/-- The series of an ellipsoid with the given flattening. -/
def seriesFor (flattening scale originLatitude : Float) : Series :=
  let n := flattening / (2.0 - flattening)
  let square := n * n
  let quadrant :=
    scale / (1.0 + n) * (1.0 + square * (1.0 / 4.0 + square * (1.0 / 64.0 + square / 256.0)))
  let toGaussian := seriesOf n gaussianRows
  let toPlane := seriesOf n planeRows
  let origin := correctLatitude toGaussian originLatitude
  { toGaussian, toPlane, quadrant
    toGeodetic := seriesOf n geodeticRows
    toSphere := seriesOf n sphereRows
    originNorthing := -(quadrant * (origin + sineSum toPlane (2.0 * origin))) }

/-- Longitude from the central meridian and latitude to easting and northing. -/
def forward? (series : Series) (longitude latitude : Float) : Option (Float × Float) :=
  let gaussian := correctLatitude series.toGaussian latitude
  let sinNorth := gaussian.sin
  let cosNorth := gaussian.cos
  let sinEast := longitude.sin
  let cosEast := longitude.cos
  let north := sinNorth.atan2 (cosEast * cosNorth)
  let east := (sinEast * cosNorth).atan2 (hypotenuse sinNorth (cosNorth * cosEast))
  let stretched := east.tan.asinh
  let (northing, easting) := complexSineSum series.toPlane (2.0 * north) (2.0 * stretched)
  let easting := stretched + easting
  if easting.abs ≤ eastingLimit then
    some (series.quadrant * easting, series.quadrant * (north + northing) + series.originNorthing)
  else none

/-- Easting and northing to longitude from the central meridian and latitude. -/
def inverse? (series : Series) (easting northing : Float) : Option (Float × Float) :=
  let north := (northing - series.originNorthing) / series.quadrant
  let east := easting / series.quadrant
  if east.abs ≤ eastingLimit then
    let (northShift, eastShift) := complexSineSum series.toSphere (2.0 * north) (2.0 * east)
    let north := north + northShift
    let east := (east + eastShift).sinh.atan
    let sinNorth := north.sin
    let cosNorth := north.cos
    let sinEast := east.sin
    let cosEast := east.cos
    let longitude := sinEast.atan2 (cosEast * cosNorth)
    let gaussian := (sinNorth * cosEast).atan2 (hypotenuse sinEast (cosEast * cosNorth))
    some (longitude, correctLatitude series.toGeodetic gaussian)
  else none

end TileAtlas.TransverseMercator
