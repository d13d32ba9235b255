import TileAtlas.Projection.Parameters

/-!
Contract: the figures of the earth that coordinate systems name.

Owns:
- `Ellipsoid`, a semi-major axis with the measures of its shape;
- `Shape`, the five ways to say how an ellipsoid departs from a sphere;
- `Figure`, a size with a shape, and the named figures;
- `Ellipsoid.ofParameters` for the figure that parameters describe, or for the
  sphere they ask for in its place.

A radius makes a sphere whatever else is given, and so does a size without any
figure or shape.  Otherwise a size and a shape of their own replace those of the
named figure.
-/

namespace TileAtlas

/-- An ellipsoid of revolution: its equatorial and polar radii in metres, the
square of its first eccentricity and its flattening as the series of
projections take it. -/
structure Ellipsoid where
  semiMajor : Float
  semiMinor : Float
  eccentricitySquared : Float
  flattening : Float

/-- How an ellipsoid departs from a sphere. -/
inductive Shape where
  | inverseFlattening (value : Float)
  | flattening (value : Float)
  | eccentricitySquared (value : Float)
  | eccentricity (value : Float)
  | semiMinor (value : Float)

namespace Shape

private def isPart (value : Float) : Bool := 0.0 ≤ value && value < 1.0

/-- Whether the number suits the shape of an ellipsoid of a size.  Of missing
numbers only an inverse flattening is let through. -/
def isSuited (semiMajor : Float) : Shape → Bool
  | .inverseFlattening value => !(value ≤ 1.0)
  | .flattening value | .eccentricitySquared value | .eccentricity value => isPart value
  | .semiMinor value => 0.0 < value && value ≤ semiMajor

def ofFlattening (semiMajor flattening : Float) : Ellipsoid :=
  ⟨semiMajor, (1.0 - flattening) * semiMajor, flattening * (2.0 - flattening), flattening⟩

/-- The ellipsoid of a size and an eccentricity with its square.  The flattening
is measured by the angle whose sine is the eccentricity. -/
def ofEccentricity (semiMajor eccentricity square : Float) : Ellipsoid :=
  let flattening := 1.0 - eccentricity.asin.cos
  ⟨semiMajor, (1.0 - flattening) * semiMajor, square, flattening⟩

/-- The ellipsoid of a size and a shape.  The flattening of a polar radius is
the second one, a part of that radius. -/
def ellipsoid (semiMajor : Float) : Shape → Ellipsoid
  | .inverseFlattening value => ofFlattening semiMajor (1.0 / value)
  | .flattening value => ofFlattening semiMajor value
  | .eccentricitySquared value => ofEccentricity semiMajor value.sqrt value
  | .eccentricity value => ofEccentricity semiMajor value (value * value)
  | .semiMinor value =>
      ⟨semiMajor, value, 1.0 - (value * value) / (semiMajor * semiMajor),
        (semiMajor - value) / value⟩

end Shape

/-- A size with a shape. -/
structure Figure where
  semiMajor : Float
  shape : Shape

namespace Figure

/-- The figure of the World Geodetic System of 1984. -/
def wgs84 : Figure := ⟨6378137.0, .inverseFlattening 298.257223563⟩

def table : List (String × Figure) :=
  [ ("MERIT", ⟨6378137.0, .inverseFlattening 298.257⟩),
    ("SGS85", ⟨6378136.0, .inverseFlattening 298.257⟩),
    ("GRS80", ⟨6378137.0, .inverseFlattening 298.257222101⟩),
    ("IAU76", ⟨6378140.0, .inverseFlattening 298.257⟩),
    ("airy", ⟨6377563.396, .inverseFlattening 299.3249646⟩),
    ("APL4.9", ⟨6378137.0, .inverseFlattening 298.25⟩),
    ("NWL9D", ⟨6378145.0, .inverseFlattening 298.25⟩),
    ("mod_airy", ⟨6377340.189, .semiMinor 6356034.446⟩),
    ("andrae", ⟨6377104.43, .inverseFlattening 300.0⟩),
    ("danish", ⟨6377019.2563, .inverseFlattening 300.0⟩),
    ("aust_SA", ⟨6378160.0, .inverseFlattening 298.25⟩),
    ("GRS67", ⟨6378160.0, .inverseFlattening 298.247167427⟩),
    ("GSK2011", ⟨6378136.5, .inverseFlattening 298.2564151⟩),
    ("bessel", ⟨6377397.155, .inverseFlattening 299.1528128⟩),
    ("bess_nam", ⟨6377483.865, .inverseFlattening 299.1528128⟩),
    ("clrk66", ⟨6378206.4, .semiMinor 6356583.8⟩),
    ("clrk80", ⟨6378249.145, .inverseFlattening 293.4663⟩),
    ("clrk80ign", ⟨6378249.2, .inverseFlattening 293.4660212936269⟩),
    ("CPM", ⟨6375738.7, .inverseFlattening 334.29⟩),
    ("delmbr", ⟨6376428.0, .inverseFlattening 311.5⟩),
    ("engelis", ⟨6378136.05, .inverseFlattening 298.2566⟩),
    ("evrst30", ⟨6377276.345, .inverseFlattening 300.8017⟩),
    ("evrst48", ⟨6377304.063, .inverseFlattening 300.8017⟩),
    ("evrst56", ⟨6377301.243, .inverseFlattening 300.8017⟩),
    ("evrst69", ⟨6377295.664, .inverseFlattening 300.8017⟩),
    ("evrstSS", ⟨6377298.556, .inverseFlattening 300.8017⟩),
    ("fschr60", ⟨6378166.0, .inverseFlattening 298.3⟩),
    ("fschr60m", ⟨6378155.0, .inverseFlattening 298.3⟩),
    ("fschr68", ⟨6378150.0, .inverseFlattening 298.3⟩),
    ("helmert", ⟨6378200.0, .inverseFlattening 298.3⟩),
    ("hough", ⟨6378270.0, .inverseFlattening 297.0⟩),
    ("intl", ⟨6378388.0, .inverseFlattening 297.0⟩),
    ("krass", ⟨6378245.0, .inverseFlattening 298.3⟩),
    ("kaula", ⟨6378163.0, .inverseFlattening 298.24⟩),
    ("lerch", ⟨6378139.0, .inverseFlattening 298.257⟩),
    ("mprts", ⟨6397300.0, .inverseFlattening 191.0⟩),
    ("new_intl", ⟨6378157.5, .semiMinor 6356772.2⟩),
    ("plessis", ⟨6376523.0, .semiMinor 6355863.0⟩),
    ("PZ90", ⟨6378136.0, .inverseFlattening 298.25784⟩),
    ("SEasia", ⟨6378155.0, .semiMinor 6356773.3205⟩),
    ("walbeck", ⟨6376896.0, .semiMinor 6355834.8467⟩),
    ("WGS60", ⟨6378165.0, .inverseFlattening 298.3⟩),
    ("WGS66", ⟨6378145.0, .inverseFlattening 298.25⟩),
    ("WGS72", ⟨6378135.0, .inverseFlattening 298.26⟩),
    ("WGS84", wgs84),
    ("sphere", ⟨6370997.0, .semiMinor 6370997.0⟩) ]

def named? (name : String) : Option Figure := Parameters.named? table name

def ellipsoid? (figure : Figure) : Except DefinitionFault Ellipsoid :=
  if figure.semiMajor ≤ 0.0 then .error .semiMajorAxis
  else if !figure.shape.isSuited figure.semiMajor then .error .ellipsoidShape
  else .ok (figure.shape.ellipsoid figure.semiMajor)

/-- The shapes with the parameters that give them; the first one given counts. -/
def shapeParameters : List (String × (Float → Shape)) :=
  [ ("rf", .inverseFlattening), ("f", .flattening), ("es", .eccentricitySquared),
    ("e", .eccentricity), ("b", .semiMinor) ]

def readShape? (given : Parameters) : Except DefinitionFault (Option Shape) :=
  match shapeParameters.find? fun row => given.has row.1 with
  | none => .ok none
  | some (name, shape) => (given.number? name).map fun number => number.map shape

end Figure

namespace Ellipsoid

def sphere (radius : Float) : Ellipsoid := ⟨radius, radius, 0.0, 0.0⟩

/-- Axes that differ by no more than this are equal. -/
def axisTolerance : Float := 1.0e-10

/-- Whether the axes differ, so that spherical formulas do not hold. -/
def isOblate (ellipsoid : Ellipsoid) : Bool :=
  ellipsoid.eccentricitySquared != 0.0 &&
    !((ellipsoid.semiMajor - ellipsoid.semiMinor).abs ≤ axisTolerance)

/-- The first eccentricity, none on what counts as a sphere. -/
def eccentricity (ellipsoid : Ellipsoid) : Float :=
  if ellipsoid.isOblate then ellipsoid.eccentricitySquared.sqrt else 0.0

/-- The least positive float with full precision. -/
def leastNormal : Float := Float.ofBits 0x0010000000000000

/-- A radius is a positive number of full precision. -/
def isRadius (value : Float) : Bool := leastNormal ≤ value && value.isFinite

def sphere? (radius : Float) : Except DefinitionFault Ellipsoid :=
  if isRadius radius then .ok (sphere radius) else .error .semiMajorAxis

/-- The figure that parameters describe, on the figure of the datum. -/
def ofFigures (given : Parameters) (ofDatum : Option Figure) :
    Except DefinitionFault Ellipsoid := do
  let base? ← match ← given.text? "ellps" with
    | none => pure ofDatum
    | some name =>
        match Figure.named? name with
        | some figure => pure (some figure)
        | none => throw (.unknownEllipsoid name)
  let size? ← given.number? "a"
  let shape? ← Figure.readShape? given
  match size?, base?, shape? with
  | some size, none, none => if size ≤ 0.0 then throw .semiMajorAxis else return sphere size
  | _, _, _ =>
      let base := base?.getD Figure.wgs84
      Figure.ellipsoid? ⟨size?.getD base.semiMajor, shape?.getD base.shape⟩

/-- The sphere that stands in for an ellipsoid. -/
inductive Rounding where
  | area
  | volume
  | arithmeticMean
  | axisSumRoot
  | harmonicMean
deriving DecidableEq, Repr

namespace Rounding

/-- The names of the roundings; the first one of this list that is given
counts. -/
def names : List (String × Rounding) :=
  [ ("R_A", .area), ("R_V", .volume), ("R_a", .arithmeticMean), ("R_g", .axisSumRoot),
    ("R_h", .harmonicMean) ]

/-- The radius of the sphere.  Those of equal area and volume count in semi-major
axes, the others in metres; the root is that of the sum of the axes. -/
def radius (ellipsoid : Ellipsoid) : Rounding → Float
  | .area =>
      let square := ellipsoid.eccentricitySquared
      1.0 - square * (1.0 / 6.0 + square * (17.0 / 360.0 + square * (67.0 / 3024.0)))
  | .volume =>
      let square := ellipsoid.eccentricitySquared
      1.0 - square * (1.0 / 6.0 + square * (5.0 / 72.0 + square * (55.0 / 1296.0)))
  | .arithmeticMean => (ellipsoid.semiMajor + ellipsoid.semiMinor) / 2.0
  | .axisSumRoot => (ellipsoid.semiMajor + ellipsoid.semiMinor).sqrt
  | .harmonicMean =>
      2.0 * ellipsoid.semiMajor * ellipsoid.semiMinor / (ellipsoid.semiMajor + ellipsoid.semiMinor)

end Rounding

/-- The sphere that parameters ask for in place of an ellipsoid, or the ellipsoid
itself. -/
def rounded (given : Parameters) (ellipsoid : Ellipsoid) : Except DefinitionFault Ellipsoid :=
  match Rounding.names.find? fun row => given.has row.1 with
  | none => .ok ellipsoid
  | some (_, rounding) => sphere? (rounding.radius ellipsoid)

/-- The ellipsoid of parameters: a sphere of a radius that is given, else a figure,
rounded where they ask for it. -/
def ofParameters (given : Parameters) (ofDatum : Option Figure) :
    Except DefinitionFault Ellipsoid := do
  match ← given.number? "R" with
  | some radius => sphere? radius
  | none => rounded given (← ofFigures given ofDatum)

end Ellipsoid

end TileAtlas
