import TileAtlas.Projection.Geocentric

/-!
Contract: how longitudes and latitudes of different surveys of the earth relate.

Owns:
- `Similarity`, a shift, small turn and scaling of earth-centred space;
- `DatumShift`, how the earth-centred points of a datum lie to those of the
  World Geodetic System;
- `Datum`, an ellipsoid with its relation to the World Geodetic System;
- `Datum.convert?`, from one datum to another by way of that system.

Places stay as they are when the relation of either datum is unknown.  Grids of
shifts are not at hand, apart from the null grid, which shifts nothing.  Two
relations of different kinds are never the same, whatever their numbers.
-/

namespace TileAtlas

/-- A shift in metres, turns about the axes in radians and a scale. -/
structure Similarity where
  shift : Point3
  turn : Point3
  scale : Float

namespace Similarity

private def secondsToRadians (seconds : Float) : Float := Angle.toRadians (seconds / 3600.0)

/-- A shift, turns in seconds and a scaling in millionths. -/
def ofSeconds (shift turn : Point3) (millionths : Float) : Similarity where
  shift := shift
  turn := ⟨secondsToRadians turn.x, secondsToRadians turn.y, secondsToRadians turn.z⟩
  scale := millionths / 1000000.0 + 1.0

def apply (similarity : Similarity) (point : Point3) : Point3 :=
  let turn := similarity.turn
  { x := similarity.scale * (point.x - turn.z * point.y + turn.y * point.z) + similarity.shift.x
    y := similarity.scale * (turn.z * point.x + point.y - turn.x * point.z) + similarity.shift.y
    z := similarity.scale * (turn.x * point.y - turn.y * point.x + point.z) + similarity.shift.z }

/-- Undo a similarity, up to the square of its small turns. -/
def undo (similarity : Similarity) (point : Point3) : Point3 :=
  let turn := similarity.turn
  let x := (point.x - similarity.shift.x) / similarity.scale
  let y := (point.y - similarity.shift.y) / similarity.scale
  let z := (point.z - similarity.shift.z) / similarity.scale
  { x := x + turn.z * y - turn.y * z
    y := y + turn.x * z - turn.z * x
    z := turn.y * x - turn.x * y + z }

def numbers (similarity : Similarity) : List Float :=
  [ similarity.shift.x, similarity.shift.y, similarity.shift.z, similarity.turn.x,
    similarity.turn.y, similarity.turn.z, similarity.scale ]

end Similarity

/-- The relation of a datum to the World Geodetic System. -/
inductive DatumShift where
  | unknown
  | coincident
  | displacement (vector : Point3)
  | similarity (value : Similarity)
  | nullGrid

namespace DatumShift

/-- The relation of three or of seven numbers.  Three zeros leave no relation to
be worked out. -/
def ofNumbers? : List Float → Option DatumShift
  | [x, y, z] =>
      if x == 0.0 && y == 0.0 && z == 0.0 then some .coincident
      else some (.displacement ⟨x, y, z⟩)
  | [x, y, z, turnX, turnY, turnZ, millionths] =>
      some (.similarity (.ofSeconds ⟨x, y, z⟩ ⟨turnX, turnY, turnZ⟩ millionths))
  | _ => none

/-- Read three or seven numbers between commas. -/
def read? (text : String) : Option DatumShift :=
  ((text.splitOn ",").mapM fun number => Decimal.readFloat? (Text.trim number).toList).bind
    ofNumbers?

/-- An earth-centred point of a datum in the World Geodetic System. -/
def toWorld (relation : DatumShift) (point : Point3) : Point3 :=
  match relation with
  | .unknown | .coincident | .nullGrid => point
  | .displacement vector => ⟨point.x + vector.x, point.y + vector.y, point.z + vector.z⟩
  | .similarity value => value.apply point

/-- An earth-centred point of the World Geodetic System in a datum. -/
def ofWorld (relation : DatumShift) (point : Point3) : Point3 :=
  match relation with
  | .unknown | .coincident | .nullGrid => point
  | .displacement vector => ⟨point.x - vector.x, point.y - vector.y, point.z - vector.z⟩
  | .similarity value => value.undo point

def isGridded : DatumShift → Bool
  | .nullGrid => true
  | _ => false

/-- Whether two relations are of one kind with the same numbers. -/
def same : DatumShift → DatumShift → Bool
  | .unknown, .unknown | .coincident, .coincident | .nullGrid, .nullGrid => true
  | .displacement left, .displacement right =>
      left.x == right.x && left.y == right.y && left.z == right.z
  | .similarity left, .similarity right => left.numbers == right.numbers
  | _, _ => false

end DatumShift

/-- An ellipsoid and how it lies in the earth. -/
structure Datum where
  ellipsoid : Ellipsoid
  shift : DatumShift

namespace Datum

/-- Where a named datum takes its shift from. -/
inductive ShiftSource where
  | numbers (shift : DatumShift)
  | grids (names : String)

private def shiftOnly (x y z : Float) : ShiftSource := .numbers (.displacement ⟨x, y, z⟩)

private def fullShift (shift turn : Point3) (millionths : Float) : ShiftSource :=
  .numbers (.similarity (.ofSeconds shift turn millionths))

private def irishShift : ShiftSource :=
  fullShift ⟨482.530, -130.596, 564.557⟩ ⟨-1.042, -0.214, -0.631⟩ 8.15

/-- The named datums with the names of their figures. -/
def table : List (String × String × ShiftSource) :=
  [ ("WGS84", "WGS84", .numbers .coincident),
    ("GGRS87", "GRS80", shiftOnly (-199.87) 74.79 246.62),
    ("NAD83", "GRS80", .numbers .coincident),
    ("NAD27", "clrk66", .grids "@conus,@alaska,@ntv2_0.gsb,@ntv1_can.dat"),
    ("potsdam", "bessel", fullShift ⟨598.1, 73.7, 418.2⟩ ⟨0.202, 0.045, -2.455⟩ 6.7),
    ("carthage", "clrk80ign", shiftOnly (-263.0) 6.0 431.0),
    ("hermannskogel", "bessel",
      fullShift ⟨577.326, 90.129, 463.919⟩ ⟨5.137, 1.474, 5.297⟩ 2.4232),
    ("ch1903", "bessel", shiftOnly 674.374 15.056 405.346),
    ("osni52", "airy", irishShift),
    ("ire65", "mod_airy", irishShift),
    ("rassadiran", "intl", shiftOnly (-133.63) (-157.5) (-158.62)),
    ("nzgd49", "intl", fullShift ⟨59.47, -5.04, 187.44⟩ ⟨0.47, -0.1, 1.024⟩ (-4.5993)),
    ("OSGB36", "airy",
      fullShift ⟨446.448, -125.157, 542.060⟩ ⟨0.1502, 0.2470, 0.8421⟩ (-20.4894)),
    ("s_jtsk", "bessel", shiftOnly 589.0 76.0 480.0),
    ("beduaram", "clrk80", shiftOnly (-106.0) (-87.0) 188.0),
    ("gunung_segara", "bessel", shiftOnly (-403.0) 684.0 41.0),
    ("rnb72", "intl",
      fullShift ⟨106.869, -52.2978, 103.724⟩ ⟨-0.33657, 0.456955, -1.84218⟩ 1.0) ]

def named? (name : String) : Option (Figure × ShiftSource) :=
  (Parameters.named? table name).bind fun (figure, source) =>
    (Figure.named? figure).map fun figure => (figure, source)

def nullGridNames : List String := ["null", "@null"]

/-- Whether the null grid comes first of the grids that are found in a list.  A
grid after an at sign may be missing; any other must be found. -/
def findsNullGrid (names : List String) : Except DefinitionFault Bool :=
  match names with
  | [] => .ok false
  | name :: rest =>
      if nullGridNames.contains name then .ok true
      else if name.toList.head? = some '@' then findsNullGrid rest
      else .error (.missingGrid name)

/-- The shift of a list of grids between commas, of which one must be found.  The
null grid alone relates to nothing. -/
def shiftOfGrids (names : String) : Except DefinitionFault DatumShift := do
  if nullGridNames.contains names then return .unknown
  if ← findsNullGrid ((names.splitOn ",").map Text.trim) then return .nullGrid
  else throw (.missingGrid names)

/-- The shift that parameters give: by grids, by numbers, or by the named datum. -/
def readShift (given : Parameters) (ofDatum : Option ShiftSource) :
    Except DefinitionFault DatumShift := do
  if let some names ← given.text? "nadgrids" then
    return ← shiftOfGrids names
  if let some text ← given.text? "towgs84" then
    match DatumShift.read? text with
    | some shift => return shift
    | none => throw .shiftParameters
  match ofDatum with
  | none => return .unknown
  | some (.numbers shift) => return shift
  | some (.grids names) => shiftOfGrids names

def ofParameters (given : Parameters) : Except DefinitionFault Datum := do
  let named ← match ← given.text? "datum" with
    | none => pure none
    | some name =>
        match named? name with
        | some datum => pure (some datum)
        | none => throw (.unknownDatum name)
  let ellipsoid ← Ellipsoid.ofParameters given (named.map Prod.fst)
  let shift ← readShift given (named.map Prod.snd)
  return ⟨ellipsoid, shift⟩

/-- The ellipsoid of the World Geodetic System of 1984. -/
def worldEllipsoid : Ellipsoid := Figure.wgs84.shape.ellipsoid Figure.wgs84.semiMajor

/-- The ellipsoid that places of a datum lie on once grids have shifted them. -/
def effectiveEllipsoid (datum : Datum) : Ellipsoid :=
  if datum.shift.isGridded then worldEllipsoid else datum.ellipsoid

/-- Two ellipsoids are the same up to the last digits of an eccentricity. -/
def sameEllipsoid (left right : Ellipsoid) : Bool :=
  left.semiMajor == right.semiMajor &&
    (left.eccentricitySquared - right.eccentricitySquared).abs ≤ 0.000000000050

/-- Whether places have other longitudes and latitudes in the other datum. -/
def differs (source target : Datum) : Bool :=
  match source.shift, target.shift with
  | .unknown, _ | _, .unknown => false
  | sourceShift, targetShift =>
      !(sourceShift.same targetShift &&
        sameEllipsoid source.effectiveEllipsoid target.effectiveEllipsoid)

/-- Longitude, latitude and height of one datum to those of another. -/
def convert? (source target : Datum) (place : Coordinates) : Option Coordinates :=
  if source.differs target then
    (source.effectiveEllipsoid.toGeocentric? place).map fun point =>
      target.effectiveEllipsoid.ofGeocentric (target.shift.ofWorld (source.shift.toWorld point))
  else some place

end Datum

end TileAtlas
