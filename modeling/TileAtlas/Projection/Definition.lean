import TileAtlas.Projection.Datum
import TileAtlas.Projection.Meridian

/-!
Contract: coordinate systems as they are written in parameter strings such as
`+proj=utm +zone=33 +datum=WGS84`.

Owns:
- `CoordinateSystem`, the numbers a projection is computed from;
- `CoordinateSystem.ofDefinition`, which reads a string.

Does not own: the projection formulas.  A string is read in full when it is
met, so a faulty one is refused before any point is transformed.
-/

namespace TileAtlas

/-- How a system maps the ellipsoid to its plane. -/
inductive ProjectionMethod where
  | geographic
  | mercator
  | equidistantCylindrical
  | transverseMercator
  /-- A projection that is recognised by name only. -/
  | nameOnly (name : String)
deriving DecidableEq, Repr

/-- A coordinate system: its projection and the numbers that place it.  Angles
are in radians, false coordinates in metres. -/
structure CoordinateSystem where
  method : ProjectionMethod
  datum : Datum
  axes : AxisOrder
  /-- What longitudes of the plane are less than those from Greenwich by. -/
  primeMeridian : Float
  centralMeridian : Float
  originLatitude : Float
  trueScaleLatitude : Option Float
  falseEasting : Float
  falseNorthing : Float
  scale : Float
  toMetre : Float
  heightToMetre : Float
  /-- Latitudes are those seen from the centre of the earth. -/
  hasGeocentricLatitude : Bool
  /-- Longitudes are not brought into one turn. -/
  keepsTurns : Bool

namespace CoordinateSystem

def ellipsoid (system : CoordinateSystem) : Ellipsoid := system.datum.ellipsoid

def unitLengths : List (String × Float) :=
  [ ("m", 1.0), ("km", 1000.0), ("dm", 0.1), ("cm", 0.01), ("mm", 0.001), ("kmi", 1852.0),
    ("in", 0.0254), ("ft", 0.3048), ("yd", 0.9144), ("mi", 1609.344), ("fath", 1.8288),
    ("ch", 20.1168), ("link", 0.201168), ("us-in", 0.025400050800101603),
    ("us-ft", 0.304800609601219), ("us-yd", 0.914401828803658), ("us-ch", 20.11684023368047),
    ("us-mi", 1609.347218694437), ("ind-yd", 0.91439523), ("ind-ft", 0.30479841),
    ("ind-ch", 20.11669506) ]

/-- Degrees stand for metres in the plane alone. -/
def planeUnits : List (String × Float) := unitLengths ++ [("degrees", 1.0)]

/-- Metres per unit: a named one of a table, else a number, else one. -/
def readUnit (given : Parameters) (table : List (String × Float)) (nameKey numberKey : String) :
    Except DefinitionFault Float := do
  match ← given.text? nameKey with
  | none => given.numberOr numberKey 1.0
  | some name =>
      match Parameters.named? table name with
      | some length => return length
      | none => throw (.unknownUnit name)

def readScale (given : Parameters) : Except DefinitionFault Float := do
  match ← given.number? "k0" with
  | some scale => return scale
  | none => given.numberOr "k" 1.0

def readAxes (given : Parameters) : Except DefinitionFault AxisOrder := do
  match ← given.text? "axis" with
  | none => return .standard
  | some text =>
      match AxisOrder.ofText? text with
      | some order => return order
      | none => throw (.unknownAxes text)

/-- Projections that are recognised without formulas for them. -/
def namesOnly : List String :=
  [ "aea", "cart", "etmerc", "geocent", "geos", "krovak", "laea", "lcc", "leac", "moll",
    "somerc", "stere", "sterea", "tmerc", "ups", "wag4", "wag5", "webmerc" ]

def geographicNames : List String := ["longlat", "latlong"]

def methodOfName? (name : String) : Option ProjectionMethod :=
  let name := name.toLower
  if geographicNames.contains name then some .geographic
  else if name = "merc" then some .mercator
  else if name = "eqc" then some .equidistantCylindrical
  else if name = "utm" then some .transverseMercator
  else if namesOnly.contains name then some (.nameOnly name)
  else none

/-- The zone of a universal transverse Mercator system: as given, or the one
that holds the central meridian. -/
def readZone (given : Parameters) (centralMeridian : Float) : Except DefinitionFault Nat := do
  let zone : Int ← match ← given.text? "zone" with
    | none =>
        let place := (Angle.normalizeLongitude centralMeridian + Angle.pi) * 30.0 / Angle.pi
        pure ((Binary.ofFloat place).floor.saturate 0 61 0)
    | some text =>
        let (negative, digits) := Decimal.splitSign text.toList
        if digits = [] ∨ !digits.all Char.isDigit then throw (.malformedNumber "zone")
        else
          let value : Int := Decimal.valueOfDigits digits
          pure (if negative then -value else value)
  if 1 ≤ zone ∧ zone ≤ 60 then return zone.toNat else throw .zoneRange

def inZone (system : CoordinateSystem) (zone : Nat) (south : Bool) : CoordinateSystem :=
  { system with
    centralMeridian := Angle.toRadians (6.0 * Float.ofNat zone - 183.0)
    originLatitude := 0.0
    falseEasting := 500000.0
    falseNorthing := if south then 10000000.0 else 0.0
    scale := 0.9996 }

/-- Refuse standard parallels that lie on both sides of the equator alike. -/
def checkParallels (first second : Float) : Except DefinitionFault Unit :=
  if (first + second).abs < 1.0e-10 then .error .standardParallels else .ok ()

def requireEllipsoid (ellipsoid : Ellipsoid) : Except DefinitionFault Unit :=
  if ellipsoid.isOblate then .ok () else .error .sphericalFigure

/-- Refuse what is no radius of a sphere: some projections map a sphere of the
semi-major axis in place of the ellipsoid. -/
def requireRadius (ellipsoid : Ellipsoid) : Except DefinitionFault Unit :=
  (Ellipsoid.sphere? ellipsoid.semiMajor).map fun _ => ()

/-- Check the parameters of a projection that is recognised by name only. -/
def checkNamed (given : Parameters) (ellipsoid : Ellipsoid) (name : String) :
    Except DefinitionFault Unit := do
  match name with
  | "lcc" =>
      let first ← given.angleOr "lat_1" 0.0
      checkParallels first (← given.angleOr "lat_2" first)
  | "aea" => checkParallels (← given.angleOr "lat_1" 0.0) (← given.angleOr "lat_2" 0.0)
  | "geos" =>
      if 0.0 < (← given.numberOr "h" 0.0) then return () else throw .satelliteHeight
  | "etmerc" | "ups" => requireEllipsoid ellipsoid
  | "moll" | "wag4" | "wag5" => requireRadius ellipsoid
  | _ => return ()

/-- Read what a projection needs beyond the common parameters. -/
def complete (given : Parameters) (system : CoordinateSystem) :
    Except DefinitionFault CoordinateSystem := do
  match system.method with
  | .geographic => return system
  | .mercator =>
      match ← given.angle? "lat_ts" with
      | none => return system
      | some latitude =>
          if Angle.quarterTurn ≤ latitude then throw .trueScaleLatitude
          else return { system with trueScaleLatitude := some latitude }
  | .equidistantCylindrical =>
      requireRadius system.ellipsoid
      match ← given.angle? "lat_ts" with
      | none => return system
      | some latitude =>
          if latitude.cos ≤ 0.0 then throw .trueScaleLatitude
          else return { system with trueScaleLatitude := some latitude }
  | .transverseMercator =>
      requireEllipsoid system.ellipsoid
      let zone ← readZone given system.centralMeridian
      return system.inZone zone (← given.flag "south")
  | .nameOnly name =>
      checkNamed given system.ellipsoid name
      return system

def ofParameters (given : Parameters) : Except DefinitionFault CoordinateSystem := do
  let some name ← given.text? "proj" | throw .missingProjection
  let some method := methodOfName? name | throw (.unknownProjection name)
  let datum ← Datum.ofParameters given
  complete given
    { method, datum
      axes := ← readAxes given
      primeMeridian := ← Meridian.ofParameters given
      centralMeridian := ← given.angleOr "lon_0" 0.0
      originLatitude := ← given.angleOr "lat_0" 0.0
      trueScaleLatitude := none
      falseEasting := ← given.numberOr "x_0" 0.0
      falseNorthing := ← given.numberOr "y_0" 0.0
      scale := ← readScale given
      toMetre := ← readUnit given planeUnits "units" "to_meter"
      heightToMetre := ← readUnit given unitLengths "vunits" "vto_meter"
      hasGeocentricLatitude := ← given.flag "geoc"
      keepsTurns := ← given.flag "over" }

def ofDefinition (definition : String) : Except DefinitionFault CoordinateSystem := do
  ofParameters (← Parameters.ofText definition)

end CoordinateSystem

end TileAtlas
