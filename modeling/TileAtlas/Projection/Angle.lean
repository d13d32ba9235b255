import TileAtlas.Number.Decimal

/-!
Contract: angles in radians and the ways to write them.

Owns:
- conversion between degrees and radians;
- `Angle.normalizeLongitude`, which brings a longitude into one turn;
- `Angle.read?`, for angles in degrees, minutes and seconds or in radians.

An angle may end in a letter of the compass; south and west turn its sign.
Before that stands a number of degrees, a number of radians with its mark, or
numbers of degrees, minutes and seconds in this order, each with its mark.  The
parts are summed, so the sign of the degrees is theirs alone.
-/

namespace TileAtlas.Angle

/-- Half a turn in radians. -/
def pi : Float := 3.14159265358979323846

/-- A quarter turn in radians. -/
def quarterTurn : Float := pi / 2.0

def toRadians (degrees : Float) : Float := degrees * (pi / 180.0)

def toDegrees (radians : Float) : Float := radians * (180.0 / pi)

/-- Bring a longitude into `[-π, π)` when it is outside by more than noise. -/
def normalizeLongitude (longitude : Float) : Float :=
  if longitude.abs < pi + 1.0e-12 then longitude
  else
    let shifted := longitude + pi
    shifted - 2.0 * pi * (shifted / (2.0 * pi)).floor - pi

/-- The units of the parts of an angle. -/
inductive Part where
  | degrees
  | minutes
  | seconds
deriving DecidableEq, Repr

namespace Part

def ofMark? (mark : Char) : Option Part :=
  if mark = 'd' ∨ mark = 'D' ∨ mark = '°' then some .degrees
  else if mark = '\'' then some .minutes
  else if mark = '"' then some .seconds
  else none

/-- The units that may follow one, from the greatest on. -/
def following : Part → List Part
  | .degrees => [.minutes, .seconds]
  | .minutes => [.seconds]
  | .seconds => []

def inDegrees (number : Float) : Part → Float
  | .degrees => number
  | .minutes => number / 60.0
  | .seconds => number / 3600.0

/-- Whether a number may have a sign and an exponent. -/
def takesFullNumber : Part → Bool
  | .degrees => true
  | .minutes | .seconds => false

end Part

/-- Whether a character is a digit or a decimal point. -/
def isPlainDigit (char : Char) : Bool := char.isDigit || char == '.'

def readPart? (number : List Char) (part : Part) : Option Float :=
  if part.takesFullNumber ∨ number.all isPlainDigit then Decimal.readFloat? number else none

/-- The sum of the parts of an angle in degrees.  `number` is the text of the
part being collected, in reverse, and `allowed` the units it may have.  A mark of
degrees may stand without a number, and adds nothing, as long as minutes may
follow; any other mark has a number, and no number stands without a mark. -/
def sumParts? (allowed : List Part) (number : List Char) (sum : Float) : List Char → Option Float
  | [] => if number = [] then some sum else none
  | char :: rest =>
      match Part.ofMark? char with
      | none => sumParts? allowed (char :: number) sum rest
      | some part =>
          if number = [] ∧ part = .degrees ∧ allowed.contains .minutes then
            sumParts? part.following [] sum rest
          else if allowed.contains part then
            match readPart? number.reverse part with
            | some value => sumParts? part.following [] (sum + part.inDegrees value) rest
            | none => none
          else none

/-- An angle without a letter of the compass, in radians. -/
def readMagnitude? (text : List Char) : Option Float :=
  match text.reverse with
  | [] => none
  | last :: before =>
      if last = 'r' ∨ last = 'R' then Decimal.readFloat? before.reverse
      else if text.any fun char => (Part.ofMark? char).isSome then
        (sumParts? [.degrees, .minutes, .seconds] [] 0.0 text).map toRadians
      else (Decimal.readFloat? text).map toRadians

def read? (text : List Char) : Option Float :=
  match text.reverse with
  | [] => none
  | last :: before =>
      if ['S', 's', 'W', 'w'].contains last then
        (readMagnitude? before.reverse).map fun angle => -angle
      else if ['N', 'n', 'E', 'e'].contains last then readMagnitude? before.reverse
      else readMagnitude? text

end TileAtlas.Angle
