import TileAtlas.Number.Binary
import TileAtlas.Number.Decimal

/-!
Contract: JSON numerals and the numbers they denote.

Owns:
- `Numeral`, the grammar of a numeral;
- `Number`, an integer of 64 bits or a float;
- `Numeral.number?`, from the one to the other.

An integer that fits 64 bits is exact.  All else is a float: the leading digits
that fit an unsigned 64-bit word, times a power of ten.  A float beyond the
range is refused.
-/

namespace TileAtlas.Json

/-- The parts of a numeral. -/
structure Numeral where
  negative : Bool
  whole : List Char
  fraction : List Char
  /-- The sign and the digits of the exponent: a true sign is a minus. -/
  exponent : Option (Bool × List Char)
deriving DecidableEq, Repr

/-- A number of a document. -/
inductive Number where
  | natural (value : Nat)
  | negative (value : Int)
  | real (value : Float)

namespace Numeral

/-- Digits that may stand before the point: no leading zero unless alone. -/
def isWhole : List Char → Bool
  | [] => false
  | ['0'] => true
  | '0' :: _ => false
  | digits => digits.all Char.isDigit

def readExponent? : List Char → Option (Option (Bool × List Char))
  | [] => some none
  | mark :: rest =>
      if mark = 'e' ∨ mark = 'E' then
        let (negative, digits) := Decimal.splitSign rest
        if digits ≠ [] ∧ digits.all Char.isDigit then some (some (negative, digits)) else none
      else none

/-- A minus and what follows it. -/
def splitMinus : List Char → Bool × List Char
  | '-' :: rest => (true, rest)
  | text => (false, text)

def read? (text : List Char) : Option Numeral :=
  let (negative, body) := splitMinus text
  let (whole, afterWhole) := Decimal.splitDigits body
  if isWhole whole then
    match afterWhole with
    | '.' :: rest =>
        let (fraction, afterFraction) := Decimal.splitDigits rest
        if fraction = [] then none
        else (readExponent? afterFraction).map (⟨negative, whole, fraction, ·⟩)
    | rest => (readExponent? rest).map (⟨negative, whole, [], ·⟩)
  else none

/-- Append a digit to a significand, as long as 64 bits hold it. -/
def appendDigit? (significand : Nat) (digit : Char) : Option Nat :=
  let longer := 10 * significand + (digit.toNat - '0'.toNat)
  if longer ≤ word64Max then some longer else none

/-- Append digits as long as 64 bits hold them; the second part is the number
of digits left over. -/
def appendDigits (significand : Nat) : List Char → Nat × Nat
  | [] => (significand, 0)
  | digit :: rest =>
      (appendDigit? significand digit).elim (significand, (digit :: rest).length)
        (appendDigits · rest)

/-- Multiply by a power of ten up to `10 ^ 308` on either side; beyond, divide
in steps.  Nothing is returned for numbers out of range. -/
def scale? (value : Float) (exponent : Int) : Option Float :=
  if exponent.natAbs ≤ 308 then
    let power := Float.ofScientific 1 false exponent.natAbs
    if 0 ≤ exponent then
      let scaled := value * power
      if scaled.isInf then none else some scaled
    else some (value / power)
  else if value == 0.0 then some value
  else if 0 ≤ exponent then none
  else scale? (value / Float.ofScientific 1 false 308) (exponent + 308)
termination_by (-exponent).toNat
decreasing_by omega

/-- A significand times a power of ten, with a sign. -/
def float? (negative : Bool) (significand : Nat) (exponent : Int) : Option Float :=
  let value := Binary.toFloat (.finite false significand 0)
  (scale? value exponent).map fun magnitude => if negative then -magnitude else magnitude

/-- The greatest exponent that is counted. -/
def largestExponent : Nat := 2147483647

/-- Apply the exponent part of a numeral to a number of leading digits. -/
def withExponent? (numeral : Numeral) (significand : Nat) (places : Int) : Option Float :=
  match numeral.exponent with
  | none => float? numeral.negative significand places
  | some (isNegative, digits) =>
      let size := Decimal.valueOfDigits digits
      if largestExponent < size then
        if significand ≠ 0 ∧ ¬isNegative then none
        else some (if numeral.negative then -0.0 else 0.0)
      else float? numeral.negative significand (if isNegative then places - size else places + size)

def ofNat (count : Nat) : Numeral := ⟨false, Nat.toDigits 10 count, [], none⟩

def ofInt (value : Int) : Numeral := ⟨value < 0, Nat.toDigits 10 value.natAbs, [], none⟩

def text (numeral : Numeral) : String :=
  let sign (negative : Bool) : List Char := if negative then ['-'] else []
  let fraction := if numeral.fraction = [] then [] else '.' :: numeral.fraction
  let exponent := match numeral.exponent with
    | none => []
    | some (negative, digits) => 'e' :: sign negative ++ digits
  String.ofList (sign numeral.negative ++ numeral.whole ++ fraction ++ exponent)

def number? (numeral : Numeral) : Option Number :=
  let (significand, dropped) := appendDigits 0 numeral.whole
  if dropped = 0 ∧ numeral.fraction = [] ∧ numeral.exponent = none then
    if ¬numeral.negative then some (.natural significand)
    else if significand = 0 ∨ 2 ^ 63 < significand then
      some (.real (-(Binary.toFloat (.finite false significand 0))))
    else some (.negative (-(significand : Int)))
  else
    let (longer, unused) := appendDigits significand numeral.fraction
    let places : Int := dropped - ((numeral.fraction.length : Int) - unused)
    (numeral.withExponent? longer places).map .real

end Numeral

namespace Number

def natural? (bound : Nat) : Number → Option Nat
  | .natural value => if value ≤ bound then some value else none
  | _ => none

def toFloat : Number → Float
  | .natural value => Binary.toFloat (.finite false value 0)
  | .negative value => Binary.toFloat (.finite true value.natAbs 0)
  | .real value => value

def toFloat32 : Number → Float32
  | .natural value => Binary.toFloat32 (.finite false value 0)
  | .negative value => Binary.toFloat32 (.finite true value.natAbs 0)
  | .real value => Binary.narrow value

end Number

end TileAtlas.Json
