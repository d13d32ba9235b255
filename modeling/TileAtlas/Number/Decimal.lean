import TileAtlas.Number.Binary

/-!
Contract: decimal numerals and the floats they denote.

Owns:
- `Decimal`, a signed decimal number with an exponent of ten;
- `Decimal.toFloat`, the nearest float, infinite when too large;
- `Decimal.readFloat?`, the grammar of float literals in settings and extents:
  an optional sign, digits with an optional point, an optional exponent, or
  `inf`, `infinity` and `nan` in any case, and nothing else around it.

Only ASCII digits and letters take part in the grammar.
-/

namespace TileAtlas

/-- The number `± digits * 10 ^ exponent`. -/
structure Decimal where
  negative : Bool
  digits : Nat
  exponent : Int
deriving DecidableEq, Repr

namespace Decimal

/-- The number that a row of decimal digits denotes. -/
def valueOfDigits (row : List Char) : Nat :=
  row.foldl (fun value digit => 10 * value + (digit.toNat - '0'.toNat)) 0

/-- How many digits a positive number is written with. -/
def width (value : Nat) : Nat := (Nat.toDigits 10 value).length

/-- The nearest float.  Numbers beyond `10 ^ 310` are infinite and those below
`10 ^ -330` are zero, so the exponent never has to be spelled out. -/
def toFloat (numeral : Decimal) : Float :=
  let size := numeral.exponent + width numeral.digits
  let magnitude :=
    if numeral.digits = 0 then 0.0
    else if 310 < size then 1.0 / 0.0
    else if size < -330 then 0.0
    else if 0 ≤ numeral.exponent then
      Float.ofScientific numeral.digits false numeral.exponent.toNat
    else Float.ofScientific numeral.digits true (-numeral.exponent).toNat
  if numeral.negative then -magnitude else magnitude

def splitSign : List Char → Bool × List Char
  | '-' :: rest => (true, rest)
  | '+' :: rest => (false, rest)
  | text => (false, text)

def splitDigits (text : List Char) : List Char × List Char := text.span Char.isDigit

/-- Read the exponent after a number: nothing is zero. -/
def readExponent? : List Char → Option Int
  | [] => some 0
  | mark :: rest =>
      if mark = 'e' ∨ mark = 'E' then
        let (negative, digits) := splitSign rest
        if digits ≠ [] ∧ digits.all Char.isDigit then
          some (if negative then -(valueOfDigits digits : Int) else valueOfDigits digits)
        else none
      else none

/-- Read digits with an optional point and an optional exponent; at least one
digit stands before the exponent. -/
def readUnsigned? (negative : Bool) (text : List Char) : Option Decimal :=
  let (whole, afterWhole) := splitDigits text
  let (fraction, afterFraction) :=
    match afterWhole with
    | '.' :: rest => splitDigits rest
    | rest => ([], rest)
  if whole = [] ∧ fraction = [] then none
  else
    (readExponent? afterFraction).map fun exponent =>
      ⟨negative, valueOfDigits (whole ++ fraction), exponent - fraction.length⟩

def readFloat? (text : List Char) : Option Float :=
  let (negative, body) := splitSign text
  let word := String.ofList (body.map Char.toLower)
  if word = "inf" ∨ word = "infinity" then some (if negative then -1.0 / 0.0 else 1.0 / 0.0)
  else if word = "nan" then some (0.0 / 0.0)
  else (readUnsigned? negative body).map toFloat

end Decimal

end TileAtlas
