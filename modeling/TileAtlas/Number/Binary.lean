import TileAtlas.Number.Whole

/-!
Contract: binary interchange words and the exact values they stand for.

Owns:
- `Binary.Value`, an exact sign, significand and exponent;
- `Binary.decode` and `Binary.encode` for the 32-bit and the 64-bit format;
- `Binary.recode`, from the words of one format to those of another;
- rounding of an exact value to an integer (down, toward zero, half away).

Does not own: arithmetic on such values.  `encode` rounds to the nearest
representable value and, between two, to the one with an even significand.
-/

namespace TileAtlas.Binary

/-- The exact value of a word: `± significand * 2 ^ exponent`, unless it is an
infinity or no number. -/
inductive Value where
  | nan
  | infinite (negative : Bool)
  | finite (negative : Bool) (significand : Nat) (exponent : Int)
deriving DecidableEq, Repr, Inhabited

/-- Widths of the fields of a word below its sign. -/
structure Format where
  /-- Bits of the fraction, the leading one not counted. -/
  fractionBits : Nat
  exponentBits : Nat
deriving DecidableEq, Repr

def single : Format := ⟨23, 8⟩

def double : Format := ⟨52, 11⟩

namespace Format

def topField (format : Format) : Nat := 2 ^ format.exponentBits - 1

def infinityWord (format : Format) : Nat := format.topField * 2 ^ format.fractionBits

/-- The word of a missing number: quiet and positive. -/
def nanWord (format : Format) : Nat :=
  format.infinityWord + 2 ^ (format.fractionBits - 1)

def signWeight (format : Format) : Nat := 2 ^ (format.fractionBits + format.exponentBits)

/-- The exponent of the last place of the least numbers. -/
def leastExponent (format : Format) : Int :=
  2 - 2 ^ (format.exponentBits - 1) - format.fractionBits

end Format

def decode (format : Format) (word : Nat) : Value :=
  let negative := format.signWeight ≤ word
  let fraction := word % 2 ^ format.fractionBits
  let field := word / 2 ^ format.fractionBits % 2 ^ format.exponentBits
  if field = format.topField then
    if fraction = 0 then .infinite negative else .nan
  else if field = 0 then
    .finite negative fraction format.leastExponent
  else
    .finite negative (2 ^ format.fractionBits + fraction) (format.leastExponent + field - 1)

/-- `value / 2 ^ places` to the nearest integer, a half going to the even one. -/
def shiftRoundEven (value places : Nat) : Nat :=
  let quotient := value >>> places
  let rest := value - quotient <<< places
  let twice := 2 * rest
  if 2 ^ places < twice ∨ (2 ^ places = twice ∧ quotient % 2 = 1) then quotient + 1 else quotient

/-- The word of `significand * 2 ^ exponent` without its sign: nearest, ties to
even, and infinity from the point where the exponent field is exhausted. -/
def encodeMagnitude (format : Format) (significand : Nat) (exponent : Int) : Nat :=
  if significand = 0 then 0
  else
    let width := Nat.log2 significand + 1
    let wanted := exponent + width - (format.fractionBits + 1)
    let place := max wanted format.leastExponent
    let rounded :=
      if place ≤ exponent then significand <<< (exponent - place).toNat
      else shiftRoundEven significand (place - exponent).toNat
    let field := (place - format.leastExponent).toNat
    min (field * 2 ^ format.fractionBits + rounded) format.infinityWord

def encode (format : Format) : Value → Nat
  | .nan => format.nanWord
  | .infinite negative => (if negative then format.signWeight else 0) + format.infinityWord
  | .finite negative significand exponent =>
      (if negative then format.signWeight else 0) + encodeMagnitude format significand exponent

/-- The word of another format for the same value.  A missing number keeps its
sign and the leading bits of its fraction, and becomes quiet. -/
def recode (source target : Format) (word : Nat) : Nat :=
  match decode source word with
  | .nan =>
      let fraction := word % 2 ^ source.fractionBits
      let payload := (fraction <<< target.fractionBits) >>> source.fractionBits
      (if source.signWeight ≤ word then target.signWeight else 0) + (target.nanWord ||| payload)
  | value => encode target value

namespace Value

/-- The integer part of `significand * 2 ^ exponent`. -/
def integerPart (significand : Nat) (exponent : Int) : Nat :=
  if 0 ≤ exponent then significand <<< exponent.toNat else significand >>> (-exponent).toNat

/-- Whether `significand * 2 ^ exponent` has no fraction. -/
def isIntegral (significand : Nat) (exponent : Int) : Bool :=
  0 ≤ exponent ||
    (significand >>> (-exponent).toNat) <<< (-exponent).toNat == significand

/-- The nearest integer of `significand * 2 ^ exponent`, a half going up. -/
def nearestPart (significand : Nat) (exponent : Int) : Nat :=
  if 0 ≤ exponent then significand <<< exponent.toNat
  else (significand + 2 ^ ((-exponent).toNat - 1)) >>> (-exponent).toNat

def signed (negative : Bool) (magnitude : Nat) : Int :=
  if negative then -(magnitude : Int) else magnitude

private def bring (round : Bool → Nat → Int → Int) : Value → Whole
  | .nan => .undefined
  | .infinite negative => if negative then .belowAll else .aboveAll
  | .finite negative significand exponent => .integer (round negative significand exponent)

/-- The greatest integer that is not above the value. -/
def floor : Value → Whole :=
  bring fun negative significand exponent =>
    let part := integerPart significand exponent
    if negative && !isIntegral significand exponent then -(part : Int) - 1
    else signed negative part

def truncate : Value → Whole :=
  bring fun negative significand exponent => signed negative (integerPart significand exponent)

/-- The nearest integer, a half going away from zero. -/
def round : Value → Whole :=
  bring fun negative significand exponent => signed negative (nearestPart significand exponent)

end Value

def ofFloat (number : Float) : Value := decode double number.toBits.toNat

def ofFloat32 (number : Float32) : Value := decode single number.toBits.toNat

def toFloat (value : Value) : Float := Float.ofBits (encode double value).toUInt64

def toFloat32 (value : Value) : Float32 := Float32.ofBits (encode single value).toUInt32

/-- The nearest 32-bit float of a 64-bit float; too large becomes infinite. -/
def narrow (number : Float) : Float32 := toFloat32 (ofFloat number)

def widen (number : Float32) : Float := toFloat (ofFloat32 number)

end TileAtlas.Binary
