import TileAtlas.Number.Binary

/-!
Contract: a float with a fixed number of decimal places.

Owns: `Fixed.text`, the exact value rounded to `places` decimals, a tie going
to the even last digit.  Infinities are written `inf` and `-inf`, a missing
number `NaN`.
-/

namespace TileAtlas.Fixed

/-- `numerator / denominator` to the nearest integer, ties to even. -/
def divideEven (numerator denominator : Nat) : Nat :=
  let quotient := numerator / denominator
  let twice := 2 * (numerator % denominator)
  if denominator < twice ∨ (denominator = twice ∧ quotient % 2 = 1) then quotient + 1
  else quotient

/-- Digits with a point before the last `places`. -/
def placePoint (places scaled : Nat) : String :=
  let row := Nat.toDigits 10 scaled
  let padded := List.replicate (places + 1 - row.length) '0' ++ row
  let whole := padded.take (padded.length - places)
  if places = 0 then String.ofList whole
  else String.ofList whole ++ "." ++ String.ofList (padded.drop (padded.length - places))

/-- The text of a value with `places` decimals. -/
def text (places : Nat) : Binary.Value → String
  | .nan => "NaN"
  | .infinite negative => if negative then "-inf" else "inf"
  | .finite negative significand exponent =>
      let scaled :=
        divideEven (significand * 2 ^ exponent.toNat * 10 ^ places) (2 ^ (-exponent).toNat)
      (if negative then "-" else "") ++ placePoint places scaled

end TileAtlas.Fixed
