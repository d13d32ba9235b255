import TileAtlas.Number.Binary

/-!
Contract: the fewest decimal digits that read back as a float.

Owns:
- `Shortest.search`, which walks the decimal grids from coarse to fine and
  takes the first point that rounds to the value, of two points the nearer;
- `Shortest.text`, digits laid out with a point or an exponent.

The interval of numbers that round to a value includes its ends exactly when
the significand is even, since ties go to the even significand.
-/

namespace TileAtlas.Shortest

/-- The positive number `digits * 10 ^ exponent`. -/
structure Digits where
  digits : Nat
  exponent : Int
deriving DecidableEq, Repr

/-- Four times a positive value and the ends of its interval, all in units of
`2 ^ scale`. -/
structure Interval where
  lower : Nat
  centre : Nat
  upper : Nat
  scale : Int
  closed : Bool
deriving DecidableEq, Repr

/-- The interval of `significand * 2 ^ exponent`.  Below a power of two the
next value is only half as far away. -/
def interval (format : Binary.Format) (significand : Nat) (exponent : Int) : Interval :=
  let nearBelow := significand = 2 ^ format.fractionBits ∧ format.leastExponent < exponent
  { lower := 4 * significand - (if nearBelow then 1 else 2)
    centre := 4 * significand
    upper := 4 * significand + 2
    scale := exponent - 2
    closed := significand % 2 = 0 }

/-- The point of the grid of multiples of `10 ^ place` that rounds to the
value, if there is one. -/
def gridPoint? (range : Interval) (place : Int) : Option Nat :=
  let step := 10 ^ place.toNat * 2 ^ (-range.scale).toNat
  let unit := 2 ^ range.scale.toNat * 10 ^ (-place).toNat
  let inside (point : Nat) : Bool :=
    if range.closed then range.lower * unit ≤ point * step && point * step ≤ range.upper * unit
    else range.lower * unit < point * step && point * step < range.upper * unit
  let below := range.centre * unit / step
  let above := below + 1
  if inside below then
    if inside above then
      let twice := 2 * (range.centre * unit)
      let middle := (below + above) * step
      if twice < middle then some below
      else if middle < twice then some above
      else some (if below % 2 = 0 then below else above)
    else some below
  else if inside above then some above
  else none

/-- Walk from the coarsest grid to finer ones, at most `rounds` of them. -/
def search (range : Interval) : Nat → Int → Digits
  | 0, place => ⟨range.centre, place⟩
  | rounds + 1, place =>
      match gridPoint? range place with
      | some point => ⟨point, place⟩
      | none => search range rounds (place - 1)

/-- The shortest digits of the positive value `significand * 2 ^ exponent`. -/
def digits (format : Binary.Format) (significand : Nat) (exponent : Int) : Digits :=
  let bits : Int := exponent + (Nat.log2 significand + 1 : Nat)
  search (interval format significand exponent) 24 ((bits * 30103).fdiv 100000 + 1)

/-- How digits are laid out: positional notation from `leastPoint` leading
zeros to `greatestPoint` whole digits, and exponents otherwise. -/
structure Layout where
  leastPoint : Int
  greatestPoint : Int

private def zeros (count : Nat) : String := String.ofList (List.replicate count '0')

/-- Lay digits out.  Whole numbers keep `.0`; an exponent is written with its
sign only when it is negative. -/
def Layout.write (layout : Layout) (number : Digits) : String :=
  let row := toString number.digits
  let point : Int := row.length + number.exponent
  if 0 ≤ number.exponent ∧ point ≤ layout.greatestPoint then
    row ++ zeros number.exponent.toNat ++ ".0"
  else if 0 < point ∧ point ≤ layout.greatestPoint then
    String.ofList (row.toList.take point.toNat) ++ "." ++
      String.ofList (row.toList.drop point.toNat)
  else if layout.leastPoint < point ∧ point ≤ 0 then
    "0." ++ zeros (-point).toNat ++ row
  else
    let tail := String.ofList (row.toList.drop 1)
    let mantissa := String.ofList (row.toList.take 1) ++ (if tail = "" then "" else "." ++ tail)
    mantissa ++ "e" ++ toString (point - 1)

/-- The text of a finite value; `none` for infinities and missing numbers. -/
def text? (format : Binary.Format) (layout : Layout) : Binary.Value → Option String
  | .finite negative significand exponent =>
      let magnitude :=
        if significand = 0 then "0.0" else layout.write (digits format significand exponent)
      some (if negative then "-" ++ magnitude else magnitude)
  | _ => none

/-- 64-bit floats are positional from five places below the point to sixteen
above it. -/
def doubleLayout : Layout := ⟨-5, 16⟩

/-- 32-bit floats are positional from six places below the point to thirteen
above it. -/
def singleLayout : Layout := ⟨-6, 13⟩

/-- The shortest text of a finite 64-bit float. -/
def ofFloat? (number : Float) : Option String :=
  text? Binary.double doubleLayout (Binary.ofFloat number)

/-- The shortest text of a finite 32-bit float. -/
def ofFloat32? (number : Float32) : Option String :=
  text? Binary.single singleLayout (Binary.ofFloat32 number)

end TileAtlas.Shortest
