import TileAtlas.Number.Binary

/-!
Contract: the arithmetic that positions, extents and resolutions are computed
with.

Owns:
- `Scalar`, the operations that geometry needs of a number system;
- the instance for 64-bit floats, which the program runs on;
- the derived comparisons, minima and roundings, in which a missing number
  never counts as an answer.

Does not own: any law.  Geometry is written over `Scalar`, so what it computes
with exact numbers can be stated beside what it computes with floats.
-/

namespace TileAtlas

/-- A number system for positions. -/
class Scalar (α : Type) extends
    Add α, Sub α, Mul α, Div α, Neg α, LT α, LE α, OfScientific α where
  decidableLess : DecidableLT α
  decidableAtMost : DecidableLE α
  ofInt : Int → α
  abs : α → α
  /-- The greatest integer that is not above the number. -/
  floor : α → Whole

attribute [reducible, instance] Scalar.decidableLess Scalar.decidableAtMost

instance : Scalar Float where
  decidableLess := inferInstance
  decidableAtMost := inferInstance
  ofInt := Float.ofInt
  abs := Float.abs
  floor number := (Binary.ofFloat number).floor

namespace Scalar

variable {α : Type} [Scalar α]

@[inline] def ofNat (count : Nat) : α := ofInt count

/-- A missing number is the only one that is not at most itself. -/
@[inline] def isNumber (value : α) : Bool := decide (value ≤ value)

@[inline] def isFinite (value : α) : Bool := (floor value).isInteger

/-- The least integer that is not below the number. -/
@[inline] def ceil (value : α) : Whole := (floor (-value)).neg

@[inline] def truncate (value : α) : Whole := if value < 0.0 then ceil value else floor value

/-- The smaller of two numbers; a missing one gives way to the other. -/
@[inline] def smaller (left right : α) : α :=
  if isNumber left then if right < left then right else left else right

/-- The larger of two numbers; a missing one gives way to the other. -/
@[inline] def larger (left right : α) : α :=
  if isNumber left then if left < right then right else left else right

@[inline] def clamp (value lower upper : α) : α :=
  let raised := if value < lower then lower else value
  if upper < raised then upper else raised

/-- The floor as a pixel index: a missing number lies before the first pixel,
and all others saturate at 64 bits. -/
def floorToPixel (value : α) : Int := (floor value).saturate int64Min int64Max (-1)

/-- The integer part as a signed 64-bit number; a missing number is zero. -/
def truncateToInt64 (value : α) : Int := (truncate value).saturate int64Min int64Max 0

/-- The floor as a signed 64-bit number; a missing number is zero. -/
def floorToInt64 (value : α) : Int := (floor value).saturate int64Min int64Max 0

/-- The ceiling as a signed 64-bit number; a missing number is zero. -/
def ceilToInt64 (value : α) : Int := (ceil value).saturate int64Min int64Max 0

/-- The integer part as an unsigned 64-bit number, nothing below zero. -/
def truncateToCount (value : α) : Nat := ((truncate value).saturate 0 word64Max 0).toNat

/-- The integer part as a pixel count, which is at least one. -/
def pixelCount (value : α) : Nat :=
  if 1.0 ≤ value then truncateToCount value else 1

/-- Bring a pixel position into `0 .. count - 1`; a missing number goes to the
first pixel. -/
def clampToPixels (value : α) (count : Nat) : α :=
  if isNumber value then clamp value 0.0 (ofNat (count - 1)) else 0.0

end Scalar

/-- The place of pixel `(x, y)` in a row-major buffer, if it lies inside. -/
def pixelIndex? (x y : Int) (width height : Nat) : Option Nat :=
  if 0 ≤ x ∧ 0 ≤ y ∧ x < width ∧ y < height then some (y.toNat * width + x.toNat) else none

end TileAtlas
