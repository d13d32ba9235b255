/-!
Contract: what a number says about the integers, and how such an answer is
brought into a machine range.

Owns:
- `Whole`, the result of rounding a number that may be no number at all;
- `Whole.saturate`, the only way from such a result to a bounded integer;
- the 64-bit and 32-bit bounds that pixel arithmetic saturates at.

Does not own: the rounding itself, which belongs to each number system.
-/

namespace TileAtlas

-- Powers of counts stay those of the core library where monoids are known, too.
attribute [instance (2000), default_instance (20000)] instPowNat

/-- The least signed 64-bit integer. -/
def int64Min : Int := -9223372036854775808

/-- The greatest signed 64-bit integer. -/
def int64Max : Int := 9223372036854775807

/-- The greatest unsigned 64-bit integer. -/
def word64Max : Nat := 18446744073709551615

/-- The greatest unsigned 32-bit integer. -/
def word32Max : Nat := 4294967295

/-- A number brought to an integer: it may be no number, it may lie beyond all
integers on either side, and otherwise it is an integer. -/
inductive Whole where
  | undefined
  | belowAll
  | aboveAll
  | integer (value : Int)
deriving DecidableEq, Repr, Inhabited

namespace Whole

def neg : Whole → Whole
  | .undefined => .undefined
  | .belowAll => .aboveAll
  | .aboveAll => .belowAll
  | .integer value => .integer (-value)

/-- Only a finite number has an integer beside it. -/
def isInteger : Whole → Bool
  | .integer _ => true
  | _ => false

/-- Bring the answer into `lower .. upper`: everything outside moves to the
nearer bound, and a missing number becomes `missing`. -/
def saturate (lower upper missing : Int) : Whole → Int
  | .undefined => missing
  | .belowAll => lower
  | .aboveAll => upper
  | .integer value => max lower (min value upper)

theorem lower_le_saturate {lower upper missing : Int} (ordered : lower ≤ upper)
    (inside : lower ≤ missing) (whole : Whole) :
    lower ≤ whole.saturate lower upper missing := by
  cases whole <;> simp only [saturate] <;> omega

theorem saturate_le_upper {lower upper missing : Int} (ordered : lower ≤ upper)
    (inside : missing ≤ upper) (whole : Whole) :
    whole.saturate lower upper missing ≤ upper := by
  cases whole <;> simp only [saturate] <;> omega

end Whole

/-- Signed 64-bit arithmetic stops at its bounds. -/
def saturateInt64 (value : Int) : Int := max int64Min (min value int64Max)

end TileAtlas
