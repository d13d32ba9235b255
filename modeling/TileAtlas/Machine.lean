import TileAtlas.Error

/-!
Contract: what the machine sets limits to.

Owns:
- `Count.times`, products of counts that have to fit 64 bits;
- `Allocator`, which buffers there is memory for.

Sizes are multiplied with a check, and a product that does not fit stops the
program.  Positions inside what was counted are below its size, so they are
computed without one.
-/

namespace TileAtlas

/-- A product of counts. -/
def Count.times (left right : Nat) : Except Error Nat :=
  if left * right ≤ word64Max then .ok (left * right) else .error .overflow

/-- The memory that buffers are reserved from. -/
class Allocator where
  /-- Whether there is room for so many bytes. -/
  grants : Nat → Bool
  /-- No buffer is longer than the greatest signed 64-bit integer. -/
  grants_le : ∀ length, grants length = true → (length : Int) ≤ int64Max

end TileAtlas
