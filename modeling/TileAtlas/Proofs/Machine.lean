import TileAtlas.Machine

/-!
Contract: which products can be counted, and memory to try things out in.

Owns:
- the outcomes of `Count.times` by the exact product;
- `Allocator.ample`, which grants every buffer that anybody could hold.
-/

namespace TileAtlas

namespace Count

variable {left right : Nat}

theorem times_eq_ok_iff {product : Nat} :
    times left right = .ok product ↔ product = left * right ∧ left * right ≤ word64Max := by
  unfold times
  split
  next fits => simp [fits, eq_comm]
  next large => simp [large]

theorem times_of_le (fits : left * right ≤ word64Max) : times left right = .ok (left * right) :=
  if_pos fits

theorem times_of_lt (large : word64Max < left * right) : times left right = .error .overflow :=
  if_neg (Nat.not_le_of_lt large)

end Count

namespace Allocator

/-- Memory for every buffer that can be held. -/
scoped instance ample : Allocator where
  grants length := decide ((length : Int) ≤ int64Max)
  grants_le _ granted := of_decide_eq_true granted

end Allocator

end TileAtlas
