import TileAtlas.Proofs.Number.Double

/-!
Contract: finite values, and how missing numbers spread.

Owns:
- `Binary.Value.IsFinite`;
- `Binary.IsMissing` and its laws: what is computed with a missing number is
  missing, and no comparison with one holds.
-/

namespace TileAtlas.Binary

/-- The value is a number, and not an infinite one. -/
def Value.IsFinite : Value → Prop
  | .finite _ _ _ => True
  | _ => False

instance (value : Value) : Decidable value.IsFinite :=
  match value with
  | .finite _ _ _ => .isTrue trivial
  | .infinite _ => .isFalse id
  | .nan => .isFalse id

/-- The float is no number. -/
def IsMissing (number : Float) : Prop := number.toModel.unpack = .notANumber

namespace IsMissing

open Float.Model

variable {number : Float}

theorem not_isFinite (missing : IsMissing number) : ¬(ofFloat number).IsFinite := by
  rw [ofFloat_eq_valueOf, missing]
  exact id

theorem add_left (missing : IsMissing number) (other : Float) : IsMissing (other + number) := by
  show (pack (UnpackedFloat.add .binary64 other.toModel.unpack number.toModel.unpack)).unpack = _
  rw [missing]
  cases other.toModel.unpack <;> simp only [UnpackedFloat.add] <;> rfl

theorem add_right (missing : IsMissing number) (other : Float) : IsMissing (number + other) := by
  show (pack (UnpackedFloat.add .binary64 number.toModel.unpack other.toModel.unpack)).unpack = _
  rw [missing]
  cases other.toModel.unpack <;> simp only [UnpackedFloat.add] <;> rfl

theorem mul_left (missing : IsMissing number) (other : Float) : IsMissing (other * number) := by
  show (pack (UnpackedFloat.mul .binary64 other.toModel.unpack number.toModel.unpack)).unpack = _
  rw [missing]
  cases other.toModel.unpack <;> simp only [UnpackedFloat.mul] <;> rfl

theorem mul_right (missing : IsMissing number) (other : Float) : IsMissing (number * other) := by
  show (pack (UnpackedFloat.mul .binary64 number.toModel.unpack other.toModel.unpack)).unpack = _
  rw [missing]
  cases other.toModel.unpack <;> simp only [UnpackedFloat.mul] <;> rfl

theorem sub_right (missing : IsMissing number) (other : Float) : IsMissing (number - other) := by
  show (pack (UnpackedFloat.sub .binary64 number.toModel.unpack other.toModel.unpack)).unpack = _
  rw [missing]
  cases other.toModel.unpack <;> simp only [UnpackedFloat.sub] <;> rfl

theorem not_lt (missing : IsMissing number) (other : Float) : ¬number < other := by
  rw [lt_iff_unpack, missing]
  cases other.toModel.unpack <;> simp [UnpackedFloat.lt, UnpackedFloat.compare]

theorem not_gt (missing : IsMissing number) (other : Float) : ¬other < number := by
  rw [lt_iff_unpack, missing]
  cases other.toModel.unpack <;> simp [UnpackedFloat.lt, UnpackedFloat.compare]

/-- A missing number does not take part in a minimum. -/
theorem smaller_eq (missing : IsMissing number) {other : Float} (isNumber : Scalar.isNumber other) :
    Scalar.smaller other number = other := by
  rw [Scalar.smaller, if_pos isNumber, if_neg (missing.not_lt other)]

/-- A missing number does not take part in a maximum. -/
theorem larger_eq (missing : IsMissing number) {other : Float} (isNumber : Scalar.isNumber other) :
    Scalar.larger other number = other := by
  rw [Scalar.larger, if_pos isNumber, if_neg (missing.not_gt other)]

end IsMissing

end TileAtlas.Binary
