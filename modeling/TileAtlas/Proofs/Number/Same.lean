import TileAtlas.Proofs.Number.Finite

/-!
Contract: floats that are the same number.

Owns:
- `Binary.IsSame`, equal floats, and any two that are no number;
- the difference of two that are the same: zero if they are finite, and no
  number otherwise;
- `decode_eq_nan_of_isNaN`: a word that is read as no number stands for none.
-/

namespace TileAtlas.Binary

open Float.Model

/-- Two floats are equal, or both are no number. -/
def IsSame (left right : Float) : Prop := left == right ∨ left.isNaN ∧ right.isNaN

theorem isMissing_iff_isNaN {number : Float} : IsMissing number ↔ number.isNaN = true := by
  show number.toModel.unpack = _ ↔ number.toModel.unpack.isNaN = true
  cases number.toModel.unpack <;> simp [UnpackedFloat.isNaN]

/-! ## Parts -/

section Parts

variable {left right : UnpackedFloat}

theorem isNaN_of_beq (same : left.beq right = true) :
    left.isNaN = false ∧ right.isNaN = false := by
  cases left <;> cases right <;>
    simp_all [UnpackedFloat.beq, UnpackedFloat.compare, UnpackedFloat.isNaN]

theorem le_of_beq (same : left.beq right = true) : left.le right = true := by
  unfold UnpackedFloat.beq at same
  unfold UnpackedFloat.le
  rw [beq_iff_eq.mp same]
  rfl

/-- Only the two zeros are equal without being one. -/
theorem eq_or_zero_of_beq (same : left.beq right = true) :
    left = right ∨ ∃ first second, left = .zero first ∧ right = .zero second := by
  have ordered {exponent other : Int} {significand rest : Nat}
      (equal : (compare exponent other).then (compare significand rest) = .eq) :
      exponent = other ∧ significand = rest := by
    rw [Ordering.then_eq_eq] at equal
    exact ⟨compare_eq_iff_eq.mp equal.1, compare_eq_iff_eq.mp equal.2⟩
  unfold UnpackedFloat.beq at same
  rw [beq_iff_eq] at same
  cases left with
  | notANumber => cases same
  | infinity sign =>
      cases right with
      | notANumber => cases same
      | infinity other =>
          refine .inl ?_
          cases sign <;> cases other <;> first | rfl | cases same
      | zero other => cases sign <;> cases same
      | finite other => cases sign <;> cases same
  | zero sign =>
      cases right with
      | notANumber => cases same
      | infinity other => cases other <;> cases same
      | zero other => exact .inr ⟨_, _, rfl, rfl⟩
      | finite other => cases other <;> cases same
  | finite sign significand exponent positive =>
      cases right with
      | notANumber => cases same
      | infinity other => cases other <;> cases same
      | zero other => cases sign <;> cases same
      | finite other rest place restPositive =>
          refine .inl ?_
          cases sign <;> cases other
          · obtain ⟨rfl, rfl⟩ := ordered (Ordering.swap_eq_eq.mp (Option.some.inj same))
            rfl
          · cases same
          · cases same
          · obtain ⟨rfl, rfl⟩ := ordered (Option.some.inj same)
            rfl

/-- Equal numbers have a difference of zero if they are finite, and none if they
are not. -/
theorem sub_of_beq (same : left.beq right = true) :
    if right.isFinite then ∃ sign, UnpackedFloat.sub .binary64 left right = .zero sign
    else UnpackedFloat.sub .binary64 left right = .notANumber := by
  cases eq_or_zero_of_beq same with
  | inl equal =>
      subst equal
      cases left with
      | notANumber => rfl
      | infinity sign => cases sign <;> rfl
      | zero sign => cases sign <;> exact ⟨_, rfl⟩
      | finite sign significand exponent positive =>
          refine ⟨.positive, ?_⟩
          simp only [UnpackedFloat.sub, Int.sub_self, UnpackedFloat.normalize]
          rfl
  | inr zeros =>
      obtain ⟨first, second, rfl, rfl⟩ := zeros
      cases first <;> cases second <;> exact ⟨_, rfl⟩

/-- Packing changes the words of missing numbers only. -/
theorem unpack_of_repacked {bits : BitVec Format.binary64.numBits}
    (repacked : UnpackedFloat.unpack .binary64
      (UnpackedFloat.pack .binary64 (UnpackedFloat.unpack .binary64 bits)) = .notANumber) :
    UnpackedFloat.unpack .binary64 bits = .notANumber := by
  by_cases noNumber : UnpackedFloat.isNaNBits bits = true
  · obtain ⟨exponent, fraction⟩ := of_decide_eq_true noNumber
    unfold UnpackedFloat.unpack
    rw [if_pos exponent, if_neg fraction]
  · have packed := UnpackedFloat.pack_unpack bits
    rw [if_neg noNumber] at packed
    rwa [packed] at repacked

end Parts

/-! ## Floats -/

section Floats

variable {left right bound : Float}

theorem IsMissing.abs {number : Float} (missing : IsMissing number) : IsMissing number.abs := by
  show (pack number.toModel.unpack.abs).unpack = _
  rw [missing]
  rfl

theorem isMissing_of_sub (missing : UnpackedFloat.sub .binary64 left.toModel.unpack
    right.toModel.unpack = .notANumber) : IsMissing (left - right) := by
  show (pack (UnpackedFloat.sub .binary64 left.toModel.unpack right.toModel.unpack)).unpack = _
  rw [missing]
  rfl

theorem abs_sub_of_zero {sign : UnpackedFloat.Sign} (vanishes : UnpackedFloat.sub .binary64
    left.toModel.unpack right.toModel.unpack = .zero sign) :
    (left - right).abs.toModel.unpack = .zero .positive := by
  show (pack (pack (UnpackedFloat.sub .binary64 left.toModel.unpack
    right.toModel.unpack)).unpack.abs).unpack = _
  rw [vanishes]
  cases sign <;> rfl

theorem isFinite_of_isNaN {number : Float} (missing : number.isNaN = true) :
    number.isFinite = false := by
  show number.toModel.unpack.isFinite = false
  rw [isMissing_iff_isNaN.mpr missing]
  rfl

/-- The difference of two floats that are the same is below a positive bound
exactly if they are finite. -/
theorem IsSame.abs_sub_lt_iff (same : IsSame left right) (positive : 0.0 < bound) :
    (left - right).abs < bound ↔ right.isFinite = true := by
  cases same with
  | inl equal =>
      have difference := @sub_of_beq left.toModel.unpack right.toModel.unpack equal
      by_cases finite : right.toModel.unpack.isFinite = true
      · rw [if_pos finite] at difference
        obtain ⟨sign, vanishes⟩ := difference
        refine iff_of_true ?_ finite
        rwa [lt_iff_unpack, abs_sub_of_zero vanishes, ← unpack_zero, ← lt_iff_unpack]
      · rw [if_neg finite] at difference
        exact iff_of_false ((isMissing_of_sub difference).abs.not_lt bound) finite
  | inr missing =>
      have noDifference := (isMissing_iff_isNaN.mpr missing.1).sub_right right
      refine iff_of_false (noDifference.abs.not_lt bound) ?_
      exact Bool.eq_false_iff.mp (isFinite_of_isNaN missing.2)

theorem IsSame.isNaN_iff (same : IsSame left right) : left.isNaN = true ↔ right.isNaN = true := by
  cases same with
  | inl equal =>
      obtain ⟨leftNumber, rightNumber⟩ := isNaN_of_beq equal
      exact iff_of_false (Bool.eq_false_iff.mp leftNumber) (Bool.eq_false_iff.mp rightNumber)
  | inr missing => exact iff_of_true missing.1 missing.2

/-- The one is at most the other unless they are no number. -/
theorem IsSame.le_iff (same : IsSame left right) : left ≤ right ↔ right.isNaN = false := by
  cases same with
  | inl equal =>
      exact iff_of_true (le_iff_unpack.mpr (le_of_beq equal)) (isNaN_of_beq equal).2
  | inr missing =>
      rw [missing.2, le_iff_unpack, isMissing_iff_isNaN.mpr missing.1]
      simp [UnpackedFloat.le, UnpackedFloat.compare]

/-- Reading a word makes a missing number of those words only that stand for
one. -/
theorem decode_eq_nan_of_isNaN {word : UInt64} (missing : (Float.ofBits word).isNaN = true) :
    decode double word.toNat = .nan := by
  have read : (Float.ofBits word).toModel.unpack = .notANumber := isMissing_iff_isNaN.mpr missing
  have taken : UnpackedFloat.unpack .binary64 word.toBitVec = .notANumber := by
    apply unpack_of_repacked
    exact read
  exact (valueOf_unpack word.toBitVec).symm.trans (congrArg valueOf taken)

end Floats

end TileAtlas.Binary
