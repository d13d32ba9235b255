import Mathlib.Data.Prod.Lex
import TileAtlas.Proofs.Number.Exact
import TileAtlas.Proofs.Number.Finite

/-!
Contract: comparisons of numbers, in floats as in exact numbers.

Owns:
- `OrderedScalar`, the number systems whose numbers lie on a line, with the
  exact numbers and the floats among them;
- `Binary.compare_eq_some`: floats that are numbers are compared by their `rank`;
- `Binary.not_ge_iff`, what is left if one float is not at most another;
- minima and maxima of numbers, which are bounds of both operands and no worse
  than any other bound.

Does not own: arithmetic.  Floats are ordered as exact numbers are, but their
sums and products are not.
-/

namespace TileAtlas

open Scalar

/-- A number system whose numbers lie on a line.  Nothing is said of missing
numbers, but that what is finite is a number. -/
class OrderedScalar (α : Type) [Scalar α] : Prop where
  total {left right : α} : isNumber left → isNumber right → left ≤ right ∨ right ≤ left
  trans {first second third : α} : first ≤ second → second ≤ third → first ≤ third
  lt_iff {left right : α} : isNumber left → isNumber right → (left < right ↔ ¬right ≤ left)
  isNumber_of_isFinite {value : α} : isFinite value → isNumber value

instance : OrderedScalar Rat where
  total _ _ := le_total _ _
  trans := le_trans
  lt_iff _ _ := lt_iff_not_ge
  isNumber_of_isFinite _ := decide_eq_true le_rfl

/-! ## Floats -/

namespace Binary

open Float.Model

/-- Where a number lies on the line: its side first, and on one side its
exponent before its significand. -/
def rank : UnpackedFloat → Int ×ₗ Int ×ₗ Int
  | .notANumber => toLex (0, toLex (0, 0))
  | .infinity .negative => toLex (-2, toLex (0, 0))
  | .finite .negative significand exponent _ => toLex (-1, toLex (-exponent, -significand))
  | .zero _ => toLex (0, toLex (0, 0))
  | .finite .positive significand exponent _ => toLex (1, toLex (exponent, significand))
  | .infinity .positive => toLex (2, toLex (0, 0))

theorem compare_then (exponent place : Int) (significand digits : Nat) :
    (compare exponent place).then (compare significand digits) =
      if exponent < place ∨ exponent = place ∧ significand < digits then .lt
      else if exponent = place ∧ significand = digits then .eq else .gt := by
  rcases lt_trichotomy exponent place with less | rfl | greater
  · rw [compare_lt_iff_lt.mpr less, if_pos (.inl less)]
    rfl
  · rw [compare_eq_iff_eq.mpr rfl]
    show compareOfLessAndEq significand digits = _
    simp [compareOfLessAndEq]
  · rw [compare_gt_iff_gt.mpr greater, if_neg (by omega), if_neg (by omega)]
    rfl

section Compare

variable {left right : UnpackedFloat}

theorem compare_eq_some (isNumber : left ≠ .notANumber) (isOther : right ≠ .notANumber) :
    left.compare right = some (compareOfLessAndEq (rank left) (rank right)) := by
  cases left with
  | notANumber => exact absurd rfl isNumber
  | infinity sign =>
      cases right with
      | notANumber => exact absurd rfl isOther
      | infinity other => cases sign <;> cases other <;> decide
      | zero other => cases sign <;> rfl
      | finite other =>
          cases sign <;> cases other <;>
            simp [UnpackedFloat.compare, rank, compareOfLessAndEq, Prod.Lex.toLex_lt_toLex]
  | zero sign =>
      cases right with
      | notANumber => exact absurd rfl isOther
      | infinity other => cases other <;> rfl
      | zero other => rfl
      | finite other =>
          cases other <;>
            simp [UnpackedFloat.compare, rank, compareOfLessAndEq, Prod.Lex.toLex_lt_toLex]
  | finite sign significand exponent =>
      cases right with
      | notANumber => exact absurd rfl isOther
      | infinity other =>
          cases sign <;> cases other <;>
            simp [UnpackedFloat.compare, rank, compareOfLessAndEq, Prod.Lex.toLex_lt_toLex]
      | zero other =>
          cases sign <;>
            simp [UnpackedFloat.compare, rank, compareOfLessAndEq, Prod.Lex.toLex_lt_toLex]
      | finite other digits place =>
          cases sign <;> cases other
          · -- below zero the larger magnitude comes first
            have mirrored : ((compare exponent place).then (compare significand digits)).swap =
                (compare place exponent).then (compare digits significand) := by
              rw [Ordering.swap_then, Int.compare_swap, Nat.compare_swap]
            show some ((compare exponent place).then (compare significand digits)).swap = _
            rw [mirrored, compare_then]
            simp [rank, compareOfLessAndEq, Prod.Lex.toLex_lt_toLex, eq_comm]
          · rfl
          · rfl
          · simp [UnpackedFloat.compare, rank, compareOfLessAndEq, Prod.Lex.toLex_lt_toLex,
              compare_then]

theorem le_iff_rank (isNumber : left ≠ .notANumber) (isOther : right ≠ .notANumber) :
    left.le right = true ↔ rank left ≤ rank right := by
  unfold UnpackedFloat.le
  rw [compare_eq_some isNumber isOther]
  rcases lt_trichotomy (rank left) (rank right) with less | same | greater
  · simp [compareOfLessAndEq, less, less.le]
  · simp [compareOfLessAndEq, same]
  · simp [compareOfLessAndEq, greater.not_gt, greater.ne', greater]

theorem lt_iff_rank (isNumber : left ≠ .notANumber) (isOther : right ≠ .notANumber) :
    left.lt right = true ↔ rank left < rank right := by
  unfold UnpackedFloat.lt
  rw [compare_eq_some isNumber isOther, beq_iff_eq, Option.some_inj]
  exact compareOfLessAndEq_eq_lt

theorem ne_notANumber_of_le (ordered : left.le right = true) :
    left ≠ .notANumber ∧ right ≠ .notANumber := by
  constructor
  · rintro rfl
    cases ordered
  · rintro rfl
    cases left <;> cases ordered

end Compare

theorem isNumber_iff {number : Float} :
    isNumber number ↔ number.toModel.unpack ≠ .notANumber := by
  unfold isNumber
  rw [decide_eq_true_iff, le_iff_unpack]
  exact ⟨fun ordered => (ne_notANumber_of_le ordered).1,
    fun isNumber => (le_iff_rank isNumber isNumber).mpr le_rfl⟩

theorem isFinite_iff {number : Float} :
    isFinite number ↔ number.toModel.unpack.isFinite = true := by
  show (Value.floor (ofFloat number)).isInteger = true ↔ _
  rw [ofFloat_eq_valueOf]
  cases number.toModel.unpack with
  | notANumber => exact Iff.rfl
  | infinity sign => cases sign <;> exact Iff.rfl
  | zero sign => exact Iff.rfl
  | finite sign significand exponent positive => exact Iff.rfl

theorem ne_notANumber_of_isFinite {number : Float} (finite : isFinite number) :
    number.toModel.unpack ≠ .notANumber := by
  rw [isFinite_iff] at finite
  intro missing
  rw [missing] at finite
  cases finite

/-- What is finite lies between the infinities. -/
theorem lt_infinity {number : Float} (finite : isFinite number) :
    -(1.0 / 0.0) < number ∧ number < 1.0 / 0.0 := by
  have greatest : (1.0 / 0.0 : Float).toModel.unpack = .infinity .positive := rfl
  have least : (-(1.0 / 0.0) : Float).toModel.unpack = .infinity .negative := rfl
  rw [lt_iff_unpack, lt_iff_unpack, greatest, least]
  rw [isFinite_iff] at finite
  cases taken : number.toModel.unpack with
  | notANumber => rw [taken] at finite; cases finite
  | infinity sign => rw [taken] at finite; cases finite
  | zero sign => exact ⟨rfl, rfl⟩
  | finite sign significand exponent positive => exact ⟨by cases sign <;> rfl, by cases sign <;> rfl⟩

end Binary

open Binary in
instance : OrderedScalar Float where
  total := by
    intro left right isNumber isOther
    rw [isNumber_iff] at isNumber isOther
    rw [le_iff_unpack, le_iff_unpack, le_iff_rank isNumber isOther, le_iff_rank isOther isNumber]
    exact le_total _ _
  trans := by
    intro first second third before after
    rw [le_iff_unpack] at before after ⊢
    obtain ⟨isFirst, isSecond⟩ := ne_notANumber_of_le before
    have isThird := (ne_notANumber_of_le after).2
    rw [le_iff_rank isFirst isSecond] at before
    rw [le_iff_rank isSecond isThird] at after
    exact (le_iff_rank isFirst isThird).mpr (before.trans after)
  lt_iff := by
    intro left right isNumber isOther
    rw [isNumber_iff] at isNumber isOther
    rw [le_iff_unpack, lt_iff_unpack, le_iff_rank isOther isNumber, lt_iff_rank isNumber isOther]
    exact lt_iff_not_ge
  isNumber_of_isFinite := by
    intro value finite
    exact isNumber_iff.mpr (ne_notANumber_of_isFinite finite)

namespace Binary

theorem IsMissing.not_le {number : Float} (missing : IsMissing number) (other : Float) :
    ¬number ≤ other := by
  rw [le_iff_unpack, missing]
  exact fun ordered => (ne_notANumber_of_le ordered).1 rfl

theorem IsMissing.not_ge {number : Float} (missing : IsMissing number) (other : Float) :
    ¬other ≤ number := by
  rw [le_iff_unpack, missing]
  exact fun ordered => (ne_notANumber_of_le ordered).2 rfl

/-- What is not in reverse order is in order, unless a number is missing. -/
theorem not_ge_iff {low high : Float} :
    ¬high ≤ low ↔ low < high ∨ IsMissing low ∨ IsMissing high := by
  by_cases lowMissing : IsMissing low
  · exact iff_of_true (lowMissing.not_ge high) (.inr (.inl lowMissing))
  · by_cases highMissing : IsMissing high
    · exact iff_of_true (highMissing.not_le low) (.inr (.inr highMissing))
    · have ordered := OrderedScalar.lt_iff (isNumber_iff.mpr lowMissing)
        (isNumber_iff.mpr highMissing)
      rw [← ordered, or_iff_left (not_or.mpr ⟨lowMissing, highMissing⟩)]

end Binary

/-! ## Minima and maxima -/

namespace Scalar

variable {α : Type} [Scalar α] {left right bound : α}

theorem smaller_eq_or (left right : α) : smaller left right = left ∨ smaller left right = right := by
  unfold smaller
  split
  · split
    · exact .inr rfl
    · exact .inl rfl
  · exact .inr rfl

theorem larger_eq_or (left right : α) : larger left right = left ∨ larger left right = right := by
  unfold larger
  split
  · split
    · exact .inr rfl
    · exact .inl rfl
  · exact .inr rfl

theorem le_smaller (below : bound ≤ left) (belowOther : bound ≤ right) :
    bound ≤ smaller left right := by
  rcases smaller_eq_or left right with same | same <;> rw [same] <;> assumption

theorem larger_le (above : left ≤ bound) (aboveOther : right ≤ bound) :
    larger left right ≤ bound := by
  rcases larger_eq_or left right with same | same <;> rw [same] <;> assumption

variable [OrderedScalar α]

theorem smaller_le (isNumber : isNumber left) (isOther : Scalar.isNumber right) :
    smaller left right ≤ left ∧ smaller left right ≤ right := by
  unfold smaller
  rw [if_pos isNumber]
  by_cases less : right < left
  · rw [if_pos less]
    have notAbove := (OrderedScalar.lt_iff isOther isNumber).mp less
    exact ⟨(OrderedScalar.total isNumber isOther).resolve_left notAbove, of_decide_eq_true isOther⟩
  · rw [if_neg less]
    rw [OrderedScalar.lt_iff isOther isNumber, not_not] at less
    exact ⟨of_decide_eq_true isNumber, less⟩

theorem le_larger (isNumber : isNumber left) (isOther : Scalar.isNumber right) :
    left ≤ larger left right ∧ right ≤ larger left right := by
  unfold larger
  rw [if_pos isNumber]
  by_cases less : left < right
  · rw [if_pos less]
    have notAbove := (OrderedScalar.lt_iff isNumber isOther).mp less
    exact ⟨(OrderedScalar.total isNumber isOther).resolve_right notAbove, of_decide_eq_true isOther⟩
  · rw [if_neg less]
    rw [OrderedScalar.lt_iff isNumber isOther, not_not] at less
    exact ⟨of_decide_eq_true isNumber, less⟩

end Scalar

end TileAtlas
