import Mathlib.Tactic.LinearCombination
import TileAtlas.Proofs.Geometry.Box
import TileAtlas.Proofs.Sequence

/-!
Contract: a raster's place in the world, in exact numbers.

Owns:
- `Affine.exists_reciprocal`, the coefficients of an inverse, and from them that
  it undoes the map on both sides;
- `Affine.isSmallest_worldBounds`: the bounds of four corners are those of the
  whole raster, however it is turned, sheared or mirrored;
- `GeoReference.ofAffine_isExact`: both for every map that is accepted, and which
  maps are accepted.
-/

namespace TileAtlas

/-! ## Inverses -/

namespace Affine

variable {map inverse : Affine Rat}

theorem isSome_inverse?_iff : map.inverse?.isSome ↔ leastDeterminant ≤ |map.determinant| := by
  rw [← Scalar.abs_rat, ← not_lt]
  unfold inverse?
  by_cases small : Scalar.abs map.determinant < leastDeterminant
  · simp [small]
  · simp [small]

/-- What is accepted is multiplied by a number that undoes its determinant. -/
theorem exists_reciprocal (isInverse : map.inverse? = some inverse) :
    ∃ reciprocal, map.determinant * reciprocal = 1 ∧ inverse =
      { c0 := (map.c2 * map.c3 - map.c0 * map.c5) * reciprocal
        c1 := map.c5 * reciprocal
        c2 := -map.c2 * reciprocal
        c3 := (-map.c1 * map.c3 + map.c0 * map.c4) * reciprocal
        c4 := -map.c4 * reciprocal
        c5 := map.c1 * reciprocal } := by
  have accepted : leastDeterminant ≤ |map.determinant| :=
    isSome_inverse?_iff.mp (isInverse ▸ rfl)
  have positive : (0 : Rat) < leastDeterminant := by decide +kernel
  have regular : map.determinant ≠ 0 := abs_pos.mp (positive.trans_le accepted)
  have one : (1.0 : Rat) = 1 := by norm_num
  refine ⟨1.0 / map.determinant, ?_, ?_⟩
  · rw [one, mul_one_div_cancel regular]
  · have large : ¬Scalar.abs map.determinant < leastDeterminant := by
      rw [Scalar.abs_rat]
      exact not_lt.mpr accepted
    unfold inverse? at isInverse
    exact (Option.some.inj ((if_neg large).symm.trans isInverse)).symm

theorem inverse_apply (isInverse : map.inverse? = some inverse) (x y : Rat) :
    inverse.apply (map.apply x y).1 (map.apply x y).2 = (x, y) := by
  obtain ⟨reciprocal, regular, rfl⟩ := exists_reciprocal isInverse
  unfold determinant at regular
  refine Prod.ext ?_ ?_
  · show (map.c2 * map.c3 - map.c0 * map.c5) * reciprocal +
      (map.c0 + x * map.c1 + y * map.c2) * (map.c5 * reciprocal) +
        (map.c3 + x * map.c4 + y * map.c5) * (-map.c2 * reciprocal) = x
    linear_combination x * regular
  · show (-map.c1 * map.c3 + map.c0 * map.c4) * reciprocal +
      (map.c0 + x * map.c1 + y * map.c2) * (-map.c4 * reciprocal) +
        (map.c3 + x * map.c4 + y * map.c5) * (map.c1 * reciprocal) = y
    linear_combination y * regular

theorem apply_inverse (isInverse : map.inverse? = some inverse) (x y : Rat) :
    map.apply (inverse.apply x y).1 (inverse.apply x y).2 = (x, y) := by
  obtain ⟨reciprocal, regular, rfl⟩ := exists_reciprocal isInverse
  unfold determinant at regular
  refine Prod.ext ?_ ?_
  · show map.c0 +
      ((map.c2 * map.c3 - map.c0 * map.c5) * reciprocal + x * (map.c5 * reciprocal) +
        y * (-map.c2 * reciprocal)) * map.c1 +
      ((-map.c1 * map.c3 + map.c0 * map.c4) * reciprocal + x * (-map.c4 * reciprocal) +
        y * (map.c1 * reciprocal)) * map.c2 = x
    linear_combination (x - map.c0) * regular
  · show map.c3 +
      ((map.c2 * map.c3 - map.c0 * map.c5) * reciprocal + x * (map.c5 * reciprocal) +
        y * (-map.c2 * reciprocal)) * map.c4 +
      ((-map.c1 * map.c3 + map.c0 * map.c4) * reciprocal + x * (-map.c4 * reciprocal) +
        y * (map.c1 * reciprocal)) * map.c5 = y
    linear_combination (y - map.c3) * regular

end Affine

/-! ## Bounds -/

/-- The positions of a raster, with all of its border. -/
def IsOnRaster (width height : Nat) (position : Rat × Rat) : Prop :=
  (0 ≤ position.1 ∧ position.1 ≤ width) ∧ 0 ≤ position.2 ∧ position.2 ≤ height

namespace Affine

variable (map : Affine Rat) (width height : Nat)

theorem isSmallest_corners :
    (map.worldBounds width height).IsSmallest fun point => point ∈ map.corners width height := by
  have finite (point : Rat × Rat) : Extent.IsFinitePoint point := ⟨rfl, rfl⟩
  have first : (Extent.ofPoint (map.apply 0.0 0.0).1 (map.apply 0.0 0.0).2).IsSmallest
      fun point => point = map.apply 0.0 0.0 :=
    Extent.isSmallest_ofPoint (OrderedScalar.isNumber_of_isFinite rfl)
      (OrderedScalar.isNumber_of_isFinite rfl)
  refine (first.foldl_stretch ⟨rfl, rfl, rfl, rfl⟩ fun point _ => finite point).congr
    fun point => or_iff_right_of_imp ?_
  rintro rfl
  exact List.mem_cons_self

/-- The bounds of the corners hold what lies between them. -/
theorem isSmallest_worldBounds :
    (map.worldBounds width height).IsSmallest fun point =>
      ∃ position, IsOnRaster width height position ∧ map.apply position.1 position.2 = point := by
  have corners := map.isSmallest_corners width height
  have zero : (0.0 : Rat) = 0 := by norm_num
  constructor
  · rintro _ ⟨position, isOn, rfl⟩
    obtain ⟨⟨afterWest, beforeEast⟩, afterNorth, beforeSouth⟩ := isOn
    have inside : (⟨0, 0, width, height⟩ : Extent Rat).contains position.1 position.2 :=
      Extent.contains_iff.mpr ⟨afterWest, beforeEast, afterNorth, beforeSouth⟩
    refine contains_apply inside ?_
    intro cornerX isX cornerY isY
    refine corners.holds _ ?_
    simp only [List.mem_cons, List.not_mem_nil, or_false] at isX isY
    unfold Affine.corners
    rw [zero]
    rcases isX with rfl | rfl <;> rcases isY with rfl | rfl <;> simp [Scalar.ofNat_rat]
  · intro other holds
    refine corners.within other fun point isCorner => holds point ?_
    simp only [Affine.corners, zero, List.mem_cons, List.not_mem_nil, or_false] at isCorner
    rcases isCorner with rfl | rfl | rfl | rfl
    · exact ⟨(0, 0), by simp [IsOnRaster], rfl⟩
    · exact ⟨(width, 0), by simp [IsOnRaster], rfl⟩
    · exact ⟨(0, height), by simp [IsOnRaster], rfl⟩
    · exact ⟨(width, height), by simp [IsOnRaster], rfl⟩

end Affine

/-! ## References -/

namespace GeoReference

/-- The reference goes both ways without loss, and the bounds that stand for a
raster are those of all of its positions. -/
structure IsExact (reference : GeoReference Rat) (map : Affine Rat) : Prop where
  forward : reference.forward = map
  toPixel_toWorld : ∀ x y,
    reference.toPixel (reference.toWorld x y).1 (reference.toWorld x y).2 = (x, y)
  toWorld_toPixel : ∀ x y,
    reference.toWorld (reference.toPixel x y).1 (reference.toPixel x y).2 = (x, y)
  bounds : ∀ width height, (reference.forward.worldBounds width height).IsSmallest fun point =>
    ∃ position, IsOnRaster width height position ∧
      reference.toWorld position.1 position.2 = point

/-- Every map whose determinant does not count as zero is accepted, and what is
accepted is exact. -/
theorem ofAffine_isExact (map : Affine Rat) (side : TransformSide) :
    ((ofAffine map side).isOk ↔ Affine.leastDeterminant ≤ |map.c1 * map.c5 - map.c2 * map.c4|) ∧
      ∀ reference, ofAffine map side = .ok reference → reference.IsExact map := by
  have accepted : map.inverse?.isSome ↔
      Affine.leastDeterminant ≤ |map.c1 * map.c5 - map.c2 * map.c4| := Affine.isSome_inverse?_iff
  rw [← accepted]
  cases isInverse : map.inverse? with
  | none =>
      have refused : ofAffine map side = .error (.singularTransform side) := by
        rw [ofAffine, isInverse]
      rw [refused]
      refine ⟨Iff.rfl, fun reference isReference => ?_⟩
      cases isReference
  | some inverse =>
      have built : ofAffine map side = .ok ⟨map, inverse⟩ := by
        rw [ofAffine, isInverse]
      rw [built]
      refine ⟨Iff.rfl, fun reference isReference => ?_⟩
      obtain rfl := Except.ok.inj isReference
      exact ⟨rfl, Affine.inverse_apply isInverse, Affine.apply_inverse isInverse,
        map.isSmallest_worldBounds⟩

/-- A raster that is turned, sheared and mirrored. -/
theorem ofAffine_isExact_mirrored :
    ∃ reference : GeoReference Rat,
      ofAffine ⟨1000, 2, 1 / 2, -300, 1 / 4, 3⟩ .source = .ok reference ∧
        reference.IsExact ⟨1000, 2, 1 / 2, -300, 1 / 4, 3⟩ := by
  have large : (ofAffine (⟨1000, 2, 1 / 2, -300, 1 / 4, 3⟩ : Affine Rat) .source).isOk := by
    decide +kernel
  obtain ⟨reference, accepted⟩ := exists_eq_ok large
  exact ⟨reference, accepted, (ofAffine_isExact _ _).2 reference accepted⟩

end GeoReference

end TileAtlas
