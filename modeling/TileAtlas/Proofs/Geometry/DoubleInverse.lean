import TileAtlas.Proofs.Geometry.Reference

/-!
Contract: the inverse of an inverse, in exact numbers.

Owns:
- `Affine.determinant_mul_determinant`: the determinants of a map and of its
  inverse are reciprocal;
- `Affine.inverse?_inverse`: a map comes back from its inverse, unless its
  determinant is so large that the one of the inverse counts as zero.
-/

namespace TileAtlas.Affine

variable {map inverse : Affine Rat}

theorem determinant_mul_determinant (isInverse : map.inverse? = some inverse) :
    map.determinant * inverse.determinant = 1 := by
  obtain ⟨reciprocal, regular, rfl⟩ := exists_reciprocal isInverse
  unfold determinant at regular ⊢
  show (map.c1 * map.c5 - map.c2 * map.c4) * (map.c5 * reciprocal * (map.c1 * reciprocal) -
    -map.c2 * reciprocal * (-map.c4 * reciprocal)) = 1
  linear_combination ((map.c1 * map.c5 - map.c2 * map.c4) * reciprocal + 1) * regular

/-- Inverting twice multiplies every coefficient by a determinant and by its
reciprocal. -/
theorem eq_of_inverse?_inverse {back : Affine Rat} (isInverse : map.inverse? = some inverse)
    (isBack : inverse.inverse? = some back) : back = map := by
  have product := determinant_mul_determinant isInverse
  obtain ⟨reciprocal, regular, isExplicit⟩ := exists_reciprocal isInverse
  obtain ⟨other, otherRegular, rfl⟩ := exists_reciprocal isBack
  -- the second reciprocal is the first determinant
  have isDeterminant : other = map.determinant := by
    calc other = map.determinant * inverse.determinant * other := by rw [product, one_mul]
      _ = map.determinant * (inverse.determinant * other) := mul_assoc _ _ _
      _ = map.determinant := by rw [otherRegular, mul_one]
  subst isDeterminant isExplicit
  obtain ⟨c0, c1, c2, c3, c4, c5⟩ := map
  unfold determinant at regular ⊢
  simp only [mk.injEq]
  refine ⟨?_, ?_, ?_, ?_, ?_, ?_⟩
  · linear_combination c0 * ((c1 * c5 - c2 * c4) * reciprocal + 1) * regular
  · linear_combination c1 * regular
  · linear_combination c2 * regular
  · linear_combination c3 * ((c1 * c5 - c2 * c4) * reciprocal + 1) * regular
  · linear_combination c4 * regular
  · linear_combination c5 * regular

theorem isSome_inverse?_inverse (isInverse : map.inverse? = some inverse) :
    inverse.inverse?.isSome ↔ |map.determinant| ≤ 1 / leastDeterminant := by
  have product : |map.determinant| * |inverse.determinant| = 1 := by
    rw [← abs_mul, determinant_mul_determinant isInverse, abs_one]
  have positive : (0 : Rat) < leastDeterminant := by decide +kernel
  have accepted : leastDeterminant ≤ |map.determinant| := isSome_inverse?_iff.mp (isInverse ▸ rfl)
  rw [isSome_inverse?_iff, le_div_iff₀ positive, ← product]
  exact (mul_le_mul_iff_right₀ (positive.trans_le accepted)).symm

/-- A map is inverted from the least determinant on, and its inverse gives it back
up to the reciprocal of that; beyond it the inverse is refused. -/
theorem inverse?_inverse (map : Affine Rat) :
    (map.inverse?.isSome ↔ leastDeterminant ≤ |map.c1 * map.c5 - map.c2 * map.c4|) ∧
      ∀ inverse, map.inverse? = some inverse →
        inverse.inverse? =
          if |map.c1 * map.c5 - map.c2 * map.c4| ≤ 1 / leastDeterminant then some map
          else none := by
  refine ⟨isSome_inverse?_iff, fun inverse isInverse => ?_⟩
  have accepted : inverse.inverse?.isSome ↔
      |map.c1 * map.c5 - map.c2 * map.c4| ≤ 1 / leastDeterminant :=
    isSome_inverse?_inverse isInverse
  split
  · next small =>
      obtain ⟨back, isBack⟩ := Option.isSome_iff_exists.mp (accepted.mpr small)
      rw [isBack, eq_of_inverse?_inverse isInverse isBack]
  · next large => exact Option.not_isSome_iff_eq_none.mp (mt accepted.mp large)

/-- A raster that is turned, sheared and mirrored. -/
theorem inverse?_inverse_mirrored :
    (⟨1000, 2, 1 / 2, -300, 1 / 4, 3⟩ : Affine Rat).inverse?.bind inverse? =
      some ⟨1000, 2, 1 / 2, -300, 1 / 4, 3⟩ := by
  obtain ⟨inverse, isInverse⟩ := Option.isSome_iff_exists.mp
    ((inverse?_inverse ⟨1000, 2, 1 / 2, -300, 1 / 4, 3⟩).1.mpr (by decide +kernel))
  rw [isInverse, Option.bind_some, (inverse?_inverse _).2 inverse isInverse, if_pos]
  decide +kernel

/-- Pixels so large that the determinant of the inverse counts as zero. -/
theorem inverse?_inverse_ne_some :
    (⟨2 ^ 27, 2 ^ 27, 0, 2 ^ 27, 0, -2 ^ 27⟩ : Affine Rat).inverse? =
        some ⟨-1, 1 / 2 ^ 27, 0, 1, 0, -1 / 2 ^ 27⟩ ∧
      (⟨-1, 1 / 2 ^ 27, 0, 1, 0, -1 / 2 ^ 27⟩ : Affine Rat).inverse? ≠
        some ⟨2 ^ 27, 2 ^ 27, 0, 2 ^ 27, 0, -2 ^ 27⟩ := by
  decide +kernel

end TileAtlas.Affine
