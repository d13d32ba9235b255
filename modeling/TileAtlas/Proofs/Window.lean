import TileAtlas.Window

/-!
Contract: where windows lie.

Owns:
- `SourceWindow.IsInside`, a window that can be read: not empty, short of the
  raster's right and lower borders, with a buffer of at least one pixel;
- `resolve_eq_window`, what a resolved window is made of;
- `isInside_of_resolve`, in every number system whose pixel counts are positive.

Does not own: which positions a window holds.  That takes exact numbers.
-/

namespace TileAtlas

namespace SourceWindow

variable {α : Type} [Scalar α]

/-- The window is not empty, ends a pixel before the raster does, and is spread
over at least one pixel. -/
structure IsInside (window : SourceWindow α) (sourceWidth sourceHeight : Nat) : Prop where
  one_le_width : 1 ≤ window.region.width
  one_le_height : 1 ≤ window.region.height
  right_le : window.region.xOff + window.region.width ≤ sourceWidth - 1
  bottom_le : window.region.yOff + window.region.height ≤ sourceHeight - 1
  one_le_workWidth : 1 ≤ window.workWidth
  one_le_workHeight : 1 ≤ window.workHeight

omit [Scalar α] in
theorem IsInside.fits {window : SourceWindow α} {sourceWidth sourceHeight : Nat}
    (inside : window.IsInside sourceWidth sourceHeight) :
    window.region.Fits sourceWidth sourceHeight := by
  obtain ⟨wide, high, right, bottom, -, -⟩ := inside
  exact ⟨wide, high, by omega, by omega⟩

/-! ## One axis -/

theorem zero_le_cut (least greatest : α) (count : Nat) : 0 ≤ (cut least greatest count).1 :=
  Int.le_max_left 0 _

/-- A cut ends a pixel before the raster does, also where the 64-bit sums
saturate. -/
theorem cut_end_le (least greatest : α) (count : Nat) :
    (cut least greatest count).1 + (cut least greatest count).2 ≤ count - 1 := by
  unfold cut
  simp only
  generalize max 0 (min (Scalar.truncateToInt64 least) _) = offset
  generalize saturateInt64 (saturateInt64 (Scalar.truncateToInt64 greatest - offset) + 1) = length
  by_cases long : min (count : Int) int64Max - 1 < saturateInt64 (offset + length)
  · rw [if_pos long]
    omega
  · rw [if_neg long]
    unfold saturateInt64 int64Min int64Max at long
    omega

/-! ## Both axes -/

/-- What a resolved window is made of: the extent that the tile needs, the
raster positions of its corners, and their cut along both axes. -/
theorem resolve_eq_window {source : GeoReference α} {sourceWidth sourceHeight : Nat} {quality : α}
    {destination : Affine α} {back : PointMap α} {tileWidth tileHeight : Nat}
    {window : SourceWindow α}
    (resolved : resolve source sourceWidth sourceHeight quality destination back tileWidth
      tileHeight = .window window) :
    ∃ needed pixels,
      borderExtent destination back tileWidth tileHeight = some needed ∧
        Extent.cover (cornerPixels source needed) = some pixels ∧
        0 < (cut pixels.minX pixels.maxX sourceWidth).2 ∧
        0 < (cut pixels.minY pixels.maxY sourceHeight).2 ∧
        window = ofRegion
          ⟨(cut pixels.minX pixels.maxX sourceWidth).1.toNat,
            (cut pixels.minY pixels.maxY sourceHeight).1.toNat,
            (cut pixels.minX pixels.maxX sourceWidth).2.toNat,
            (cut pixels.minY pixels.maxY sourceHeight).2.toNat⟩
          quality tileWidth tileHeight := by
  unfold resolve at resolved
  split at resolved
  · cases resolved
  · next needed bordered =>
      split at resolved
      · unfold forExtent at resolved
        split at resolved
        · cases resolved
        · next pixels covered =>
            simp only at resolved
            split at resolved
            · cases resolved
            · next kept =>
                cases resolved
                exact ⟨needed, pixels, bordered, covered, by omega, by omega, rfl⟩
      · cases resolved

theorem isInside_of_resolve (counts : ∀ value : α, 1 ≤ Scalar.pixelCount value)
    {source : GeoReference α} {sourceWidth sourceHeight : Nat} {quality : α}
    {destination : Affine α} {back : PointMap α} {tileWidth tileHeight : Nat}
    {window : SourceWindow α}
    (resolved : resolve source sourceWidth sourceHeight quality destination back tileWidth
      tileHeight = .window window) : window.IsInside sourceWidth sourceHeight := by
  obtain ⟨_, pixels, -, -, wide, high, rfl⟩ := resolve_eq_window resolved
  have xStart := zero_le_cut pixels.minX pixels.maxX sourceWidth
  have yStart := zero_le_cut pixels.minY pixels.maxY sourceHeight
  have xEnd := cut_end_le pixels.minX pixels.maxX sourceWidth
  have yEnd := cut_end_le pixels.minY pixels.maxY sourceHeight
  refine ⟨?_, ?_, ?_, ?_, counts _, counts _⟩
  · show 1 ≤ (cut pixels.minX pixels.maxX sourceWidth).2.toNat
    omega
  · show 1 ≤ (cut pixels.minY pixels.maxY sourceHeight).2.toNat
    omega
  · show (cut pixels.minX pixels.maxX sourceWidth).1.toNat +
      (cut pixels.minX pixels.maxX sourceWidth).2.toNat ≤ sourceWidth - 1
    omega
  · show (cut pixels.minY pixels.maxY sourceHeight).1.toNat +
      (cut pixels.minY pixels.maxY sourceHeight).2.toNat ≤ sourceHeight - 1
    omega

end SourceWindow

end TileAtlas
