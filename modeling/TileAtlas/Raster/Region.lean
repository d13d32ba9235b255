/-!
Contract: rectangular windows of pixels.

Owns: `PixelRegion` and the test that a window is non-empty and inside a
raster.  Offsets and sizes are 64-bit counts, so an end beyond that range
cannot be inside.
-/

namespace TileAtlas

/-- A window of `width × height` pixels whose first one is `(xOff, yOff)`. -/
structure PixelRegion where
  xOff : Nat
  yOff : Nat
  width : Nat
  height : Nat
deriving DecidableEq, Repr

namespace PixelRegion

/-- The window is non-empty and lies within a `width × height` raster. -/
def Fits (region : PixelRegion) (width height : Nat) : Prop :=
  0 < region.width ∧ 0 < region.height ∧
    region.xOff + region.width ≤ width ∧ region.yOff + region.height ≤ height

instance (region : PixelRegion) (width height : Nat) : Decidable (region.Fits width height) := by
  unfold Fits; infer_instance

end PixelRegion

end TileAtlas
