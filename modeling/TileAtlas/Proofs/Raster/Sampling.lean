import TileAtlas.Proofs.Machine
import TileAtlas.Proofs.Sequence
import TileAtlas.Raster.Memory

/-!
Contract: where a resampled window looks.

Owns:
- `nearestSource_lt`, in every number system;
- `ReadPlan.check` taken apart: what an accepted request promises, and what
  can still be wrong with a request to a window that fits;
- `MemoryRaster.ofSamples_eq_ok_iff` and `MemoryRaster.filled_eq_ok_iff`, which
  samples make a raster, and the length of a pixel's samples.

Does not own: which source pixel is the nearest one.  That depends on the
number system, and the readers only rely on its bound.
-/

namespace TileAtlas

section Bounds

variable {α : Type} [Scalar α]

theorem nearestSource_lt (outIndex outLength offset : Nat) {length : Nat}
    (positive : 0 < length) :
    nearestSource α outIndex outLength offset length < offset + length := by
  show offset + min _ (length - 1) < offset + length
  omega

namespace ReadPlan

section Checked

variable [Allocator]

theorem check_eq_ok {region : PixelRegion} {width height bands outWidth outHeight : Nat}
    {type : PixelType} {plan : ReadPlan}
    (accepted : check α region width height bands outWidth outHeight type = .ok plan) :
    region.Fits width height ∧ 0 < outWidth ∧ 0 < outHeight ∧
      (bufferLength outWidth outHeight bands type).isOk = true ∧
        plan = ofRegion α region outWidth outHeight := by
  unfold check at accepted
  by_cases fits : region.Fits width height
  · rw [if_neg (not_not_intro fits)] at accepted
    by_cases empty : outWidth = 0 ∨ outHeight = 0
    · rw [if_pos empty] at accepted
      cases accepted
    · rw [if_neg empty] at accepted
      cases reserved : bufferLength outWidth outHeight bands type with
      | error error =>
          rw [reserved] at accepted
          cases accepted
      | ok length =>
          rw [reserved] at accepted
          cases accepted
          exact ⟨fits, by omega, by omega, rfl, rfl⟩
  · rw [if_pos fits] at accepted
    cases accepted

/-- A window inside the raster, spread over a buffer that can be reserved, is
always read. -/
theorem check_of_fits {region : PixelRegion} {width height bands outWidth outHeight : Nat}
    {type : PixelType} (fits : region.Fits width height) (wide : 0 < outWidth)
    (high : 0 < outHeight)
    (reserved : (bufferLength outWidth outHeight bands type).isOk = true) :
    check α region width height bands outWidth outHeight type =
      .ok (ofRegion α region outWidth outHeight) := by
  unfold check
  rw [if_neg (not_not_intro fits), if_neg (by omega)]
  cases length : bufferLength outWidth outHeight bands type with
  | error error =>
      rw [length] at reserved
      cases reserved
  | ok length => rfl

end Checked

theorem column_lt {region : PixelRegion} {width height outWidth outHeight column : Nat}
    (fits : region.Fits width height)
    (member : column ∈ (ofRegion α region outWidth outHeight).columns) : column < width := by
  obtain ⟨widthPositive, -, withinX, -⟩ := fits
  simp only [ofRegion, List.mem_map] at member
  obtain ⟨index, -, rfl⟩ := member
  have := nearestSource_lt (α := α) index outWidth region.xOff widthPositive
  omega

theorem row_lt {region : PixelRegion} {width height outWidth outHeight row : Nat}
    (fits : region.Fits width height)
    (member : row ∈ (ofRegion α region outWidth outHeight).rows) : row < height := by
  obtain ⟨-, heightPositive, -, withinY⟩ := fits
  simp only [ofRegion, List.mem_map] at member
  obtain ⟨index, -, rfl⟩ := member
  have := nearestSource_lt (α := α) index outHeight region.yOff heightPositive
  omega

end ReadPlan

end Bounds

namespace MemoryRaster

variable {α : Type}

/-- The samples of all pixels can be counted. -/
structure IsCounted (info : DatasetInfo α) : Prop where
  pixels : info.width * info.height ≤ word64Max
  samples : info.width * info.height * info.bands ≤ word64Max

theorem sampleCount_eq_ok_iff {info : DatasetInfo α} {count : Nat} :
    sampleCount info = .ok count ↔
      count = info.width * info.height * info.bands ∧ IsCounted info := by
  unfold sampleCount
  constructor
  · intro counted
    obtain ⟨pixels, pixelsCounted, samplesCounted⟩ := bind_eq_ok counted
    obtain ⟨rfl, pixelsFit⟩ := Count.times_eq_ok_iff.mp pixelsCounted
    obtain ⟨isCount, samplesFit⟩ := Count.times_eq_ok_iff.mp samplesCounted
    exact ⟨isCount, pixelsFit, samplesFit⟩
  · rintro ⟨rfl, pixelsFit, samplesFit⟩
    rw [Count.times_of_le pixelsFit]
    exact Count.times_of_le samplesFit

/-- There is one sample for each band of each pixel. -/
def IsComplete (raster : MemoryRaster α) : Prop :=
  raster.samples.size = raster.info.width * raster.info.height * raster.info.bands

theorem ofSamples_eq_ok_iff {info : DatasetInfo α} {values : Array Float}
    {raster : MemoryRaster α} :
    ofSamples info values = .ok raster ↔
      values.size = info.width * info.height * info.bands ∧ IsCounted info ∧
        raster = ⟨info, values.map Sample.ofFloat⟩ := by
  unfold ofSamples
  constructor
  · intro made
    obtain ⟨expected, counted, made⟩ := bind_eq_ok made
    obtain ⟨rfl, isCounted⟩ := sampleCount_eq_ok_iff.mp counted
    split at made
    next complete => exact ⟨complete, isCounted, (Except.ok.inj made).symm⟩
    next => cases made
  · rintro ⟨complete, isCounted, rfl⟩
    rw [sampleCount_eq_ok_iff.mpr ⟨rfl, isCounted⟩]
    exact if_pos complete

theorem size_repeated {info : DatasetInfo α} {pixel : Array Float}
    (bands : pixel.size = info.bands) :
    (List.replicate (info.width * info.height) pixel.toList).flatten.toArray.size =
      info.width * info.height * info.bands := by
  simp [bands]

theorem filled_eq_ok_iff {info : DatasetInfo α} {pixel : Array Float} {raster : MemoryRaster α} :
    filled info pixel = .ok raster ↔
      pixel.size = info.bands ∧ IsCounted info ∧
        raster = ⟨info, (List.replicate (info.width * info.height)
          pixel.toList).flatten.toArray.map Sample.ofFloat⟩ := by
  unfold filled
  split
  next bands =>
    constructor
    · intro made
      obtain ⟨-, -, made⟩ := bind_eq_ok made
      exact ⟨bands, (ofSamples_eq_ok_iff.mp made).2⟩
    · rintro ⟨-, isCounted, isRaster⟩
      rw [sampleCount_eq_ok_iff.mpr ⟨rfl, isCounted⟩]
      exact ofSamples_eq_ok_iff.mpr ⟨size_repeated bands, isCounted, isRaster⟩
  next other => exact ⟨nofun, fun fits => absurd fits.1 other⟩

/-- The samples of a pixel end before the samples of the raster do. -/
theorem pixelStart_add_bands_le (info : DatasetInfo α) {x y : Nat} (inX : x < info.width)
    (inY : y < info.height) :
    pixelStart info x y + info.bands ≤ info.width * info.height * info.bands := by
  have pixels : y * info.width + x + 1 ≤ info.width * info.height := rowMajor_lt inX inY
  have scaled := Nat.mul_le_mul_right info.bands pixels
  rw [Nat.succ_mul] at scaled
  exact scaled

theorem length_pixelSamples {raster : MemoryRaster α} (complete : raster.IsComplete) {x y : Nat}
    (inX : x < raster.info.width) (inY : y < raster.info.height) :
    (raster.pixelSamples x y).length = raster.info.bands := by
  have within := pixelStart_add_bands_le raster.info inX inY
  unfold IsComplete at complete
  simp only [pixelSamples, Array.length_toList, Array.size_extract]
  omega

end MemoryRaster

end TileAtlas
