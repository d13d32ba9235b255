import TileAtlas.Proofs.Number.Same
import TileAtlas.Proofs.Render.Mask

/-!
Contract: which missing values stay out of a tile.

Owns:
- `TileRequest.sampled?`, the sample of the working buffer under a tile pixel;
- `pixel?_of_sampled`: a tile pixel shows the sample under it;
- `render_hides_noData_iff`, for which missing values a sample that is missing
  leaves its pixel empty, and values that show.
-/

namespace TileAtlas

/-! ## Samples -/

theorem Rgba.spectrum_ne_transparent (value : Float) : spectrum value ≠ .transparent := by
  intro hidden
  cases congrArg Rgba.alpha hidden

/-- A sample that is no number has a height that is none. -/
theorem Sample.ofWord_singleWord_ne_transparent {sample : Sample}
    (missing : sample.value.isNaN = true) : Rgba.ofWord sample.singleWord ≠ .transparent := by
  have quiet (sign payload : Nat) (signed : sign = 0 ∨ sign = 2 ^ 31) (small : payload < 2 ^ 23) :
      (sign + (Binary.single.nanWord ||| payload)) / 2 ^ 24 % 256 ≠ 0 := by
    have atLeast : Binary.single.nanWord ≤ Binary.single.nanWord ||| payload := Nat.left_le_or
    have below : Binary.single.nanWord ||| payload < 2 ^ 31 :=
      Nat.or_lt_two_pow (by decide) (by omega)
    have top : Binary.single.nanWord = 127 * 2 ^ 24 + 2 ^ 22 + 2 ^ 23 := by decide
    omega
  have narrowed : sample.singleWord =
      (if Binary.double.signWeight ≤ sample.word.toNat then 2 ^ 31 else 0) +
        (Binary.single.nanWord ||| (sample.word.toNat % 2 ^ 52) <<< 23 >>> 52) := by
    unfold singleWord Binary.recode
    rw [Binary.decode_eq_nan_of_isNaN missing]
    rfl
  intro hidden
  have top : UInt8.ofNat (sample.singleWord / 2 ^ 24) = 0 := congrArg Rgba.alpha hidden
  have vanishes := congrArg UInt8.toNat top
  rw [narrowed, UInt8.toNat_ofNat'] at vanishes
  refine quiet _ _ ?_ ?_ vanishes
  · split
    · exact .inr rfl
    · exact .inl rfl
  · rw [Nat.shiftLeft_eq, Nat.shiftRight_eq_div_pow]
    have fraction := Nat.mod_lt sample.word.toNat (Nat.two_pow_pos 52)
    omega

/-- A sample that is the missing value is hidden if that value is finite and,
as a height, also if it is infinite. -/
theorem shownSample_eq_transparent_iff {missing : Float} {mode : RenderMode} {sample : Sample}
    (same : Binary.IsSame sample.value missing) :
    shownSample (some missing) mode sample = .transparent ↔
      missing.isFinite = true ∨ mode = .elevation ∧ missing.isNaN = false := by
  cases mode with
  | image =>
      have hides : NumericBuffer.isMissingColor (some missing) sample.value = true ↔
          missing.isFinite = true := by
        refine decide_eq_true_iff.trans (same.abs_sub_lt_iff ?_)
        decide +kernel
      rw [← hides]
      unfold shownSample
      cases NumericBuffer.isMissingColor (some missing) sample.value with
      | true => simp
      | false => simp [Rgba.spectrum_ne_transparent]
  | elevation =>
      have hides : NumericBuffer.isMissingHeight (some missing) sample.value = true ↔
          missing.isNaN = false := decide_eq_true_iff.trans same.le_iff
      by_cases noNumber : missing.isNaN = true
      · have shows : Rgba.ofWord sample.singleWord ≠ .transparent :=
          Sample.ofWord_singleWord_ne_transparent (same.isNaN_iff.mpr noNumber)
        unfold shownSample
        rw [if_neg (by rw [hides, noNumber]; exact nofun)]
        refine iff_of_false shows ?_
        rw [Binary.isFinite_of_isNaN noNumber, noNumber]
        exact fun either => either.elim nofun fun both => nomatch both.2
      · have number : missing.isNaN = false := Bool.eq_false_iff.mpr noNumber
        unfold shownSample
        rw [if_pos (hides.mpr number)]
        exact iff_of_true rfl (.inr ⟨rfl, number⟩)

/-! ## Tiles -/

namespace TileRequest

/-- The sample of the working buffer that a tile pixel is rendered from, for a
raster of one band. -/
def sampled? (request : TileRequest) (dataset : Dataset Float) (options : RenderOptions Float)
    (x y : Nat) : Option Sample :=
  match request.places dataset.info, request.maps dataset.info,
    request.plan dataset.info options with
  | .ok places, .ok maps, .ok (.read window type) =>
      match dataset.read ⟨window.region, window.workWidth, window.workHeight, type⟩,
        sourcePoint? request.toTileFrame places maps x y with
      | .ok data, some point =>
          let position := workingPosition dataset.info places.source window point
          NumericBuffer.sample?
            ⟨data, window.workWidth, window.workHeight, type, dataset.info.noData⟩
            (Scalar.floorToPixel position.1) (Scalar.floorToPixel position.2)
      | _, _ => none
  | _, _, _ => none

variable {request : TileRequest} {dataset : Dataset Float} {options : RenderOptions Float}
  {x y : Nat} {sample : Sample}

/-- A sample under a tile pixel, taken apart. -/
theorem sampled?_eq_some (sampled : request.sampled? dataset options x y = some sample) :
    ∃ places maps window type data point,
      request.places dataset.info = .ok places ∧ request.maps dataset.info = .ok maps ∧
      RenderPlan.make dataset.info request.toTileFrame options places maps =
        .ok (.read window type) ∧
      dataset.read ⟨window.region, window.workWidth, window.workHeight, type⟩ = .ok data ∧
      sourcePoint? request.toTileFrame places maps x y = some point ∧
      NumericBuffer.sample?
          ⟨data, window.workWidth, window.workHeight, type, dataset.info.noData⟩
          (Scalar.floorToPixel (workingPosition dataset.info places.source window point).1)
          (Scalar.floorToPixel (workingPosition dataset.info places.source window point).2) =
        some sample := by
  unfold sampled? at sampled
  split at sampled
  next places maps window type placed mapped planned =>
    split at sampled
    next data point answered pointed =>
      refine ⟨places, maps, window, type, data, point, placed, mapped, ?_, answered, pointed,
        sampled⟩
      unfold plan at planned
      rw [placed, mapped] at planned
      exact planned
    next => cases sampled
  next => cases sampled

/-- A pixel of a raster of one band shows the sample under it. -/
theorem pixel?_of_sampled [Allocator] {tile : RasterTile Float}
    (rendered : request.render dataset options = .ok tile) (single : dataset.info.bands = 1)
    (inX : x < request.width) (inY : y < request.height)
    (sampled : request.sampled? dataset options x y = some sample) :
    tile.pixel? x y = some (shownSample dataset.info.noData request.mode sample) := by
  obtain ⟨places, maps, window, type, data, point, placed, mapped, made, answered, pointed,
    held⟩ := sampled?_eq_some sampled
  obtain ⟨samePlaces, sameMaps, plan, placedToo, mappedToo, madeToo, carried⟩ :=
    render_eq_ok rendered
  cases placed.symm.trans placedToo
  cases mapped.symm.trans mappedToo
  cases made.symm.trans madeToo
  obtain ⟨sameData, answeredToo, rfl⟩ := RenderPlan.carryOut_eq_ok carried
  cases answered.symm.trans answeredToo
  unfold RasterTile.pixel?
  rw [if_pos ⟨inX, inY⟩, pixel?_renderPixels inX inY]
  unfold renderPixel WorkingBuffer.ofBytes
  rw [pointed, if_pos single]
  unfold WorkingBuffer.sample
  cases request.mode with
  | image => exact congrArg some (NumericBuffer.color_of_sample held)
  | elevation => exact congrArg some (NumericBuffer.packedElevation_of_sample held)

end TileRequest

/-- A tile pixel whose sample is the missing value stays empty exactly if that
value is finite or, as a height, infinite. -/
theorem render_hides_noData_iff [Allocator] (request : TileRequest) (dataset : Dataset Float)
    (options : RenderOptions Float) (tile : RasterTile Float)
    (rendered : request.render dataset options = .ok tile) (single : dataset.info.bands = 1)
    (missing : Float) (declared : dataset.info.noData = some missing) (x y : Nat)
    (inX : x < request.width) (inY : y < request.height) (sample : Sample)
    (sampled : request.sampled? dataset options x y = some sample)
    (same : Binary.IsSame sample.value missing) :
    tile.pixel? x y = some .transparent ↔
      missing.isFinite = true ∨ request.mode = .elevation ∧ missing.isNaN = false := by
  rw [TileRequest.pixel?_of_sampled rendered single inX inY sampled, declared, Option.some.injEq]
  exact shownSample_eq_transparent_iff same

/-- A raster of four by four degrees without any measured value. -/
def unmeasured (missing : Float) : MemoryRaster Float where
  info := ⟨4, 4, 1, .float32, some missing, ⟨0.0, 1.0, 0.0, 4.0, 0.0, -1.0⟩, some "EPSG:4326"⟩
  samples := Array.replicate 16 (Sample.ofFloat missing)

/-- Four tile pixels over all of the raster.  Heights have a place in their grid. -/
def unmeasuredRequest (mode : RenderMode) : TileRequest where
  extent := ⟨0.0, 0.0, 4.0, 4.0⟩
  width := 2
  height := 2
  mode := mode
  validExtent := none
  subExtent := if mode = .elevation then some ⟨0.0, 0.0, 1.0, 1.0⟩ else none
  srs := ⟨"EPSG:4326", some 4326, "+proj=longlat +datum=WGS84 +no_defs", true⟩
  sourceSrs := none

section Unmeasured

open scoped Allocator

theorem render_hides_noData_unmeasured :
    ∃ tile, (unmeasuredRequest .image).render (unmeasured (-9999.0)).toDataset .standard =
      .ok tile ∧ tile.pixel? 1 0 = some .transparent := by
  obtain ⟨tile, rendered⟩ := exists_eq_ok (show ((unmeasuredRequest .image).render
    (unmeasured (-9999.0)).toDataset .standard).isOk = true by decide +kernel)
  refine ⟨tile, rendered, ?_⟩
  exact (render_hides_noData_iff _ _ _ _ rendered rfl _ rfl 1 0 (by decide) (by decide)
    (Sample.ofFloat (-9999.0)) (by decide +kernel) (.inl (by decide +kernel))).mpr
      (.inl (by decide +kernel))

/-- No tile pixel of a mode shows the missing value. -/
def HidesNoData [Allocator] (mode : RenderMode) (missing : Float) : Prop :=
  ∀ (request : TileRequest) (dataset : Dataset Float) (options : RenderOptions Float)
    (tile : RasterTile Float), request.mode = mode → request.render dataset options = .ok tile →
    dataset.info.bands = 1 → dataset.info.noData = some missing →
    ∀ x y, x < request.width → y < request.height →
      ∀ sample, request.sampled? dataset options x y = some sample →
        Binary.IsSame sample.value missing → tile.pixel? x y = some .transparent

/-- Infinite values show as colours, and what is no number shows also as a
height: the comparisons with them do not hold. -/
theorem not_forall_hidesNoData :
    ¬HidesNoData .image (1.0 / 0.0) ∧ ¬HidesNoData .image (0.0 / 0.0) ∧
      ¬HidesNoData .elevation (0.0 / 0.0) := by
  have shows (mode : RenderMode) (missing : Float)
      (renders : ((unmeasuredRequest mode).render (unmeasured missing).toDataset .standard).isOk =
        true)
      (sampled : (unmeasuredRequest mode).sampled? (unmeasured missing).toDataset .standard 0 0 =
        some (Sample.ofFloat missing))
      (same : Binary.IsSame (Sample.ofFloat missing).value missing)
      (unhandled : ¬(missing.isFinite = true ∨ mode = .elevation ∧ missing.isNaN = false)) :
      ¬HidesNoData mode missing := by
    intro claimed
    obtain ⟨tile, rendered⟩ := exists_eq_ok renders
    have hidden := claimed _ _ _ tile rfl rendered rfl rfl 0 0 Nat.two_pos Nat.two_pos _ sampled
      same
    rw [TileRequest.pixel?_of_sampled rendered rfl Nat.two_pos Nat.two_pos sampled,
      Option.some.injEq] at hidden
    exact unhandled ((shownSample_eq_transparent_iff same).mp hidden)
  refine ⟨shows _ _ ?_ ?_ (.inl ?_) ?_, shows _ _ ?_ ?_ (.inr ?_) ?_,
    shows _ _ ?_ ?_ (.inr ?_) ?_⟩ <;> decide +kernel

end Unmeasured

end TileAtlas
