import TileAtlas.Proofs.Raster.Stored

/-!
Contract: a raster in memory that is overwritten and read.

Owns:
- `MemoryRaster.Origin` and `MemoryRaster.Overwrite`, how a raster is made and what
  is called on it;
- `MemoryRaster.build_eq_ok_iff`, which rasters are made;
- `MemoryRaster.sample?_setPixel`, what one call changes, and
  `MemoryRaster.sample?_foldl_overwrite`, what any number of calls changes;
- `MemoryRaster.IsSampled`, a buffer that holds the samples nearest to its pixels;
- `MemoryRaster.isMutable`, for every way to make a raster, every sequence of calls
  and every request.

Does not own: which pixel is the nearest one.
-/

namespace TileAtlas.MemoryRaster

variable {α : Type}

/-! ## Calls -/

/-- How a raster is made. -/
inductive Origin where
  | samples (values : Array Float)
  | fill (pixel : Array Float)

/-- One pixel to be overwritten with as many values as are given. -/
structure Overwrite where
  x : Nat
  y : Nat
  pixel : List Float

namespace Origin

def build (origin : Origin) (info : DatasetInfo α) : Except Error (MemoryRaster α) :=
  match origin with
  | .samples values => ofSamples info values
  | .fill pixel => filled info pixel

/-- There are as many numbers as it takes. -/
def Fits (origin : Origin) (info : DatasetInfo α) : Prop :=
  match origin with
  | .samples values => values.size = info.width * info.height * info.bands
  | .fill pixel => pixel.size = info.bands

/-- All numbers of a new raster. -/
def values (origin : Origin) (info : DatasetInfo α) : Array Float :=
  match origin with
  | .samples values => values
  | .fill pixel => (List.replicate (info.width * info.height) pixel.toList).flatten.toArray

/-- The value that a sample has in the beginning. -/
def value? (origin : Origin) (info : DatasetInfo α) (x y band : Nat) : Option Float :=
  match origin with
  | .samples values => values[(y * info.width + x) * info.bands + band]?
  | .fill pixel => pixel[band]?

end Origin

def overwrite (raster : MemoryRaster α) (call : Overwrite) : MemoryRaster α :=
  raster.setPixel call.x call.y call.pixel

/-- The value that a call writes to a sample, if it does. -/
def Overwrite.value? (call : Overwrite) (x y band : Nat) : Option Float :=
  if call.x = x ∧ call.y = y then call.pixel[band]? else none

/-- The last value that is written to a sample. -/
def lastWritten? (calls : List Overwrite) (x y band : Nat) : Option Float :=
  calls.reverse.findSome? fun call => call.value? x y band

/-! ## Places of samples -/

/-- The samples of a pixel are those of no other. -/
theorem within_pixelStart_iff (info : DatasetInfo α) {x y otherX otherY band : Nat}
    (inX : x < info.width) (inOtherX : otherX < info.width) (inBands : band < info.bands) :
    (pixelStart info x y ≤ pixelStart info otherX otherY + band ∧
        pixelStart info otherX otherY + band < pixelStart info x y + info.bands) ↔
      x = otherX ∧ y = otherY := by
  have samePixel : y * info.width + x = otherY * info.width + otherX ↔ x = otherX ∧ y = otherY := by
    constructor
    · intro same
      have sameX := congrArg (· % info.width) same
      have sameY := congrArg (· / info.width) same
      simp only [rowMajor_mod _ inX, rowMajor_mod _ inOtherX] at sameX
      simp only [rowMajor_div _ inX, rowMajor_div _ inOtherX] at sameY
      exact ⟨sameX, sameY⟩
    · rintro ⟨rfl, rfl⟩
      rfl
  rw [← samePixel]
  unfold pixelStart
  generalize y * info.width + x = pixel
  generalize otherY * info.width + otherX = other
  rcases lt_trichotomy pixel other with less | rfl | greater
  · have apart : (pixel + 1) * info.bands ≤ other * info.bands := Nat.mul_le_mul_right _ less
    rw [Nat.succ_mul] at apart
    omega
  · omega
  · have apart : (other + 1) * info.bands ≤ pixel * info.bands := Nat.mul_le_mul_right _ greater
    rw [Nat.succ_mul] at apart
    omega

/-- Values that are put into an array one after another replace what stood there. -/
theorem getElem?_foldl_setIfInBounds (values : List Float) (samples : Array Sample)
    (start offset index : Nat) :
    ((values.zipIdx offset).foldl (fun samples (value, band) =>
        samples.setIfInBounds (start + band) (Sample.ofFloat value)) samples)[index]? =
      samples[index]?.map fun old =>
        ((if start + offset ≤ index then values[index - (start + offset)]? else none).map
          Sample.ofFloat).getD old := by
  induction values generalizing samples offset with
  | nil => simp
  | cons value values inductionHypothesis =>
      rw [List.zipIdx_cons, List.foldl_cons, inductionHypothesis]
      rcases lt_trichotomy index (start + offset) with before | here | behind
      · rw [Array.getElem?_setIfInBounds_ne (by omega), if_neg (by omega), if_neg (by omega)]
      · subst here
        rw [Array.getElem?_setIfInBounds_self, if_neg (by omega), if_pos le_rfl, Nat.sub_self]
        by_cases inBounds : start + offset < samples.size
        · simp [inBounds]
        · simp [inBounds]
      · have next : index - (start + offset) = index - (start + (offset + 1)) + 1 := by omega
        rw [Array.getElem?_setIfInBounds_ne (by omega), if_pos (by omega), if_pos (by omega), next,
          List.getElem?_cons_succ]

/-! ## One call -/

variable {raster : MemoryRaster α}

theorem info_setPixel (raster : MemoryRaster α) (x y : Nat) (pixel : List Float) :
    (raster.setPixel x y pixel).info = raster.info := by
  unfold setPixel
  split <;> rfl

/-- The value that stands at a place of the samples after a call. -/
theorem getElem?_written (info : DatasetInfo α) (call : Overwrite) {x band : Nat} (y : Nat)
    (callInX : call.x < info.width) (inX : x < info.width) (inBands : band < info.bands) :
    (if pixelStart info call.x call.y + 0 ≤ pixelStart info x y + band then
        (call.pixel.take info.bands)[pixelStart info x y + band -
          (pixelStart info call.x call.y + 0)]?
      else none) = call.value? x y band := by
  have isWithin : (pixelStart info call.x call.y ≤ pixelStart info x y + band ∧
      pixelStart info x y + band < pixelStart info call.x call.y + info.bands) ↔
        call.x = x ∧ call.y = y := within_pixelStart_iff info callInX inX inBands
  unfold Overwrite.value?
  by_cases here : call.x = x ∧ call.y = y
  · obtain ⟨rfl, rfl⟩ := here
    rw [if_pos (show call.x = call.x ∧ call.y = call.y from ⟨rfl, rfl⟩), if_pos (by omega),
      Nat.add_zero, Nat.add_sub_cancel_left, List.getElem?_take_of_lt inBands]
  · rw [if_neg here]
    rw [← isWithin] at here
    split
    · rw [List.getElem?_take_eq_none (by omega)]
    · rfl

/-- A call changes the samples that it writes, and no others. -/
theorem sample?_overwrite (raster : MemoryRaster α) (call : Overwrite) (x y band : Nat) :
    (raster.overwrite call).sample? x y band =
      (raster.sample? x y band).map fun old => (call.value? x y band).getD old := by
  by_cases inside : x < raster.info.width ∧ y < raster.info.height ∧ band < raster.info.bands
  · by_cases callInside : call.x < raster.info.width ∧ call.y < raster.info.height
    · have written := getElem?_written raster.info call y callInside.1 inside.1 inside.2.2
      unfold overwrite setPixel sample?
      rw [if_pos callInside]
      simp only
      rw [if_pos inside, if_pos inside, getElem?_foldl_setIfInBounds, written, Option.map_map,
        Option.map_map]
      refine congrArg (Option.map · _) (funext fun old => ?_)
      cases call.value? x y band with
      | none => rfl
      | some value => exact Float.ofBits_toBits value
    · have elsewhere : call.value? x y band = none := by
        refine if_neg ?_
        rintro ⟨rfl, rfl⟩
        exact callInside ⟨inside.1, inside.2.1⟩
      unfold overwrite setPixel
      rw [if_neg callInside, elsewhere]
      simp
  · have unchanged := info_setPixel raster call.x call.y call.pixel
    unfold sample? overwrite
    rw [unchanged, if_neg inside, if_neg inside]
    rfl

/-! ## All calls -/

theorem info_foldl_overwrite (calls : List Overwrite) (raster : MemoryRaster α) :
    (calls.foldl overwrite raster).info = raster.info := by
  induction calls generalizing raster with
  | nil => rfl
  | cons call calls inductionHypothesis =>
      rw [List.foldl_cons, inductionHypothesis]
      exact info_setPixel raster call.x call.y call.pixel

theorem lastWritten?_cons (call : Overwrite) (calls : List Overwrite) (x y band : Nat) :
    lastWritten? (call :: calls) x y band =
      (lastWritten? calls x y band).or (call.value? x y band) := by
  unfold lastWritten?
  rw [List.reverse_cons, List.findSome?_append]
  congr 1
  simp

/-- After all calls a sample is the last value that was written to it, or the
initial one. -/
theorem sample?_foldl_overwrite (calls : List Overwrite) (raster : MemoryRaster α)
    (x y band : Nat) :
    (calls.foldl overwrite raster).sample? x y band =
      (raster.sample? x y band).map fun initial =>
        (lastWritten? calls x y band).getD initial := by
  induction calls generalizing raster with
  | nil => simp [lastWritten?]
  | cons call calls inductionHypothesis =>
      rw [List.foldl_cons, inductionHypothesis, sample?_overwrite, lastWritten?_cons,
        Option.map_map]
      refine congrArg (Option.map · _) (funext fun initial => ?_)
      cases lastWritten? calls x y band <;> rfl

/-! ## Samples of floats -/

/-- There is one sample for each band of each pixel, and it is that of a float. -/
structure IsPlain (raster : MemoryRaster α) : Prop where
  complete : raster.IsComplete
  plain : ∀ (index : Nat) (sample : Sample), raster.samples[index]? = some sample →
    Sample.ofFloat sample.value = sample

theorem ofFloat_value_ofFloat (value : Float) :
    Sample.ofFloat (Sample.ofFloat value).value = Sample.ofFloat value :=
  congrArg Sample.ofFloat (Float.ofBits_toBits value)

theorem ofFloat_value_getD (written : Option Float) {old : Sample}
    (plain : Sample.ofFloat old.value = old) :
    Sample.ofFloat ((written.map Sample.ofFloat).getD old).value =
      (written.map Sample.ofFloat).getD old := by
  cases written with
  | none => exact plain
  | some value => exact ofFloat_value_ofFloat value

theorem size_foldl_setIfInBounds (entries : List (Float × Nat)) (samples : Array Sample)
    (start : Nat) :
    (entries.foldl (fun samples (value, band) =>
      samples.setIfInBounds (start + band) (Sample.ofFloat value)) samples).size =
        samples.size := by
  induction entries generalizing samples with
  | nil => rfl
  | cons entry entries inductionHypothesis =>
      rw [List.foldl_cons, inductionHypothesis, Array.size_setIfInBounds]

theorem IsPlain.overwrite (isPlain : raster.IsPlain) (call : Overwrite) :
    (raster.overwrite call).IsPlain := by
  by_cases inside : call.x < raster.info.width ∧ call.y < raster.info.height
  · unfold MemoryRaster.overwrite setPixel
    rw [if_pos inside]
    refine ⟨(size_foldl_setIfInBounds _ _ _).trans isPlain.complete, fun index sample here => ?_⟩
    simp only [getElem?_foldl_setIfInBounds, Option.map_eq_some_iff] at here
    obtain ⟨old, isOld, rfl⟩ := here
    exact ofFloat_value_getD _ (isPlain.plain index old isOld)
  · unfold MemoryRaster.overwrite setPixel
    rw [if_neg inside]
    exact isPlain

theorem IsPlain.foldl_overwrite (isPlain : raster.IsPlain) (calls : List Overwrite) :
    (calls.foldl MemoryRaster.overwrite raster).IsPlain := by
  induction calls generalizing raster with
  | nil => exact isPlain
  | cons call calls inductionHypothesis => exact inductionHypothesis (isPlain.overwrite call)

/-! ## New rasters -/

section New

variable {info : DatasetInfo α}

theorem getElem?_flatten_replicate {β : Type} (row : List β) {index count offset : Nat}
    (inRows : index < count) (inRow : offset < row.length) :
    (List.replicate count row).flatten[index * row.length + offset]? = row[offset]? := by
  have uniform : ∀ other ∈ List.replicate count row, (id other).length = row.length :=
    fun other member => congrArg List.length (List.eq_of_mem_replicate member)
  have place := getElem?_flatMap_uniform id _ uniform
    (show index < (List.replicate count row).length by rwa [List.length_replicate]) inRow
  rwa [List.flatMap_id, List.getElem_replicate] at place

theorem Origin.size_values {origin : Origin} (fits : origin.Fits info) :
    (origin.values info).size = info.width * info.height * info.bands := by
  cases origin with
  | samples values => exact fits
  | fill pixel => exact size_repeated fits

theorem Origin.getElem?_values {origin : Origin} (fits : origin.Fits info) {x y band : Nat}
    (inX : x < info.width) (inY : y < info.height) (inBands : band < info.bands) :
    (origin.values info)[pixelStart info x y + band]? = origin.value? info x y band := by
  cases origin with
  | samples values => rfl
  | fill pixel =>
      have inPixels : y * info.width + x < info.width * info.height := rowMajor_lt inX inY
      have length : pixel.toList.length = info.bands := fits
      have repeated := getElem?_flatten_replicate pixel.toList inPixels (length.symm ▸ inBands)
      rw [length] at repeated
      rw [values, List.getElem?_toArray, pixelStart, repeated]
      exact Array.getElem?_toList

/-- A raster is made of as many samples as it says it has, if they can be counted. -/
theorem build_eq_ok_iff {origin : Origin} :
    origin.build info = .ok raster ↔
      origin.Fits info ∧ IsCounted info ∧
        raster = ⟨info, (origin.values info).map Sample.ofFloat⟩ := by
  cases origin with
  | samples values => exact ofSamples_eq_ok_iff
  | fill pixel => exact filled_eq_ok_iff

/-- A new raster has its size, and every sample has its initial value. -/
theorem build_spec {origin : Origin} (made : origin.build info = .ok raster) :
    raster.info = info ∧ raster.IsPlain ∧
      ∀ x y band, x < info.width → y < info.height → band < info.bands →
        ∃ value, origin.value? info x y band = some value ∧
          raster.sample? x y band = some value := by
  obtain ⟨fits, -, rfl⟩ := build_eq_ok_iff.mp made
  have size := Origin.size_values fits
  refine ⟨rfl, ⟨Array.size_map.trans size, fun index sample here => ?_⟩, ?_⟩
  · simp only [Array.getElem?_map, Option.map_eq_some_iff] at here
    obtain ⟨value, -, rfl⟩ := here
    exact ofFloat_value_ofFloat value
  · intro x y band inX inY inBands
    have ends := pixelStart_add_bands_le info inX inY
    have within : pixelStart info x y + band < (origin.values info).size := by omega
    have here := Array.getElem?_eq_getElem within
    refine ⟨_, (Origin.getElem?_values fits inX inY inBands).symm.trans here, ?_⟩
    unfold sample?
    rw [if_pos ⟨inX, inY, inBands⟩, Array.getElem?_map, here]
    exact congrArg some (Float.ofBits_toBits _)

end New

/-! ## Reads -/

theorem getElem?_pixelSamples (raster : MemoryRaster α) {x y band : Nat}
    (inBands : band < raster.info.bands) :
    (raster.pixelSamples x y)[band]? = raster.samples[pixelStart raster.info x y + band]? := by
  unfold pixelSamples
  simp only [Array.toList_extract, List.extract_eq_take_drop, Nat.add_sub_cancel_left]
  rw [List.getElem?_take_of_lt inBands, List.getElem?_drop, Array.getElem?_toList]

section Gathered

variable (complete : raster.IsComplete) {plan : ReadPlan}
  (columnsInside : ∀ column ∈ plan.columns, column < raster.info.width)
  (rowsInside : ∀ row ∈ plan.rows, row < raster.info.height)

include complete columnsInside in
theorem length_gatherRow {y : Nat} (inHeight : y < raster.info.height) :
    (plan.columns.flatMap fun x => raster.pixelSamples x y).length =
      plan.columns.length * raster.info.bands :=
  length_flatMap_uniform _ _ fun column member =>
    length_pixelSamples complete (columnsInside column member) inHeight

include complete columnsInside rowsInside

theorem length_gather : (raster.gather plan).length =
    plan.columns.length * plan.rows.length * raster.info.bands := by
  unfold gather
  rw [length_flatMap_uniform _ _ fun row member =>
    length_gatherRow complete columnsInside (rowsInside row member)]
  ring

/-- The samples of a window come row by row, pixel by pixel and band by band. -/
theorem getElem?_gather {x y band : Nat} (inX : x < plan.columns.length)
    (inY : y < plan.rows.length) (inBands : band < raster.info.bands) :
    (raster.gather plan)[(y * plan.columns.length + x) * raster.info.bands + band]? =
      raster.samples[pixelStart raster.info plan.columns[x] plan.rows[y] + band]? := by
  have place : (y * plan.columns.length + x) * raster.info.bands + band =
      y * (plan.columns.length * raster.info.bands) + (x * raster.info.bands + band) := by ring
  have inRow : x * raster.info.bands + band < plan.columns.length * raster.info.bands := by
    have ends : (x + 1) * raster.info.bands ≤ plan.columns.length * raster.info.bands :=
      Nat.mul_le_mul_right _ inX
    rw [Nat.succ_mul] at ends
    omega
  unfold gather
  rw [place,
    getElem?_flatMap_uniform _ _ (fun row member =>
      length_gatherRow complete columnsInside (rowsInside row member)) inY inRow,
    getElem?_flatMap_uniform _ _ (fun column member =>
      length_pixelSamples complete (columnsInside column member)
        (rowsInside _ (List.getElem_mem inY))) inX inBands,
    getElem?_pixelSamples raster inBands]

end Gathered

section Reads

variable [Scalar α] [Allocator]

/-- The buffer holds, pixel by pixel of the request and band by band, what the type
keeps of the nearest samples, and nothing else. -/
structure IsSampled (raster : MemoryRaster α) (request : ReadRequest) (data : ByteArray) :
    Prop where
  size : data.size =
    request.outWidth * request.outHeight * raster.info.bands * request.type.size
  sample : ∀ outX outY band, outX < request.outWidth → outY < request.outHeight →
    band < raster.info.bands →
      ∃ value stored,
        raster.sample?
            (nearestSource α outX request.outWidth request.region.xOff request.region.width)
            (nearestSource α outY request.outHeight request.region.yOff request.region.height)
            band = some value ∧
          request.type.sample? data
              ((outY * request.outWidth + outX) * raster.info.bands + band) = some stored ∧
            request.type.IsStored (.ofFloat value) stored

theorem isSampled_of_read (isPlain : raster.IsPlain) {request : ReadRequest} {data : ByteArray}
    (answered : raster.read request = .ok data) : raster.IsSampled request data := by
  obtain ⟨fits, -, rfl⟩ := read_eq_ok answered
  obtain ⟨plan, isPlan⟩ : ∃ plan,
      ReadPlan.ofRegion α request.region request.outWidth request.outHeight = plan := ⟨_, rfl⟩
  have columnsInside : ∀ column ∈ plan.columns, column < raster.info.width :=
    fun column member => ReadPlan.column_lt fits (isPlan ▸ member)
  have rowsInside : ∀ row ∈ plan.rows, row < raster.info.height :=
    fun row member => ReadPlan.row_lt fits (isPlan ▸ member)
  have columnCount : plan.columns.length = request.outWidth := by simp [← isPlan, ReadPlan.ofRegion]
  have rowCount : plan.rows.length = request.outHeight := by simp [← isPlan, ReadPlan.ofRegion]
  have length := length_gather isPlain.complete columnsInside rowsInside
  have holds := request.type.holds_writeAll (raster.gather plan)
  rw [isPlan]
  change raster.IsSampled request (request.type.writeAll (raster.gather plan))
  constructor
  · rw [holds.size, length, columnCount, rowCount]
  · intro outX outY band inX inY inBands
    have inColumns : outX < plan.columns.length := columnCount.symm ▸ inX
    have inRows : outY < plan.rows.length := rowCount.symm ▸ inY
    have gathered := getElem?_gather isPlain.complete columnsInside rowsInside inColumns inRows
      inBands
    have insideX := columnsInside _ (List.getElem_mem inColumns)
    have insideY := rowsInside _ (List.getElem_mem inRows)
    have isColumn : plan.columns[outX] = nearestSource α outX request.outWidth
        request.region.xOff request.region.width := by
      simp [← isPlan, ReadPlan.ofRegion]
    have isRow : plan.rows[outY] = nearestSource α outY request.outHeight
        request.region.yOff request.region.height := by
      simp [← isPlan, ReadPlan.ofRegion]
    rw [columnCount, isColumn, isRow] at gathered
    rw [isColumn] at insideX
    rw [isRow] at insideY
    generalize nearestSource α outX request.outWidth request.region.xOff
      request.region.width = sourceX at *
    generalize nearestSource α outY request.outHeight request.region.yOff
      request.region.height = sourceY at *
    have ends := pixelStart_add_bands_le raster.info insideX insideY
    have within : pixelStart raster.info sourceX sourceY + band < raster.samples.size := by
      exact isPlain.complete ▸ (by omega)
    have here := Array.getElem?_eq_getElem within
    have isSample : raster.sample? sourceX sourceY band =
        some (raster.samples[pixelStart raster.info sourceX sourceY + band]).value := by
      unfold sample?
      rw [if_pos ⟨insideX, insideY, inBands⟩, here]
      rfl
    obtain ⟨inGathered, isGathered⟩ := List.getElem?_eq_some_iff.mp (gathered.trans here)
    obtain ⟨stored, isStored, kept⟩ := holds.stored _ inGathered
    rw [isGathered, ← isPlain.plain _ _ here] at kept
    exact ⟨_, stored, isSample, isStored, kept⟩

/-- A request is answered exactly if its window fits, its size is not empty and a
buffer for it can be reserved. -/
theorem read_isOk_iff (raster : MemoryRaster α) (request : ReadRequest) :
    (raster.read request).isOk ↔
      request.region.Fits raster.info.width raster.info.height ∧
        0 < request.outWidth ∧ 0 < request.outHeight ∧
          (bufferLength request.outWidth request.outHeight raster.info.bands
            request.type).isOk := by
  unfold read
  constructor
  · intro answered
    split at answered
    · cases answered
    · next plan accepted =>
        obtain ⟨fits, wide, high, reserved, -⟩ := ReadPlan.check_eq_ok accepted
        exact ⟨fits, wide, high, reserved⟩
  · rintro ⟨fits, wide, high, reserved⟩
    rw [ReadPlan.check_of_fits fits wide high reserved]
    rfl

/-! ## Rasters from their making to a read -/

/-- A raster is made exactly if its samples are given and can be counted.  However it
is made and whatever pixels are overwritten: a sample is the last value that was
written to it, or its initial value, and there is none outside the raster.  Requests
to windows inside it are answered, with the samples nearest to the pixels of the
request. -/
theorem isMutable (origin : Origin) (info : DatasetInfo α) :
    ((∃ raster, origin.build info = .ok raster) ↔ origin.Fits info ∧ IsCounted info) ∧
    ∀ raster, origin.build info = .ok raster → ∀ calls : List Overwrite,
      (calls.foldl overwrite raster).info = info ∧
      (∀ x y band,
        if x < info.width ∧ y < info.height ∧ band < info.bands then
          ∃ initial, origin.value? info x y band = some initial ∧
            (calls.foldl overwrite raster).sample? x y band =
              some ((lastWritten? calls x y band).getD initial)
        else (calls.foldl overwrite raster).sample? x y band = none) ∧
      ∀ request : ReadRequest,
        (((calls.foldl overwrite raster).read request).isOk ↔
          request.region.Fits info.width info.height ∧
            0 < request.outWidth ∧ 0 < request.outHeight ∧
              (bufferLength request.outWidth request.outHeight info.bands request.type).isOk) ∧
        ∀ data, (calls.foldl overwrite raster).read request = .ok data →
          (calls.foldl overwrite raster).IsSampled request data := by
  refine ⟨⟨?_, ?_⟩, ?_⟩
  · rintro ⟨raster, made⟩
    obtain ⟨fits, isCounted, -⟩ := build_eq_ok_iff.mp made
    exact ⟨fits, isCounted⟩
  · rintro ⟨fits, isCounted⟩
    exact ⟨_, build_eq_ok_iff.mpr ⟨fits, isCounted, rfl⟩⟩
  intro raster made calls
  obtain ⟨rfl, isPlain, initial⟩ := build_spec made
  have sameInfo := info_foldl_overwrite calls raster
  refine ⟨sameInfo, fun x y band => ?_, fun request => ⟨?_, fun data answered => ?_⟩⟩
  · split
    · next inside =>
        obtain ⟨value, isValue, isSample⟩ := initial x y band inside.1 inside.2.1 inside.2.2
        refine ⟨value, isValue, ?_⟩
        rw [sample?_foldl_overwrite, isSample]
        rfl
    · next outside =>
        unfold sample?
        rw [sameInfo, if_neg outside]
  · rw [read_isOk_iff, sameInfo]
  · exact isSampled_of_read (isPlain.foldl_overwrite calls) answered

end Reads

/-- Two pixels of two bands. -/
def twoPixels : DatasetInfo Float := ⟨2, 1, 2, .byte, none, ⟨0, 1, 0, 0, 0, -1⟩, none⟩

/-- Too many values, too few and a pixel outside. -/
def threeCalls : List Overwrite := [⟨1, 0, [7.0, 8.0, 9.0]⟩, ⟨1, 0, [5.0]⟩, ⟨2, 0, [4.0]⟩]

section TwoPixels

open scoped Allocator

theorem isMutable_twoPixels :
    ∃ raster, Origin.build (.fill #[1.0, 2.0]) twoPixels = .ok raster ∧
      (threeCalls.foldl overwrite raster).sample? 0 0 1 = some 2.0 ∧
      (threeCalls.foldl overwrite raster).sample? 1 0 0 = some 5.0 ∧
      (threeCalls.foldl overwrite raster).sample? 1 0 1 = some 8.0 ∧
      ((threeCalls.foldl overwrite raster).read ⟨⟨0, 0, 2, 1⟩, 4, 2, .int16⟩).isOk := by
  obtain ⟨isMade, keeps⟩ := isMutable (.fill #[1.0, 2.0]) twoPixels
  obtain ⟨raster, made⟩ := isMade.mpr ⟨rfl, by decide, by decide⟩
  obtain ⟨-, samples, reads⟩ := keeps raster made threeCalls
  refine ⟨raster, made, ?_, ?_, ?_, (reads _).1.mpr (by decide +kernel)⟩
  · obtain ⟨initial, isInitial, isSample⟩ := samples 0 0 1
    cases isInitial
    exact isSample
  · obtain ⟨initial, -, isSample⟩ := samples 1 0 0
    exact isSample
  · obtain ⟨initial, -, isSample⟩ := samples 1 0 1
    exact isSample

end TwoPixels

end TileAtlas.MemoryRaster
