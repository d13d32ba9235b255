import TileAtlas.Proofs.Raster.Sampling
import TileAtlas.Proofs.Sequence
import TileAtlas.Raster.Chunked

/-!
Contract: a raster stored in chunks reads like the same raster in memory.

Owns:
- `MemoryRaster.chunkSamples`, what a chunk of an image in memory holds;
- `ChunkedRaster.Holds`, a chunked raster whose decoder gives those chunks;
- one lemma for each stage of a scan: a loaded column, an entered chunk row, a
  pixel, an image row, all rows;
- the equality of the two reads.

Does not own: that a particular decoder gives those chunks.

## The invariant

Between two image rows, the chunks in memory are those of the chunk row that
`loadedRow` names, for all touched columns.  Whether a row has to be entered or
is still there, its pixels then come out of the right chunks.
-/

namespace TileAtlas

namespace ChunkLayout

/-- The number of chunk rows that it takes to cover an image. -/
def down (layout : ChunkLayout) (imageHeight : Nat) : Nat :=
  (imageHeight + layout.chunkHeight - 1) / layout.chunkHeight

variable {imageWidth chunkWidth chunkHeight column row : Nat}

theorem lt_across_cover
    (inX : column * (cover imageWidth chunkWidth chunkHeight).chunkWidth < imageWidth) :
    column < (cover imageWidth chunkWidth chunkHeight).across := by
  have positive := (cover imageWidth chunkWidth chunkHeight).chunkWidth_pos
  refine (Nat.le_div_iff_mul_le positive).mpr ?_
  rw [Nat.succ_mul]
  change column * max chunkWidth 1 < imageWidth at inX
  change column * max chunkWidth 1 + max chunkWidth 1 ≤ imageWidth + max chunkWidth 1 - 1
  omega

theorem lt_down {layout : ChunkLayout} {imageHeight : Nat}
    (inY : row * layout.chunkHeight < imageHeight) : row < layout.down imageHeight := by
  refine (Nat.le_div_iff_mul_le layout.chunkHeight_pos).mpr ?_
  rw [Nat.succ_mul]
  omega

end ChunkLayout

namespace MemoryRaster

variable {α : Type}

/-- How many rows of a chunk row lie in the image. -/
def chunkRows (raster : MemoryRaster α) (layout : ChunkLayout) (row : Nat) : Nat :=
  min layout.chunkHeight (raster.info.height - row * layout.chunkHeight)

/-- One row of a chunk, as far as it lies in the image. -/
def chunkRow (raster : MemoryRaster α) (layout : ChunkLayout) (column y : Nat) : List Sample :=
  (List.range (layout.dataWidth column raster.info.width)).flatMap fun x =>
    raster.pixelSamples (column * layout.chunkWidth + x) y

/-- The samples of the part of a chunk that lies in the image, row by row. -/
def chunkSamples (raster : MemoryRaster α) (layout : ChunkLayout) (column row : Nat) :
    Array Sample :=
  ((List.range (raster.chunkRows layout row)).flatMap fun y =>
    raster.chunkRow layout column (row * layout.chunkHeight + y)).toArray

variable {raster : MemoryRaster α} {layout : ChunkLayout}

theorem length_chunkRow (complete : raster.IsComplete) {column y : Nat}
    (inY : y < raster.info.height) :
    (raster.chunkRow layout column y).length =
      layout.dataWidth column raster.info.width * raster.info.bands := by
  unfold chunkRow
  rw [length_flatMap_uniform, List.length_range]
  intro x member
  apply length_pixelSamples complete _ inY
  have within := List.mem_range.mp member
  unfold ChunkLayout.dataWidth at within
  omega

/-- The place of a sample inside its chunk: rows are as wide as the part of the
chunk that lies in the image. -/
theorem getElem?_chunkSamples (layout : ChunkLayout) (complete : raster.IsComplete)
    {x y band : Nat} (inX : x < raster.info.width) (inY : y < raster.info.height)
    (inBands : band < raster.info.bands) :
    (raster.chunkSamples layout (x / layout.chunkWidth) (y / layout.chunkHeight))[
        (y % layout.chunkHeight * layout.dataWidth (x / layout.chunkWidth) raster.info.width +
          x % layout.chunkWidth) * raster.info.bands + band]? =
      (raster.pixelSamples x y)[band]? := by
  have splitX := Nat.div_add_mod' x layout.chunkWidth
  have splitY := Nat.div_add_mod' y layout.chunkHeight
  have insideX := Nat.mod_lt x layout.chunkWidth_pos
  have insideY := Nat.mod_lt y layout.chunkHeight_pos
  have localX : x % layout.chunkWidth <
      layout.dataWidth (x / layout.chunkWidth) raster.info.width := by
    unfold ChunkLayout.dataWidth
    omega
  have localY : y % layout.chunkHeight < raster.chunkRows layout (y / layout.chunkHeight) := by
    unfold chunkRows
    omega
  have inRow : x % layout.chunkWidth * raster.info.bands + band <
      layout.dataWidth (x / layout.chunkWidth) raster.info.width * raster.info.bands := by
    have scaled := Nat.mul_le_mul_right raster.info.bands localX
    rw [Nat.succ_mul] at scaled
    omega
  have rowsUniform : ∀ inner ∈ List.range (raster.chunkRows layout (y / layout.chunkHeight)),
      (raster.chunkRow layout (x / layout.chunkWidth)
        (y / layout.chunkHeight * layout.chunkHeight + inner)).length =
          layout.dataWidth (x / layout.chunkWidth) raster.info.width * raster.info.bands := by
    intro inner member
    apply length_chunkRow complete
    have within := List.mem_range.mp member
    unfold chunkRows at within
    omega
  have pixelsUniform :
      ∀ inner ∈ List.range (layout.dataWidth (x / layout.chunkWidth) raster.info.width),
        (raster.pixelSamples (x / layout.chunkWidth * layout.chunkWidth + inner) y).length =
          raster.info.bands := by
    intro inner member
    apply length_pixelSamples complete _ inY
    have within := List.mem_range.mp member
    unfold ChunkLayout.dataWidth at within
    omega
  rw [chunkSamples, List.getElem?_toArray, Nat.add_mul, Nat.mul_assoc, Nat.add_assoc,
    getElem?_flatMap_uniform _ _ rowsUniform (by simpa using localY) inRow, List.getElem_range,
    splitY, chunkRow, getElem?_flatMap_uniform _ _ pixelsUniform (by simpa using localX) inBands,
    List.getElem_range, splitX]

end MemoryRaster

/-! ## What a scan keeps in memory -/

namespace ChunkedRaster

theorem mem_insertColumn {column found : Nat} (columns : List Nat) :
    found ∈ insertColumn column columns ↔ found = column ∨ found ∈ columns := by
  induction columns with
  | nil => simp [insertColumn]
  | cons head rest inductionHypothesis =>
      unfold insertColumn
      split
      · simp
      · split
        · next isHead => simp [isHead]
        · simp only [List.mem_cons, inductionHypothesis]
          exact or_left_comm

/-- The touched chunk columns are those of the sampled pixel columns. -/
theorem mem_chunkColumns {layout : ChunkLayout} {found : Nat} (columns : List Nat) :
    found ∈ chunkColumns layout columns ↔ ∃ x ∈ columns, found = x / layout.chunkWidth := by
  have peel : ∀ (rest before : List Nat),
      found ∈ rest.foldl (fun columns x => insertColumn (x / layout.chunkWidth) columns) before ↔
        found ∈ before ∨ ∃ x ∈ rest, found = x / layout.chunkWidth := by
    intro rest
    induction rest with
    | nil => simp
    | cons head tail inductionHypothesis =>
        intro before
        rw [List.foldl_cons, inductionHypothesis, mem_insertColumn]
        simp only [List.mem_cons, exists_eq_or_imp]
        exact or_assoc.trans or_left_comm
  simpa [chunkColumns] using peel columns []

variable {α : Type}

/-- A chunked raster that holds the samples of a raster in memory.  Its chunks
are counted along the rows of a grid that covers the image, there are no more
of them than 32-bit words can number, and its decoder gives the part of each
chunk that lies in the image, row by row and band by band. -/
structure Holds (raster : ChunkedRaster α) (memory : MemoryRaster α) : Prop where
  info_eq : raster.info = memory.info
  layout_eq : ∃ chunkWidth chunkHeight,
    raster.layout = ChunkLayout.cover memory.info.width chunkWidth chunkHeight
  complete : memory.IsComplete
  count_le : raster.layout.across * raster.layout.down memory.info.height ≤ word32Max + 1
  decode_eq : ∀ number < raster.layout.across * raster.layout.down memory.info.height,
    raster.decode number =
      .ok (memory.chunkSamples raster.layout (number % raster.layout.across)
        (number / raster.layout.across))

/-- The chunks in memory are those of a chunk row, for all given columns. -/
def Loaded (memory : MemoryRaster α) (layout : ChunkLayout) (columns : List Nat) (row : Nat)
    (chunks : List (Nat × Array Sample)) : Prop :=
  ∀ column ∈ columns, chunks.lookup column = some (memory.chunkSamples layout column row)

/-- The chunks in memory are those of the row that the scan takes them for. -/
def Progress.IsCurrent (memory : MemoryRaster α) (layout : ChunkLayout) (columns : List Nat)
    (progress : Progress) : Prop :=
  ∀ row, progress.loadedRow = some row → Loaded memory layout columns row progress.chunks

section Scan

variable {raster : ChunkedRaster α} {memory : MemoryRaster α}

/-- A chunk that reaches into the image is decoded under its number. -/
theorem decode_chunk_eq (holds : raster.Holds memory) {column row : Nat}
    (inX : column * raster.layout.chunkWidth < memory.info.width)
    (inY : row * raster.layout.chunkHeight < memory.info.height) :
    raster.layout.index column row = .ok (row * raster.layout.across + column) ∧
      raster.decode (row * raster.layout.across + column) =
        .ok (memory.chunkSamples raster.layout column row) := by
  have inAcross : column < raster.layout.across := by
    obtain ⟨chunkWidth, chunkHeight, layout_eq⟩ := holds.layout_eq
    rw [layout_eq] at inX ⊢
    exact ChunkLayout.lt_across_cover inX
  have inCount : row * raster.layout.across + column <
      raster.layout.across * raster.layout.down memory.info.height :=
    rowMajor_lt inAcross (ChunkLayout.lt_down inY)
  have inWords : row * raster.layout.across + column ≤ word32Max := by
    have := holds.count_le
    omega
  refine ⟨if_pos inWords, ?_⟩
  rw [holds.decode_eq _ inCount, rowMajor_mod row inAcross, rowMajor_div row inAcross]

/-- Loading a chunk of the image puts it in front of the others. -/
theorem loadColumn_eq (holds : raster.Holds memory) {column row : Nat}
    (inX : column * raster.layout.chunkWidth < memory.info.width)
    (inY : row * raster.layout.chunkHeight < memory.info.height) (progress : Progress) :
    raster.loadColumn row progress column =
      .ok { progress with
        chunks := (column, memory.chunkSamples raster.layout column row) :: progress.chunks
        decoded := progress.decoded ++ [row * raster.layout.across + column] } := by
  obtain ⟨numbered, decoded⟩ := decode_chunk_eq holds inX inY
  unfold loadColumn
  rw [numbered]
  show (do
    let samples ← raster.decode (row * raster.layout.across + column)
    return ({ progress with
      chunks := (column, samples) :: progress.chunks
      decoded := progress.decoded ++ [row * raster.layout.across + column] } : Progress)) = _
  rw [decoded]
  rfl

/-- Loading several columns puts them in front one after another. -/
theorem foldlM_loadColumn_eq (holds : raster.Holds memory) {row : Nat}
    (inY : row * raster.layout.chunkHeight < memory.info.height) (columns : List Nat)
    (inX : ∀ column ∈ columns, column * raster.layout.chunkWidth < memory.info.width)
    (progress : Progress) :
    columns.foldlM (raster.loadColumn row) progress =
      .ok { progress with
        chunks := (columns.map fun column =>
          (column, memory.chunkSamples raster.layout column row)).reverse ++ progress.chunks
        decoded := progress.decoded ++
          columns.map fun column => row * raster.layout.across + column } := by
  induction columns generalizing progress with
  | nil => simp [pure, Except.pure]
  | cons head tail inductionHypothesis =>
      rw [List.foldlM_cons, loadColumn_eq holds (inX head (by simp)) inY]
      show tail.foldlM (raster.loadColumn row) _ = _
      rw [inductionHypothesis (fun column member => inX column (by simp [member]))]
      simp

/-- After entering a chunk row its chunks are in memory, whether they were
before or not, and nothing has been written. -/
theorem enterRow_spec (holds : raster.Holds memory) {row : Nat}
    (inY : row * raster.layout.chunkHeight < memory.info.height) {columns : List Nat}
    (inX : ∀ column ∈ columns, column * raster.layout.chunkWidth < memory.info.width)
    {progress : Progress} (current : progress.IsCurrent memory raster.layout columns) :
    ∃ ready, raster.enterRow columns progress row = .ok ready ∧
      ready.loadedRow = some row ∧ Loaded memory raster.layout columns row ready.chunks ∧
        ready.output = progress.output := by
  unfold enterRow
  by_cases isLoaded : progress.loadedRow = some row
  · rw [if_pos isLoaded]
    exact ⟨progress, rfl, isLoaded, current row isLoaded, rfl⟩
  · rw [if_neg isLoaded, foldlM_loadColumn_eq holds inY columns inX]
    refine ⟨_, rfl, rfl, ?_, rfl⟩
    intro column member
    apply lookup_eq_some fun column => memory.chunkSamples raster.layout column row
    · intro entry inEntries
      simp only [List.append_nil, List.mem_reverse, List.mem_map] at inEntries
      obtain ⟨other, -, rfl⟩ := inEntries
      rfl
    · simpa using member

/-- Out of the chunks of its row, a pixel has the samples it has in memory. -/
theorem pixelSamples_eq (holds : raster.Holds memory) {x y : Nat} (inX : x < memory.info.width)
    (inY : y < memory.info.height) {columns : List Nat} {chunks : List (Nat × Array Sample)}
    (loaded : Loaded memory raster.layout columns (y / raster.layout.chunkHeight) chunks)
    (touched : x / raster.layout.chunkWidth ∈ columns) :
    raster.pixelSamples chunks x y = .ok (memory.pixelSamples x y) := by
  have bands : (memory.pixelSamples x y).length = memory.info.bands :=
    MemoryRaster.length_pixelSamples holds.complete inX inY
  simp only [pixelSamples, loaded _ touched, holds.info_eq, Option.getD_some]
  rw [mapM_eq_ok fun band => (memory.pixelSamples x y)[band]?.getD default]
  · congr 1
    apply List.ext_getElem
    · simp [bands]
    · intro band inMap inPixel
      simp [List.getElem?_eq_getElem inPixel]
  · intro band member
    have inBands := List.mem_range.mp member
    have inPixel : band < (memory.pixelSamples x y).length := by omega
    have sample := MemoryRaster.getElem?_chunkSamples raster.layout holds.complete
      inX inY inBands
    rw [List.getElem?_eq_getElem inPixel] at sample
    simp only [sample, List.getElem?_eq_getElem inPixel, Option.getD_some]

/-- One image row: its pixels are appended, and the scan still knows what it has
in memory. -/
theorem scanRow_spec (holds : raster.Holds memory) {columns : List Nat}
    (inX : ∀ x ∈ columns, x < memory.info.width) {y : Nat} (inY : y < memory.info.height)
    (type : PixelType) {progress : Progress}
    (current : progress.IsCurrent memory raster.layout (chunkColumns raster.layout columns)) :
    ∃ next, raster.scanRow type columns (chunkColumns raster.layout columns) progress y = .ok next ∧
      next.IsCurrent memory raster.layout (chunkColumns raster.layout columns) ∧
        next.output =
          (columns.flatMap fun x => memory.pixelSamples x y).foldl type.write progress.output := by
  have chunkInX : ∀ column ∈ chunkColumns raster.layout columns,
      column * raster.layout.chunkWidth < memory.info.width := by
    intro column member
    obtain ⟨x, sampled, rfl⟩ := (mem_chunkColumns columns).mp member
    exact Nat.lt_of_le_of_lt (Nat.div_mul_le_self x _) (inX x sampled)
  have chunkInY : y / raster.layout.chunkHeight * raster.layout.chunkHeight < memory.info.height :=
    Nat.lt_of_le_of_lt (Nat.div_mul_le_self y _) inY
  obtain ⟨ready, entered, isLoaded, loaded, unwritten⟩ :=
    enterRow_spec holds chunkInY chunkInX current
  have pixels : columns.mapM (fun x => raster.pixelSamples ready.chunks x y) =
      .ok (columns.map fun x => memory.pixelSamples x y) :=
    mapM_eq_ok _ columns fun x sampled =>
      pixelSamples_eq holds (inX x sampled) inY loaded
        ((mem_chunkColumns columns).mpr ⟨x, sampled, rfl⟩)
  refine ⟨{ ready with
    output := (columns.flatMap fun x => memory.pixelSamples x y).foldl type.write ready.output },
    ?_, ?_, ?_⟩
  · unfold scanRow
    rw [entered]
    show (do
      let pixels ← columns.mapM fun x => raster.pixelSamples ready.chunks x y
      return ({ ready with output := pixels.flatten.foldl type.write ready.output } : Progress)) = _
    rw [pixels, List.flatMap_def]
    rfl
  · intro row isRow
    have sameRow : y / raster.layout.chunkHeight = row := Option.some.inj (isLoaded.symm.trans isRow)
    rw [← sameRow]
    exact loaded
  · rw [unwritten]

/-- All image rows, by induction over what is left of them. -/
theorem foldlM_scanRow_spec (holds : raster.Holds memory) {columns : List Nat}
    (inX : ∀ x ∈ columns, x < memory.info.width) (type : PixelType) (rows : List Nat)
    (inY : ∀ y ∈ rows, y < memory.info.height) {progress : Progress}
    (current : progress.IsCurrent memory raster.layout (chunkColumns raster.layout columns)) :
    ∃ finished,
      rows.foldlM (raster.scanRow type columns (chunkColumns raster.layout columns)) progress =
        .ok finished ∧
      finished.output =
        (rows.flatMap fun y => columns.flatMap fun x => memory.pixelSamples x y).foldl type.write
          progress.output := by
  induction rows generalizing progress with
  | nil => exact ⟨progress, rfl, rfl⟩
  | cons y rest inductionHypothesis =>
      obtain ⟨next, scanned, nextCurrent, written⟩ :=
        scanRow_spec holds inX (inY y (by simp)) type current
      obtain ⟨finished, run, output⟩ :=
        inductionHypothesis (fun row member => inY row (by simp [member])) nextCurrent
      refine ⟨finished, ?_, ?_⟩
      · rw [List.foldlM_cons, scanned]
        exact run
      · rw [output, written, List.flatMap_cons, List.foldl_append]

end Scan

/-! ## The two reads -/

section Reads

variable [Scalar α] [Allocator] {raster : ChunkedRaster α} {memory : MemoryRaster α}

/-- A window that is read from memory is read from chunks, with the same
bytes. -/
theorem read_of_check_eq_ok (holds : raster.Holds memory) {request : ReadRequest}
    {plan : ReadPlan}
    (accepted : ReadPlan.check α request.region memory.info.width memory.info.height
      memory.info.bands request.outWidth request.outHeight request.type = .ok plan) :
    raster.read request =
      .ok ((memory.gather plan).foldl request.type.write ByteArray.empty) := by
  obtain ⟨fits, -, -, -, planned⟩ := ReadPlan.check_eq_ok accepted
  have inX : ∀ x ∈ plan.columns, x < memory.info.width := by
    intro x member
    rw [planned] at member
    exact ReadPlan.column_lt fits member
  have inY : ∀ y ∈ plan.rows, y < memory.info.height := by
    intro y member
    rw [planned] at member
    exact ReadPlan.row_lt fits member
  have idle : Progress.start.IsCurrent memory raster.layout
      (chunkColumns raster.layout plan.columns) := by
    intro row isRow
    cases isRow
  obtain ⟨finished, run, output⟩ :=
    foldlM_scanRow_spec holds inX request.type plan.rows inY idle
  unfold read scan
  rw [holds.info_eq, accepted]
  show Except.map Prod.fst (do
    let finished ← plan.rows.foldlM (raster.scanRow request.type plan.columns
      (chunkColumns raster.layout plan.columns)) .start
    return (finished.output, finished.decoded)) = _
  rw [run]
  show Except.ok finished.output = _
  rw [output]
  rfl

/-- A raster in chunks answers every request as the same raster in memory does:
with the same bytes or the same refusal.  Refused are exactly the windows that
do not fit, the empty outputs and the buffers that cannot be reserved. -/
theorem read_eq_memory_read (holds : raster.Holds memory) (request : ReadRequest) :
    raster.read request = memory.read request ∧
      ((raster.read request).isOk = true ↔
        request.region.Fits memory.info.width memory.info.height ∧
          0 < request.outWidth ∧ 0 < request.outHeight ∧
            (bufferLength request.outWidth request.outHeight memory.info.bands
              request.type).isOk = true) := by
  cases checked : ReadPlan.check α request.region memory.info.width memory.info.height
      memory.info.bands request.outWidth request.outHeight request.type with
  | error error =>
      have refused : raster.read request = .error error := by
        unfold read scan
        rw [holds.info_eq, checked]
        rfl
      refine ⟨?_, ?_⟩
      · rw [refused, MemoryRaster.read, checked]
      · rw [refused]
        constructor
        · intro impossible
          cases impossible
        · rintro ⟨fits, wide, high, reserved⟩
          rw [ReadPlan.check_of_fits fits wide high reserved] at checked
          cases checked
  | ok plan =>
      have answered := read_of_check_eq_ok holds checked
      obtain ⟨fits, wide, high, reserved, -⟩ := ReadPlan.check_eq_ok checked
      refine ⟨?_, ?_⟩
      · rw [answered, MemoryRaster.read, checked]
      · rw [answered]
        exact ⟨fun _ => ⟨fits, wide, high, reserved⟩, fun _ => rfl⟩

end Reads

/-! ### A raster of 3 × 3 bytes in four chunks -/

/-- An image with a missing number that is not the usual one in its middle. -/
def cornerImage : MemoryRaster Float where
  info := {
    width := 3
    height := 3
    bands := 1
    pixelType := .float64
    noData := none
    geoTransform := ⟨0.0, 1.0, 0.0, 0.0, 0.0, -1.0⟩
    srs := none }
  samples := #[⟨0⟩, ⟨1⟩, ⟨2⟩, ⟨3⟩, ⟨0xFFF8000000000001⟩, ⟨5⟩, ⟨6⟩, ⟨7⟩, ⟨8⟩]

/-- The same image in chunks of 2 × 2 pixels, of which only the first is whole. -/
def cornerChunks : ChunkedRaster Float where
  info := cornerImage.info
  layout := ChunkLayout.cover 3 2 2
  decode
    | 0 => .ok #[⟨0⟩, ⟨1⟩, ⟨3⟩, ⟨0xFFF8000000000001⟩]
    | 1 => .ok #[⟨2⟩, ⟨5⟩]
    | 2 => .ok #[⟨6⟩, ⟨7⟩]
    | 3 => .ok #[⟨8⟩]
    | _ => .error (.datasetRead (.image .truncated))

theorem holds_cornerImage : cornerChunks.Holds cornerImage where
  info_eq := rfl
  layout_eq := ⟨2, 2, rfl⟩
  complete := rfl
  count_le := by decide
  decode_eq := by
    intro number inCount
    match number, inCount with
    | 0, _ => rfl
    | 1, _ => rfl
    | 2, _ => rfl
    | 3, _ => rfl
    | number + 4, inCount =>
        change number + 4 < 4 at inCount
        omega

section Corner

open scoped Allocator

/-- The middle pixels are read across all four chunks. -/
theorem read_corner :
    cornerChunks.Holds cornerImage ∧
      cornerChunks.read ⟨⟨1, 1, 2, 2⟩, 2, 2, .float64⟩ =
        cornerImage.read ⟨⟨1, 1, 2, 2⟩, 2, 2, .float64⟩ ∧
      (cornerChunks.read ⟨⟨1, 1, 2, 2⟩, 2, 2, .float64⟩).isOk = true := by
  obtain ⟨same, accepted⟩ :=
    read_eq_memory_read holds_cornerImage ⟨⟨1, 1, 2, 2⟩, 2, 2, .float64⟩
  exact ⟨holds_cornerImage, same, accepted.mpr (by decide)⟩

end Corner

end ChunkedRaster

end TileAtlas
