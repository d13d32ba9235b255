import TileAtlas.Proofs.Number.Counting
import TileAtlas.Proofs.Raster.Chunked

/-!
Contract: which chunks a scan decodes.

Owns:
- `ChunkLayout.Contains` and `ChunkedRaster.Touches`, the chunks with a sampled
  pixel in them;
- `visited`, the chunks of one chunk row after another, each row entered where
  the scan leaves the one before;
- what an image row adds to the decoded chunks, and all image rows together;
- `scan_congr` and `exists_scan`: only the touched chunks decide about a scan.

Does not own: what the chunks hold.

## Why no chunk is decoded twice

Chunks are kept for one chunk row only.  That row is not entered again because
the sampled rows never go back, whatever the numbers round to.
-/

namespace TileAtlas

namespace ChunkLayout

variable {layout : ChunkLayout} {chunk : Nat × Nat} {x y : Nat}

/-- A chunk, as its column and its row, contains the pixels of its rectangle. -/
structure Contains (layout : ChunkLayout) (chunk : Nat × Nat) (x y : Nat) : Prop where
  left : chunk.1 * layout.chunkWidth ≤ x
  right : x < (chunk.1 + 1) * layout.chunkWidth
  top : chunk.2 * layout.chunkHeight ≤ y
  bottom : y < (chunk.2 + 1) * layout.chunkHeight

theorem contains_iff :
    layout.Contains chunk x y ↔
      chunk.1 = x / layout.chunkWidth ∧ chunk.2 = y / layout.chunkHeight := by
  constructor
  · rintro ⟨left, right, top, bottom⟩
    exact ⟨(Nat.div_eq_of_lt_le left right).symm, (Nat.div_eq_of_lt_le top bottom).symm⟩
  · rintro ⟨column, row⟩
    refine ⟨?_, ?_, ?_, ?_⟩
    · rw [column]
      exact Nat.div_mul_le_self x _
    · rw [column, Nat.mul_comm]
      exact Nat.lt_mul_div_succ x layout.chunkWidth_pos
    · rw [row]
      exact Nat.div_mul_le_self y _
    · rw [row, Nat.mul_comm]
      exact Nat.lt_mul_div_succ y layout.chunkHeight_pos

/-- The height of the part of a chunk row that lies in the image. -/
def dataHeight (layout : ChunkLayout) (row imageHeight : Nat) : Nat :=
  min layout.chunkHeight (imageHeight - row * layout.chunkHeight)

/-- The chunks have the numbers, one after another. -/
def AreNumbered (layout : ChunkLayout) : List (Nat × Nat) → List Nat → Prop :=
  List.Forall₂ fun chunk number => layout.index chunk.1 chunk.2 = .ok number

end ChunkLayout

/-- A source pixel that a column and a row of the output are taken from. -/
def ReadRequest.Samples (request : ReadRequest) (x y : Nat) : Prop :=
  (∃ column < request.outWidth,
    x = nearestSource Float column request.outWidth request.region.xOff request.region.width) ∧
  ∃ row < request.outHeight,
    y = nearestSource Float row request.outHeight request.region.yOff request.region.height

namespace ChunkedRaster

/-! ## Chunks in the order of a scan -/

/-- The chunks that are decoded to have a chunk row in memory. -/
def entered (columns : List Nat) (loadedRow : Option Nat) (row : Nat) : List (Nat × Nat) :=
  if loadedRow = some row then [] else columns.map fun column => (column, row)

/-- The chunks that are decoded for one chunk row after another. -/
def visited (columns : List Nat) : Option Nat → List Nat → List (Nat × Nat)
  | _, [] => []
  | loadedRow, row :: rows => entered columns loadedRow row ++ visited columns (some row) rows

section Visited

variable {columns rows : List Nat} {loadedRow : Option Nat} {chunk : Nat × Nat}

theorem mem_entered_iff {row : Nat} : chunk ∈ entered columns loadedRow row ↔
    chunk.1 ∈ columns ∧ chunk.2 = row ∧ loadedRow ≠ some row := by
  unfold entered
  obtain ⟨column, chunkRow⟩ := chunk
  split
  · next same => simp [same]
  · next differ =>
      simp only [List.mem_map, Prod.mk.injEq]
      constructor
      · rintro ⟨other, member, rfl, rfl⟩
        exact ⟨member, rfl, differ⟩
      · rintro ⟨member, rfl, -⟩
        exact ⟨column, member, rfl, rfl⟩

/-- Rows that do not go back behind the loaded one and never go back. -/
def GoesOn (loadedRow : Option Nat) (rows : List Nat) : Prop :=
  (∀ loaded ∈ loadedRow, ∀ row ∈ rows, loaded ≤ row) ∧ rows.Pairwise (· ≤ ·)

theorem GoesOn.tail {row : Nat} (goesOn : GoesOn loadedRow (row :: rows)) :
    GoesOn (some row) rows := by
  obtain ⟨-, ordered⟩ := goesOn
  rw [List.pairwise_cons] at ordered
  refine ⟨fun loaded isLoaded => ?_, ordered.2⟩
  cases isLoaded
  exact ordered.1

/-- The chunks of every row that comes are visited, but for the loaded one. -/
theorem mem_visited_iff (goesOn : GoesOn loadedRow rows) : chunk ∈ visited columns loadedRow rows ↔
    chunk.1 ∈ columns ∧ chunk.2 ∈ rows ∧ loadedRow ≠ some chunk.2 := by
  induction rows generalizing loadedRow with
  | nil => simp [visited]
  | cons row rows inductionHypothesis =>
      rw [visited, List.mem_append, mem_entered_iff, inductionHypothesis goesOn.tail, List.mem_cons]
      constructor
      · rintro (⟨inColumns, rfl, notLoaded⟩ | ⟨inColumns, inRows, notHere⟩)
        · exact ⟨inColumns, .inl rfl, notLoaded⟩
        · refine ⟨inColumns, .inr inRows, fun isLoaded => ?_⟩
          -- the loaded row would lie before this one and behind it
          have before : chunk.2 ≤ row := goesOn.1 chunk.2 isLoaded row (by simp)
          have behind : row ≤ chunk.2 := goesOn.tail.1 row rfl chunk.2 inRows
          exact notHere (congrArg some (le_antisymm behind before))
      · rintro ⟨inColumns, here, notLoaded⟩
        by_cases isHere : chunk.2 = row
        · exact .inl ⟨inColumns, isHere, isHere ▸ notLoaded⟩
        · exact .inr ⟨inColumns, here.resolve_left isHere,
            fun same => isHere (Option.some.inj same).symm⟩

theorem nodup_visited (distinct : columns.Nodup) (goesOn : GoesOn loadedRow rows) :
    (visited columns loadedRow rows).Nodup := by
  induction rows generalizing loadedRow with
  | nil => exact List.nodup_nil
  | cons row rows inductionHypothesis =>
      rw [visited, List.nodup_append]
      refine ⟨?_, inductionHypothesis goesOn.tail, ?_⟩
      · unfold entered
        split
        · exact List.nodup_nil
        · exact distinct.map fun first second same => congrArg Prod.fst same
      · -- a row that is in memory is not entered
        rintro chunk inRow other inOthers rfl
        rw [mem_entered_iff] at inRow
        rw [mem_visited_iff goesOn.tail] at inOthers
        exact inOthers.2.2 (congrArg some inRow.2.1.symm)

end Visited

/-! ## What is decoded -/

section Decoded

variable {α : Type} {raster : ChunkedRaster α}

/-- Loading a chunk writes its number down. -/
theorem loadColumn_spec {row column : Nat} {progress next : Progress}
    (loads : raster.loadColumn row progress column = .ok next) :
    ∃ number, raster.layout.index column row = .ok number ∧
      next.decoded = progress.decoded ++ [number] := by
  obtain ⟨number, numbered, loads⟩ := bind_eq_ok loads
  obtain ⟨samples, -, loads⟩ := bind_eq_ok loads
  cases loads
  exact ⟨number, numbered, rfl⟩

theorem foldlM_loadColumn_spec {row : Nat} {columns : List Nat} {progress loaded : Progress}
    (loads : columns.foldlM (raster.loadColumn row) progress = .ok loaded) :
    ∃ numbers, raster.layout.AreNumbered (columns.map fun column => (column, row)) numbers ∧
      loaded.decoded = progress.decoded ++ numbers := by
  induction columns generalizing progress with
  | nil =>
      cases loads
      exact ⟨[], .nil, (List.append_nil _).symm⟩
  | cons column columns inductionHypothesis =>
      rw [List.foldlM_cons] at loads
      obtain ⟨next, loadsFirst, loadsRest⟩ := bind_eq_ok loads
      obtain ⟨number, numbered, decodedFirst⟩ := loadColumn_spec loadsFirst
      obtain ⟨numbers, areNumbered, decoded⟩ := inductionHypothesis loadsRest
      refine ⟨number :: numbers, .cons numbered areNumbered, ?_⟩
      rw [decoded, decodedFirst, List.append_assoc, List.singleton_append]

/-- An image row decodes the chunks of its chunk row, unless they are in memory. -/
theorem scanRow_decoded {type : PixelType} {columns touched : List Nat} {y : Nat}
    {progress next : Progress}
    (scans : raster.scanRow type columns touched progress y = .ok next) :
    ∃ numbers,
      raster.layout.AreNumbered
        (entered touched progress.loadedRow (y / raster.layout.chunkHeight)) numbers ∧
      next.decoded = progress.decoded ++ numbers ∧
      next.loadedRow = some (y / raster.layout.chunkHeight) := by
  obtain ⟨ready, enters, scans⟩ := bind_eq_ok scans
  obtain ⟨pixels, -, scans⟩ := bind_eq_ok scans
  cases scans
  unfold enterRow at enters
  unfold entered
  split at enters
  · next isLoaded =>
      cases enters
      rw [if_pos isLoaded]
      exact ⟨[], .nil, (List.append_nil _).symm, isLoaded⟩
  · next notLoaded =>
      rw [if_neg notLoaded]
      obtain ⟨loaded, loads, enters⟩ := bind_eq_ok enters
      cases enters
      obtain ⟨numbers, areNumbered, decoded⟩ := foldlM_loadColumn_spec loads
      exact ⟨numbers, areNumbered, decoded, rfl⟩

/-- All image rows decode what is visited on their way. -/
theorem foldlM_scanRow_decoded {type : PixelType} {columns touched : List Nat} (rows : List Nat)
    {progress finished : Progress}
    (scans : rows.foldlM (raster.scanRow type columns touched) progress = .ok finished) :
    ∃ numbers,
      raster.layout.AreNumbered (visited touched progress.loadedRow
        (rows.map fun y => y / raster.layout.chunkHeight)) numbers ∧
      finished.decoded = progress.decoded ++ numbers := by
  induction rows generalizing progress with
  | nil =>
      cases scans
      exact ⟨[], .nil, (List.append_nil _).symm⟩
  | cons y rows inductionHypothesis =>
      rw [List.foldlM_cons] at scans
      obtain ⟨next, scansFirst, scansRest⟩ := bind_eq_ok scans
      obtain ⟨first, firstNumbered, decodedFirst, isLoaded⟩ := scanRow_decoded scansFirst
      obtain ⟨numbers, areNumbered, decoded⟩ := inductionHypothesis scansRest
      rw [isLoaded] at areNumbered
      refine ⟨first ++ numbers, ?_, ?_⟩
      · exact List.rel_append firstNumbered areNumbered
      · rw [decoded, decodedFirst, List.append_assoc]

/-- Chunks of the image that have numbers have different ones. -/
theorem nodup_of_areNumbered {layout : ChunkLayout} {chunks : List (Nat × Nat)}
    {numbers : List Nat} (areNumbered : layout.AreNumbered chunks numbers)
    (distinct : chunks.Nodup) (inAcross : ∀ chunk ∈ chunks, chunk.1 < layout.across) :
    numbers.Nodup := by
  have places : numbers = chunks.map fun chunk => chunk.2 * layout.across + chunk.1 := by
    clear distinct inAcross
    induction areNumbered with
    | nil => rfl
    | cons numbered _ inductionHypothesis =>
        unfold ChunkLayout.index at numbered
        dsimp only at numbered
        split at numbered <;> cases numbered
        rw [List.map_cons, inductionHypothesis]
  rw [places]
  refine distinct.map_on fun first inFirst second inSecond same => ?_
  have firstColumn := rowMajor_mod first.2 (inAcross first inFirst)
  have firstRow := rowMajor_div first.2 (inAcross first inFirst)
  have secondColumn := rowMajor_mod second.2 (inAcross second inSecond)
  have secondRow := rowMajor_div second.2 (inAcross second inSecond)
  rw [same] at firstColumn firstRow
  exact Prod.ext (firstColumn.symm.trans secondColumn) (firstRow.symm.trans secondRow)

end Decoded

/-! ## What a scan depends on -/

section Dependence

variable {α : Type} {raster other : ChunkedRaster α}

/-- Rasters that differ in their chunks at most. -/
structure HasForm (other raster : ChunkedRaster α) : Prop where
  info_eq : other.info = raster.info
  layout_eq : other.layout = raster.layout

/-- The chunk is decoded alike, if it has a number. -/
def Agrees (other raster : ChunkedRaster α) (chunk : Nat × Nat) : Prop :=
  ∀ number, raster.layout.index chunk.1 chunk.2 = .ok number →
    other.decode number = raster.decode number

theorem loadColumn_congr (form : other.HasForm raster) {column row : Nat}
    (agrees : other.Agrees raster (column, row)) (progress : Progress) :
    other.loadColumn row progress column = raster.loadColumn row progress column := by
  unfold loadColumn
  rw [form.layout_eq]
  cases numbered : raster.layout.index column row with
  | error error => rfl
  | ok number =>
      change (other.decode number >>= _) = (raster.decode number >>= _)
      rw [agrees number numbered]

theorem scanRow_congr (form : other.HasForm raster) {type : PixelType}
    {columns touched : List Nat} {y : Nat}
    (agree : ∀ column ∈ touched, other.Agrees raster (column, y / raster.layout.chunkHeight))
    (progress : Progress) :
    other.scanRow type columns touched progress y =
      raster.scanRow type columns touched progress y := by
  have enters : other.enterRow touched progress (y / raster.layout.chunkHeight) =
      raster.enterRow touched progress (y / raster.layout.chunkHeight) := by
    unfold enterRow
    rw [foldlM_congr touched fun column member => loadColumn_congr form (agree column member)]
  have pixels (chunks : List (Nat × Array Sample)) (x : Nat) :
      other.pixelSamples chunks x y = raster.pixelSamples chunks x y := by
    unfold pixelSamples
    rw [form.info_eq, form.layout_eq]
  unfold scanRow
  rw [form.layout_eq, enters]
  simp only [pixels]

end Dependence

/-! ## When a scan succeeds -/

section Success

variable {α : Type} {raster : ChunkedRaster α}

/-- The number of samples in the part of a chunk that lies in the image. -/
def chunkSize (raster : ChunkedRaster α) (chunk : Nat × Nat) : Nat :=
  raster.layout.dataWidth chunk.1 raster.info.width *
    raster.layout.dataHeight chunk.2 raster.info.height * raster.info.bands

/-- The chunk has a number, and its samples are decoded completely. -/
def Decodes (raster : ChunkedRaster α) (chunk : Nat × Nat) : Prop :=
  ∃ number samples, raster.layout.index chunk.1 chunk.2 = .ok number ∧
    raster.decode number = .ok samples ∧ raster.chunkSize chunk ≤ samples.size

/-- The chunks in memory are complete ones of a chunk row, for all given columns. -/
structure HasRow (raster : ChunkedRaster α) (columns : List Nat) (row : Nat)
    (chunks : List (Nat × Array Sample)) : Prop where
  complete : ∀ entry ∈ chunks, raster.chunkSize (entry.1, row) ≤ entry.2.size
  covering : ∀ column ∈ columns, column ∈ chunks.map Prod.fst

theorem exists_loadColumn {row column : Nat} (decodes : raster.Decodes (column, row))
    (progress : Progress) :
    ∃ samples next, raster.loadColumn row progress column = .ok next ∧
      next.chunks = (column, samples) :: progress.chunks ∧
        raster.chunkSize (column, row) ≤ samples.size := by
  obtain ⟨number, samples, numbered, decoded, enough⟩ := decodes
  refine ⟨samples, { progress with
    chunks := (column, samples) :: progress.chunks
    decoded := progress.decoded ++ [number] }, ?_, rfl, enough⟩
  unfold loadColumn
  rw [numbered]
  change (raster.decode number >>= _) = _
  rw [decoded]
  rfl

theorem exists_foldlM_loadColumn {row : Nat} {before columns : List Nat}
    (decodes : ∀ column ∈ columns, raster.Decodes (column, row)) {progress : Progress}
    (hasRow : raster.HasRow before row progress.chunks) :
    ∃ loaded, columns.foldlM (raster.loadColumn row) progress = .ok loaded ∧
      raster.HasRow (before ++ columns) row loaded.chunks := by
  induction columns generalizing before progress with
  | nil => exact ⟨progress, rfl, by rwa [List.append_nil]⟩
  | cons column columns inductionHypothesis =>
      obtain ⟨samples, next, loads, chunks, enough⟩ :=
        exists_loadColumn (decodes column (by simp)) progress
      have nextHasRow : raster.HasRow (before ++ [column]) row next.chunks := by
        rw [chunks]
        refine ⟨?_, ?_⟩
        · rw [List.forall_mem_cons]
          exact ⟨enough, hasRow.complete⟩
        · intro other member
          rw [List.map_cons, List.mem_cons]
          rcases List.mem_append.mp member with inBefore | isColumn
          · exact .inr (hasRow.covering other inBefore)
          · exact .inl (List.mem_singleton.mp isColumn)
      obtain ⟨loaded, loadsRest, loadedHasRow⟩ := inductionHypothesis
        (fun other member => decodes other (by simp [member])) nextHasRow
      refine ⟨loaded, ?_, ?_⟩
      · rw [List.foldlM_cons, loads]
        exact loadsRest
      · rwa [List.append_assoc, List.singleton_append] at loadedHasRow

theorem exists_enterRow {columns : List Nat} {row : Nat}
    (decodes : ∀ column ∈ columns, raster.Decodes (column, row)) {progress : Progress}
    (current : ∀ loaded ∈ progress.loadedRow, raster.HasRow columns loaded progress.chunks) :
    ∃ ready, raster.enterRow columns progress row = .ok ready ∧ ready.loadedRow = some row ∧
      raster.HasRow columns row ready.chunks := by
  unfold enterRow
  by_cases isLoaded : progress.loadedRow = some row
  · rw [if_pos isLoaded]
    exact ⟨progress, rfl, isLoaded, current row isLoaded⟩
  · rw [if_neg isLoaded]
    have cleared : raster.HasRow [] row ({ progress with chunks := [] } : Progress).chunks :=
      ⟨nofun, nofun⟩
    obtain ⟨loaded, loads, hasRow⟩ := exists_foldlM_loadColumn decodes cleared
    rw [loads]
    exact ⟨{ loaded with loadedRow := some row }, rfl, rfl, hasRow⟩

/-- The samples of a pixel of the image lie in the part of its chunk that does. -/
theorem sampleStart_lt {x y band : Nat} (inX : x < raster.info.width)
    (inY : y < raster.info.height) (inBands : band < raster.info.bands) :
    (y % raster.layout.chunkHeight *
          raster.layout.dataWidth (x / raster.layout.chunkWidth) raster.info.width +
        x % raster.layout.chunkWidth) * raster.info.bands + band <
      raster.chunkSize (x / raster.layout.chunkWidth, y / raster.layout.chunkHeight) := by
  have splitX := Nat.div_add_mod' x raster.layout.chunkWidth
  have splitY := Nat.div_add_mod' y raster.layout.chunkHeight
  have insideX := Nat.mod_lt x raster.layout.chunkWidth_pos
  have insideY := Nat.mod_lt y raster.layout.chunkHeight_pos
  have localX : x % raster.layout.chunkWidth <
      raster.layout.dataWidth (x / raster.layout.chunkWidth) raster.info.width := by
    unfold ChunkLayout.dataWidth
    omega
  have localY : y % raster.layout.chunkHeight <
      raster.layout.dataHeight (y / raster.layout.chunkHeight) raster.info.height := by
    unfold ChunkLayout.dataHeight
    omega
  have scaled := Nat.mul_le_mul_right raster.info.bands (rowMajor_lt localX localY)
  rw [Nat.succ_mul] at scaled
  exact (Nat.add_lt_add_left inBands _).trans_le scaled

theorem exists_pixelSamples {columns : List Nat} {chunks : List (Nat × Array Sample)} {x y : Nat}
    (inX : x < raster.info.width) (inY : y < raster.info.height)
    (hasRow : raster.HasRow columns (y / raster.layout.chunkHeight) chunks)
    (touched : x / raster.layout.chunkWidth ∈ columns) :
    ∃ samples, raster.pixelSamples chunks x y = .ok samples := by
  obtain ⟨samples, found, isEntry⟩ := exists_lookup (hasRow.covering _ touched)
  have enough := hasRow.complete _ isEntry
  simp only [pixelSamples, found, Option.getD_some]
  obtain ⟨start, isStart⟩ : ∃ start, (y % raster.layout.chunkHeight *
      raster.layout.dataWidth (x / raster.layout.chunkWidth) raster.info.width +
        x % raster.layout.chunkWidth) * raster.info.bands = start := ⟨_, rfl⟩
  rw [isStart]
  refine ⟨_, mapM_eq_ok (fun band => samples[start + band]?.getD default) _ fun band member => ?_⟩
  have inChunk := sampleStart_lt inX inY (List.mem_range.mp member)
  rw [isStart] at inChunk
  have inSamples := inChunk.trans_le enough
  rw [Array.getElem?_eq_getElem inSamples]
  rfl

/-- An image row is scanned if the chunks of its row decode. -/
theorem exists_scanRow (type : PixelType) {columns : List Nat}
    (inX : ∀ x ∈ columns, x < raster.info.width) {y : Nat} (inY : y < raster.info.height)
    (decodes : ∀ column ∈ chunkColumns raster.layout columns,
      raster.Decodes (column, y / raster.layout.chunkHeight))
    {progress : Progress}
    (current : ∀ loaded ∈ progress.loadedRow,
      raster.HasRow (chunkColumns raster.layout columns) loaded progress.chunks) :
    ∃ next, raster.scanRow type columns (chunkColumns raster.layout columns) progress y = .ok next ∧
      ∀ loaded ∈ next.loadedRow,
        raster.HasRow (chunkColumns raster.layout columns) loaded next.chunks := by
  obtain ⟨ready, enters, isLoaded, hasRow⟩ := exists_enterRow decodes current
  have samples : ∀ x ∈ columns, ∃ samples, raster.pixelSamples ready.chunks x y = .ok samples :=
    fun x sampled => exists_pixelSamples (inX x sampled) inY hasRow
      ((mem_chunkColumns columns).mpr ⟨x, sampled, rfl⟩)
  choose! sample isSample using samples
  refine ⟨{ ready with
    output := (columns.map sample).flatten.foldl type.write ready.output }, ?_, ?_⟩
  · unfold scanRow
    rw [enters]
    change (do
      let pixels ← columns.mapM fun x => raster.pixelSamples ready.chunks x y
      return ({ ready with output := pixels.flatten.foldl type.write ready.output } : Progress)) = _
    rw [mapM_eq_ok sample columns isSample]
    rfl
  · intro loaded isRow
    have same : y / raster.layout.chunkHeight = loaded :=
      Option.some.inj (isLoaded.symm.trans isRow)
    exact same ▸ hasRow

theorem exists_foldlM_scanRow (type : PixelType) {columns : List Nat}
    (inX : ∀ x ∈ columns, x < raster.info.width) (rows : List Nat)
    (inY : ∀ y ∈ rows, y < raster.info.height)
    (decodes : ∀ y ∈ rows, ∀ column ∈ chunkColumns raster.layout columns,
      raster.Decodes (column, y / raster.layout.chunkHeight))
    {progress : Progress}
    (current : ∀ loaded ∈ progress.loadedRow,
      raster.HasRow (chunkColumns raster.layout columns) loaded progress.chunks) :
    ∃ finished,
      rows.foldlM (raster.scanRow type columns (chunkColumns raster.layout columns)) progress =
        .ok finished := by
  induction rows generalizing progress with
  | nil => exact ⟨progress, rfl⟩
  | cons y rows inductionHypothesis =>
      obtain ⟨next, scans, nextCurrent⟩ :=
        exists_scanRow type inX (inY y (by simp)) (decodes y (by simp)) current
      obtain ⟨finished, run⟩ := inductionHypothesis (fun row member => inY row (by simp [member]))
        (fun row member => decodes row (by simp [member])) nextCurrent
      refine ⟨finished, ?_⟩
      rw [List.foldlM_cons, scans]
      exact run

end Success

/-! ## Touched columns -/

theorem pairwise_insertColumn (column : Nat) {columns : List Nat}
    (ascending : columns.Pairwise (· < ·)) : (insertColumn column columns).Pairwise (· < ·) := by
  induction columns with
  | nil => exact List.pairwise_singleton _ _
  | cons head rest inductionHypothesis =>
      have ordered := List.pairwise_cons.mp ascending
      unfold insertColumn
      split
      · next before =>
          refine List.pairwise_cons.mpr ⟨fun other member => ?_, ascending⟩
          rcases List.mem_cons.mp member with rfl | inRest
          · exact before
          · exact before.trans (ordered.1 other inRest)
      · split
        · exact ascending
        · next notBefore differ =>
            refine List.pairwise_cons.mpr ⟨fun other member => ?_, inductionHypothesis ordered.2⟩
            rcases (mem_insertColumn rest).mp member with rfl | inRest
            · omega
            · exact ordered.1 other inRest

theorem nodup_chunkColumns (layout : ChunkLayout) (columns : List Nat) :
    (chunkColumns layout columns).Nodup := by
  have ascending : ∀ (columns found : List Nat), found.Pairwise (· < ·) →
      (columns.foldl (fun found column => insertColumn (column / layout.chunkWidth) found)
        found).Pairwise (· < ·) := by
    intro columns
    induction columns with
    | nil => exact fun _ kept => kept
    | cons column columns inductionHypothesis =>
        exact fun found kept => inductionHypothesis _ (pairwise_insertColumn _ kept)
  exact (ascending columns [] .nil).imp Nat.ne_of_lt

/-! ## Scans of floats -/

section Scans

variable {raster : ChunkedRaster Float} {request : ReadRequest}

/-- A chunk with a sampled pixel in it. -/
def Touches (raster : ChunkedRaster Float) (request : ReadRequest) (chunk : Nat × Nat) : Prop :=
  ∃ x y, request.Samples x y ∧ raster.layout.Contains chunk x y

theorem samples_iff {x y : Nat} : request.Samples x y ↔
    x ∈ (ReadPlan.ofRegion Float request.region request.outWidth request.outHeight).columns ∧
      y ∈ (ReadPlan.ofRegion Float request.region request.outWidth request.outHeight).rows := by
  unfold ReadRequest.Samples ReadPlan.ofRegion
  simp only [List.mem_map, List.mem_range, eq_comm]

/-- The touched chunks are those of a touched column and a touched row. -/
theorem touches_iff {chunk : Nat × Nat} {plan : ReadPlan}
    (planned : plan = ReadPlan.ofRegion Float request.region request.outWidth request.outHeight) :
    raster.Touches request chunk ↔
      chunk.1 ∈ chunkColumns raster.layout plan.columns ∧
        chunk.2 ∈ plan.rows.map fun y => y / raster.layout.chunkHeight := by
  unfold Touches
  simp only [samples_iff, ← planned, ChunkLayout.contains_iff, mem_chunkColumns, List.mem_map]
  constructor
  · rintro ⟨x, y, ⟨inColumns, inRows⟩, column, row⟩
    exact ⟨⟨x, inColumns, column⟩, y, inRows, row.symm⟩
  · rintro ⟨⟨x, inColumns, column⟩, y, inRows, row⟩
    exact ⟨x, y, ⟨inColumns, inRows⟩, column, row.symm⟩

/-- The sampled rows never go back. -/
theorem pairwise_rows (region : PixelRegion) (outWidth outHeight : Nat) :
    (ReadPlan.ofRegion Float region outWidth outHeight).rows.Pairwise (· ≤ ·) := by
  refine List.pairwise_map.mpr ?_
  exact (List.pairwise_lt_range).imp fun before => nearestSource_le _ _ _ before.le

variable [Allocator]

/-- A scan that succeeds has decoded each touched chunk once, and no other. -/
theorem scan_decoded {chunkWidth chunkHeight : Nat}
    (covers : raster.layout = .cover raster.info.width chunkWidth chunkHeight)
    {bytes : ByteArray} {decoded : List Nat} (scans : raster.scan request = .ok (bytes, decoded)) :
    decoded.Nodup ∧ ∃ chunks, chunks.Nodup ∧
      (∀ chunk, chunk ∈ chunks ↔ raster.Touches request chunk) ∧
        raster.layout.AreNumbered chunks decoded := by
  obtain ⟨plan, accepted, scans⟩ := bind_eq_ok scans
  obtain ⟨finished, run, scans⟩ := bind_eq_ok scans
  cases scans
  obtain ⟨fits, -, -, -, planned⟩ := ReadPlan.check_eq_ok accepted
  obtain ⟨numbers, areNumbered, isDecoded⟩ := foldlM_scanRow_decoded plan.rows run
  have goesOn : GoesOn none (plan.rows.map fun y => y / raster.layout.chunkHeight) := by
    refine ⟨nofun, List.pairwise_map.mpr ?_⟩
    rw [planned]
    exact (pairwise_rows _ _ _).imp fun ordered => Nat.div_le_div_right ordered
  have distinct := nodup_visited (nodup_chunkColumns raster.layout plan.columns) goesOn
  have members (chunk : Nat × Nat) : chunk ∈ visited (chunkColumns raster.layout plan.columns) none
      (plan.rows.map fun y => y / raster.layout.chunkHeight) ↔ raster.Touches request chunk := by
    rw [mem_visited_iff goesOn, touches_iff planned]
    simp
  have inAcross : ∀ chunk ∈ visited (chunkColumns raster.layout plan.columns) none
      (plan.rows.map fun y => y / raster.layout.chunkHeight), chunk.1 < raster.layout.across := by
    intro chunk member
    obtain ⟨inColumns, -, -⟩ := (mem_visited_iff goesOn).mp member
    obtain ⟨x, sampled, column⟩ := (mem_chunkColumns plan.columns).mp inColumns
    rw [planned] at sampled
    have inX := ReadPlan.column_lt fits sampled
    have startsInX : chunk.1 * raster.layout.chunkWidth < raster.info.width :=
      column ▸ (Nat.div_mul_le_self x _).trans_lt inX
    rw [covers] at startsInX ⊢
    exact ChunkLayout.lt_across_cover startsInX
  have decoded_eq : finished.decoded = numbers := isDecoded
  rw [decoded_eq]
  exact ⟨nodup_of_areNumbered areNumbered distinct inAcross, _, distinct, members, areNumbered⟩

/-- A scan depends on the touched chunks only, be the others as they may. -/
theorem scan_congr {other : ChunkedRaster Float} (form : other.HasForm raster)
    (agree : ∀ chunk, raster.Touches request chunk → other.Agrees raster chunk) :
    other.scan request = raster.scan request := by
  unfold scan
  rw [form.info_eq, form.layout_eq]
  cases accepted : ReadPlan.check Float request.region raster.info.width raster.info.height
      raster.info.bands request.outWidth request.outHeight request.type with
  | error error => rfl
  | ok plan =>
      obtain ⟨-, -, -, -, planned⟩ := ReadPlan.check_eq_ok accepted
      have rows : plan.rows.foldlM (other.scanRow request.type plan.columns
            (chunkColumns raster.layout plan.columns)) .start =
          plan.rows.foldlM (raster.scanRow request.type plan.columns
            (chunkColumns raster.layout plan.columns)) .start :=
        foldlM_congr plan.rows (fun y sampled => scanRow_congr form fun column member =>
          agree _ ((touches_iff planned).mpr ⟨member, List.mem_map_of_mem sampled⟩)) _
      change (do
        let finished ← plan.rows.foldlM (other.scanRow request.type plan.columns
          (chunkColumns raster.layout plan.columns)) .start
        return (finished.output, finished.decoded)) = _
      rw [rows]
      rfl

/-- A window that fits is scanned if the touched chunks decode. -/
theorem exists_scan (fits : request.region.Fits raster.info.width raster.info.height)
    (wide : 0 < request.outWidth) (high : 0 < request.outHeight)
    (reserved : (bufferLength request.outWidth request.outHeight raster.info.bands
      request.type).isOk = true)
    (decodes : ∀ chunk, raster.Touches request chunk → raster.Decodes chunk) :
    ∃ bytes decoded, raster.scan request = .ok (bytes, decoded) := by
  obtain ⟨plan, planned⟩ : ∃ plan,
      plan = ReadPlan.ofRegion Float request.region request.outWidth request.outHeight := ⟨_, rfl⟩
  have accepted := ReadPlan.check_of_fits (α := Float) fits wide high reserved
  rw [← planned] at accepted
  have inX : ∀ x ∈ plan.columns, x < raster.info.width := fun x sampled =>
    ReadPlan.column_lt fits (planned ▸ sampled)
  have inY : ∀ y ∈ plan.rows, y < raster.info.height := fun y sampled =>
    ReadPlan.row_lt fits (planned ▸ sampled)
  obtain ⟨finished, run⟩ := exists_foldlM_scanRow request.type inX plan.rows inY
    (fun y sampled column member =>
      decodes _ ((touches_iff planned).mpr ⟨member, List.mem_map_of_mem sampled⟩))
    (fun loaded (isLoaded : loaded ∈ Progress.start.loadedRow) => nomatch isLoaded)
  refine ⟨finished.output, finished.decoded, ?_⟩
  unfold scan
  rw [accepted]
  change (do
    let finished ← plan.rows.foldlM (raster.scanRow request.type plan.columns
      (chunkColumns raster.layout plan.columns)) .start
    return (finished.output, finished.decoded)) = _
  rw [run]
  rfl

/-- A read of a window that fits decodes each touched chunk once and no other: it
says so if it succeeds, it succeeds if those chunks decode, and it does not depend
on the others. -/
theorem scan_touched (raster : ChunkedRaster Float) (request : ReadRequest)
    {chunkWidth chunkHeight : Nat}
    (covers : raster.layout = .cover raster.info.width chunkWidth chunkHeight)
    (fits : request.region.Fits raster.info.width raster.info.height)
    (wide : 0 < request.outWidth) (high : 0 < request.outHeight)
    (reserved : (bufferLength request.outWidth request.outHeight raster.info.bands
      request.type).isOk = true) :
    (∀ bytes decoded, raster.scan request = .ok (bytes, decoded) →
      decoded.Nodup ∧ ∃ chunks, chunks.Nodup ∧
        (∀ chunk, chunk ∈ chunks ↔ raster.Touches request chunk) ∧
          raster.layout.AreNumbered chunks decoded) ∧
    ((∀ chunk, raster.Touches request chunk → raster.Decodes chunk) →
      ∃ bytes decoded, raster.scan request = .ok (bytes, decoded)) ∧
    (∀ other : ChunkedRaster Float, other.HasForm raster →
      (∀ chunk, raster.Touches request chunk → other.Agrees raster chunk) →
        other.scan request = raster.scan request) :=
  ⟨fun _ _ scans => scan_decoded covers scans, exists_scan fits wide high reserved,
    fun _ form agree => scan_congr form agree⟩

end Scans

section LeftChunks

open scoped Allocator

/-- Four chunks of 2 × 2 pixels, of which only the left ones can be decoded. -/
def leftChunks : ChunkedRaster Float where
  info := cornerImage.info
  layout := ChunkLayout.cover 3 2 2
  decode
    | 0 => .ok #[⟨0⟩, ⟨1⟩, ⟨3⟩, ⟨4⟩]
    | 2 => .ok #[⟨6⟩, ⟨7⟩]
    | _ => .error (.datasetRead (.image .truncated))

/-- One column of output for three columns of the image. -/
def middleColumn : ReadRequest := ⟨⟨0, 0, 3, 3⟩, 1, 3, .float64⟩

theorem touches_middleColumn {chunk : Nat × Nat} (touches : leftChunks.Touches middleColumn chunk) :
    chunk = (0, 0) ∨ chunk = (0, 1) := by
  have columns : ∀ column < 1, nearestSource Float column 1 0 3 = 1 := by decide +kernel
  have rows : ∀ row < 3, nearestSource Float row 3 0 3 = row := by decide +kernel
  obtain ⟨x, y, ⟨⟨column, inColumns, isX⟩, row, inRows, isY⟩, contains⟩ := touches
  have column_eq : chunk.1 = 0 := by
    rw [(ChunkLayout.contains_iff.mp contains).1, isX.trans (columns column inColumns)]
    rfl
  have row_eq : chunk.2 = row / 2 := by
    rw [(ChunkLayout.contains_iff.mp contains).2, isY.trans (rows row inRows)]
    rfl
  change row < 3 at inRows
  rcases (show row / 2 = 0 ∨ row / 2 = 1 by omega) with upper | lower
  · exact .inl (Prod.ext column_eq (row_eq.trans upper))
  · exact .inr (Prod.ext column_eq (row_eq.trans lower))

/-- The right chunks cannot be decoded, and a read of the middle column does not
try to. -/
theorem scan_leftChunks :
    (∃ bytes decoded, leftChunks.scan middleColumn = .ok (bytes, decoded) ∧ decoded.Nodup) ∧
      (leftChunks.scan middleColumn).map Prod.snd = .ok [0, 2] := by
  have covers : leftChunks.layout = .cover leftChunks.info.width 2 2 := rfl
  obtain ⟨once, succeeds, -⟩ := scan_touched leftChunks middleColumn covers (by decide)
    (by decide) (by decide) (by decide)
  obtain ⟨bytes, decoded, scans⟩ := succeeds fun chunk touches => by
    rcases touches_middleColumn touches with rfl | rfl
    · exact ⟨0, _, rfl, rfl, by decide⟩
    · exact ⟨2, _, rfl, rfl, by decide⟩
  exact ⟨⟨bytes, decoded, scans, (once bytes decoded scans).1⟩, by decide +kernel⟩

end LeftChunks

end ChunkedRaster

end TileAtlas
