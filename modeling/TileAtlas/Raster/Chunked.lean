import TileAtlas.Raster.Dataset

/-!
Contract: rasters stored in chunks that are decoded one at a time.

Owns:
- `ChunkLayout`, the grid of strips or tiles over an image;
- `ChunkedRaster`, an image with a decoder for single chunks;
- `ChunkedRaster.scan`, the resampled window together with the list of the
  chunks that were decoded for it.

A window is scanned row by row.  The chunks of the sampled columns are decoded
when the scan enters a chunk row, and kept until it leaves it.
-/

namespace TileAtlas

/-- A grid of chunks that starts at the upper left corner of an image.  The
chunks of the last column and of the last row are cut off at the border. -/
structure ChunkLayout where
  chunkWidth : Nat
  chunkHeight : Nat
  /-- Chunks per row. -/
  across : Nat
  chunkWidth_pos : 0 < chunkWidth
  chunkHeight_pos : 0 < chunkHeight

namespace ChunkLayout

/-- The chunks that it takes to cover an image of the given width; chunks are
at least one pixel wide and high. -/
def cover (imageWidth chunkWidth chunkHeight : Nat) : ChunkLayout where
  chunkWidth := max chunkWidth 1
  chunkHeight := max chunkHeight 1
  across := (imageWidth + max chunkWidth 1 - 1) / max chunkWidth 1
  chunkWidth_pos := by omega
  chunkHeight_pos := by omega

/-- The number of a chunk: chunks are counted along rows, by 32-bit words. -/
def index (layout : ChunkLayout) (column row : Nat) : Except Error Nat :=
  let number := row * layout.across + column
  if number ≤ word32Max then .ok number else .error (.datasetRead (.chunkRange column row))

/-- The width of the part of a chunk column that lies in the image. -/
def dataWidth (layout : ChunkLayout) (column imageWidth : Nat) : Nat :=
  min layout.chunkWidth (imageWidth - column * layout.chunkWidth)

end ChunkLayout

/-- A raster whose chunks are decoded on demand.  A decoded chunk holds the
samples inside the image in the order row, column, band. -/
structure ChunkedRaster (α : Type) where
  info : DatasetInfo α
  layout : ChunkLayout
  decode : Nat → Except Error (Array Sample)

namespace ChunkedRaster

/-- Insert into an ascending list without repetition. -/
def insertColumn (column : Nat) : List Nat → List Nat
  | [] => [column]
  | head :: rest =>
      if column < head then column :: head :: rest
      else if column = head then head :: rest
      else head :: insertColumn column rest

/-- The chunk columns that pixel columns lie in, ascending. -/
def chunkColumns (layout : ChunkLayout) (columns : List Nat) : List Nat :=
  columns.foldl (fun found column => insertColumn (column / layout.chunkWidth) found) []

/-- How far a scan has come. -/
structure Progress where
  /-- The chunk row that is in memory. -/
  loadedRow : Option Nat
  /-- The decoded chunks of that row by their column. -/
  chunks : List (Nat × Array Sample)
  /-- The numbers of all chunks decoded so far, in order. -/
  decoded : List Nat
  output : ByteArray

def Progress.start : Progress := ⟨none, [], [], ByteArray.empty⟩

variable {α : Type}

/-- Decode one chunk of a chunk row and keep it. -/
def loadColumn (raster : ChunkedRaster α) (row : Nat) (progress : Progress) (column : Nat) :
    Except Error Progress := do
  let number ← raster.layout.index column row
  let samples ← raster.decode number
  return { progress with
    chunks := (column, samples) :: progress.chunks
    decoded := progress.decoded ++ [number] }

/-- Have the given chunk columns of a chunk row in memory and nothing else. -/
def enterRow (raster : ChunkedRaster α) (columns : List Nat) (progress : Progress) (row : Nat) :
    Except Error Progress :=
  if progress.loadedRow = some row then .ok progress
  else do
    let loaded ← columns.foldlM (raster.loadColumn row) { progress with chunks := [] }
    return { loaded with loadedRow := some row }

/-- The samples of a pixel out of the chunks in memory. -/
def pixelSamples (raster : ChunkedRaster α) (chunks : List (Nat × Array Sample)) (x y : Nat) :
    Except Error (List Sample) :=
  let layout := raster.layout
  let column := x / layout.chunkWidth
  let bands := raster.info.bands
  let stride := layout.dataWidth column raster.info.width
  let start := (y % layout.chunkHeight * stride + x % layout.chunkWidth) * bands
  let samples := (chunks.lookup column).getD #[]
  (List.range bands).mapM fun band =>
    match samples[start + band]? with
    | some value => .ok value
    | none => .error (.datasetRead (.pixelOutsideChunk x y))

/-- Append the sampled pixels of one image row. -/
def scanRow (raster : ChunkedRaster α) (type : PixelType) (columns touched : List Nat)
    (progress : Progress) (y : Nat) : Except Error Progress := do
  let ready ← raster.enterRow touched progress (y / raster.layout.chunkHeight)
  let pixels ← columns.mapM fun x => raster.pixelSamples ready.chunks x y
  return { ready with output := pixels.flatten.foldl type.write ready.output }

variable [Scalar α] [Allocator]

/-- Read a resampled window and say which chunks were decoded for it. -/
def scan (raster : ChunkedRaster α) (request : ReadRequest) :
    Except Error (ByteArray × List Nat) := do
  let plan ← ReadPlan.check α request.region raster.info.width raster.info.height raster.info.bands
    request.outWidth request.outHeight request.type
  let touched := chunkColumns raster.layout plan.columns
  let finished ← plan.rows.foldlM (raster.scanRow request.type plan.columns touched) .start
  return (finished.output, finished.decoded)

def read (raster : ChunkedRaster α) (request : ReadRequest) : Except Error ByteArray :=
  (raster.scan request).map Prod.fst

def toDataset (raster : ChunkedRaster α) : Dataset α := ⟨raster.info, raster.read⟩

end ChunkedRaster

end TileAtlas
