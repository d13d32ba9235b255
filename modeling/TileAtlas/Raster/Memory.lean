import TileAtlas.Raster.Dataset

/-!
Contract: rasters held in memory.

Owns:
- `MemoryRaster`, samples in the order row, column, band;
- reading and overwriting single pixels;
- `MemoryRaster.read`, the resampled window.
-/

namespace TileAtlas

/-- A raster whose samples lie in memory. -/
structure MemoryRaster (α : Type) where
  info : DatasetInfo α
  samples : Array Sample

namespace MemoryRaster

variable {α : Type}

/-- How many samples a raster has. -/
def sampleCount (info : DatasetInfo α) : Except Error Nat := do
  Count.times (← Count.times info.width info.height) info.bands

/-- Take over samples, one for each band of each pixel. -/
def ofSamples (info : DatasetInfo α) (samples : Array Float) : Except Error (MemoryRaster α) := do
  let expected ← sampleCount info
  if samples.size = expected then return ⟨info, samples.map Sample.ofFloat⟩
  else
    throw (.datasetRead
      (.sampleCount expected info.width info.height info.bands samples.size))

/-- Every pixel holds the same value in each band. -/
def filled (info : DatasetInfo α) (pixel : Array Float) : Except Error (MemoryRaster α) :=
  if pixel.size = info.bands then do
    let _ ← sampleCount info
    ofSamples info ((List.replicate (info.width * info.height) pixel.toList).flatten.toArray)
  else .error (.datasetRead (.fillBands pixel.size info.bands))

def pixelStart (info : DatasetInfo α) (x y : Nat) : Nat := (y * info.width + x) * info.bands

/-- The sample of a band at a pixel, if there is one. -/
def sample? (raster : MemoryRaster α) (x y band : Nat) : Option Float :=
  if x < raster.info.width ∧ y < raster.info.height ∧ band < raster.info.bands then
    raster.samples[pixelStart raster.info x y + band]?.map Sample.value
  else none

/-- Overwrite the bands of a pixel from the first on, as far as values are
given; a pixel outside the raster is left alone. -/
def setPixel (raster : MemoryRaster α) (x y : Nat) (pixel : List Float) : MemoryRaster α :=
  if x < raster.info.width ∧ y < raster.info.height then
    let start := pixelStart raster.info x y
    let values := (pixel.take raster.info.bands).zipIdx
    { raster with
      samples := values.foldl
        (fun samples (value, band) => samples.setIfInBounds (start + band) (Sample.ofFloat value))
        raster.samples }
  else raster

def pixelSamples (raster : MemoryRaster α) (x y : Nat) : List Sample :=
  let start := pixelStart raster.info x y
  (raster.samples.extract start (start + raster.info.bands)).toList

variable [Scalar α] [Allocator]

/-- The samples at the planned columns and rows. -/
def gather (raster : MemoryRaster α) (plan : ReadPlan) : List Sample :=
  plan.rows.flatMap fun y => plan.columns.flatMap fun x => raster.pixelSamples x y

def read (raster : MemoryRaster α) (request : ReadRequest) : Except Error ByteArray :=
  match ReadPlan.check α request.region raster.info.width raster.info.height raster.info.bands
      request.outWidth request.outHeight request.type with
  | .error error => .error error
  | .ok plan => .ok ((raster.gather plan).foldl request.type.write ByteArray.empty)

def toDataset (raster : MemoryRaster α) : Dataset α := ⟨raster.info, raster.read⟩

end MemoryRaster

end TileAtlas
