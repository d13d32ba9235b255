import TileAtlas.Tiff.GeoTags
import TileAtlas.Tiff.Image

/-!
Contract: georeferenced TIFF files as datasets.

Owns: `TiffRaster.ofBytes`, which reads everything but the samples, and refuses
first a broken layout, then a colour model, then a sample type, then separate
planes, then a broken transform.
-/

namespace TileAtlas.TiffRaster

private def lift {β : Type} : Except ImageFault β → Except Error β
  | .ok value => .ok value
  | .error fault => .error (.datasetRead (.image fault))

/-- Refuse the planes of a directory: 16-bit numbers announce that each band has
one of its own. -/
def requireSharedPlane (directory : Directory) : Except Error Unit := do
  let codes ← lift (directory.optional 284 Field.shorts)
  if (codes.getD []).head? = some 2 then throw (.unsupportedPixelType .separatePlanes)

/-- The sample format that a directory announces. -/
def sampleFormat (directory : Directory) : Except Error Nat := do
  let codes ← lift (directory.optional 339 Field.shorts)
  return ((codes.getD []).head?).getD 1

def ofBytes (content : ByteArray) : Except Error (ChunkedRaster Float) := do
  let directory ← lift (Directory.ofBytes content)
  let image ← lift (TiffImage.ofDirectory directory)
  let bands ← image.bands
  let type ← TiffImage.pixelType (← sampleFormat directory) image.bits
  if 1 < bands then requireSharedPlane directory
  let geoTransform ← lift (GeoTags.transform directory)
  return {
    info :=
      { width := image.width
        height := image.height
        bands := bands
        pixelType := type
        noData := GeoTags.noData? directory
        geoTransform := geoTransform
        srs := GeoTags.reference? directory }
    layout := ChunkLayout.cover image.width image.chunkWidth image.chunkHeight
    decode := fun number => lift (image.decodeChunk directory.file type number) }

/-- Open a file that stands under a path.  Only an unsupported sample layout is
reported as such. -/
def ofFile (path : String) (content : ByteArray) : Except Error (ChunkedRaster Float) :=
  match ofBytes content with
  | .ok raster => .ok raster
  | .error (.unsupportedPixelType fault) => .error (.unsupportedPixelType fault)
  | .error error => .error (.datasetOpen path error.message)

end TileAtlas.TiffRaster
