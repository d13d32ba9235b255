import TileAtlas.Raster.Chunked
import TileAtlas.Tiff.Directory
import TileAtlas.Tiff.Predictor

/-!
Contract: how the samples of a TIFF image are laid out.

Owns:
- `TiffImage`, the size, sample layout and chunks of an image;
- `TiffImage.ofDirectory`, which refuses inconsistent directories;
- `TiffImage.bands` and `TiffImage.pixelType`, what the samples mean here;
- `TiffImage.decodeChunk`, the samples of one strip or tile.

Only samples without compression can be decoded; a directory that asks for a
compression is accepted, and its chunks are refused.
-/

namespace TileAtlas

/-- What the samples of a pixel are. -/
inductive Photometric where
  | whiteIsZero
  | blackIsZero
  | rgb
  | palette
  | mask
  | cmyk
  | ycbcr
  | labColours
deriving DecidableEq, Repr

def Photometric.ofCode? : Nat → Option Photometric
  | 0 => some .whiteIsZero
  | 1 => some .blackIsZero
  | 2 => some .rgb
  | 3 => some .palette
  | 4 => some .mask
  | 5 => some .cmyk
  | 6 => some .ycbcr
  | 8 => some .labColours
  | _ => none

/-- The layout of an image. -/
structure TiffImage where
  width : Nat
  height : Nat
  samples : Nat
  /-- Bits of each sample. -/
  bits : Nat
  sampleFormat : Nat
  photometric : Photometric
  isCompressed : Bool
  predictor : Predictor
  /-- The bands lie in planes of their own. -/
  isPlanar : Bool
  chunkWidth : Nat
  chunkHeight : Nat
  /-- Where the chunks begin, and how long they are said to be. -/
  chunks : List (Nat × Nat)

namespace TiffImage

def pieces (whole length : Nat) : Nat := (whole + length - 1) / length

/-- All numbers of a list are the same one, which is returned. -/
def common? : List Nat → Option Nat
  | [] => none
  | first :: rest => if rest.all (· = first) then some first else none

def positive (tag number : Nat) : Except ImageFault Nat :=
  if number = 0 then .error (.tagValue tag) else .ok number

def readBits (directory : Directory) (samples : Nat) : Except ImageFault Nat := do
  let depths := (← directory.optional 258 Field.words).getD [1]
  if depths.length = samples ∨ depths.length = 1 then
    match common? depths with
    | some bits => if 0 < bits ∧ bits < 256 then return bits else throw (.tagValue 258)
    | none => throw (.tagValue 258)
  else throw (.tagValue 258)

def readSampleFormat (directory : Directory) : Except ImageFault Nat := do
  match common? ((← directory.optional 339 Field.words).getD [1]) with
  | some format => if format < 2 ^ 16 then return format else throw (.tagValue 339)
  | none => throw (.tagValue 339)

/-- The chunk size and the places of the chunks: strips or tiles, never both. -/
def readChunks (directory : Directory) (width height planes : Nat) :
    Except ImageFault (Nat × Nat × List (Nat × Nat)) := do
  let strips := (directory.field? 273).isSome ∧ (directory.field? 279).isSome
  let noStrips := (directory.field? 273).isNone ∧ (directory.field? 279).isNone
  let tiles := (directory.field? 324).isSome ∧ (directory.field? 325).isSome
  let noTiles := (directory.field? 324).isNone ∧ (directory.field? 325).isNone
  if strips ∧ noTiles then
    let offsets ← directory.required 273 Field.words
    let lengths ← directory.required 279 Field.words
    let rows ← positive 278 ((← directory.optional 278 Field.long).getD height)
    if offsets.length = lengths.length ∧ offsets.length = pieces height rows * planes then
      return (width, rows, offsets.zip lengths)
    else throw (.tagValue 273)
  else if noStrips ∧ tiles then
    let tileWidth ← positive 322 (← directory.required 322 Field.long)
    let tileHeight ← positive 323 (← directory.required 323 Field.long)
    let offsets ← directory.required 324 Field.words
    let lengths ← directory.required 325 Field.words
    if offsets.length = lengths.length ∧
        offsets.length = pieces width tileWidth * pieces height tileHeight * planes then
      return (tileWidth, tileHeight, offsets.zip lengths)
    else throw (.tagValue 324)
  else throw (.missingTag 273)

/-- The code of the compression whose chunks may share their tables. -/
def sharedTableCompression : Nat := 7

/-- Refuse tables that are no bytes or too short to hold a marker. -/
def checkSharedTables (directory : Directory) (compression : Nat) : Except ImageFault Unit := do
  if compression = sharedTableCompression then
    match ← directory.optional 347 Field.octets with
    | some tables => if tables.length < 2 then throw (.tagValue 347)
    | none => return ()

def ofDirectory (directory : Directory) : Except ImageFault TiffImage := do
  let width ← positive 256 (← directory.required 256 Field.long)
  let height ← positive 257 (← directory.required 257 Field.long)
  let some photometric := Photometric.ofCode? (← directory.required 262 Field.short)
    | throw (.tagValue 262)
  let compression := (← directory.optional 259 Field.short).getD 1
  checkSharedTables directory compression
  let samples ← positive 277 ((← directory.optional 277 Field.short).getD 1)
  let sampleFormat ← readSampleFormat directory
  let bits ← readBits directory samples
  let some predictor := Predictor.ofCode? ((← directory.optional 317 Field.short).getD 1)
    | throw (.tagValue 317)
  let planarCode := (← directory.optional 284 Field.short).getD 1
  if planarCode ≠ 1 ∧ planarCode ≠ 2 then throw (.tagValue 284)
  let isPlanar := planarCode = 2
  let (chunkWidth, chunkHeight, chunks) ←
    readChunks directory width height (if isPlanar then samples else 1)
  return { width, height, samples, bits, sampleFormat, photometric, predictor,
           isCompressed := compression ≠ 1, isPlanar, chunkWidth, chunkHeight, chunks }

/-- The number of bands, for the photometric interpretations that can be
rendered. -/
def bands (image : TiffImage) : Except Error Nat :=
  let unknown : Except Error Nat := .error (.datasetRead (.image .unsupported))
  let refused (description : String) : Except Error Nat :=
    .error (.unsupportedPixelType (.colourModel description))
  match image.photometric with
  | .rgb => if image.samples = 3 ∨ image.samples = 4 then .ok image.samples else unknown
  | .whiteIsZero | .blackIsZero =>
      if image.samples = 1 then .ok 1 else refused s!"of {image.samples} grey samples"
  | .cmyk => if image.samples = 4 ∨ image.samples = 5 then refused "CMYK" else unknown
  | .ycbcr => if image.samples = 3 then refused "YCbCr" else unknown
  | .palette | .mask | .labColours => unknown

/-- The sample type of a format code and a bit depth. -/
def pixelType (sampleFormat bits : Nat) : Except Error PixelType :=
  match sampleFormat, bits with
  | 1, 8 => .ok .byte
  | 2, 8 => .ok .int8
  | 1, 16 => .ok .uint16
  | 2, 16 => .ok .int16
  | 1, 32 => .ok .uint32
  | 2, 32 => .ok .int32
  | 3, 32 => .ok .float32
  | 3, 64 => .ok .float64
  | _, _ => .error (.unsupportedPixelType (.sampleFormat bits sampleFormat))

/-- Where white is zero, unsigned samples are counted down from their greatest
value and floating ones from one.  Signed samples cannot be so. -/
def invert? (type : PixelType) (word : Nat) : Option Nat :=
  match type.family with
  | .unsigned => some (type.modulus - 1 - word)
  | .floating => some (type.wordOf (type.sampleOf word).complement)
  | .signed => none

def stretch (file : TiffFile) (start count : Nat) : Except ImageFault (List UInt8) :=
  match Bytes.slice? file.content start count with
  | some row => .ok row
  | none => .error .truncated

/-- The longest chunk that is read. -/
def longestChunk : Nat := 2 ^ 27

/-- A chunk of an image: how many pixels of it lie in the image, and how many
bytes of the file its rows take up. -/
structure ChunkExtent where
  dataWidth : Nat
  dataHeight : Nat
  rowBytes : Nat
  dataBytes : Nat

def chunkExtent (image : TiffImage) (type : PixelType) (number : Nat) : ChunkExtent :=
  let across := pieces image.width image.chunkWidth
  let dataWidth := min image.chunkWidth (image.width - number % across * image.chunkWidth)
  let pixelBytes := image.samples * type.size
  { dataWidth
    dataHeight := min image.chunkHeight (image.height - number / across * image.chunkHeight)
    rowBytes := image.chunkWidth * pixelBytes
    dataBytes := dataWidth * pixelBytes }

/-- The words of the samples of a row.  Bytes behind the border of the image
are looked at only if the samples are interleaved with them. -/
def rowWords (image : TiffImage) (file : TiffFile) (type : PixelType) (extent : ChunkExtent)
    (start : Nat) : Except ImageFault (List Nat) := do
  let size := type.size
  match image.predictor with
  | .none => return Predictor.wordsOf file.order.number size (← stretch file start extent.dataBytes)
  | .horizontal =>
      let words := Predictor.wordsOf file.order.number size (← stretch file start extent.dataBytes)
      return Predictor.accumulate type.modulus image.samples words
  | .floatingPoint =>
      let bytes ← stretch file start extent.rowBytes
      return (Predictor.gather size image.samples bytes).take (extent.dataBytes / size)

def decodeRow (image : TiffImage) (file : TiffFile) (type : PixelType) (extent : ChunkExtent)
    (start : Nat) : Except ImageFault (List Sample) := do
  let words ← image.rowWords file type extent start
  if image.photometric = .whiteIsZero then
    match words.mapM (invert? type) with
    | some inverted => return inverted.map type.sampleOf
    | none => throw .unsupported
  else return words.map type.sampleOf

/-- The samples of a chunk that lie in the image. -/
def decodeChunk (image : TiffImage) (file : TiffFile) (type : PixelType) (number : Nat) :
    Except ImageFault (Array Sample) := do
  if image.isCompressed then throw .unsupported
  if image.predictor = .floatingPoint ∧ type.family ≠ .floating then throw .unsupported
  let some (offset, length) := image.chunks[number]? | throw (.tagValue 273)
  if longestChunk < length then throw .unsupported
  let extent := image.chunkExtent type number
  let beforeLast := offset + (extent.dataHeight - 1) * extent.rowBytes
  if file.content.size < beforeLast + extent.dataBytes then throw .truncated
  let rows ← (List.range extent.dataHeight).mapM fun y =>
    image.decodeRow file type extent (offset + y * extent.rowBytes)
  return rows.flatten.toArray

end TiffImage

end TileAtlas
