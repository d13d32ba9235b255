import TileAtlas.Raster.Bytes

/-!
Contract: samples that are stored as differences from their neighbours.

Owns:
- `Predictor`, the ways to store the samples of a row;
- `Predictor.accumulate`, from differences back to words;
- `Predictor.gather`, the same for floats whose bytes are stored apart, all
  greatest bytes first.

A sample is a difference from the sample of the same band in the pixel before
it; the first pixel of a row is stored as it is.
-/

namespace TileAtlas

/-- How the samples of a row are stored. -/
inductive Predictor where
  | none
  | horizontal
  | floatingPoint
deriving DecidableEq, Repr

namespace Predictor

def ofCode? : Nat → Option Predictor
  | 1 => some .none
  | 2 => some .horizontal
  | 3 => some .floatingPoint
  | _ => Option.none

def piecesOf (size : Nat) : Nat → List UInt8 → List (List UInt8)
  | 0, _ => []
  | count + 1, bytes => bytes.take size :: piecesOf size count (bytes.drop size)

/-- The words of a row of bytes; bytes that are no whole word at the end are left
out. -/
def wordsOf (number : List UInt8 → Nat) (size : Nat) (bytes : List UInt8) : List Nat :=
  (piecesOf size (bytes.length / size) bytes).map number

/-- Add to each word the result for the pixel before it; `before` holds the
results for that pixel, the oldest first. -/
def accumulateFrom (modulus : Nat) (before : List Nat) : List Nat → List Nat
  | [] => []
  | word :: rest =>
      let result := (before.headD 0 + word) % modulus
      result :: accumulateFrom modulus (before.tail ++ [result]) rest

/-- The words whose differences over pixels of `samples` bands are given. -/
def accumulate (modulus samples : Nat) (words : List Nat) : List Nat :=
  accumulateFrom modulus (List.replicate samples 0) words

/-- The words of a row whose bytes are differences, and stored with the greatest
bytes of all words first. -/
def gather (size samples : Nat) (bytes : List UInt8) : List Nat :=
  let plain := ((accumulate 256 samples (bytes.map UInt8.toNat)).map UInt8.ofNat).toArray
  let count := plain.size / size
  (List.range count).map fun index =>
    Bytes.big ((List.range size).map fun place => plain.getD (place * count + index) 0)

end Predictor

end TileAtlas
