import TileAtlas.Number.Binary

/-!
Contract: samples on their way from one encoding to another.

Owns:
- `Sample`, a 64-bit float held as its word;
- samples of 32-bit words and the words of samples;
- `Sample.complement`, the distance from one.

A missing number is one of many words.  Its sign and its payload go from one
encoding to another with it, so a sample is more than the float it stands for.
-/

namespace TileAtlas

/-- A 64-bit float with all bits that it was stored with. -/
structure Sample where
  word : UInt64
deriving DecidableEq, Repr, Inhabited

namespace Sample

/-- The sample of a float; all missing numbers have one. -/
def ofFloat (value : Float) : Sample := ⟨value.toBits⟩

def value (sample : Sample) : Float := Float.ofBits sample.word

def ofSingleWord (word : Nat) : Sample :=
  ⟨UInt64.ofNat (Binary.recode Binary.single Binary.double word)⟩

/-- The nearest word of the 32-bit format; too large becomes infinite. -/
def singleWord (sample : Sample) : Nat :=
  Binary.recode Binary.double Binary.single sample.word.toNat

/-- One minus a sample.  A missing number stays, made quiet. -/
def complement (sample : Sample) : Sample :=
  if sample.value.isNaN then
    ⟨UInt64.ofNat (Binary.recode Binary.double Binary.double sample.word.toNat)⟩
  else ofFloat (1.0 - sample.value)

end Sample

end TileAtlas
