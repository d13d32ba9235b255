import TileAtlas.Proofs.Sequence
import TileAtlas.Proofs.Window.Position

/-!
Contract: how a window is spread over an output, in exact numbers.

Owns:
- `pixelsBefore`, how many pixels of a window end before the middle of an output
  pixel, and `nearestSource_eq_add`: that many pixels behind the offset lies the
  nearest source index;
- `IsResampling`, what the source indices of one axis have to be;
- `nearestSource_isResampling`: they are that for every two lengths.

Lengths are 64-bit counts.

## Why a quotient of counts

The middle of output pixel `i` lies `(i + 1/2) * length / outLength` into the
window.  Numerator and denominator doubled, this is a quotient of counts, and its
floor is one division.  Staying inside, rising, and missing or doubling no index
are then facts about that division.
-/

namespace TileAtlas

/-- How many of `length` pixels, spread over `outLength`, end before the middle
of an output pixel. -/
def pixelsBefore (length outLength outIndex : Nat) : Nat :=
  (2 * outIndex + 1) * length / (2 * outLength)

theorem nearestSource_eq_add {outIndex outLength : Nat} (offset : Nat) {length : Nat}
    (inside : outIndex < outLength) (positive : 0 < length) (small : length ≤ word64Max) :
    nearestSource Rat outIndex outLength offset length =
      offset + pixelsBefore length outLength outIndex := by
  have outPositive : (outLength : Rat) ≠ 0 := by exact_mod_cast Nat.ne_zero_of_lt inside
  have middle : ((outIndex : Rat) + 1 / 2) * (length / outLength) =
      (((2 * outIndex + 1) * length : Nat) : Rat) / ((2 * outLength : Nat) : Rat) := by
    push_cast
    field_simp
  rw [nearestSource_rat offset inside positive small, middle, Int.floor_toNat,
    Nat.floor_div_eq_div]
  rfl

/-! ## One division -/

section Counts

variable {length outLength : Nat}

theorem pixelsBefore_lt {index : Nat} (inside : index < outLength) (positive : 0 < length) :
    pixelsBefore length outLength index < length := by
  have beforeEnd : 2 * index + 1 < 2 * outLength := by omega
  exact Nat.div_lt_of_lt_mul (Nat.mul_lt_mul_of_pos_right beforeEnd positive)

theorem pixelsBefore_mono (length outLength : Nat) {index later : Nat} (ordered : index ≤ later) :
    pixelsBefore length outLength index ≤ pixelsBefore length outLength later :=
  Nat.div_le_div_right (Nat.mul_le_mul_right length (by omega))

/-- Output pixels behind the end would look behind the window. -/
theorem le_pixelsBefore {index : Nat} (outPositive : 0 < outLength) (beyond : outLength ≤ index) :
    length ≤ pixelsBefore length outLength index := by
  unfold pixelsBefore
  rw [Nat.le_div_iff_mul_le (by omega), Nat.mul_comm length]
  exact Nat.mul_le_mul_right length (by omega)

/-- An output at least as long as the window misses no index: the first middle
that is not before an index still lies in front of the next one. -/
theorem exists_pixelsBefore_eq {step : Nat} (inWindow : step < length)
    (enough : length ≤ outLength) :
    ∃ index < outLength, pixelsBefore length outLength index = step := by
  obtain ⟨index, short, reached⟩ : ∃ index,
      index * (2 * length) < step * (2 * outLength) + length ∧
        step * (2 * outLength) ≤ index * (2 * length) + length := by
    have positive : 0 < 2 * length := by omega
    have ends := Nat.div_mul_le_self (step * (2 * outLength) + length - 1) (2 * length)
    have next := Nat.lt_div_mul_add (a := step * (2 * outLength) + length - 1) positive
    exact ⟨(step * (2 * outLength) + length - 1) / (2 * length), by omega, by omega⟩
  have middle : (2 * index + 1) * length = index * (2 * length) + length := by ring
  have found : pixelsBefore length outLength index = step := by
    apply Nat.div_eq_of_lt_le
    · omega
    · rw [Nat.add_one_mul step]
      omega
  refine ⟨index, ?_, found⟩
  by_contra beyond
  have tooFar : length ≤ pixelsBefore length outLength index :=
    le_pixelsBefore (by omega) (Nat.le_of_not_lt beyond)
  omega

/-- An output `times` as long counts the window in runs. -/
theorem pixelsBefore_of_multiple (times : Nat) (positive : 0 < length) (index : Nat) :
    pixelsBefore length (times * length) index = index / times := by
  unfold pixelsBefore
  rw [← Nat.mul_assoc, Nat.mul_div_mul_right _ _ positive, ← Nat.div_div_eq_div_mul]
  congr 1
  omega

end Counts

/-- Counting in runs repeats every number as often as a run is long. -/
theorem map_div_range (value : Nat → Nat) (times count : Nat) :
    (List.range (count * times)).map (fun index => value (index / times)) =
      (List.range count).flatMap fun step => List.replicate times (value step) := by
  induction count with
  | zero => simp
  | succ count inductionHypothesis =>
      have lastRun : ((List.range times).map (count * times + ·)).map
          (fun index => value (index / times)) = List.replicate times (value count) := by
        rw [List.map_map, List.eq_replicate_iff]
        refine ⟨by simp, fun sampled member => ?_⟩
        obtain ⟨index, inRun, rfl⟩ := List.mem_map.mp member
        show value ((count * times + index) / times) = value count
        rw [rowMajor_div count (List.mem_range.mp inRun)]
      rw [Nat.succ_mul, List.range_add, List.map_append, lastRun, inductionHypothesis,
        List.range_succ, List.flatMap_append, List.flatMap_singleton]

/-! ## One axis -/

/-- The source indices of one axis, where `length` pixels from `offset` on are
spread over `outLength`. -/
structure IsResampling (source : Nat → Nat) (outLength offset length : Nat) : Prop where
  /-- No index outside the window is looked at. -/
  inside : ∀ index < outLength, offset ≤ source index ∧ source index ≤ offset + length - 1
  /-- The order of pixels is kept. -/
  rising : ∀ index later, index ≤ later → later < outLength → source index ≤ source later
  /-- A window that keeps its size is copied. -/
  copied : outLength = length → ∀ index < outLength, source index = offset + index
  /-- A window that does not shrink is shown as a whole. -/
  onto : length ≤ outLength → ∀ pixel, offset ≤ pixel → pixel ≤ offset + length - 1 →
    ∃ index < outLength, source index = pixel
  /-- A window that grows by a whole number shows every pixel so many times in a
  row. -/
  repeated : ∀ times, outLength = times * length → (List.range outLength).map source =
    (List.range length).flatMap fun step => List.replicate times (offset + step)

theorem nearestSource_isResampling (outLength offset : Nat) {length : Nat} (positive : 0 < length)
    (small : length ≤ word64Max) :
    IsResampling (fun index => nearestSource Rat index outLength offset length) outLength offset
      length where
  inside index inOutput := by
    have short := pixelsBefore_lt inOutput positive
    rw [nearestSource_eq_add offset inOutput positive small]
    omega
  rising index later ordered inOutput := by
    rw [nearestSource_eq_add offset (Nat.lt_of_le_of_lt ordered inOutput) positive small,
      nearestSource_eq_add offset inOutput positive small]
    exact Nat.add_le_add_left (pixelsBefore_mono length outLength ordered) offset
  copied same index inOutput := by
    have once : outLength = 1 * length := by omega
    rw [nearestSource_eq_add offset inOutput positive small, once,
      pixelsBefore_of_multiple 1 positive, Nat.div_one]
  onto enough pixel atLeast atMost := by
    obtain ⟨step, rfl⟩ := Nat.exists_eq_add_of_le atLeast
    obtain ⟨index, inOutput, found⟩ :=
      exists_pixelsBefore_eq (by omega : step < length) enough
    exact ⟨index, inOutput, by rw [nearestSource_eq_add offset inOutput positive small, found]⟩
  repeated times multiple := by
    rw [← map_div_range (offset + ·), Nat.mul_comm length, ← multiple]
    refine List.map_congr_left fun index member => ?_
    have inOutput := List.mem_range.mp member
    show nearestSource Rat index outLength offset length = offset + index / times
    rw [nearestSource_eq_add offset inOutput positive small, multiple,
      pixelsBefore_of_multiple times positive]

/-- Three pixels from the tenth on, twice as large. -/
theorem nearestSource_twiceAsLarge :
    0 < 3 ∧ 3 ≤ word64Max ∧
      (List.range 6).map (fun index => nearestSource Rat index 6 10 3) =
        [10, 10, 11, 11, 12, 12] :=
  ⟨by decide, by decide, (nearestSource_isResampling 6 10 (by decide) (by decide)).repeated 2 rfl⟩

end TileAtlas
