import Mathlib.Data.Finset.Max
import TileAtlas.Proofs.Number.Counting
import TileAtlas.Proofs.Number.Exact
import TileAtlas.Proofs.Number.Finite
import TileAtlas.Proofs.Raster.Cells
import TileAtlas.Sample.Imagery

/-!
Contract: blended colours stay among those they are blended from.

Owns:
- `weightedMean`, the exact mean that `Imagery.mix` rounds, and
  `isBetween_mix`: the rounded mean lies between two of its four bytes;
- `Imagery.neighbours`, the colours around a position, those beyond a border
  being the border's own;
- `Imagery.blend_isBounded`: where a blend is transparent, and what it lies
  between everywhere else.

Blends are exact here.  Of floats it is only said that a position which is no
number, or an infinite one, has no colour.
-/

namespace TileAtlas

/-! ## Means of bytes -/

/-- A byte lies between two of the others, or is one of them. -/
def IsBetween (byte : UInt8) (others : List UInt8) : Prop :=
  (∃ least ∈ others, least ≤ byte) ∧ ∃ greatest ∈ others, byte ≤ greatest

/-- The mean of the corners of a unit square at a point inside. -/
def weightedMean (u v upperLeft upperRight lowerLeft lowerRight : Rat) : Rat :=
  upperLeft * ((1 - u) * (1 - v)) + upperRight * (u * (1 - v)) + lowerLeft * ((1 - u) * v) +
    lowerRight * (u * v)

/-- The point lies in the unit square. -/
structure IsInSquare (u v : Rat) : Prop where
  left : 0 ≤ u
  right : u ≤ 1
  upper : 0 ≤ v
  lower : v ≤ 1

section Mean

variable {u v : Rat}

theorem weightedMean_mono (inside : IsInSquare u v)
    {upperLeft upperRight lowerLeft lowerRight : Rat} {otherUpperLeft otherUpperRight otherLowerLeft
      otherLowerRight : Rat} (atUpperLeft : upperLeft ≤ otherUpperLeft)
    (atUpperRight : upperRight ≤ otherUpperRight) (atLowerLeft : lowerLeft ≤ otherLowerLeft)
    (atLowerRight : lowerRight ≤ otherLowerRight) :
    weightedMean u v upperLeft upperRight lowerLeft lowerRight ≤
      weightedMean u v otherUpperLeft otherUpperRight otherLowerLeft otherLowerRight := by
  have left : 0 ≤ 1 - u := sub_nonneg.mpr inside.right
  have upper : 0 ≤ 1 - v := sub_nonneg.mpr inside.lower
  unfold weightedMean
  apply add_le_add
  · apply add_le_add
    · apply add_le_add
      · exact mul_le_mul_of_nonneg_right atUpperLeft (mul_nonneg left upper)
      · exact mul_le_mul_of_nonneg_right atUpperRight (mul_nonneg inside.left upper)
    · exact mul_le_mul_of_nonneg_right atLowerLeft (mul_nonneg left inside.upper)
  · exact mul_le_mul_of_nonneg_right atLowerRight (mul_nonneg inside.left inside.upper)

/-- The weights add up to one. -/
theorem weightedMean_const (u v value : Rat) : weightedMean u v value value value value = value := by
  unfold weightedMean
  ring

variable {upperLeft upperRight lowerLeft lowerRight : UInt8}

theorem le_weightedMean (inside : IsInSquare u v) {bound : Nat}
    (below : ∀ byte ∈ [upperLeft, upperRight, lowerLeft, lowerRight], bound ≤ byte.toNat) :
    (bound : Rat) ≤ weightedMean u v upperLeft.toNat upperRight.toNat lowerLeft.toNat
      lowerRight.toNat := by
  simp only [List.forall_mem_cons] at below
  obtain ⟨atUpperLeft, atUpperRight, atLowerLeft, atLowerRight, -⟩ := below
  calc (bound : Rat) = weightedMean u v bound bound bound bound :=
        (weightedMean_const u v bound).symm
    _ ≤ _ := weightedMean_mono inside (by exact_mod_cast atUpperLeft)
        (by exact_mod_cast atUpperRight) (by exact_mod_cast atLowerLeft)
        (by exact_mod_cast atLowerRight)

theorem weightedMean_le (inside : IsInSquare u v) {bound : Nat}
    (above : ∀ byte ∈ [upperLeft, upperRight, lowerLeft, lowerRight], byte.toNat ≤ bound) :
    weightedMean u v upperLeft.toNat upperRight.toNat lowerLeft.toNat lowerRight.toNat ≤
      (bound : Rat) := by
  simp only [List.forall_mem_cons] at above
  obtain ⟨atUpperLeft, atUpperRight, atLowerLeft, atLowerRight, -⟩ := above
  calc _ ≤ weightedMean u v bound bound bound bound :=
        weightedMean_mono inside (by exact_mod_cast atUpperLeft) (by exact_mod_cast atUpperRight)
          (by exact_mod_cast atLowerLeft) (by exact_mod_cast atLowerRight)
    _ = bound := weightedMean_const u v bound

/-- A mix is the mean, rounded to the nearest integer. -/
theorem toNat_mix (inside : IsInSquare u v) :
    (Imagery.mix u v upperLeft upperRight lowerLeft lowerRight).toNat =
      ⌊weightedMean u v upperLeft.toNat upperRight.toNat lowerLeft.toNat lowerRight.toNat +
        1 / 2⌋.toNat := by
  have nonneg : ((0 : Nat) : Rat) ≤ weightedMean u v upperLeft.toNat upperRight.toNat
      lowerLeft.toNat lowerRight.toNat := le_weightedMean inside fun byte _ => Nat.zero_le _
  have small : weightedMean u v upperLeft.toNat upperRight.toNat lowerLeft.toNat
      lowerRight.toNat ≤ (255 : Nat) :=
    weightedMean_le inside fun byte _ => Nat.le_of_lt_succ byte.toNat_lt
  have one : (1.0 : Rat) = 1 := by norm_num
  have half : (0.5 : Rat) = 1 / 2 := by norm_num
  have zero : (0.0 : Rat) = 0 := by norm_num
  have greatest : (255.0 : Rat) = (255 : Nat) := by norm_num
  have mixed : Imagery.mix u v upperLeft upperRight lowerLeft lowerRight =
      UInt8.ofNat (Scalar.truncateToCount (Scalar.clamp (weightedMean u v upperLeft.toNat
        upperRight.toNat lowerLeft.toNat lowerRight.toNat + 0.5) 0.0 255.0)) := by
    unfold Imagery.mix weightedMean
    rw [one]
    rfl
  generalize weightedMean u v upperLeft.toNat upperRight.toNat lowerLeft.toNat
    lowerRight.toNat = mean at *
  rw [Nat.cast_zero] at nonneg
  have rounded : ⌊mean + 1 / 2⌋ ≤ 255 := by
    refine Int.lt_add_one_iff.mp (Int.floor_lt.mpr ?_)
    push_cast at small ⊢
    linarith
  rw [mixed, Scalar.clamp_rat, half, zero, greatest, max_eq_left (by linarith),
    Scalar.truncateToCount_of_nonneg (le_min (Nat.cast_nonneg _) (by linarith)),
    Int.floor_mono.map_min, Int.floor_natCast]
  unfold word64Max
  rw [UInt8.toNat_ofNat_of_lt' (by unfold UInt8.size; omega)]
  omega

/-- Rounding to the nearest integer passes no integer. -/
theorem le_toNat_mix (inside : IsInSquare u v) {bound : Nat}
    (below : ∀ byte ∈ [upperLeft, upperRight, lowerLeft, lowerRight], bound ≤ byte.toNat) :
    bound ≤ (Imagery.mix u v upperLeft upperRight lowerLeft lowerRight).toNat := by
  have mean := le_weightedMean inside below
  have rounded : (bound : Int) ≤ ⌊weightedMean u v upperLeft.toNat upperRight.toNat
      lowerLeft.toNat lowerRight.toNat + 1 / 2⌋ := by
    refine Int.le_floor.mpr ?_
    push_cast
    linarith
  rw [toNat_mix inside]
  omega

theorem toNat_mix_le (inside : IsInSquare u v) {bound : Nat}
    (above : ∀ byte ∈ [upperLeft, upperRight, lowerLeft, lowerRight], byte.toNat ≤ bound) :
    (Imagery.mix u v upperLeft upperRight lowerLeft lowerRight).toNat ≤ bound := by
  have mean := weightedMean_le inside above
  have rounded : ⌊weightedMean u v upperLeft.toNat upperRight.toNat lowerLeft.toNat
      lowerRight.toNat + 1 / 2⌋ < (bound : Int) + 1 := by
    refine Int.floor_lt.mpr ?_
    push_cast
    linarith
  rw [toNat_mix inside]
  omega

theorem isBetween_mix (inside : IsInSquare u v) :
    IsBetween (Imagery.mix u v upperLeft upperRight lowerLeft lowerRight)
      [upperLeft, upperRight, lowerLeft, lowerRight] := by
  have nonempty : [upperLeft, upperRight, lowerLeft, lowerRight].toFinset.Nonempty :=
    (List.toFinset_nonempty_iff _).mpr (List.cons_ne_nil _ _)
  obtain ⟨least, isLeast, below⟩ := Finset.exists_min_image _ UInt8.toNat nonempty
  obtain ⟨greatest, isGreatest, above⟩ := Finset.exists_max_image _ UInt8.toNat nonempty
  simp only [List.mem_toFinset] at isLeast isGreatest below above
  exact ⟨⟨least, isLeast, UInt8.le_iff_toNat_le.mpr (le_toNat_mix inside below)⟩,
    ⟨greatest, isGreatest, UInt8.le_iff_toNat_le.mpr (toNat_mix_le inside above)⟩⟩

/-- At the upper left corner nothing else has any weight. -/
theorem mix_zero : Imagery.mix (0 : Rat) 0 upperLeft upperRight lowerLeft lowerRight =
    upperLeft := by
  have corner : weightedMean 0 0 upperLeft.toNat upperRight.toNat lowerLeft.toNat
      lowerRight.toNat = upperLeft.toNat := by
    unfold weightedMean
    ring
  have half : ⌊(1 / 2 : Rat)⌋ = 0 := by norm_num
  apply UInt8.toNat_inj.mp
  rw [toNat_mix ⟨le_rfl, zero_le_one, le_rfl, zero_le_one⟩, corner, Int.floor_natCast_add, half,
    add_zero, Int.toNat_natCast]

end Mean

/-! ## Colours around a position -/

/-- Each channel lies between those of two of the others. -/
structure Rgba.IsBetween (color : Rgba) (others : List Rgba) : Prop where
  red : TileAtlas.IsBetween color.red (others.map Rgba.red)
  green : TileAtlas.IsBetween color.green (others.map Rgba.green)
  blue : TileAtlas.IsBetween color.blue (others.map Rgba.blue)
  alpha : TileAtlas.IsBetween color.alpha (others.map Rgba.alpha)

theorem isBetween_of_mem {byte : UInt8} {others : List UInt8} (isIn : byte ∈ others) :
    IsBetween byte others :=
  ⟨⟨byte, isIn, UInt8.le_refl byte⟩, byte, isIn, UInt8.le_refl byte⟩

theorem Rgba.isBetween_of_mem {color : Rgba} {others : List Rgba} (isIn : color ∈ others) :
    color.IsBetween others :=
  ⟨TileAtlas.isBetween_of_mem (List.mem_map_of_mem isIn),
    TileAtlas.isBetween_of_mem (List.mem_map_of_mem isIn),
    TileAtlas.isBetween_of_mem (List.mem_map_of_mem isIn),
    TileAtlas.isBetween_of_mem (List.mem_map_of_mem isIn)⟩

/-- The pixel in a row of `count` pixels that is closest to a place. -/
def closestPixel (place : Int) (count : Nat) : Int :=
  if place < 0 then 0 else if place < count then place else (count : Int) - 1

namespace Imagery

/-- The buffer has colours, with or without alpha, and all of its pixels.  No
buffer in memory has more bytes than a signed 64-bit number can count. -/
structure IsWhole (image : Imagery) : Prop where
  colored : image.bands = 3 ∨ image.bands = 4
  complete : image.width * image.height * image.bands ≤ image.data.size
  small : (image.data.size : Int) ≤ int64Max

def IsEmpty (image : Imagery) : Prop := image.width = 0 ∨ image.height = 0

/-- The position lies more than a pixel before the buffer, or behind it. -/
def IsBeyond (image : Imagery) (x y : Rat) : Prop :=
  (⌊x⌋ < -1 ∨ (image.width : Int) ≤ ⌊x⌋) ∨ ⌊y⌋ < -1 ∨ (image.height : Int) ≤ ⌊y⌋

/-- The colours at the pixels around a position: of those beyond a border, the
closest pixels take the place. -/
def neighbours (image : Imagery) (x y : Rat) : List Rgba :=
  [ image.sample (closestPixel ⌊x⌋ image.width) (closestPixel ⌊y⌋ image.height),
    image.sample (closestPixel (⌊x⌋ + 1) image.width) (closestPixel ⌊y⌋ image.height),
    image.sample (closestPixel ⌊x⌋ image.width) (closestPixel (⌊y⌋ + 1) image.height),
    image.sample (closestPixel (⌊x⌋ + 1) image.width) (closestPixel (⌊y⌋ + 1) image.height) ]

variable {image : Imagery}

theorem IsWhole.small_of_not_isEmpty (whole : image.IsWhole) (filled : ¬image.IsEmpty) :
    (image.width : Int) ≤ int64Max ∧ (image.height : Int) ≤ int64Max := by
  have small := whole.small
  unfold IsEmpty at filled
  have bands : 1 ≤ image.bands := by
    rcases whole.colored with three | four <;> omega
  have pixels : image.width * image.height ≤ image.data.size :=
    (Nat.le_mul_of_pos_right _ bands).trans whole.complete
  have columns : image.width ≤ image.width * image.height :=
    Nat.le_mul_of_pos_right _ (by omega)
  have rows : image.height ≤ image.width * image.height := Nat.le_mul_of_pos_left _ (by omega)
  omega

theorem sample_of_isEmpty (empty : image.IsEmpty) (x y : Int) :
    image.sample x y = .transparent := by
  unfold IsEmpty at empty
  unfold sample
  rw [pixelIndex?_of_outside (by omega)]

/-- Colours without alpha are solid. -/
theorem alpha_sample (whole : image.IsWhole) (three : image.bands = 3) {column row : Nat}
    (inX : column < image.width) (inY : row < image.height) :
    (image.sample column row).alpha = 255 := by
  have complete := whole.complete
  rw [three] at complete
  have place := rowMajor_lt inX inY
  have stored : Bytes.slice? image.data ((row * image.width + column) * 3) 3 =
      some ((List.range 3).map fun offset =>
        image.data.get! ((row * image.width + column) * 3 + offset)) :=
    if_pos (by omega)
  unfold sample
  rw [pixelIndex?_of_inside inX inY, three]
  simp only
  rw [stored]
  rfl

theorem exists_closestPixel (place : Int) (count : Nat) (some : 0 < count) :
    ∃ pixel < count, closestPixel place count = (pixel : Int) := by
  refine ⟨(closestPixel place count).toNat, ?_, ?_⟩ <;>
    · unfold closestPixel
      split_ifs <;> omega

theorem clampIndex_eq (place : Int) {count : Nat} (some : 0 < count) :
    clampIndex place count = closestPixel place count := by
  unfold clampIndex closestPixel
  split_ifs <;> omega

/-! ## Blends -/

section Mixed

variable {α : Type} [Scalar α]

/-- The colours around a position, mixed channel by channel. -/
def mixed (u v : α) (upperLeft upperRight lowerLeft lowerRight : Rgba) : Rgba :=
  let channel (part : Rgba → UInt8) : UInt8 :=
    mix u v (part upperLeft) (part upperRight) (part lowerLeft) (part lowerRight)
  ⟨channel Rgba.red, channel Rgba.green, channel Rgba.blue, channel Rgba.alpha⟩

/-- One of the floors lies before the strip in front of the buffer, or has no
pixel once it is moved up to zero. -/
def IsOutside (image : Imagery) (column row : Int) : Prop :=
  (column < -1 ∨ (image.width : Int) ≤ max column 0) ∨
    row < -1 ∨ (image.height : Int) ≤ max row 0

variable {x y : α}

theorem blend_of_outside
    (outside : image.IsOutside (Scalar.floorToPixel x) (Scalar.floorToPixel y)) :
    image.blend x y = .transparent := by
  unfold IsOutside at outside
  unfold blend
  apply if_pos
  by_cases far : Scalar.floorToPixel x < -1 ∨ Scalar.floorToPixel y < -1
  · exact .inr far
  · refine .inl ?_
    rw [pixelIndex?_of_outside (by omega)]
    rfl

theorem blend_of_inside
    (inside : ¬image.IsOutside (Scalar.floorToPixel x) (Scalar.floorToPixel y)) :
    let left := clampIndex (Scalar.floorToPixel x) image.width
    let right := clampIndex (Scalar.floorToPixel x + 1) image.width
    let upper := clampIndex (Scalar.floorToPixel y) image.height
    let lower := clampIndex (Scalar.floorToPixel y + 1) image.height
    image.blend x y =
      mixed (x - Scalar.ofInt (Scalar.floorToPixel x)) (y - Scalar.ofInt (Scalar.floorToPixel y))
        (image.sample left upper) (image.sample right upper)
        (image.sample left lower) (image.sample right lower) := by
  unfold IsOutside at inside
  have index : (pixelIndex? (max (Scalar.floorToPixel x) 0) (max (Scalar.floorToPixel y) 0)
      image.width image.height).isNone = false := by
    unfold pixelIndex?
    rw [if_pos (by omega)]
    rfl
  unfold blend
  refine if_neg ?_
  rw [index]
  simp only [Bool.false_eq_true, false_or]
  omega

theorem blend_of_isEmpty (empty : image.IsEmpty) (x y : α) : image.blend x y = .transparent := by
  apply blend_of_outside
  unfold IsEmpty at empty
  unfold IsOutside
  omega

theorem isBetween_mixed {u v : Rat} (inside : IsInSquare u v)
    (upperLeft upperRight lowerLeft lowerRight : Rgba) :
    (mixed u v upperLeft upperRight lowerLeft lowerRight).IsBetween
      [upperLeft, upperRight, lowerLeft, lowerRight] :=
  ⟨isBetween_mix inside, isBetween_mix inside, isBetween_mix inside, isBetween_mix inside⟩

end Mixed

/-! ## Exact blends -/

section Exact

variable {x y : Rat}

theorem blend_of_isBeyond (whole : image.IsWhole) (beyond : image.IsBeyond x y) :
    image.blend x y = .transparent := by
  by_cases empty : image.IsEmpty
  · exact blend_of_isEmpty empty x y
  · obtain ⟨smallWidth, smallHeight⟩ := whole.small_of_not_isEmpty empty
    unfold IsBeyond at beyond
    apply blend_of_outside
    rw [Scalar.floorToPixel_rat, Scalar.floorToPixel_rat]
    unfold IsOutside int64Min int64Max at *
    omega

/-- Near a buffer that has pixels, floors do not saturate. -/
theorem blend_of_not_isBeyond (whole : image.IsWhole) (filled : ¬image.IsEmpty)
    (near : ¬image.IsBeyond x y) :
    image.blend x y = mixed (Int.fract x) (Int.fract y)
      (image.sample (closestPixel ⌊x⌋ image.width) (closestPixel ⌊y⌋ image.height))
      (image.sample (closestPixel (⌊x⌋ + 1) image.width) (closestPixel ⌊y⌋ image.height))
      (image.sample (closestPixel ⌊x⌋ image.width) (closestPixel (⌊y⌋ + 1) image.height))
      (image.sample (closestPixel (⌊x⌋ + 1) image.width)
        (closestPixel (⌊y⌋ + 1) image.height)) := by
  obtain ⟨smallWidth, smallHeight⟩ := whole.small_of_not_isEmpty filled
  unfold IsEmpty at filled
  unfold IsBeyond at near
  have column : Scalar.floorToPixel x = ⌊x⌋ := by
    rw [Scalar.floorToPixel_rat]
    unfold int64Min int64Max at *
    omega
  have row : Scalar.floorToPixel y = ⌊y⌋ := by
    rw [Scalar.floorToPixel_rat]
    unfold int64Min int64Max at *
    omega
  have inside : ¬image.IsOutside (Scalar.floorToPixel x) (Scalar.floorToPixel y) := by
    rw [column, row]
    unfold IsOutside
    omega
  rw [blend_of_inside inside, column, row, clampIndex_eq _ (by omega), clampIndex_eq _ (by omega),
    clampIndex_eq _ (by omega), clampIndex_eq _ (by omega)]
  rfl

theorem isInSquare_fract (x y : Rat) : IsInSquare (Int.fract x) (Int.fract y) :=
  ⟨Int.fract_nonneg x, (Int.fract_lt_one x).le, Int.fract_nonneg y, (Int.fract_lt_one y).le⟩

theorem blend_isBetween (whole : image.IsWhole) (near : ¬image.IsBeyond x y) :
    (image.blend x y).IsBetween (image.neighbours x y) := by
  by_cases empty : image.IsEmpty
  · apply Rgba.isBetween_of_mem
    unfold neighbours
    rw [blend_of_isEmpty empty, sample_of_isEmpty empty]
    exact List.mem_cons_self
  · rw [blend_of_not_isBeyond whole empty near]
    exact isBetween_mixed (isInSquare_fract x y) _ _ _ _

theorem alpha_of_mem_neighbours (whole : image.IsWhole) (three : image.bands = 3)
    (filled : ¬image.IsEmpty) : ∀ alpha ∈ (image.neighbours x y).map Rgba.alpha, alpha = 255 := by
  unfold IsEmpty at filled
  have solid (placeX placeY : Int) :
      (image.sample (closestPixel placeX image.width) (closestPixel placeY image.height)).alpha =
        255 := by
    obtain ⟨column, inX, isColumn⟩ := exists_closestPixel placeX image.width (by omega)
    obtain ⟨row, inY, isRow⟩ := exists_closestPixel placeY image.height (by omega)
    rw [isColumn, isRow]
    exact alpha_sample whole three inX inY
  simp [neighbours, solid]

theorem alpha_blend (whole : image.IsWhole) (three : image.bands = 3) (filled : ¬image.IsEmpty)
    (near : ¬image.IsBeyond x y) : (image.blend x y).alpha = 255 := by
  have solid := alpha_of_mem_neighbours (x := x) (y := y) whole three filled
  obtain ⟨⟨least, isLeast, below⟩, greatest, isGreatest, above⟩ :=
    (blend_isBetween whole near).alpha
  rw [solid least isLeast] at below
  rw [solid greatest isGreatest] at above
  exact UInt8.le_antisymm above below

/-- On a pixel the others have no weight. -/
theorem blend_natCast (whole : image.IsWhole) {column row : Nat} (inX : column < image.width)
    (inY : row < image.height) :
    image.blend (column : Rat) (row : Rat) = image.sample column row := by
  have filled : ¬image.IsEmpty := by
    unfold IsEmpty
    omega
  have near : ¬image.IsBeyond (column : Rat) (row : Rat) := by
    unfold IsBeyond
    rw [Int.floor_natCast, Int.floor_natCast]
    omega
  have itself {place count : Nat} (inside : place < count) :
      closestPixel (place : Int) count = place := by
    unfold closestPixel
    rw [if_neg (by omega), if_pos (by omega)]
  rw [blend_of_not_isBeyond whole filled near, Int.fract_natCast, Int.fract_natCast,
    Int.floor_natCast, Int.floor_natCast, itself inX, itself inY]
  unfold mixed
  simp only [mix_zero]

end Exact

/-! ## Positions that are not finite -/

section Missing

open Binary

theorem mix_of_isMissing {u v : Float} (missing : IsMissing u ∨ IsMissing v)
    (upperLeft upperRight lowerLeft lowerRight : UInt8) :
    mix u v upperLeft upperRight lowerLeft lowerRight = 0 := by
  have weight : IsMissing (u * v) := by
    rcases missing with missing | missing
    · exact missing.mul_right v
    · exact missing.mul_left u
  have value := ((weight.mul_left (Scalar.ofNat lowerRight.toNat)).add_left
    (Scalar.ofNat upperLeft.toNat * ((1.0 - u) * (1.0 - v)) +
      Scalar.ofNat upperRight.toNat * (u * (1.0 - v)) +
      Scalar.ofNat lowerLeft.toNat * ((1.0 - u) * v))).add_right 0.5
  unfold mix
  simp only
  unfold Scalar.clamp
  rw [if_neg (value.not_lt _), if_neg (value.not_gt _), truncateToCount_of_missing value]
  rfl

theorem mixed_of_isMissing {u v : Float} (missing : IsMissing u ∨ IsMissing v)
    (upperLeft upperRight lowerLeft lowerRight : Rgba) :
    mixed u v upperLeft upperRight lowerLeft lowerRight = .transparent := by
  unfold mixed
  simp only [mix_of_isMissing missing]
  rfl

/-- What is not finite is no number or leaves the buffer on one side. -/
theorem isMissing_or_saturates {position : Float} (infinite : position.isFinite = false) :
    IsMissing position ∨ Scalar.floorToPixel position = int64Min ∨
      Scalar.floorToPixel position = int64Max := by
  have unpacked : position.toModel.unpack.isFinite = false := infinite
  have floor : Scalar.floorToPixel position = ((valueOf position.toModel.unpack).floor).saturate
      int64Min int64Max (-1) := by
    rw [← ofFloat_eq_valueOf]
    rfl
  cases taken : position.toModel.unpack with
  | notANumber => exact .inl taken
  | infinity sign =>
      rw [floor, taken]
      cases sign with
      | negative => exact .inr (.inl rfl)
      | positive => exact .inr (.inr rfl)
  | zero sign => rw [taken] at unpacked; cases unpacked
  | finite sign => rw [taken] at unpacked; cases unpacked

theorem blend_of_not_isFinite (whole : image.IsWhole) {x y : Float}
    (infinite : x.isFinite = false ∨ y.isFinite = false) : image.blend x y = .transparent := by
  by_cases outside : image.IsOutside (Scalar.floorToPixel x) (Scalar.floorToPixel y)
  · exact blend_of_outside outside
  · have filled : ¬image.IsEmpty := by
      unfold IsEmpty
      unfold IsOutside at outside
      omega
    obtain ⟨smallWidth, smallHeight⟩ := whole.small_of_not_isEmpty filled
    unfold IsOutside at outside
    have missing : IsMissing x ∨ IsMissing y := by
      rcases infinite with infinite | infinite
      · refine .inl ((isMissing_or_saturates infinite).resolve_right ?_)
        unfold int64Min int64Max at *
        omega
      · refine .inr ((isMissing_or_saturates infinite).resolve_right ?_)
        unfold int64Min int64Max at *
        omega
    rw [blend_of_inside outside]
    apply mixed_of_isMissing
    exact missing.imp (fun isX => isX.sub_right _) (fun isY => isY.sub_right _)

end Missing

/-! ## All positions -/

/-- What a blend shows anywhere.  Beyond the buffer, and wherever a coordinate
is not finite, it is transparent; elsewhere each channel lies between those of
two neighbours, and colours without alpha are solid as long as there is a pixel
to take them from.  On a pixel it is that pixel. -/
structure HasBoundedBlend (image : Imagery) : Prop where
  beyond : ∀ x y : Rat, image.IsBeyond x y → image.blend x y = .transparent
  between : ∀ x y : Rat, ¬image.IsBeyond x y →
    (image.blend x y).IsBetween (image.neighbours x y)
  alpha : image.bands = 3 → ¬image.IsEmpty →
    ∀ x y : Rat, ¬image.IsBeyond x y → (image.blend x y).alpha = 255
  onPixel : ∀ column row : Nat, column < image.width → row < image.height →
    image.blend (column : Rat) (row : Rat) = image.sample column row
  empty : image.IsEmpty → ∀ x y : Rat, image.blend x y = .transparent
  missing : ∀ x y : Float, x.isFinite = false ∨ y.isFinite = false →
    image.blend x y = .transparent

theorem blend_isBounded {image : Imagery} (whole : image.IsWhole) : image.HasBoundedBlend where
  beyond _ _ := blend_of_isBeyond whole
  between _ _ := blend_isBetween whole
  alpha three filled _ _ := alpha_blend whole three filled
  onPixel _ _ := blend_natCast whole
  empty := blend_of_isEmpty
  missing _ _ := blend_of_not_isFinite whole

/-- Four pixels without alpha. -/
def fourColors : Imagery :=
  ⟨⟨#[10, 20, 30, 40, 50, 60, 70, 80, 90, 100, 110, 120]⟩, 2, 2, 3⟩

theorem blend_isBounded_fourColors : fourColors.IsWhole ∧ fourColors.HasBoundedBlend := by
  have whole : fourColors.IsWhole := ⟨.inl rfl, by decide, by decide⟩
  exact ⟨whole, blend_isBounded whole⟩

example : fourColors.blend (1 / 2 : Rat) (1 / 2) = ⟨55, 65, 75, 255⟩ := by decide +kernel

/-- A buffer without columns. -/
def noColumns : Imagery := ⟨.empty, 0, 1, 3⟩

/-- In front of a buffer without pixels there is nothing to blend from. -/
theorem not_forall_alpha_blend : ¬∀ image : Imagery, image.IsWhole → image.bands = 3 →
    ∀ x y : Rat, ¬image.IsBeyond x y → (image.blend x y).alpha = 255 := by
  intro always
  have whole : noColumns.IsWhole := ⟨.inl rfl, by decide, by decide⟩
  have near : ¬noColumns.IsBeyond (-1 / 2) 0 := by
    have column : ⌊(-1 / 2 : Rat)⌋ = -1 := by decide +kernel
    unfold IsBeyond
    rw [column, Int.floor_zero]
    decide
  have solid := always noColumns whole rfl (-1 / 2) 0 near
  rw [blend_of_isEmpty (.inl rfl)] at solid
  cases solid

end Imagery

end TileAtlas
