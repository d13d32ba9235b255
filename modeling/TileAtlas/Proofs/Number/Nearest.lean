import TileAtlas.Proofs.Number.Rounding

/-!
Contract: the words of a binary format as exact numbers, and the word nearest to
an exact number.

Owns:
- `Format.magnitude`, the number of a word without a sign: larger words have larger
  numbers;
- `Format.IsNearestWord`, the word that an exact number belongs to, and its
  uniqueness;
- `Format.IsRounding`, a word that was found by rounding a significand, and
  `Format.IsRounding.isNearestWord`: it is the nearest one;
- `isRounding_encodeMagnitude` and `magnitude_encodeMagnitude`: encoding rounds,
  and keeps what has few bits.

Does not own: signs and missing numbers.

## Infinity among the numbers

Infinity is counted as the power of two behind the largest number.  An exact
number then becomes infinite from the middle between the two on, which is where
a rounding carries into the exponent field of infinity.
-/

namespace TileAtlas.Binary

/-! ## Nearest integers -/

theorem IsNearest.abs_sub_le {rounded : Nat} {exact : Rat} (nearest : IsNearest rounded exact)
    (other : Nat) : |(rounded : Rat) - exact| ≤ |(other : Rat) - exact| := by
  have above := nearest.above
  have below := nearest.below
  have half : |(rounded : Rat) - exact| ≤ 1 / 2 := abs_le.mpr ⟨by linarith, by linarith⟩
  rcases lt_trichotomy other rounded with less | rfl | greater
  · have apart : (other : Rat) + 1 ≤ rounded := by exact_mod_cast less
    exact half.trans (le_abs.mpr (.inr (by linarith)))
  · exact le_rfl
  · have apart : (rounded : Rat) + 1 ≤ other := by exact_mod_cast greater
    exact half.trans (le_abs.mpr (.inl (by linarith)))

/-- Another integer is as near only if the number lies half-way. -/
theorem IsNearest.even_of_abs_sub_eq {rounded : Nat} {exact : Rat}
    (nearest : IsNearest rounded exact) {other : Nat} (different : other ≠ rounded)
    (same : |(rounded : Rat) - exact| = |(other : Rat) - exact|) : Even rounded := by
  have above := nearest.above
  have below := nearest.below
  have half : |(rounded : Rat) - exact| ≤ 1 / 2 := abs_le.mpr ⟨by linarith, by linarith⟩
  rcases lt_or_gt_of_ne different with less | greater
  · have apart : (other : Rat) + 1 ≤ rounded := by exact_mod_cast less
    have far := (neg_le_abs ((other : Rat) - exact)).trans (same.symm.le.trans half)
    exact nearest.tie (.inl (by linarith))
  · have apart : (rounded : Rat) + 1 ≤ other := by exact_mod_cast greater
    have far := (le_abs_self ((other : Rat) - exact)).trans (same.symm.le.trans half)
    exact nearest.tie (.inr (by linarith))

theorem isNearest_shiftRoundEven (value places : Nat) :
    IsNearest (shiftRoundEven value places) ((value : Rat) / 2 ^ places) := by
  obtain ⟨quotient, isQuotient⟩ : ∃ quotient, value / 2 ^ places = quotient := ⟨_, rfl⟩
  obtain ⟨rest, isRest⟩ : ∃ rest, value % 2 ^ places = rest := ⟨_, rfl⟩
  have divided : quotient * 2 ^ places + rest = value := by
    rw [← isQuotient, ← isRest, Nat.mul_comm]
    exact Nat.div_add_mod value _
  have small : rest < 2 ^ places := isRest ▸ Nat.mod_lt _ (Nat.two_pow_pos places)
  have positive : (0 : Rat) < 2 ^ places := by positivity
  have exact_eq : (value : Rat) / 2 ^ places = quotient + rest / 2 ^ places := by
    rw [← divided]
    push_cast
    rw [add_div, mul_div_cancel_right₀ _ positive.ne']
  have notNegative : (0 : Rat) ≤ rest / 2 ^ places := by positivity
  have belowOne : (rest : Rat) / 2 ^ places < 1 := by
    rw [div_lt_one positive]
    exact_mod_cast small
  have isHalf : 2 ^ places = 2 * rest ↔ (rest : Rat) / 2 ^ places = 1 / 2 := by
    rw [div_eq_div_iff positive.ne' two_ne_zero, one_mul, mul_comm]
    exact_mod_cast eq_comm
  have isMore : 2 ^ places < 2 * rest ↔ 1 / 2 < (rest : Rat) / 2 ^ places := by
    rw [div_lt_div_iff₀ two_pos positive, one_mul, mul_comm]
    exact_mod_cast Iff.rfl
  have unfolded : shiftRoundEven value places =
      if 2 ^ places < 2 * rest ∨ (2 ^ places = 2 * rest ∧ quotient % 2 = 1) then quotient + 1
      else quotient := by
    have kept : value - quotient <<< places = rest := by
      rw [Nat.shiftLeft_eq]
      omega
    unfold shiftRoundEven
    simp only [Nat.shiftRight_eq_div_pow, isQuotient, kept]
  rw [unfolded, exact_eq]
  simp only [isHalf, isMore]
  generalize (rest : Rat) / 2 ^ places = fraction at *
  split
  · next up =>
      have atLeastHalf : 1 / 2 ≤ fraction := by
        rcases up with more | ⟨half, -⟩
        · exact more.le
        · exact half.ge
      refine ⟨?_, ?_, ?_⟩ <;> push_cast
      · linarith
      · linarith
      · intro tie
        have half : fraction = 1 / 2 := by rcases tie with tie | tie <;> linarith
        have odd : quotient % 2 = 1 := (up.resolve_left (by rw [half]; exact lt_irrefl _)).2
        exact (Nat.odd_iff.mpr odd).add_one
  · next down =>
      rw [not_or, not_lt, not_and] at down
      refine ⟨?_, ?_, ?_⟩
      · linarith
      · linarith [down.1]
      · intro tie
        have half : fraction = 1 / 2 := by rcases tie with tie | tie <;> linarith
        exact Nat.even_iff.mpr (Nat.mod_two_ne_one.mp (down.2 half))

namespace Format

variable (format : Format)

/-! ## Numbers of words -/

/-- How many steps the exponent of a word lies above the least one.  The words
without a leading bit have the exponent of the first words with one. -/
def binade (word : Nat) : Nat := word / 2 ^ format.fractionBits - 1

/-- The exact number of a word without a sign. -/
def magnitude (word : Nat) : Rat :=
  dyadic (word - format.binade word * 2 ^ format.fractionBits)
    (format.leastExponent + format.binade word)

/-- A word is its binade and a significand, which has its leading bit above the
least binade. -/
theorem binade_spec (word : Nat) :
    format.binade word * 2 ^ format.fractionBits ≤ word ∧
      word - format.binade word * 2 ^ format.fractionBits < 2 ^ (format.fractionBits + 1) ∧
      (format.binade word = 0 ∨
        2 ^ format.fractionBits ≤ word - format.binade word * 2 ^ format.fractionBits) := by
  have divided := Nat.div_add_mod word (2 ^ format.fractionBits)
  have small := Nat.mod_lt word (Nat.two_pow_pos format.fractionBits)
  rw [Nat.pow_succ]
  unfold binade
  generalize 2 ^ format.fractionBits = leadingBit at *
  cases field : word / leadingBit with
  | zero =>
      rw [field, Nat.mul_zero] at divided
      omega
  | succ binade =>
      rw [field, Nat.mul_succ, Nat.mul_comm] at divided
      rw [Nat.add_sub_cancel]
      omega

/-- A carry into the next binade does not change the number. -/
theorem magnitude_grid {binade rounded : Nat} (small : rounded ≤ 2 ^ (format.fractionBits + 1))
    (leading : binade = 0 ∨ 2 ^ format.fractionBits ≤ rounded) :
    format.magnitude (binade * 2 ^ format.fractionBits + rounded) =
      dyadic rounded (format.leastExponent + binade) := by
  have positive := Nat.two_pow_pos format.fractionBits
  unfold magnitude Format.binade
  rw [Nat.pow_succ] at small
  by_cases carried : rounded = 2 ^ format.fractionBits * 2
  · have field : (binade * 2 ^ format.fractionBits + rounded) / 2 ^ format.fractionBits =
        binade + 2 := by
      rw [carried, Nat.mul_comm binade, ← Nat.mul_add, Nat.mul_div_cancel_left _ positive]
    have significand : binade * 2 ^ format.fractionBits + rounded -
        (binade + 1) * 2 ^ format.fractionBits = 2 ^ format.fractionBits := by
      rw [Nat.succ_mul]
      omega
    have next : (format.leastExponent + (binade + 1 : Nat) : Int) =
        format.leastExponent + binade + 1 := by omega
    rw [field, show binade + 2 - 1 = binade + 1 from rfl, significand, carried, next, dyadic,
      dyadic, zpow_add_one₀ (by norm_num)]
    push_cast
    ring
  · have field : (binade * 2 ^ format.fractionBits + rounded) / 2 ^ format.fractionBits - 1 =
        binade := by
      rw [Nat.add_comm, Nat.add_mul_div_right _ _ positive]
      by_cases least : rounded < 2 ^ format.fractionBits
      · rw [Nat.div_eq_of_lt least]
        omega
      · rw [Nat.div_eq_of_lt_le (k := 1) (by omega) (by omega)]
        omega
    rw [field, Nat.add_sub_cancel_left]

theorem magnitude_zero : format.magnitude 0 = 0 := by
  unfold magnitude
  simp [dyadic]

theorem strictMono_magnitude : StrictMono format.magnitude := by
  refine strictMono_nat_of_lt_succ fun word => ?_
  obtain ⟨within, small, leading⟩ := format.binade_spec word
  have next : format.magnitude (word + 1) =
      dyadic (word - format.binade word * 2 ^ format.fractionBits + 1)
        (format.leastExponent + format.binade word) := by
    rw [← format.magnitude_grid (by omega) (by omega)]
    congr 1
    omega
  rw [next, magnitude, dyadic, dyadic]
  refine mul_lt_mul_of_pos_right ?_ (two_zpow_pos _)
  exact_mod_cast Nat.lt_succ_self _

/-! ## Nearest words -/

/-- No other word up to infinity has a nearer number, and between two words as near
it is the even one. -/
structure IsNearestWord (word : Nat) (exact : Rat) : Prop where
  isNumber : word ≤ format.infinityWord
  nearest : ∀ other ≤ format.infinityWord,
    |format.magnitude word - exact| ≤ |format.magnitude other - exact|
  tie : ∀ other ≤ format.infinityWord, other ≠ word →
    |format.magnitude word - exact| = |format.magnitude other - exact| → Even word

variable {format}

/-- Between two even words there is a third that is nearer. -/
theorem IsNearestWord.not_lt {word other : Nat} {exact : Rat}
    (nearest : format.IsNearestWord word exact) (otherNearest : format.IsNearestWord other exact) :
    ¬word < other := by
  intro less
  have same := le_antisymm (nearest.nearest other otherNearest.isNumber)
    (otherNearest.nearest word nearest.isNumber)
  obtain ⟨half, isDouble⟩ := nearest.tie other otherNearest.isNumber less.ne' same
  obtain ⟨otherHalf, otherIsDouble⟩ :=
    otherNearest.tie word nearest.isNumber less.ne same.symm
  have between : word + 1 < other := by omega
  have above := format.strictMono_magnitude (Nat.lt_succ_self word)
  have below := format.strictMono_magnitude between
  have atMost := nearest.nearest (word + 1) (between.le.trans otherNearest.isNumber)
  rw [Nat.succ_eq_add_one] at above
  -- the exact number is the middle of the two words
  rcases abs_eq_abs.mp same with equal | opposite
  · linarith
  · rw [abs_of_neg (show format.magnitude word - exact < 0 by linarith)] at atMost
    rcases abs_cases (format.magnitude (word + 1) - exact) with ⟨isAbs, -⟩ | ⟨isAbs, -⟩ <;>
      rw [isAbs] at atMost <;> linarith

theorem IsNearestWord.eq {word other : Nat} {exact : Rat}
    (nearest : format.IsNearestWord word exact) (otherNearest : format.IsNearestWord other exact) :
    word = other :=
  le_antisymm (Nat.le_of_not_lt (otherNearest.not_lt nearest))
    (Nat.le_of_not_lt (nearest.not_lt otherNearest))

/-! ## Roundings -/

variable (format)

/-- The word is the nearest significand at the place where the last bit of the exact
number is kept. -/
def IsRounding (word : Nat) (exact : Rat) : Prop :=
  ∃ (place : Int) (rounded : Nat), format.leastExponent ≤ place ∧
    exact < 2 ^ (place + format.fractionBits + 1) ∧
      (place = format.leastExponent ∨ (2 : Rat) ^ (place + format.fractionBits) ≤ exact) ∧
        IsNearest rounded (exact / 2 ^ place) ∧
          word = min ((place - format.leastExponent).toNat * 2 ^ format.fractionBits + rounded)
            format.infinityWord

/-- At a place, words have whole multiples of its weight, or lie below all
significands with a leading bit. -/
theorem magnitude_at (word : Nat) (place : Int) :
    (∃ multiple : Nat, format.magnitude word = multiple * 2 ^ place) ∨
      format.leastExponent < place ∧
        format.magnitude word < 2 ^ (place + format.fractionBits) := by
  obtain ⟨-, small, -⟩ := format.binade_spec word
  unfold magnitude
  generalize word - format.binade word * 2 ^ format.fractionBits = significand at *
  by_cases above : place ≤ format.leastExponent + format.binade word
  · obtain ⟨places, isPlaces⟩ := Int.eq_ofNat_of_zero_le (sub_nonneg.mpr above)
    refine .inl ⟨significand <<< places, ?_⟩
    have exponent : place = format.leastExponent + format.binade word - places := by omega
    rw [← dyadic_shiftLeft significand places, ← exponent, dyadic]
  · refine .inr ⟨by omega, ?_⟩
    calc dyadic significand (format.leastExponent + format.binade word)
        < 2 ^ (format.fractionBits + 1) * 2 ^ (format.leastExponent + format.binade word) := by
          refine mul_lt_mul_of_pos_right ?_ (two_zpow_pos _)
          exact_mod_cast small
      _ = 2 ^ (format.leastExponent + format.binade word + 1 + format.fractionBits) := by
          rw [zpow_add₀ (by norm_num) _ (format.fractionBits : Int), zpow_add_one₀ (by norm_num),
            zpow_natCast]
          ring
      _ ≤ 2 ^ (place + format.fractionBits) := zpow_le_zpow_right₀ (by norm_num) (by omega)

variable {format}

/-- Without an upper bound on the words, the rounded significand is the nearest. -/
theorem nearest_of_isNearest {place : Int} {rounded : Nat} {exact : Rat}
    (some : 0 < format.fractionBits) (least : format.leastExponent ≤ place)
    (small : exact < 2 ^ (place + format.fractionBits + 1))
    (large : place = format.leastExponent ∨ (2 : Rat) ^ (place + format.fractionBits) ≤ exact)
    (nearest : IsNearest rounded (exact / 2 ^ place)) {word : Nat}
    (isWord : word = (place - format.leastExponent).toNat * 2 ^ format.fractionBits + rounded)
    (other : Nat) :
    |format.magnitude word - exact| ≤ |format.magnitude other - exact| ∧
      (other ≠ word →
        |format.magnitude word - exact| = |format.magnitude other - exact| → Even word) := by
  have weight := two_zpow_pos place
  have scaled (value : Rat) :
      |value * 2 ^ place - exact| = |value - exact / 2 ^ place| * 2 ^ place := by
    rw [← abs_of_pos weight, ← abs_mul, abs_of_pos weight, sub_mul, div_mul_cancel₀ _ weight.ne']
  have leadingLe (large : (2 : Rat) ^ (place + format.fractionBits) ≤ exact) :
      ((2 ^ format.fractionBits : Nat) : Rat) ≤ exact / 2 ^ place := by
    rw [zpow_add₀ (by norm_num), zpow_natCast, mul_comm] at large
    rw [le_div_iff₀ weight]
    exact_mod_cast large
  have atMost : rounded ≤ 2 ^ (format.fractionBits + 1) := by
    refine nearest.le (.self _) ?_
    rw [add_assoc, zpow_add₀ (by norm_num), mul_comm] at small
    rw [div_le_iff₀ weight]
    exact_mod_cast small.le
  have isMagnitude : format.magnitude word = rounded * 2 ^ place := by
    have leading : (place - format.leastExponent).toNat = 0 ∨
        2 ^ format.fractionBits ≤ rounded := by
      refine large.imp (by omega) fun large => ?_
      exact (IsNearest.self _).le nearest (leadingLe large)
    have isPlace : format.leastExponent + (place - format.leastExponent).toNat = place := by omega
    rw [isWord, format.magnitude_grid atMost leading, isPlace, dyadic]
  rw [isMagnitude]
  rcases format.magnitude_at other place with ⟨multiple, isMultiple⟩ | ⟨above, below⟩
  · rw [isMultiple, scaled, scaled]
    refine ⟨mul_le_mul_of_nonneg_right (nearest.abs_sub_le multiple) weight.le, ?_⟩
    intro different same
    have notRounded : multiple ≠ rounded := by
      rintro rfl
      exact different (format.strictMono_magnitude.injective (isMultiple.trans isMagnitude.symm))
    have even := nearest.even_of_abs_sub_eq notRounded (mul_right_cancel₀ weight.ne' same)
    rw [isWord]
    exact ((Nat.even_pow.mpr ⟨even_two, some.ne'⟩).mul_left _).add even
  · -- the least significand with a leading bit is nearer than all below it
    have large := large.resolve_left (by omega)
    have closer : |(rounded : Rat) * 2 ^ place - exact| <
        |format.magnitude other - exact| := by
      calc |(rounded : Rat) * 2 ^ place - exact|
          ≤ |((2 ^ format.fractionBits : Nat) : Rat) * 2 ^ place - exact| := by
            rw [scaled, scaled]
            exact mul_le_mul_of_nonneg_right (nearest.abs_sub_le _) weight.le
        _ = exact - 2 ^ (place + format.fractionBits) := by
            rw [zpow_add₀ (by norm_num), zpow_natCast, mul_comm (_ ^ place), abs_sub_comm,
              abs_of_nonneg]
            · push_cast
              rfl
            · rw [sub_nonneg, ← le_div_iff₀ weight]
              exact leadingLe large
        _ < exact - format.magnitude other := by linarith
        _ ≤ |format.magnitude other - exact| := by
            rw [abs_sub_comm]
            exact le_abs_self _
    exact ⟨closer.le, fun _ same => absurd same closer.ne⟩

/-- Infinity is nearest to all that lies behind it. -/
theorem isNearestWord_infinityWord {exact : Rat}
    (behind : format.magnitude format.infinityWord ≤ exact) :
    format.IsNearestWord format.infinityWord exact := by
  have distance (other : Nat) (inRange : other ≤ format.infinityWord) :
      |format.magnitude other - exact| = exact - format.magnitude other := by
    have ordered := format.strictMono_magnitude.monotone inRange
    rw [abs_sub_comm, abs_of_nonneg (by linarith)]
  refine ⟨le_rfl, fun other inRange => ?_, fun other inRange different same => ?_⟩
  · rw [distance _ le_rfl, distance other inRange]
    exact sub_le_sub_left (format.strictMono_magnitude.monotone inRange) exact
  · rw [distance _ le_rfl, distance other inRange] at same
    exact absurd (format.strictMono_magnitude.injective (sub_right_injective same)).symm different

/-- Zero is nearest to all that is less than half of the least number. -/
theorem isNearestWord_zero {exact : Rat} (notNegative : 0 ≤ exact)
    (small : 2 * exact < format.magnitude 1) : format.IsNearestWord 0 exact := by
  have distance : |format.magnitude 0 - exact| = exact := by
    rw [format.magnitude_zero, zero_sub, abs_neg, abs_of_nonneg notNegative]
  have farther (other : Nat) (different : other ≠ 0) :
      |format.magnitude 0 - exact| < |format.magnitude other - exact| := by
    have atLeast := format.strictMono_magnitude.monotone (Nat.one_le_iff_ne_zero.mpr different)
    rw [distance, abs_of_pos (by linarith)]
    linarith
  refine ⟨Nat.zero_le _, fun other _ => ?_, fun other _ different same => ?_⟩
  · by_cases isZero : other = 0
    · rw [isZero]
    · exact (farther other isZero).le
  · exact absurd same (farther other different).ne

theorem IsRounding.isNearestWord {word : Nat} {exact : Rat} (some : 0 < format.fractionBits)
    (rounds : format.IsRounding word exact) : format.IsNearestWord word exact := by
  obtain ⟨place, rounded, least, small, large, nearest, rfl⟩ := rounds
  have unbounded := nearest_of_isNearest some least small large nearest rfl
  generalize (place - format.leastExponent).toNat * 2 ^ format.fractionBits + rounded = word at *
  rcases le_or_gt word format.infinityWord with inRange | beyond
  · rw [min_eq_left inRange]
    exact ⟨inRange, fun other _ => (unbounded other).1, fun other _ => (unbounded other).2⟩
  · rw [min_eq_right beyond.le]
    refine isNearestWord_infinityWord ?_
    have farther := format.strictMono_magnitude beyond
    have atMost := (unbounded format.infinityWord).1
    by_contra before
    rw [abs_of_pos (by linarith), abs_of_pos (by linarith)] at atMost
    linarith

/-- What is rounded to a double is the nearest word. -/
theorem isNearestWord_of_isRounded {word : Nat} {exact : Rat} (rounds : IsRounded word exact) :
    double.IsNearestWord word exact := by
  obtain ⟨place, rounded, least, small, large, nearest, rfl⟩ := rounds
  refine IsRounding.isNearestWord (by decide)
    ⟨place, rounded, least, ?_, large, nearest, ?_⟩
  · rw [add_assoc]
    exact small
  · rw [show double.leastExponent = -1074 from rfl, sub_neg_eq_add]
    rfl

end Format

/-! ## Encoding -/

variable {format : Format}

/-- The place at which a significand is rounded. -/
def keptPlace (format : Format) (significand : Nat) (exponent : Int) : Int :=
  max (exponent + (Nat.log2 significand + 1 : Nat) - (format.fractionBits + 1)) format.leastExponent

theorem encodeMagnitude_eq {significand : Nat} (positive : 0 < significand) (exponent : Int) :
    encodeMagnitude format significand exponent =
      min ((keptPlace format significand exponent - format.leastExponent).toNat *
          2 ^ format.fractionBits +
        if keptPlace format significand exponent ≤ exponent then
          significand <<< (exponent - keptPlace format significand exponent).toNat
        else shiftRoundEven significand (keptPlace format significand exponent - exponent).toNat)
        format.infinityWord := by
  unfold encodeMagnitude
  rw [if_neg positive.ne']
  rfl

theorem dyadic_eq_shiftLeft {significand : Nat} {place exponent : Int} (below : place ≤ exponent) :
    dyadic significand exponent = (significand <<< (exponent - place).toNat : Nat) * 2 ^ place := by
  have isPlace : place = exponent - (exponent - place).toNat := by omega
  conv_rhs => rw [isPlace]
  rw [← dyadic_shiftLeft significand (exponent - place).toNat exponent, dyadic]
  congr 3
  omega

theorem isRounding_encodeMagnitude (format : Format) (significand : Nat) (exponent : Int) :
    format.IsRounding (encodeMagnitude format significand exponent)
      (dyadic significand exponent) := by
  rcases Nat.eq_zero_or_pos significand with rfl | positive
  · have zero : dyadic 0 exponent = 0 := by simp [dyadic]
    rw [zero]
    refine ⟨format.leastExponent, 0, le_rfl, two_zpow_pos _, .inl rfl, ?_, ?_⟩
    · rw [zero_div]
      exact_mod_cast IsNearest.self 0
    · simp [encodeMagnitude]
  · rw [encodeMagnitude_eq positive]
    have lower := two_pow_log2_le positive exponent
    have upper := lt_two_pow_log2 significand exponent
    have isPlace : keptPlace format significand exponent =
      max (exponent + (Nat.log2 significand + 1 : Nat) - (format.fractionBits + 1))
        format.leastExponent := rfl
    generalize keptPlace format significand exponent = place at *
    refine ⟨place, _, by omega, ?_, ?_, ?_, rfl⟩
    · exact upper.trans_le (zpow_le_zpow_right₀ (by norm_num) (by omega))
    · by_cases isLeast : place = format.leastExponent
      · exact .inl isLeast
      · exact .inr ((zpow_le_zpow_right₀ (by norm_num) (by omega)).trans lower)
    · split
      · next below =>
          rw [dyadic_eq_shiftLeft below, mul_div_cancel_right₀ _ (two_zpow_pos place).ne']
          exact .self _
      · next above =>
          have shifted : dyadic significand exponent / 2 ^ place =
              (significand : Rat) / 2 ^ (place - exponent).toNat := by
            have exponent_eq : place = exponent + (place - exponent).toNat := by omega
            conv_lhs => rw [exponent_eq, dyadic, zpow_add₀ (by norm_num), zpow_natCast]
            rw [mul_comm, mul_div_mul_left _ _ (two_zpow_pos exponent).ne']
          rw [shifted]
          exact isNearest_shiftRoundEven _ _

/-- Numbers that have no more bits than the format, and are not too small for it,
are kept. -/
theorem magnitude_encodeMagnitude (format : Format) {significand : Nat} {exponent : Int}
    (few : significand < 2 ^ (format.fractionBits + 1))
    (least : format.leastExponent ≤ exponent)
    (finite : dyadic significand exponent ≤ format.magnitude format.infinityWord) :
    format.magnitude (encodeMagnitude format significand exponent) =
      dyadic significand exponent := by
  rcases Nat.eq_zero_or_pos significand with rfl | positive
  · simp [encodeMagnitude, format.magnitude_zero, dyadic]
  · have bits : significand.log2 < format.fractionBits + 1 := (Nat.log2_lt positive.ne').mpr few
    have isPlace : keptPlace format significand exponent =
      max (exponent + (Nat.log2 significand + 1 : Nat) - (format.fractionBits + 1))
        format.leastExponent := rfl
    rw [encodeMagnitude_eq positive]
    generalize keptPlace format significand exponent = place at *
    have below : place ≤ exponent := by omega
    rw [if_pos below]
    obtain ⟨places, isPlaces⟩ : ∃ places, (exponent - place).toNat = places := ⟨_, rfl⟩
    have grid : format.magnitude ((place - format.leastExponent).toNat * 2 ^ format.fractionBits +
        significand <<< places) = dyadic significand exponent := by
      have shiftedPositive : 0 < significand <<< places := by
        rw [Nat.shiftLeft_eq]
        positivity
      have width := log2_shiftLeft positive places
      have small : significand <<< places < 2 ^ (format.fractionBits + 1) :=
        (Nat.log2_lt shiftedPositive.ne').mp (by omega)
      have leading : (place - format.leastExponent).toNat = 0 ∨
          2 ^ format.fractionBits ≤ significand <<< places := by
        by_cases isLeast : place = format.leastExponent
        · exact .inl (by omega)
        · exact .inr ((Nat.le_log2 shiftedPositive.ne').mp (by omega))
      have exponent_eq : format.leastExponent + (place - format.leastExponent).toNat = place := by
        omega
      rw [format.magnitude_grid small.le leading, exponent_eq, dyadic_eq_shiftLeft below, isPlaces,
        dyadic]
    rw [isPlaces, min_eq_left, grid]
    exact format.strictMono_magnitude.le_iff_le.mp (grid.le.trans finite)

end TileAtlas.Binary
