import TileAtlas.Proofs.Number.Counting
import TileAtlas.Proofs.Number.Nearest
import TileAtlas.Proofs.Number.Same

/-!
Contract: what words say, and what is left of it in another format.

Owns:
- `Reading`, an exact number with its sign, an infinity or nothing;
- `reading_decode_signed`: a word is its sign and a word without one;
- `reading_recode`, a word in another format: missing numbers stay missing, and
  numbers go to the nearest word;
- `Reading.rounded`, the integer that a reading is brought to, and
  `saturate_round`: rounding and saturating gives it;
- the readings of floats without a sign, of their opposites and of integers.
-/

namespace TileAtlas.Binary

open Float.Model

/-- What a word says.  Zero has a sign as all numbers have. -/
inductive Reading where
  | missing
  | infinite (negative : Bool)
  | finite (negative : Bool) (magnitude : Rat)
deriving DecidableEq, Repr

namespace Reading

/-- An integer, zero being positive. -/
def ofInt (value : Int) : Reading := .finite (decide (value < 0)) value.natAbs

/-- The nearest integer within bounds, a half going away from zero, and zero for
nothing. -/
def rounded (lowest highest : Int) : Reading → Int
  | .missing => 0
  | .infinite negative => if negative then lowest else highest
  | .finite negative magnitude =>
      let whole : Int := ⌊magnitude + 1 / 2⌋
      max lowest (min (if negative then -whole else whole) highest)

end Reading

def Value.reading : Value → Reading
  | .nan => .missing
  | .infinite negative => .infinite negative
  | .finite negative significand exponent => .finite negative (dyadic significand exponent)

namespace Format

variable (format : Format)

/-- The weight of a sign in a word. -/
def signPart (negative : Bool) : Nat := if negative then format.signWeight else 0

/-- What a word without its sign says. -/
def reading (negative : Bool) (word : Nat) : Reading :=
  if word < format.infinityWord then .finite negative (format.magnitude word)
  else if word = format.infinityWord then .infinite negative
  else .missing

theorem signWeight_eq :
    format.signWeight = 2 ^ format.exponentBits * 2 ^ format.fractionBits := by
  rw [signWeight, Nat.pow_add, Nat.mul_comm]

theorem infinityWord_lt : format.infinityWord < format.signWeight := by
  rw [signWeight_eq]
  exact Nat.mul_lt_mul_of_pos_right (Nat.sub_lt (Nat.two_pow_pos _) one_pos) (Nat.two_pow_pos _)

theorem nanWord_lt (some : 0 < format.fractionBits) : format.nanWord < format.signWeight := by
  have half : 2 ^ (format.fractionBits - 1) < 2 ^ format.fractionBits :=
    Nat.pow_lt_pow_right one_lt_two (by omega)
  have top : (format.topField + 1) * 2 ^ format.fractionBits = format.signWeight := by
    rw [signWeight_eq, topField, Nat.sub_add_cancel (Nat.two_pow_pos _)]
  rw [Nat.succ_mul] at top
  unfold nanWord infinityWord
  omega

end Format

/-! ## Words and their signs -/

/-- A word is read as its sign and the word below it. -/
theorem decode_signed (format : Format) (negative : Bool) {word : Nat}
    (small : word < format.signWeight) :
    decode format (format.signPart negative + word) =
      if word < format.infinityWord then
        .finite negative (word - format.binade word * 2 ^ format.fractionBits)
          (format.leastExponent + format.binade word)
      else if word = format.infinityWord then .infinite negative
      else .nan := by
  obtain ⟨steps, isSign⟩ :
      ∃ steps, format.signPart negative =
        2 ^ format.exponentBits * steps * 2 ^ format.fractionBits := by
    cases negative with
    | false => exact ⟨0, by simp [Format.signPart]⟩
    | true => exact ⟨1, by rw [Nat.mul_one]; exact format.signWeight_eq⟩
  have isNegative : decide (format.signWeight ≤ format.signPart negative + word) = negative := by
    cases negative with
    | false => exact decide_eq_false (by rw [Format.signPart, if_neg Bool.false_ne_true]; omega)
    | true => exact decide_eq_true (Nat.le_add_right _ _)
  have positive := Nat.two_pow_pos format.fractionBits
  have fieldSmall : word / 2 ^ format.fractionBits < 2 ^ format.exponentBits := by
    rw [Nat.div_lt_iff_lt_mul positive, ← format.signWeight_eq]
    exact small
  have sameField : (format.signPart negative + word) / 2 ^ format.fractionBits %
      2 ^ format.exponentBits = word / 2 ^ format.fractionBits := by
    rw [isSign, Nat.add_comm, Nat.add_mul_div_right _ _ positive, Nat.add_mul_mod_self_left,
      Nat.mod_eq_of_lt fieldSmall]
  have sameFraction : (format.signPart negative + word) % 2 ^ format.fractionBits =
      word % 2 ^ format.fractionBits := by
    rw [isSign, Nat.mul_add_mod_self_right]
  have divided := Nat.div_add_mod' word (2 ^ format.fractionBits)
  have fractionSmall := Nat.mod_lt word positive
  unfold decode
  dsimp only
  rw [isNegative, sameField, sameFraction]
  unfold Format.infinityWord Format.binade Format.topField
  generalize 2 ^ format.exponentBits = fields at *
  generalize word / 2 ^ format.fractionBits = field at *
  generalize word % 2 ^ format.fractionBits = fraction at *
  generalize 2 ^ format.fractionBits = leadingBit at *
  by_cases top : field = fields - 1
  · rw [top] at divided
    have notBelow : ¬word < (fields - 1) * leadingBit := by omega
    rw [if_pos top, if_neg notBelow]
    by_cases infinite : fraction = 0
    · rw [if_pos infinite, if_pos (by omega)]
    · rw [if_neg infinite, if_neg (by omega)]
  · have below : (field + 1) * leadingBit ≤ (fields - 1) * leadingBit :=
      Nat.mul_le_mul_right _ (by omega)
    rw [Nat.succ_mul] at below
    rw [if_neg top, if_pos (show word < (fields - 1) * leadingBit by omega)]
    cases field with
    | zero =>
        rw [Nat.zero_mul, Nat.zero_add] at divided
        rw [if_pos rfl, divided, Nat.zero_sub, Nat.zero_mul, Nat.sub_zero, Nat.cast_zero, add_zero]
    | succ steps =>
        rw [Nat.succ_mul] at divided
        rw [if_neg (Nat.succ_ne_zero steps), Nat.add_sub_cancel]
        congr 1
        · omega
        · push_cast
          omega

theorem reading_decode_signed (format : Format) (negative : Bool) {word : Nat}
    (small : word < format.signWeight) :
    (decode format (format.signPart negative + word)).reading = format.reading negative word := by
  rw [decode_signed format negative small]
  unfold Format.reading
  split
  · rfl
  · split <;> rfl

/-- Every word has a sign and a word below it. -/
theorem exists_signed (format : Format) {word : Nat} (small : word < 2 * format.signWeight) :
    ∃ negative below, below < format.signWeight ∧ word = format.signPart negative + below := by
  by_cases signed : format.signWeight ≤ word
  · exact ⟨true, word - format.signWeight, by omega, (Nat.add_sub_cancel' signed).symm⟩
  · exact ⟨false, word, by omega, (Nat.zero_add word).symm⟩

/-! ## Other formats -/

/-- What a format keeps of a reading: the nearest word of its number. -/
inductive Reading.IsNarrowed (format : Format) : Reading → Reading → Prop
  | missing : IsNarrowed format .missing .missing
  | infinite (negative : Bool) : IsNarrowed format (.infinite negative) (.infinite negative)
  | finite (negative : Bool) {magnitude : Rat} {word : Nat}
      (nearest : format.IsNearestWord word magnitude) :
      IsNarrowed format (.finite negative magnitude) (format.reading negative word)

theorem encodeMagnitude_le (format : Format) (significand : Nat) (exponent : Int) :
    encodeMagnitude format significand exponent ≤ format.infinityWord := by
  unfold encodeMagnitude
  split
  · exact Nat.zero_le _
  · exact min_le_right _ _

/-- A missing number is encoded as a missing number, whatever is left of its
payload. -/
theorem recode_nan {source target : Format} {word : Nat} (some : 0 < target.fractionBits)
    (missing : decode source word = .nan) :
    ∃ negative below, target.infinityWord < below ∧ below < target.signWeight ∧
      recode source target word = target.signPart negative + below := by
  obtain ⟨payload, isPayload⟩ : ∃ payload,
      ((word % 2 ^ source.fractionBits) <<< target.fractionBits) >>> source.fractionBits =
        payload := ⟨_, rfl⟩
  have payloadSmall : payload < 2 ^ target.fractionBits := by
    have fraction := Nat.mod_lt word (Nat.two_pow_pos source.fractionBits)
    rw [← isPayload, Nat.shiftRight_eq_div_pow, Nat.shiftLeft_eq,
      Nat.div_lt_iff_lt_mul (Nat.two_pow_pos _), Nat.mul_comm]
    exact Nat.mul_lt_mul_of_pos_left fraction (Nat.two_pow_pos _)
  have nanSmall : target.nanWord < 2 ^ (target.fractionBits + target.exponentBits) :=
    target.nanWord_lt some
  refine ⟨decide (source.signWeight ≤ word), target.nanWord ||| payload, ?_, ?_, ?_⟩
  · exact (Nat.lt_add_of_pos_right (Nat.two_pow_pos _)).trans_le Nat.left_le_or
  · exact Nat.or_lt_two_pow nanSmall
      (payloadSmall.trans_le (Nat.pow_le_pow_right two_pos (Nat.le_add_right _ _)))
  · unfold recode
    rw [missing]
    simp only [isPayload, Format.signPart, decide_eq_true_eq]

theorem recode_finite {source : Format} (target : Format) {word significand : Nat}
    {negative : Bool} {exponent : Int}
    (read : decode source word = .finite negative significand exponent) :
    recode source target word =
      target.signPart negative + encodeMagnitude target significand exponent := by
  unfold recode
  rw [read]
  rfl

theorem recode_infinite {source : Format} (target : Format) {word : Nat} {negative : Bool}
    (read : decode source word = .infinite negative) :
    recode source target word = target.signPart negative + target.infinityWord := by
  unfold recode
  rw [read]
  rfl

/-- A word in another format: an infinity stays one, and a number goes to the word
that its significand is encoded as. -/
theorem reading_recode {source target : Format} {word : Nat} (some : 0 < target.fractionBits) :
    (decode target (recode source target word)).reading =
      match decode source word with
      | .nan => .missing
      | .infinite negative => .infinite negative
      | .finite negative significand exponent =>
          target.reading negative (encodeMagnitude target significand exponent) := by
  cases read : decode source word with
  | nan =>
      obtain ⟨negative, below, above, small, recoded⟩ := recode_nan some read
      rw [recoded, reading_decode_signed target negative small, Format.reading,
        if_neg above.not_gt, if_neg above.ne']
  | infinite negative =>
      rw [recode_infinite target read,
        reading_decode_signed target negative target.infinityWord_lt]
      simp [Format.reading]
  | finite negative significand exponent =>
      rw [recode_finite target read, reading_decode_signed target negative
        ((encodeMagnitude_le target significand exponent).trans_lt target.infinityWord_lt)]

theorem Format.signPart_le (format : Format) (negative : Bool) :
    format.signPart negative ≤ format.signWeight := by
  unfold Format.signPart
  split <;> omega

theorem recode_lt {source target : Format} (some : 0 < target.fractionBits) (word : Nat) :
    recode source target word < 2 * target.signWeight := by
  have infinite := target.infinityWord_lt
  cases read : decode source word with
  | nan =>
      obtain ⟨negative, below, -, small, recoded⟩ := recode_nan some read
      have sign := target.signPart_le negative
      omega
  | infinite negative =>
      have sign := target.signPart_le negative
      rw [recode_infinite target read]
      omega
  | finite negative significand exponent =>
      have sign := target.signPart_le negative
      have atMost := encodeMagnitude_le target significand exponent
      rw [recode_finite target read]
      omega

/-- What goes to another format is narrowed to it. -/
theorem isNarrowed_recode {source : Format} (target : Format) (some : 0 < target.fractionBits)
    (word : Nat) :
    Reading.IsNarrowed target (decode source word).reading
      (decode target (recode source target word)).reading := by
  rw [reading_recode some]
  cases read : decode source word with
  | nan => exact .missing
  | infinite negative => exact .infinite negative
  | finite negative significand exponent =>
      exact .finite negative
        ((isRounding_encodeMagnitude target significand exponent).isNearestWord some)

/-! ## From single to double and back -/

theorem magnitude_infinityWord_single : single.magnitude single.infinityWord = 2 ^ 128 := by
  have isWord : single.infinityWord = 254 * 2 ^ single.fractionBits + 2 ^ single.fractionBits :=
    rfl
  have exponent : single.leastExponent + (254 : Nat) = (105 : Nat) := by decide
  rw [isWord, single.magnitude_grid (by decide) (.inr le_rfl), exponent, dyadic, zpow_natCast]
  push_cast
  exact (pow_add 2 23 105).symm

theorem magnitude_infinityWord_double : double.magnitude double.infinityWord = 2 ^ 1024 := by
  have isWord : double.infinityWord = 2046 * 2 ^ double.fractionBits + 2 ^ double.fractionBits :=
    rfl
  have exponent : double.leastExponent + (2046 : Nat) = (972 : Nat) := by decide
  rw [isWord, double.magnitude_grid (by decide) (.inr le_rfl), exponent, dyadic, zpow_natCast]
  push_cast
  exact (pow_add 2 52 972).symm

/-- The numbers of the single format are numbers of the double format. -/
theorem widened_single {word : Nat} (finite : word < single.infinityWord) :
    ∃ wide < double.infinityWord,
      encodeMagnitude double (word - single.binade word * 2 ^ single.fractionBits)
        (single.leastExponent + single.binade word) = wide ∧
      double.magnitude wide = single.magnitude word := by
  obtain ⟨-, few, -⟩ := single.binade_spec word
  have small : single.magnitude word < double.magnitude double.infinityWord := by
    refine (single.strictMono_magnitude finite).trans_le ?_
    rw [magnitude_infinityWord_single, magnitude_infinityWord_double]
    exact pow_le_pow_right₀ one_le_two (by norm_num)
  have kept := magnitude_encodeMagnitude double
    (few.trans_le (Nat.pow_le_pow_right two_pos (by decide)))
    (show double.leastExponent ≤ single.leastExponent + single.binade word by
      have least : double.leastExponent ≤ single.leastExponent := by decide
      omega) small.le
  refine ⟨_, ?_, rfl, kept⟩
  exact double.strictMono_magnitude.lt_iff_lt.mp (kept.trans_lt small)

/-- A single becomes a double of the same reading. -/
theorem reading_recode_single {word : Nat} (small : word < 2 * single.signWeight) :
    (decode double (recode single double word)).reading = (decode single word).reading := by
  obtain ⟨negative, below, inWord, rfl⟩ := exists_signed single small
  rw [reading_recode (by decide), decode_signed single negative inWord]
  by_cases finite : below < single.infinityWord
  · obtain ⟨wide, wideFinite, isWide, same⟩ := widened_single finite
    rw [if_pos finite]
    simp only [isWide]
    rw [Format.reading, if_pos wideFinite, same]
    rfl
  · rw [if_neg finite]
    by_cases infinite : below = single.infinityWord
    · rw [if_pos infinite]
      rfl
    · rw [if_neg infinite]
      rfl

theorem nearestPart_eq_floor (significand : Nat) (exponent : Int) :
    (Value.nearestPart significand exponent : Int) = ⌊dyadic significand exponent + 1 / 2⌋ := by
  symm
  rw [Int.floor_eq_iff]
  unfold Value.nearestPart dyadic
  split
  · next whole =>
      obtain ⟨places, rfl⟩ := Int.eq_ofNat_of_zero_le whole
      rw [Int.toNat_natCast, Nat.shiftLeft_eq, zpow_natCast]
      push_cast
      constructor <;> linarith
  · next fraction =>
      obtain ⟨places, isPlaces⟩ : ∃ places : Nat, (-exponent).toNat = places + 1 :=
        ⟨(-exponent).toNat - 1, by omega⟩
      have exponent_eq : exponent = -((places + 1 : Nat) : Int) := by omega
      have positive : (0 : Rat) < 2 ^ places := by positivity
      rw [isPlaces, Nat.add_sub_cancel, exponent_eq, zpow_neg, zpow_natCast, ← div_eq_mul_inv,
        Nat.shiftRight_eq_div_pow]
      have lower : (significand + 2 ^ places) / 2 ^ (places + 1) * 2 ^ (places + 1) ≤
          significand + 2 ^ places := Nat.div_mul_le_self _ _
      have upper : significand + 2 ^ places <
          ((significand + 2 ^ places) / 2 ^ (places + 1) + 1) * 2 ^ (places + 1) :=
        Nat.lt_mul_of_div_lt (Nat.lt_succ_self _) (Nat.two_pow_pos _)
      generalize (significand + 2 ^ places) / 2 ^ (places + 1) = quotient at *
      rw [Nat.pow_succ] at lower upper
      have lowerRat : (quotient : Rat) * (2 ^ places * 2) ≤ significand + 2 ^ places := by
        exact_mod_cast lower
      have upperRat : (significand : Rat) + 2 ^ places < (quotient + 1) * (2 ^ places * 2) := by
        exact_mod_cast upper
      have sum : (significand : Rat) / 2 ^ (places + 1) + 1 / 2 =
          (significand + 2 ^ places) / (2 ^ places * 2) := by
        rw [pow_succ]
        field_simp
      rw [sum]
      push_cast
      rw [le_div_iff₀ (by positivity), div_lt_iff₀ (by positivity)]
      exact ⟨lowerRat, upperRat⟩

/-- Rounding and saturating brings a value to the integer of its reading. -/
theorem saturate_round (value : Value) (lowest highest : Int) :
    value.round.saturate lowest highest 0 = value.reading.rounded lowest highest := by
  cases value with
  | nan => rfl
  | infinite negative => cases negative <;> rfl
  | finite negative significand exponent =>
      change max lowest (min (Value.signed negative (Value.nearestPart significand exponent))
        highest) = max lowest (min (if negative then -⌊dyadic significand exponent + 1 / 2⌋
          else ⌊dyadic significand exponent + 1 / 2⌋) highest)
      rw [← nearestPart_eq_floor]
      rfl

theorem Measures.reading {number : Float} {exact : Rat} (measures : Measures number exact) :
    (decode double (word number)).reading = .finite false exact := by
  rw [decode_word]
  cases measures with
  | zero taken =>
      rw [taken]
      simp [valueOf, Value.reading, dyadic, isNegative]
  | finite taken =>
      rw [taken]
      rfl

/-- A float is packed as it was taken apart. -/
theorem word_eq_pack (number : Float) :
    word number = (UnpackedFloat.pack .binary64 number.toModel.unpack).toNat :=
  congrArg BitVec.toNat (UnpackedFloat.pack_unpack_of_valid number.toModel.valid).symm

theorem eq_of_word_eq {number other : Float} (same : word number = word other) : number = other :=
  Float.toBits_inj.mp (UInt64.toNat_inj.mp same)

/-- There is one missing number. -/
theorem IsMissing.eq {number other : Float} (missing : IsMissing number)
    (otherMissing : IsMissing other) : number = other := by
  refine eq_of_word_eq ?_
  rw [word_eq_pack, word_eq_pack, missing, otherMissing]

/-- The opposite of a float without a sign has the same word with the sign. -/
theorem word_neg {number : Float} (small : word number ≤ infinityWord) :
    word (-number) = 2 ^ 63 + word number := by
  have components (exponent : BitVec 11) (mantissa : BitVec 52) :
      (UnpackedFloat.packComponents .binary64 .negative exponent mantissa).toNat =
        2 ^ 63 + (UnpackedFloat.packComponents .binary64 .positive exponent mantissa).toNat := by
    rw [toNat_packComponents, toNat_packComponents]
    simp only [signWord, isNegative, if_true, Bool.false_eq_true, if_false]
    omega
  have isOpposite : word (-number) =
      (UnpackedFloat.pack .binary64 number.toModel.unpack.neg).toNat := rfl
  rw [isOpposite, word_eq_pack number]
  rcases measures_or_isInfinite small with ⟨exact, measures⟩ | infinite
  · cases measures with
    | zero taken =>
        rw [taken]
        exact components _ _
    | finite taken =>
        rw [taken]
        change (UnpackedFloat.pack .binary64 (.finite .negative _ _ _)).toNat = _
        unfold UnpackedFloat.pack
        dsimp only
        split
        · exact components _ _
        · split <;> exact components _ _
  · rw [infinite]
    exact components _ _

/-- The float that is made from a word reads as the word. -/
theorem ofFloat_ofBits (bits : UInt64) :
    ofFloat (Float.ofBits bits) = decode double bits.toNat := by
  rw [ofFloat_eq_valueOf]
  have packed := @UnpackedFloat.pack_unpack .binary64 bits.toBitVec
  change valueOf (UnpackedFloat.unpack .binary64
    (UnpackedFloat.pack .binary64 (UnpackedFloat.unpack .binary64 bits.toBitVec))) = _
  by_cases missing : @UnpackedFloat.isNaNBits .binary64 bits.toBitVec = true
  · obtain ⟨exponent, fraction⟩ := of_decide_eq_true missing
    have read : UnpackedFloat.unpack .binary64 bits.toBitVec = .notANumber := by
      unfold UnpackedFloat.unpack
      rw [if_pos exponent, if_neg fraction]
    have isValue := valueOf_unpack bits.toBitVec
    rw [read] at isValue ⊢
    exact isValue
  · rw [if_neg missing] at packed
    rw [packed, valueOf_unpack]
    rfl

/-- Counts of up to 53 bits are floats. -/
theorem measures_ofNat {count : Nat} (small : count < 2 ^ 53) :
    Measures (Float.ofNat count) (count : Rat) := by
  rcases Nat.eq_zero_or_pos count with rfl | positive
  · exact Nat.cast_zero (R := Rat) ▸ .zero rfl
  · exact measures_count positive small (isRounded_ofNat count)

/-- Integers of up to 53 bits are floats. -/
theorem reading_ofInt {value : Int} (small : value.natAbs < 2 ^ 53) :
    (decode double (word (Float.ofInt value))).reading = .ofInt value := by
  cases value with
  | ofNat count =>
      have measures : Measures (Float.ofNat count) (count : Rat) := measures_ofNat small
      exact measures.reading
  | negSucc less =>
      have measures : Measures (Float.ofNat (less + 1)) ((less + 1 : Nat) : Rat) :=
        measures_ofNat small
      have inRange := measures.isRounded.le_infinityWord
      have isSigned : word (Float.ofInt (.negSucc less)) =
          double.signPart true + word (Float.ofNat (less + 1)) := word_neg inRange
      have read := measures.reading
      have unsigned : word (Float.ofNat (less + 1)) =
          double.signPart false + word (Float.ofNat (less + 1)) := (Nat.zero_add _).symm
      have inWord : word (Float.ofNat (less + 1)) < double.signWeight :=
        inRange.trans_lt double.infinityWord_lt
      rw [unsigned, reading_decode_signed double false inWord] at read
      rw [isSigned, reading_decode_signed double true inWord]
      unfold Format.reading at read ⊢
      split at read
      · next finite =>
          rw [if_pos finite, (Reading.finite.inj read).2, Reading.ofInt,
            decide_eq_true (Int.negSucc_lt_zero less), Int.natAbs_negSucc]
      · split at read <;> cases read

end TileAtlas.Binary
