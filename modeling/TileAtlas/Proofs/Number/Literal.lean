import TileAtlas.Number.Decimal
import TileAtlas.Proofs.Json.Numeral
import TileAtlas.Proofs.Number.Reading

/-!
Contract: which words are float literals, and for which floats they stand.

Owns:
- `Decimal.exists_nearestWord`: the float of a decimal is the one nearest to its
  number;
- `Decimal.IsNumeral` and `Decimal.IsLiteral`, the grammar of literals together with
  what they stand for;
- `Decimal.readFloat?_eq_some_iff`: a word is read as a float exactly if it is a
  literal of that float.

Does not own: how texts are cut into words.

## Far away

A decimal beyond `10 ^ 310` is infinite and one below `10 ^ -330` is zero before any
power of ten is taken.  The numbers end below `2 ^ 1024` and half of the least one is
`2 ^ -1075`, so infinity and zero are nearest there.
-/

namespace TileAtlas

namespace Decimal

open Binary

/-! ## The float of a decimal -/

section Value

variable {numeral : Decimal}

/-- The number without its sign. -/
def magnitude (numeral : Decimal) : Rat := numeral.digits * 10 ^ numeral.exponent

theorem lt_ten_pow_width (value : Nat) : value < 10 ^ width value :=
  (Nat.length_toDigits_le_iff (by decide) Nat.length_toDigits_pos).mp le_rfl

theorem ten_pow_le {value : Nat} (positive : 0 < value) : 10 ^ (width value - 1) ≤ value := by
  rcases Nat.eq_zero_or_pos (width value - 1) with single | several
  · rw [single, pow_zero]
    exact positive
  · by_contra less
    have fewer : width value ≤ width value - 1 :=
      (Nat.length_toDigits_le_iff (by decide) several).mpr (not_le.mp less)
    omega

theorem width_pos (value : Nat) : 0 < width value := Nat.length_toDigits_pos

/-- A digit takes at least one bit. -/
theorem width_le_log2 {value : Nat} (positive : 0 < value) : width value ≤ value.log2 + 1 := by
  have bits : width value - 1 ≤ value.log2 := by
    rw [Nat.le_log2 positive.ne']
    exact (Nat.pow_le_pow_left (by decide) _).trans (ten_pow_le positive)
  omega

theorem magnitude_lt (numeral : Decimal) :
    numeral.magnitude < 10 ^ (numeral.exponent + width numeral.digits) := by
  rw [magnitude, add_comm, zpow_add₀ (by norm_num), zpow_natCast]
  refine mul_lt_mul_of_pos_right ?_ (by positivity)
  exact_mod_cast lt_ten_pow_width numeral.digits

theorem le_magnitude (positive : 0 < numeral.digits) :
    (10 : Rat) ^ (numeral.exponent + width numeral.digits - 1) ≤ numeral.magnitude := by
  have isSize : numeral.exponent + width numeral.digits - 1 =
      (width numeral.digits - 1 : Nat) + numeral.exponent := by
    have some := width_pos numeral.digits
    omega
  rw [magnitude, isSize, zpow_add₀ (by norm_num), zpow_natCast]
  refine mul_le_mul_of_nonneg_right ?_ (by positivity)
  exact_mod_cast ten_pow_le positive

theorem magnitude_one_double : double.magnitude 1 = 2 ^ (-1074 : Int) := by
  have grid := double.magnitude_grid (show 1 ≤ 2 ^ (double.fractionBits + 1) by decide)
    (.inl (rfl : 0 = 0))
  rw [Nat.zero_mul, Nat.zero_add, dyadic, Nat.cast_one, one_mul] at grid
  exact grid

theorem two_pow_le_ten_pow {bits digits : Nat} (ordered : 2 ^ bits ≤ 10 ^ digits) (times : Nat) :
    (2 : Rat) ^ (bits * times) ≤ 10 ^ (digits * times) := by
  rw [pow_mul, pow_mul]
  exact pow_le_pow_left₀ (by positivity) (by exact_mod_cast ordered) times

theorem isNearestWord_of_large (positive : 0 < numeral.digits)
    (large : 310 < numeral.exponent + width numeral.digits) :
    double.IsNearestWord (word (1.0 / 0.0)) numeral.magnitude := by
  refine Format.isNearestWord_infinityWord ?_
  calc double.magnitude double.infinityWord = 2 ^ 1024 := magnitude_infinityWord_double
    _ ≤ 2 ^ (205 * 5) := pow_le_pow_right₀ one_le_two (by decide)
    _ ≤ 10 ^ (62 * 5) := two_pow_le_ten_pow (by norm_num) 5
    _ = 10 ^ (310 : Int) := (zpow_natCast 10 310).symm
    _ ≤ 10 ^ (numeral.exponent + width numeral.digits - 1) :=
        zpow_le_zpow_right₀ (by norm_num) (by omega)
    _ ≤ numeral.magnitude := le_magnitude positive

theorem isNearestWord_of_small (small : numeral.exponent + width numeral.digits < -330) :
    double.IsNearestWord (word 0.0) numeral.magnitude := by
  refine Format.isNearestWord_zero (by unfold magnitude; positivity) ?_
  have powers : (10 : Rat) ^ (-330 : Int) ≤ 2 ^ (-1075 : Int) := by
    rw [zpow_neg, zpow_neg, zpow_ofNat, zpow_ofNat]
    exact inv_anti₀ (by positivity) (two_pow_le_ten_pow (show 2 ^ 215 ≤ 10 ^ 66 by norm_num) 5)
  calc 2 * numeral.magnitude < 2 * 10 ^ (numeral.exponent + width numeral.digits) :=
        mul_lt_mul_of_pos_left (magnitude_lt numeral) two_pos
    _ ≤ 2 * 10 ^ (-330 : Int) :=
        mul_le_mul_of_nonneg_left (zpow_le_zpow_right₀ (by norm_num) (by omega)) two_pos.le
    _ ≤ 2 * 2 ^ (-1075 : Int) := mul_le_mul_of_nonneg_left powers two_pos.le
    _ = 2 ^ (-1074 : Int) := (zpow_one_add₀ two_ne_zero (-1075)).symm
    _ = double.magnitude 1 := magnitude_one_double.symm

/-- Without its sign, the float of a decimal is the nearest one. -/
theorem exists_unsigned (numeral : Decimal) : ∃ unsigned : Float,
    numeral.toFloat = (if numeral.negative then -unsigned else unsigned) ∧
      double.IsNearestWord (word unsigned) numeral.magnitude := by
  refine ⟨_, rfl, ?_⟩
  split
  · next none =>
      have isZero : numeral.magnitude = 0 := by simp [magnitude, none]
      rw [isZero]
      refine Format.isNearestWord_zero le_rfl ?_
      rw [magnitude_one_double, mul_zero]
      exact two_zpow_pos _
  · next some =>
      have positive := Nat.pos_of_ne_zero some
      split
      · next large => exact isNearestWord_of_large positive large
      · next notLarge =>
          split
          · next small => exact isNearestWord_of_small small
          · next notSmall =>
              have digits := width_pos numeral.digits
              have bits := width_le_log2 positive
              split
              · next whole =>
                  have rounded := isRounded_product positive
                    (show numeral.exponent.toNat ≤ 2 ^ 11 by omega)
                  rw [← zpow_natCast, Int.toNat_of_nonneg whole] at rounded
                  exact Format.isNearestWord_of_isRounded rounded
              · next fraction =>
                  have rounded := isRounded_fraction positive
                    (show 0 < (-numeral.exponent).toNat by omega) (by omega)
                  have power : (10 : Rat) ^ numeral.exponent =
                      (10 ^ (-numeral.exponent).toNat)⁻¹ := by
                    rw [← zpow_natCast, ← zpow_neg]
                    congr 1
                    omega
                  rw [magnitude, power, ← div_eq_mul_inv]
                  exact Format.isNearestWord_of_isRounded rounded

/-- The float of a decimal is its sign and the word nearest to its number. -/
theorem exists_nearestWord (numeral : Decimal) : ∃ nearest : Nat,
    double.IsNearestWord nearest numeral.magnitude ∧
      word numeral.toFloat = double.signPart numeral.negative + nearest := by
  obtain ⟨unsigned, isFloat, nearest⟩ := exists_unsigned numeral
  refine ⟨word unsigned, nearest, ?_⟩
  rw [isFloat, Format.signPart]
  cases numeral.negative with
  | false => exact (Nat.zero_add _).symm
  | true => exact word_neg nearest.isNumber

end Value

/-! ## The grammar -/

/-- A sign that may be left out. -/
inductive IsSign : List Char → Bool → Prop
  | none : IsSign [] false
  | plus : IsSign ['+'] false
  | minus : IsSign ['-'] true

/-- An exponent that may be left out. -/
inductive IsExponent : List Char → Int → Prop
  | none : IsExponent [] 0
  | power {mark : Char} {sign digits : List Char} {negative : Bool}
      (isMark : mark = 'e' ∨ mark = 'E') (isSign : IsSign sign negative) (some : digits ≠ [])
      (areDigits : ∀ char ∈ digits, char.isDigit) :
      IsExponent (mark :: (sign ++ digits))
        (if negative then -(valueOfDigits digits : Int) else valueOfDigits digits)

/-- Digits with an optional point and an optional exponent, and their number. -/
inductive IsNumeral : List Char → Rat → Prop
  | whole {digits power : List Char} {exponent : Int} (some : digits ≠ [])
      (areDigits : ∀ char ∈ digits, char.isDigit) (isExponent : IsExponent power exponent) :
      IsNumeral (digits ++ power) (valueOfDigits digits * 10 ^ exponent)
  | point {whole fraction power : List Char} {exponent : Int} (some : whole ≠ [] ∨ fraction ≠ [])
      (areDigits : ∀ char ∈ whole, char.isDigit) (areDecimals : ∀ char ∈ fraction, char.isDigit)
      (isExponent : IsExponent power exponent) :
      IsNumeral (whole ++ '.' :: (fraction ++ power))
        ((valueOfDigits whole + valueOfDigits fraction / 10 ^ fraction.length) * 10 ^ exponent)

/-- A word is a literal of a float: of the nearest one, of an infinity or of the
missing number, whose names may be written in any case. -/
inductive IsLiteral : List Char → Float → Prop
  | numeral {sign body : List Char} {negative : Bool} {exact : Rat} {nearest : Nat}
      {number : Float} (isSign : IsSign sign negative) (isNumeral : IsNumeral body exact)
      (isNearest : double.IsNearestWord nearest exact)
      (isWord : word number = double.signPart negative + nearest) :
      IsLiteral (sign ++ body) number
  | infinite {sign body : List Char} {negative : Bool} {number : Float}
      (isSign : IsSign sign negative)
      (isName : String.ofList (body.map Char.toLower) = "inf" ∨
        String.ofList (body.map Char.toLower) = "infinity")
      (isWord : word number = double.signPart negative + double.infinityWord) :
      IsLiteral (sign ++ body) number
  | missing {sign body : List Char} {negative : Bool} {number : Float}
      (isSign : IsSign sign negative) (isName : String.ofList (body.map Char.toLower) = "nan")
      (missing : IsMissing number) : IsLiteral (sign ++ body) number

/-! ## Parts of literals -/

/-- What is left of a sign does not begin with another one. -/
def IsUnsigned (body : List Char) : Prop := ∀ char ∈ body.head?, char ≠ '-' ∧ char ≠ '+'

theorem splitSign_append {sign body : List Char} {negative : Bool} (isSign : IsSign sign negative)
    (isUnsigned : IsUnsigned body) : splitSign (sign ++ body) = (negative, body) := by
  cases isSign with
  | plus => rfl
  | minus => rfl
  | none =>
      cases body with
      | nil => rfl
      | cons first rest =>
          obtain ⟨notMinus, notPlus⟩ := isUnsigned first rfl
          simp [splitSign, notMinus, notPlus]

theorem exists_isSign (text : List Char) : ∃ sign, IsSign sign (splitSign text).1 ∧
    text = sign ++ (splitSign text).2 := by
  unfold splitSign
  split
  · exact ⟨_, .minus, rfl⟩
  · exact ⟨_, .plus, rfl⟩
  · exact ⟨_, .none, rfl⟩

theorem isUnsigned_of_isDigit {body : List Char} (areDigits : ∀ char ∈ body, char.isDigit) :
    IsUnsigned body := by
  intro first isFirst
  have isDigit := areDigits first (List.mem_of_mem_head? isFirst)
  constructor <;> rintro rfl <;> contradiction

theorem splitDigits_fst_append_snd (text : List Char) :
    (splitDigits text).1 ++ (splitDigits text).2 = text := by
  rw [splitDigits, List.span_eq_takeWhile_dropWhile]
  exact List.takeWhile_append_dropWhile

theorem foldl_digits (start : Nat) (row : List Char) :
    row.foldl (fun value digit => 10 * value + (digit.toNat - '0'.toNat)) start =
      start * 10 ^ row.length + valueOfDigits row := by
  unfold valueOfDigits
  induction row generalizing start with
  | nil => simp
  | cons digit row inductionHypothesis =>
      rw [List.foldl_cons, List.foldl_cons, inductionHypothesis,
        inductionHypothesis (10 * 0 + _), List.length_cons, pow_succ]
      ring

theorem valueOfDigits_append (row rest : List Char) :
    valueOfDigits (row ++ rest) = valueOfDigits row * 10 ^ rest.length + valueOfDigits rest := by
  rw [valueOfDigits, List.foldl_append, foldl_digits]
  rfl

/-- A point moves the exponent. -/
theorem magnitude_point (negative : Bool) (whole fraction : List Char) (exponent : Int) :
    magnitude ⟨negative, valueOfDigits (whole ++ fraction), exponent - fraction.length⟩ =
      (valueOfDigits whole + valueOfDigits fraction / 10 ^ fraction.length) * 10 ^ exponent := by
  rw [magnitude, valueOfDigits_append, zpow_sub₀ (by norm_num), zpow_natCast]
  push_cast
  field_simp

theorem readExponent?_eq_some_iff {text : List Char} {exponent : Int} :
    readExponent? text = some exponent ↔ IsExponent text exponent := by
  constructor
  · intro read
    unfold readExponent? at read
    split at read
    · cases read
      exact .none
    · next mark rest =>
        obtain ⟨sign, isSign, isRest⟩ := exists_isSign rest
        generalize splitSign rest = parts at *
        obtain ⟨negative, digits⟩ := parts
        subst isRest
        split at read
        · next isMark =>
            dsimp only at read
            split at read
            · next areDigits =>
                cases read
                exact .power isMark isSign areDigits.1 (List.all_eq_true.mp areDigits.2)
            · cases read
        · cases read
  · intro isExponent
    cases isExponent with
    | none => rfl
    | power isMark isSign some areDigits =>
        have split := splitSign_append isSign (isUnsigned_of_isDigit areDigits)
        rw [readExponent?, if_pos isMark, split]
        exact if_pos ⟨some, List.all_eq_true.mpr areDigits⟩

/-- An exponent begins with its mark. -/
theorem IsExponent.head_ne {power : List Char} {exponent : Int}
    (isExponent : IsExponent power exponent) :
    ∀ char ∈ power.head?, char.isDigit = false ∧ char ≠ '.' := by
  cases isExponent with
  | none => simp
  | power isMark => rcases isMark with rfl | rfl <;> simp

/-- The decimals behind a point, if there is one. -/
def splitFraction : List Char → List Char × List Char
  | '.' :: rest => splitDigits rest
  | rest => ([], rest)

theorem readUnsigned?_eq {whole afterWhole fraction power : List Char} (negative : Bool)
    {body : List Char} (isWhole : splitDigits body = (whole, afterWhole))
    (isFraction : splitFraction afterWhole = (fraction, power)) :
    readUnsigned? negative body =
      if whole = [] ∧ fraction = [] then none
      else (readExponent? power).map fun exponent =>
        ⟨negative, valueOfDigits (whole ++ fraction), exponent - fraction.length⟩ := by
  have unfolded : readUnsigned? negative body =
      if (splitDigits body).1 = [] ∧ (splitFraction (splitDigits body).2).1 = [] then none
      else (readExponent? (splitFraction (splitDigits body).2).2).map fun exponent =>
        ⟨negative, valueOfDigits ((splitDigits body).1 ++ (splitFraction (splitDigits body).2).1),
          exponent - (splitFraction (splitDigits body).2).1.length⟩ := rfl
  rw [unfolded, isWhole, isFraction]

theorem splitFraction_of_isExponent {power : List Char} {exponent : Int}
    (isExponent : IsExponent power exponent) : splitFraction power = ([], power) := by
  unfold splitFraction
  split
  · exact absurd rfl (isExponent.head_ne '.' rfl).2
  · rfl

/-- Digits with a point or without one are read as a decimal of their number. -/
theorem readUnsigned?_of_isNumeral {body : List Char} {exact : Rat} (negative : Bool)
    (isNumeral : IsNumeral body exact) : ∃ numeral, readUnsigned? negative body = some numeral ∧
      numeral.negative = negative ∧ numeral.magnitude = exact := by
  cases isNumeral with
  | @whole digits power exponent some areDigits isExponent =>
      have isWhole := splitDigits_append areDigits fun char isFirst =>
        (isExponent.head_ne char isFirst).1
      refine ⟨⟨negative, valueOfDigits (digits ++ []), exponent - ([] : List Char).length⟩,
        ?_, rfl, ?_⟩
      · rw [readUnsigned?_eq negative isWhole (splitFraction_of_isExponent isExponent),
          if_neg fun none => some none.1, readExponent?_eq_some_iff.mpr isExponent]
        rfl
      · rw [magnitude_point]
        simp [valueOfDigits]
  | @point whole fraction power exponent some areDigits areDecimals isExponent =>
      have isWhole : splitDigits (whole ++ '.' :: (fraction ++ power)) = _ :=
        splitDigits_append areDigits (by simp)
      have isFraction : splitFraction ('.' :: (fraction ++ power)) = (fraction, power) :=
        splitDigits_append areDecimals fun char isFirst => (isExponent.head_ne char isFirst).1
      refine ⟨_, ?_, rfl, magnitude_point negative whole fraction exponent⟩
      rw [readUnsigned?_eq negative isWhole isFraction, if_neg (by tauto),
        readExponent?_eq_some_iff.mpr isExponent]
      rfl

theorem isNumeral_of_readUnsigned? {negative : Bool} {body : List Char} {numeral : Decimal}
    (read : readUnsigned? negative body = some numeral) :
    numeral.negative = negative ∧ IsNumeral body numeral.magnitude := by
  obtain ⟨whole, afterWhole, isWhole⟩ : ∃ whole afterWhole,
      splitDigits body = (whole, afterWhole) := ⟨_, _, rfl⟩
  obtain ⟨fraction, power, isFraction⟩ : ∃ fraction power,
      splitFraction afterWhole = (fraction, power) := ⟨_, _, rfl⟩
  have areDigits (char : Char) (isIn : char ∈ whole) : char.isDigit :=
    isDigit_of_mem_splitDigits (by rw [isWhole]; exact isIn)
  have isBody := splitDigits_fst_append_snd body
  rw [readUnsigned?_eq negative isWhole isFraction] at read
  rw [isWhole] at isBody
  subst isBody
  split at read
  · cases read
  · next some =>
      obtain ⟨exponent, readExponent, rfl⟩ := Option.map_eq_some_iff.mp read
      have isExponent := readExponent?_eq_some_iff.mp readExponent
      refine ⟨rfl, ?_⟩
      rw [magnitude_point]
      unfold splitFraction at isFraction
      split at isFraction
      · next rest =>
          have isRest := splitDigits_fst_append_snd rest
          have areDecimals (char : Char) (isIn : char ∈ fraction) : char.isDigit :=
            isDigit_of_mem_splitDigits (by rw [isFraction]; exact isIn)
          rw [isFraction] at isRest
          subst isRest
          exact .point (by tauto) areDigits areDecimals isExponent
      · cases isFraction
        simpa [valueOfDigits] using IsNumeral.whole (by tauto) areDigits isExponent

/-! ## Words -/

/-- A numeral begins with a digit or its point. -/
theorem IsNumeral.exists_first {body : List Char} {exact : Rat} (isNumeral : IsNumeral body exact) :
    ∃ first rest, body = first :: rest ∧ (first.isDigit ∨ first = '.') := by
  cases isNumeral with
  | @whole digits _ _ some areDigits _ =>
      obtain ⟨first, rest, rfl⟩ := List.exists_cons_of_ne_nil some
      exact ⟨first, _, rfl, .inl (areDigits first (by simp))⟩
  | @point whole _ _ _ _ areDigits _ _ =>
      cases whole with
      | nil => exact ⟨'.', _, rfl, .inr rfl⟩
      | cons first rest => exact ⟨first, _, rfl, .inl (areDigits first (by simp))⟩

theorem IsNumeral.isUnsigned {body : List Char} {exact : Rat} (isNumeral : IsNumeral body exact) :
    IsUnsigned body := by
  obtain ⟨first, rest, rfl, isFirst⟩ := isNumeral.exists_first
  intro char isHead
  cases isHead
  constructor <;> rintro rfl <;> simp at isFirst

theorem toLower_of_isDigit {char : Char} (isDigit : char.isDigit) : char.toLower = char := by
  simp only [Char.isDigit, Bool.and_eq_true, decide_eq_true_eq, UInt32.le_iff_toNat_le] at isDigit
  unfold Char.toLower
  rw [dif_neg]
  intro isUpper
  simp only [UInt32.le_iff_toNat_le] at isUpper
  simp at isDigit isUpper
  omega

/-- In lower case, a numeral still begins as one. -/
theorem IsNumeral.exists_first_of_name {body : List Char} {exact : Rat} (isNumeral : IsNumeral body exact)
    {name : String} (isName : String.ofList (body.map Char.toLower) = name) :
    ∃ first, name.toList.head? = some first ∧ (first.isDigit ∨ first = '.') := by
  obtain ⟨first, rest, rfl, isFirst⟩ := isNumeral.exists_first
  rw [← isName]
  refine ⟨first.toLower, by simp, ?_⟩
  rcases isFirst with isDigit | rfl
  · rw [toLower_of_isDigit isDigit]
    exact .inl isDigit
  · exact .inr rfl

theorem isUnsigned_of_name {body : List Char} {name : String}
    (isName : String.ofList (body.map Char.toLower) = name) (isUnsigned : IsUnsigned name.toList) :
    IsUnsigned body := by
  intro first isFirst
  rw [← isName] at isUnsigned
  have lowered := isUnsigned first.toLower (by
    rw [String.toList_ofList, List.head?_map, Option.mem_def.mp isFirst]
    rfl)
  constructor <;> rintro rfl
  · exact lowered.1 rfl
  · exact lowered.2 rfl

theorem word_infinity (negative : Bool) : word (if negative then -1.0 / 0.0 else 1.0 / 0.0) =
    double.signPart negative + double.infinityWord := by
  cases negative <;> decide +kernel

theorem isLiteral_of_readFloat? {text : List Char} {number : Float}
    (read : readFloat? text = some number) : IsLiteral text number := by
  obtain ⟨sign, isSign, isText⟩ := exists_isSign text
  unfold readFloat? at read
  generalize splitSign text = parts at *
  obtain ⟨negative, body⟩ := parts
  subst isText
  dsimp only at read
  split at read
  · next isName =>
      cases read
      exact .infinite isSign isName (word_infinity negative)
  · split at read
    · next isName =>
        cases read
        exact .missing isSign isName rfl
    · obtain ⟨numeral, readNumeral, rfl⟩ := Option.map_eq_some_iff.mp read
      obtain ⟨rfl, isNumeral⟩ := isNumeral_of_readUnsigned? readNumeral
      obtain ⟨nearest, isNearest, isWord⟩ := exists_nearestWord numeral
      exact .numeral isSign isNumeral isNearest isWord

theorem readFloat?_of_isLiteral {text : List Char} {number : Float}
    (isLiteral : IsLiteral text number) : readFloat? text = some number := by
  unfold readFloat?
  cases isLiteral with
  | @numeral sign body negative exact nearest _ isSign isNumeral isNearest isWord =>
      have notNamed {name : String}
          (letter : ∀ first ∈ name.toList.head?, first.isDigit = false ∧ first ≠ '.') :
          String.ofList (body.map Char.toLower) ≠ name := by
        intro isName
        obtain ⟨first, isFirst, isDigit | isPoint⟩ := isNumeral.exists_first_of_name isName
        · exact absurd isDigit (Bool.eq_false_iff.mp (letter first isFirst).1)
        · exact (letter first isFirst).2 isPoint
      obtain ⟨decimal, read, rfl, rfl⟩ := readUnsigned?_of_isNumeral negative isNumeral
      obtain ⟨other, otherNearest, otherWord⟩ := exists_nearestWord decimal
      rw [splitSign_append isSign isNumeral.isUnsigned]
      dsimp only
      rw [if_neg (not_or.mpr ⟨notNamed (by simp), notNamed (by simp)⟩), if_neg (notNamed (by simp)),
        read, Option.map_some]
      refine congrArg some (eq_of_word_eq ?_)
      rw [otherWord, isWord, otherNearest.eq isNearest]
  | @infinite sign body negative _ isSign isName isWord =>
      have isUnsigned : IsUnsigned body := by
        rcases isName with isName | isName
        · exact isUnsigned_of_name isName (by simp [IsUnsigned])
        · exact isUnsigned_of_name isName (by simp [IsUnsigned])
      rw [splitSign_append isSign isUnsigned]
      dsimp only
      rw [if_pos isName]
      exact congrArg some (eq_of_word_eq ((word_infinity negative).trans isWord.symm))
  | @missing sign body negative _ isSign isName missing =>
      rw [splitSign_append isSign (isUnsigned_of_name isName (by simp [IsUnsigned]))]
      dsimp only
      rw [if_neg (by rw [isName]; decide), if_pos isName]
      exact congrArg some (IsMissing.eq rfl missing)

/-- A word is read as a float exactly if it is a literal of that float. -/
theorem readFloat?_eq_some_iff {text : List Char} {number : Float} :
    readFloat? text = some number ↔ IsLiteral text number :=
  ⟨isLiteral_of_readFloat?, readFloat?_of_isLiteral⟩

end Decimal

end TileAtlas
