import TileAtlas.Json.Number
import Mathlib.Data.List.TakeDrop
import Mathlib.Data.List.TakeWhile
import Mathlib.Tactic.IntervalCases

/-!
Contract: what is written as a JSON numeral is read as the same numeral.

Owns:
- `Numeral.IsWellFormed`, the numerals that reading gives;
- `Numeral.read?_text`, reading after writing;
- `Numeral.number?_ofNat`: the numeral of a 64-bit count denotes the count.
-/

namespace TileAtlas

namespace Decimal

theorem splitDigits_append {digits rest : List Char} (areDigits : ∀ char ∈ digits, char.isDigit)
    (stop : ∀ char ∈ rest.head?, char.isDigit = false) :
    splitDigits (digits ++ rest) = (digits, rest) := by
  have taken : rest.takeWhile Char.isDigit = [] ∧ rest.dropWhile Char.isDigit = rest := by
    cases rest with
    | nil => simp
    | cons char rest => simp [stop char (by simp)]
  rw [splitDigits, List.span_eq_takeWhile_dropWhile, List.takeWhile_append_of_pos areDigits,
    List.dropWhile_append_of_pos areDigits, taken.1, taken.2, List.append_nil]

theorem isDigit_of_mem_splitDigits {text : List Char} {char : Char}
    (isIn : char ∈ (splitDigits text).1) : char.isDigit := by
  rw [splitDigits, List.span_eq_takeWhile_dropWhile] at isIn
  exact List.mem_takeWhile_imp isIn

theorem splitSign_of_isDigit {text : List Char} (isDigit : ∀ char ∈ text.head?, char.isDigit) :
    splitSign text = (false, text) := by
  cases text with
  | nil => rfl
  | cons char rest =>
      have notMinus : char ≠ '-' := by rintro rfl; simp at isDigit
      have notPlus : char ≠ '+' := by rintro rfl; simp at isDigit
      simp [splitSign, notMinus, notPlus]

end Decimal

namespace Json.Numeral

/-- The numerals that reading gives. -/
structure IsWellFormed (numeral : Numeral) : Prop where
  whole : isWhole numeral.whole
  fraction : ∀ char ∈ numeral.fraction, char.isDigit
  exponent : ∀ part ∈ numeral.exponent, part.2 ≠ [] ∧ ∀ char ∈ part.2, char.isDigit

theorem isDigit_of_isWhole {digits : List Char} (isWhole : isWhole digits) :
    ∀ char ∈ digits, char.isDigit := by
  unfold Numeral.isWhole at isWhole
  split at isWhole
  · contradiction
  · simp
  · contradiction
  · exact List.all_eq_true.mp isWhole

theorem ne_nil_of_isWhole {digits : List Char} (isWhole : isWhole digits) : digits ≠ [] := by
  rintro rfl
  contradiction

/-! ## Writing and reading -/

def signText (negative : Bool) : List Char := if negative then ['-'] else []

def fractionText (fraction : List Char) : List Char :=
  if fraction = [] then [] else '.' :: fraction

def exponentText : Option (Bool × List Char) → List Char
  | none => []
  | some (negative, digits) => 'e' :: (signText negative ++ digits)

theorem toList_text (numeral : Numeral) :
    numeral.text.toList = signText numeral.negative ++
      (numeral.whole ++ (fractionText numeral.fraction ++ exponentText numeral.exponent)) := by
  obtain ⟨negative, whole, fraction, exponent⟩ := numeral
  cases exponent <;> simp [text, signText, fractionText, exponentText]

theorem readExponent?_exponentText {exponent : Option (Bool × List Char)}
    (areDigits : ∀ part ∈ exponent, part.2 ≠ [] ∧ ∀ char ∈ part.2, char.isDigit) :
    readExponent? (exponentText exponent) = some exponent := by
  cases exponent with
  | none => rfl
  | some part =>
      obtain ⟨negative, digits⟩ := part
      obtain ⟨notEmpty, digitsOnly⟩ : digits ≠ [] ∧ ∀ char ∈ digits, char.isDigit :=
        areDigits _ rfl
      have split : Decimal.splitSign (signText negative ++ digits) = (negative, digits) := by
        cases negative with
        | false =>
            refine Decimal.splitSign_of_isDigit fun char isHead => ?_
            exact digitsOnly char (List.mem_of_mem_head? isHead)
        | true => rfl
      simpa [exponentText, readExponent?, split, notEmpty] using digitsOnly

theorem isDigit_head?_exponentText (exponent : Option (Bool × List Char)) :
    ∀ char ∈ (exponentText exponent).head?, char.isDigit = false := by
  cases exponent <;> simp [exponentText]

theorem isDigit_head?_fractionText (fraction : List Char) (exponent : Option (Bool × List Char)) :
    ∀ char ∈ (fractionText fraction ++ exponentText exponent).head?, char.isDigit = false := by
  unfold fractionText
  split
  · exact isDigit_head?_exponentText exponent
  · simp

theorem splitMinus_signText (negative : Bool) {whole : List Char} (isWhole : isWhole whole)
    (rest : List Char) :
    splitMinus (signText negative ++ (whole ++ rest)) = (negative, whole ++ rest) := by
  cases negative with
  | true => rfl
  | false =>
      obtain ⟨first, others, rfl⟩ := List.exists_cons_of_ne_nil (ne_nil_of_isWhole isWhole)
      -- a row of digits does not begin with a minus
      have isDigit := isDigit_of_isWhole isWhole first (by simp)
      have notMinus : first ≠ '-' := by rintro rfl; contradiction
      simp [signText, splitMinus, notMinus]

/-- A numeral is read from what is written of it. -/
theorem read?_text {numeral : Numeral} (wellFormed : numeral.IsWellFormed) :
    read? numeral.text.toList = some numeral := by
  rw [toList_text]
  obtain ⟨negative, whole, fraction, exponent⟩ := numeral
  obtain ⟨isWhole, fractionDigits, exponentDigits⟩ := wellFormed
  simp only at isWhole fractionDigits exponentDigits ⊢
  have wholeDigits := isDigit_of_isWhole isWhole
  have afterWhole := Decimal.splitDigits_append wholeDigits
    (isDigit_head?_fractionText fraction exponent)
  have afterFraction := Decimal.splitDigits_append fractionDigits
    (isDigit_head?_exponentText exponent)
  have readExponent := readExponent?_exponentText exponentDigits
  rw [read?, splitMinus_signText negative isWhole]
  simp only [afterWhole, isWhole, if_true]
  by_cases noFraction : fraction = []
  · subst noFraction
    cases exponent <;> simp_all [fractionText, exponentText]
  · simp [fractionText, noFraction, afterFraction, readExponent]

theorem isDigit_of_readExponent? {text : List Char} {exponent : Option (Bool × List Char)}
    (read : readExponent? text = some exponent) :
    ∀ part ∈ exponent, part.2 ≠ [] ∧ ∀ char ∈ part.2, char.isDigit := by
  unfold readExponent? at read
  rintro part isPart
  split at read
  · simp_all
  · split at read
    · simp only at read
      split at read
      · simp_all
      · contradiction
    · contradiction

theorem isWellFormed_of_read? {text : List Char} {numeral : Numeral}
    (read : read? text = some numeral) : numeral.IsWellFormed := by
  unfold read? at read
  generalize splitMinus text = signed at read
  obtain ⟨negative, body⟩ := signed
  simp only at read
  by_cases isWhole : Numeral.isWhole (Decimal.splitDigits body).1
  · rw [if_pos isWhole] at read
    split at read
    · split at read
      · contradiction
      · obtain ⟨exponent, readExponent, rfl⟩ := Option.map_eq_some_iff.mp read
        exact ⟨isWhole, fun _ => Decimal.isDigit_of_mem_splitDigits,
          isDigit_of_readExponent? readExponent⟩
    · obtain ⟨exponent, readExponent, rfl⟩ := Option.map_eq_some_iff.mp read
      exact ⟨isWhole, by simp, isDigit_of_readExponent? readExponent⟩
  · rw [if_neg isWhole] at read
    contradiction

/-! ## Counts -/

/-- The first digit of a number that is not zero is not zero. -/
theorem head?_toDigits_ne (value : Nat) (positive : 0 < value) :
    (Nat.toDigits 10 value).head? ≠ some '0' := by
  induction value using Nat.strongRecOn with
  | ind value inductionHypothesis =>
      by_cases single : value < 10
      · rw [Nat.toDigits_of_lt_base single]
        interval_cases value <;> decide
      · rw [Nat.toDigits_of_base_le (by decide) (by omega),
          List.head?_append, Option.or_of_isSome (by simp)]
        exact inductionHypothesis (value / 10) (by omega) (by omega)

theorem isWhole_toDigits (value : Nat) : isWhole (Nat.toDigits 10 value) := by
  have areDigits : ∀ char ∈ Nat.toDigits 10 value, char.isDigit := fun char =>
    Nat.isDigit_of_mem_toDigits (by decide) (by decide)
  rcases Nat.eq_zero_or_pos value with rfl | positive
  · rfl
  · have notZero := head?_toDigits_ne value positive
    have notEmpty : Nat.toDigits 10 value ≠ [] := Nat.toDigits_ne_nil
    unfold isWhole
    split <;> simp_all

theorem isWellFormed_ofNat (count : Nat) : (ofNat count).IsWellFormed :=
  ⟨isWhole_toDigits count, by simp [ofNat], by simp [ofNat]⟩

theorem appendDigits_cons {significand digit : Nat} (isDigit : digit < 10)
    (fits : 10 * significand + digit ≤ word64Max) (rest : List Char) :
    appendDigits significand (digit.digitChar :: rest) =
      appendDigits (10 * significand + digit) rest := by
  have value : ∀ digit < 10, (Nat.digitChar digit).toNat - '0'.toNat = digit := by decide
  have appended : appendDigit? significand digit.digitChar = some (10 * significand + digit) := by
    rw [appendDigit?, value digit isDigit, if_pos fits]
  rw [appendDigits, appended, Option.elim_some]

theorem appendDigits_toDigits {value : Nat} (fits : value ≤ word64Max) (rest : List Char) :
    appendDigits 0 (Nat.toDigits 10 value ++ rest) = appendDigits value rest := by
  induction value using Nat.strongRecOn generalizing rest with
  | ind value inductionHypothesis =>
      by_cases single : value < 10
      · rw [Nat.toDigits_of_lt_base single, List.singleton_append,
          appendDigits_cons single (by omega), Nat.mul_zero, Nat.zero_add]
      · have whole : 10 * (value / 10) + value % 10 = value := Nat.div_add_mod value 10
        rw [Nat.toDigits_of_base_le (by decide) (by omega), List.append_assoc,
          inductionHypothesis (value / 10) (by omega) (by omega), List.singleton_append,
          appendDigits_cons (by omega) (by omega), whole]

theorem number?_ofNat {count : Nat} (fits : count ≤ word64Max) :
    (ofNat count).number? = some (.natural count) := by
  have digits := appendDigits_toDigits fits []
  rw [List.append_nil] at digits
  simp [number?, ofNat, digits, appendDigits]

end Json.Numeral

end TileAtlas
