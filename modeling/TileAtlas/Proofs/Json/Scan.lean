import TileAtlas.Json.Writer
import TileAtlas.Proofs.Json.Numeral
import TileAtlas.Proofs.Json.Text
import Mathlib.Tactic.IntervalCases

/-!
Contract: how the scanner goes through the parts of a compact document.

Owns:
- `EndsBetween` and `EndsWith`, what has been read of a text;
- one lemma for each part that may come next: marks, words, numerals, texts.

A numeral or a word ends only where the next byte does not belong to it.  What
has been read is therefore told in two ways: with the last token complete, or
complete as soon as nothing more belongs to it.
-/

namespace TileAtlas

namespace Json.Scan

/-- A text has been read as tokens, the last one included. -/
def EndsBetween (text : String) (tokens : List Token) : Prop :=
  (octets text).foldlM step start = some ⟨.between, tokens.reverse⟩

/-- A text is read as tokens once nothing more belongs to the last one. -/
def EndsWith (text : String) (tokens : List Token) : Prop :=
  ∃ scan, (octets text).foldlM step start = some scan ∧
    scan.flush = some ⟨.between, tokens.reverse⟩

variable {text : String} {tokens : List Token}

theorem EndsBetween.endsWith (read : EndsBetween text tokens) : EndsWith text tokens :=
  ⟨_, read, rfl⟩

theorem endsBetween_empty : EndsBetween "" [] := rfl

/-! ## Marks -/

theorem mem_of_markToken? {byte : UInt8} {token : Token} (isMark : markToken? byte = some token) :
    byte ∈ ([0x7B, 0x7D, 0x5B, 0x5D, 0x2C, 0x3A] : List UInt8) := by
  unfold markToken? at isMark
  simp only [List.mem_cons, List.not_mem_nil, or_false]
  grind

theorem begin_mark {byte : UInt8} {token : Token} (isMark : markToken? byte = some token)
    (scan : Scan) : scan.begin byte = some { scan with tokens := token :: scan.tokens } := by
  have isIn := mem_of_markToken? isMark
  simp only [List.mem_cons, List.not_mem_nil, or_false] at isIn
  rcases isIn with rfl | rfl | rfl | rfl | rfl | rfl <;> cases isMark <;> rfl

theorem not_isNumeralByte_of_mark {byte : UInt8} {token : Token}
    (isMark : markToken? byte = some token) :
    isNumeralByte byte = false ∧ isWordByte byte = false := by
  have isIn := mem_of_markToken? isMark
  simp only [List.mem_cons, List.not_mem_nil, or_false] at isIn
  rcases isIn with rfl | rfl | rfl | rfl | rfl | rfl <;> decide

/-- A mark ends what comes before it. -/
theorem step_mark {scan : Scan} {read : List Token} {byte : UInt8} {token : Token}
    (settles : scan.flush = some ⟨.between, read⟩) (isMark : markToken? byte = some token) :
    scan.step byte = some ⟨.between, token :: read⟩ := by
  obtain ⟨notNumeral, notWord⟩ := not_isNumeralByte_of_mark isMark
  obtain ⟨mode, earlier⟩ := scan
  cases mode with
  | between =>
      obtain rfl : earlier = read := by simpa [flush] using settles
      exact begin_mark isMark _
  | inText body => contradiction
  | afterBackslash body => contradiction
  | inNumeral digits => simp [step, notNumeral, settles, begin_mark isMark]
  | inWord letters => simp [step, notWord, settles, begin_mark isMark]

theorem EndsWith.mark (read : EndsWith text tokens) (mark : String) {byte : UInt8} {token : Token}
    (isByte : octets mark = [byte]) (isMark : markToken? byte = some token) :
    EndsBetween (text ++ mark) (tokens ++ [token]) := by
  obtain ⟨scan, reached, settles⟩ := read
  simp [EndsBetween, isByte, List.foldlM_append, reached, step_mark settles isMark]

/-! ## Words and numerals -/

theorem EndsBetween.null (read : EndsBetween text tokens) :
    EndsWith (text ++ "null") (tokens ++ [.null]) := by
  refine ⟨⟨.inWord "null".toList.reverse, tokens.reverse⟩, ?_, by rw [List.reverse_append]; rfl⟩
  rw [octets_append, List.foldlM_append, read]
  rfl

theorem EndsBetween.bool (read : EndsBetween text tokens) (value : Bool) :
    EndsWith (text ++ JsonValue.boolText value) (tokens ++ [.bool value]) := by
  refine ⟨⟨.inWord (JsonValue.boolText value).toList.reverse, tokens.reverse⟩, ?_,
    by rw [List.reverse_append]; cases value <;> rfl⟩
  rw [octets_append, List.foldlM_append, read]
  cases value <;> rfl

/-- A character that may stand in a numeral. -/
def IsNumeralChar (char : Char) : Prop :=
  char.isDigit ∨ char ∈ ['.', '-', 'e']

theorem IsNumeralChar.toNat_lt {char : Char} (isNumeral : IsNumeralChar char) :
    char.toNat < 128 := by
  rcases isNumeral with isDigit | isIn
  · simp only [Char.isDigit, Bool.and_eq_true, decide_eq_true_eq] at isDigit
    have below : char.toNat ≤ 57 := isDigit.2
    omega
  · simp only [List.mem_cons, List.not_mem_nil, or_false] at isIn
    rcases isIn with rfl | rfl | rfl <;> decide

theorem charOf_ofNat {char : Char} (ascii : char.toNat < 128) :
    charOf (UInt8.ofNat char.toNat) = char := by
  have value : (UInt8.ofNat char.toNat).toNat = char.toNat := by rw [UInt8.toNat_ofNat']; omega
  rw [charOf, value, Char.ofNat_toNat]

theorem IsNumeralChar.isNumeralByte {char : Char} (isNumeral : IsNumeralChar char) :
    isNumeralByte (UInt8.ofNat char.toNat) := by
  rw [Scan.isNumeralByte, charOf_ofNat isNumeral.toNat_lt]
  rcases isNumeral with isDigit | isIn
  · simp [isDigit]
  · simp only [List.mem_cons, List.not_mem_nil, or_false] at isIn
    rcases isIn with rfl | rfl | rfl <;> rfl

theorem foldlM_step_inNumeral {chars : List Char} (areNumeral : ∀ char ∈ chars, IsNumeralChar char)
    (digits : List Char) (read : List Token) :
    (chars.flatMap String.utf8EncodeChar).foldlM step ⟨.inNumeral digits, read⟩ =
      some ⟨.inNumeral (chars.reverse ++ digits), read⟩ := by
  induction chars generalizing digits with
  | nil => rfl
  | cons char chars inductionHypothesis =>
      rw [List.forall_mem_cons] at areNumeral
      have ascii := areNumeral.1.toNat_lt
      simp [utf8EncodeChar_of_lt ascii, step, areNumeral.1.isNumeralByte, charOf_ofNat ascii,
        inductionHypothesis areNumeral.2]

theorem isNumeralChar_of_mem_text {numeral : Numeral} (wellFormed : numeral.IsWellFormed) :
    ∀ char ∈ numeral.text.toList, IsNumeralChar char := by
  intro char isIn
  have digits := Numeral.isDigit_of_isWhole wellFormed.whole
  obtain ⟨negative, whole, fraction, exponent⟩ := numeral
  simp only [Numeral.toList_text, List.mem_append] at isIn
  have sign : ∀ negative, char ∈ Numeral.signText negative → IsNumeralChar char := by
    intro negative isSign
    cases negative with
    | false => contradiction
    | true => exact .inr (by simp_all [Numeral.signText])
  rcases isIn with isSign | isWhole | isFraction | isExponent
  · exact sign negative isSign
  · exact .inl (digits char isWhole)
  · unfold Numeral.fractionText at isFraction
    split at isFraction
    · contradiction
    · rcases List.mem_cons.mp isFraction with rfl | isDigit
      · exact .inr (by simp)
      · exact .inl (wellFormed.fraction char isDigit)
  · cases exponent with
    | none => contradiction
    | some part =>
        simp only [Numeral.exponentText, List.mem_cons, List.mem_append] at isExponent
        rcases isExponent with rfl | isSign | isDigit
        · exact .inr (by simp)
        · exact sign part.1 isSign
        · exact .inl ((wellFormed.exponent part rfl).2 char isDigit)

theorem head_text {numeral : Numeral} (wellFormed : numeral.IsWellFormed) :
    ∃ first rest, numeral.text.toList = first :: rest ∧ (first.isDigit ∨ first = '-') := by
  have notEmpty := Numeral.ne_nil_of_isWhole wellFormed.whole
  have digits := Numeral.isDigit_of_isWhole wellFormed.whole
  rw [Numeral.toList_text]
  obtain ⟨negative, whole, fraction, exponent⟩ := numeral
  obtain ⟨first, rest, rfl⟩ := List.exists_cons_of_ne_nil notEmpty
  cases negative with
  | false => exact ⟨first, _, rfl, .inl (digits first (by simp))⟩
  | true => exact ⟨'-', _, rfl, .inr rfl⟩

theorem begin_numeral {first : Char} (isFirst : first.isDigit ∨ first = '-') (read : List Token) :
    Scan.begin ⟨.between, read⟩ (UInt8.ofNat first.toNat) = some ⟨.inNumeral [first], read⟩ := by
  rcases isFirst with isDigit | rfl
  · simp only [Char.isDigit, Bool.and_eq_true, decide_eq_true_eq] at isDigit
    obtain ⟨above, below⟩ : 48 ≤ first.toNat ∧ first.toNat ≤ 57 := isDigit
    rw [← Char.ofNat_toNat first]
    generalize first.toNat = code at above below
    interval_cases code <;> rfl
  · rfl

theorem EndsBetween.numeral (read : EndsBetween text tokens) {numeral : Numeral}
    (wellFormed : numeral.IsWellFormed) :
    EndsWith (text ++ numeral.text) (tokens ++ [.numeral numeral]) := by
  obtain ⟨first, rest, isText, isFirst⟩ := head_text wellFormed
  have numeralChars := isNumeralChar_of_mem_text wellFormed
  have readBack := Numeral.read?_text wellFormed
  rw [isText, List.forall_mem_cons] at numeralChars
  refine ⟨⟨.inNumeral numeral.text.toList.reverse, tokens.reverse⟩, ?_, ?_⟩
  · rw [octets_append, List.foldlM_append, read, octets_eq_flatMap, isText, List.flatMap_cons,
      utf8EncodeChar_of_lt numeralChars.1.toNat_lt]
    simp [step, begin_numeral isFirst, foldlM_step_inNumeral numeralChars.2]
  · simp [flush, readBack]

/-! ## Texts -/

theorem isPlain_of_hexDigit? {byte : UInt8} {value : Nat} (isDigit : hexDigit? byte = some value) :
    IsPlain byte := by
  have range : 0x30 ≤ byte.toNat ∧ byte.toNat ≤ 0x46 ∨ 0x61 ≤ byte.toNat ∧ byte.toNat ≤ 0x66 := by
    unfold hexDigit? at isDigit
    simp only [UInt8.le_iff_toNat_le] at isDigit
    split at isDigit
    case isTrue decimal => exact .inl ⟨decimal.1, le_trans decimal.2 (by decide)⟩
    case isFalse =>
    split at isDigit
    case isTrue upper => exact .inl ⟨le_trans (by decide) upper.1, upper.2⟩
    case isFalse =>
    split at isDigit
    case isTrue lower => exact .inr lower
    case isFalse => contradiction
  refine ⟨by omega, ?_, ?_⟩
  · rintro rfl
    revert range
    decide
  · rintro rfl
    revert range
    decide

theorem step_plain {byte : UInt8} (isPlain : IsPlain byte) (body : List UInt8)
    (read : List Token) : step ⟨.inText body, read⟩ byte = some ⟨.inText (byte :: body), read⟩ := by
  have visible : ¬byte < 0x20 := by
    rw [UInt8.lt_iff_toNat_lt]
    have := isPlain.visible
    simpa using this
  simp [step, isPlain.notQuote, isPlain.notBackslash, visible]

theorem step_short {mark byte : UInt8} (isShort : shortEscape? mark = some byte)
    (body : List UInt8) (read : List Token) :
    step ⟨.afterBackslash body, read⟩ mark = some ⟨.inText (mark :: body), read⟩ := by
  have visible : ¬mark < 0x20 := by
    intro control
    unfold shortEscape? at isShort
    grind
  simp [step, visible]

theorem foldlM_step_inText {body bytes : List UInt8} (denotes : Denotes body bytes)
    (before : List UInt8) (read : List Token) :
    body.foldlM step ⟨.inText before, read⟩ = some ⟨.inText (body.reverse ++ before), read⟩ := by
  have backslash : ∀ before, step ⟨.inText before, read⟩ 0x5C =
    some ⟨.afterBackslash (0x5C :: before), read⟩ := fun _ => rfl
  have codeMark : ∀ before, step ⟨.afterBackslash before, read⟩ 0x75 =
    some ⟨.inText (0x75 :: before), read⟩ := fun _ => rfl
  induction denotes generalizing before with
  | nil => rfl
  | plain isPlain _ inductionHypothesis =>
      simp [step_plain isPlain, inductionHypothesis]
  | short isShort _ inductionHypothesis =>
      simp [backslash, step_short isShort, inductionHypothesis]
  | @code a b c d code _ _ isWord _ _ inductionHypothesis =>
      have plain : ∀ byte ∈ [a, b, c, d], IsPlain byte := by
        simp only [hexWord?, Option.bind_eq_bind, Option.bind_eq_some_iff] at isWord
        obtain ⟨_, isA, _, isB, _, isC, _, isD, _⟩ := isWord
        simp [isPlain_of_hexDigit? isA, isPlain_of_hexDigit? isB, isPlain_of_hexDigit? isC,
          isPlain_of_hexDigit? isD]
      simp only [List.forall_mem_cons] at plain
      obtain ⟨plainA, plainB, plainC, plainD, -⟩ := plain
      simp [backslash, codeMark, step_plain plainA, step_plain plainB,
        step_plain plainC, step_plain plainD, inductionHypothesis]

theorem EndsBetween.quotedText (read : EndsBetween text tokens) (content : Option String) :
    EndsBetween (text ++ JsonValue.quotedText content) (tokens ++ [.text content]) := by
  cases content with
  | none =>
      -- half a surrogate pair is written, and no text is read
      rw [EndsBetween, octets_append, List.foldlM_append, read]
      simp only [List.reverse_append]
      rfl
  | some content =>
      have denotes := denotes_escape content
      have opened : ∀ read, step ⟨.between, read⟩ 0x22 = some ⟨.inText [], read⟩ := fun _ => rfl
      have closed : ∀ body read,
          step ⟨.inText body, read⟩ 0x22 = closeText ⟨.inText body, read⟩ body := fun _ _ => rfl
      have quote : octets "\"" = [0x22] := rfl
      rw [EndsBetween, octets_append, List.foldlM_append, read]
      simp [JsonValue.quotedText, quote, opened, foldlM_step_inText denotes, closed, closeText,
        denotes.isEscaped, unescape?_escape]

end Json.Scan

end TileAtlas
