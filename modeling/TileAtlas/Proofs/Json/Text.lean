import TileAtlas.Json.Text
import Mathlib.Data.List.Basic

/-!
Contract: a text comes back from the body that is written of it.

Owns:
- `octets`, the bytes of a text, and how they follow its parts;
- `Json.Denotes`, the grammar of bodies together with what they denote;
- `Json.denotes_escape` and `Json.unescape?_escape`.

The grammar covers what is written; a reader accepts more, such as pairs of
surrogates.
-/

namespace TileAtlas

/-- The bytes of a text. -/
def octets (text : String) : List UInt8 := text.toUTF8.data.toList

@[simp] theorem octets_append (first second : String) :
    octets (first ++ second) = octets first ++ octets second := by
  simp [octets, String.toUTF8]

theorem octets_ofList (chars : List Char) :
    octets (String.ofList chars) = chars.flatMap String.utf8EncodeChar := by
  simp [octets, String.toUTF8, List.utf8Encode]

theorem octets_eq_flatMap (text : String) :
    octets text = text.toList.flatMap String.utf8EncodeChar := by
  rw [← octets_ofList, String.ofList_toList]

theorem Bytes.toList_ofList (row : List UInt8) : (Bytes.ofList row).data.toList = row := by
  have appended : ∀ buffer : ByteArray,
      (Bytes.append buffer row).data.toList = buffer.data.toList ++ row := by
    induction row with
    | nil => simp [Bytes.append]
    | cons byte row inductionHypothesis =>
        intro buffer
        have pushed := inductionHypothesis (buffer.push byte)
        simpa [Bytes.append] using pushed
  simpa [Bytes.ofList] using appended ByteArray.empty

theorem fromUTF8?_octets (text : String) :
    String.fromUTF8? (Bytes.ofList (octets text)) = some text := by
  have same : Bytes.ofList (octets text) = text.toByteArray := by
    apply ByteArray.ext
    apply Array.toList_inj.mp
    exact Bytes.toList_ofList _
  have valid : text.toByteArray.IsValidUTF8 := text.isValidUTF8
  rw [same, String.fromUTF8?, dif_pos valid]
  rfl

theorem utf8EncodeChar_of_lt {char : Char} (ascii : char.toNat < 128) :
    String.utf8EncodeChar char = [UInt8.ofNat char.toNat] := by
  rw [String.utf8EncodeChar, Char.toNat_val, if_pos (Nat.le_of_lt_succ ascii)]

theorem le_of_mem_utf8EncodeChar {char : Char} (beyond : 128 ≤ char.toNat) {byte : UInt8}
    (isIn : byte ∈ String.utf8EncodeChar char) : 128 ≤ byte.toNat := by
  rw [String.utf8EncodeChar, Char.toNat_val, if_neg (by omega)] at isIn
  split at isIn
  · simp only [List.mem_cons, List.not_mem_nil, or_false] at isIn
    rcases isIn with rfl | rfl <;> rw [UInt8.toNat_ofNat'] <;> omega
  · split at isIn
    · simp only [List.mem_cons, List.not_mem_nil, or_false] at isIn
      rcases isIn with rfl | rfl | rfl <;> rw [UInt8.toNat_ofNat'] <;> omega
    · simp only [List.mem_cons, List.not_mem_nil, or_false] at isIn
      rcases isIn with rfl | rfl | rfl | rfl <;> rw [UInt8.toNat_ofNat'] <;> omega

namespace Json

/-- A byte that stands for itself between quotes. -/
structure IsPlain (byte : UInt8) : Prop where
  visible : 0x20 ≤ byte.toNat
  notQuote : byte ≠ 0x22
  notBackslash : byte ≠ 0x5C

/-- The body of a string denotes a row of bytes. -/
inductive Denotes : List UInt8 → List UInt8 → Prop where
  | nil : Denotes [] []
  | plain {byte : UInt8} {body bytes : List UInt8} (isPlain : IsPlain byte)
      (rest : Denotes body bytes) : Denotes (byte :: body) (byte :: bytes)
  | short {mark byte : UInt8} {body bytes : List UInt8} (isShort : shortEscape? mark = some byte)
      (rest : Denotes body bytes) : Denotes (0x5C :: mark :: body) (byte :: bytes)
  | code {a b c d : UInt8} {code : Nat} {body bytes : List UInt8}
      (isWord : hexWord? a b c d = some code) (notSurrogate : code < 0xD800)
      (rest : Denotes body bytes) :
      Denotes (0x5C :: 0x75 :: a :: b :: c :: d :: body) (codePointBytes code ++ bytes)

theorem Denotes.append {front first back second : List UInt8} (before : Denotes front first)
    (after : Denotes back second) : Denotes (front ++ back) (first ++ second) := by
  induction before with
  | nil => exact after
  | plain isPlain _ inductionHypothesis => exact .plain isPlain inductionHypothesis
  | short isShort _ inductionHypothesis => exact .short isShort inductionHypothesis
  | code isWord notSurrogate _ inductionHypothesis =>
      rw [List.append_assoc]
      exact .code isWord notSurrogate inductionHypothesis

theorem denotes_of_isPlain {row : List UInt8} (isPlain : ∀ byte ∈ row, IsPlain byte) :
    Denotes row row := by
  induction row with
  | nil => exact .nil
  | cons byte row inductionHypothesis =>
      rw [List.forall_mem_cons] at isPlain
      exact .plain isPlain.1 (inductionHypothesis isPlain.2)

/-! ## Reading a body -/

theorem shortEscape?_hexMark : shortEscape? 0x75 = none := by decide

theorem Denotes.isEscaped {body bytes : List UInt8} (denotes : Denotes body bytes) :
    isEscaped body := by
  induction denotes with
  | nil => rfl
  | plain isPlain _ inductionHypothesis =>
      rw [Json.isEscaped]
      · exact inductionHypothesis
      all_goals simp_all [isPlain.notBackslash]
  | short isShort _ inductionHypothesis =>
      rw [Json.isEscaped]
      · simp [isShort, inductionHypothesis]
      · rintro _ _ _ _ _ rfl _
        simp [shortEscape?_hexMark] at isShort
  | code isWord _ _ inductionHypothesis => simp [Json.isEscaped, isWord, inductionHypothesis]

theorem Denotes.unescapeBytes? {body bytes : List UInt8} (denotes : Denotes body bytes) :
    unescapeBytes? body = some bytes := by
  induction denotes with
  | nil => rfl
  | plain isPlain _ inductionHypothesis =>
      rw [Json.unescapeBytes?]
      · simp [inductionHypothesis]
      all_goals simp_all [isPlain.notBackslash]
  | short isShort _ inductionHypothesis =>
      rw [Json.unescapeBytes?]
      · simp [isShort, inductionHypothesis]
      · rintro _ _ _ _ _ rfl _
        simp [shortEscape?_hexMark] at isShort
  | code isWord notSurrogate _ inductionHypothesis =>
      simp [Json.unescapeBytes?, isWord, notSurrogate, inductionHypothesis]

/-! ## Writing a body -/

theorem codePointBytes_toNat (char : Char) :
    codePointBytes char.toNat = String.utf8EncodeChar char := by
  have same : Char.ofNat char.toNat = char := Char.ofNat_toNat char
  rw [codePointBytes, same, String.singleton_eq_ofList]
  simpa [octets] using octets_ofList [char]

theorem isPlain_of_mem_utf8EncodeChar {char : Char} (notQuote : char ≠ '"')
    (notBackslash : char ≠ '\\') (visible : 0x20 ≤ char.toNat) {byte : UInt8}
    (isIn : byte ∈ String.utf8EncodeChar char) : IsPlain byte := by
  have quote : char.toNat ≠ 0x22 := fun same => notQuote (Char.toNat_inj.mp same)
  have backslash : char.toNat ≠ 0x5C := fun same => notBackslash (Char.toNat_inj.mp same)
  by_cases ascii : char.toNat < 128
  · rw [utf8EncodeChar_of_lt ascii, List.mem_singleton] at isIn
    have value : byte.toNat = char.toNat := by rw [isIn, UInt8.toNat_ofNat']; omega
    refine ⟨by omega, ?_, ?_⟩
    · rintro rfl
      exact quote value.symm
    · rintro rfl
      exact backslash value.symm
  · have large := le_of_mem_utf8EncodeChar (by omega) isIn
    refine ⟨by omega, ?_, ?_⟩
    · rintro rfl
      contradiction
    · rintro rfl
      contradiction

theorem hexWord?_hexPair : ∀ {code : Nat}, code < 0x20 →
    (hexPair code).flatMap String.utf8EncodeChar =
      [UInt8.ofNat (Nat.digitChar (code / 16 % 16)).toNat,
        UInt8.ofNat (Nat.digitChar (code % 16)).toNat] ∧
    hexWord? 0x30 0x30 (UInt8.ofNat (Nat.digitChar (code / 16 % 16)).toNat)
      (UInt8.ofNat (Nat.digitChar (code % 16)).toNat) = some code := by
  decide

theorem denotes_escapeChar (char : Char) :
    Denotes ((escapeChar char).flatMap String.utf8EncodeChar) (String.utf8EncodeChar char) := by
  unfold escapeChar
  split
  case isTrue isQuote => subst isQuote; exact .short (by decide) .nil
  case isFalse notQuote =>
  split
  case isTrue isBackslash => subst isBackslash; exact .short (by decide) .nil
  case isFalse notBackslash =>
  split
  case isTrue isBackspace =>
    rw [utf8EncodeChar_of_lt (by omega : char.toNat < 128), isBackspace]
    exact .short (by decide) .nil
  case isFalse =>
  split
  case isTrue isFormFeed =>
    rw [utf8EncodeChar_of_lt (by omega : char.toNat < 128), isFormFeed]
    exact .short (by decide) .nil
  case isFalse =>
  split
  case isTrue isLineFeed => subst isLineFeed; exact .short (by decide) .nil
  case isFalse =>
  split
  case isTrue isReturn => subst isReturn; exact .short (by decide) .nil
  case isFalse =>
  split
  case isTrue isTab => subst isTab; exact .short (by decide) .nil
  case isFalse =>
  split
  case isTrue isControl =>
    obtain ⟨pair, isWord⟩ := hexWord?_hexPair isControl
    have denotes := Denotes.code isWord (by omega) .nil
    rw [codePointBytes_toNat, List.append_nil] at denotes
    rw [List.flatMap_append, pair]
    exact denotes
  case isFalse isVisible =>
    rw [List.flatMap_singleton]
    exact denotes_of_isPlain fun _ =>
      isPlain_of_mem_utf8EncodeChar notQuote notBackslash (by omega)

/-- What is written of a text denotes the text. -/
theorem denotes_escape (text : String) : Denotes (octets (escape text)) (octets text) := by
  rw [escape, octets_ofList, octets_eq_flatMap, List.flatMap_assoc]
  induction text.toList with
  | nil => exact .nil
  | cons char rest inductionHypothesis =>
      rw [List.flatMap_cons, List.flatMap_cons]
      exact (denotes_escapeChar char).append inductionHypothesis

theorem unescape?_escape (text : String) : unescape? (octets (escape text)) = some text := by
  rw [unescape?, (denotes_escape text).unescapeBytes?]
  exact fromUTF8?_octets text

end Json

end TileAtlas
