import Mathlib.Data.List.Infix
import TileAtlas.Cache.Key
import TileAtlas.Proofs.Sequence

/-!
Contract: when a tile has no key.

Owns:
- `Text.holds_iff`, searching as the relation of parts of a text;
- `IsToken` and `infix_substitute_iff`: putting a value in for one token leaves
  the other tokens where they are;
- `AsksForLevel` and `key_eq_error_iff`: only an inverted column or row token
  needs the size of a level, and a key fails for nothing else.

Does not own: what a template's key looks like.
-/

namespace TileAtlas

namespace Text

theorem isSome_dropStart?_iff {start text : List Char} :
    (dropStart? start text).isSome = true ↔ start <+: text := by
  induction start generalizing text with
  | nil => exact iff_of_true rfl (List.nil_prefix)
  | cons expected start inductionHypothesis =>
      cases text with
      | nil => simp [dropStart?]
      | cons char rest =>
          rw [dropStart?, List.cons_prefix_cons]
          by_cases same : char = expected
          · rw [if_pos same, inductionHypothesis, and_iff_right same.symm]
          · rw [if_neg same]
            exact iff_of_false nofun fun both => same both.1.symm

theorem holds_iff {part text : List Char} : holds part text = true ↔ part <:+: text := by
  induction text with
  | nil => rw [holds, List.isEmpty_iff, List.infix_nil]
  | cons char rest inductionHypothesis =>
      rw [holds, Bool.or_eq_true, isSome_dropStart?_iff, inductionHypothesis,
        List.infix_cons_iff]

/-- A part does not begin in a stretch without its first character. -/
theorem infix_append_iff_of_not_mem {first : Char} {rest before text : List Char}
    (absent : first ∉ before) : first :: rest <:+: before ++ text ↔ first :: rest <:+: text := by
  induction before with
  | nil => rfl
  | cons char before inductionHypothesis =>
      rw [List.mem_cons, not_or] at absent
      rw [List.cons_append, List.infix_cons_iff, List.cons_prefix_cons,
        inductionHypothesis absent.2]
      exact or_iff_right fun both => absent.1 both.1

end Text

namespace KeyLayout

/-! ## Tokens -/

/-- A name between braces. -/
def IsToken (token : List Char) : Prop :=
  ∃ name, token = '\x7b' :: (name ++ ['\x7d']) ∧ '\x7b' ∉ name ∧ '\x7d' ∉ name

/-- Of two tokens, none begins the other. -/
theorem IsToken.eq_of_prefix {token other rest : List Char} (isToken : IsToken token)
    (isOther : IsToken other) (begins : other <+: token ++ rest) : other = token := by
  obtain ⟨name, rfl, -, closed⟩ := isToken
  obtain ⟨otherName, rfl, -, otherClosed⟩ := isOther
  obtain ⟨after, same⟩ := begins
  simp only [List.cons_append, List.append_assoc, List.nil_append, List.cons.injEq,
    true_and] at same
  -- a name is what stands before the first closing brace
  have name_eq {name after : List Char} (closed : '\x7d' ∉ name) :
      (name ++ '\x7d' :: after).takeWhile (· ≠ '\x7d') = name := by
    have inside : ∀ char ∈ name, decide (char ≠ '\x7d') = true := fun char member =>
      decide_eq_true (ne_of_mem_of_not_mem member closed)
    rw [List.takeWhile_append_of_pos inside]
    simp
  rw [← name_eq otherClosed, same, name_eq closed]

/-- What stands behind one token holds another if both together do. -/
theorem IsToken.infix_append_iff {token other text : List Char} (isToken : IsToken token)
    (isOther : IsToken other) (differ : other ≠ token) :
    other <:+: token ++ text ↔ other <:+: text := by
  have notHere : ¬other <+: token ++ text := fun begins =>
    differ (isToken.eq_of_prefix isOther begins)
  obtain ⟨name, rfl, opened, -⟩ := isToken
  obtain ⟨otherName, rfl, -, -⟩ := isOther
  rw [List.cons_append] at notHere ⊢
  rw [List.infix_cons_iff, or_iff_right notHere]
  refine Text.infix_append_iff_of_not_mem ?_
  simpa using opened

/-! ## Values in place of tokens -/

section Substitution

variable {token value other text : List Char}

/-- A stretch that shares no character with the value and no brace with the token
begins the new text if it begins the old one. -/
theorem prefix_substituteFrom_iff {stretch : List Char} (isToken : IsToken token)
    (given : value ≠ []) (apart : ∀ char ∈ stretch, char ∉ value) (closed : '\x7b' ∉ stretch) :
    stretch <+: substituteFrom token value 0 text ↔ stretch <+: text := by
  induction stretch generalizing text with
  | nil => exact iff_of_true List.nil_prefix List.nil_prefix
  | cons char stretch inductionHypothesis =>
      rw [List.mem_cons, not_or] at closed
      cases text with
      | nil => rfl
      | cons head rest =>
          rw [substituteFrom]
          split
          · next matched =>
              obtain ⟨name, rfl, -, -⟩ := isToken
              obtain ⟨first, values, rfl⟩ := List.exists_cons_of_ne_nil given
              rw [Text.isSome_dropStart?_iff, List.cons_prefix_cons] at matched
              refine iff_of_false (fun begins => ?_) fun begins => ?_
              · rw [List.cons_append, List.cons_prefix_cons] at begins
                exact apart char (by simp) (by simp [begins.1])
              · rw [List.cons_prefix_cons] at begins
                exact closed.1 (matched.1.trans begins.1.symm)
          · rw [List.cons_prefix_cons, List.cons_prefix_cons,
              inductionHypothesis (fun char member => apart char (by simp [member])) closed.2]

theorem infix_substituteFrom_iff (isToken : IsToken token) (isOther : IsToken other)
    (differ : other ≠ token) (given : value ≠ []) (apart : ∀ char ∈ other, char ∉ value)
    (skip : Nat) :
    other <:+: substituteFrom token value skip text ↔ other <:+: text.drop skip := by
  induction text generalizing skip with
  | nil => simp [substituteFrom]
  | cons char rest inductionHypothesis =>
      cases skip with
      | succ skip => exact inductionHypothesis skip
      | zero =>
          rw [substituteFrom, List.drop_zero]
          have otherToken := isOther
          obtain ⟨otherName, otherParts, opened, -⟩ := isOther
          split
          · next matched =>
              -- the token is cut out, and the value in its place has no brace
              obtain ⟨after, cut⟩ := Text.isSome_dropStart?_iff.mp matched
              have remaining : rest.drop (token.length - 1) = after := by
                obtain ⟨name, rfl, -, -⟩ := isToken
                obtain rfl := (List.cons.inj cut).2
                simp
              rw [← cut, isToken.infix_append_iff otherToken differ, otherParts,
                Text.infix_append_iff_of_not_mem (apart _ (by simp [otherParts])), ← otherParts,
                inductionHypothesis, remaining]
          · rw [List.infix_cons_iff, List.infix_cons_iff, inductionHypothesis 0, List.drop_zero,
              otherParts, List.cons_prefix_cons, List.cons_prefix_cons,
              prefix_substituteFrom_iff isToken given
                (fun char member => apart char (otherParts ▸ List.mem_cons_of_mem _ member))
                (by simpa using opened)]

theorem infix_substitute_iff {plain : String} (isToken : IsToken plain.toList)
    (isOther : IsToken other) (differ : other ≠ plain.toList) (given : value ≠ [])
    (apart : ∀ char ∈ other, char ∉ value) :
    other <:+: substitute plain value text ↔ other <:+: text :=
  infix_substituteFrom_iff isToken isOther differ given apart 0

end Substitution

/-! ## Inverted tokens -/

/-- A text with the inverted token of an axis and without its plain one. -/
def Inverts (plain inverted : String) (text : List Char) : Prop :=
  ¬plain.toList <:+: text ∧ inverted.toList <:+: text

/-- A column or a row is to be written as counted from the other end. -/
def AsksForLevel (text : List Char) : Prop :=
  Inverts "\x7bx\x7d" "\x7binv_x\x7d" text ∨ Inverts "\x7by\x7d" "\x7binv_y\x7d" text

/-- A template with the names of a tile and the extension in place of their
tokens.  A name may bring further tokens along. -/
def withNames (template : String) (tile : TileCoordinate) (extension : String) : List Char :=
  substitute "\x7bext\x7d" extension.toList
    (substitute "\x7bgrid\x7d" tile.grid.toList
      (substitute "\x7btileset\x7d" tile.tileset.toList template.toList))

theorem substituteAxis_eq_error_iff {plain inverted : String} {value : Nat}
    {invertedValue : Except Error Int} {text : List Char} {error : Error} :
    substituteAxis plain inverted value invertedValue text = .error error ↔
      Inverts plain inverted text ∧ invertedValue = .error error := by
  unfold substituteAxis Inverts
  rw [← Text.holds_iff, ← Text.holds_iff]
  by_cases isPlain : Text.holds plain.toList text = true
  · simp [isPlain]
  · by_cases isInverted : Text.holds inverted.toList text = true
    · cases invertedValue <;> simp [isPlain, isInverted, Except.map]
    · simp [isPlain, isInverted]

/-- The tokens of which no character is written in a number. -/
def IsNumberless (token : List Char) : Prop :=
  IsToken token ∧ ∀ char ∈ token, char.isDigit = false ∧ char ≠ '-'

theorem isDigit_of_mem_decimal {value : Nat} {char : Char} (member : char ∈ decimal value) :
    char.isDigit = true :=
  Nat.isDigit_of_mem_toDigits (by decide) (by decide) member

theorem of_mem_signedDecimal {value : Int} {char : Char} (member : char ∈ signedDecimal value) :
    char.isDigit = true ∨ char = '-' := by
  unfold signedDecimal at member
  split at member
  · rcases List.mem_cons.mp member with rfl | digit
    · exact .inr rfl
    · exact .inl (isDigit_of_mem_decimal digit)
  · exact .inl (isDigit_of_mem_decimal member)

theorem signedDecimal_ne_nil (value : Int) : signedDecimal value ≠ [] := by
  unfold signedDecimal
  split
  · exact List.cons_ne_nil _ _
  · exact Nat.toDigits_ne_nil

/-- Writing the number of an axis leaves the tokens of others where they are. -/
theorem infix_iff_of_substituteAxis {plain inverted : String} {value : Nat}
    {invertedValue : Except Error Int} {text written other : List Char}
    (isPlain : IsToken plain.toList) (isInverted : IsToken inverted.toList)
    (isOther : IsNumberless other) (notPlain : other ≠ plain.toList)
    (notInverted : other ≠ inverted.toList)
    (succeeds : substituteAxis plain inverted value invertedValue text = .ok written) :
    other <:+: written ↔ other <:+: text := by
  unfold substituteAxis at succeeds
  split at succeeds
  · cases succeeds
    refine infix_substitute_iff isPlain isOther.1 notPlain Nat.toDigits_ne_nil ?_
    intro char member digit
    have notDigit := (isOther.2 char member).1
    rw [isDigit_of_mem_decimal digit] at notDigit
    cases notDigit
  · split at succeeds
    · cases invertedValue with
      | error error => cases succeeds
      | ok number =>
          cases succeeds
          refine infix_substitute_iff isInverted isOther.1 notInverted (signedDecimal_ne_nil number)
            fun char member digit => ?_
          obtain ⟨notDigit, notSign⟩ := isOther.2 char member
          rcases of_mem_signedDecimal digit with isDigit | isSign
          · rw [isDigit] at notDigit
            cases notDigit
          · exact notSign isSign
    · cases succeeds
      rfl

theorem isToken_column : IsToken "\x7bx\x7d".toList := ⟨['x'], rfl, by decide, by decide⟩

theorem isToken_invertedColumn : IsToken "\x7binv_x\x7d".toList :=
  ⟨['i', 'n', 'v', '_', 'x'], rfl, by decide, by decide⟩

theorem isNumberless_row : IsNumberless "\x7by\x7d".toList := by
  refine ⟨⟨['y'], rfl, by decide, by decide⟩, ?_⟩
  show ∀ char ∈ ['\x7b', 'y', '\x7d'], char.isDigit = false ∧ char ≠ '-'
  simp

theorem isNumberless_invertedRow : IsNumberless "\x7binv_y\x7d".toList := by
  refine ⟨⟨['i', 'n', 'v', '_', 'y'], rfl, by decide, by decide⟩, ?_⟩
  show ∀ char ∈ ['\x7b', 'i', 'n', 'v', '_', 'y', '\x7d'], char.isDigit = false ∧ char ≠ '-'
  simp

/-- Writing a column leaves the tokens of the rows where they are. -/
theorem inverts_rows_iff {columns text : List Char} {column : Nat}
    {invertedColumn : Except Error Int}
    (written : substituteAxis "\x7bx\x7d" "\x7binv_x\x7d" column invertedColumn text =
      .ok columns) :
    Inverts "\x7by\x7d" "\x7binv_y\x7d" columns ↔
      Inverts "\x7by\x7d" "\x7binv_y\x7d" text := by
  unfold Inverts
  rw [infix_iff_of_substituteAxis isToken_column isToken_invertedColumn isNumberless_row
      (by simp) (by simp) written,
    infix_iff_of_substituteAxis isToken_column isToken_invertedColumn isNumberless_invertedRow
      (by simp) (by simp) written]

variable {α : Type} [Scalar α] {tile : TileCoordinate} {pyramid : Pyramid α} {error : Error}

theorem levelSize_eq_error_iff : levelSize tile pyramid = .error error ↔
    pyramid.levelSize? tile.z = none ∧ error = .config (.levelOutsideGrid tile.z pyramid.name) := by
  unfold levelSize
  cases pyramid.levelSize? tile.z with
  | none => simp [eq_comm]
  | some size => simp

theorem templateKey_eq_error_iff {template extension : String} :
    templateKey template tile pyramid extension = .error error ↔
      AsksForLevel (withNames template tile extension) ∧ levelSize tile pyramid = .error error := by
  change substituteAxis _ _ _ _ (withNames template tile extension) >>= _ = _ ↔ _
  rw [bind_eq_error_iff, substituteAxis_eq_error_iff, map_eq_error_iff]
  constructor
  · rintro (⟨column, missing⟩ | ⟨columns, written, failed⟩)
    · exact ⟨.inl column, missing⟩
    · rw [bind_eq_error_iff, substituteAxis_eq_error_iff, map_eq_error_iff] at failed
      rcases failed with ⟨row, missing⟩ | ⟨rows, -, failed⟩
      · exact ⟨.inr ((inverts_rows_iff written).mp row), missing⟩
      · -- the level itself is always known
        rw [bind_eq_error_iff, substituteAxis_eq_error_iff] at failed
        rcases failed with ⟨-, absurd⟩ | ⟨_, -, absurd⟩ <;> cases absurd
  · rintro ⟨column | row, missing⟩
    · exact .inl ⟨column, missing⟩
    · refine or_iff_not_imp_left.mpr fun noColumn => ?_
      cases written : substituteAxis "\x7bx\x7d" "\x7binv_x\x7d" tile.x
          ((levelSize tile pyramid).map fun size => (size.1 : Int) - tile.x - 1)
          (withNames template tile extension) with
      | error other =>
          obtain ⟨column, otherMissing⟩ := substituteAxis_eq_error_iff.mp written
          rw [map_eq_error_iff] at otherMissing
          exact absurd ⟨column, missing⟩ noColumn
      | ok columns =>
          refine ⟨columns, rfl, bind_eq_error_iff.mpr (.inl ?_)⟩
          exact substituteAxis_eq_error_iff.mpr
            ⟨(inverts_rows_iff written).mpr row, map_eq_error_iff.mpr missing⟩

/-- A key fails only for an inverted column or row at a level that the pyramid
does not have. -/
theorem key_eq_error_iff {layout : KeyLayout} {extension : Option String} :
    layout.key tile pyramid extension = .error error ↔
      ∃ template, layout = .template template ∧
        AsksForLevel (withNames template tile (extension.getD plainExtension)) ∧
          pyramid.levelSize? tile.z = none ∧
            error = .config (.levelOutsideGrid tile.z pyramid.name) := by
  cases layout with
  | tileCache base => exact iff_of_false nofun fun ⟨_, other, _⟩ => nomatch other
  | arcGis base => exact iff_of_false nofun fun ⟨_, other, _⟩ => nomatch other
  | template text =>
      change (templateKey text tile pyramid _).map String.ofList = .error error ↔ _
      simp only [template.injEq, exists_eq_left', ← levelSize_eq_error_iff,
        ← templateKey_eq_error_iff]
      cases templateKey text tile pyramid (extension.getD plainExtension) <;> simp [Except.map]

theorem exists_key (layout : KeyLayout) {size : Nat × Nat}
    (level : pyramid.levelSize? tile.z = some size) (extension : Option String) :
    ∃ key, layout.key tile pyramid extension = .ok key := by
  cases made : layout.key tile pyramid extension with
  | ok key => exact ⟨key, rfl⟩
  | error error =>
      obtain ⟨_, _, _, missing, _⟩ := key_eq_error_iff.mp made
      exact absurd (level.symm.trans missing) nofun

end KeyLayout

end TileAtlas
